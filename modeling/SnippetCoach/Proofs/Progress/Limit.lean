import SnippetCoach.Proofs.Progress.Decode
import SnippetCoach.Proofs.Progress.Record
/-! The limit of digits in records: what is read from a record can be written again. -/
namespace SnippetCoach
open Number

namespace Number

theorem mem_removeSeparators? {afterDigit : Bool} {text digits : List Char}
    (h : removeSeparators? afterDigit text = some digits) {c : Char} (hc : c ∈ digits) :
    c ∈ text ∧ c ≠ '_' := by
  fun_induction removeSeparators? afterDigit text generalizing digits with
  | case1 =>
      obtain rfl := Option.some.inj h
      exact absurd hc List.not_mem_nil
  | case2 afterDigit digit rest hdigit ih =>
      obtain ⟨others, hothers, rfl⟩ := Option.map_eq_some_iff.mp h
      rcases List.mem_cons.mp hc with rfl | hmem
      · refine ⟨List.mem_cons_of_mem _ List.mem_cons_self, ?_⟩
        rintro rfl
        cases (Bool.and_eq_true_iff.mp hdigit).2
      · obtain ⟨hrest, hplain⟩ := ih hothers hmem
        exact ⟨List.mem_cons_of_mem _ (List.mem_cons_of_mem _ hrest), hplain⟩
  | case3 => cases h
  | case4 => cases h
  | case5 afterDigit first rest hsplit hplain ih =>
      obtain ⟨others, hothers, rfl⟩ := Option.map_eq_some_iff.mp h
      rcases List.mem_cons.mp hc with rfl | hmem
      · exact ⟨List.mem_cons_self, hplain⟩
      · obtain ⟨hrest, hother⟩ := ih hothers hmem
        exact ⟨List.mem_cons_of_mem _ hrest, hother⟩

theorem fitsDigitLimit_readInt {text : List Char} {n : Int} (h : readInt text = .ok n) :
    fitsDigitLimit n = true := by
  rw [readInt.eq_def] at h
  obtain ⟨negative, body⟩ := splitSign (plainNumeral text)
  dsimp only at h
  split at h
  · cases h
  · rename_i digits hdigits
    -- what is left without separators is what the limit was checked for
    have hall : ∀ c ∈ digits, c.isDigit = true := by
      intro c hc
      obtain ⟨hmem, hplain⟩ := mem_removeSeparators? hdigits hc
      have heither : (c.isDigit || c == '_') = true :=
        List.all_eq_true.mp List.all_takeWhile c hmem
      rcases Bool.or_eq_true_iff.mp heither with hdigit | hseparator
      · exact hdigit
      · exact absurd (beq_iff_eq.mp hseparator) hplain
    split at h
    · cases h
    · rename_i hlimit
      split at h
      · cases h
      · obtain rfl := Except.ok.inj h
        rw [fitsDigitLimit_iff, Json.natAbs_signed]
        exact Nat.lt_of_lt_of_le (digitsValue_lt hall)
          (Nat.pow_le_pow_right (by decide) (Nat.not_lt.mp hlimit))

/-- The greatest number of the format has far fewer digits than the limit. -/
theorem fitsDigitLimit_truncate {x : Binary64} (hx : x.IsCanonical) {n : Int}
    (h : x.truncate = .ok n) : fitsDigitLimit n = true := by
  cases x with
  | nan => cases h
  | infinite negative => cases h
  | finite negative significand exponent =>
      obtain ⟨hsignificand, -, hgreatest, -⟩ := hx
      obtain rfl := Except.ok.inj h
      have hexponent : exponent.toNat ≤ 971 := Int.toNat_le.mpr hgreatest
      rw [fitsDigitLimit_iff, Json.natAbs_signed]
      calc Binary64.powerNum significand exponent / Binary64.powerDen exponent
          ≤ significand * 2 ^ exponent.toNat := Nat.div_le_self _ _
        _ < 2 ^ 53 * 2 ^ exponent.toNat :=
          Nat.mul_lt_mul_of_pos_right hsignificand (Nat.pow_pos (by decide))
        _ = 2 ^ (53 + exponent.toNat) := (Nat.pow_add 2 53 _).symm
        _ ≤ 10 ^ (53 + exponent.toNat) := Nat.pow_le_pow_left (by decide) _
        _ ≤ 10 ^ digitLimit := Nat.pow_le_pow_right (by decide) (by rw [digitLimit]; omega)

end Number

section Readable

variable {Allowed : WideText → Prop} {levels : Nat}

theorem Json.Readable.fits_toCounter? {value : WideJson} (hvalue : Readable Allowed levels value)
    {n : Int} (h : value.toCounter? = .ok n) : fitsDigitLimit n = true := by
  cases hvalue with
  | null => cases h
  | bool b =>
      obtain rfl := Except.ok.inj h
      refine fitsDigitLimit_of_lt ?_
      cases b <;> decide
  | int limit => exact Except.ok.inj h ▸ limit
  | float canonical => exact fitsDigitLimit_truncate canonical (mapError_eq_ok_iff.mp h)
  | str s => exact fitsDigitLimit_readInt (mapError_eq_ok_iff.mp h)
  | arr readable => cases h
  | obj distinct readable => cases h

theorem Json.Readable.fits_counter {fields : List (WideText × WideJson)}
    (hfields : ∀ field ∈ fields, Readable Allowed levels field.2) {name : WideText} {n : Int}
    (h : (counter fields name).toCounter? = .ok n) : fitsDigitLimit n = true := by
  rw [counter] at h
  cases hlookup : fields.lookup name with
  | none =>
      rw [hlookup] at h
      have hzero : Readable Allowed 0 (.int 0) := .int (fitsDigitLimit_of_lt (by decide))
      exact hzero.fits_toCounter? h
  | some value =>
      rw [hlookup] at h
      obtain ⟨before, after, heq, -⟩ := List.lookup_eq_some_iff.mp hlookup
      have hmem : (name, value) ∈ fields := heq ▸ List.mem_append_right before List.mem_cons_self
      exact (hfields _ hmem).fits_toCounter? h

theorem Entry.isWritable_of_ofJson? {document : WideJson}
    (hdocument : Json.Readable Allowed levels document) {entry : Entry}
    (h : ofJson? document = .ok entry) : entry.isWritable = true := by
  cases document with
  | obj fields =>
      cases hdocument with
      | obj _ _ readable =>
          rw [ofJson?_obj] at h
          obtain ⟨encountered, hencountered, h⟩ := bind_eq_ok_iff.mp h
          obtain ⟨resolved, hresolved, h⟩ := bind_eq_ok_iff.mp h
          obtain rfl := Except.ok.inj h
          rw [isWritable, Bool.and_eq_true_iff]
          exact ⟨Json.Readable.fits_counter readable hencountered,
            Json.Readable.fits_counter readable hresolved⟩
  | null | bool | int | float | str | arr => cases h

theorem Ledger.isWritable_of_mem_ofEntries? {fields : List (WideText × WideJson)}
    (hfields : ∀ field ∈ fields, Json.Readable Allowed levels field.2)
    {entries : List (WideText × Entry)}
    (h : ofEntries? fields = .ok entries) : ∀ entry ∈ entries, entry.2.isWritable = true := by
  induction fields generalizing entries with
  | nil =>
      obtain rfl := Except.ok.inj h
      exact List.forall_mem_nil _
  | cons field rest ih =>
      obtain ⟨hfirst, hrest⟩ := List.forall_mem_cons.mp hfields
      rw [ofEntries?_cons] at h
      obtain ⟨entry, hentry, h⟩ := bind_eq_ok_iff.mp h
      obtain ⟨others, hothers, h⟩ := bind_eq_ok_iff.mp h
      obtain rfl := Except.ok.inj h
      exact List.forall_mem_cons.mpr ⟨Entry.isWritable_of_ofJson? hfirst hentry, ih hrest hothers⟩

end Readable

namespace Ledger

/-- Whatever could be read can be written. -/
theorem writable_of_ofRecord? [Machine] {stored : WideJson} {ledger : Ledger}
    (h : ofRecord? stored = .ok ledger) : ledger.Writable := by
  cases stored with
  | str text =>
      rw [ofRecord?_str] at h
      obtain ⟨document, hread, h⟩ := bind_eq_ok_iff.mp h
      have hreadable := Json.admits_any.readable_of_read trivial (mapError_eq_ok_iff.mp hread)
      cases document with
      | obj fields =>
          generalize (Machine.recordDepth : Nat) = levels at hreadable
          cases hreadable with
          | obj _ _ readable =>
              rw [ofJson?_obj] at h
              obtain ⟨entries, hentries, h⟩ := bind_eq_ok_iff.mp h
              obtain rfl := Except.ok.inj h
              have hall := isWritable_of_mem_ofEntries? readable (mapError_eq_ok_iff.mp hentries)
              intro entry hentry
              exact hall entry (OrderedMap.mem_entries_ofList hentry)
      | null | bool | int | float | str | arr => cases h
  | null | bool | int | float | arr | obj => cases h

end Ledger
end SnippetCoach
