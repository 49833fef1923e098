import SnippetCoach.Proofs.Json.RoundTrip
import SnippetCoach.Progress.Ledger
/-! Records: a ledger whose counters can be written is read back from its record. -/
namespace SnippetCoach
open Number

theorem Entry.ofJson?_toJson (entry : Entry) : ofJson? entry.toJson = .ok entry := by
  rfl

theorem Entry.readable_toJson {entry : Entry} (h : entry.isWritable = true) {levels : Nat} :
    Json.Readable (fun _ => True) (levels + 1) entry.toJson := by
  obtain ⟨hencountered, hresolved⟩ := Bool.and_eq_true_iff.mp h
  have hnames : ([("encountered" : String), ("resolved" : String)] : List WideText).Nodup := by
    decide
  refine .obj hnames (fun _ _ => trivial) (List.forall_mem_cons.mpr ⟨.int hencountered, ?_⟩)
  exact List.forall_mem_singleton.mpr (.int hresolved)

theorem Entry.isWritable_of_lt {entry : Entry} (hencountered : entry.encountered.natAbs < 10)
    (hresolved : entry.resolved.natAbs < 10) : entry.isWritable = true := by
  rw [isWritable, Bool.and_eq_true_iff]
  exact ⟨fitsDigitLimit_of_lt hencountered, fitsDigitLimit_of_lt hresolved⟩

/-- Resolving never makes a counter longer than the longer one is. -/
theorem Entry.isWritable_resolve {entry : Entry} (h : entry.isWritable = true)
    (hcapped : entry.resolved ≤ entry.encountered) (count : Int) :
    (entry.resolve count).isWritable = true := by
  rw [isWritable, Bool.and_eq_true_iff, fitsDigitLimit_iff, fitsDigitLimit_iff] at h ⊢
  obtain ⟨hencountered, hresolved⟩ := h
  refine ⟨hencountered, Nat.lt_of_le_of_lt ?_ (Nat.max_lt.mpr ⟨hencountered, hresolved⟩)⟩
  simp only [resolve]
  omega

namespace Ledger

variable {ledger : Ledger}

def Writable (ledger : Ledger) : Prop :=
  ∀ entry ∈ ledger.entries, entry.2.isWritable = true

theorem record?_of_writable (h : ledger.Writable) : ledger.record? = .ok ledger.record := by
  rw [record?, if_pos (List.all_eq_true.mpr h)]

theorem record?_of_not_writable (h : ¬ledger.Writable) :
    ledger.record? = .error .integerTooLong := by
  rw [record?, if_neg (fun hall => h (List.all_eq_true.mp hall))]

theorem writable_of_record? {text : String} (h : ledger.record? = .ok text) :
    ledger.Writable ∧ text = ledger.record := by
  by_cases hwritable : ledger.Writable
  · rw [record?_of_writable hwritable] at h
    exact ⟨hwritable, (Except.ok.inj h).symm⟩
  · rw [record?_of_not_writable hwritable] at h
    exact nomatch h

theorem Writable.resolve (h : ledger.Writable) {type : WideText} {entry : Entry}
    (hget : ledger.get? type = some entry) (hcapped : entry.resolved ≤ entry.encountered)
    (count : Int) : Writable (OrderedMap.set ledger type (entry.resolve count)) := by
  have hentry := h _ (OrderedMap.mem_entries_of_get? hget)
  intro other hother
  rcases OrderedMap.mem_entries_set hother with rfl | hold
  · exact Entry.isWritable_resolve hentry hcapped count
  · exact h other hold

/-- The ledger that is read from its record. Of the types that get one name the last counts. -/
def paired (ledger : Ledger) : Ledger :=
  OrderedMap.ofList (ledger.entries.map fun entry => (Json.pairText entry.1, entry.2))

theorem toJson_paired (ledger : Ledger) : Json.paired ledger.toJson = ledger.paired.toJson := by
  have hfields : Json.pairedFields (ledger.entries.map fun entry => (entry.1, entry.2.toJson)) =
      ledger.entries.map fun entry => (Json.pairText entry.1, entry.2.toJson) := by
    rw [Json.pairedFields_eq_map, List.map_map]
    rfl
  have hvalues := OrderedMap.mapValues_ofList Entry.toJson
    (ledger.entries.map fun entry => (Json.pairText entry.1, entry.2))
  rw [List.map_map] at hvalues
  rw [toJson, Json.ofMap, OrderedMap.mapValues, Json.paired, hfields, toJson, paired, hvalues]
  rfl

theorem Writable.paired (h : ledger.Writable) : ledger.paired.Writable := by
  intro entry hentry
  obtain ⟨old, hold, rfl⟩ := List.mem_map.mp (OrderedMap.mem_entries_ofList hentry)
  exact h old hold

/-- Issue types keep their entries: no other name is read as one of theirs. -/
theorem get?_paired_tag (ledger : Ledger) (type : IssueType) :
    ledger.paired.get? type.tag = ledger.get? type.tag := by
  have hall : type.tag.toList.all (·.toNat < 0x10000) = true := by
    cases type <;> rfl
  have hplane : ∀ c ∈ type.tag.toList, c.toNat < 0x10000 := fun c hc =>
    of_decide_eq_true (List.all_eq_true.mp hall c hc)
  have htag : Json.pairText type.tag = type.tag :=
    Json.pairText_of_joined (WideText.joined_ofString type.tag)
  have hget := OrderedMap.get?_ofList_rename Json.pairText (type.tag : WideText) ledger
    fun entry _ hsame => Json.eq_of_pairText_eq hplane (hsame.trans htag)
  rwa [htag] at hget

/-- Names are read as they are written. -/
def Joined (ledger : Ledger) : Prop :=
  ∀ entry ∈ ledger.entries, entry.1.Joined

theorem paired_of_joined (h : ledger.Joined) : ledger.paired = ledger := by
  have hentries : (ledger.entries.map fun entry => (Json.pairText entry.1, entry.2)) =
      ledger.entries := by
    refine (List.map_congr_left fun entry hentry => ?_).trans (List.map_id' _)
    rw [Json.pairText_of_joined (h entry hentry)]
  rw [paired, hentries, OrderedMap.ofList_entries]

theorem joined_empty : Joined ∅ :=
  fun _ hentry => absurd hentry List.not_mem_nil

theorem Joined.set (h : ledger.Joined) {name : WideText} (hname : name.Joined) (entry : Entry) :
    Joined (OrderedMap.set ledger name entry) := by
  intro other hother
  rcases OrderedMap.mem_entries_set hother with rfl | hold
  · exact hname
  · exact h other hold

theorem Joined.encounterAll (h : ledger.Joined) (types : List IssueType) :
    (ledger.encounterAll types).Joined := by
  induction types generalizing ledger with
  | nil => exact h
  | cons type types ih => exact ih (h.set (WideText.joined_ofString type.tag) _)

theorem Joined.resolve (h : ledger.Joined) {type : WideText} {entry : Entry}
    (hget : ledger.get? type = some entry) (count : Int) :
    Joined (OrderedMap.set ledger type (entry.resolve count)) :=
  h.set (h _ (OrderedMap.mem_entries_of_get? hget)) _

theorem readable_toJson (h : ledger.Writable) {levels : Nat} :
    Json.Readable (fun _ => True) (levels + 2) ledger.toJson := by
  refine .obj (ledger.mapValues Entry.toJson).distinct (fun _ _ => trivial) fun field hfield => ?_
  obtain ⟨entry, hentry, rfl⟩ := List.mem_map.mp hfield
  exact Entry.readable_toJson (h entry hentry)

theorem ofEntries?_toJson (entries : List (WideText × Entry)) :
    ofEntries? (entries.map fun entry => (entry.1, entry.2.toJson)) = .ok entries := by
  induction entries with
  | nil => rfl
  | cons entry rest ih =>
      rw [List.map_cons, ofEntries?, Entry.ofJson?_toJson, ih]
      rfl

theorem ofJson?_toJson (ledger : Ledger) : ofJson? ledger.toJson = .ok ledger := by
  have hentries := ofEntries?_toJson ledger.entries
  simp only [ofJson?, toJson, Json.ofMap, OrderedMap.mapValues, hentries, Except.mapError, bind,
    Except.bind, pure, Except.pure, OrderedMap.ofList_entries]

theorem ofRecord?_record_paired [Machine] (h : ledger.Writable) :
    ofRecord? (.str ledger.record) = .ok ledger.paired := by
  obtain ⟨levels, hlevels⟩ := Nat.exists_eq_add_of_le' Machine.two_le_recordDepth
  have hreadable : Json.Readable (fun _ => True) Machine.recordDepth ledger.toJson :=
    hlevels ▸ readable_toJson h
  have hread : Json.read Machine.recordDepth (WideText.ofString ledger.record).points =
      .ok ledger.paired.toJson :=
    (Json.read_compactText_paired hreadable).trans (congrArg _ ledger.toJson_paired)
  simp only [ofRecord?, hread, Except.mapError, bind, Except.bind, ofJson?_toJson]

theorem ofRecord?_record [Machine] (h : ledger.Writable) (hjoined : ledger.Joined) :
    ofRecord? (.str ledger.record) = .ok ledger := by
  rw [ofRecord?_record_paired h, paired_of_joined hjoined]

/-- A ledger with so many encounters of one type and none resolved. -/
def unresolved (name : WideText) (count : Nat) : Ledger :=
  OrderedMap.set ∅ name { encountered := count, resolved := 0 }

theorem writable_unresolved {name : WideText} {count : Nat} :
    (unresolved name count).Writable ↔ count < 10 ^ digitLimit := by
  have hzero : fitsDigitLimit 0 = true := fitsDigitLimit_of_lt (by decide)
  have hentry : Entry.isWritable { encountered := count, resolved := 0 } = true ↔
      count < 10 ^ digitLimit := by
    rw [Entry.isWritable, Bool.and_eq_true_iff, and_iff_left hzero, fitsDigitLimit_iff,
      Int.natAbs_natCast]
  exact List.forall_mem_singleton.trans hentry

theorem writable_unresolved_one {name : WideText} : (unresolved name 1).Writable :=
  writable_unresolved.mpr (Nat.one_lt_pow (by decide) (by decide))

/-- The most encounters that can be written down. -/
theorem exists_last_writable (name : WideText) :
    ∃ count, (unresolved name count).Writable ∧ ¬(unresolved name (count + 1)).Writable := by
  have hlimit : 10 ^ digitLimit - 1 + 1 = 10 ^ digitLimit :=
    Nat.sub_add_cancel (Nat.pow_pos (by decide))
  refine ⟨10 ^ digitLimit - 1, ?_, ?_⟩
  · rw [writable_unresolved]
    exact Nat.sub_one_lt_of_lt (Nat.pow_pos (by decide))
  · rw [writable_unresolved, hlimit]
    exact Nat.lt_irrefl _

/-- One encounter more than can be written down. -/
theorem exists_not_writable_succ (name : WideText) :
    ∃ count, ¬(unresolved name (count + 1)).Writable := by
  obtain ⟨count, -, hlong⟩ := exists_last_writable name
  exact ⟨count, hlong⟩

theorem encounterAll_unresolved (count : Nat) :
    (unresolved ("success" : String) count).encounterAll [.success] =
      unresolved ("success" : String) (count + 1) := rfl

end Ledger
end SnippetCoach
