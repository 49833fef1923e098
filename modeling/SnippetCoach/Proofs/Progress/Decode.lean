import SnippetCoach.Progress.Ledger
import SnippetCoach.Proofs.Outcome
/-! Which stored values are records, and at which of the others the reading breaks off: at a text
with too many containers within each other, and at an object with an infinite counter before any
other fault. -/
namespace SnippetCoach

namespace Json

/-- The value of a counter in an entry; an absent one is zero. -/
def counter (fields : List (WideText × WideJson)) (name : WideText) : WideJson :=
  (fields.lookup name).getD (.int 0)

def IsCount (value : WideJson) : Prop :=
  ∃ n, value.toCounter? = .ok n

def IsInfinite (value : WideJson) : Prop :=
  ∃ negative, value = .float (.infinite negative)

/-- An object with two counters that stand for whole numbers. -/
def IsEntry (document : WideJson) : Prop :=
  ∃ fields, document = .obj fields ∧
    (counter fields "encountered").IsCount ∧ (counter fields "resolved").IsCount

/-- An object whose first counter that is no whole number is infinite. -/
def IsBoundless (document : WideJson) : Prop :=
  ∃ fields, document = .obj fields ∧
    ((counter fields "encountered").IsInfinite ∨
      (counter fields "encountered").IsCount ∧ (counter fields "resolved").IsInfinite)

def IsRecord [Machine] (text : WideText) : Prop :=
  ∃ fields, read Machine.recordDepth text.points = .ok (.obj fields) ∧
    ∀ field ∈ fields, field.2.IsEntry

/-- The text has too many containers within each other, or it is an object of entries up to one
that is boundless. -/
def BreaksOff [Machine] (text : WideText) : Prop :=
  (∃ container, read Machine.recordDepth text.points = .error (.tooDeep container)) ∨
    ∃ before field after,
      read Machine.recordDepth text.points = .ok (.obj (before ++ field :: after)) ∧
      (∀ earlier ∈ before, earlier.2.IsEntry) ∧ field.2.IsBoundless

theorem toCounter?_infinity_iff {value : WideJson} :
    value.toCounter? = .error (.arithmetic .infinityToInteger) ↔ value.IsInfinite := by
  constructor
  · intro h
    cases value with
    | float x =>
        obtain ⟨e, htruncate, he⟩ := mapError_eq_error_iff.mp h
        cases x with
        | infinite negative => exact ⟨negative, rfl⟩
        | nan =>
            obtain rfl := Except.error.inj htruncate
            exact nomatch he
        | finite negative s e => exact nomatch htruncate
    | str text =>
        obtain ⟨e, -, he⟩ := mapError_eq_error_iff.mp h
        exact nomatch he
    | null | bool | int | arr | obj => exact nomatch h
  · rintro ⟨negative, rfl⟩
    rfl

end Json

open Json

/-- Reading breaks off with this error at an infinite counter. -/
def infiniteCounter : EntryError := .arithmetic .infinityToInteger

namespace Entry

theorem ofJson?_obj (fields : List (WideText × WideJson)) :
    ofJson? (.obj fields) =
      (counter fields "encountered").toCounter? >>= fun encountered =>
        (counter fields "resolved").toCounter? >>= fun resolved => pure { encountered, resolved } :=
  rfl

theorem ofJson?_ok_iff {document : WideJson} :
    (∃ entry, ofJson? document = .ok entry) ↔ document.IsEntry := by
  constructor
  · rintro ⟨entry, h⟩
    cases document with
    | obj fields =>
        rw [ofJson?_obj] at h
        obtain ⟨encountered, hencountered, h⟩ := bind_eq_ok_iff.mp h
        obtain ⟨resolved, hresolved, -⟩ := bind_eq_ok_iff.mp h
        exact ⟨fields, rfl, ⟨encountered, hencountered⟩, ⟨resolved, hresolved⟩⟩
    | null | bool | int | float | str | arr => exact nomatch h
  · rintro ⟨fields, rfl, ⟨encountered, hencountered⟩, ⟨resolved, hresolved⟩⟩
    refine ⟨{ encountered, resolved }, ?_⟩
    rw [ofJson?_obj, hencountered, hresolved]
    rfl

theorem ofJson?_infinite_iff {document : WideJson} :
    ofJson? document = .error infiniteCounter ↔ document.IsBoundless := by
  constructor
  · intro h
    cases document with
    | obj fields =>
        rw [ofJson?_obj] at h
        refine ⟨fields, rfl, ?_⟩
        rcases bind_eq_error_iff.mp h with hencountered | ⟨encountered, hencountered, h⟩
        · exact .inl (toCounter?_infinity_iff.mp hencountered)
        · rcases bind_eq_error_iff.mp h with hresolved | ⟨resolved, -, h⟩
          · exact .inr ⟨⟨encountered, hencountered⟩, toCounter?_infinity_iff.mp hresolved⟩
          · exact nomatch h
    | null | bool | int | float | str | arr => exact nomatch h
  · rintro ⟨fields, rfl, hinfinite | ⟨⟨encountered, hencountered⟩, hinfinite⟩⟩
    · rw [ofJson?_obj, toCounter?_infinity_iff.mpr hinfinite]
      rfl
    · rw [ofJson?_obj, hencountered, toCounter?_infinity_iff.mpr hinfinite]
      rfl

end Entry

namespace Ledger

theorem ofEntries?_cons (field : WideText × WideJson) (rest : List (WideText × WideJson)) :
    ofEntries? (field :: rest) =
      Entry.ofJson? field.2 >>= fun entry =>
        ofEntries? rest >>= fun entries => pure ((field.1, entry) :: entries) :=
  rfl

theorem ofEntries?_ok_iff {fields : List (WideText × WideJson)} :
    (∃ entries, ofEntries? fields = .ok entries) ↔ ∀ field ∈ fields, field.2.IsEntry := by
  induction fields with
  | nil => exact ⟨fun _ _ hfield => absurd hfield List.not_mem_nil, fun _ => ⟨[], rfl⟩⟩
  | cons field rest ih =>
      rw [List.forall_mem_cons, ← ih, ← Entry.ofJson?_ok_iff]
      constructor
      · rintro ⟨entries, h⟩
        rw [ofEntries?_cons] at h
        obtain ⟨entry, hentry, h⟩ := bind_eq_ok_iff.mp h
        obtain ⟨others, hothers, -⟩ := bind_eq_ok_iff.mp h
        exact ⟨⟨entry, hentry⟩, ⟨others, hothers⟩⟩
      · rintro ⟨⟨entry, hentry⟩, ⟨others, hothers⟩⟩
        refine ⟨(field.1, entry) :: others, ?_⟩
        rw [ofEntries?_cons, hentry, hothers]
        rfl

/-- The first entry that cannot be read is the one that counts. -/
theorem ofEntries?_infinite_iff {fields : List (WideText × WideJson)} :
    ofEntries? fields = .error infiniteCounter ↔
      ∃ before field after, fields = before ++ field :: after ∧
        (∀ earlier ∈ before, earlier.2.IsEntry) ∧ field.2.IsBoundless := by
  induction fields with
  | nil =>
      constructor
      · exact fun h => nomatch h
      · rintro ⟨before, field, after, hnil, -⟩
        exact absurd hnil.symm (by simp)
  | cons field rest ih =>
      rw [ofEntries?_cons, bind_eq_error_iff, Entry.ofJson?_infinite_iff]
      constructor
      · rintro (hboundless | ⟨entry, hentry, h⟩)
        · exact ⟨[], field, rest, rfl, List.forall_mem_nil _, hboundless⟩
        · rcases bind_eq_error_iff.mp h with hrest | ⟨others, -, h⟩
          · obtain ⟨before, other, after, rfl, hbefore, hboundless⟩ := ih.mp hrest
            have hfield := Entry.ofJson?_ok_iff.mp ⟨entry, hentry⟩
            exact ⟨field :: before, other, after, rfl,
              List.forall_mem_cons.mpr ⟨hfield, hbefore⟩, hboundless⟩
          · exact nomatch h
      · rintro ⟨before, other, after, hsplit, hbefore, hboundless⟩
        cases before with
        | nil =>
            obtain ⟨rfl, rfl⟩ := List.cons.inj hsplit
            exact .inl hboundless
        | cons first before =>
            obtain ⟨rfl, rfl⟩ := List.cons.inj hsplit
            obtain ⟨hfirst, hbefore⟩ := List.forall_mem_cons.mp hbefore
            obtain ⟨entry, hentry⟩ := Entry.ofJson?_ok_iff.mpr hfirst
            have hrest := ih.mpr ⟨before, other, after, rfl, hbefore, hboundless⟩
            exact .inr ⟨entry, hentry, bind_eq_error_iff.mpr (.inl hrest)⟩

theorem ofJson?_obj (fields : List (WideText × WideJson)) :
    ofJson? (.obj fields) =
      (ofEntries? fields).mapError .entry >>= fun entries => pure (OrderedMap.ofList entries) :=
  rfl

theorem breaksOff_iff {cause : RecordError} :
    cause.breaksOff = true ↔
      (∃ container, cause = .document (.tooDeep container)) ∨ cause = .entry infiniteCounter := by
  constructor
  · intro h
    rw [RecordError.breaksOff.eq_def] at h
    split at h
    · exact .inl ⟨_, rfl⟩
    · exact .inr rfl
    · exact nomatch h
  · rintro (⟨container, rfl⟩ | rfl)
    · rfl
    · rfl

section Stored

variable [Machine]

theorem ofRecord?_str (text : WideText) :
    ofRecord? (.str text) =
      (Json.read Machine.recordDepth text.points).mapError .document >>= ofJson? :=
  rfl

theorem ofRecord?_of_read {text : WideText} {document : WideJson}
    (h : Json.read Machine.recordDepth text.points = .ok document) :
    ofRecord? (.str text) = ofJson? document := by
  rw [ofRecord?_str, h]
  rfl

theorem ofRecord?_ok_iff {stored : WideJson} :
    (∃ ledger, ofRecord? stored = .ok ledger) ↔ ∃ text, stored = .str text ∧ IsRecord text := by
  constructor
  · rintro ⟨ledger, h⟩
    cases stored with
    | str text =>
        rw [ofRecord?_str] at h
        obtain ⟨document, hread, h⟩ := bind_eq_ok_iff.mp h
        cases document with
        | obj fields =>
            rw [ofJson?_obj] at h
            obtain ⟨entries, hentries, -⟩ := bind_eq_ok_iff.mp h
            exact ⟨text, rfl, fields, mapError_eq_ok_iff.mp hread,
              ofEntries?_ok_iff.mp ⟨entries, mapError_eq_ok_iff.mp hentries⟩⟩
        | null | bool | int | float | str | arr => exact nomatch h
    | null | bool | int | float | arr | obj => exact nomatch h
  · rintro ⟨text, rfl, fields, hread, hfields⟩
    obtain ⟨entries, hentries⟩ := ofEntries?_ok_iff.mpr hfields
    refine ⟨OrderedMap.ofList entries, ?_⟩
    rw [ofRecord?_of_read hread, ofJson?_obj, hentries]
    rfl

theorem ofRecord?_breaksOff_iff {stored : WideJson} :
    (∃ cause, ofRecord? stored = .error cause ∧ cause.breaksOff = true) ↔
      ∃ text, stored = .str text ∧ BreaksOff text := by
  constructor
  · rintro ⟨cause, h, hbreaks⟩
    cases stored with
    | str text =>
        refine ⟨text, rfl, ?_⟩
        rw [ofRecord?_str] at h
        rcases bind_eq_error_iff.mp h with hread | ⟨document, hread, h⟩
        · obtain ⟨e, hfailed, rfl⟩ := mapError_eq_error_iff.mp hread
          rcases breaksOff_iff.mp hbreaks with ⟨container, heq⟩ | heq
          · exact .inl ⟨container, RecordError.document.inj heq ▸ hfailed⟩
          · exact nomatch heq
        · cases document with
          | obj fields =>
              rw [ofJson?_obj] at h
              rcases bind_eq_error_iff.mp h with hentries | ⟨entries, -, h⟩
              · obtain ⟨e, hfailed, rfl⟩ := mapError_eq_error_iff.mp hentries
                rcases breaksOff_iff.mp hbreaks with ⟨container, heq⟩ | heq
                · exact nomatch heq
                · obtain ⟨before, field, after, rfl, hboundless⟩ :=
                    ofEntries?_infinite_iff.mp (RecordError.entry.inj heq ▸ hfailed)
                  exact .inr ⟨before, field, after, mapError_eq_ok_iff.mp hread, hboundless⟩
              · exact nomatch h
          | null | bool | int | float | str | arr =>
              obtain rfl := Except.error.inj h
              exact nomatch hbreaks
    | null | bool | int | float | arr | obj =>
        obtain rfl := Except.error.inj h
        exact nomatch hbreaks
  · rintro ⟨text, rfl, ⟨container, hread⟩ | ⟨before, field, after, hread, hbefore, hboundless⟩⟩
    · refine ⟨.document (.tooDeep container), ?_, rfl⟩
      rw [ofRecord?_str, hread]
      rfl
    · have hentries := ofEntries?_infinite_iff.mpr ⟨before, field, after, rfl, hbefore, hboundless⟩
      refine ⟨.entry infiniteCounter, ?_, rfl⟩
      rw [ofRecord?_of_read hread, ofJson?_obj, hentries]
      rfl

end Stored

end Ledger
end SnippetCoach
