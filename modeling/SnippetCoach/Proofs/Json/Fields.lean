import SnippetCoach.Proofs.Json.RoundTrip
/-! Documents with strings for their texts, and objects without the fields that have no value. -/
namespace SnippetCoach.Json
open Number

theorem beq_null_iff {value : Json} : (value == .null) = true ↔ value = .null := by
  constructor
  · intro h
    cases value with
    | null => rfl
    | bool | int | float | str | arr | obj => cases h
  · rintro rfl
    rfl

variable {fields : List (String × Option Json)}

theorem mem_of_mem_ofFields {field : String × Json}
    (h : field ∈ fields.filterMap fun (name, value) => value.map (name, ·)) :
    (field.1, some field.2) ∈ fields := by
  obtain ⟨⟨name, value⟩, hmem, hvalue⟩ := List.mem_filterMap.mp h
  obtain ⟨value, rfl, rfl⟩ := Option.map_eq_some_iff.mp hvalue
  exact hmem

/-- A field without a value is as good as absent. -/
theorem field?_ofFields (distinct : (fields.map Prod.fst).Nodup) (name : String) :
    (ofFields fields).field? name = (fields.lookup name).join := by
  induction fields with
  | nil => rfl
  | cons entry fields ih =>
      obtain ⟨key, value⟩ := entry
      obtain ⟨hkey, hrest⟩ := List.nodup_cons.mp distinct
      have htail := ih hrest
      rw [lookup_cons_eq_ite]
      cases value with
      | none =>
          have hdropped : ofFields ((key, none) :: fields) = ofFields fields := rfl
          rw [hdropped, htail]
          by_cases hname : name = key
          · subst hname
            rw [if_pos rfl, lookup_eq_none_of_notMem hkey]
            rfl
          · rw [if_neg hname]
      | some value =>
          have hkept : (ofFields ((key, some value) :: fields)).field? name =
              if name = key then some value else (ofFields fields).field? name :=
            lookup_cons_eq_ite name (key, value) _
          rw [hkept, htail]
          split <;> rfl

section Wide

theorem wideItems_eq_map (items : List Json) : wideItems items = items.map wide := by
  induction items with
  | nil => rfl
  | cons item rest ih => rw [wideItems, ih, List.map_cons]

theorem wideFields_eq_map (fields : List (String × Json)) :
    wideFields fields = fields.map fun field => (WideText.ofString field.1, field.2.wide) := by
  induction fields with
  | nil => rfl
  | cons field rest ih => rw [wideFields, ih, List.map_cons]

/-- What can stand in a text that so many open containers are allowed for. All names and texts are
strings, so that none of them has halves. -/
def Stands (levels : Nat) (value : Json) : Prop :=
  Readable WideText.Joined levels value.wide

namespace Stands

variable {levels : Nat}

theorem null : Stands levels .null :=
  Readable.null

theorem str (text : String) : Stands levels (.str text) :=
  Readable.str (WideText.joined_ofString text)

theorem int {n : Int} (limit : fitsDigitLimit n = true) : Stands levels (.int n) :=
  Readable.int limit

theorem arr {items : List Json} (h : ∀ item ∈ items, Stands levels item) :
    Stands (levels + 1) (.arr items) := by
  rw [Stands, wide, wideItems_eq_map]
  exact Readable.arr (List.forall_mem_map.mpr h)

theorem obj {fields : List (String × Json)} (distinct : (fields.map Prod.fst).Nodup)
    (h : ∀ field ∈ fields, Stands levels field.2) : Stands (levels + 1) (.obj fields) := by
  have hnames : ((wideFields fields).map Prod.fst).Nodup := by
    have hwide : (wideFields fields).map Prod.fst =
        (fields.map Prod.fst).map WideText.ofString := by
      rw [wideFields_eq_map, List.map_map, List.map_map]
      rfl
    rw [hwide]
    exact distinct.map WideText.ofString_injective
  rw [Stands, wide]
  refine Readable.obj hnames ?_ ?_
  · rw [wideFields_eq_map, List.forall_mem_map]
    exact fun field _ => WideText.joined_ofString field.1
  · rw [wideFields_eq_map, List.forall_mem_map]
    exact h

theorem ofFields {fields : List (String × Option Json)} (distinct : (fields.map Prod.fst).Nodup)
    (h : ∀ name value, (name, some value) ∈ fields → Stands levels value) :
    Stands (levels + 1) (Json.ofFields fields) := by
  refine obj ?_ ?_
  · refine List.pairwise_map.mpr ((List.pairwise_map.mp distinct).filterMap _ ?_)
    rintro entry other hne field hfield after hafter
    obtain ⟨_, -, rfl⟩ := Option.map_eq_some_iff.mp hfield
    obtain ⟨_, -, rfl⟩ := Option.map_eq_some_iff.mp hafter
    exact hne
  · intro field hfield
    exact h field.1 field.2 (mem_of_mem_ofFields hfield)

theorem read_compactText {value : Json} (h : Stands levels value) :
    read levels (codePoints value.wide.compactText.toList) = .ok value.wide :=
  Json.read_compactText h

theorem read_indentedText {value : Json} (h : Stands levels value) :
    read levels (codePoints value.wide.indentedText.toList) = .ok value.wide :=
  Json.read_indentedText h

end Stands

end Wide

end SnippetCoach.Json
