import SnippetCoach.OrderedMap
/-! Setting and looking up, and maps rebuilt from their entries. -/
namespace SnippetCoach

theorem lookup_cons_eq_ite {κ α : Type} [BEq κ] [LawfulBEq κ] [DecidableEq κ] (key : κ)
    (entry : κ × α) (rest : List (κ × α)) :
    (entry :: rest).lookup key = if key = entry.1 then some entry.2 else rest.lookup key := by
  by_cases h : key = entry.1
  · rw [List.lookup_cons, if_pos h, beq_iff_eq.mpr h]
  · rw [List.lookup_cons, if_neg h, beq_eq_false_iff_ne.mpr h]

section Entries

variable {α κ : Type} [DecidableEq κ] {key other : κ} {value : α}

theorem lookup_putEntry (key other : κ) (value : α) (entries : List (κ × α)) :
    (putEntry key value entries).lookup other =
      if other = key then some value else entries.lookup other := by
  induction entries with
  | nil => exact lookup_cons_eq_ite other (key, value) []
  | cons entry rest ih =>
      rw [putEntry]
      split
      · rename_i hentry
        rw [lookup_cons_eq_ite, lookup_cons_eq_ite, hentry]
        split <;> rfl
      · rename_i hentry
        rw [lookup_cons_eq_ite, lookup_cons_eq_ite, ih]
        by_cases h : other = entry.1
        · rw [if_pos h, if_pos h, if_neg (h ▸ hentry)]
        · rw [if_neg h, if_neg h]

theorem mem_putEntry {entry : κ × α} {entries : List (κ × α)}
    (h : entry ∈ putEntry key value entries) : entry = (key, value) ∨ entry ∈ entries := by
  induction entries with
  | nil => exact .inl (List.mem_singleton.mp h)
  | cons head rest ih =>
      rw [putEntry] at h
      split at h
      · rcases List.mem_cons.mp h with heq | hrest
        · exact .inl heq
        · exact .inr (List.mem_cons_of_mem head hrest)
      · rcases List.mem_cons.mp h with heq | hrest
        · exact .inr (heq ▸ List.mem_cons_self)
        · exact (ih hrest).imp id (List.mem_cons_of_mem head)

/-- A new key goes to the end. -/
theorem putEntry_of_notMem {entries : List (κ × α)} (h : key ∉ entries.map Prod.fst) :
    putEntry key value entries = entries ++ [(key, value)] := by
  induction entries with
  | nil => rfl
  | cons head rest ih =>
      rw [List.map_cons, List.mem_cons, not_or] at h
      rw [putEntry, if_neg (Ne.symm h.1), ih h.2, List.cons_append]

theorem putEntry_putEntry (key : κ) (first second : α) (entries : List (κ × α)) :
    putEntry key second (putEntry key first entries) = putEntry key second entries := by
  induction entries with
  | nil => exact if_pos rfl
  | cons head rest ih =>
      rw [putEntry.eq_2 key first, putEntry.eq_2 key second]
      split
      · exact if_pos rfl
      · rename_i hhead
        rw [putEntry, if_neg hhead, ih]

theorem lookup_of_mem {entry : κ × α} {entries : List (κ × α)}
    (hdistinct : (entries.map Prod.fst).Nodup) (h : entry ∈ entries) :
    entries.lookup entry.1 = some entry.2 := by
  induction entries with
  | nil => exact absurd h List.not_mem_nil
  | cons head rest ih =>
      obtain ⟨hhead, hrest⟩ := List.nodup_cons.mp hdistinct
      rw [lookup_cons_eq_ite]
      rcases List.mem_cons.mp h with rfl | hmem
      · exact if_pos rfl
      · rw [if_neg, ih hrest hmem]
        intro hsame
        exact hhead (hsame ▸ List.mem_map_of_mem hmem)

theorem lookup_eq_none_of_notMem {entries : List (κ × α)} (h : key ∉ entries.map Prod.fst) :
    entries.lookup key = none := by
  rw [List.lookup_eq_none_iff]
  intro entry hentry
  exact bne_iff_ne.mpr fun hsame => h (hsame ▸ List.mem_map_of_mem hentry)

theorem map_putEntry {β : Type} (f : α → β) (key : κ) (value : α) (entries : List (κ × α)) :
    (putEntry key value entries).map (fun entry => (entry.1, f entry.2)) =
      putEntry key (f value) (entries.map fun entry => (entry.1, f entry.2)) := by
  induction entries with
  | nil => rfl
  | cons entry rest ih =>
      rw [putEntry, List.map_cons, putEntry]
      split
      · rfl
      · rw [List.map_cons, ih]

end Entries

namespace OrderedMap

variable {α κ : Type} [DecidableEq κ]

theorem get?_set (m : OrderedMap α κ) (key other : κ) (value : α) :
    (m.set key value).get? other = if other = key then some value else m.get? other :=
  lookup_putEntry key other value m.entries

theorem get?_set_self (m : OrderedMap α κ) (key : κ) (value : α) :
    (m.set key value).get? key = some value := by
  rw [get?_set, if_pos rfl]

/-- The last value of a key counts. -/
theorem set_set (m : OrderedMap α κ) (key : κ) (first second : α) :
    (m.set key first).set key second = m.set key second :=
  OrderedMap.ext (putEntry_putEntry key first second m.entries)

theorem keys_set (m : OrderedMap α κ) (key : κ) (value : α) :
    (m.set key value).keys = if key ∈ m.keys then m.keys else m.keys ++ [key] :=
  map_fst_putEntry key value m.entries

theorem mem_entries_set {m : OrderedMap α κ} {key : κ} {value : α} {entry : κ × α}
    (h : entry ∈ (m.set key value).entries) : entry = (key, value) ∨ entry ∈ m.entries :=
  mem_putEntry h

theorem mem_entries_of_get? {m : OrderedMap α κ} {key : κ} {value : α}
    (h : m.get? key = some value) : (key, value) ∈ m.entries := by
  obtain ⟨before, after, heq, -⟩ := List.lookup_eq_some_iff.mp h
  rw [heq]
  exact List.mem_append_right before List.mem_cons_self

theorem get?_of_mem_entries {m : OrderedMap α κ} {entry : κ × α} (h : entry ∈ m.entries) :
    m.get? entry.1 = some entry.2 :=
  lookup_of_mem m.distinct h

theorem mem_keys_of_get? {m : OrderedMap α κ} {key : κ} {value : α}
    (h : m.get? key = some value) : key ∈ m.keys :=
  List.mem_map_of_mem (mem_entries_of_get? h)

theorem get?_eq_none_iff {m : OrderedMap α κ} {key : κ} : m.get? key = none ↔ key ∉ m.keys := by
  constructor
  · intro h hkey
    obtain ⟨entry, hentry, rfl⟩ := List.mem_map.mp hkey
    exact nomatch (get?_of_mem_entries hentry).symm.trans h
  · intro hkey
    cases h : m.get? key with
    | none => rfl
    | some value => exact absurd (mem_keys_of_get? h) hkey

/-- A key that is there stays in place, and so do all others. -/
theorem keys_set_of_get? {m : OrderedMap α κ} {key : κ} {value : α} (h : m.get? key = some value)
    (next : α) : (m.set key next).keys = m.keys := by
  rw [keys_set, if_pos (mem_keys_of_get? h)]

theorem mem_entries_ofList {entries : List (κ × α)} {entry : κ × α}
    (h : entry ∈ (ofList entries).entries) : entry ∈ entries := by
  have hfold (start : OrderedMap α κ) (rest : List (κ × α))
      (hmem : entry ∈ (rest.foldl (fun m e => m.set e.1 e.2) start).entries) :
      entry ∈ start.entries ∨ entry ∈ rest := by
    induction rest generalizing start with
    | nil => exact .inl hmem
    | cons head rest ih =>
        rcases ih _ hmem with hset | hrest
        · rcases mem_entries_set hset with heq | hstart
          · exact .inr (heq ▸ List.mem_cons_self)
          · exact .inl hstart
        · exact .inr (List.mem_cons_of_mem head hrest)
  exact (hfold empty entries h).resolve_left List.not_mem_nil

theorem ofList_entries (m : OrderedMap α κ) : ofList m.entries = m := by
  have hfold (start : OrderedMap α κ) (rest : List (κ × α))
      (hnodup : ((start.entries ++ rest).map Prod.fst).Nodup) :
      (rest.foldl (fun m e => m.set e.1 e.2) start).entries = start.entries ++ rest := by
    induction rest generalizing start with
    | nil => exact (List.append_nil _).symm
    | cons head rest ih =>
        have hnew : head.1 ∉ start.entries.map Prod.fst := by
          rw [List.map_append, List.map_cons] at hnodup
          intro hmem
          exact (List.nodup_append.mp hnodup).2.2 _ hmem _ List.mem_cons_self rfl
        have hset : (start.set head.1 head.2).entries = start.entries ++ [head] :=
          putEntry_of_notMem hnew
        rw [List.foldl_cons, ih, hset, List.append_assoc, List.singleton_append]
        rwa [hset, List.append_assoc, List.singleton_append]
  ext1
  exact hfold empty m.entries m.distinct

theorem mapValues_ofList {β : Type} (f : α → β) (entries : List (κ × α)) :
    (ofList entries).mapValues f = ofList (entries.map fun entry => (entry.1, f entry.2)) := by
  have hfold (start : OrderedMap α κ) (rest : List (κ × α)) :
      (rest.foldl (fun m e => m.set e.1 e.2) start).mapValues f =
        (rest.map fun entry => (entry.1, f entry.2)).foldl (fun m e => m.set e.1 e.2)
          (start.mapValues f) := by
    induction rest generalizing start with
    | nil => rfl
    | cons head rest ih =>
        have hset : (start.set head.1 head.2).mapValues f =
            (start.mapValues f).set head.1 (f head.2) :=
          OrderedMap.ext (map_putEntry f head.1 head.2 start.entries)
        rw [List.foldl_cons, ih, hset, List.map_cons, List.foldl_cons]
  exact hfold empty entries

/-- After keys were renamed, a name that no other key got has the value of its key. -/
theorem get?_ofList_rename (f : κ → κ) (key : κ) (m : OrderedMap α κ)
    (halone : ∀ entry ∈ m.entries, f entry.1 = f key → entry.1 = key) :
    (ofList (m.entries.map fun entry => (f entry.1, entry.2))).get? (f key) = m.get? key := by
  have hfold (start : OrderedMap α κ) (rest : List (κ × α))
      (hdistinct : (rest.map Prod.fst).Nodup)
      (hrest : ∀ entry ∈ rest, f entry.1 = f key → entry.1 = key) :
      ((rest.map fun entry => (f entry.1, entry.2)).foldl
        (fun m e => m.set e.1 e.2) start).get? (f key) =
          (rest.lookup key).or (start.get? (f key)) := by
    induction rest generalizing start with
    | nil => rfl
    | cons head rest ih =>
        obtain ⟨hhead, htail⟩ := List.nodup_cons.mp hdistinct
        rw [List.map_cons, List.foldl_cons,
          ih _ htail fun entry hentry => hrest entry (List.mem_cons_of_mem head hentry),
          get?_set, lookup_cons_eq_ite]
        by_cases hkey : key = head.1
        · subst hkey
          rw [if_pos rfl, if_pos rfl, lookup_eq_none_of_notMem hhead]
          rfl
        · rw [if_neg hkey, if_neg]
          exact fun hsame => hkey (hrest head List.mem_cons_self hsame.symm).symm
  exact (hfold empty m.entries m.distinct halone).trans (Option.or_none ..)

theorem ofList_eq {entries : List (κ × α)} (h : (entries.map Prod.fst).Nodup) :
    (ofList entries).entries = entries :=
  congrArg OrderedMap.entries (ofList_entries { entries, distinct := h })

end OrderedMap
end SnippetCoach
