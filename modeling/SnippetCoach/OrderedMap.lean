/-! Maps that keep the order in which the keys were first set. Keys are text unless another type is
named. -/
namespace SnippetCoach

section Entries

variable {α κ : Type} [DecidableEq κ]

/-- Sets a key in a list of entries: in place if it is there, at the end otherwise. -/
def putEntry (key : κ) (value : α) : List (κ × α) → List (κ × α)
  | [] => [(key, value)]
  | entry :: rest =>
    if entry.1 = key then (key, value) :: rest else entry :: putEntry key value rest

theorem map_fst_putEntry (key : κ) (value : α) (entries : List (κ × α)) :
    (putEntry key value entries).map Prod.fst =
      if key ∈ entries.map Prod.fst then entries.map Prod.fst
      else entries.map Prod.fst ++ [key] := by
  induction entries with
  | nil => rfl
  | cons entry rest ih =>
    by_cases h : entry.1 = key
    · simp [putEntry, h]
    · have hne : ¬key = entry.1 := fun heq => h heq.symm
      simp only [putEntry, h, if_false, List.map_cons, ih, List.mem_cons, hne, false_or]
      split <;> rfl

theorem nodup_putEntry (key : κ) (value : α) {entries : List (κ × α)}
    (h : (entries.map Prod.fst).Nodup) : ((putEntry key value entries).map Prod.fst).Nodup := by
  rw [map_fst_putEntry]
  split
  · exact h
  · rename_i hnot
    refine List.nodup_append.2 ⟨h, by simp, ?_⟩
    intro a ha b hb heq
    rw [List.mem_singleton.1 hb] at heq
    exact hnot (heq ▸ ha)

end Entries

/-- Entries with distinct keys, in order. -/
@[ext] structure OrderedMap (α : Type) (κ : Type := String) where
  entries : List (κ × α)
  distinct : (entries.map Prod.fst).Nodup

namespace OrderedMap

variable {α β κ : Type}

def empty : OrderedMap α κ :=
  { entries := [], distinct := by simp }

instance : EmptyCollection (OrderedMap α κ) := ⟨empty⟩

def keys (m : OrderedMap α κ) : List κ :=
  m.entries.map Prod.fst

def size (m : OrderedMap α κ) : Nat :=
  m.entries.length

def isEmpty (m : OrderedMap α κ) : Bool :=
  m.entries.isEmpty

def mapValues (f : α → β) (m : OrderedMap α κ) : OrderedMap β κ :=
  { entries := m.entries.map fun entry => (entry.1, f entry.2)
    distinct := by simpa [Function.comp_def] using m.distinct }

variable [DecidableEq κ]

def get? (m : OrderedMap α κ) (key : κ) : Option α :=
  m.entries.lookup key

/-- A present key keeps its place, a new one goes to the end. -/
def set (m : OrderedMap α κ) (key : κ) (value : α) : OrderedMap α κ :=
  { entries := putEntry key value m.entries, distinct := nodup_putEntry key value m.distinct }

/-- Sets entries one by one: the last value of a key wins, at the place of its first. -/
def ofList (entries : List (κ × α)) : OrderedMap α κ :=
  entries.foldl (fun m entry => m.set entry.1 entry.2) empty

end OrderedMap
end SnippetCoach
