import Mathlib
import SnippetCoach.Proofs.Store.Agreement
/-! The keys of one store. A text that is set under one of them is not seen under the others, and
neither is it where the file has to be read and written as a whole for it. -/
namespace SnippetCoach

/-- A store that gives for every other key what it gave before a text was set. -/
class SeparateStore (σ : Type) [Store σ] : Prop extends LawfulStore σ where
  get_of_set_ne {store after : σ} {key other text : String} : other ≠ key →
    Store.set store key (.str text) = (.ok (), after) →
      Store.get after other = Store.get store other

theorem SeparateStore.get_of_set_fst_ne {σ : Type} [Store σ] [SeparateStore σ] {store : σ}
    {key other text : String} (hother : other ≠ key)
    (h : (Store.set store key (.str text)).1 = .ok ()) :
    Store.get (Store.set store key (.str text)).2 other = Store.get store other :=
  get_of_set_ne hother (Prod.ext h rfl)

instance : SeparateStore MemoryStore where
  get_of_set_ne {store after key other text} hother h := by
    obtain ⟨-, rfl⟩ := Prod.mk.inj h
    simp only [Store.get, OrderedMap.get?_set, WideText.ofString_inj, if_neg hother]

/-- What the file has under other keys is written as it was read, whatever value it is. -/
instance [Machine] : SeparateStore FileStore where
  get_of_set_ne {store after key other text} hother h := by
    obtain ⟨fields, hread, hafter⟩ := FileStore.readAll_set h
    simp only [Store.get, hread, hafter, Except.map, OrderedMap.get?_set, WideText.ofString_inj,
      if_neg hother]

instance {σ τ : Type} [Store σ] [Store τ] [SeparateStore σ] [SeparateStore τ] :
    SeparateStore (σ ⊕ τ) where
  get_of_set_ne {store after key other text} hother h := by
    cases store with
    | inl store =>
        obtain ⟨hresult, rfl⟩ := Prod.mk.inj h
        have hget := SeparateStore.get_of_set_fst_ne hother hresult
        exact hget
    | inr store =>
        obtain ⟨hresult, rfl⟩ := Prod.mk.inj h
        have hget := SeparateStore.get_of_set_fst_ne hother hresult
        exact hget

section Working

variable {σ τ : Type} [Store σ] [Store τ]

theorem Works.get {store : σ} (h : Works store) (key : String) :
    ∃ stored, Store.get store key = .ok stored := by
  obtain ⟨result, hresult⟩ := h [.get key] _ List.mem_cons_self
  cases hget : Store.get store key with
  | ok stored => exact ⟨stored, rfl⟩
  | error cause =>
      simp only [hget, Except.map] at hresult
      cases hresult

theorem StoreCall.run_sum (store : σ ⊕ τ) (calls : List StoreCall) :
    (run store calls).1 =
      store.elim (fun store => (run store calls).1) fun store => (run store calls).1 := by
  induction calls generalizing store with
  | nil => cases store <;> rfl
  | cons call calls ih =>
      cases store with
      | inl store =>
          cases call with
          | get key => exact congrArg _ (ih (.inl store))
          | set key text => exact congrArg _ (ih (.inl (Store.set store key (.str text)).2))
      | inr store =>
          cases call with
          | get key => exact congrArg _ (ih (.inr store))
          | set key text => exact congrArg _ (ih (.inr (Store.set store key (.str text)).2))

/-- A store that is one of two works if that one does. -/
theorem Works.sum {store : σ ⊕ τ} (h : store.elim Works Works) : Works store := by
  intro calls
  rw [StoreCall.run_sum]
  cases store with
  | inl store => exact h calls
  | inr store => exact h calls

end Working

end SnippetCoach
