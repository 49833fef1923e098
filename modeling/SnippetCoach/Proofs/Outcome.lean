import Mathlib.Data.List.Forall2
/-! Computations that can fail: what a success or a failure tells about their parts. -/
namespace SnippetCoach

variable {ε ε' α β : Type}

theorem bind_eq_ok_iff {x : Except ε α} {f : α → Except ε β} {b : β} :
    x >>= f = .ok b ↔ ∃ a, x = .ok a ∧ f a = .ok b := by
  cases x with
  | ok a =>
      constructor
      · exact fun h => ⟨a, rfl, h⟩
      · rintro ⟨a', heq, h⟩
        exact Except.ok.inj heq ▸ h
  | error e =>
      constructor
      · exact fun h => nomatch h
      · rintro ⟨a, heq, -⟩
        exact nomatch heq

theorem mapError_eq_ok_iff {x : Except ε α} {f : ε → ε'} {a : α} :
    x.mapError f = .ok a ↔ x = .ok a := by
  cases x with
  | ok a' =>
      constructor
      · exact fun h => congrArg _ (Except.ok.inj h)
      · exact fun h => congrArg _ (Except.ok.inj h)
  | error e =>
      constructor
      · exact fun h => nomatch h
      · exact fun h => nomatch h

theorem bind_eq_error_iff {x : Except ε α} {f : α → Except ε β} {e : ε} :
    x >>= f = .error e ↔ x = .error e ∨ ∃ a, x = .ok a ∧ f a = .error e := by
  cases x with
  | ok a =>
      constructor
      · exact fun h => .inr ⟨a, rfl, h⟩
      · rintro (heq | ⟨a', heq, h⟩)
        · exact nomatch heq
        · exact Except.ok.inj heq ▸ h
  | error e' =>
      constructor
      · exact fun h => .inl (congrArg _ (Except.error.inj h))
      · rintro (heq | ⟨a, heq, -⟩)
        · exact congrArg _ (Except.error.inj heq)
        · exact nomatch heq

theorem mapError_eq_error_iff {x : Except ε α} {f : ε → ε'} {e' : ε'} :
    x.mapError f = .error e' ↔ ∃ e, x = .error e ∧ f e = e' := by
  cases x with
  | ok a =>
      constructor
      · exact fun h => nomatch h
      · rintro ⟨e, heq, -⟩
        exact nomatch heq
  | error e =>
      constructor
      · exact fun h => ⟨e, rfl, Except.error.inj h⟩
      · rintro ⟨e₁, heq, h⟩
        rw [Except.error.inj heq, ← h]
        rfl

theorem map_eq_ok_iff {x : Except ε α} {f : α → β} {b : β} :
    x.map f = .ok b ↔ ∃ a, x = .ok a ∧ f a = b :=
  bind_eq_ok_iff.trans (by simp only [Except.ok.injEq])

theorem map_eq_error_iff {x : Except ε α} {f : α → β} {e : ε} :
    x.map f = .error e ↔ x = .error e := by
  cases x with
  | ok a => exact iff_of_false nofun nofun
  | error e' =>
      constructor
      · exact fun h => congrArg _ (Except.error.inj h)
      · exact fun h => congrArg _ (Except.error.inj h)

/-- A list of computations succeeds with the results of all of them. -/
theorem mapM_eq_ok_iff {f : α → Except ε β} {inputs : List α} {results : List β} :
    inputs.mapM f = .ok results ↔
      List.Forall₂ (fun input result => f input = .ok result) inputs results := by
  induction inputs generalizing results with
  | nil =>
      constructor
      · intro h
        obtain rfl := Except.ok.inj h
        exact .nil
      · intro h
        cases h
        rfl
  | cons input inputs ih =>
      rw [List.mapM_cons]
      constructor
      · intro h
        obtain ⟨result, hfirst, h⟩ := bind_eq_ok_iff.mp h
        obtain ⟨others, hothers, h⟩ := bind_eq_ok_iff.mp h
        obtain rfl := Except.ok.inj h
        exact .cons hfirst (ih.mp hothers)
      · intro h
        cases h with
        | cons hfirst hrest =>
            rw [hfirst, ih.mpr hrest]
            rfl

theorem exists_mapM_iff {f : α → Except ε β} {inputs : List α} :
    (∃ results, inputs.mapM f = .ok results) ↔
      ∀ input ∈ inputs, ∃ result, f input = .ok result := by
  induction inputs with
  | nil => exact iff_of_true ⟨[], rfl⟩ (List.forall_mem_nil _)
  | cons input inputs ih =>
      rw [List.forall_mem_cons, ← ih, List.mapM_cons]
      constructor
      · rintro ⟨results, h⟩
        obtain ⟨result, hfirst, h⟩ := bind_eq_ok_iff.mp h
        obtain ⟨others, hothers, -⟩ := bind_eq_ok_iff.mp h
        exact ⟨⟨result, hfirst⟩, others, hothers⟩
      · rintro ⟨⟨result, hfirst⟩, others, hothers⟩
        refine ⟨result :: others, ?_⟩
        rw [hfirst, hothers]
        rfl

end SnippetCoach
