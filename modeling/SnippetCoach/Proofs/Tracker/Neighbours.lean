import Mathlib
import SnippetCoach.Machine.Usual
import SnippetCoach.Proofs.Tracker.Account
import SnippetCoach.Proofs.Tracker.Overlap
/-! Two trackers with keys of their own on one store. What one of them does leaves the answers, the
progress and the stored record of the other as they are without it. -/
namespace SnippetCoach

/-- A store in memory, or a file that is missing or holds an object and that can be written. -/
inductive Backend.Usable [Machine] : Backend → Prop
  | memory (store : MemoryStore) : Usable (.inl store)
  | file {file : FileStore} {fields : MemoryStore} (opens : file.Opens fields)
      (canWrite : file.workspace.CanWrite file.path) : Usable (.inr file)

theorem Backend.Usable.works [Machine] {store : Backend} (h : store.Usable) : Works store := by
  cases h with
  | memory store => exact Works.sum (works_memory store)
  | file opens canWrite => exact Works.sum (FileStore.works_of_canWrite opens canWrite)

/-- What one of two sessions asks of its tracker. -/
structure Move where
  party : Party
  operation : Operation

/-- Two trackers on one store, each with its key and with the progress that it holds. What they
report is left out. -/
structure Neighbours (σ : Type) where
  key : Party → String
  store : σ
  held : Party → Ledger

/-- The moves without those of the other party. -/
def Party.alone (party : Party) (moves : List Move) : List Move :=
  moves.filter fun move => move.party = party

def Party.operations (party : Party) (moves : List Move) : List Operation :=
  (party.alone moves).map Move.operation

theorem Party.operations_cons_self (move : Move) (moves : List Move) :
    move.party.operations (move :: moves) = move.operation :: move.party.operations moves := by
  simp only [operations, alone, List.filter_cons, decide_true, if_true, List.map_cons]

theorem Party.operations_cons_of_ne {party : Party} {move : Move} (h : move.party ≠ party)
    (moves : List Move) : party.operations (move :: moves) = party.operations moves := by
  simp only [operations, alone, List.filter_cons, h, decide_false, Bool.false_eq_true, if_false]

namespace Neighbours

variable {σ : Type}

def tracker (neighbours : Neighbours σ) (party : Party) : Tracker σ :=
  { Tracker.new neighbours.store (neighbours.key party) with progress := neighbours.held party }

/-- The answers that a party gets. -/
def answersTo (party : Party) (answers : List (Party × Answer)) : List Answer :=
  (answers.filter fun answer => answer.1 = party).map Prod.snd

theorem answersTo_cons_self (party : Party) (answer : Answer) (answers : List (Party × Answer)) :
    answersTo party ((party, answer) :: answers) = answer :: answersTo party answers := by
  simp only [answersTo, List.filter_cons, decide_true, if_true, List.map_cons]

theorem answersTo_cons_of_ne {party other : Party} (h : other ≠ party) (answer : Answer)
    (answers : List (Party × Answer)) :
    answersTo party ((other, answer) :: answers) = answersTo party answers := by
  simp only [answersTo, List.filter_cons, h, decide_false, Bool.false_eq_true, if_false]

variable [Store σ]

/-- Each tracker shows an account of its own. -/
def Shows (neighbours : Neighbours σ) (accounts : Party → Account) : Prop :=
  ∀ party, (neighbours.tracker party).Shows (accounts party)

section Runs

variable [Machine]

def step (neighbours : Neighbours σ) (move : Move) : Answer × Neighbours σ :=
  let (answer, after) := (neighbours.tracker move.party).operate move.operation
  (answer, { neighbours with
    store := after.store
    held := Function.update neighbours.held move.party after.progress })

/-- The answers of all moves, each with the party that it goes to, and what is there in the end. -/
def run (neighbours : Neighbours σ) : List Move → List (Party × Answer) × Neighbours σ
  | [] => ([], neighbours)
  | move :: rest =>
    let (answer, next) := neighbours.step move
    let (answers, last) := next.run rest
    ((move.party, answer) :: answers, last)

theorem run_key (neighbours : Neighbours σ) (moves : List Move) :
    (neighbours.run moves).2.key = neighbours.key := by
  induction moves generalizing neighbours with
  | nil => rfl
  | cons move moves ih => exact ih (neighbours.step move).2

variable {neighbours : Neighbours σ} {accounts : Party → Account}

variable [SeparateStore σ]

/-- A move is a step of the account of its party. The account of the other one stays true, since the
other key is not touched. -/
theorem Shows.step (h : neighbours.Shows accounts) (hkeys : Function.Injective neighbours.key)
    (move : Move) :
    (neighbours.step move).1 = ((accounts move.party).operate move.operation).1 ∧
      (neighbours.step move).2.Shows (Function.update accounts move.party
        ((accounts move.party).operate move.operation).2) := by
  obtain ⟨hanswer, hafter⟩ := (h move.party).operate move.operation
  refine ⟨hanswer, ?_⟩
  intro party
  by_cases hparty : party = move.party
  · subst hparty
    rw [Function.update_self]
    refine ⟨hafter.works, (Function.update_self ..).trans hafter.progress, ?_⟩
    have hstored := hafter.stored
    rw [Tracker.operate_key] at hstored
    exact hstored
  · rw [Function.update_of_ne hparty]
    refine ⟨hafter.works, (Function.update_of_ne hparty ..).trans (h party).progress, ?_⟩
    have hother : Store.get (neighbours.step move).2.store (neighbours.key party) =
        Store.get neighbours.store (neighbours.key party) :=
      Tracker.get_operate_of_ne (h move.party).works (fun heq => hparty (hkeys heq)) move.operation
    exact hother.trans (h party).stored

/-- What a party is told and left with is what its account gives for its own operations. -/
theorem Shows.run (h : neighbours.Shows accounts) (hkeys : Function.Injective neighbours.key)
    (moves : List Move) (party : Party) :
    answersTo party (neighbours.run moves).1 =
        ((accounts party).run (party.operations moves)).1 ∧
      ((neighbours.run moves).2.tracker party).Shows
        ((accounts party).run (party.operations moves)).2 := by
  induction moves generalizing neighbours accounts with
  | nil => exact ⟨rfl, h party⟩
  | cons move moves ih =>
      obtain ⟨hanswer, hnext⟩ := h.step hkeys move
      obtain ⟨hanswers, hlast⟩ := ih hnext hkeys
      by_cases hparty : move.party = party
      · subst hparty
        rw [Function.update_self] at hanswers hlast
        rw [Party.operations_cons_self]
        refine ⟨?_, hlast⟩
        calc answersTo move.party (neighbours.run (move :: moves)).1
            = (neighbours.step move).1 ::
                answersTo move.party ((neighbours.step move).2.run moves).1 :=
              answersTo_cons_self ..
          _ = _ := congrArg₂ List.cons hanswer hanswers
      · rw [Function.update_of_ne (Ne.symm hparty)] at hanswers hlast
        rw [Party.operations_cons_of_ne hparty]
        exact ⟨(answersTo_cons_of_ne hparty ..).trans hanswers, hlast⟩

end Runs

open scoped Machine

end Neighbours
end SnippetCoach
