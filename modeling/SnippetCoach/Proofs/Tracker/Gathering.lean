import Mathlib.Logic.Function.Basic
import SnippetCoach.Proofs.Session
import SnippetCoach.Proofs.Tracker.Analysis
/-! Analyses that share a tracker. Each may wait once, and while it waits the others go on. -/
namespace SnippetCoach
open Number

/-- An analysis before it begins, in its wait, and with what it gave. -/
inductive Stage where
  | ready
  | asleep
  | ended (outcome : Except AnalysisError (Option Analysis))

namespace Stage

/-- How many turns an analysis needs at most. -/
def left : Stage → Nat
  | ready => 2
  | asleep => 1
  | ended _ => 0

end Stage

/-- A turn of one of the analyses, at a time of the clock. -/
structure Resumption (n : Nat) where
  task : Fin n
  now : Binary64

/-- What the analysis whose turn it is was asked for, at the time of the turn. -/
def Resumption.request {n : Nat} (turn : Resumption n) (requests : Fin n → Request) : Request :=
  { requests turn.task with now := turn.now }

/-- The tracker that the analyses share, how far each is, and what the last save gave. -/
structure Gathering (σ : Type) (n : Nat) where
  tracker : Tracker σ
  stage : Fin n → Stage
  saved : Option (Except ArithmeticError Bool)

namespace Gathering

section Definitions

variable {σ : Type} {n : Nat}

def start (tracker : Tracker σ) (n : Nat) : Gathering σ n :=
  { tracker, stage := fun _ => .ready, saved := none }

def wait (gathering : Gathering σ n) (task : Fin n) : Gathering σ n :=
  { gathering with stage := Function.update gathering.stage task .asleep }

variable [Store σ]

/-- The rest of an analysis after its wait. Nothing else goes on meanwhile. -/
def finish (gathering : Gathering σ n) (task : Fin n) (request : Request) : Gathering σ n :=
  { tracker := (gathering.tracker.analyze request).2
    stage := Function.update gathering.stage task
      (.ended (gathering.tracker.analyze request).1.result)
    saved := (gathering.tracker.savedBy request).or gathering.saved }

/-- An analysis goes on, to its wait or to its end. Blank code is not waited for. -/
def step (requests : Fin n → Request) (gathering : Gathering σ n) (turn : Resumption n) :
    Gathering σ n :=
  let request := turn.request requests
  match gathering.stage turn.task with
  | .ready =>
    if request.isBlank || !request.delay.isPositive then gathering.finish turn.task request
    else gathering.wait turn.task
  | .asleep => gathering.finish turn.task request
  | .ended _ => gathering

def run (requests : Fin n → Request) (gathering : Gathering σ n) (turns : List (Resumption n)) :
    Gathering σ n :=
  turns.foldl (step requests) gathering

end Definitions

section Turns

variable {σ : Type} {n : Nat} {requests : Fin n → Request} {gathering : Gathering σ n}
  {turn : Resumption n}

theorem stage_wait_self (gathering : Gathering σ n) (task : Fin n) :
    (gathering.wait task).stage task = .asleep :=
  Function.update_self ..

theorem stage_wait_of_ne {task other : Fin n} (h : other ≠ task) :
    (gathering.wait task).stage other = gathering.stage other :=
  Function.update_of_ne h ..

variable [Store σ]

theorem stage_finish_self (gathering : Gathering σ n) (task : Fin n) (request : Request) :
    (gathering.finish task request).stage task =
      .ended (gathering.tracker.analyze request).1.result :=
  Function.update_self ..

theorem stage_finish_of_ne {task other : Fin n} (h : other ≠ task) (request : Request) :
    (gathering.finish task request).stage other = gathering.stage other :=
  Function.update_of_ne h ..

/-- A turn of an analysis that has ended changes nothing, and any other brings it to its end or to
its wait. -/
theorem step_cases (requests : Fin n → Request) (gathering : Gathering σ n) (turn : Resumption n) :
    ((∃ outcome, gathering.stage turn.task = .ended outcome) ∧
      gathering.step requests turn = gathering) ∨
    (∀ outcome, gathering.stage turn.task ≠ .ended outcome) ∧
      (gathering.step requests turn = gathering.finish turn.task (turn.request requests) ∨
        gathering.stage turn.task = .ready ∧
          gathering.step requests turn = gathering.wait turn.task) := by
  unfold step
  cases hstage : gathering.stage turn.task with
  | ended outcome => exact .inl ⟨⟨outcome, rfl⟩, rfl⟩
  | asleep => exact .inr ⟨nofun, .inl rfl⟩
  | ready =>
      refine .inr ⟨nofun, ?_⟩
      dsimp only
      split
      · exact .inl rfl
      · exact .inr ⟨rfl, rfl⟩

theorem left_step_self (requests : Fin n → Request) (gathering : Gathering σ n)
    (turn : Resumption n) :
    ((gathering.step requests turn).stage turn.task).left ≤
      (gathering.stage turn.task).left - 1 := by
  rcases gathering.step_cases requests turn with
    ⟨⟨outcome, hstage⟩, heq⟩ | ⟨-, heq | ⟨hstage, heq⟩⟩
  · rw [heq, hstage]
    exact Nat.le_refl 0
  · rw [heq, stage_finish_self]
    exact Nat.zero_le _
  · rw [heq, hstage, stage_wait_self]
    exact Nat.le_refl 1

theorem stage_step_of_ne {task : Fin n} (h : task ≠ turn.task) :
    (gathering.step requests turn).stage task = gathering.stage task := by
  rcases gathering.step_cases requests turn with ⟨-, heq⟩ | ⟨-, heq | ⟨-, heq⟩⟩
  · rw [heq]
  · rw [heq, stage_finish_of_ne h]
  · rw [heq, stage_wait_of_ne h]

/-- An analysis that has had its turns is at its end. -/
theorem ended_of_turns {task : Fin n} {turns : List (Resumption n)}
    (h : (gathering.stage task).left ≤ turns.countP (·.task = task)) :
    ∃ outcome, (gathering.run requests turns).stage task = .ended outcome := by
  induction turns generalizing gathering with
  | nil =>
      cases hstage : gathering.stage task with
      | ended outcome => exact ⟨outcome, hstage⟩
      | ready | asleep =>
          rw [hstage] at h
          cases h
  | cons turn turns ih =>
      refine ih ?_
      rw [List.countP_cons] at h
      by_cases htask : task = turn.task
      · subst htask
        have hself := gathering.left_step_self requests turn
        rw [if_pos (decide_eq_true rfl)] at h
        omega
      · have hother : ¬decide (turn.task = task) = true :=
          fun hsame => htask (of_decide_eq_true hsame).symm
        rw [if_neg hother] at h
        rw [stage_step_of_ne htask]
        exact h

end Turns

end Gathering
end SnippetCoach
