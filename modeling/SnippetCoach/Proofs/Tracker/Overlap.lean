import Mathlib.Logic.Function.Basic
import SnippetCoach.Machine.Usual
import SnippetCoach.Proofs.Progress.Limit
import SnippetCoach.Proofs.Store.Agreement
import SnippetCoach.Proofs.Tracker.Turns
/-! Two sessions on one store. Each loads once and records once, and nothing keeps the other away in
between: what one records is lost if the other loaded before and records after. -/
namespace SnippetCoach
open Number

/-- The trackers of two sessions under one key of one store, each with the progress that it holds.
What they report is left out. -/
structure Shared (σ : Type) where
  key : String
  store : σ
  held : Party → Ledger

/-- The ledgers alone: the one that is read from the store, and those that the sessions hold. -/
structure Board where
  stored : Ledger
  held : Party → Ledger

namespace Board

/-- What a session holds after it recorded issues. -/
def counted (board : Board) (party : Party) (issues : List Issue) : Ledger :=
  (board.held party).encounterAll (issues.map Issue.type)

def step (board : Board) : Turn → Board
  | .load party => { board with held := Function.update board.held party board.stored }
  | .record party issues =>
    { stored := (board.counted party issues).paired
      held := Function.update board.held party (board.counted party issues) }

def run (board : Board) (turns : List Turn) : Board :=
  turns.foldl step board

/-- Whatever is recorded on the way can be written. -/
def Writes : Board → List Turn → Prop
  | _, [] => True
  | board, .load party :: rest => (board.step (.load party)).Writes rest
  | board, .record party issues :: rest =>
    (board.counted party issues).Writable ∧ (board.step (.record party issues)).Writes rest

end Board

/-- What a tracker takes over from a stored value: what is no record counts as nothing. -/
inductive Offers [Machine] (stored : WideJson) (ledger : Ledger) : Prop
  | record (read : Ledger.ofRecord? stored = .ok ledger) : Offers stored ledger
  | ignored {cause : RecordError} (unread : Ledger.ofRecord? stored = .error cause)
      (kept : cause.breaksOff = false) (empty : ledger = ∅) : Offers stored ledger

theorem Offers.writable [Machine] {stored : WideJson} {ledger : Ledger} (h : Offers stored ledger) :
    ledger.Writable := by
  cases h with
  | record read => exact Ledger.writable_of_ofRecord? read
  | ignored _ _ empty =>
      rw [empty]
      exact fun _ hentry => absurd hentry List.not_mem_nil

theorem Offers.null [Machine] {ledger : Ledger} (h : Offers .null ledger) : ledger = ∅ := by
  cases h with
  | record read => cases read
  | ignored _ _ empty => exact empty

namespace Shared

variable {σ : Type}

def tracker (shared : Shared σ) (party : Party) : Tracker σ :=
  { Tracker.new shared.store shared.key with progress := shared.held party }

section Runs

variable [Machine] [Store σ]

def step (shared : Shared σ) (turn : Turn) : Shared σ :=
  let after := (shared.tracker turn.party).after turn.call
  { shared with
    store := after.store
    held := Function.update shared.held turn.party after.progress }

def run (shared : Shared σ) (turns : List Turn) : Shared σ :=
  turns.foldl step shared

theorem run_key (shared : Shared σ) (turns : List Turn) : (shared.run turns).key = shared.key := by
  induction turns generalizing shared with
  | nil => rfl
  | cons turn turns ih => exact ih (shared.step turn)

/-- The store works and holds what the board has as stored, and the sessions hold what it says. As
long as nothing was ever stored they hold nothing. -/
structure Shows (shared : Shared σ) (board : Board) : Prop where
  works : Works shared.store
  held : shared.held = board.held
  offers : ∃ stored, Store.get shared.store shared.key = .ok stored ∧ Offers stored board.stored ∧
    (stored = .null → ∀ party, board.held party = ∅)

variable {shared : Shared σ} {board : Board}

theorem Shows.load (h : shared.Shows board) (party : Party) :
    ((shared.tracker party).after .load).store = shared.store ∧
      ((shared.tracker party).after .load).progress = board.stored := by
  obtain ⟨stored, hget, hoffers, hfresh⟩ := h.offers
  have hprogress : (shared.tracker party).progress = board.held party := congrFun h.held party
  rw [Tracker.after, Tracker.perform]
  rcases (shared.tracker party).load_cases with
    ⟨cause, herror, -⟩ | ⟨hnull, heq⟩ | ⟨found, hfound, hcases⟩
  · cases hget.symm.trans herror
  · obtain rfl := Except.ok.inj (hget.symm.trans hnull)
    rw [heq]
    refine ⟨rfl, ?_⟩
    calc (shared.tracker party).progress
        = board.held party := hprogress
      _ = ∅ := hfresh rfl party
      _ = board.stored := hoffers.null.symm
  · obtain rfl := Except.ok.inj (hget.symm.trans hfound)
    cases hoffers with
    | record read =>
        rcases hcases with ⟨progress, hrecord, heq⟩ | ⟨cause, herror, -⟩
        · obtain rfl := Except.ok.inj (read.symm.trans hrecord)
          rw [heq]
          exact ⟨rfl, rfl⟩
        · cases read.symm.trans herror
    | ignored unread kept empty =>
        rcases hcases with ⟨progress, hrecord, -⟩ | ⟨cause, herror, ⟨hbreaks, -⟩ | heq⟩
        · cases unread.symm.trans hrecord
        · obtain rfl := Except.error.inj (unread.symm.trans herror)
          cases kept.symm.trans hbreaks
        · rw [heq]
          exact ⟨rfl, empty.symm⟩

theorem Shows.record [LawfulStore σ] (h : shared.Shows board) {party : Party} {issues : List Issue}
    (hwritable : (board.counted party issues).Writable) :
    Works ((shared.tracker party).after (.record issues)).store ∧
      Store.get ((shared.tracker party).after (.record issues)).store shared.key =
        .ok (.str (board.counted party issues).record) ∧
      ((shared.tracker party).after (.record issues)).progress = board.counted party issues := by
  have hprogress : (shared.tracker party).progress = board.held party := congrFun h.held party
  have hwritten : (Call.record issues).written? (shared.tracker party).progress =
      some (board.counted party issues) := by
    rw [hprogress]
    rfl
  obtain ⟨store, hset, hworks⟩ := h.works.set shared.key (board.counted party issues).record
  let counting : Tracker σ :=
    { shared.tracker party with progress := board.counted party issues }
  have hsave : counting.save = _ := Tracker.save_of_set_ok hwritable hset
  rw [Tracker.after_of_written hwritten, hsave]
  exact ⟨hworks, LawfulStore.get_of_set hset, rfl⟩

theorem Shows.step_load (h : shared.Shows board) (party : Party) :
    (shared.step (.load party)).Shows (board.step (.load party)) := by
  obtain ⟨hstore, hprogress⟩ := h.load party
  obtain ⟨stored, hget, hoffers, hfresh⟩ := h.offers
  have hsame : (shared.step (.load party)).store = shared.store := hstore
  refine ⟨hsame.symm ▸ h.works, ?_, stored, ?_, hoffers, ?_⟩
  · exact congrArg₂ (Function.update · party ·) h.held hprogress
  · rw [hsame]
    exact hget
  · -- where nothing was ever stored, a load finds what all sessions hold: nothing
    rintro rfl other
    rw [Board.step, hoffers.null]
    by_cases hother : other = party
    · rw [hother]
      exact Function.update_self ..
    · exact (Function.update_of_ne hother ..).trans (hfresh rfl other)

theorem Shows.step_record [LawfulStore σ] (h : shared.Shows board) {party : Party}
    {issues : List Issue} (hwritable : (board.counted party issues).Writable) :
    (shared.step (.record party issues)).Shows (board.step (.record party issues)) := by
  obtain ⟨hworks, hget, hprogress⟩ := h.record hwritable
  refine ⟨hworks, ?_, _, hget, .record (Ledger.ofRecord?_record_paired hwritable), ?_⟩
  · exact congrArg₂ (Function.update · party ·) h.held hprogress
  · intro hnull
    cases hnull

theorem Shows.run [LawfulStore σ] (h : shared.Shows board) {turns : List Turn}
    (hwrites : board.Writes turns) : (shared.run turns).Shows (board.run turns) := by
  induction turns generalizing shared board with
  | nil => exact h
  | cons turn turns ih =>
      cases turn with
      | load party => exact ih (h.step_load party) hwrites
      | record party issues =>
          obtain ⟨hwritable, hrest⟩ := hwrites
          exact ih (h.step_record hwritable) hrest

/-- What the last turn stores, by what its session held before. -/
theorem Shows.run_record [LawfulStore σ] (h : shared.Shows board) {before : List Turn}
    (hwrites : board.Writes before) {last : Party} {issues : List Issue} {held : Ledger}
    (hheld : (board.run before).held last = held)
    (hwritable : (held.encounterAll (issues.map Issue.type)).Writable) :
    ∃ stored,
      Store.get (shared.run (before ++ [.record last issues])).store shared.key = .ok stored ∧
      Ledger.ofRecord? stored = .ok (held.encounterAll (issues.map Issue.type)).paired := by
  have hlast : shared.run (before ++ [.record last issues]) =
      (shared.run before).step (.record last issues) := List.foldl_append
  obtain rfl := hheld
  obtain ⟨-, hget, -⟩ := (h.run hwrites).record hwritable
  rw [run_key] at hget
  rw [hlast]
  exact ⟨_, hget, Ledger.ofRecord?_record_paired hwritable⟩

section Sessions

variable {issues : Party → List Issue} {turns : List Turn} {opening : Ledger}
  {held : Party → Ledger}

variable [LawfulStore σ]

/-- The second session counts on from what the first one stored. -/
theorem Shows.run_apart (h : shared.Shows { stored := opening, held }) {party : Party}
    (hone : (party.count issues opening).Writable)
    (hboth : (party.other.count issues (party.count issues opening).paired).Writable) :
    ∃ stored, Store.get (shared.run (party.session (issues party) ++
        party.other.session (issues party.other))).store shared.key = .ok stored ∧
      Ledger.ofRecord? stored =
        .ok (party.other.count issues (party.count issues opening).paired).paired := by
  have hwrites : Board.Writes { stored := opening, held }
      [.load party, .record party (issues party), .load party.other] := by
    cases party <;> exact ⟨hone, trivial⟩
  refine h.run_record hwrites ?_ hboth
  cases party <;> rfl

/-- The last session counts on from what it loaded at the start. -/
theorem Shows.run_overlapping (h : shared.Shows { stored := opening, held }) (start : Party)
    {last : Party} (hother : (last.other.count issues opening).Writable)
    (hlast : (last.count issues opening).Writable) :
    ∃ stored, Store.get (shared.run [.load start, .load start.other,
        .record last.other (issues last.other), .record last (issues last)]).store shared.key =
          .ok stored ∧
      Ledger.ofRecord? stored = .ok (last.count issues opening).paired := by
  have hwrites : Board.Writes { stored := opening, held }
      [.load start, .load start.other, .record last.other (issues last.other)] := by
    cases start <;> cases last <;> exact ⟨hother, trivial⟩
  refine h.run_record hwrites ?_ hlast
  cases start <;> cases last <;> rfl

/-- If one session ends before the other begins, the issues of both are stored in the end, and
otherwise those of the session that records last only. -/
theorem encounters_after_sessions {stored : WideJson} (hworks : Works shared.store)
    (hget : Store.get shared.store shared.key = .ok stored) (hopening : Offers stored opening)
    (hfresh : stored = .null → ∀ party, shared.held party = ∅)
    (hfits : ∀ type : IssueType, fitsDigitLimit (opening.encounters type.tag +
      Party.first.tally issues type.tag + Party.second.tally issues type.tag) = true)
    (hturns : Interleaves (Party.first.session (issues .first))
      (Party.second.session (issues .second)) turns) :
    ∃ final ledger, Store.get (shared.run turns).store shared.key = .ok final ∧
      Ledger.ofRecord? final = .ok ledger ∧
      (Apart issues turns → ∀ name, opening.Keeps name →
        ledger.encounters name = opening.encounters name +
          Party.first.tally issues name + Party.second.tally issues name) ∧
      (¬Apart issues turns → ∃ last : Party, turns.getLast? = some (.record last (issues last)) ∧
        ∀ name, opening.Keeps name →
          ledger.encounters name = opening.encounters name + last.tally issues name) := by
  have hshows : shared.Shows { stored := opening, held := shared.held } :=
    ⟨hworks, rfl, stored, hget, hopening, hfresh⟩
  have hstart := hopening.writable
  rcases hturns.sessions with ⟨party, rfl⟩ | ⟨start, last, rfl⟩
  · obtain ⟨hone, hboth⟩ := party.writable_both hstart hfits
    obtain ⟨final, hfinal, hread⟩ := hshows.run_apart hone hboth
    refine ⟨final, _, hfinal, hread, ?_, fun hnot => absurd ⟨party, rfl⟩ hnot⟩
    intro _ name hname
    have hfirst : (party.count issues opening).Keeps name := hname.encounterAll _
    have hsecond : (party.other.count issues (party.count issues opening).paired).Keeps name :=
      hfirst.paired.encounterAll _
    rw [hsecond.encounters_paired, Party.encounters_count, hfirst.encounters_paired,
      Party.encounters_count]
    cases party with
    | first => rfl
    | second => exact Int.add_right_comm ..
  · obtain ⟨hother, -⟩ := last.other.writable_both hstart hfits
    obtain ⟨hlast, -⟩ := last.writable_both hstart hfits
    obtain ⟨final, hfinal, hread⟩ := hshows.run_overlapping start hother hlast
    refine ⟨final, _, hfinal, hread, ?_, ?_⟩
    · rintro ⟨party, hturns⟩
      cases hturns
    · refine fun _ => ⟨last, rfl, fun name hname => ?_⟩
      have hcounted : (last.count issues opening).Keeps name := hname.encounterAll _
      rw [hcounted.encounters_paired, Party.encounters_count]

end Sessions

end Runs

open scoped Machine

def start {σ : Type} (store : σ) (key : String) : Shared σ :=
  { key, store, held := fun _ => ∅ }

def oneEach : Party → List Issue :=
  fun _ => [Issue.noIssues]

theorem writable_oneEach (party : Party) : (party.count oneEach ∅).Writable := by
  have hone : (Ledger.unresolved ("success" : String) 1).Writable := Ledger.writable_unresolved_one
  exact hone

/-- Of two issues only one is stored if both sessions load first. -/
theorem not_encounters_after_sessions :
    ¬∀ (store : MemoryStore) (key : String) (issues : Party → List Issue) (turns : List Turn),
      Store.get store key = .ok .null →
      Interleaves (Party.first.session (issues .first)) (Party.second.session (issues .second))
        turns →
      ∃ final ledger, Store.get ((start store key).run turns).store key = .ok final ∧
        Ledger.ofRecord? final = .ok ledger ∧
        ∀ name, ledger.encounters name =
          Party.first.tally issues name + Party.second.tally issues name := by
  intro hclaim
  let turns : List Turn := [.load .first, .load .second, .record .first (oneEach .first),
    .record .second (oneEach .second)]
  have hturns : Interleaves (Party.first.session (oneEach .first))
      (Party.second.session (oneEach .second)) turns :=
    .left (.right (.left (.right .nil)))
  obtain ⟨final, ledger, hfinal, hread, hcounts⟩ :=
    hclaim ∅ Tracker.defaultKey oneEach turns rfl hturns
  have hopening : Offers .null ∅ := .ignored rfl rfl rfl
  have hshows : (start (∅ : MemoryStore) Tracker.defaultKey).Shows
      { stored := ∅, held := fun _ => ∅ } :=
    ⟨works_memory ∅, rfl, .null, rfl, hopening, fun _ _ => rfl⟩
  obtain ⟨stored, hstored, hlast⟩ := hshows.run_overlapping .first
    (writable_oneEach Party.second.other) (writable_oneEach .second)
  obtain rfl := Except.ok.inj (hfinal.symm.trans hstored)
  obtain rfl := Except.ok.inj (hread.symm.trans hlast)
  have hone : (Party.second.count oneEach ∅).paired.encounters ("success" : String) = 1 := by
    have hjoined : (Party.second.count oneEach ∅).Joined := Ledger.joined_empty.encounterAll _
    rw [Ledger.paired_of_joined hjoined, Party.encounters_count]
    rfl
  have htwo := hone.symm.trans (hcounts ("success" : String))
  exact absurd htwo (by decide)

def newFile : FileStore :=
  { path := FileStore.soleFile, workspace := FileStore.bareTree }

/-- Both issues are stored if the second session begins after the first one. -/
theorem encounters_after_sessions_apart :
    Works newFile ∧
      ∃ final ledger,
        Store.get ((start newFile Tracker.defaultKey).run (Party.first.session (oneEach .first) ++
          Party.second.session (oneEach .second))).store Tracker.defaultKey = .ok final ∧
        Ledger.ofRecord? final = .ok ledger ∧ ledger.encounters ("success" : String) = 2 := by
  have hmissing : newFile.workspace.isPresent newFile.path = .ok false := by decide +kernel
  have hwrite : newFile.workspace.CanWrite newFile.path := by
    intro content
    exact congrArg Prod.fst (FileStore.written_inDirectory content)
  have hworks : Works newFile := FileStore.works_of_canWrite (.missing hmissing) hwrite
  have hread : newFile.readAll = .ok ∅ := (FileStore.Opens.missing hmissing).readAll
  have hget : Store.get newFile Tracker.defaultKey = .ok .null := by
    simp only [Store.get, hread, Except.map]
    rfl
  have hfits (type : IssueType) : fitsDigitLimit (Ledger.encounters ∅ type.tag +
      Party.first.tally oneEach type.tag + Party.second.tally oneEach type.tag) = true := by
    apply fitsDigitLimit_of_lt
    have hfirst : Party.first.tally oneEach type.tag ≤ 1 := List.countP_le_length
    have hsecond : Party.second.tally oneEach type.tag ≤ 1 := List.countP_le_length
    have hnone : Ledger.encounters ∅ type.tag = 0 := rfl
    omega
  have hturns : Interleaves (Party.first.session (oneEach .first))
      (Party.second.session (oneEach .second))
      (Party.first.session (oneEach .first) ++ Party.second.session (oneEach .second)) :=
    .left (.left (.right (.right .nil)))
  have hstart : Works (start newFile Tracker.defaultKey).store := hworks
  obtain ⟨final, ledger, hfinal, hledger, hboth, -⟩ :=
    encounters_after_sessions hstart hget (.ignored rfl rfl rfl) (fun _ _ => rfl) hfits hturns
  have hcount := hboth ⟨.first, rfl⟩ ("success" : String) (.inr ⟨.success, rfl⟩)
  exact ⟨hworks, final, ledger, hfinal, hledger, hcount⟩

end Shared
end SnippetCoach
