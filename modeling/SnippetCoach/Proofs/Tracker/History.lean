import SnippetCoach.Proofs.Progress.Entries
import SnippetCoach.Proofs.Tracker.Writes
/-! Saved history. A session that read the store, or wrote to it before, only ever adds to the
encounters that are stored; one that did neither replaces them by its own. -/
namespace SnippetCoach
open Number

inductive Change where
  | record (issues : List Issue)
  | resolve (type : WideText) (count : Int)

def Change.call : Change → Call
  | record issues => .record issues
  | resolve type count => .resolve type count

/-- A session: a fresh tracker that loads once and then makes changes. The store can refuse the
reading and each writing. -/
structure Visit where
  onGet : Option StoreError
  changes : List (Change × Option StoreError)

def Visit.steps (visit : Visit) : List Attempt :=
  { onGet := none, onSet := none, action := .fresh } ::
    { onGet := visit.onGet, onSet := none, action := .call .load } ::
      visit.changes.map fun (change, onSet) =>
        { onGet := none, onSet, action := .call change.call }

namespace Ledger

variable {ledger : Ledger}

theorem Sound.encounters_nonneg (h : ledger.Sound) (name : WideText) :
    0 ≤ ledger.encounters name := by
  rw [encounters]
  cases hget : ledger.get? name with
  | none => exact Int.le_refl 0
  | some entry =>
      have hpos := (h _ (OrderedMap.mem_entries_of_get? hget)).2.encountered
      exact Int.le_trans (by decide) hpos

theorem encounters_le_encounterAll (ledger : Ledger) (types : List IssueType) (name : WideText) :
    ledger.encounters name ≤ (ledger.encounterAll types).encounters name := by
  rw [encounters_encounterAll]
  omega

/-- Nothing but a reset takes encounters away. -/
theorem encounters_le_written {call : Call} {written : Ledger} (hcall : call ≠ .reset)
    (h : call.written? ledger = some written) (name : WideText) :
    ledger.encounters name ≤ written.encounters name := by
  cases call with
  | load => exact nomatch h
  | record issues => exact Option.some.inj h ▸ ledger.encounters_le_encounterAll _ name
  | resolve type count =>
      obtain ⟨entry, hget, rfl⟩ := Option.map_eq_some_iff.mp h
      rw [encounters_set]
      split
      · rename_i hname
        rw [hname, encounters, hget]
        exact Int.le_refl _
      · exact Int.le_refl _
  | reset => exact absurd rfl hcall
  | save => exact Option.some.inj h ▸ Int.le_refl _

end Ledger

theorem action_ne_reset_of_mem_steps {visits : List Visit} {attempt : Attempt}
    (h : attempt ∈ visits.flatMap Visit.steps) : attempt.action ≠ .call .reset := by
  obtain ⟨visit, -, hstep⟩ := List.mem_flatMap.mp h
  rcases List.mem_cons.mp hstep with rfl | hstep
  · exact nofun
  · rcases List.mem_cons.mp hstep with rfl | hchange
    · exact nofun
    · obtain ⟨⟨change, onSet⟩, -, rfl⟩ := List.mem_map.mp hchange
      cases change <;> exact nofun

section Sessions

variable [Machine]

namespace Tracker

variable {tracker : Tracker (FaultyStore MemoryStore)} {attempt : Attempt}

/-- The encounters of a type in the stored record; none without a record. -/
def storedEncounters (tracker : Tracker (FaultyStore MemoryStore)) (type : IssueType) : Int :=
  match tracker.stored? with
  | none => 0
  | some stored =>
    match Ledger.ofRecord? stored with
    | .ok ledger => ledger.encounters type.tag
    | .error _ => 0

theorem storedEncounters_of_record {ledger : Ledger} (hwritable : ledger.Writable)
    (hjoined : ledger.Joined) (h : tracker.stored? = some (.str ledger.record)) (type : IssueType) :
    tracker.storedEncounters type = ledger.encounters type.tag := by
  simp only [storedEncounters, h, Ledger.ofRecord?_record hwritable hjoined]

theorem storedEncounters_congr {other : Tracker (FaultyStore MemoryStore)}
    (h : other.stored? = tracker.stored?) (type : IssueType) :
    other.storedEncounters type = tracker.storedEncounters type := by
  rw [storedEncounters, storedEncounters, h]

/-- No less is in memory than in the store. -/
def Covers (tracker : Tracker (FaultyStore MemoryStore)) : Prop :=
  ∀ type : IssueType, tracker.storedEncounters type ≤ tracker.progress.encounters type.tag

theorem Kept.covers_puts (hkept : tracker.Kept) {ledger : Ledger}
    (h : tracker.puts? attempt = some ledger) : (tracker.attempt attempt).Covers := by
  have hafter := tracker.stored?_attempt attempt
  rw [h] at hafter
  obtain ⟨hwritable, call, haction, hwritten⟩ := puts?_eq_some h
  have hload : call ≠ .load := by
    rintro rfl
    exact nomatch hwritten
  have hprogress : (tracker.attempt attempt).progress = ledger := by
    obtain ⟨onGet, onSet, action⟩ := attempt
    obtain rfl : action = .call call := haction
    rw [attempt_call, progress_after hload, told_progress, hwritten, Option.getD_some]
  have hjoined := (hkept.memory.written hwritten).joined
  intro type
  rw [storedEncounters_of_record hwritable hjoined hafter, hprogress]

/-- A tracker that reads its store has all that is stored in memory. -/
theorem Kept.covers_load (hkept : tracker.Kept) (h : tracker.store.onGet = none) :
    (tracker.after .load).Covers := by
  intro type
  rw [storedEncounters_congr tracker.stored?_load]
  cases hstored : tracker.stored? with
  | none =>
      rw [storedEncounters, hstored]
      exact hkept.load.memory.encounters_nonneg _
  | some stored =>
      obtain ⟨ledger, rfl, hread, -⟩ := hkept.store stored hstored
      have hget : Store.get tracker.store tracker.key = .ok (.str ledger.record) := by
        rw [stored?] at hstored
        simp only [Store.get, h, hstored, Option.getD_some]
      simp only [storedEncounters, hstored, hread, Tracker.after, perform, Tracker.load, hget,
        accept]
      exact Int.le_refl _

/-- A call that puts nothing into the store takes nothing out of memory. -/
theorem Covers.attempt_call (h : tracker.Covers) {onGet onSet : Option StoreError} {call : Call}
    (hreset : call ≠ .reset) (hreads : ¬(call = .load ∧ onGet = none))
    (hputs : tracker.puts? { onGet, onSet, action := .call call } = none) :
    (tracker.attempt { onGet, onSet, action := .call call }).Covers := by
  have hafter := tracker.stored?_attempt { onGet, onSet, action := .call call }
  rw [hputs] at hafter
  intro type
  rw [storedEncounters_congr hafter, Tracker.attempt_call]
  by_cases hload : call = .load
  · obtain ⟨e, he⟩ := Option.ne_none_iff_exists'.mp fun hnone => hreads ⟨hload, hnone⟩
    rw [hload, progress_load_refused he]
    exact h type
  · rw [progress_after hload, told_progress]
    cases hwritten : call.written? tracker.progress with
    | none => exact h type
    | some ledger => exact Int.le_trans (h type) (Ledger.encounters_le_written hreset hwritten _)

end Tracker

/-- A tracker, and whether it has neither read its store nor written to it. -/
structure Watch where
  tracker : Tracker (FaultyStore MemoryStore)
  blind : Bool

namespace Watch

def start (store : MemoryStore) (key : String) : Watch :=
  { tracker := .new { store, onGet := none, onSet := none } key, blind := true }

def next (watch : Watch) (attempt : Attempt) : Watch :=
  { tracker := watch.tracker.attempt attempt
    blind :=
      match attempt.action with
      | .fresh => true
      | .call .load => watch.blind && attempt.onGet.isSome
      | .call _ => watch.blind && (watch.tracker.puts? attempt).isNone }

def run (watch : Watch) (attempts : List Attempt) : Watch :=
  attempts.foldl next watch

/-- A record is replaced by a tracker that has neither read nor written one. -/
def overwrites (watch : Watch) (attempt : Attempt) : Bool :=
  watch.blind && (watch.tracker.puts? attempt).isSome && watch.tracker.stored?.isSome

/-- No attempt replaces a record unread. -/
def Spares : Watch → List Attempt → Prop
  | _, [] => True
  | watch, attempt :: rest => watch.overwrites attempt = false ∧ (watch.next attempt).Spares rest

theorem run_tracker (watch : Watch) (attempts : List Attempt) :
    (watch.run attempts).tracker = attempts.foldl Tracker.attempt watch.tracker := by
  induction attempts generalizing watch with
  | nil => rfl
  | cons attempt rest ih => exact ih (watch.next attempt)

/-- Memory and store are sound, and a tracker that is not blind has all that is stored in memory. -/
structure Sees (watch : Watch) : Prop where
  kept : watch.tracker.Kept
  covers : watch.blind = false → watch.tracker.Covers

variable {watch : Watch} {attempt : Attempt}

theorem Sees.next (h : watch.Sees) (hreset : attempt.action ≠ .call .reset) :
    (watch.next attempt).Sees := by
  refine ⟨h.kept.attempt attempt, ?_⟩
  obtain ⟨onGet, onSet, action⟩ := attempt
  cases action with
  | fresh => exact nofun
  | call call =>
      have hcall : call ≠ .reset := fun heq => hreset (heq ▸ rfl)
      intro hblind
      cases hputs : watch.tracker.puts? { onGet, onSet, action := .call call } with
      | some ledger => exact h.kept.covers_puts hputs
      | none =>
          by_cases hreads : call = .load ∧ onGet = none
          · obtain ⟨rfl, rfl⟩ := hreads
            have htold : (watch.tracker.told none onSet).Kept := h.kept.of_same h.kept.memory rfl
            exact htold.covers_load rfl
          · have hseen : watch.blind = false := by
              cases call <;> simp_all [Watch.next]
            exact (h.covers hseen).attempt_call hcall hreads hputs

theorem Sees.mono_next (h : watch.Sees) (hreset : attempt.action ≠ .call .reset)
    (hspared : watch.overwrites attempt = false) (type : IssueType) :
    watch.tracker.storedEncounters type ≤ (watch.next attempt).tracker.storedEncounters type := by
  have hafter := watch.tracker.stored?_attempt attempt
  cases hputs : watch.tracker.puts? attempt with
  | none =>
      rw [hputs] at hafter
      exact Int.le_of_eq (Tracker.storedEncounters_congr hafter type).symm
  | some ledger =>
      rw [hputs] at hafter
      obtain ⟨hwritable, call, haction, hwritten⟩ := Tracker.puts?_eq_some hputs
      have hcall : call ≠ .reset := fun heq => hreset (heq ▸ haction)
      have hjoined := (h.kept.memory.written hwritten).joined
      have hledger := Tracker.storedEncounters_of_record hwritable hjoined hafter type
      rw [Watch.next, hledger]
      cases hblind : watch.blind with
      | false =>
          calc watch.tracker.storedEncounters type
              ≤ watch.tracker.progress.encounters type.tag := h.covers hblind type
            _ ≤ ledger.encounters type.tag := Ledger.encounters_le_written hcall hwritten _
      | true =>
          have hnone : watch.tracker.stored? = none := by
            simpa [overwrites, hblind, hputs] using hspared
          rw [Tracker.storedEncounters, hnone]
          exact (h.kept.memory.written hwritten).encounters_nonneg _

theorem Sees.run (h : watch.Sees) {attempts : List Attempt}
    (hreset : ∀ attempt ∈ attempts, attempt.action ≠ .call .reset) :
    (watch.run attempts).Sees := by
  induction attempts generalizing watch with
  | nil => exact h
  | cons attempt rest ih =>
      obtain ⟨hfirst, hrest⟩ := List.forall_mem_cons.mp hreset
      exact ih (h.next hfirst) hrest

theorem Sees.mono_run (h : watch.Sees) {attempts : List Attempt}
    (hreset : ∀ attempt ∈ attempts, attempt.action ≠ .call .reset)
    (hspared : watch.Spares attempts) (type : IssueType) :
    watch.tracker.storedEncounters type ≤ (watch.run attempts).tracker.storedEncounters type := by
  induction attempts generalizing watch with
  | nil => exact Int.le_refl _
  | cons attempt rest ih =>
      obtain ⟨hfirst, hrest⟩ := List.forall_mem_cons.mp hreset
      obtain ⟨hsparedFirst, hsparedRest⟩ := hspared
      exact Int.le_trans (h.mono_next hfirst hsparedFirst type)
        (ih (h.next hfirst) hrest hsparedRest)

end Watch

namespace Tracker

theorem sees_start {store : MemoryStore} {key : String} (h : Begins key store) :
    (Watch.start store key).Sees :=
  ⟨kept_of_begins h, nofun⟩

theorem session_eq_run (store : MemoryStore) (key : String) (steps : List Attempt) :
    session store key steps = ((Watch.start store key).run steps).tracker :=
  (Watch.run_tracker (Watch.start store key) steps).symm

/-- From any point of a run of sessions to a later one no stored count decreases, unless a tracker
that could not read the store, and has not written to it, replaces the record in between. -/
theorem storedEncounters_mono {store : MemoryStore} {key : String} (h : Begins key store)
    {visits : List Visit} {earlier later rest : List Attempt}
    (hrun : visits.flatMap Visit.steps = earlier ++ later ++ rest)
    (hspared : ((Watch.start store key).run earlier).Spares later) (type : IssueType) :
    (session store key earlier).storedEncounters type ≤
      (session store key (earlier ++ later)).storedEncounters type := by
  have hreset : ∀ attempt ∈ earlier ++ later, attempt.action ≠ .call .reset := by
    intro attempt hattempt
    have hmem := List.mem_append_left rest hattempt
    rw [← hrun] at hmem
    exact action_ne_reset_of_mem_steps hmem
  obtain ⟨hearlier, hlater⟩ := List.forall_mem_append.mp hreset
  have hsees := (sees_start h).run hearlier
  have hmono := hsees.mono_run hlater hspared type
  rw [session_eq_run, session_eq_run, Watch.run, Watch.run, List.foldl_append]
  exact hmono

/-- What a tracker without progress counts in one call is what is stored afterwards. -/
theorem storedEncounters_counted {tracker : Tracker (FaultyStore MemoryStore)} {issues : List Issue}
    {count : Nat} (hempty : tracker.progress = ∅) (hcount : count < 10 ^ digitLimit)
    (hissues : Ledger.encounterAll ∅ (issues.map Issue.type) =
      Ledger.unresolved ("success" : String) count) :
    storedEncounters
        (tracker.attempt { onGet := none, onSet := none, action := .call (.record issues) })
        .success = count := by
  have hwritten : (Call.record issues).written? tracker.progress =
      some (Ledger.unresolved ("success" : String) count) := by
    rw [hempty, ← hissues]
    rfl
  have hwritable : (Ledger.unresolved ("success" : String) count).Writable :=
    Ledger.writable_unresolved.mpr hcount
  have hjoined := Ledger.joined_empty.set (WideText.joined_ofString "success")
    { encountered := count, resolved := 0 }
  have hafter := tracker.stored?_attempt
    { onGet := none, onSet := none, action := .call (.record issues) }
  rw [puts?_of_written hwritten hwritable] at hafter
  exact storedEncounters_of_record hwritable hjoined hafter .success

end Tracker

end Sessions

namespace Tracker

/-- A session that counts successes in one call. -/
def countingVisit (count : Nat) (onGet onSet : Option StoreError) : Visit :=
  { onGet, changes := [(.record (List.replicate count Issue.noIssues), onSet)] }

open scoped Machine

/-- A session that cannot read the store replaces two encounters by its own one. -/
theorem not_storedEncounters_mono :
    ¬∀ (store : MemoryStore) (key : String) (visits : List Visit)
        (earlier later rest : List Attempt) (type : IssueType), Begins key store →
      visits.flatMap Visit.steps = earlier ++ later ++ rest →
      (session store key earlier).storedEncounters type ≤
        (session store key (earlier ++ later)).storedEncounters type := by
  intro hclaim
  let first := countingVisit 2 none none
  let second := countingVisit 1 (some (.backend "OSError")) none
  have hlimit : 2 < 10 ^ digitLimit :=
    Nat.lt_trans (by decide : 2 < digitLimit) (Nat.lt_pow_self (by decide))
  have hfirst : (session ∅ "progress" first.steps).storedEncounters .success = 2 :=
    storedEncounters_counted rfl hlimit rfl
  have hsecond :
      (session ∅ "progress" (first.steps ++ second.steps)).storedEncounters .success = 1 :=
    storedEncounters_counted rfl (Nat.lt_trans (by decide) hlimit) rfl
  have hle := hclaim ∅ "progress" [first, second] first.steps second.steps [] .success
    (.unset rfl) rfl
  rw [hfirst, hsecond] at hle
  exact absurd hle (by decide)

/-- A session that can neither read nor write stands between two others. -/
theorem storedEncounters_mono_refused :
    Begins "progress" ∅ ∧
      (session ∅ "progress" (countingVisit 1 none none).steps).storedEncounters .success ≤
        (session ∅ "progress" ((countingVisit 1 none none).steps ++
          ((countingVisit 1 (some (.backend "OSError")) (some (.backend "OSError"))).steps ++
            (countingVisit 1 none none).steps))).storedEncounters .success := by
  have hspared : ((Watch.start ∅ "progress").run (countingVisit 1 none none).steps).Spares
      ((countingVisit 1 (some (.backend "OSError")) (some (.backend "OSError"))).steps ++
        (countingVisit 1 none none).steps) :=
    ⟨rfl, rfl, rfl, rfl, rfl, rfl, trivial⟩
  exact ⟨.unset rfl, storedEncounters_mono (.unset rfl)
    (rfl : [countingVisit 1 none none,
      countingVisit 1 (some (.backend "OSError")) (some (.backend "OSError")),
      countingVisit 1 none none].flatMap Visit.steps = _ ++ _ ++ []) hspared .success⟩

end Tracker
end SnippetCoach
