import SnippetCoach.Feedback.Synthesis
import SnippetCoach.Proofs.Outcome
import SnippetCoach.Proofs.Rule.Findings
import SnippetCoach.Proofs.Tag
/-! Kinds by tag and kinds by message: for the issues of a snippet both teach the same. -/
namespace SnippetCoach
open Text

/-- The issue without its kind, which its message alone then tells. -/
def Issue.erase (issue : Issue) : Issue :=
  { issue with kind := none }

theorem flatten_map_ite {α β : Type} (test : α → Bool) (f : α → β) (items : List α) :
    (items.map fun a => if test a then [f a] else []).flatten = (items.filter test).map f := by
  induction items with
  | nil => rfl
  | cons a items ih =>
      rw [List.map_cons, List.flatten_cons, ih, List.filter_cons]
      split <;> rfl

theorem RuleKind.ofMessage?_str (text : String) :
    ofMessage? (.str text) =
      some ((fragments.filter fun entry => mentions text.toList entry.1).map Prod.snd) := by
  have hfound : (fragments.mapM fun entry => do
      return if ← holds? (.str text) entry.1 then [entry.2] else []) =
      some (fragments.map fun entry => if mentions text.toList entry.1 then [entry.2] else []) :=
    List.mapM_pure
  rw [← flatten_map_ite]
  exact congrArg (Option.map List.flatten) hfound

namespace RuleKind

/-- A fixed message tells its own kind, if that has a fragment, and no other. -/
theorem told_by_message {kind : RuleKind} (named : kind ≠ .unusedVariable) :
    (fragments.filter fun entry => mentions (kind.message "").toList entry.1).map Prod.snd =
      if kind ∈ fragments.map Prod.snd then [kind] else [] := by
  cases kind with
  | unusedVariable => exact absurd rfl named
  | _ => rfl

theorem lessonFor?_of_no_fragment {kind : RuleKind} {beginner : Bool} {type : IssueType}
    (h : kind ∉ fragments.map Prod.snd) : kind.lessonFor? beginner type = none := by
  have hlesson : kind.lesson? beginner = none := by
    cases kind with
    | incompleteBaseCase | infiniteLoop | memoryLeak | missingSemicolon | nullReference =>
        exact absurd (by decide) h
    | _ => rfl
  rw [lessonFor?, hlesson, ite_self]

end RuleKind

/-- A word holds no blank, so that nothing beginning with one reaches into it. -/
theorem blank_infix_word_append {name rest : List Char} (word : ∀ c ∈ name, isWordChar c = true)
    (d : Char) : [' ', d] <:+: name ++ rest ↔ [' ', d] <:+: rest := by
  induction name with
  | nil => rfl
  | cons c name ih =>
      obtain ⟨hc, hname⟩ := List.forall_mem_cons.mp word
      have hblank : ' ' ≠ c := by
        rintro rfl
        exact absurd hc (by decide)
      rw [List.cons_append, List.infix_cons_iff, ih hname, or_iff_right]
      exact fun h => hblank (List.cons_prefix_cons.mp h).1

/-- The message on an unused variable, whatever its name, mentions no null reference. -/
theorem not_mentions_nullReference {name : List Char} (word : ∀ c ∈ name, isWordChar c = true) :
    mentions (RuleKind.message .unusedVariable (String.ofList name)).toList "null reference" =
      false := by
  rw [Bool.eq_false_iff, mentions, Ne, occursIn_iff]
  intro h
  have hpart : [' ', 'r'] <:+: "null reference".toList :=
    ⟨"null".toList, "eference".toList, rfl⟩
  have htext : (RuleKind.message .unusedVariable (String.ofList name)).toList =
      "Variable".toList ++ (' ' :: '\'' :: (name ++ "' is assigned but never used".toList)) := by
    simp [RuleKind.message]
  have hopening : ∀ c ∈ "Variable".toList, isWordChar c = true := List.all_eq_true.mp rfl
  have hclosing : ¬[' ', 'r'] <:+: "' is assigned but never used".toList := by
    rw [← occursIn_iff]
    decide
  have hmessage := hpart.trans h
  rw [htext, blank_infix_word_append hopening, List.infix_cons_iff, List.infix_cons_iff,
    blank_infix_word_append word] at hmessage
  rcases hmessage with hblank | hquote | hrest
  · have hletter := (List.cons_prefix_cons.mp (List.cons_prefix_cons.mp hblank).2).1
    exact absurd hletter (by decide)
  · exact absurd (List.cons_prefix_cons.mp hquote).1 (by decide)
  · exact hclosing hrest

namespace Issue

theorem lessons_of_kind {issue : Issue} {kind : RuleKind} (h : issue.kind = some kind)
    (beginner : Bool) :
    issue.lessons beginner = .ok (kind.lessonFor? beginner issue.type).toList := by
  rw [lessons, kinds, h]
  cases hlesson : kind.lessonFor? beginner issue.type <;> simp [Except.map, hlesson]

theorem lessons_erase {issue : Issue} {text : String} (h : issue.message = .str text)
    (beginner : Bool) :
    issue.erase.lessons beginner =
      .ok (((RuleKind.fragments.filter fun entry => mentions text.toList entry.1).map
        Prod.snd).filterMap (·.lessonFor? beginner issue.type)) := by
  simp only [lessons, kinds, erase, h, RuleKind.ofMessage?_str, Except.map]

theorem lessons_erase_plain {kind : RuleKind} (named : kind ≠ .unusedVariable) (line : Nat)
    (beginner : Bool) :
    (ofFinding (.plain kind line)).erase.lessons beginner =
      (ofFinding (.plain kind line)).lessons beginner := by
  have hmessage : (ofFinding (.plain kind line)).message = .str (kind.message "") := rfl
  have hkind : (ofFinding (.plain kind line)).kind = some kind := rfl
  rw [lessons_erase hmessage, lessons_of_kind hkind, RuleKind.told_by_message named]
  split
  · rw [List.filterMap_cons, List.filterMap_nil]
    split <;> rename_i hlesson <;> rw [hlesson] <;> rfl
  · rename_i hfragment
    rw [List.filterMap_nil, RuleKind.lessonFor?_of_no_fragment hfragment]
    rfl

/-- A name can tell another kind, but none with a lesson on style. -/
theorem lessons_erase_unused {name : List Char} (word : ∀ c ∈ name, isWordChar c = true)
    {issue : Issue} (hkind : issue.kind = some .unusedVariable) (htype : issue.type = .style)
    (hmessage : issue.message = .str (RuleKind.message .unusedVariable (String.ofList name)))
    (beginner : Bool) : issue.erase.lessons beginner = issue.lessons beginner := by
  rw [lessons_erase hmessage, lessons_of_kind hkind, htype]
  have hnone : ((RuleKind.fragments.filter fun entry =>
      mentions (RuleKind.message .unusedVariable (String.ofList name)).toList entry.1).map
        Prod.snd).filterMap (·.lessonFor? beginner .style) = [] := by
    refine List.filterMap_eq_nil_iff.mpr fun kind hmem => ?_
    obtain ⟨entry, hentry, rfl⟩ := List.mem_map.mp hmem
    obtain ⟨hfragment, hmentioned⟩ := List.mem_filter.mp hentry
    simp only [RuleKind.fragments, List.mem_cons, List.not_mem_nil, or_false] at hfragment
    rcases hfragment with rfl | rfl | rfl | rfl | rfl
    · rfl
    · rfl
    · rfl
    · rfl
    · rw [not_mentions_nullReference word] at hmentioned
      exact nomatch hmentioned
  rw [hnone]
  rfl

end Issue

theorem lessons_erase_of_mem_detect {code : String} {language : Option Language} {issue : Issue}
    (h : issue ∈ detect code language) (beginner : Bool) :
    issue.erase.lessons beginner = issue.lessons beginner := by
  rw [detect] at h
  split at h
  · rw [List.mem_singleton.mp h]
    exact Issue.lessons_erase_plain (by decide) 0 beginner
  · obtain ⟨finding, hfinding, rfl⟩ := List.mem_map.mp h
    obtain ⟨kind, -, hemitted⟩ := List.mem_flatMap.mp hfinding
    cases emitted_of_mem_findings hemitted with
    | plain named line => exact Issue.lessons_erase_plain named line beginner
    | unused word line => exact Issue.lessons_erase_unused word rfl rfl rfl beginner

theorem exists_lessons_of_mem_detect {code : String} {language : Option Language} {issue : Issue}
    (h : issue ∈ detect code language) (beginner : Bool) :
    ∃ lessons, issue.lessons beginner = .ok lessons ∧
      issue.erase.lessons beginner = .ok lessons := by
  have hkind : ∃ kind, issue.kind = some kind := by
    rw [detect] at h
    split at h
    · exact ⟨.noIssues, List.mem_singleton.mp h ▸ rfl⟩
    · obtain ⟨finding, -, rfl⟩ := List.mem_map.mp h
      exact ⟨finding.kind, rfl⟩
  obtain ⟨kind, hkind⟩ := hkind
  refine ⟨_, Issue.lessons_of_kind hkind beginner, ?_⟩
  rw [lessons_erase_of_mem_detect h, Issue.lessons_of_kind hkind]

theorem exists_mapM_lessons {issues : List Issue} {beginner : Bool}
    (h : ∀ issue ∈ issues, ∃ lessons, issue.lessons beginner = .ok lessons ∧
      issue.erase.lessons beginner = .ok lessons) :
    ∃ lessons, issues.mapM (Issue.lessons beginner) = .ok lessons ∧
      (issues.map Issue.erase).mapM (Issue.lessons beginner) = .ok lessons := by
  induction issues with
  | nil => exact ⟨[], rfl, rfl⟩
  | cons issue issues ih =>
      obtain ⟨⟨lessons, htagged, herased⟩, hrest⟩ := List.forall_mem_cons.mp h
      obtain ⟨more, hmore, hmoreErased⟩ := ih hrest
      refine ⟨lessons :: more, ?_, ?_⟩
      · rw [List.mapM_cons, htagged, hmore]
        rfl
      · rw [List.map_cons, List.mapM_cons, herased, hmoreErased]
        rfl

theorem exists_synthesize_detect (code : String) (language : Option Language) (beginner : Bool) :
    ∃ feedback, Feedback.synthesize (detect code language) beginner = .ok feedback := by
  obtain ⟨lessons, hlessons, -⟩ := exists_mapM_lessons fun issue
    (hissue : issue ∈ detect code language) => exists_lessons_of_mem_detect hissue beginner
  rw [Feedback.synthesize, hlessons]
  split
  · exact ⟨_, rfl⟩
  · exact ⟨_, rfl⟩

/-- The text of the skill level is all that can be missing where the issues have feedback. -/
theorem Feedback.forLearner_eq {issues : List Issue} {skillLevel : GivenTag} {feedback : Feedback}
    (h : synthesize issues skillLevel.isBeginner = .ok feedback) :
    forLearner issues skillLevel = (skillLevel.whenWritable feedback).mapError .tag := by
  rw [forLearner, GivenTag.isBeginner?]
  cases hwritable : skillLevel.isWritable with
  | true =>
      simp only [GivenTag.whenWritable_of_writable hwritable, Except.mapError, bind, Except.bind, h]
  | false =>
      simp only [GivenTag.whenWritable_of_not_writable hwritable, Except.mapError, bind,
        Except.bind]

/-- Without their kinds the issues of a snippet have the same feedback, and there is one; a learner
is told it unless the skill level has no text. -/
theorem synthesize_erase (code : String) (language skillLevel : GivenTag) :
    ∃ feedback,
      Feedback.synthesize (detect code language.language?) skillLevel.isBeginner = .ok feedback ∧
      Feedback.synthesize ((detect code language.language?).map Issue.erase)
        skillLevel.isBeginner = .ok feedback ∧
      Feedback.forLearner (detect code language.language?) skillLevel =
        (skillLevel.whenWritable feedback).mapError .tag ∧
      Feedback.forLearner ((detect code language.language?).map Issue.erase) skillLevel =
        (skillLevel.whenWritable feedback).mapError .tag := by
  have hlessons := exists_mapM_lessons fun issue
    (hissue : issue ∈ detect code language.language?) =>
      exists_lessons_of_mem_detect hissue skillLevel.isBeginner
  obtain ⟨feedback, hfeedback⟩ :=
    exists_synthesize_detect code language.language? skillLevel.isBeginner
  generalize detect code language.language? = issues at hlessons hfeedback ⊢
  obtain ⟨lessons, htagged, herased⟩ := hlessons
  have hhead : (issues.map Issue.erase).head?.any (·.type == .success) =
      issues.head?.any (·.type == .success) := by
    cases issues <;> rfl
  have hhigh : (issues.map Issue.erase).countP (·.severity == .high) =
      issues.countP (·.severity == .high) := List.countP_map
  have hlogic : (issues.map Issue.erase).any (·.type == .logic) =
      issues.any (·.type == .logic) := List.any_map
  have hsame : Feedback.synthesize (issues.map Issue.erase) skillLevel.isBeginner =
      Feedback.synthesize issues skillLevel.isBeginner := by
    rw [Feedback.synthesize, Feedback.synthesize, hhead, hhigh, hlogic, htagged, herased]
  have herasedFeedback := hsame.trans hfeedback
  exact ⟨feedback, hfeedback, herasedFeedback, Feedback.forLearner_eq hfeedback,
    Feedback.forLearner_eq herasedFeedback⟩

end SnippetCoach
