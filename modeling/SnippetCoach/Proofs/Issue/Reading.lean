import SnippetCoach.Issue.Document
import SnippetCoach.Proofs.Tag.Vocabulary
/-! Which objects are issues: why the others are refused, and what the fields say. -/
namespace SnippetCoach

namespace Issue

variable {fields : List (String × Json)} {issue : Issue} {e : IssueError}

/-- How the kind is read: an empty value is none. -/
def readKind (fields : List (String × Json)) : Except IssueError (Option RuleKind) :=
  if ((fields.lookup "kind").getD .null).isEmptyValue then pure none
  else (Tags.kinds.read ((fields.lookup "kind").getD .null)).map some

theorem ofJson?_obj (fields : List (String × Json)) :
    ofJson? (.obj fields) = do
      let type ← Tags.types.read
        ((fields.lookup "type").getD (.str (Tags.types.tag .success)))
      let severity ← Tags.severities.read
        ((fields.lookup "severity").getD (.str (Tags.severities.tag .clear)))
      let kind ← readKind fields
      return ({ type, severity, kind
                message := (fields.lookup "message").getD (.str "")
                explanation := (fields.lookup "explanation").getD (.str "")
                line := (fields.lookup "line").getD .null } : Issue) := by
  unfold ofJson? readKind
  dsimp only
  cases ((fields.lookup "kind").getD .null).isEmptyValue <;> rfl

/-- The value names the kind, or is an empty value, which names none. -/
def NamesKind (value : Json) : Option RuleKind → Prop
  | none => value.isEmptyValue = true
  | some kind => value = .str kind.tag

theorem isEmptyValue_tag (kind : RuleKind) : (Json.str kind.tag).isEmptyValue = false := by
  cases kind <;> rfl

theorem readKind_eq_ok_iff {kind : Option RuleKind} :
    readKind fields = .ok kind ↔ NamesKind ((fields.lookup "kind").getD .null) kind := by
  rw [readKind]
  generalize (fields.lookup "kind").getD .null = value
  cases hempty : value.isEmptyValue with
  | true =>
      rw [if_pos rfl]
      cases kind with
      | none => exact iff_of_true rfl hempty
      | some kind =>
          refine iff_of_false nofun ?_
          rintro rfl
          exact nomatch hempty.symm.trans (isEmptyValue_tag kind)
  | false =>
      rw [if_neg Bool.false_ne_true]
      cases kind with
      | none =>
          refine iff_of_false ?_ (Bool.eq_false_iff.mp hempty)
          rw [map_eq_ok_iff]
          rintro ⟨kind, -, hkind⟩
          exact nomatch hkind
      | some kind =>
          rw [map_eq_ok_iff]
          simp only [Option.some.injEq, exists_eq_right]
          exact Tags.read_eq_ok_iff

theorem readKind_eq_error_iff :
    readKind fields = .error e ↔ ∃ value, Tags.kinds.Foreign "kind" fields value ∧
      value.isEmptyValue = false ∧ e = .unknownTag { vocabulary := .ruleKind, value } := by
  constructor
  · intro h
    rw [readKind] at h
    split at h
    · exact nomatch h
    · rename_i hfilled
      obtain ⟨rfl, hforeign⟩ := Tags.read_eq_error_iff.mp (map_eq_error_iff.mp h)
      cases hlookup : fields.lookup "kind" with
      | none =>
          rw [hlookup] at hfilled
          exact absurd rfl hfilled
      | some value =>
          rw [hlookup] at hfilled hforeign
          exact ⟨value, ⟨hlookup, hforeign⟩, Bool.eq_false_iff.mpr hfilled, rfl⟩
  · rintro ⟨value, ⟨hlookup, hforeign⟩, hfilled, rfl⟩
    have hread : Tags.kinds.read value = .error (.unknownTag { vocabulary := .ruleKind, value }) :=
      Tags.read_eq_error_iff.mpr ⟨rfl, hforeign⟩
    rw [readKind, hlookup, Option.getD_some, if_neg (Bool.eq_false_iff.mp hfilled), hread]
    rfl

/-- Why an object is no issue. Of several reasons the type counts first, and the severity counts
before the kind. -/
inductive Refused (fields : List (String × Json)) : UnknownTag → Prop where
  | type {value : Json} (foreign : Tags.types.Foreign "type" fields value) :
      Refused fields { vocabulary := .issueType, value }
  | severity {value : Json} (typed : ∀ value, ¬Tags.types.Foreign "type" fields value)
      (foreign : Tags.severities.Foreign "severity" fields value) :
      Refused fields { vocabulary := .severity, value }
  | kind {value : Json} (typed : ∀ value, ¬Tags.types.Foreign "type" fields value)
      (graded : ∀ value, ¬Tags.severities.Foreign "severity" fields value)
      (foreign : Tags.kinds.Foreign "kind" fields value) (filled : value.isEmptyValue = false) :
      Refused fields { vocabulary := .ruleKind, value }

/-- The object has a type, a severity or a kind that is the tag of none. A kind that is an empty
value stands for no kind. -/
def HasForeign (fields : List (String × Json)) : Prop :=
  (∃ value, Tags.types.Foreign "type" fields value) ∨
    (∃ value, Tags.severities.Foreign "severity" fields value) ∨
      ∃ value, Tags.kinds.Foreign "kind" fields value ∧ value.isEmptyValue = false

theorem exists_refused_iff : (∃ refusal, Refused fields refusal) ↔ HasForeign fields := by
  constructor
  · rintro ⟨_, hrefused⟩
    cases hrefused with
    | type hforeign => exact .inl ⟨_, hforeign⟩
    | severity _ hforeign => exact .inr (.inl ⟨_, hforeign⟩)
    | kind _ _ hforeign hfilled => exact .inr (.inr ⟨_, hforeign, hfilled⟩)
  · intro hforeign
    by_cases htype : ∃ value, Tags.types.Foreign "type" fields value
    · obtain ⟨value, htype⟩ := htype
      exact ⟨_, .type htype⟩
    have htyped := not_exists.mp htype
    by_cases hseverity : ∃ value, Tags.severities.Foreign "severity" fields value
    · obtain ⟨value, hseverity⟩ := hseverity
      exact ⟨_, .severity htyped hseverity⟩
    have hgraded := not_exists.mp hseverity
    rcases hforeign with htype' | hseverity' | ⟨value, hkind, hfilled⟩
    · exact absurd htype' htype
    · exact absurd hseverity' hseverity
    · exact ⟨_, .kind htyped hgraded hkind hfilled⟩

theorem ofJson?_eq_error_iff :
    ofJson? (.obj fields) = .error e ↔
      ∃ refusal, e = .unknownTag refusal ∧ Refused fields refusal := by
  rw [ofJson?_obj, bind_eq_error_iff, Tags.read_getD_eq_error_iff]
  constructor
  · rintro (⟨value, hforeign, rfl⟩ | ⟨type, htype, h⟩)
    · exact ⟨_, rfl, .type hforeign⟩
    · have htyped := (Tags.exists_read_getD_iff _).mp ⟨type, htype⟩
      rw [bind_eq_error_iff, Tags.read_getD_eq_error_iff] at h
      rcases h with ⟨value, hforeign, rfl⟩ | ⟨severity, hseverity, h⟩
      · exact ⟨_, rfl, .severity htyped hforeign⟩
      · have hgraded := (Tags.exists_read_getD_iff _).mp ⟨severity, hseverity⟩
        rw [bind_eq_error_iff, readKind_eq_error_iff] at h
        rcases h with ⟨value, hforeign, hfilled, rfl⟩ | ⟨kind, -, h⟩
        · exact ⟨_, rfl, .kind htyped hgraded hforeign hfilled⟩
        · exact nomatch h
  · rintro ⟨_, rfl, hrefused⟩
    cases hrefused with
    | type hforeign => exact .inl ⟨_, hforeign, rfl⟩
    | severity htyped hforeign =>
        obtain ⟨type, htype⟩ := (Tags.exists_read_getD_iff _).mpr htyped
        refine .inr ⟨type, htype, bind_eq_error_iff.mpr (.inl ?_)⟩
        exact (Tags.read_getD_eq_error_iff _).mpr ⟨_, hforeign, rfl⟩
    | kind htyped hgraded hforeign hfilled =>
        obtain ⟨type, htype⟩ := (Tags.exists_read_getD_iff _).mpr htyped
        obtain ⟨severity, hseverity⟩ := (Tags.exists_read_getD_iff _).mpr hgraded
        refine .inr ⟨type, htype, bind_eq_error_iff.mpr (.inr ⟨severity, hseverity, ?_⟩)⟩
        refine bind_eq_error_iff.mpr (.inl ?_)
        exact readKind_eq_error_iff.mpr ⟨_, hforeign, hfilled, rfl⟩

/-- What the fields of an object say about an issue, absent ones by their defaults. -/
structure Reads (fields : List (String × Json)) (issue : Issue) : Prop where
  type : (fields.lookup "type").getD (.str IssueType.success.tag) = .str issue.type.tag
  severity : (fields.lookup "severity").getD (.str Severity.clear.tag) = .str issue.severity.tag
  message : (fields.lookup "message").getD (.str "") = issue.message
  explanation : (fields.lookup "explanation").getD (.str "") = issue.explanation
  line : (fields.lookup "line").getD .null = issue.line
  kind : NamesKind ((fields.lookup "kind").getD .null) issue.kind

theorem ofJson?_eq_ok_iff : ofJson? (.obj fields) = .ok issue ↔ Reads fields issue := by
  rw [ofJson?_obj]
  constructor
  · intro h
    obtain ⟨type, htype, h⟩ := bind_eq_ok_iff.mp h
    obtain ⟨severity, hseverity, h⟩ := bind_eq_ok_iff.mp h
    obtain ⟨kind, hkind, h⟩ := bind_eq_ok_iff.mp h
    obtain rfl := Except.ok.inj h
    exact ⟨Tags.read_eq_ok_iff.mp htype, Tags.read_eq_ok_iff.mp hseverity, rfl, rfl, rfl,
      readKind_eq_ok_iff.mp hkind⟩
  · rintro ⟨htype, hseverity, hmessage, hexplanation, hline, hkind⟩
    have hreadType : Tags.types.read _ = .ok issue.type := Tags.read_eq_ok_iff.mpr htype
    have hreadSeverity : Tags.severities.read _ = .ok issue.severity :=
      Tags.read_eq_ok_iff.mpr hseverity
    refine bind_eq_ok_iff.mpr ⟨_, hreadType, bind_eq_ok_iff.mpr ⟨_, hreadSeverity, ?_⟩⟩
    refine bind_eq_ok_iff.mpr ⟨_, readKind_eq_ok_iff.mpr hkind, ?_⟩
    rw [hmessage, hexplanation, hline]
    rfl

end Issue
end SnippetCoach
