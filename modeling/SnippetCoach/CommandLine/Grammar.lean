import SnippetCoach.CommandLine.Usage
import SnippetCoach.Text.Digit
/-! The arguments of a command line: which are options and which are values, and what each option
does to the settings of a command. An option can be shortened to any start of a long name that no
other has. -/
namespace SnippetCoach.CommandLine
open Text

/-- Why nothing is run: help was asked for, or the command line is refused. -/
inductive Stop where
  | help
  | refused (e : UsageError)
  deriving DecidableEq, Repr

/-- What an option does, alone or with its value. Two dashes as the value mean that there is
none. -/
inductive Action (α : Type) where
  | flag (apply : α → Except Stop α)
  | value (apply : Option String → α → Except Stop α)

structure OptionSpec (α : Type) where
  names : List String
  action : Action α

def OptionSpec.label {α : Type} (spec : OptionSpec α) : String :=
  "/".intercalate spec.names

/-- What an argument is by its own form. The text attached to an option stands after an equals sign
or right after the letter. -/
inductive Role (α : Type) where
  | value
  | separator
  | option (spec : OptionSpec α) (long : Bool) (attached : Option (List Char))
  | unknown

abbrev Grammar (α : Type) := List (OptionSpec α)

/-- A negative number: digits of any script, with at most one point before the last of them. -/
def isNegativeNumber : List Char → Bool
  | '-' :: rest =>
    let body := if rest.getLast? = some '\n' then rest.dropLast else rest
    let isDigit (c : Char) := (digitValue? c).isSome
    match body.dropWhile isDigit with
    | [] => !body.isEmpty
    | '.' :: fraction => !fraction.isEmpty && fraction.all isDigit
    | _ => false
  | _ => false

/-- The text before the first equals sign, and the text after it. -/
def splitAtSign (argument : List Char) : List Char × Option (List Char) :=
  match argument.dropWhile (· != '=') with
  | '=' :: text => (argument.takeWhile (· != '='), some text)
  | _ => (argument, none)

def isLong (name : List Char) : Bool :=
  ['-', '-'].isPrefixOf name

namespace Grammar

variable {α : Type}

def table (grammar : Grammar α) : List (List Char × OptionSpec α) :=
  grammar.flatMap fun spec => spec.names.map fun name => (name.toList, spec)

def find? (grammar : Grammar α) (name : List Char) : Option (OptionSpec α) :=
  grammar.table.lookup name

/-- The options that an argument can mean that is no exact name, with the name meant. -/
def candidates (grammar : Grammar α) (argument : List Char) :
    List (List Char × OptionSpec α × Option (List Char)) :=
  if isLong argument then
    let (start, attached) := splitAtSign argument
    (grammar.table.filter fun entry => start.isPrefixOf entry.1).map fun (name, spec) =>
      (name, spec, attached)
  else
    (grammar.table.filter fun entry => entry.1 == argument.take 2).map fun (name, spec) =>
      (name, spec, some (argument.drop 2))

def role (grammar : Grammar α) (argument : String) : Except UsageError (Role α) :=
  let text := argument.toList
  let (name, attached) := splitAtSign text
  if text.head? != some '-' then .ok .value
  else if let some spec := grammar.find? text then .ok (.option spec (isLong text) none)
  else if text.length = 1 then .ok .value
  else if let (some spec, true) := (grammar.find? name, attached.isSome) then
    .ok (.option spec (isLong name) attached)
  else
    match grammar.candidates text with
    | [(name, spec, attached)] => .ok (.option spec (isLong name) attached)
    | [] => .ok (if isNegativeNumber text || text.contains ' ' then .value else .unknown)
    | several =>
      .error (.ambiguous argument (several.map fun candidate => String.ofList candidate.1))

/-- All arguments with their roles. After the separator there are values only. -/
def roles (grammar : Grammar α) : List String → Except UsageError (List (String × Role α))
  | [] => .ok []
  | argument :: rest =>
    if argument = "--" then .ok ((argument, .separator) :: rest.map (·, .value))
    else do
      let role ← grammar.role argument
      return (argument, role) :: (← grammar.roles rest)

end Grammar

/-- What a command line tells, piece by piece. A refusal is the last piece. -/
inductive Piece (α : Type) where
  | change (apply : α → Except Stop α)
  | operand (text : String)
  | unrecognized (text : String)
  | refused (e : UsageError)

/-- The operands of a grammar: none, at most one, or the first one and whatever follows it. -/
inductive Operands where
  | none
  | one
  | all
  deriving DecidableEq, Repr

/-- What an option gives, and whether it uses the value after it. -/
abbrev Taken (α : Type) := Except UsageError (List (Piece α) × Bool)

def takeBare {α : Type} (spec : OptionSpec α) (next : Option String) : Taken α :=
  match spec.action, next with
  | .flag apply, _ => .ok ([.change apply], false)
  | .value apply, some value => .ok ([.change (apply (some value))], true)
  | .value _, none => .error (.missingValue spec.label)

/-- An option with more in its argument: its value, or the letters of further options after the one
of a flag. -/
def takeAttached {α : Type} (grammar : Grammar α) (next : Option String) (spec : OptionSpec α)
    (long : Bool) (text : List Char) : Taken α :=
  match spec.action, text with
  | .value apply, _ =>
    let value := if text = ['-', '-'] then none else some (String.ofList text)
    .ok ([.change (apply value)], false)
  | .flag _, [] => .error (.unexpectedValue spec.label "")
  | .flag apply, c :: rest =>
    match if long then none else grammar.find? ['-', c], rest with
    | none, _ => .error (.unexpectedValue spec.label (String.ofList (c :: rest)))
    | some other, [] =>
      (takeBare other next).map fun (pieces, usesNext) => (.change apply :: pieces, usesNext)
    | some other, d :: more =>
      (takeAttached grammar next other false (d :: more)).map fun (pieces, usesNext) =>
        (.change apply :: pieces, usesNext)

def takeOption {α : Type} (grammar : Grammar α) (next : Option String) (spec : OptionSpec α)
    (long : Bool) : Option (List Char) → Taken α
  | none => takeBare spec next
  | some text => takeAttached grammar next spec long text

def nextValue? {α : Type} : List (String × Role α) → Option String
  | (text, .value) :: _ => some text
  | _ => none

def dropUsed {α : Type} (used : Bool) (arguments : List α) : List α :=
  if used then arguments.drop 1 else arguments

theorem length_dropUsed_le {α : Type} (used : Bool) (arguments : List α) :
    (dropUsed used arguments).length ≤ arguments.length := by
  cases used <;> simp [dropUsed]

/-- The pieces of arguments whose roles are known. A separator before or after the one operand is
dropped. -/
def pieces {α : Type} (grammar : Grammar α) :
    Operands → List (String × Role α) → List (Piece α)
  | _, [] => []
  | operands, (_, .option spec long attached) :: rest =>
    match takeOption grammar (nextValue? rest) spec long attached with
    | .error e => [.refused e]
    | .ok (found, usesNext) => found ++ pieces grammar operands (dropUsed usesNext rest)
  | operands, (text, .unknown) :: rest => .unrecognized text :: pieces grammar operands rest
  | .one, (text, .value) :: (_, .separator) :: rest => .operand text :: pieces grammar .none rest
  | .one, (text, .value) :: rest => .operand text :: pieces grammar .none rest
  | .one, (_, .separator) :: (text, _) :: rest => .operand text :: pieces grammar .none rest
  | .one, [(_, .separator)] => []
  | .all, (text, .value) :: rest => .operand text :: rest.map fun entry => .operand entry.1
  | .all, (text, .separator) :: next :: rest =>
    .operand text :: (next :: rest).map fun entry => .operand entry.1
  | operands, (text, _) :: rest => .unrecognized text :: pieces grammar operands rest
termination_by _ arguments => arguments.length
decreasing_by
  · have hrest := length_dropUsed_le usesNext rest
    simp only [List.length_cons]
    omega
  all_goals
    simp only [List.length_cons]
    omega

end SnippetCoach.CommandLine
