import SnippetCoach.Text.Hex
/-! Text as UTF-8. Decoding is strict: it stops at the first bytes that are no character and tells
where they are and why. -/
namespace SnippetCoach.Text.Utf8

inductive Fault where
  | invalidStart
  | invalidContinuation
  | unexpectedEnd
  deriving DecidableEq, Repr

def Fault.reason : Fault → String
  | invalidStart => "invalid start byte"
  | invalidContinuation => "invalid continuation byte"
  | unexpectedEnd => "unexpected end of data"

/-- The bytes that are no character: their position, the first of them and how many they are. -/
structure DecodeError where
  position : Nat
  first : UInt8
  length : Nat
  fault : Fault
  deriving DecidableEq, Repr

def DecodeError.message (e : DecodeError) : String :=
  let place :=
    if e.length = 1 then
      "byte 0x" ++ String.ofList (hexText 2 e.first.toNat) ++ " in position " ++ toString e.position
    else
      "bytes in position " ++ toString e.position ++ "-" ++ toString (e.position + e.length - 1)
  "'utf-8' codec can't decode " ++ place ++ ": " ++ e.fault.reason

def encode (text : List Char) : List UInt8 :=
  text.flatMap String.utf8EncodeChar

/-- How many bytes a character with this first byte has; 0 if no character begins with it. -/
def lengthOf (lead : UInt8) : Nat :=
  if lead < 0x80 then 1
  else if lead < 0xC2 then 0
  else if lead < 0xE0 then 2
  else if lead < 0xF0 then 3
  else if lead < 0xF5 then 4
  else 0

def isContinuation (b : UInt8) : Bool :=
  0x80 ≤ b && b < 0xC0

/-- A second byte that makes no overlong form, no half of a pair and no code beyond the last. -/
def isSecond (lead b : UInt8) : Bool :=
  isContinuation b && (lead != 0xE0 || 0xA0 ≤ b) && (lead != 0xED || b < 0xA0) &&
    (lead != 0xF0 || 0x90 ≤ b) && (lead != 0xF4 || b < 0x90)

/-- The bytes that can follow a first byte, from the start of the bytes given. -/
def fitting (lead : UInt8) : List UInt8 → List UInt8
  | [] => []
  | b :: rest => if isSecond lead b then b :: rest.takeWhile isContinuation else []

/-- What the first byte adds to the code of a character. -/
def leadValue (lead : UInt8) : Nat :=
  if lead < 0x80 then lead.toNat
  else if lead < 0xE0 then lead.toNat - 0xC0
  else if lead < 0xF0 then lead.toNat - 0xE0
  else lead.toNat - 0xF0

def codeOf (lead : UInt8) (tail : List UInt8) : Nat :=
  tail.foldl (fun code b => code * 64 + (b.toNat - 0x80)) (leadValue lead)

/-- The character at the start of the bytes, or how many bytes are no character and why. -/
def decodeFirst (lead : UInt8) (rest : List UInt8) : Except (Nat × Fault) Char :=
  match lengthOf lead with
  | 0 => .error (1, .invalidStart)
  | count + 1 =>
    let tail := rest.take count
    let fit := fitting lead tail
    if fit.length = count then .ok (Char.ofNat (codeOf lead tail))
    else if fit.length < tail.length then .error (fit.length + 1, .invalidContinuation)
    else .error (tail.length + 1, .unexpectedEnd)

def decodeFrom (position : Nat) : List UInt8 → Except DecodeError (List Char)
  | [] => .ok []
  | lead :: rest =>
    match decodeFirst lead rest with
    | .error (length, fault) => .error { position, first := lead, length, fault }
    | .ok c =>
      let more := lengthOf lead - 1
      (decodeFrom (position + more + 1) (rest.drop more)).map (c :: ·)
termination_by bytes => bytes.length
decreasing_by
  simp only [List.length_drop, List.length_cons]
  omega

def decode (bytes : List UInt8) : Except DecodeError (List Char) :=
  decodeFrom 0 bytes

end SnippetCoach.Text.Utf8
