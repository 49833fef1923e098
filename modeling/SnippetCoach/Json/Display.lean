import SnippetCoach.Json.Value
import SnippetCoach.Number.Layout
import SnippetCoach.Text.Quoted
/-! The text of values in messages and reports: words with capitals, quoted strings inside
containers, and a string on its own as it is. -/
namespace SnippetCoach.Json
open Number Text

mutual
/-- The value as it stands inside a message. -/
def literal : Json → List Char
  | null => "None".toList
  | bool true => "True".toList
  | bool false => "False".toList
  | int n => intText n
  | float x => NumberFormat.message.write x
  | str s => quoted s.toList
  | arr [] => "[]".toList
  | arr (item :: rest) => '[' :: (literal item ++ literalItems rest ++ [']'])
  | obj [] => ['\x7b', '\x7d']
  | obj ((name, value) :: rest) =>
    '\x7b' :: (quoted name.toList ++ [':', ' '] ++ literal value ++ literalFields rest ++ ['\x7d'])

def literalItems : List Json → List Char
  | [] => []
  | item :: rest => ',' :: ' ' :: (literal item ++ literalItems rest)

def literalFields : List (String × Json) → List Char
  | [] => []
  | (name, value) :: rest =>
    ',' :: ' ' :: (quoted name.toList ++ [':', ' '] ++ literal value ++ literalFields rest)
end

/-- The value as text; a string stands without quotes. Only writable values have a text. -/
def display : Json → String
  | str s => s
  | value => String.ofList value.literal

end SnippetCoach.Json
