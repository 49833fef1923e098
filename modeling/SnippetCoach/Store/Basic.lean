import SnippetCoach.Json.Reader
import SnippetCoach.Text.Utf8
import SnippetCoach.Workspace.Basic
/-! Stores of values under keys. Both operations can fail, and a failed write changes no value. -/
namespace SnippetCoach

inductive StoreError where
  | file (e : FileError)
  | encoding (e : Text.Utf8.DecodeError)
  | document (e : Json.ReadError)
  | notAnObject (path : Path)
  /-- whatever else a backend reports, by its name -/
  | backend (name : String)
  deriving DecidableEq, Repr

def StoreError.message : StoreError → String
  | file e => e.message
  | encoding e => e.message
  | document e => e.message
  | notAnObject path => "Expected a JSON object in " ++ path.text
  | backend name => name

class Store (σ : Type) where
  /-- The value of a key, null if the key is absent. -/
  get : σ → String → Except StoreError WideJson
  set : σ → String → WideJson → Except StoreError Unit × σ

/-- A store in memory never fails. -/
abbrev MemoryStore := OrderedMap WideJson WideText

instance : Store MemoryStore where
  get store key := .ok ((OrderedMap.get? store key).getD .null)
  set store key value := (.ok (), OrderedMap.set store key value)

/-- A store whose operations fail as told. -/
structure FaultyStore (σ : Type) where
  store : σ
  onGet : Option StoreError
  onSet : Option StoreError

instance {σ : Type} [Store σ] : Store (FaultyStore σ) where
  get faulty key :=
    match faulty.onGet with
    | some e => .error e
    | none => Store.get faulty.store key
  set faulty key value :=
    match faulty.onSet with
    | some e => (.error e, faulty)
    | none =>
      let (result, store) := Store.set faulty.store key value
      (result, { faulty with store })

end SnippetCoach
