import SnippetCoach.Json.Printer
import SnippetCoach.Machine
import SnippetCoach.Store.Basic
/-! A store in a file: one document, an object with a field for each key. Every operation reads the
whole file, and a write reads it before it opens it. -/
namespace SnippetCoach

structure FileStore where
  path : Path
  workspace : Workspace

namespace FileStore

def decode [Machine] (path : Path) (bytes : List UInt8) : Except StoreError MemoryStore := do
  let text ← (Text.Utf8.decode bytes).mapError .encoding
  let document ← (Json.read Machine.fileDepth (codePoints text)).mapError .document
  let some fields := document.toMap? | .error (.notAnObject path)
  return fields

def encode (fields : MemoryStore) : List UInt8 :=
  Text.Utf8.encode (Json.ofMap fields).indentedText.toList

/-- The map of the store, empty without a file. -/
def readAll [Machine] (store : FileStore) : Except StoreError MemoryStore := do
  if ← (store.workspace.isPresent store.path).mapError .file then
    decode store.path (← (store.workspace.read store.path).mapError .file)
  else return ∅

/-- Replaces the file. Directories above it are created. -/
def writeAll (store : FileStore) (fields : MemoryStore) : Except StoreError Unit × FileStore :=
  let (result, workspace) := store.workspace.writeWithin store.path (encode fields)
  (result.mapError .file, { store with workspace })

end FileStore

instance [Machine] : Store FileStore where
  get store key :=
    store.readAll.map fun (fields : MemoryStore) => (fields.get? key).getD .null
  set store key value :=
    match store.readAll with
    | .error e => (.error e, store)
    | .ok fields => store.writeAll (fields.set key value)

end SnippetCoach
