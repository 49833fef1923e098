import Mathlib
import SnippetCoach.Machine.Usual
import SnippetCoach.Proofs.Store
/-! The two stores agree: a file that can be written reads as the map in memory after every call,
and both answer alike. -/
namespace SnippetCoach

/-- UTF-8 text of an object with these fields. The last value of a repeated name counts. -/
def Spells [Machine] (bytes : List UInt8) (fields : MemoryStore) : Prop :=
  ∃ text entries, Text.Utf8.decode bytes = .ok text ∧
    Json.read Machine.fileDepth (codePoints text) = .ok (.obj entries) ∧
    fields = OrderedMap.ofList entries

theorem FileStore.decode_eq_ok_iff [Machine] {path : Path} {bytes : List UInt8}
    {fields : MemoryStore} : decode path bytes = .ok fields ↔ Spells bytes fields := by
  constructor
  · intro h
    obtain ⟨text, htext, hread⟩ := bind_eq_ok_iff.mp h
    obtain ⟨document, hdocument, hfields⟩ := bind_eq_ok_iff.mp hread
    cases document with
    | obj entries =>
        exact ⟨text, entries, mapError_eq_ok_iff.mp htext, mapError_eq_ok_iff.mp hdocument,
          (Except.ok.inj hfields).symm⟩
    | null | bool | int | float | str | arr => cases hfields
  · rintro ⟨text, entries, htext, hread, rfl⟩
    rw [decode, htext]
    simp only [Except.mapError, bind, Except.bind, hread, Json.toMap?]
    rfl

inductive StoreCall where
  | get (key : String)
  | set (key text : String)

namespace StoreCall

variable {σ : Type} [Store σ]

/-- What a call gives, and the store after it. A set gives nothing. -/
def perform (store : σ) : StoreCall → Except StoreError (Option WideJson) × σ
  | get key => ((Store.get store key).map some, store)
  | set key text =>
    (Store.set store key (.str text)).map (fun result => result.map fun () => none) id

/-- What the calls give, one after the other, and the store after the last. -/
def run (store : σ) : List StoreCall → List (Except StoreError (Option WideJson)) × σ
  | [] => ([], store)
  | call :: rest =>
    let (reply, next) := perform store call
    let (replies, last) := run next rest
    (reply :: replies, last)

theorem run_concat (store : σ) (calls : List StoreCall) (call : StoreCall) :
    (run store (calls ++ [call])).2 = (perform (run store calls).2 call).2 := by
  induction calls generalizing store with
  | nil => rfl
  | cons first calls ih => exact ih (perform store first).2

end StoreCall

/-- No call on the store fails, whatever came before it. -/
def Works {σ : Type} [Store σ] (store : σ) : Prop :=
  ∀ calls, ∀ reply ∈ (StoreCall.run store calls).1, ∃ result, reply = .ok result

section Working

variable {σ : Type} [Store σ] {store : σ}

theorem Works.set (h : Works store) (key text : String) :
    ∃ after, Store.set store key (.str text) = (.ok (), after) ∧ Works after := by
  obtain ⟨result, after, hset⟩ : ∃ result after,
      Store.set store key (.str text) = (result, after) := ⟨_, _, rfl⟩
  have hperform : StoreCall.perform store (.set key text) =
      (result.map fun () => none, after) := by
    rw [StoreCall.perform, hset]
    rfl
  have hrun (calls : List StoreCall) : (StoreCall.run store (.set key text :: calls)).1 =
      result.map (fun () => none) :: (StoreCall.run after calls).1 := by
    rw [StoreCall.run, hperform]
  have hafter : Works after := by
    intro calls reply hreply
    apply h (.set key text :: calls)
    rw [hrun]
    exact List.mem_cons_of_mem _ hreply
  obtain ⟨nothing, hfirst⟩ : ∃ nothing, result.map (fun () => none) = .ok nothing := by
    apply h [.set key text]
    rw [hrun]
    exact List.mem_cons_self
  cases result with
  | ok => exact ⟨after, hset, hafter⟩
  | error e => cases hfirst

end Working

theorem works_memory (store : MemoryStore) : Works store := by
  intro calls
  induction calls generalizing store with
  | nil => exact List.forall_mem_nil _
  | cons call calls ih =>
      refine List.forall_mem_cons.mpr ⟨?_, ih _⟩
      cases call with
      | get key => exact ⟨_, rfl⟩
      | set key text => exact ⟨_, rfl⟩

namespace FileStore

section Files

variable [Machine]

/-- Nobody wrote the file yet, or it holds an object. -/
inductive Opens (file : FileStore) : MemoryStore → Prop
  | missing (absent : file.workspace.isPresent file.path = .ok false) : Opens file ∅
  | object {bytes : List UInt8} {fields : MemoryStore}
      (holds : file.workspace.Holds file.path bytes) (spells : Spells bytes fields) :
      Opens file fields

/-- The file reads as a map, and it can be written. -/
structure Mirrors (file : FileStore) (fields : MemoryStore) : Prop where
  reads : file.readAll = .ok fields
  canWrite : file.workspace.CanWrite file.path

variable {file : FileStore} {fields : MemoryStore}

theorem Opens.readAll (h : file.Opens fields) : file.readAll = .ok fields := by
  cases h with
  | missing absent =>
      rw [FileStore.readAll, absent]
      rfl
  | object holds spells => rw [readAll_of_holds holds, decode_eq_ok_iff.mpr spells]

theorem Mirrors.perform (h : file.Mirrors fields) (call : StoreCall) :
    (call.perform file).1 = (call.perform fields).1 ∧
      (call.perform file).2.Mirrors (call.perform fields).2 := by
  cases call with
  | get key =>
      refine ⟨?_, h⟩
      simp only [StoreCall.perform, Store.get, h.reads, Except.map]
  | set key text =>
      obtain ⟨after, hset, hpath, hwrite, hafter⟩ := set_of_canWrite h.reads h.canWrite key text
      simp only [StoreCall.perform, hset]
      exact ⟨rfl, hafter, hpath ▸ hwrite⟩

theorem Mirrors.run (h : file.Mirrors fields) (calls : List StoreCall) :
    (StoreCall.run file calls).1 = (StoreCall.run fields calls).1 ∧
      (StoreCall.run file calls).2.Mirrors (StoreCall.run fields calls).2 := by
  induction calls generalizing file fields with
  | nil => exact ⟨rfl, h⟩
  | cons call calls ih =>
      obtain ⟨hreply, hnext⟩ := h.perform call
      obtain ⟨hreplies, hlast⟩ := ih hnext
      exact ⟨congrArg₂ List.cons hreply hreplies, hlast⟩

theorem works_of_canWrite (hopens : file.Opens fields)
    (hwrite : file.workspace.CanWrite file.path) : Works file := by
  intro calls
  have hstart : file.Mirrors fields := ⟨hopens.readAll, hwrite⟩
  rw [(hstart.run calls).1]
  exact works_memory fields calls

/-- Every call on the file gives what it gives on the map, and the file reads as the map after
every call: what is set stays at its place or goes to the end, and nothing else changes. -/
theorem agrees_with_map (hopens : file.Opens fields) (hwrite : file.workspace.CanWrite file.path)
    (calls : List StoreCall) :
    (StoreCall.run file calls).1 = (StoreCall.run fields calls).1 ∧
      (StoreCall.run file calls).2.readAll = .ok (StoreCall.run fields calls).2 ∧
      ∀ key text : String, ∃ before after : MemoryStore,
        (StoreCall.run file calls).2.readAll = .ok before ∧
        (StoreCall.run file (calls ++ [.set key text])).2.readAll = .ok after ∧
        after.keys =
          (if ↑key ∈ before.keys then before.keys else before.keys ++ [(key : WideText)]) ∧
        after.get? key = some (.str text) ∧
        ∀ other : WideText, other ≠ key → after.get? other = before.get? other := by
  have hstart : file.Mirrors fields := ⟨hopens.readAll, hwrite⟩
  obtain ⟨hreplies, hmirrors⟩ := hstart.run calls
  refine ⟨hreplies, hmirrors.reads, ?_⟩
  intro key text
  obtain ⟨-, hafter⟩ := hmirrors.perform (.set key text)
  refine ⟨_, OrderedMap.set (StoreCall.run fields calls).2 key (.str text), hmirrors.reads, ?_,
    OrderedMap.keys_set _ _ _, OrderedMap.get?_set_self _ _ _, ?_⟩
  · rw [StoreCall.run_concat]
    exact hafter.reads
  · intro other hother
    exact (OrderedMap.get?_set _ _ other _).trans (if_neg hother)

end Files

open scoped Machine

def bareTree : Workspace :=
  { current := [], nodes := [] }

def soleFile : Path :=
  { slashes := 0, parts := ["p.json"] }

def inDirectory (content : List UInt8) : FileStore :=
  { path := soleFile, workspace := { current := [], nodes := [(["p.json"], .file content)] } }

theorem written_inDirectory (content : List UInt8) :
    bareTree.writeWithin soleFile content = (.ok (), (inDirectory content).workspace) := by
  have hparent : bareTree.find? soleFile.parent = some .directory := by decide +kernel
  have hlocate : bareTree.locate soleFile = .ok ["p.json"] := by decide +kernel
  have hwrite : bareTree.write soleFile content = .ok (inDirectory content).workspace := by
    rw [Workspace.write, hlocate]
    rfl
  rw [Workspace.writeWithin, Workspace.ensureDirectories_of_find? hparent]
  exact congrArg bareTree.attempt hwrite

def mixedText : String :=
  "\x7b\"b\": [1, null], \"a\": \"\\ud800\", \"b\": \x7b\"c\": -7\x7d\x7d"

/-- The high half that comes first. -/
def loneHalf : WideText :=
  { points := [.half ⟨0, by decide⟩] }

def mixedFields : MemoryStore :=
  OrderedMap.ofList [(↑"b", .obj [(↑"c", .int (-7))]), (↑"a", .str loneHalf)]

def mixedFile : FileStore :=
  inDirectory (Text.Utf8.encode mixedText.toList)

/-- A file with a repeated name, values that are no text, and a text with a half on its own. -/
theorem agrees_with_map_mixed :
    mixedFile.Opens mixedFields ∧ mixedFile.workspace.CanWrite mixedFile.path ∧
      (StoreCall.run mixedFile [.set "b" "é", .get "a", .get "b"]).2.readAll =
        .ok (StoreCall.run mixedFields [.set "b" "é", .get "a", .get "b"]).2 := by
  have hread : Json.read Machine.fileDepth (codePoints mixedText.toList) =
      .ok (.obj [(↑"b", .obj [(↑"c", .int (-7))]), (↑"a", .str loneHalf)]) := by
    cbv
  have hwritten := written_inDirectory (Text.Utf8.encode mixedText.toList)
  have hopens : mixedFile.Opens mixedFields :=
    .object (Workspace.holds_writeWithin hwritten)
      ⟨mixedText.toList, _, Text.Utf8.decode_encode mixedText.toList, hread, rfl⟩
  have hwrite : mixedFile.workspace.CanWrite mixedFile.path :=
    Workspace.canWrite_writeWithin hwritten
  exact ⟨hopens, hwrite, (agrees_with_map hopens hwrite _).2.1⟩

/-- A file below something that is no directory. -/
def belowFile : FileStore :=
  { path := { slashes := 1, parts := ["dev", "null", "p.json"] }
    workspace := { current := [], nodes := [(["dev"], .directory), (["dev", "null"], .file [])] } }

/-- Such a file is missing, and it cannot be written. -/
theorem not_agrees_with_map :
    ¬∀ (file : FileStore) (fields : MemoryStore) (calls : List StoreCall), file.Opens fields →
      (StoreCall.run file calls).1 = (StoreCall.run fields calls).1 := by
  intro hclaim
  have hmissing : belowFile.workspace.isPresent belowFile.path = .ok false := by decide +kernel
  have hsame := hclaim belowFile ∅ [.set "k" "v"] (.missing hmissing)
  have hfails : ((StoreCall.run belowFile [.set "k" "v"]).1.all Except.isOk) = false := by
    decide +kernel
  rw [hsame] at hfails
  cases hfails

end FileStore
end SnippetCoach
