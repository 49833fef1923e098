import SnippetCoach.Proofs.Json.RoundTrip
import SnippetCoach.Proofs.Text.Utf8
import SnippetCoach.Proofs.Workspace
import SnippetCoach.Store.File
/-! Stores: what was set is what is got, in memory and in a file. -/
namespace SnippetCoach

namespace Json

section Maps

variable {Allowed : WideText → Prop} {levels : Nat} {m : OrderedMap WideJson WideText}

theorem readable_ofMap (hallowed : ∀ entry ∈ m.entries, Allowed entry.1)
    (h : ∀ entry ∈ m.entries, Readable Allowed levels entry.2) :
    Readable Allowed (levels + 1) (ofMap m) :=
  .obj m.distinct hallowed h

theorem allowed_of_mem_ofMap (h : Readable Allowed levels (ofMap m))
    {entry : WideText × WideJson} (hentry : entry ∈ m.entries) : Allowed entry.1 := by
  cases h with
  | obj _ allowed _ => exact allowed entry hentry

theorem readable_of_mem_ofMap (h : Readable Allowed (levels + 1) (ofMap m))
    {entry : WideText × WideJson} (hentry : entry ∈ m.entries) :
    Readable Allowed levels entry.2 := by
  cases h with
  | obj _ _ readable => exact readable entry hentry

theorem readable_ofMap_set {key : WideText} {value : WideJson}
    (h : Readable Allowed (levels + 1) (ofMap m)) (hkey : Allowed key)
    (hvalue : Readable Allowed levels value) :
    Readable Allowed (levels + 1) (ofMap (m.set key value)) := by
  refine readable_ofMap (fun entry hentry => ?_) fun entry hentry => ?_
  · rcases OrderedMap.mem_entries_set hentry with rfl | hold
    · exact hkey
    · exact allowed_of_mem_ofMap h hold
  · rcases OrderedMap.mem_entries_set hentry with rfl | hold
    · exact hvalue
    · exact readable_of_mem_ofMap h hold

theorem toMap?_ofMap (m : OrderedMap WideJson WideText) : (ofMap m).toMap? = some m :=
  congrArg some (OrderedMap.ofList_entries m)

end Maps

end Json

namespace FileStore

variable {store after : FileStore} {fields : MemoryStore} {path : Path} {key : String}

theorem eq_of_failed_writeAll {cause : StoreError} {found : List UInt8}
    (h : store.writeAll fields = (.error cause, after))
    (hread : after.workspace.read store.path = .ok found) : after = store := by
  obtain ⟨hresult, rfl⟩ := Prod.mk.inj h
  obtain ⟨e, hfailed, -⟩ := mapError_eq_error_iff.mp hresult
  have hwrite : store.workspace.writeWithin store.path (encode fields) =
      (.error e, (store.workspace.writeWithin store.path (encode fields)).2) :=
    Prod.ext hfailed rfl
  have hsame := Workspace.eq_of_failed_writeWithin hwrite hread
  exact congrArg (fun workspace => { store with workspace }) hsame

variable [Machine]

/-- What can stand in a file: documents with every pair of halves joined, so that they are read as
they are written. -/
def Fits (fields : MemoryStore) : Prop :=
  Json.Readable WideText.Joined Machine.fileDepth (.ofMap fields)

theorem fits_empty : Fits ∅ := by
  obtain ⟨levels, hlevels⟩ := Nat.exists_eq_add_of_le' Machine.one_le_fileDepth
  rw [Fits, hlevels]
  exact Json.readable_ofMap (fun _ h => absurd h List.not_mem_nil)
    fun _ h => absurd h List.not_mem_nil

theorem Fits.set (h : Fits fields) (key text : String) : Fits (fields.set key (.str text)) := by
  obtain ⟨levels, hlevels⟩ := Nat.exists_eq_add_of_le' Machine.one_le_fileDepth
  rw [Fits, hlevels] at h ⊢
  exact Json.readable_ofMap_set h (WideText.joined_ofString key)
    (.str (WideText.joined_ofString text))

theorem decode_encode (path : Path) (h : Fits fields) :
    decode path (encode fields) = .ok fields := by
  simp only [decode, encode, Text.Utf8.decode_encode, Json.read_indentedText h, Json.toMap?_ofMap,
    Except.mapError, bind, Except.bind]
  rfl

theorem fits_of_decode {bytes : List UInt8} (h : decode path bytes = .ok fields) : Fits fields := by
  obtain ⟨text, -, hread⟩ := bind_eq_ok_iff.mp h
  obtain ⟨document, hdocument, hfields⟩ := bind_eq_ok_iff.mp hread
  have hreadable := Json.admits_plain.readable_of_read (isPlain_codePoints text)
    (mapError_eq_ok_iff.mp hdocument)
  cases document with
  | obj entries =>
      obtain rfl := Except.ok.inj hfields
      rw [Fits]
      generalize (Machine.fileDepth : Nat) = levels at hreadable ⊢
      cases hreadable with
      | obj _ joined readable => exact Json.readable_ofMap_ofList joined readable
  | _ => exact nomatch hfields

theorem readAll_of_holds {bytes : List UInt8} (h : store.workspace.Holds store.path bytes) :
    store.readAll = decode store.path bytes := by
  rw [readAll, h.1, h.2]
  rfl

/-- What a file gives can be written, whatever the file. -/
theorem fits_of_readAll (h : store.readAll = .ok fields) : Fits fields := by
  obtain ⟨present, -, hread⟩ := bind_eq_ok_iff.mp h
  cases present with
  | true =>
      obtain ⟨bytes, -, hdecode⟩ := bind_eq_ok_iff.mp hread
      exact fits_of_decode hdecode
  | false =>
      obtain rfl := Except.ok.inj hread
      exact fits_empty

theorem readAll_writeAll (hfits : Fits fields)
    (h : store.writeAll fields = (.ok (), after)) : after.readAll = .ok fields := by
  obtain ⟨hresult, rfl⟩ := Prod.mk.inj h
  have hwrite : store.workspace.writeWithin store.path (encode fields) =
      (.ok (), (store.workspace.writeWithin store.path (encode fields)).2) :=
    Prod.ext (mapError_eq_ok_iff.mp hresult) rfl
  rw [readAll_of_holds (Workspace.holds_writeWithin hwrite)]
  exact decode_encode store.path hfits

/-- A write replaces the map of the file by the map with the key set. -/
theorem readAll_set {text : String} (h : Store.set store key (.str text) = (.ok (), after)) :
    ∃ fields : MemoryStore, store.readAll = .ok fields ∧
      after.readAll = .ok (fields.set key (.str text)) := by
  cases hread : store.readAll with
  | error e =>
      simp only [Store.set, hread] at h
      exact nomatch (Prod.mk.inj h).1
  | ok fields =>
      simp only [Store.set, hread] at h
      exact ⟨fields, rfl, readAll_writeAll ((fits_of_readAll hread).set key text) h⟩

/-- A file that can be read and written is written, and can be read and written afterwards. -/
theorem set_of_canWrite (hread : store.readAll = .ok fields)
    (hwrite : store.workspace.CanWrite store.path) (key text : String) :
    ∃ after : FileStore, Store.set store key (.str text) = (.ok (), after) ∧
      after.path = store.path ∧ after.workspace.CanWrite store.path ∧
      after.readAll = .ok (fields.set key (.str text)) := by
  obtain ⟨after, hafter⟩ : ∃ after, store.workspace.writeWithin store.path
      (encode (fields.set key (.str text))) = (.ok (), after) :=
    ⟨_, Prod.ext (hwrite _) rfl⟩
  have hset : Store.set store key (.str text) = (.ok (), { store with workspace := after }) := by
    simp only [Store.set, hread, writeAll, hafter]
    rfl
  obtain ⟨found, hfound, hreadAfter⟩ := readAll_set hset
  obtain rfl := Except.ok.inj (hread.symm.trans hfound)
  exact ⟨_, hset, rfl, Workspace.canWrite_writeWithin hafter, hreadAfter⟩

/-- After a failed write the file reads as before, or there is none. -/
theorem readAll_of_failed_set {text : String} {cause : StoreError}
    (h : Store.set store key (.str text) = (.error cause, after))
    (hread : after.readAll = .ok fields) : fields = ∅ ∨ store.readAll = .ok fields := by
  cases hbefore : store.readAll with
  | error e =>
      simp only [Store.set, hbefore] at h
      obtain ⟨-, rfl⟩ := Prod.mk.inj h
      exact nomatch hread.symm.trans hbefore
  | ok before =>
      simp only [Store.set, hbefore] at h
      have hpath : after.path = store.path := (congrArg path (Prod.mk.inj h).2).symm
      obtain ⟨present, -, hpresent⟩ := bind_eq_ok_iff.mp hread
      cases present with
      | true =>
          obtain ⟨bytes, hbytes, -⟩ := bind_eq_ok_iff.mp hpresent
          rw [hpath] at hbytes
          obtain rfl := eq_of_failed_writeAll h (mapError_eq_ok_iff.mp hbytes)
          exact .inr (hbefore.symm.trans hread)
      | false => exact .inl (Except.ok.inj hpresent).symm

end FileStore

/-- A store that gives back a text that was set without an error. -/
class LawfulStore (σ : Type) [Store σ] : Prop where
  get_of_set {store after : σ} {key text : String} :
    Store.set store key (.str text) = (.ok (), after) → Store.get after key = .ok (.str text)

theorem LawfulStore.get_of_set_fst {σ : Type} [Store σ] [LawfulStore σ] {store : σ}
    {key text : String} (h : (Store.set store key (.str text)).1 = .ok ()) :
    Store.get (Store.set store key (.str text)).2 key = .ok (.str text) :=
  get_of_set (Prod.ext h rfl)

instance : LawfulStore MemoryStore where
  get_of_set {store after key text} h := by
    obtain ⟨-, rfl⟩ := Prod.mk.inj h
    simp only [Store.get, OrderedMap.get?_set_self, Option.getD_some]

instance [Machine] : LawfulStore FileStore where
  get_of_set {store after key text} h := by
    obtain ⟨fields, -, hafter⟩ := FileStore.readAll_set h
    simp only [Store.get, hafter, Except.map, OrderedMap.get?_set_self, Option.getD_some]

/-- A store in which a failed write leaves under its key what was there, or nothing. -/
class SteadyStore (σ : Type) [Store σ] : Prop extends LawfulStore σ where
  get_of_failed_set {store after : σ} {key text : String} {cause : StoreError}
    {stored : WideJson} : Store.set store key (.str text) = (.error cause, after) →
      Store.get after key = .ok stored → stored = .null ∨ Store.get store key = .ok stored

theorem SteadyStore.get_of_failed_set_fst {σ : Type} [Store σ] [SteadyStore σ] {store : σ}
    {key text : String} {cause : StoreError} {stored : WideJson}
    (h : (Store.set store key (.str text)).1 = .error cause)
    (hget : Store.get (Store.set store key (.str text)).2 key = .ok stored) :
    stored = .null ∨ Store.get store key = .ok stored :=
  get_of_failed_set (Prod.ext h rfl) hget

instance : SteadyStore MemoryStore where
  get_of_failed_set h _ := nomatch (Prod.mk.inj h).1

instance [Machine] : SteadyStore FileStore where
  get_of_failed_set {store after key text cause stored} h hget := by
    obtain ⟨fields, hread, rfl⟩ := map_eq_ok_iff.mp hget
    rcases FileStore.readAll_of_failed_set h hread with rfl | hbefore
    · exact .inl rfl
    · refine .inr ?_
      simp only [Store.get, hbefore, Except.map]

/-- A store that is one of two. -/
instance {σ τ : Type} [Store σ] [Store τ] : Store (σ ⊕ τ) where
  get
    | .inl store, key => Store.get store key
    | .inr store, key => Store.get store key
  set
    | .inl store, key, value => (Store.set store key value).map id .inl
    | .inr store, key, value => (Store.set store key value).map id .inr

instance {σ τ : Type} [Store σ] [Store τ] [LawfulStore σ] [LawfulStore τ] :
    LawfulStore (σ ⊕ τ) where
  get_of_set {store after key text} h := by
    cases store with
    | inl store =>
        obtain ⟨hresult, rfl⟩ := Prod.mk.inj h
        have hget := LawfulStore.get_of_set_fst hresult
        exact hget
    | inr store =>
        obtain ⟨hresult, rfl⟩ := Prod.mk.inj h
        have hget := LawfulStore.get_of_set_fst hresult
        exact hget

instance {σ τ : Type} [Store σ] [Store τ] [SteadyStore σ] [SteadyStore τ] :
    SteadyStore (σ ⊕ τ) where
  get_of_failed_set {store after key text cause stored} h hget := by
    cases store with
    | inl store =>
        obtain ⟨hresult, rfl⟩ := Prod.mk.inj h
        have hbefore := SteadyStore.get_of_failed_set_fst hresult hget
        exact hbefore
    | inr store =>
        obtain ⟨hresult, rfl⟩ := Prod.mk.inj h
        have hbefore := SteadyStore.get_of_failed_set_fst hresult hget
        exact hbefore

/-- The stores of the program. -/
abbrev Backend := MemoryStore ⊕ FileStore

end SnippetCoach
