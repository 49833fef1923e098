import SnippetCoach.Proofs.OrderedMap
import SnippetCoach.Workspace.Basic
/-! Files: what was written is what is read, and a file in a place where no directory was leaves
every way through the tree as it is. -/
namespace SnippetCoach

namespace Path

theorem intercalate_dropLast_prefix (sep : List Char) (parts : List (List Char)) :
    sep.intercalate parts.dropLast <+: sep.intercalate parts := by
  induction parts with
  | nil => exact List.prefix_rfl
  | cons first rest ih =>
      cases rest with
      | nil => exact List.nil_prefix
      | cons second rest =>
          cases rest with
          | nil => exact ⟨sep ++ second, by simp [List.intercalate]⟩
          | cons third rest =>
              simp only [List.intercalate, List.dropLast_cons_cons, List.intersperse_cons_cons,
                List.flatten_cons, List.prefix_append_right_inj] at ih ⊢
              exact ih

/-- The text of a path begins with that of its parent, except that no parts are shown by a dot. -/
theorem text_parent (path : Path) :
    path.parent.text = "." ∨ ∃ rest, path.text = path.parent.text ++ rest := by
  by_cases hdot : path.slashes = 0 ∧ path.parts.dropLast = []
  · left
    simp only [text, parent, hdot, decide_true, List.isEmpty_nil, Bool.and_self, if_true]
  · right
    have hparent : ¬(path.slashes = 0 && path.parts.dropLast.isEmpty) = true := by
      simpa using hdot
    have hpath : ¬(path.slashes = 0 && path.parts.isEmpty) = true := by
      intro h
      obtain ⟨hslashes, hparts⟩ := Bool.and_eq_true_iff.mp h
      rw [List.isEmpty_iff.mp hparts] at hdot
      exact hdot ⟨of_decide_eq_true hslashes, rfl⟩
    obtain ⟨rest, hrest⟩ := intercalate_dropLast_prefix ['/'] (path.parts.map String.toList)
    refine ⟨String.ofList rest, ?_⟩
    rw [text, if_neg hpath, text, parent, if_neg hparent, String.append_assoc]
    congr 1
    simp only [← String.toList_inj, String.toList_append, String.toList_intercalate,
      String.toList_ofList, List.map_dropLast]
    exact hrest.symm

theorem hasNull_parent {path : Path} (h : path.hasNull = false) : path.parent.hasNull = false := by
  rcases path.text_parent with hdot | ⟨rest, heq⟩
  · rw [hasNull, hdot]
    decide
  · rw [hasNull, heq, String.toList_append, List.any_append, Bool.or_eq_false_iff] at h
    exact h.1

theorem utf8ByteSize_parent {path : Path} {limit : Nat} (hlimit : 1 ≤ limit)
    (h : path.text.utf8ByteSize ≤ limit) : path.parent.text.utf8ByteSize ≤ limit := by
  rcases path.text_parent with hdot | ⟨rest, heq⟩
  · rw [hdot]
    exact hlimit
  · rw [heq, String.utf8ByteSize_append] at h
    exact Nat.le_trans (Nat.le_add_right _ _) h

end Path

namespace Workspace

variable {w after : Workspace} {place start target : List String} {node : Node} {path : Path}
variable {content : List UInt8}

theorem lookup_putNode (place other : List String) (node : Node)
    (nodes : List (List String × Node)) :
    (putNode place node nodes).lookup other =
      if other = place then some node else nodes.lookup other := by
  induction nodes with
  | nil => exact lookup_cons_eq_ite other (place, node) []
  | cons entry rest ih =>
      rw [putNode]
      split
      · rename_i hentry
        rw [lookup_cons_eq_ite, lookup_cons_eq_ite, hentry]
        split <;> rfl
      · rename_i hentry
        rw [lookup_cons_eq_ite, lookup_cons_eq_ite, ih]
        by_cases h : other = entry.1
        · rw [if_pos h, if_pos h, if_neg (h ▸ hentry)]
        · rw [if_neg h, if_neg h]

theorem node?_put (w : Workspace) (place other : List String) (node : Node) :
    (w.put place node).node? other =
      if other = [] then some .directory
      else if other = place then some node else w.node? other := by
  rw [node?, put]
  split
  · rfl
  · rename_i hroot
    rw [lookup_putNode, node?, if_neg hroot]

theorem node?_put_self (hplace : w.node? place ≠ some .directory) :
    (w.put place node).node? place = some node := by
  rw [node?_put, if_neg, if_pos rfl]
  rintro rfl
  exact hplace (by rw [node?, if_pos rfl])

theorem node?_put_of_directory {other : List String} (hplace : w.node? place ≠ some .directory)
    (hother : w.node? other = some .directory) :
    (w.put place node).node? other = some .directory := by
  rw [node?_put]
  split
  · rfl
  · rw [if_neg, hother]
    rintro rfl
    exact hplace hother

/-- Only directories are passed through. -/
theorem walk_put (hplace : w.node? place ≠ some .directory) {names : List String}
    (h : w.walk start names = .ok target) : (w.put place node).walk start names = .ok target := by
  induction names generalizing start with
  | nil => exact h
  | cons name names ih =>
      rw [walk] at h ⊢
      cases hnode : w.node? start with
      | none => rw [hnode] at h; exact nomatch h
      | some found =>
          cases found with
          | file _ => rw [hnode] at h; exact nomatch h
          | directory =>
              rw [hnode] at h
              rw [node?_put_of_directory hplace hnode]
              dsimp only at h ⊢
              split at h
              · rename_i hup
                rw [if_pos hup]
                exact ih h
              · rename_i hup
                rw [if_neg hup]
                split at h
                · exact nomatch h
                · rename_i hlimit
                  rw [if_neg hlimit]
                  exact ih h

theorem locate_put (hplace : w.node? place ≠ some .directory)
    (h : w.locate path = .ok target) : (w.put place node).locate path = .ok target := by
  rw [locate] at h ⊢
  split at h
  · exact nomatch h
  · split at h
    · exact nomatch h
    · rename_i hnull hlimit
      rw [if_neg hnull, if_neg hlimit]
      exact walk_put hplace h

/-- A successful write puts the file at the place of the path, where no directory was. -/
theorem write_eq_ok (h : w.write path content = .ok after) :
    ∃ place, w.locate path = .ok place ∧ w.node? place ≠ some .directory ∧
      after = w.put place (.file content) := by
  rw [write] at h
  split at h
  · exact nomatch h
  · rename_i place hplace
    split at h
    · exact nomatch h
    · rename_i hnode
      exact ⟨place, hplace, hnode, (Except.ok.inj h).symm⟩

/-- There is a file with this content at the end of the path. -/
def Holds (w : Workspace) (path : Path) (content : List UInt8) : Prop :=
  w.isPresent path = .ok true ∧ w.read path = .ok content

theorem holds_write (h : w.write path content = .ok after) : after.Holds path content := by
  obtain ⟨place, hlocate, hplace, rfl⟩ := write_eq_ok h
  rw [Holds, isPresent, read, locate_put hplace hlocate]
  simp only [node?_put_self hplace, Option.isSome_some, and_self]

theorem attempt_eq_ok {result : Except FileError Workspace}
    (h : w.attempt result = (.ok (), after)) : result = .ok after := by
  cases result with
  | ok written => exact congrArg _ (Prod.mk.inj h).2
  | error e => exact nomatch (Prod.mk.inj h).1

theorem find?_eq_some (h : w.find? path = some node) :
    ∃ place, w.locate path = .ok place ∧ w.node? place = some node := by
  rw [find?] at h
  split at h
  · exact ⟨_, ‹_›, h⟩
  · exact nomatch h

theorem find?_of_ensureDirectory (h : w.ensureDirectory path = .ok after) :
    after.find? path = some .directory := by
  rw [ensureDirectory] at h
  split at h
  · rename_i created hcreated
    obtain rfl := Except.ok.inj h
    rw [makeDirectory] at hcreated
    split at hcreated
    · exact nomatch hcreated
    · rename_i place hlocate
      split at hcreated
      · exact nomatch hcreated
      · rename_i hnone
        obtain rfl := Except.ok.inj hcreated
        have hplace : w.node? place ≠ some .directory := by
          rw [hnone]
          exact nofun
        rw [find?, locate_put hplace hlocate]
        exact node?_put_self hplace
  · split at h
    · rename_i hfound
      exact Except.ok.inj h ▸ hfound
    · exact nomatch h

theorem find?_of_ensureDirectories (h : w.ensureDirectories path = (.ok (), after)) :
    after.find? path = some .directory := by
  rw [ensureDirectories, ensureDirectoriesWithin.eq_def] at h
  split at h
  · exact find?_of_ensureDirectory (attempt_eq_ok h)
  · split at h
    · split at h
      · exact find?_of_ensureDirectory (attempt_eq_ok h)
      · rename_i hfailed
        exact absurd h (hfailed after)
    · exact find?_of_ensureDirectory (attempt_eq_ok h)

/-- A directory that is there already is left as it is. -/
theorem ensureDirectories_of_find? (h : w.find? path = some .directory) :
    w.ensureDirectories path = (.ok (), w) := by
  obtain ⟨place, hlocate, hnode⟩ := find?_eq_some h
  have hmake : w.makeDirectory path = .error { cause := .alreadyExists, path } := by
    simp only [makeDirectory, hlocate, hnode]
  have hensure : w.ensureDirectory path = .ok w := by
    simp only [ensureDirectory, hmake, if_pos h]
  rw [ensureDirectories]
  cases path.parts.length with
  | zero => rw [ensureDirectoriesWithin, hensure, attempt]
  | succ limit => simp only [ensureDirectoriesWithin, hmake, hensure, attempt]

theorem writeWithin_eq_ok (h : w.writeWithin path content = (.ok (), after)) :
    ∃ prepared : Workspace, prepared.find? path.parent = some .directory ∧
      prepared.write path content = .ok after := by
  rw [writeWithin] at h
  split at h
  · rename_i prepared hprepared
    exact ⟨prepared, find?_of_ensureDirectories hprepared, attempt_eq_ok h⟩
  · rename_i hfailed
    exact absurd h (hfailed after)

theorem holds_writeWithin (h : w.writeWithin path content = (.ok (), after)) :
    after.Holds path content := by
  obtain ⟨prepared, -, hwrite⟩ := writeWithin_eq_ok h
  exact holds_write hwrite

/-- Whatever the content, the file can be written. -/
def CanWrite (w : Workspace) (path : Path) : Prop :=
  ∀ content, (w.writeWithin path content).1 = .ok ()

/-- What was written once can be written again. -/
theorem canWrite_writeWithin (h : w.writeWithin path content = (.ok (), after)) :
    after.CanWrite path := by
  intro other
  obtain ⟨prepared, hparent, hwrite⟩ := writeWithin_eq_ok h
  obtain ⟨place, hlocate, hplace, rfl⟩ := write_eq_ok hwrite
  obtain ⟨above, habove, hdirectory⟩ := find?_eq_some hparent
  have hfound : (prepared.put place (.file content)).find? path.parent = some .directory := by
    rw [find?, locate_put hplace habove]
    exact node?_put_of_directory hplace hdirectory
  simp only [writeWithin, ensureDirectories_of_find? hfound, write, locate_put hplace hlocate,
    node?_put_self hplace, attempt]

/-- What the last part of a path is looked up in is a directory. -/
theorem walk_concat {name : String} {names : List String}
    (h : w.walk start (names ++ [name]) = .ok target) :
    ∃ above, w.walk start names = .ok above ∧ w.node? above = some .directory := by
  induction names generalizing start with
  | nil =>
      rw [List.nil_append, walk] at h
      split at h
      · exact nomatch h
      · exact nomatch h
      · exact ⟨start, rfl, ‹_›⟩
  | cons first names ih =>
      rw [List.cons_append, walk] at h
      rw [walk]
      split at h
      · exact nomatch h
      · exact nomatch h
      · split at h
        · rename_i hup
          rw [if_pos hup]
          exact ih h
        · rename_i hup
          rw [if_neg hup]
          split at h
          · exact nomatch h
          · rename_i hlimit
            rw [if_neg hlimit]
            exact ih h

theorem find?_parent (hparts : path.parts ≠ []) (h : w.locate path = .ok place) :
    w.find? path.parent = some .directory := by
  rw [locate] at h
  split at h
  · exact nomatch h
  · split at h
    · exact nomatch h
    · rename_i hnull hlimit
      rw [← List.dropLast_concat_getLast hparts] at h
      obtain ⟨above, hwalk, hdirectory⟩ := walk_concat h
      have hparent : w.locate path.parent = .ok above := by
        rw [locate, Path.hasNull_parent (Bool.eq_false_iff.mpr hnull), if_neg Bool.false_ne_true,
          if_neg (Nat.not_lt.mpr (Path.utf8ByteSize_parent (by decide) (Nat.not_lt.mp hlimit)))]
        exact hwalk
      rw [find?, hparent]
      exact hdirectory

theorem attempt_eq_error {result : Except FileError Workspace} {e : FileError}
    (h : w.attempt result = (.error e, after)) : result = .error e ∧ after = w := by
  cases result with
  | ok written => exact nomatch (Prod.mk.inj h).1
  | error cause =>
      obtain ⟨hcause, rfl⟩ := Prod.mk.inj h
      exact ⟨congrArg _ (Except.error.inj hcause), rfl⟩

theorem find?_of_failed_ensureDirectory {e : FileError} (h : w.ensureDirectory path = .error e) :
    w.find? path ≠ some .directory := by
  rw [ensureDirectory] at h
  split at h
  · exact nomatch h
  · split at h
    · exact nomatch h
    · assumption

theorem find?_of_failed_ensureDirectoriesWithin {limit : Nat} {e : FileError}
    (h : ensureDirectoriesWithin limit w path = (.error e, after)) :
    after.find? path ≠ some .directory := by
  induction limit generalizing path e with
  | zero =>
      obtain ⟨hfailed, rfl⟩ := attempt_eq_error h
      exact find?_of_failed_ensureDirectory hfailed
  | succ limit ih =>
      rw [ensureDirectoriesWithin.eq_def] at h
      dsimp only at h
      split at h
      · split at h
        · obtain ⟨hfailed, rfl⟩ := attempt_eq_error h
          exact find?_of_failed_ensureDirectory hfailed
        · -- the parent is no directory, and then there is nothing below it
          intro hfound
          obtain ⟨place, hlocate, -⟩ := find?_eq_some hfound
          have habove := ih h
          by_cases hparts : path.parts = []
          · have hparent : path.parent = path := by
              rw [Path.parent, hparts, List.dropLast_nil, ← hparts]
            exact habove (hparent.symm ▸ hfound)
          · exact habove (find?_parent hparts hlocate)
      · obtain ⟨hfailed, rfl⟩ := attempt_eq_error h
        exact find?_of_failed_ensureDirectory hfailed

/-- Where a write failed there is no file, unless nothing was changed. -/
theorem eq_of_failed_writeWithin {e : FileError} {found : List UInt8}
    (h : w.writeWithin path content = (.error e, after)) (hread : after.read path = .ok found) :
    after = w := by
  rw [read] at hread
  split at hread
  · exact nomatch hread
  · rename_i place hlocate
    split at hread
    · exact nomatch hread
    · exact nomatch hread
    · rename_i hnode
      rw [writeWithin] at h
      split at h
      · obtain ⟨hfailed, rfl⟩ := attempt_eq_error h
        rw [write, hlocate] at hfailed
        simp only [hnode] at hfailed
        exact nomatch hfailed
      · rw [ensureDirectories] at h
        by_cases hparts : path.parts = []
        · have hnone : path.parent.parts.length = 0 := by
            rw [Path.parent, hparts, List.dropLast_nil, List.length_nil]
          rw [hnone, ensureDirectoriesWithin] at h
          exact (attempt_eq_error h).2
        · exact absurd (find?_parent hparts hlocate) (find?_of_failed_ensureDirectoriesWithin h)

end Workspace
end SnippetCoach
