import DocLinks.Proofs.Check.Places
import DocLinks.Proofs.Fix.Writes
import DocLinks.Proofs.Redirect.Appending

/-!
# The table and its file

The redirects that a context has in memory were read from a file. They stay those of the file as long as
the file is changed by recording redirects only and can be read again: recording reads the table again
after it has written (`readFrom_recordRedirects`), and fixing documents does nothing to it if the file is
not one of them.

## Contents
- `FileTree.fileAt?`, `FileTree.Fits`: the file at a path.
- `tableIn_congr`, `ReadFrom`: the table of a file, and a context that has it.
- `append_of_tableIn`: appending to the table of a file.
- `readFrom_recordRedirects`, `readFrom_applyFixesWithRedirects`: the table after a batch.
-/

namespace DocLinks

open Text FileTree Work

/-! ## The file at a path -/

/-- The content of the file at a path, if a file stands there. -/
def FileTree.fileAt? (t : FileTree) (p : FilePath) : Option Content :=
  match t.stat p with
  | .ok (.file c) => some c
  | _ => none

/-- A file at a path, if there is one, is not too large to be read. -/
def FileTree.Fits (t : FileTree) (p : FilePath) : Prop :=
  ∀ c, t.fileAt? p = some c → defaultLimit.isExceededBy c.size = false

variable {t u : FileTree} {p : FilePath} {c : Content}

theorem fileAt?_eq_some_iff : t.fileAt? p = some c ↔ t.stat p = .ok (.file c) := by
  unfold FileTree.fileAt?
  constructor
  · intro h
    split at h
    · rename_i c' hstat
      cases h
      exact hstat
    · cases h
  · intro h
    rw [h]

theorem isFile_eq_isSome_fileAt? (t : FileTree) (p : FilePath) : t.isFile p = (t.fileAt? p).isSome := by
  unfold FileTree.isFile FileTree.fileAt?
  rcases t.stat p with f | (c | _)
  · rfl
  · rfl
  · rfl

/-- A change that leaves the place of a path alone leaves the file there. -/
theorem fileAt?_of_changes (h : ChangesWithin (fun place => t.placeOf p ≠ .ok place) t u) :
    u.fileAt? p = t.fileAt? p := by
  have hstat : u.stat p = t.stat p :=
    h.shape.stat_eq fun place hplace => h.kept place fun hne => hne hplace
  unfold FileTree.fileAt?
  rw [hstat]

/-! ## The table of a file -/

open Checker (tableIn read_of_tableIn)

/-- The table of a file is told by the file. -/
theorem tableIn_congr (h : u.fileAt? p = t.fileAt? p) : tableIn u p = tableIn t p := by
  unfold tableIn
  rw [isFile_eq_isSome_fileAt?, isFile_eq_isSome_fileAt?, h]
  rcases hfile : t.fileAt? p with _ | c
  · rfl
  · have hstat : u.stat p = t.stat p := by
      rw [fileAt?_eq_some_iff.1 hfile, fileAt?_eq_some_iff.1 (h.trans hfile)]
    unfold RedirectTable.ofFile
    rw [read_congr hstat]

/-- The table of a file that was written over. -/
theorem ofFile_put {content text : String} {place : List String}
    (hread : t.read p defaultLimit = .ok content) (hplace : t.placeOf p = .ok place)
    (hfits : (t.put place (.file (.text text))).Fits p) :
    (t.put place (.file (.text text))).fileAt? p = some (.text text) ∧
      RedirectTable.ofFile (t.put place (.file (.text text))) p = .ok (.ofText text (some p)) := by
  obtain ⟨_, _, _, _, hstat, -⟩ := read_eq_ok hread
  have hstat' := stat_put hstat hplace (.text text)
  have hfile := fileAt?_eq_some_iff.2 hstat'
  exact ⟨hfile, ofFile_of_read (read_of_stat hstat' rfl (hfits _ hfile) rfl)⟩

/-- The table of a context is the one that a file has now. -/
def ReadFrom (p : FilePath) (w : Workspace Context) : Prop :=
  ∃ table, w.scope.table = some table ∧ tableIn w.tree p = .ok table

theorem ReadFrom.congr {w v : Workspace Context} (h : ReadFrom p w)
    (htable : v.scope.table = w.scope.table) (hfile : v.tree.fileAt? p = w.tree.fileAt? p) :
    ReadFrom p v := by
  obtain ⟨table, hw, hin⟩ := h
  refine ⟨table, htable.trans hw, ?_⟩
  rw [tableIn_congr hfile]
  exact hin

/-! ## Recording redirects -/

section Recording

variable {w : Workspace Context} {table : RedirectTable}

/-- Appending to the table of a file that can be read afterwards: it is refused, and nothing is changed,
or the answer is the table that the file has now. -/
theorem append_of_tableIn {pairs : List RedirectPair} {v : Workspace Context}
    {r : Except RedirectFault (RedirectTable × Nat)} (hin : tableIn w.tree p = .ok table)
    (hne : pairs ≠ []) (happend : table.append pairs w = (.ok r, v)) (hfits : v.tree.Fits p) :
    (v = w ∧ ∃ f, r = .error f) ∨ ∃ table' n, r = .ok (table', n) ∧ tableIn v.tree p = .ok table' := by
  obtain ⟨f, hrefused⟩ | ⟨q, content, place, u, hfile, hread, hplace, -, -, htree, hwritten⟩ :=
    append_run table w hne
  · cases hrefused.symm.trans happend
    exact .inl ⟨rfl, f, rfl⟩
  · right
    obtain ⟨rfl, -⟩ := read_of_tableIn hin hfile
    obtain rfl : u = v := congrArg Prod.snd (hwritten.symm.trans happend)
    rw [htree] at hfits
    obtain ⟨hnew, hof⟩ := ofFile_put hread hplace hfits
    rw [← htree] at hnew hof
    rw [hof] at hwritten
    cases hwritten.symm.trans happend
    refine ⟨_, _, rfl, ?_⟩
    unfold tableIn
    rw [isFile_eq_isSome_fileAt?, hnew, Option.isSome_some, if_pos rfl, hof, hfile]
    simp only [Except.mapError, RedirectTable.ofText]

/-- **Recording redirects keeps the table up to date**, if the file can be read afterwards. -/
theorem readFrom_recordRedirects (h : ReadFrom p w) {results : List FixResult}
    (hfits : (recordRedirects results w).2.tree.Fits p) : ReadFrom p (recordRedirects results w).2 := by
  obtain ⟨table, htable, hin⟩ := h
  obtain ⟨batch, v, hrun, hends⟩ := recordRedirects_ends results w
  rw [hrun] at hfits ⊢
  cases hends with
  | skipped _ _ => exact ⟨table, htable, hin⟩
  | refused htable' hne happend _ =>
    obtain rfl := Option.some.inj (htable.symm.trans htable')
    obtain ⟨rfl, -⟩ | ⟨_, _, hanswered, -⟩ := append_of_tableIn hin hne happend hfits
    · exact ⟨table, htable, hin⟩
    · cases hanswered
  | appended htable' hne happend =>
    obtain rfl := Option.some.inj (htable.symm.trans htable')
    obtain ⟨-, _, hrefused⟩ | ⟨_, _, hanswered, hin'⟩ := append_of_tableIn hin hne happend hfits
    · cases hrefused
    · cases hanswered
      exact ⟨_, rfl, hin'⟩

/-- **A batch of fixes keeps the table up to date**, if fixing its documents leaves the file of the table
alone and the file can be read afterwards. -/
theorem readFrom_applyFixesWithRedirects (h : ReadFrom p w) {fs : List SuggestedFix} {wanted : Bool}
    (hleaves : (applyFixes w.scope.root fs w).2.tree.fileAt? p = w.tree.fileAt? p)
    (hfits : (applyFixesWithRedirects fs wanted w).2.tree.Fits p) :
    ReadFrom p (applyFixesWithRedirects fs wanted w).2 := by
  have hfixed : ReadFrom p (applyFixes w.scope.root fs w).2 := by
    apply h.congr _ hleaves
    have hscope : (applyFixes w.scope.root fs w).2.scope = w.scope := sameScope_applyFixes _ _ w
    rw [hscope]
  rcases hrun : applyFixes w.scope.root fs w with ⟨f | results, v⟩
  · rw [hrun] at hfixed
    rw [applyFixesWithRedirects_eq, hrun]
    exact hfixed
  · rw [hrun] at hfixed
    rw [applyFixesWithRedirects_eq, hrun] at hfits ⊢
    cases wanted
    · exact hfixed
    · exact readFrom_recordRedirects hfixed hfits

end Recording

end DocLinks
