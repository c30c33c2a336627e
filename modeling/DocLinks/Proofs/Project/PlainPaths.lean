import DocLinks.Proofs.Project.Resolving
import Mathlib.Data.List.DropRight

/-!
# Plain paths

A path that leads down is written in the names of the walk along it, and nothing else. Documents have
such paths; a target that is one, with or without a step that stays in place before it, needs no
normalizing, and in a document at the root of the project it spells its own path.

## Contents
- `LeadsDown`: paths whose names all lead down.
- `LeadsDown.names_directory`: the directory of a document has all names of the document but the last.
- `targetBody`, `IsPlainPath`: targets that are written as the path they mean.
- `resolveLink_of_plain`: what a missing plain target resolves to in a document at the root.
- `resolveLink_relativeLink`: the target that is written for a document leads to it.
-/

namespace DocLinks

open Text FileTree DocPath

/-! ## Paths that lead down -/

instance (n : List Char) : Decidable (IsStep n) := inferInstanceAs (Decidable (_ ∧ _ ∧ _))

/-- The names of a path lead down, one by one. -/
def LeadsDown (p : List Char) : Prop := ∀ n ∈ names p, IsStep n

instance (p : List Char) : Decidable (LeadsDown p) :=
  inferInstanceAs (Decidable (∀ n ∈ names p, IsStep n))

theorem wayText_names (p : List Char) : wayText (names p) = p := by
  have hne : names p ≠ [] := List.splitOn_ne_nil '/' p
  unfold wayText
  rw [if_neg (by simpa using hne)]
  exact List.intercalate_splitOn '/'

theorem ofNames_names (p : List Char) : ofNames (names p) = p := List.intercalate_splitOn '/'

/-- A path without slashes is its only name. -/
theorem names_of_no_slash {p : List Char} (h : '/' ∉ p) : names p = [p] := by
  have hnames : names (ofNames [p]) = [p] :=
    names_ofNames (fun n hn => List.mem_singleton.1 hn ▸ h) nofun
  rwa [ofNames, List.intercalate_singleton] at hnames

namespace LeadsDown

variable {p : List Char} (h : LeadsDown p)

include h

theorem stepsOf_eq : stepsOf p = names p := by
  unfold stepsOf collapsedNames
  rw [foldl_climb_of_isStep h, List.append_nil, List.reverse_reverse]

theorem isName {n : List Char} (hn : n ∈ names p) : n ≠ [] ∧ n ≠ here ∧ '/' ∉ n :=
  ⟨(h n hn).1, (h n hn).2.1, not_mem_of_mem_splitOn hn⟩

theorem ne_nil : p ≠ [] := by
  rintro rfl
  exact (h [] (by decide)).1 rfl

theorem no_slash_at_ends : p.head? ≠ some '/' ∧ ¬['/'] <:+ p :=
  DocPath.no_slash_at_ends fun hn => (h [] hn).1 rfl

theorem head_ne_slash : p.head? ≠ some '/' := h.no_slash_at_ends.1

/-- A path that leads down does not leave the project. -/
theorem staysInside : StaysInside p := by
  refine ⟨h.head_ne_slash, ?_⟩
  rw [h.stepsOf_eq]
  intro hup
  exact (h up hup).2.2 rfl

end LeadsDown

/-- The directory of a path that leads down does, too. -/
theorem LeadsDown.of_append {dir rest : List Char} (h : LeadsDown (dir ++ '/' :: rest)) :
    LeadsDown dir := by
  intro n hn
  apply h
  rw [names_append_slash]
  exact List.mem_append_left _ hn

/-- What precedes the last slash of a path is its directory, if it leads down. -/
theorem directory_append {dir base : List Char} (h : LeadsDown dir) (hbase : '/' ∉ base) :
    directory (dir ++ '/' :: base) = dir := by
  have hup : upToSlash (dir ++ '/' :: base) = dir ++ ['/'] := by
    have hname : ∀ c ∈ base.reverse, (c != '/') = true := by
      intro c hc
      simpa using fun heq : c = '/' => hbase (heq ▸ List.mem_reverse.1 hc)
    unfold upToSlash dropEndWhile
    rw [List.reverse_append, List.reverse_cons, List.append_assoc, List.singleton_append,
      dropWhile_append_cons hname (by decide), List.reverse_cons, List.reverse_reverse]
  -- The path does not start with a slash, so the directory is not made of slashes.
  have hall : (dir ++ ['/']).all (· == '/') = false := by
    obtain ⟨c, rest, rfl⟩ := List.exists_cons_of_ne_nil h.ne_nil
    have hc : c ≠ '/' := fun heq => h.head_ne_slash (congrArg some heq)
    simp [hc]
  have hend : dropEndWhile (· == '/') (dir ++ ['/']) = dropEndWhile (· == '/') dir :=
    List.rdropWhile_concat_pos (· == '/') dir '/' rfl
  unfold directory
  simp only [hup, hall]
  rw [if_neg (by decide), hend, dropEndWhile_of_not_suffix h.no_slash_at_ends.2]

namespace LeadsDown

variable {p : List Char} (h : LeadsDown p)

include h

/-- A document is at the root, or in a directory that leads down. -/
theorem directory_cases :
    (directory p = [] ∧ names p = [p]) ∨
      (LeadsDown (directory p) ∧ ∃ base, names p = names (directory p) ++ [base]) := by
  by_cases hslash : '/' ∈ p
  · obtain ⟨dir, base, rfl, hbase⟩ := exists_last_of_mem hslash
    have hdir : LeadsDown dir := h.of_append
    rw [directory_append hdir hbase]
    refine .inr ⟨hdir, base, ?_⟩
    rw [names_append_slash, names_of_no_slash hbase]
  · exact .inl ⟨directory_of_no_slash hslash, names_of_no_slash hslash⟩

/-- **The directory of a document** leads along all names of the document but the last. -/
theorem stepsOf_directory : stepsOf (directory p) = (names p).dropLast := by
  rcases h.directory_cases with ⟨hroot, hnames⟩ | ⟨hdir, base, hnames⟩
  · rw [hroot, hnames]
    rfl
  · rw [hdir.stepsOf_eq, hnames, List.dropLast_concat]

theorem staysInside_directory : StaysInside (directory p) := by
  rcases h.directory_cases with ⟨hroot, -⟩ | ⟨hdir, -⟩
  · rw [hroot]
    decide
  · exact hdir.staysInside

end LeadsDown

/-! ## Plain targets -/

/-- A target without a leading step that stays in place. -/
def targetBody (target : List Char) : List Char :=
  match target with
  | '.' :: '/' :: rest => rest
  | cs => cs

/-- The names of a path lead down, one by one, and nothing in it is read in another way. -/
def IsPlainPath (p : List Char) : Prop := (∀ n ∈ names p, IsStep n) ∧ '\\' ∉ p ∧ '#' ∉ p

instance (p : List Char) : Decidable (IsPlainPath p) := inferInstanceAs (Decidable (_ ∧ _ ∧ _))

/-- A target is its body, or has a step that stays in place before it. -/
theorem eq_targetBody_or (target : List Char) :
    target = targetBody target ∨ target = '.' :: '/' :: targetBody target := by
  unfold targetBody
  split
  · exact .inr rfl
  · exact .inl rfl

namespace IsPlainPath

variable {p : List Char} (h : IsPlainPath p)

include h

theorem leadsDown : LeadsDown p := h.1

/-- Nothing is to be normalized in a target with a plain body. -/
theorem normalize_eq {target : List Char} (hbody : targetBody target = p) (hslash : '\\' ∉ target) :
    normalize target = p := by
  have hcases := eq_targetBody_or target
  rw [hbody, ← wayText_names p] at hcases
  rw [normalize_wayText (fun n => h.leadsDown.isName) hcases hslash, wayText_names]

end IsPlainPath

/-- A plain target in a document at the root spells its own path. -/
theorem plainResolution_of_plain {source target p : List Char} (hroot : '/' ∉ source)
    (hplain : IsPlainPath p) (hbody : targetBody target = p) (hslash : '\\' ∉ target) :
    plainResolution source target = p := by
  have hhead : target.head? ≠ some '/' := by
    rcases eq_targetBody_or target with htarget | htarget
    · rw [htarget, hbody]
      exact hplain.leadsDown.head_ne_slash
    · rw [htarget]
      simp
  rw [plainResolution_of_relative hslash hhead, hplain.normalize_eq hbody hslash,
    join_directory_of_no_slash hroot, collapseOrEmpty_of_relative hplain.leadsDown.head_ne_slash,
    hplain.leadsDown.stepsOf_eq, ofNames_names]

/-- Where no file is found, the path is the one that is spelled. -/
theorem withFallback_of_missing {t : FileTree} {root : FilePath} {plain : List Char}
    (h : t.hasFile root (.ofList (withFallback t root plain)) = false) :
    withFallback t root plain = plain := by
  unfold withFallback at h ⊢
  split
  · rfl
  · rename_i hplain
    rw [if_neg hplain] at h
    split
    · rename_i hpage
      rw [if_pos hpage, hpage.2] at h
      cases h
    · rename_i hpage
      rw [if_neg hpage] at h
      split
      · rename_i hreadme
        rw [if_pos hreadme, hreadme] at h
        cases h
      · rfl

/-- **A missing plain target** of a document at the root resolves to its own path. -/
theorem resolveLink_of_plain {t : FileTree} {root : FilePath} {source target : String} {p : List Char}
    (hroot : '/' ∉ source.toList) (hplain : IsPlainPath p) (hbody : targetBody target.toList = p)
    (hmissing : (resolveLink t root source target).isFile = false) :
    (resolveLink t root source target).resolved = .ofList p := by
  have hchars : '\\' ∉ target.toList ∧ '#' ∉ target.toList := by
    rcases eq_targetBody_or target.toList with htarget | htarget <;> rw [htarget, hbody]
    · exact hplain.2
    · exact ⟨by simpa using hplain.2.1, by simpa using hplain.2.2⟩
  have hne : target.toList ≠ [] := by
    rcases eq_targetBody_or target.toList with htarget | htarget <;> rw [htarget, hbody]
    · exact hplain.leadsDown.ne_nil
    · simp
  rw [isFile_resolveLink] at hmissing
  unfold resolveLink Target.splitAnchor at hmissing ⊢
  simp only [Target.path_eq_self_iff.2 hchars.2] at hmissing ⊢
  rw [if_neg (by simpa using hne), plainResolution_of_plain hroot hplain hbody hchars.1] at hmissing ⊢
  rw [withFallback_of_missing hmissing]

/-! ## Links from one document to another -/

/-- A target that is written for a path is the same wherever it is seen from. -/
theorem relativeTarget_eq_from {source path : List Char} (hdir : StaysInside (directory source))
    (hpath : StaysInside path) (cwd : List (List Char)) :
    relativeTarget cwd source path = relativeTarget [] source path := by
  unfold relativeTarget
  rw [relative_eq_wayText hdir hpath cwd, relative_eq_wayText hdir hpath []]

/-- A target that is written for a plain path is not cut, nor read in another way. -/
theorem IsPlainPath.not_mem_relativeTarget {path : List Char} (h : IsPlainPath path)
    (source : List Char) :
    '#' ∉ relativeTarget [] source path ∧ '\\' ∉ relativeTarget [] source path := by
  have hchar : ∀ c ∈ relativeTarget [] source path, c = '.' ∨ c = '/' ∨ c ∈ path := by
    intro c hc
    rcases mem_relativeTarget hc with hdot | hslash | hmem | ⟨n, hn, -⟩
    · exact .inl hdot
    · exact .inr (.inl hslash)
    · exact .inr (.inr hmem)
    · cases hn
  constructor
  · intro hmem
    rcases hchar _ hmem with heq | heq | hpath
    · cases heq
    · cases heq
    · exact h.2.2 hpath
  · intro hmem
    rcases hchar _ hmem with heq | heq | hpath
    · cases heq
    · cases heq
    · exact h.2.1 hpath

/-- **A link from one document to another** can be followed: the target that is written for a file of
the project starts with a dot, resolves to the path of the file, and does not depend on where the
two documents are seen from. -/
theorem resolveLink_relativeLink {t : FileTree} {root : FilePath} {source path : String}
    (hsource : LeadsDown source.toList) (hplain : IsPlainPath path.toList)
    (hfile : t.hasFile root path = true) :
    ∃ target rest, (∀ cwd, relativeLink? cwd source path = some target) ∧
      target.toList = '.' :: rest ∧
      (resolveLink t root source target).resolved = path ∧
      (resolveLink t root source target).isFile = true := by
  have hdir := hsource.staysInside_directory
  have hpath := hplain.leadsDown.staysInside
  obtain ⟨rest, hrest⟩ := relativeTarget_eq_cons hdir hpath []
  obtain ⟨hhash, hslash⟩ := hplain.not_mem_relativeTarget source.toList
  have htext : (String.ofList (relativeTarget [] source.toList path.toList)).toList
      = relativeTarget [] source.toList path.toList := String.toList_ofList
  refine ⟨.ofList (relativeTarget [] source.toList path.toList), rest, ?_, htext.trans hrest, ?_⟩
  · intro cwd
    have hne : path ≠ "" := by
      rintro rfl
      exact hplain.leadsDown.ne_nil rfl
    unfold relativeLink?
    rw [if_neg hne, relativeTarget_eq_from hdir hpath]
  · have hsteps : String.ofList (ofNames (stepsOf path.toList)) = path := by
      rw [hplain.leadsDown.stepsOf_eq, ofNames_names, String.ofList_toList]
    have hresolved := resolveLink_relativeTarget hdir hpath hfile htext hhash hslash
    rwa [hsteps] at hresolved

/-- A project at `/p` whose pages are in folders of the folder `docs`. -/
def partedTree : FileTree where
  nodes := [(["p"], .folder), (["p", "docs"], .folder), (["p", "docs", "a"], .folder),
    (["p", "docs", "a", "x.md"], .file (.text "")), (["p", "docs", "..b"], .folder),
    (["p", "docs", "..b", "y.md"], .file (.text ""))]
  cwd := ["p"]
  home := []

theorem resolveLink_relativeLink_partedPages :
    LeadsDown "docs/a/x.md".toList ∧ IsPlainPath "docs/..b/y.md".toList ∧
      ∃ target rest, (∀ cwd, relativeLink? cwd "docs/a/x.md" "docs/..b/y.md" = some target) ∧
        target.toList = '.' :: rest ∧
        (resolveLink partedTree (.ofString "/p") "docs/a/x.md" target).resolved = "docs/..b/y.md" ∧
        (resolveLink partedTree (.ofString "/p") "docs/a/x.md" target).isFile = true := by
  have hsource : LeadsDown "docs/a/x.md".toList := by decide
  have hplain : IsPlainPath "docs/..b/y.md".toList := by decide
  exact ⟨hsource, hplain, resolveLink_relativeLink hsource hplain (by decide +kernel)⟩

end DocLinks
