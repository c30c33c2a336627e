import DocLinks.Proofs.FileTree.Changes
import DocLinks.Proofs.Project.Following
import DocLinks.Proofs.Redirect.Agreement

/-!
# Checking links while the project grows

What is added to a project makes no link worse: a new file may turn a candidate of a missing path into a
file, and then the link is valid; otherwise the path stays the one that is spelled, and its redirect
leads where it led (`rank_validateLink_le`). All that is asked of the new files is that what could be
looked up before can still be looked up (`neverWorse_iff`). Folders are part of that: the destination of a
redirect is looked up as it is written, so it may pass through a folder that holds no file
(`removed_folder_breaks_link`).

## Contents
- `Status.rank`, `NeverWorse`: the order of the verdicts, and trees that make no link worse.
- `growing_neverWorse`: what growing trees do to the verdicts.
-/

namespace DocLinks

open Text FileTree DocPath

/-! ## Verdicts -/

/-- The order of the verdicts, from the worst to the best. -/
def Status.rank : Status → Nat
  | broken => 0
  | redirectAvailable => 1
  | valid => 2

theorem Status.rank_le (s : Status) : s.rank ≤ Status.valid.rank := by
  cases s <;> decide

section Growing

variable {t u : FileTree} {root : FilePath}
  (hgrow : ∀ path, t.hasFile root path = true → u.hasFile root path = true)

include hgrow

theorem isFile_resolveLink_of_grows {source target : String}
    (h : (resolveLink t root source target).isFile = true) :
    (resolveLink u root source target).isFile = true := by
  rw [isFile_resolveLink, resolved_resolveLink] at h ⊢
  split
  · rename_i hempty
    rw [if_pos hempty] at h
    exact hgrow source h
  · rename_i hne
    rw [if_neg hne] at h
    obtain ⟨p, hp, hfile⟩ := hasFile_withFallback_iff.1 h
    exact hasFile_withFallback_iff.2 ⟨p, hp, hgrow _ hfile⟩

theorem isFile_eq_false_of_grows {source target : String}
    (h : (resolveLink u root source target).isFile = false) :
    (resolveLink t root source target).isFile = false := by
  rw [← Bool.not_eq_true] at h ⊢
  intro hfile
  exact h (isFile_resolveLink_of_grows hgrow hfile)

/-- As long as a target is missing, it means the path that it spells. -/
theorem resolved_eq_of_missing {source target : String}
    (h : (resolveLink u root source target).isFile = false) :
    (resolveLink t root source target).resolved = (resolveLink u root source target).resolved := by
  have ht := isFile_eq_false_of_grows hgrow h
  rw [isFile_resolveLink] at h ht
  rw [resolved_resolveLink] at h ht ⊢
  rw [resolved_resolveLink]
  split
  · rfl
  · rename_i hne
    rw [if_neg hne] at h ht
    rw [withFallback_of_missing h, withFallback_of_missing ht]

theorem liveRedirect?_of_grows {table : Option RedirectTable} {path destination : String}
    (h : liveRedirect? t root table path = some destination) :
    liveRedirect? u root table path = some destination := by
  rcases table with _ | table
  · cases h
  · obtain ⟨hfound, hne, hfile⟩ := liveRedirect?_eq_some_iff.1 h
    exact liveRedirect?_eq_some_iff.2 ⟨hfound, hne, hgrow _ hfile⟩

/-- **No link gets worse** where all files that could be looked up still can. -/
theorem rank_validateLink_le (table : Option RedirectTable) (source : String) (link : Link) :
    (validateLink t root table source link).status.rank
      ≤ (validateLink u root table source link).status.rank := by
  have hlooked : link.kind = .internal ∨ link.kind = .asset →
      (validateLink t root table source link).status.rank
        ≤ (validateLink u root table source link).status.rank := by
    intro hkind
    rcases hu : (resolveLink u root source link.targetPath).isFile with _ | _
    · have ht := isFile_eq_false_of_grows hgrow hu
      rcases hlive : liveRedirect? t root table (resolveLink t root source link.targetPath).resolved
        with _ | destination
      · rw [validateLink_of_no_redirect hkind ht hlive]
        exact Nat.zero_le (validateLink u root table source link).status.rank
      · -- The path is the same, and so is its redirect.
        have hlive' := liveRedirect?_of_grows hgrow hlive
        rw [resolved_eq_of_missing hgrow hu] at hlive'
        rw [validateLink_of_redirect hkind ht hlive, validateLink_of_redirect hkind hu hlive']
        exact Nat.le_refl Status.redirectAvailable.rank
    · rw [validateLink_of_isFile hkind hu]
      exact Status.rank_le _
  rcases hkind : link.kind with _ | _ | _ | _
  · exact hlooked (.inl hkind)
  · rw [validateLink_of_external hkind, validateLink_of_external hkind]
  · rw [validateLink_of_anchorOnly hkind, validateLink_of_anchorOnly hkind]
  · exact hlooked (.inr hkind)

end Growing

/-- No link of any document has a worse verdict in the second tree than in the first, whatever the
redirects are. -/
def NeverWorse (t u : FileTree) (root : FilePath) : Prop :=
  ∀ table source link, (validateLink t root table source link).status.rank
    ≤ (validateLink u root table source link).status.rank

/-! ## What growing has to keep -/

/-- A target that no file can have. -/
def impossibleTarget : String := "\x00.md"

theorem resolved_impossibleTarget (t : FileTree) (root : FilePath) :
    (resolveLink t root "" impossibleTarget).resolved = impossibleTarget := by
  have hplain : plainResolution "".toList impossibleTarget.toList = impossibleTarget.toList := by
    decide +kernel
  have hext : (!(extension impossibleTarget.toList).isEmpty) = true := by decide
  rw [resolved_eq t root "" (by decide) (by decide), hplain]
  unfold withFallback
  rw [if_pos (.inl hext), String.ofList_toList]

theorem isFile_impossibleTarget (t : FileTree) (root : FilePath) :
    (resolveLink t root "" impossibleTarget).isFile = false := by
  rw [isFile_resolveLink, resolved_impossibleTarget, ← Bool.not_eq_true]
  intro hfile
  obtain ⟨c, hstat⟩ := hasFile_iff_stat (p := impossibleTarget.toList).1 hfile
  obtain ⟨hnull, -⟩ := stat_below_iff.1 hstat
  have hnames : FilePath.namesOf impossibleTarget.toList = [impossibleTarget] := by decide
  rw [hnames, FilePath.hasNull, List.any_append] at hnull
  simp [impossibleTarget] at hnull

/-- The redirects of a project in which that target is redirected. -/
def redirectTo (destination : String) : RedirectTable where
  entries := [⟨"", "", impossibleTarget, destination, 1⟩]
  file := none

theorem findTarget?_redirectTo (destination : String) :
    (redirectTo destination).findTarget? impossibleTarget = some destination := by
  rfl

/-- Every path has a spelling that a redirect can lead to. -/
theorem exists_destination (root : FilePath) (path : String) :
    ∃ destination ≠ "", ∀ t : FileTree, t.hasFile root destination = t.hasFile root path := by
  by_cases hempty : path = ""
  · subst hempty
    exact ⟨".", by decide, fun t => hasFile_congr (p := here) (q := []) (by decide)⟩
  · exact ⟨path, hempty, fun _ => rfl⟩

/-- **No link gets worse** exactly if all files that could be looked up still can. -/
theorem neverWorse_iff {t u : FileTree} {root : FilePath} :
    NeverWorse t u root ↔ ∀ path, t.hasFile root path = true → u.hasFile root path = true := by
  constructor
  · intro h path hfile
    obtain ⟨destination, hne, hsame⟩ := exists_destination root path
    have hfound := findTarget?_redirectTo destination
    have hlive : liveRedirect? t root (some (redirectTo destination))
        (resolveLink t root "" impossibleTarget).resolved = some destination := by
      rw [resolved_impossibleTarget]
      exact liveRedirect?_eq_some_iff.2 ⟨hfound, hne, (hsame t).trans hfile⟩
    have hrank := h (some (redirectTo destination)) "" (linkTo impossibleTarget)
    rw [validateLink_of_redirect (l := linkTo impossibleTarget) (.inl rfl)
      (isFile_impossibleTarget t root) hlive] at hrank
    rcases hlive' : liveRedirect? u root (some (redirectTo destination))
        (resolveLink u root "" impossibleTarget).resolved with _ | other
    · rw [validateLink_of_no_redirect (l := linkTo impossibleTarget) (.inl rfl)
        (isFile_impossibleTarget u root) hlive'] at hrank
      cases hrank
    · rw [resolved_impossibleTarget] at hlive'
      obtain ⟨hfound', -, hfile'⟩ := liveRedirect?_eq_some_iff.1 hlive'
      obtain rfl : destination = other := Option.some.inj (hfound.symm.trans hfound')
      exact (hsame u).symm.trans hfile'
  · intro hgrow table source link
    exact rank_validateLink_le hgrow table source link

/-- **Growing trees make no link worse**, and neither does any other tree in which all files that could
be looked up still can. -/
theorem growing_neverWorse (t u : FileTree) (root : FilePath) :
    (t.GrowsInto u → NeverWorse t u root) ∧
      (NeverWorse t u root ↔
        ∀ path, t.hasFile root path = true → u.hasFile root path = true) := by
  refine ⟨?_, neverWorse_iff⟩
  intro h
  exact neverWorse_iff.2 fun _ => h.isFile

/-- A project at `/p` with one page. -/
def onePageTree : FileTree where
  nodes := [(["p"], .folder), (["p", "a.md"], .file (.text ""))]
  cwd := ["p"]
  home := []

/-- The same project with a folder that holds no file. -/
def emptyFolderTree : FileTree := onePageTree.put ["p", "d"] .folder

/-- The redirects of that project: the way to the page is written through the folder. -/
def throughFolder : RedirectTable := .ofText "redirects:\n  x: d/../a.md\n" none

theorem growing_neverWorse_newPage :
    let grown := emptyFolderTree.put ["p", "x.md"] (.file (.text ""))
    emptyFolderTree.GrowsInto grown ∧ NeverWorse emptyFolderTree grown (.ofString "/p") ∧
      (validateLink emptyFolderTree (.ofString "/p") (some throughFolder) "b.md" (linkTo "x")).status
        = .redirectAvailable ∧
      (validateLink grown (.ofString "/p") (some throughFolder) "b.md" (linkTo "x")).status
        = .valid := by
  intro grown
  have hgrows : emptyFolderTree.GrowsInto grown := .put (by decide) (by decide) (.file (.text ""))
  exact ⟨hgrows, (growing_neverWorse emptyFolderTree grown (.ofString "/p")).1 hgrows,
    by decide +kernel, by decide +kernel⟩

/-- Without the folder that holds no file the redirect leads nowhere, though no file is gone. -/
theorem removed_folder_breaks_link :
    (∀ place c, emptyFolderTree.node? place = some (.file c) →
      ∃ d, onePageTree.node? place = some (.file d)) ∧
    (validateLink emptyFolderTree (.ofString "/p") (some throughFolder) "b.md" (linkTo "x")).status
      = .redirectAvailable ∧
    (validateLink onePageTree (.ofString "/p") (some throughFolder) "b.md" (linkTo "x")).status
      = .broken := by
  refine ⟨?_, by decide +kernel, by decide +kernel⟩
  intro place c hfile
  rw [emptyFolderTree, node?_put (by decide)] at hfile
  split at hfile
  · cases hfile
  · exact ⟨c, hfile⟩

end DocLinks
