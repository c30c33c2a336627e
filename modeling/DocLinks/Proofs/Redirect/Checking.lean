import DocLinks.Redirect.Check
import DocLinks.Proofs.Project.Published
import DocLinks.Proofs.Redirect.Views

/-!
# The check of a table

What the check of a table says about the entries that ought to pass it. An entry whose destination is a
page of the project is broken exactly if that page is the index of a directory that has no introduction,
and is not in the book (`checkTable_broken_iff`): from its published path the introduction is looked for.
An entry that moves a page into a directory of its own, or only gives it its extension, is skipped exactly
if the page is still there and the published paths do not show the move (`checkTable_skipped_iff`); a page
that becomes the introduction of its directory is such a case.

## Contents
- `checkTable_run`, `mem_broken_iff`, `mem_skipped_iff`: the lists of a check.
- `IsUnservedIndex`, `servesPath_publishedPath_iff`: the pages that are not found again.
- `OwnMove`, `OwnMove.IsMissed`, `mem_movedForms_iff`: the moves of a page to its own place.
-/

namespace DocLinks

open Text FileTree DocPath

/-! ## The lists -/

section Lists

variable {t : FileTree} {root : FilePath} {book : Option FilePath} {entries : List RedirectEntry}
  {e : RedirectEntry}

theorem exists_issue_iff {es : List RedirectEntry} {reason : String} :
    (∃ i ∈ es.map (RedirectIssue.mk · reason), i.entry = e) ↔ e ∈ es := by
  simp

theorem mem_broken_iff (he : e ∈ entries) :
    (∃ i ∈ (checkRedirects t root book entries).broken, i.entry = e)
      ↔ servesPath t root book e.toPath = false := by
  unfold checkRedirects
  rw [exists_issue_iff, List.mem_filter, Bool.not_eq_true', and_iff_right he]

theorem mem_skipped_iff (he : e ∈ entries) :
    (∃ i ∈ (checkRedirects t root book entries).skipped, i.entry = e)
      ↔ redirectConflicts t root e.fromPath e.toPath = true := by
  unfold checkRedirects
  rw [exists_issue_iff, List.mem_filter, and_iff_right he]

/-- The check of a table answers for the tree as it is, and only reports. -/
theorem checkTable_run {σ : Type} (root : FilePath) (book : Option FilePath) (table : RedirectTable)
    (w : Workspace σ) :
    ∃ v, checkTable root book table w = (.ok (checkRedirects w.tree root book table.entries), v) ∧
      v.tree = w.tree ∧ v.scope = w.scope := by
  let r := checkRedirects w.tree root book table.entries
  refine ⟨{ w with log := w.log ++ r.broken.map RedirectIssue.record }, ?_, rfl, rfl⟩
  unfold checkTable
  rw [Work.bind_run_of_ok (Work.tree_run w), Work.bind_run_of_ok (Work.forM_report_run _ w)]
  rfl

end Lists

/-! ## Destinations -/

section Destinations

variable {t : FileTree} {root : FilePath}

/-- A page that is not found again where it is published: the index of a directory that has no
introduction, in neither the sources nor the book. -/
def IsUnservedIndex (t : FileTree) (root : FilePath) (book : Option FilePath) (page : List Char) : Prop :=
  ∃ folder, unrooted page = folder ++ "/index.md".toList ∧
    t.hasFile root (.ofList (folder ++ "/README.md".toList)) = false ∧
    bookServes t (book.getD (defaultBook root)) (folder ++ "/index.html".toList) = false

/-- An index is published under its own name. -/
theorem unrooted_toPublished_index {page folder : List Char} (hline : '\n' ∉ page)
    (hindex : unrooted page = folder ++ "/index.md".toList) :
    unrooted (toPublished ('/' :: page)) = folder ++ "/index.html".toList := by
  obtain ⟨slashes, hpage⟩ : folder ++ "/index.md".toList <:+ page :=
    hindex ▸ List.dropWhile_suffix _
  let stem := slashes ++ folder ++ "/index".toList
  have hstem : '/' :: page = '/' :: stem ++ pageExtension := by
    rw [← hpage]
    simp [stem, pageExtension]
  have hno : ¬"/README".toList <:+ '/' :: stem := fun h => by
    have hends : "/index".toList <:+ '/' :: stem := (List.suffix_append ..).trans (List.suffix_cons ..)
    rcases List.suffix_or_suffix_of_suffix h hends with h | h <;> exact absurd h (by decide)
  have hclean : '\n' ∉ '/' :: stem := fun h => by
    have hmem : '\n' ∈ '/' :: page := hstem ▸ List.mem_append_left _ h
    simp [hline] at hmem
  have hunrooted : unrooted ('/' :: stem) = folder ++ "/index".toList := by
    have hboth : unrooted ('/' :: stem) ++ pageExtension
        = folder ++ "/index".toList ++ pageExtension := by
      rw [← unrooted_append_of_head (by decide), ← hstem, List.append_assoc]
      exact hindex
    exact List.append_cancel_right hboth
  rw [hstem]
  show unrooted (toPublished ('/' :: stem ++ ".md".toList)) = _
  rw [toPublished_page hno hclean, unrooted_append_of_head (by decide), hunrooted, List.append_assoc]
  rfl

theorem toList_publishedPath (page : String) :
    (publishedPath page).toList = toPublished ('/' :: page.toList) := by
  unfold publishedPath
  rw [toList_onChars, String.toList_append]
  rfl

/-- **The pages that are not found again.** A page of the project is served where it is published unless
it is an unserved index. -/
theorem servesPath_publishedPath_iff {book : Option FilePath} {page : String}
    (hpage : pageExtension <:+ page.toList) (hline : '\n' ∉ page.toList)
    (hfile : t.hasFile root page = true) :
    servesPath t root book (publishedPath page) = false ↔
      IsUnservedIndex t root book page.toList := by
  have hlist : t.hasFile root (.ofList page.toList) = true := by rwa [String.ofList_toList]
  have hback := sourceServes_toPublished_iff hpage hline hlist
  unfold servesPath
  rw [toList_publishedPath, Bool.or_eq_false_iff, ← Bool.not_eq_true (sourceServes ..), hback]
  constructor
  · rintro ⟨hbook, hsource⟩
    push Not at hsource
    obtain ⟨folder, hindex, hmissing⟩ := hsource
    rw [unrooted_toPublished_index hline hindex] at hbook
    exact ⟨folder, hindex, Bool.not_eq_true _ ▸ hmissing, hbook⟩
  · rintro ⟨folder, hindex, hmissing, hbook⟩
    rw [unrooted_toPublished_index hline hindex]
    refine ⟨hbook, fun hall => ?_⟩
    rw [hall folder hindex] at hmissing
    cases hmissing

end Destinations

/-! ## Sources -/

/-- The moves of a page to its own place: to its name with the extension, or into a directory of that
name. -/
inductive OwnMove where
  | page
  | readme
  | index
  deriving DecidableEq, Repr

/-- What the destination has more than the source. -/
def OwnMove.ending : OwnMove → String
  | page => ".md"
  | readme => "/README.md"
  | index => "/index.md"

/-- The moves that the published paths do not show: the destination is published as a directory, or
there is no name or a published one to compare it with. -/
def OwnMove.IsMissed (source : List Char) : OwnMove → Prop
  | page => ".html".toList <:+ unrooted source ∨ "/README".toList <:+ '/' :: source
  | readme => unrooted source ≠ []
  | index => unrooted source = [] ∨ ".html".toList <:+ unrooted source

instance (source : List Char) : (m : OwnMove) → Decidable (m.IsMissed source)
  | .page => inferInstanceAs (Decidable (_ ∨ _))
  | .readme => inferInstanceAs (Decidable (_ ≠ _))
  | .index => inferInstanceAs (Decidable (_ ∨ _))

/-- A path without its leading slashes and the extension of published pages. -/
def barePath (p : List Char) : List Char := replaceEnd ".html".toList [] (unrooted p)

/-- The forms of a destination that are no conflict. -/
def movedForms (source : List Char) : List (List Char) :=
  [source, source ++ "/README".toList, source ++ "/index".toList]

theorem redirectConflicts_iff {t : FileTree} {root : FilePath} {source destination : String} :
    redirectConflicts t root source destination = true ↔
      barePath destination.toList ∉ movedForms (barePath source.toList) ∧
        t.hasFile root (.ofList (barePath source.toList ++ pageExtension)) = true := by
  show (!(movedForms (barePath source.toList)).contains (barePath destination.toList) && _) = true ↔ _
  rw [Bool.and_eq_true, Bool.not_eq_true', ← Bool.not_eq_true, List.contains_iff_mem]
  rfl

/-- Whether what follows the source is one of the forms does not depend on the source. -/
theorem append_mem_movedForms_iff {source tail : List Char} :
    source ++ tail ∈ movedForms source ↔ tail ∈ movedForms [] := by
  simp [movedForms]

section Moves

variable {k : List Char}

theorem barePath_of_no_html (h : ¬".html".toList <:+ unrooted k) (hline : '\n' ∉ k) :
    barePath k = unrooted k :=
  replaceEnd_of_not_suffix _ h fun hmem => hline (mem_of_mem_unrooted hmem)

theorem barePath_of_html {stem : List Char} (h : unrooted k = stem ++ ".html".toList) :
    barePath k = stem := by
  unfold barePath
  rw [h, replaceEnd_append, List.append_nil]

theorem barePath_of_nothing (h : unrooted k = []) : barePath k = [] := by
  unfold barePath
  rw [h]
  rfl

/-- The bare path is what is left, or what stands before the extension. -/
theorem unrooted_eq_barePath_append (hline : '\n' ∉ k) :
    (¬".html".toList <:+ unrooted k ∧ unrooted k = barePath k ++ []) ∨
      (".html".toList <:+ unrooted k ∧ unrooted k = barePath k ++ ".html".toList) := by
  by_cases h : ".html".toList <:+ unrooted k
  · refine .inr ⟨h, ?_⟩
    obtain ⟨stem, hstem⟩ := h
    rw [barePath_of_html hstem.symm, hstem]
  · rw [barePath_of_no_html h hline, List.append_nil]
    exact .inl ⟨h, rfl⟩

/-- A path that is published as an HTML page, bare. -/
theorem barePath_html (stem : List Char) : barePath (stem ++ ".html".toList) = unrooted stem :=
  barePath_of_html (unrooted_append_of_head (by decide) stem)

/-- A path that is published as a directory has no extension. -/
theorem barePath_folder {p : List Char} (hline : '\n' ∉ p) :
    barePath (p ++ ['/']) = unrooted (p ++ ['/']) := by
  refine barePath_of_no_html (fun h => ?_) (by simpa using hline)
  have hslash : ['/'] <:+ p ++ ['/'] := List.suffix_append ..
  rcases List.suffix_or_suffix_of_suffix (h.trans (List.dropWhile_suffix _)) hslash with h | h <;>
    exact absurd h (by decide)

theorem mem_movedForms_page_iff (hline : '\n' ∉ k) :
    barePath (toPublished ('/' :: (k ++ ".md".toList))) ∈ movedForms (barePath k)
      ↔ ¬OwnMove.page.IsMissed k := by
  have hclean : '\n' ∉ '/' :: k := by simpa using hline
  unfold OwnMove.IsMissed
  rw [not_or]
  by_cases hreadme : "/README".toList <:+ '/' :: k
  · -- The page introduces its directory, so that less than the source is left of the destination.
    obtain ⟨front, hfront⟩ := hreadme
    have hdestination : toPublished ('/' :: (k ++ ".md".toList)) = front ++ ['/'] := by
      rw [← toPublished_readme, ← List.cons_append, ← hfront, List.append_assoc]
      rfl
    have hsource : unrooted k = unrooted (front ++ ['/']) ++ "README".toList := by
      rw [← unrooted_append_of_head (by decide), List.append_assoc]
      exact (congrArg unrooted hfront).symm
    have hno : ¬".html".toList <:+ unrooted k := fun h => by
      have hends : "README".toList <:+ unrooted k := ⟨_, hsource.symm⟩
      rcases List.suffix_or_suffix_of_suffix h hends with h | h <;> exact absurd h (by decide)
    have hfrontLine : '\n' ∉ front := fun h => hclean (hfront ▸ List.mem_append_left _ h)
    rw [hdestination, barePath_folder hfrontLine, barePath_of_no_html hno hline, hsource]
    refine iff_of_false (fun h => ?_) fun h => h.2 ⟨front, hfront⟩
    simp only [movedForms, List.mem_cons, List.not_mem_nil, or_false] at h
    rcases h with h | h | h <;> simpa using congrArg List.length h
  · have hpublished : toPublished ('/' :: k ++ ".md".toList) = '/' :: k ++ ".html".toList :=
      toPublished_page hreadme hclean
    rw [← List.cons_append, hpublished, barePath_html, and_iff_left hreadme]
    show unrooted k ∈ _ ↔ _
    rcases unrooted_eq_barePath_append hline with ⟨hhtml, hk⟩ | ⟨hhtml, hk⟩
    · rw [hk, append_mem_movedForms_iff, ← hk]
      exact iff_of_true (by decide) hhtml
    · rw [hk, append_mem_movedForms_iff, ← hk]
      exact iff_of_false (by decide) (not_not_intro hhtml)

theorem mem_movedForms_readme_iff (hline : '\n' ∉ k) :
    barePath (toPublished ('/' :: (k ++ "/README.md".toList))) ∈ movedForms (barePath k)
      ↔ ¬OwnMove.readme.IsMissed k := by
  unfold OwnMove.IsMissed
  rw [not_not, ← List.cons_append, toPublished_readme, barePath_folder (by simpa using hline),
    unrooted_append]
  show (if unrooted k = [] then _ else unrooted k ++ ['/']) ∈ _ ↔ _
  by_cases hnone : unrooted k = []
  · rw [if_pos hnone, barePath_of_nothing hnone]
    exact iff_of_true (by decide) hnone
  · rw [if_neg hnone]
    refine iff_of_false (fun h => ?_) hnone
    rcases unrooted_eq_barePath_append hline with ⟨-, hk⟩ | ⟨-, hk⟩ <;>
      · rw [hk, List.append_assoc, append_mem_movedForms_iff] at h
        exact absurd h (by decide)

theorem mem_movedForms_index_iff (hline : '\n' ∉ k) :
    barePath (toPublished ('/' :: (k ++ "/index.md".toList))) ∈ movedForms (barePath k)
      ↔ ¬OwnMove.index.IsMissed k := by
  have hno : ¬"/README".toList <:+ '/' :: k ++ "/index".toList := fun h => by
    rcases List.suffix_or_suffix_of_suffix h (List.suffix_append ..) with h | h <;>
      exact absurd h (by decide)
  have hpublished : toPublished ('/' :: (k ++ "/index.md".toList))
      = '/' :: k ++ "/index".toList ++ ".html".toList := by
    rw [← toPublished_page hno (by simpa using hline), List.append_assoc]
    rfl
  unfold OwnMove.IsMissed
  rw [not_or, hpublished, barePath_html, unrooted_append]
  show (if unrooted k = [] then _ else unrooted k ++ "/index".toList) ∈ _ ↔ _
  by_cases hnone : unrooted k = []
  · rw [if_pos hnone, barePath_of_nothing hnone]
    exact iff_of_false (by decide) fun h => h.1 hnone
  · rw [if_neg hnone, and_iff_right hnone]
    rcases unrooted_eq_barePath_append hline with ⟨hhtml, hk⟩ | ⟨hhtml, hk⟩
    · rw [hk, List.append_assoc, append_mem_movedForms_iff, ← hk]
      exact iff_of_true (by decide) hhtml
    · rw [hk, List.append_assoc, append_mem_movedForms_iff, ← hk]
      exact iff_of_false (by decide) (not_not_intro hhtml)

/-- **The moves that are seen.** The destination is one of the forms that are no conflict unless the move
is missed. -/
theorem mem_movedForms_iff (m : OwnMove) (hline : '\n' ∉ k) :
    barePath (toPublished ('/' :: (k ++ m.ending.toList))) ∈ movedForms (barePath k) ↔ ¬m.IsMissed k := by
  cases m with
  | page => exact mem_movedForms_page_iff hline
  | readme => exact mem_movedForms_readme_iff hline
  | index => exact mem_movedForms_index_iff hline

end Moves

/-! ## The check -/

section Check

variable {e : RedirectEntry} {content : String} {file : Option FilePath}

theorem newline_not_mem_of_mem (he : e ∈ (RedirectTable.ofText content file).entries) :
    '\n' ∉ e.rawFrom.toList ∧ '\n' ∉ e.rawTo.toList :=
  (Redirect.trimmed_of_mem (List.mem_map_of_mem he)).2.2

/-- **The check of a destination that is a page of the project.** It is broken exactly if it is an
unserved index. -/
theorem checkTable_broken_iff {σ : Type} (c : Context) (book : Option FilePath) (w : Workspace σ)
    (he : e ∈ (RedirectTable.ofText content file).entries) (hpage : pageExtension <:+ e.rawTo.toList)
    (hfile : c.hasFile w.tree e.rawTo = true) :
    ∃ r v, checkTable c.root book (.ofText content file) w = (.ok r, v) ∧ v.tree = w.tree ∧
      ((∃ i ∈ r.broken, i.entry = e) ↔ IsUnservedIndex w.tree c.root book e.rawTo.toList) := by
  obtain ⟨v, hrun, htree, -⟩ := checkTable_run c.root book (.ofText content file) w
  refine ⟨_, v, hrun, htree, ?_⟩
  rw [mem_broken_iff he, (Redirect.isPublished_of_mem he).toPath]
  exact servesPath_publishedPath_iff hpage (newline_not_mem_of_mem he).2 hfile

/-- Redirects to a page, to the index of a directory, and of two pages into directories of their own. -/
def movesConfiguration : String :=
  "redirects:\n  old: a.md\n  x: docs/index.md\n  a: a/README.md\n  b: b/index.md\n"

/-- A project at `/p` in which those pages are still where they were, without a book. -/
def movesProject : Workspace Unit where
  tree :=
    { nodes := [(["p"], .folder), (["p", "a.md"], .file (.text "")), (["p", "b.md"], .file (.text "")),
        (["p", "docs"], .folder), (["p", "docs", "index.md"], .file (.text ""))]
      cwd := ["p"]
      home := [] }
  scope := ()

/-- The context of that project. -/
def movesContext : Context where
  root := .ofString "/p"
  excludeDirs := []
  table := some (.ofText movesConfiguration none)

/-- The entry of a line of that configuration. -/
def movesEntry (line : Nat) (source destination : String) : RedirectEntry :=
  Redirect.entryOf line source.toList destination.toList

theorem checkTable_broken_iff_movesProject :
    ∃ r v, checkTable movesContext.root none (.ofText movesConfiguration none) movesProject = (.ok r, v) ∧
      ¬∃ i ∈ r.broken, i.entry = movesEntry 2 "old" "a.md" := by
  have hentry : movesEntry 2 "old" "a.md" ∈ (RedirectTable.ofText movesConfiguration none).entries := by
    decide +kernel
  obtain ⟨r, v, hrun, -, hbroken⟩ := checkTable_broken_iff movesContext none movesProject hentry
    (by decide +kernel) (by decide +kernel)
  refine ⟨r, v, hrun, fun hlisted => ?_⟩
  obtain ⟨folder, hindex, -⟩ := hbroken.1 hlisted
  have hends : "/index.md".toList <:+ unrooted (movesEntry 2 "old" "a.md").rawTo.toList :=
    ⟨folder, hindex.symm⟩
  exact absurd hends (by decide +kernel)

/-- The index of a directory without an introduction is a page of the project and is listed as broken. -/
theorem existing_index_broken :
    ∃ r v, checkTable movesContext.root none (.ofText movesConfiguration none) movesProject = (.ok r, v) ∧
      ∃ e ∈ (RedirectTable.ofText movesConfiguration none).entries, pageExtension <:+ e.rawTo.toList ∧
        movesContext.hasFile movesProject.tree e.rawTo = true ∧ ∃ i ∈ r.broken, i.entry = e := by
  obtain ⟨v, hrun, -⟩ :=
    checkTable_run movesContext.root none (.ofText movesConfiguration none) movesProject
  exact ⟨_, v, hrun, movesEntry 3 "x" "docs/index.md", by decide +kernel, by decide +kernel,
    by decide +kernel, ⟨movesEntry 3 "x" "docs/index.md", "target does not exist"⟩, by decide +kernel,
    rfl⟩

/-- **The check of a move to the page's own place.** It is skipped exactly if it is missed and the page of
the bare source is there. -/
theorem checkTable_skipped_iff {σ : Type} (root : FilePath) (book : Option FilePath) (w : Workspace σ)
    (he : e ∈ (RedirectTable.ofText content file).entries) (m : OwnMove)
    (hmove : e.rawTo = e.rawFrom ++ m.ending) :
    ∃ r v, checkTable root book (.ofText content file) w = (.ok r, v) ∧ v.tree = w.tree ∧
      ((∃ i ∈ r.skipped, i.entry = e) ↔ m.IsMissed e.rawFrom.toList ∧
        w.tree.hasFile root (.ofList (bareUrl e.rawFrom ++ pageExtension)) = true) := by
  obtain ⟨v, hrun, htree, -⟩ := checkTable_run root book (.ofText content file) w
  refine ⟨_, v, hrun, htree, ?_⟩
  have hpaths := Redirect.isPublished_of_mem he
  have hfrom : barePath e.fromPath.toList = barePath e.rawFrom.toList := by
    rw [hpaths.fromPath, String.toList_append]
    rfl
  have hto : e.toPath.toList = toPublished ('/' :: (e.rawFrom.toList ++ m.ending.toList)) := by
    rw [hpaths.toPath, toList_publishedPath, hmove, String.toList_append]
  rw [mem_skipped_iff he, redirectConflicts_iff, hfrom, hto,
    mem_movedForms_iff m (newline_not_mem_of_mem he).1, not_not]
  rfl

theorem checkTable_skipped_iff_movesProject :
    ∃ r v, checkTable movesContext.root none (.ofText movesConfiguration none) movesProject = (.ok r, v) ∧
      ¬∃ i ∈ r.skipped, i.entry = movesEntry 5 "b" "b/index.md" := by
  have hentry : movesEntry 5 "b" "b/index.md" ∈ (RedirectTable.ofText movesConfiguration none).entries := by
    decide +kernel
  obtain ⟨r, v, hrun, -, hskipped⟩ :=
    checkTable_skipped_iff movesContext.root none movesProject hentry .index (by decide +kernel)
  exact ⟨r, v, hrun, fun hlisted => absurd (hskipped.1 hlisted).1 (by decide +kernel)⟩

/-- A page that becomes the introduction of its directory is listed as skipped while it is still there. -/
theorem moved_to_readme_skipped :
    ∃ r v, checkTable movesContext.root none (.ofText movesConfiguration none) movesProject = (.ok r, v) ∧
      ∃ e ∈ (RedirectTable.ofText movesConfiguration none).entries,
        e.rawTo = e.rawFrom ++ "/README.md" ∧ ∃ i ∈ r.skipped, i.entry = e := by
  obtain ⟨v, hrun, -⟩ :=
    checkTable_run movesContext.root none (.ofText movesConfiguration none) movesProject
  exact ⟨_, v, hrun, movesEntry 4 "a" "a/README.md", by decide +kernel, by decide +kernel,
    ⟨movesEntry 4 "a" "a/README.md", "source path exists as different content"⟩, by decide +kernel, rfl⟩

end Check

end DocLinks
