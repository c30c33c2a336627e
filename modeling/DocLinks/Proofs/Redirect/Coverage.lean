import DocLinks.Proofs.Check.Verdicts
import DocLinks.Proofs.Project.PlainPaths
import DocLinks.Proofs.Redirect.Batches

/-!
# What recorded redirects cover

A redirect is recorded under a key that is made of the target as it is written, and it is looked up
under the path that the target resolves to. For a plain target in a document at the root of the project
the key is one of the spellings of that path, so the redirect is found and the link is redirected where
it was broken (`recordedRedirect_covers_target`). In any other directory the path has the directory in
front, and the redirect is not found (`recordedRedirect_misses_nestedPage`).

## Contents
- `redirectSource_mem_variants`: the key of a redirect is a spelling of the target it is made of.
- `Recorded.isSome_findTarget?`: a recorded redirect is found under the spellings of a path.
-/

namespace DocLinks

open Text FileTree DocPath

/-! ## Looking up -/

theorem redirectSource_eq (l : Link) :
    redirectSource l = .ofList (replaceEnd pageExtension [] (targetBody l.targetPath.toList)) := rfl

/-- The key of a link is one of the spellings of the path that its target is written as. -/
theorem redirectSource_mem_variants (l : Link) :
    redirectSource l ∈ RedirectTable.variants (.ofList (targetBody l.targetPath.toList)) := by
  have hbare : redirectSource l
      = onChars (replaceEnd ".md".toList []) (.ofList (targetBody l.targetPath.toList)) := by
    have hbody : (String.ofList (targetBody l.targetPath.toList)).toList
        = targetBody l.targetPath.toList := String.toList_ofList
    unfold onChars
    rw [redirectSource_eq, hbody]
    rfl
  unfold RedirectTable.variants
  simp only [List.mem_cons]
  exact .inr (.inr (.inl hbare))

section Lookup

variable {fs : List SuggestedFix} {wanted : Bool} {w v : Workspace Context} {batch : FixBatch}

/-- **A recorded redirect is found** under every path that its key is a spelling of, if no redirect of
the batch breaks its line. -/
theorem Recorded.isSome_findTarget? {table table' : RedirectTable} {file : FilePath} {content : String}
    (h : Recorded table table' file content fs w v batch)
    (hline : ∀ p ∈ newPairs (some table) batch.results,
      '\n' ∉ p.source.toList ∧ '\n' ∉ p.destination.toList)
    {p : RedirectPair} (hp : p ∈ newPairs (some table) batch.results)
    (hkey : Redirect.IsKey p.source) {path : String} (hpath : p.source ∈ RedirectTable.variants path) :
    (table'.findTarget? path).isSome := by
  obtain ⟨hne, hcolon, htrim⟩ := hkey
  obtain ⟨before, after, _, hnew⟩ := Redirect.exists_entries_recorded content hline
  -- The line of the redirect says its key, whatever is read as its destination.
  have hsaid : (⟨strip p.source, strip p.destination⟩ : RedirectPair) ∈
      table'.entries.map RedirectEntry.pair := by
    rw [h.reloaded, hnew]
    refine List.mem_append_left _ (List.mem_append_right _ ?_)
    exact List.mem_filterMap.2 ⟨Redirect.entryLine p, List.mem_map.2 ⟨p, hp, rfl⟩,
      Redirect.parsePair?_entryLine hne hcolon⟩
  have hfound : (table'.fromTo.get? p.source).isSome := by
    rw [RedirectTable.fromTo_eq, ← htrim]
    exact Assoc.isSome_get?_ofList (List.mem_map.2 ⟨_, hsaid, rfl⟩)
  exact table'.isSome_findTarget? hpath hfound

/-- **A recorded redirect covers the target that was broken**: in a document at the root of the project,
with a plain target whose key a line can say, the path that was missing is redirected afterwards. As
long as the redirect leads to a file the link would be redirected if it were written again. -/
theorem recordedRedirect_covers_target {t₀ : FileTree} {root : FilePath} {table₀ : Option RedirectTable}
    {source : String} {link : Link} {b : BrokenLink}
    (hbroken : validateLink t₀ root table₀ source link = .broken b)
    (hroot : '/' ∉ source.toList) (hplain : IsPlainPath (targetBody link.targetPath.toList))
    (hkey : Redirect.IsKey (redirectSource link))
    (hrun : applyFixesWithRedirects fs wanted w = (.ok batch, v))
    (hline : ∀ p ∈ newPairs w.scope.table batch.results,
      '\n' ∉ p.source.toList ∧ '\n' ∉ p.destination.toList)
    {r : FixResult} (hr : r ∈ batch.results) (hlink : r.link = b.link) (hadded : r.redirectAdded = true) :
    ∃ table' path destination, v.scope.table = some table' ∧ b.resolvedPath = some path ∧
      table'.findTarget? path = some destination ∧
      ∀ t : FileTree, (resolveLink t root source link.targetPath).isFile = false →
        destination ≠ "" → t.hasFile root destination = true →
        validateLink t root v.scope.table source link
          = .redirectAvailable source link path destination := by
  obtain ⟨hkind, hmissing, _, rfl⟩ := validateLink_eq_broken_iff.1 hbroken
  have hsource : r.redirectPair.source = redirectSource link := congrArg redirectSource hlink
  rcases applyFixesWithRedirects_cases hrun with ⟨table, table', file, content, hrec⟩ | ⟨_, hnone⟩
  · rw [hrec.before] at hline
    obtain ⟨destination, hfound⟩ := Option.isSome_iff_exists.1
      (hrec.isSome_findTarget? hline (hrec.marked r hr hadded) (hsource ▸ hkey)
        (hsource ▸ redirectSource_mem_variants link))
    -- The missing path is the body of the target, of which the key is a spelling.
    refine ⟨table', _, destination, hrec.after,
      congrArg some (resolveLink_of_plain hroot hplain rfl hmissing), hfound, ?_⟩
    intro t ht hne hfile
    have hresolved := resolveLink_of_plain hroot hplain rfl ht
    rw [← hresolved]
    refine validateLink_of_redirect hkind ht ?_
    rw [hresolved, hrec.after]
    unfold liveRedirect?
    rw [Option.bind_some, hfound, Option.filter_some_pos (by simpa using hne),
      Option.filter_some_pos hfile]
  · rw [hnone r hr] at hadded
    cases hadded

end Lookup

theorem recordedRedirect_covers_target_onePage :
    ∃ b batch v table' path destination,
      validateLink (redirectProject "[x](./old.md)").tree (.ofString "/p") (some oneRedirect) "d.md"
          (toNewPage "./old.md").broken.link = .broken b ∧
        applyFixesWithRedirects [toNewPage "./old.md"] true (redirectProject "[x](./old.md)")
          = (.ok batch, v) ∧
        v.scope.table = some table' ∧ b.resolvedPath = some path ∧
        table'.findTarget? path = some destination ∧
        ∀ t : FileTree,
          (resolveLink t (.ofString "/p") "d.md" "./old.md").isFile = false → destination ≠ "" →
          t.hasFile (.ofString "/p") destination = true →
          validateLink t (.ofString "/p") v.scope.table "d.md" (toNewPage "./old.md").broken.link
            = .redirectAvailable "d.md" (toNewPage "./old.md").broken.link path destination := by
  let link : Link := (toNewPage "./old.md").broken.link
  have hbroken : validateLink (redirectProject "[x](./old.md)").tree (.ofString "/p")
      (some oneRedirect) "d.md" link
        = .broken (missingLink (redirectProject "[x](./old.md)").tree (.ofString "/p") "d.md" link) :=
    by decide +kernel
  obtain ⟨batch, v, hrun, hview⟩ := Work.exists_of_view
    (x := applyFixesWithRedirects [toNewPage "./old.md"] true) (w := redirectProject "[x](./old.md)")
    (f := fun batch _ => (newPairs (some oneRedirect) batch.results,
      batch.results.map fun r => (r.link, r.redirectAdded)))
    (c := ([⟨"old", "new.md"⟩], [(link, true)])) (by decide +kernel)
  obtain ⟨hpairs, hresults⟩ := Prod.mk.inj hview
  obtain ⟨r, hr, hlink⟩ := List.mem_map.1 (hresults ▸ List.mem_singleton.2 rfl)
  obtain ⟨hlink, hadded⟩ := Prod.mk.inj hlink
  have hline : ∀ p ∈ newPairs (redirectProject "[x](./old.md)").scope.table batch.results,
      '\n' ∉ p.source.toList ∧ '\n' ∉ p.destination.toList := by
    have htable : (redirectProject "[x](./old.md)").scope.table = some oneRedirect := rfl
    rw [htable, hpairs]
    decide
  obtain ⟨table', path, destination, htable', hpath, hfound, hcovered⟩ :=
    recordedRedirect_covers_target hbroken (by decide) (by decide) (by decide +kernel) hrun hline hr
      hlink hadded
  exact ⟨_, batch, v, table', path, destination, hbroken, hrun, htable', hpath, hfound, hcovered⟩

/-! ## A page in a directory -/

/-- A project with a page in a directory. -/
def nestedProject : Workspace Context :=
  let w := redirectProject ""
  let page : Node := .file (.text "[x](old.md)")
  { w with tree := (w.tree.put ["p", "docs"] .folder).put ["p", "docs", "d.md"] page }

/-- A link of that page. -/
def nestedLink : Link := ⟨"[x](old.md)", "x", "old.md", none, 1, 1, .internal⟩

/-- The fix of that link. -/
def nestedFix : SuggestedFix where
  broken := missingLink nestedProject.tree (.ofString "/p") "docs/d.md" nestedLink
  suggestion := ⟨.high, "new.md", "", none⟩

/-- The redirect that is recorded for a link of a page in a directory is not found under the path of
the link: if the link is written again, it is broken again. -/
theorem recordedRedirect_misses_nestedPage :
    ∃ batch v table' r,
      validateLink nestedProject.tree (.ofString "/p") (some oneRedirect) "docs/d.md" nestedLink
          = .broken nestedFix.broken ∧
        applyFixesWithRedirects [nestedFix] true nestedProject = (.ok batch, v) ∧
        r ∈ batch.results ∧ r.link = nestedFix.broken.link ∧ r.redirectAdded = true ∧
        v.scope.table = some table' ∧ nestedFix.broken.resolvedPath = some "docs/old.md" ∧
        table'.findTarget? "docs/old.md" = none ∧
        validateLink v.tree (.ofString "/p") (some table') "docs/d.md" nestedLink
          = .broken nestedFix.broken := by
  obtain ⟨batch, v, hrun, hview⟩ := Work.exists_of_view
    (x := applyFixesWithRedirects [nestedFix] true) (w := nestedProject)
    (f := fun batch v => (batch.results.map fun r => (r.link, r.redirectAdded),
      v.scope.table.map fun table' => (table'.findTarget? "docs/old.md",
        validateLink v.tree (.ofString "/p") (some table') "docs/d.md" nestedLink)))
    (c := ([(nestedLink, true)], some (none, .broken nestedFix.broken))) (by decide +kernel)
  obtain ⟨hresults, htable⟩ := Prod.mk.inj hview
  obtain ⟨r, hr, hlink⟩ := List.mem_map.1 (hresults ▸ List.mem_singleton.2 rfl)
  obtain ⟨hlink, hadded⟩ := Prod.mk.inj hlink
  obtain ⟨table', htable', hlookup⟩ := Option.map_eq_some_iff.1 htable
  obtain ⟨hnone, hbroken⟩ := Prod.mk.inj hlookup
  exact ⟨batch, v, table', r, by decide +kernel, hrun, hr, hlink, hadded, htable', by decide +kernel,
    hnone, hbroken⟩

end DocLinks
