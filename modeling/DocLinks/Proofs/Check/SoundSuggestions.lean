import DocLinks.Proofs.Check.Places
import DocLinks.Proofs.Check.Suggestions
import DocLinks.Proofs.Redirect.Agreement
import DocLinks.Proofs.Redirect.Views

/-!
# Sound suggestions

What is suggested for a broken link is a file, and another one than the link asks for. It is where a
redirect leads to, or a page, or a `README.md` near the document, and the redirects come first: a
suggestion is of high confidence if and only if some redirect of the path leads to a file
(`searchFix_sound`).

## Contents
- `FileTree.InReach`: every place can be looked up.
- `SuggestionOrigin`: where a suggestion comes from.
- `neighborReadme_names`: the `README.md` near a document.
- `searchFix_of_redirect`: redirects come first.
- `SoundSuggestion`, `searchFix_sound`.
-/

namespace DocLinks

open Text FileTree DocPath

/-- Every place can be looked up by its absolute path, which is not too long. -/
def FileTree.InReach (t : FileTree) : Prop := ∀ e ∈ t.nodes, isTooLong (.absolute e.1) = false

instance (t : FileTree) : Decidable t.InReach :=
  inferInstanceAs (Decidable (∀ e ∈ t.nodes, isTooLong (.absolute e.1) = false))

/-! ## Where suggestions come from -/

/-- The names of the folder of a document, without detours. Above the root of the project there is nothing
for a path that starts with a slash. -/
def folderOf (source : String) : List String :=
  FilePath.namesOf (collapse (directory source.toList))

/-- Where the path of a suggestion comes from. -/
inductive SuggestionOrigin (c : Context) (b : BrokenLink) (s : FixSuggestion) : Prop
  /-- A redirect that counts for a spelling of the path that the link asks for. -/
  | redirect (table : RedirectTable) (e : RedirectEntry) (htable : c.table = some table)
      (hspelling : e.rawFrom ∈ RedirectTable.variants b.probe)
      (hcounts : table.findEntry? e.rawFrom = some e) (hentry : s.redirectEntry = some e)
      (hpath : s.suggestedPath = e.rawTo)
  /-- A page. It is spelled from the root of the project, and none of its folders is passed over. -/
  | page (folders : List String) (name : String) (hnames : ∀ n ∈ folders ++ [name], IsFileName n)
      (hpath : s.suggestedPath = "/".intercalate (folders ++ [name]))
      (hextension : FilePath.suffixOf name = ".md") (hfolders : ∀ n ∈ folders, .text n ∉ c.excludeDirs)
  /-- The introduction of the folder of the document, or of one of the two above. No step leads out of
  the project. -/
  | readme (above below : List String) (hfolder : folderOf b.sourceFile = above ++ below)
      (hnear : below.length ≤ 2) (hinside : ".." ∉ folderOf b.sourceFile)
      (hpath : FilePath.namesOf s.suggestedPath.toList = above ++ ["README.md"])

/-! ## The introductions near a document -/

/-- **The introduction near a document** is that of its folder, or of one of the two above. -/
theorem neighborReadme_names {source : String} {neighbor : String × String}
    (hneighbor : neighbor ∈ neighborDirectories)
    (hinside : ¬"..".toList.isPrefixOf (neighborReadme source neighbor.1)) :
    ∃ above below, folderOf source = above ++ below ∧ below.length ≤ 2 ∧ ".." ∉ folderOf source ∧
      FilePath.namesOf (neighborReadme source neighbor.1) = above ++ ["README.md"] := by
  obtain ⟨k, hget⟩ := List.mem_iff_getElem?.1 hneighbor
  obtain ⟨hk, -, hhead, hclimb⟩ := neighbor_of_getElem? hget
  have hreadme : readme.head? ≠ some '/' := by decide
  have hrooted : (leadingSlashes (join (join (directory source.toList) neighbor.1.toList) readme)).isEmpty
      = (leadingSlashes (directory source.toList)).isEmpty := by
    rw [isEmpty_leadingSlashes_join _ hreadme, isEmpty_leadingSlashes_join _ hhead]
  unfold neighborReadme at hinside ⊢
  have hup : up ∉ collapsedNames _ (names _) := fun hmem =>
    hinside (List.isPrefixOf_iff_prefix.2 (up_prefix_collapse hmem))
  rw [namesOf_collapse]
  unfold folderOf
  rw [namesOf_collapse]
  rw [hrooted] at hup ⊢
  unfold collapsedNames at hup ⊢
  rw [foldl_climb_join hreadme, foldl_climb_join hhead, hclimb] at hup ⊢
  -- The walk goes along the folder, some steps up, and one step down.
  generalize (names (directory source.toList)).foldl (climb _) [] = walked at hup ⊢
  have hdown : ∀ rooted above, (names readme).foldl (climb rooted) above = readme :: above := by
    intro rooted above
    rw [show names readme = [readme] by decide]
    exact climb_of_isStep isStep_readme rooted above
  rw [hdown, List.mem_reverse, List.mem_cons, not_or] at hup
  have hdrop := foldl_climb_replicate_up_of_not_mem k hup.2
  refine ⟨(walked.drop k).reverse.map String.ofList, (walked.take k).reverse.map String.ofList,
    ?_, ?_, ?_, ?_⟩
  · rw [← List.map_append, ← List.reverse_append, List.take_append_drop]
  · simp only [List.length_map, List.length_reverse, List.length_take]
    omega
  · intro hmem
    obtain ⟨n, hn, hname⟩ := List.mem_map.1 hmem
    obtain rfl : n = up := String.ofList_injective hname
    exact hup.2 (up_mem_foldl_climb _ (List.mem_reverse.1 hn))
  · rw [hdown, hdrop, List.reverse_cons, List.map_append]
    rfl

/-! ## Where the strategies look -/

section Strategies

variable {t : FileTree} {c : Context} {b : BrokenLink} {s : FixSuggestion}

/-- A redirect that is followed counts for its own source. -/
theorem origin_of_redirect {index : FileIndex}
    (h : redirectSuggestion ⟨t, c.root, c.table, index⟩ b = some s) :
    SuggestionOrigin c b s ∧ ∃ table, c.table = some table ∧ HasLiveRedirect t c.root table b.probe := by
  obtain ⟨table, spelling, htable, hspelling, hget, hentry, -, hne, hfile⟩ :=
    redirectSuggestion_eq_some h
  refine ⟨?_, table, htable, spelling, hspelling, s.suggestedPath, hget, hne, hfile⟩
  rw [table.get?_fromTo] at hget
  obtain ⟨e, he, hpath⟩ := Option.map_eq_some_iff.1 hget
  obtain ⟨_, _, _, hsource, _⟩ := table.findEntry?_eq_some_iff.1 he
  subst hsource
  exact .redirect table e htable hspelling he (hentry.trans he) hpath.symm

/-- A page of the index lies below the root, and its path leads to it. -/
theorem origin_of_page (ht : t.Proper) (hreach : t.InReach) (hroot : c.root.IsResolved)
    {files : List String} (hscan : t.scan c.root [".md"] c.excludeDirs = .ok files)
    (hmem : s.suggestedPath ∈ files) :
    SuggestionOrigin c b s ∧ t.hasFile c.root s.suggestedPath = true := by
  obtain ⟨-, place, excluded, hwalk, hexcluded, hbelow⟩ := scan_ok hscan hmem
  obtain ⟨names, hfound⟩ := mem_filesBelow ht hbelow
  obtain rfl := place_of_isResolved hroot (placeOf_eq_ok_iff.2 hwalk)
  have hplace : projectPath c.root s.suggestedPath = .absolute (c.root.names ++ names) := by
    rw [projectPath_eq, hfound.spelled, namesOf_intercalate hfound.isFileName, hroot.slashes]
    rfl
  obtain ⟨e, he, hnames⟩ := hfound.listed
  have hshort : isTooLong (projectPath c.root s.suggestedPath) = false := by
    rw [hplace, ← hnames]
    exact hreach e he
  refine ⟨?_, hasFile_of_scan ht hscan hmem hshort⟩
  obtain ⟨folders, name, rfl⟩ := List.eq_nil_or_concat' names |>.resolve_left hfound.ne
  have hwanted := hfound.wanted
  unfold isWanted at hwanted
  rw [List.getLast?_concat, List.dropLast_concat, Bool.and_eq_true, Bool.not_eq_true',
    List.any_eq_false] at hwanted
  refine .page folders name hfound.isFileName hfound.spelled (by simpa using hwanted.1) ?_
  intro n hn htext
  exact hwanted.2 n hn (List.contains_iff_mem.2 ((mem_folderNames hexcluded).2 htext))

theorem origin_of_readme {index : FileIndex}
    (h : readmeSuggestion ⟨t, c.root, c.table, index⟩ b = some s) : SuggestionOrigin c b s := by
  obtain ⟨neighbor, hneighbor, hpath, hinside, -, -⟩ := readmeSuggestion_eq_some h
  obtain ⟨above, below, hfolder, hnear, hdown, hnames⟩ := neighborReadme_names hneighbor hinside
  refine .readme above below hfolder hnear hdown ?_
  rw [hpath, String.toList_ofList]
  exact hnames

/-- **What a strategy suggests** is a file, and if it is of high confidence, a redirect leads there. -/
theorem SuggestedIn.sound (ht : t.Proper) (hreach : t.InReach) (hroot : c.root.IsResolved)
    (h : SuggestedIn t c b s) :
    t.hasFile c.root s.suggestedPath = true ∧ SuggestionOrigin c b s ∧
      (s.confidence = .high →
        ∃ table, c.table = some table ∧ HasLiveRedirect t c.root table b.probe) := by
  obtain ⟨strategy, index, hindex, hfind⟩ := h
  cases strategy with
  | redirect =>
    obtain ⟨horigin, hlive⟩ := origin_of_redirect hfind
    obtain ⟨_, _, _, _, _, _, _, _, hfile⟩ := redirectSuggestion_eq_some hfind
    exact ⟨hfile, horigin, fun _ => hlive⟩
  | readme =>
    obtain ⟨_, _, _, _, hlow, hfile⟩ := readmeSuggestion_eq_some hfind
    refine ⟨hfile, origin_of_readme hfind, fun hhigh => ?_⟩
    rw [hlow] at hhigh
    cases hhigh
  | basename | similarity | letterCase =>
    obtain ⟨files, hscan, hofFiles⟩ := hindex rfl
    obtain ⟨horigin, hfile⟩ := origin_of_page ht hreach hroot hscan (mem_of_usesIndex hofFiles rfl hfind)
    exact ⟨hfile, horigin, fun hhigh => absurd hhigh (confidence_ne_high_of_usesIndex rfl hfind)⟩

end Strategies

/-! ## Redirects come first -/

section Search

variable {w v : Workspace Context} {b : BrokenLink} {s : FixSuggestion}

/-- **Redirects come first**: what is suggested for a redirect is what the search answers. -/
theorem searchFix_of_redirect
    (h : redirectSuggestion ⟨w.tree, w.scope.root, w.scope.table, default⟩ b = some s) :
    searchFix b w = (.ok (some s), w) := by
  have hfirst : runStrategy .redirect b w = (.ok (some s), w) := by
    rw [← h]
    rfl
  unfold searchFix Strategy.all runStrategies
  rw [Work.bind_run_of_ok hfirst]
  rfl

/-- The root of the project is not a file, so no redirect leads to it. -/
theorem isLive_iff_hasFile {t : FileTree} {root : FilePath} (hroot : t.stat root = .ok .folder)
    {destination : String} : IsLive t root destination ↔ t.hasFile root destination = true := by
  refine ⟨And.right, fun hfile => ⟨?_, hfile⟩⟩
  rintro rfl
  have hempty : projectPath root "" = root := by
    rw [projectPath_eq]
    exact congrArg (FilePath.mk root.slashes) (List.append_nil root.names)
  obtain ⟨c, hstat⟩ := isFile_iff_stat.1 hfile
  rw [hempty, hroot] at hstat
  cases hstat

/-- What a suggestion for a broken link is in a context. -/
structure SoundSuggestion (w : Workspace Context) (b : BrokenLink) (s : FixSuggestion) : Prop where
  /-- It is a file of the project, and not what the link already leads to. -/
  isFile : w.scope.hasFile w.tree s.suggestedPath = true
  new : b.resolvedPath ≠ some s.suggestedPath
  /-- It is a destination of a redirect, a page, or an introduction near the document. -/
  origin : SuggestionOrigin w.scope b s
  /-- It is of high confidence if some spelling of the path is redirected to a file, and only then. -/
  high_iff : s.confidence = .high ↔ ∃ table, w.scope.table = some table ∧
    ∃ spelling ∈ RedirectTable.variants b.probe, ∃ destination,
      table.fromTo.get? spelling = some destination ∧ w.scope.hasFile w.tree destination = true

end Search

/-- A project at `/p` in which a page has moved from the folder `docs` to the folder `install`. A folder
that is passed over has a page of that name too, and the redirect of the page leads nowhere. -/
def movedTree : FileTree where
  nodes := [(["p"], .folder), (["p", "docs"], .folder), (["p", "docs", "guide.md"], .file (.text "")),
    (["p", "install"], .folder), (["p", "install", "setup.md"], .file (.text "")),
    (["p", "dist"], .folder), (["p", "dist", "setup.md"], .file (.text ""))]
  cwd := ["p"]
  home := []

/-- The context of that project, when its pages have been searched for. -/
def movedProject : Workspace Context where
  tree := movedTree
  scope :=
    { root := .ofString "/p"
      excludeDirs := [.text "dist"]
      table := some (.ofText "redirects:\n  docs/setup: gone.md\n" none)
      index := some (.ofFiles ["docs/guide.md", "install/setup.md"]) }
  log := []

theorem scan_movedTree : movedTree.scan (.ofString "/p") [".md"] [.text "dist"]
    = .ok ["docs/guide.md", "install/setup.md"] := by
  have hbelow : movedTree.scan (.ofString "/p") [".md"] [.text "dist"]
      = .ok (movedTree.filesBelow ["p"] [".md"] ["dist"]) := rfl
  rw [hbelow]
  refine congrArg Except.ok ?_
  -- The tree lists the pages in their order.
  change ((movedTree.nodes.filterMap _).mergeSort _).eraseDups = _
  rw [List.mergeSort_of_pairwise (by decide +kernel)]
  decide +kernel

end DocLinks
