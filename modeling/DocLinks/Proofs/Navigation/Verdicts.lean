import DocLinks.Proofs.Check.Reports
import DocLinks.Proofs.Check.Verdicts
import DocLinks.Proofs.Markdown.Rendering
import DocLinks.Proofs.Navigation.Forest
import DocLinks.Proofs.Project.Detours
import DocLinks.Proofs.Target

/-!
# Navigation entries and their links

A line of a navigation file is read twice: as an entry, whose path is looked up as it is written, and as
a line with a link, which is resolved. For targets that both readers take alike (`SharedTarget`) the
entry of a valid link is missing in two cases only: the link was found by its fallback, as a page whose
extension is left out or as the introduction of a directory, or the path cannot be walked as it is
written (`not_missing_iff_of_valid`).

## Contents
- `Checker.missingNavigation_of_check`: the missing entries of a check are told by the tree.
- `SharedTarget`, `exists_link_of_item`: the link that an entry's line holds.
- `SharedTarget.hasFile_iff`: looking up what is written, and resolving it.
- `not_missing_iff_of_valid`: which entries of valid links are missing.
-/

namespace DocLinks

open Text FileTree DocPath Navigation Work

/-! ## The missing entries of a check -/

theorem NavStructure.flatten_ofText (content : String) :
    (ofText content).flatten = parseItems content := itemsOf_forest _

theorem NavStructure.mem_missing_iff {s : NavStructure} {exist : String → Bool} {i : NavItem} :
    i ∈ s.missing exist ↔ i ∈ s.flatten ∧ exist i.path = false := by
  unfold missing
  rw [List.mem_filter, Bool.not_eq_true']

namespace Checker

variable {w v : Workspace Checker}

theorem parseFile_eq_ok {σ : Type} {w v : Workspace σ} {p : FilePath} {n : NavStructure}
    (h : Navigation.parseFile p w = (.ok n, v)) :
    ∃ content, w.tree.read p FileTree.defaultLimit = .ok content ∧ n = .ofText content := by
  unfold Navigation.parseFile at h
  rw [bind_run_of_ok (tree_run w)] at h
  rcases hread : w.tree.read p FileTree.defaultLimit with e | content
  · rw [hread] at h
    cases h
  · rw [hread] at h
    obtain ⟨_, _, _, h⟩ := bind_ok_iff.1 h
    cases h
    exact ⟨content, rfl, rfl⟩

theorem checkNavigation_eq_ok {missing : List NavItem} (h : checkNavigation w = (.ok missing, v)) :
    ∃ content, w.tree.read w.scope.navigationPath FileTree.defaultLimit = .ok content ∧
      missing = (NavStructure.ofText content).missing (w.scope.context.hasFile w.tree) := by
  unfold checkNavigation at h
  rw [bind_run_of_ok (scope_run w)] at h
  obtain ⟨n, u, hn, h⟩ := bind_ok_iff.1 h
  rw [bind_run_of_ok (tree_run u)] at h
  obtain ⟨_, _, _, h⟩ := bind_ok_iff.1 h
  cases h
  obtain ⟨content, hread, rfl⟩ := parseFile_eq_ok hn
  rw [((keeps_parseFile _).of_run hn).tree]
  exact ⟨content, hread, rfl⟩

/-- **The missing entries of a check** are those of the navigation file whose paths are no files. -/
theorem missingNavigation_of_check {report : CheckReport} (h : check w = (.ok report, v)) :
    ∃ content, w.tree.read w.scope.navigationPath FileTree.defaultLimit = .ok content ∧
      report.missingNavigation
        = (NavStructure.ofText content).missing (w.scope.context.hasFile w.tree) := by
  obtain ⟨_, _, _, _, hstages⟩ := exists_stages h
  obtain ⟨u, _, hkeep, hnavigation⟩ := hstages.navigation
  obtain ⟨content, hread, hmissing⟩ := checkNavigation_eq_ok hnavigation
  have hpath : u.scope.navigationPath = w.scope.navigationPath := by rw [hkeep.scope]
  have hexist : u.scope.context.hasFile u.tree = w.scope.context.hasFile w.tree := by
    unfold Context.hasFile
    rw [hkeep.root, hkeep.tree]
  rw [hpath, hkeep.tree] at hread
  rw [hexist] at hmissing
  exact ⟨content, hread, hmissing⟩

end Checker

/-! ## Targets -/

/-- **A target that both readers of a line take alike**: it holds no blanks, parentheses or angle
brackets, and what is left of it when it is cleaned stays inside the project, has no anchor, is written
with slashes, and does not lead above the root of the project behind a step that stays in place. -/
structure SharedTarget (target : List Char) : Prop where
  chars : ∀ c ∈ target, Markdown.isTargetChar c = true
  inside : Target.isExternal (Target.clean target) = false
  hash : '#' ∉ Target.clean target
  backslash : '\\' ∉ Target.clean target
  below : StaysBelowDot (Target.clean target)

section Item

variable {line indent title target : List Char}

theorem SharedTarget.isStandardTarget (h : SharedTarget target) (hne : target ≠ []) :
    Markdown.IsStandardTarget target := .inl ⟨hne, h.chars⟩

theorem target_ne_of_item (h : IsItemLine line indent title target) : target ≠ [] := by
  obtain ⟨_, _, _, -, -, -, -, -, -, -, hne, -⟩ := h
  exact hne

/-- The line of an entry holds a link with the title and the target of the entry. -/
theorem exists_match_of_item (hitem : IsItemLine line indent title target)
    (hshared : SharedTarget target) :
    ∃ (l : Markdown.InlineLink) (start : Nat), l.target = target ∧
      l.matchAt start ∈ Markdown.matchesOf line := by
  obtain ⟨bullet, gap, rest, rfl, hindent, hbullet, -, hgap, -, htitle, hne, -⟩ := hitem
  have hblank : ∀ {cs : List Char}, (∀ c ∈ cs, isBlank c = true) → '[' ∉ cs := fun hcs hmem =>
    absurd (hcs _ hmem) (by decide)
  have hlead : '[' ∉ indent ++ bullet :: gap := by
    rw [List.mem_append, List.mem_cons, not_or, not_or]
    refine ⟨hblank hindent, ?_, hblank hgap⟩
    rcases hbullet with rfl | rfl <;> decide
  let l : Markdown.InlineLink := ⟨title, target, htitle, hshared.isStandardTarget hne⟩
  have hline : indent ++ bullet :: (gap ++ '[' :: (title ++ ']' :: '(' :: (target ++ ')' :: rest)))
      = (indent ++ bullet :: gap) ++ (l.source ++ rest) := by
    simp [l, Markdown.InlineLink.source]
  refine ⟨l, 0 + (indent ++ bullet :: gap).length, rfl, ?_⟩
  unfold Markdown.matchesOf
  refine List.mem_flatMap.2 ⟨Markdown.standard, by simp [Markdown.spellings], ?_⟩
  rw [hline, Markdown.standard_eq, Markdown.scan_inline_append hlead, ← Markdown.standard_eq,
    Markdown.scan_append_of_some (l.standard_source_append rest) (List.cons_ne_nil _ _) rfl]
  exact List.mem_cons_self ..

/-- **The link of an entry** leads where its path says, if the line is not in code. -/
theorem exists_link_of_item {content : String} {k : Nat} (hline : (linesOf content)[k]? = some line)
    (hmark : (Markdown.codeMarks (linesOf content))[k]? = some false)
    (hitem : IsItemLine line indent title target) (hshared : SharedTarget target) :
    ∃ l ∈ Markdown.links content, l.line = (k : Int) + 1 ∧ (l.kind = .internal ∨ l.kind = .asset) ∧
      l.targetPath = .ofList (Target.clean target) := by
  obtain ⟨inline, start, htarget, hmatch⟩ := exists_match_of_item hitem hshared
  have hstays : inline.staysInside = true := by
    unfold Markdown.InlineLink.staysInside
    rw [htarget, hshared.inside]
    rfl
  have hlink := inline.link?_matchAt (k + 1) start
  rw [if_pos hstays] at hlink
  refine ⟨_, Markdown.mem_links_iff.2 ⟨k, line, hline, hmark, _, hmatch, hlink⟩, ?_, ?_, ?_⟩
  · simp [Markdown.InlineLink.linkAt]
  · -- The target does not start with a number sign.
    have hanchor : Target.isAnchorOnly (Target.clean target) = false := by
      rw [← Bool.not_eq_true]
      intro hprefix
      exact hshared.hash ((List.isPrefixOf_iff_prefix.1 hprefix).subset (List.mem_singleton.2 rfl))
    simp only [Markdown.InlineLink.linkAt, Markdown.InlineLink.kind, htarget, hanchor,
      Bool.false_eq_true, if_false]
    split
    · exact .inr rfl
    · exact .inl rfl
  · simp only [Markdown.InlineLink.linkAt, Target.splitAnchor, htarget]
    rw [Target.path_eq_self_iff.2 hshared.hash]

end Item

/-! ## Entries of valid links -/

/-- A link that leads to a file is resolved as it spells its path, or by a fallback. -/
theorem resolved_eq_plain_iff {t : FileTree} {root : FilePath} {source : String} {p : List Char}
    (hne : p ≠ []) (hhash : '#' ∉ p) (hfile : (resolveLink t root source (.ofList p)).isFile = true) :
    (resolveLink t root source (.ofList p)).resolved = .ofList (plainResolution source.toList p) ↔
      t.hasFile root (.ofList (plainResolution source.toList p)) = true := by
  rw [isFile_resolveLink] at hfile
  constructor
  · intro h
    rw [← h]
    exact hfile
  · intro h
    unfold resolveLink Target.splitAnchor
    simp only [String.toList_ofList, Target.path_eq_self_iff.2 hhash]
    rw [if_neg (by simpa using hne), withFallback, if_pos (.inr h)]

/-- **The two look-ups** of a shared target that leads to a file, in a document at the root. -/
theorem SharedTarget.hasFile_iff {target : List Char} (h : SharedTarget target) (hne : target ≠ [])
    {t : FileTree} {root : FilePath} {source : String} (hroot : '/' ∉ source.toList)
    (hfile : (resolveLink t root source (.ofList (Target.clean target))).isFile = true) :
    t.hasFile root (.ofList (Target.clean target)) = true ↔
      CanBeWalked t root (Target.clean target) ∧
        (resolveLink t root source (.ofList (Target.clean target))).resolved
          = .ofList (plainResolution source.toList (Target.clean target)) := by
  rw [resolved_eq_plain_iff (Target.clean_ne_nil hne) h.hash hfile,
    hasFile_plainResolution hroot h.backslash h.below]
  exact hasFile_iff_walked

section Entry

variable {w v : Workspace Checker} {report : CheckReport} {name content : String} {k : Nat}
  {line indent title target : List Char} {i : NavItem}

/-- The entry of a line has the path that is written on it. -/
theorem path_of_item (hline : (linesOf content)[k]? = some line)
    (hitem : IsItemLine line indent title target) (hi : i ∈ (NavStructure.ofText content).flatten)
    (hnumber : i.line = k + 1) : i.path = .ofList (Target.clean (trim target)) := by
  rw [NavStructure.flatten_ofText] at hi
  obtain ⟨k', line', hline', hsays⟩ := mem_parseItems_iff.1 hi
  obtain rfl : k' = k := by
    obtain ⟨-, -, -, -, -, -, h, -⟩ := hsays
    omega
  obtain rfl : line' = line := Option.some.inj (hline'.symm.trans hline)
  -- A line says one thing only.
  have hwritten : Says (k' + 1) line' ⟨.ofList (trim title), .ofList (Target.clean (trim target)),
      k' + 1, indent.length / 2⟩ := ⟨indent, title, target, hitem, rfl, rfl, rfl, rfl⟩
  rw [Option.some.inj ((parseItem?_eq_some.2 hsays).symm.trans (parseItem?_eq_some.2 hwritten))]

/-- A line that holds a link is not in code. -/
theorem codeMarks_of_link {l : Link} (hl : l ∈ Markdown.links content) (hnumber : l.line = (k : Int) + 1) :
    (Markdown.codeMarks (linesOf content))[k]? = some false := by
  obtain ⟨j, _, -, hmark, m, -, hm⟩ := Markdown.mem_links_iff.1 hl
  obtain ⟨hj, -⟩ := Markdown.link?_eq_some hm
  obtain rfl : j = k := by omega
  exact hmark

/-- **The entry of a valid link** is missing exactly if its path cannot be walked as it is written or
the link was found by its fallback. The navigation file is the document `name` at the root of the
project, and its line holds a link, and none that is not valid. -/
theorem not_missing_iff_of_valid (hrun : Checker.check w = (.ok report, v))
    (hroot : '/' ∉ name.toList)
    (hread : w.tree.read w.scope.navigationPath FileTree.defaultLimit = .ok content)
    (hline : (linesOf content)[k]? = some line) (hitem : IsItemLine line indent title target)
    (hshared : SharedTarget target)
    (hlink : ∃ l ∈ (Markdown.parseLinks name content).links, l.line = (k : Int) + 1)
    (hvalid : ∀ l ∈ (Markdown.parseLinks name content).links, l.line = (k : Int) + 1 →
      (validateLink w.tree w.scope.context.root w.scope.context.table name l).status = .valid)
    (hi : i ∈ (NavStructure.ofText content).flatten) (hnumber : i.line = k + 1) :
    i ∉ report.missingNavigation ↔
      CanBeWalked w.tree w.scope.context.root i.path.toList ∧
        (resolveLink w.tree w.scope.context.root name i.path).resolved
          = .ofList (plainResolution name.toList i.path.toList) := by
  have hne := target_ne_of_item hitem
  have hpath : i.path = .ofList (Target.clean target) := by
    rw [path_of_item hline hitem hi hnumber, (hshared.isStandardTarget hne).trim_eq]
  -- The link of the entry leads to a file.
  obtain ⟨other, hother, hother_line⟩ := hlink
  have hmark := codeMarks_of_link hother hother_line
  obtain ⟨l, hl, hl_line, hkind, htarget⟩ := exists_link_of_item hline hmark hitem hshared
  have hfile := isFile_of_valid hkind (hvalid l hl hl_line)
  rw [htarget] at hfile
  -- The entry is missing if its path is no file.
  obtain ⟨content', hread', hmissing⟩ := Checker.missingNavigation_of_check hrun
  obtain rfl : content' = content := Except.ok.inj (hread'.symm.trans hread)
  rw [hmissing, NavStructure.mem_missing_iff, and_iff_right hi, Bool.not_eq_false, hpath,
    String.toList_ofList]
  exact hshared.hasFile_iff hne hroot hfile

end Entry

/-- A project at `/p` with the given navigation file, and pages in a folder that is not scanned. -/
def navigationProject (summary : String) : Workspace Checker where
  tree :=
    { nodes := [(["p"], .folder), (["p", "SUMMARY.md"], .file (.text summary)), (["p", "d"], .folder),
        (["p", "d", "a.md"], .file (.text "")), (["p", "d", "b(1).md"], .file (.text ""))]
      cwd := ["p"]
      home := [] }
  scope :=
    { config := []
      navigationPath := .ofString "/p/SUMMARY.md"
      redirectsPath := .ofString "/p/.gitbook.yaml"
      scanPath := .null
      checkAnchors := false
      maxFileSize := .int 1000
      context := { root := .ofString "/p", excludeDirs := [.text "d"], table := none } }

theorem not_missing_iff_of_valid_oneEntry :
    ∃ report v, Checker.check (navigationProject "* [A](d/../d/a.md)") = (.ok report, v) ∧
      (⟨"A", "d/../d/a.md", 1, 0⟩ : NavItem) ∉ report.missingNavigation := by
  obtain ⟨report, v, hrun, -⟩ := Work.exists_of_view (x := Checker.check)
    (w := navigationProject "* [A](d/../d/a.md)") (f := fun report _ => report.linksChecked) (c := 1)
    (by decide +kernel)
  have hread : (navigationProject "* [A](d/../d/a.md)").tree.read (.ofString "/p/SUMMARY.md")
      defaultLimit = .ok "* [A](d/../d/a.md)" := Work.eq_ok_of_toOption (by decide +kernel)
  have hroot : '/' ∉ "SUMMARY.md".toList := by decide
  have hline : (linesOf "* [A](d/../d/a.md)")[0]? = some "* [A](d/../d/a.md)".toList := by decide +kernel
  have hitem : IsItemLine "* [A](d/../d/a.md)".toList [] ['A'] "d/../d/a.md".toList :=
    ⟨'*', [' '], [], by decide, List.forall_mem_nil _, by decide, by decide,
      List.forall_mem_singleton.2 (by decide), by decide, by decide, by decide, by decide⟩
  have hshared : SharedTarget "d/../d/a.md".toList :=
    ⟨List.all_eq_true.1 (by decide +kernel), by decide +kernel, by decide +kernel, by decide +kernel,
      by decide +kernel⟩
  refine ⟨report, v, hrun, (not_missing_iff_of_valid hrun hroot hread hline hitem hshared
    (by decide +kernel) (by decide +kernel) (by decide +kernel) rfl).2 ⟨?_, by decide +kernel⟩⟩
  exact canBeWalked_of_hasFile (by decide +kernel)

/-- A navigation file whose links are all valid: one with an anchor, one that leaves out an extension,
one in angle brackets, one behind a folder that is not there, one that leads out of the project, one with
parentheses, one with a backslash, one with blanks, and one that leads above the root of the project
behind a step that stays in place. Two of these are no links for one of the readers, and a valid link
stands beside them. -/
def disputedSummary : String :=
  "* [A](d/a.md#x)\n* [B](d/a)\n* [C](<d/a.md>)\n* [D](x/../d/a.md)\n* [E](https://e) [e](d/a.md)\n" ++
    "* [F](d/b(1).md)\n* [G](d\\a.md)\n* [H]( h.md ) [h](d/a.md)\n* [I](.//../d/a.md)"

/-- Every line of that file holds a link, all links are valid, and all entries are missing. -/
theorem entries_of_valid_links_missing :
    ∃ report v, Checker.check (navigationProject disputedSummary) = (.ok report, v) ∧
      (validateFile (navigationProject disputedSummary).tree (.ofString "/p") none
          (Markdown.parseLinks "SUMMARY.md" disputedSummary)).map (fun r => (r.link.line, r.status))
        = [1, 2, 3, 4, 5, 6, 7, 8, 9].map (·, .valid) ∧
      report.missingNavigation.map (·.line) = [1, 2, 3, 4, 5, 6, 7, 8, 9] := by
  obtain ⟨report, v, hrun, hview⟩ := Work.exists_of_view (x := Checker.check)
    (w := navigationProject disputedSummary) (f := fun report _ => report.missingNavigation.map (·.line))
    (c := [1, 2, 3, 4, 5, 6, 7, 8, 9]) (by decide +kernel)
  exact ⟨report, v, hrun, by decide +kernel, hview⟩

end DocLinks
