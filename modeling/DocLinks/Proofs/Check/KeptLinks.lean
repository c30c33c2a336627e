import DocLinks.Proofs.Check.Rechecking

/-!
# Valid links after the fixes

Replacing a target on a line touches no link that was valid, if the line is clean: its targets cannot
be confused with what stands around them. Such a link is found again by a new check, on the same line
of the same page, and leads to the same file (`validLink_is_kept`).

## Contents
- `attemptsOn`, `pageLine?`: the applied fixes of a line, and the line.
- `CleanLine`: a line that its fixes leave readable.
- `validLink_is_kept`: valid links are found again.
-/

namespace DocLinks

open Text FileTree Markdown

/-! ## Lines -/

/-- A clean line that the applied fixes can be told apart on from everything else. -/
structure UnambiguousLine (cwd : List String) (line : List Char) (as : List (String × Link × String)) :
    Prop extends CleanLine cwd line as where
  /-- A target that is replaced means what is written, wherever it is read on the line. -/
  stable : ∀ a ∈ as, ∀ m ∈ matchesOf line, m.found.target = a.2.1.writtenTarget →
    Target.clean (trim a.2.1.writtenTarget) = a.2.1.writtenTarget
  /-- Where there are attributes, they hold none of the targets, nor do the targets hold marks. -/
  attributes : ∀ m ∈ scan htmlAnchor 0 line ++ scan dataRef 0 line,
    NoOpening m.found.target ∧ ∀ a ∈ as, CleanAttributes cwd line a

/-- **A match of a clean line** that no fix is about is found again after the fixes. -/
theorem exists_mem_matchesOf {cwd : List String} {line : List Char} {fs : List SuggestedFix}
    (hpath : ∀ f ∈ fs, f.suggestion.suggestedPath ≠ "")
    {as : List (String × Link × String)} (hclean : UnambiguousLine cwd line as)
    (has : ∀ f ∈ fs, f.attempt ∈ as) {m : Match} (hm : m ∈ matchesOf line)
    (hne : ∀ f ∈ fs, f.broken.link.writtenTarget ≠ m.found.target) :
    ∃ m' ∈ matchesOf (fs.foldl (fixedLine cwd) line), m'.found.target = m.found.target := by
  have hfs : ∀ f ∈ fs, CleanFix cwd f.attempt := fun f hf => hclean.fixes _ (has f hf)
  have hfirst := (noOpening_cutPieces line).1
  rw [← joinPieces_cutPieces line, foldl_fixedLine_joinPieces hpath hfs hfirst hclean.pieces]
  obtain ⟨r, hr, hm⟩ := List.mem_flatMap.1 hm
  -- It is enough to find the match again among those of its own spelling.
  suffices ∃ m' ∈ scan r 0 (joinPieces (cutPieces line).1 ((cutPieces line).2.map (fixedPiece cwd fs))),
      m'.found.target = m.found.target by
    obtain ⟨m', hm', heq⟩ := this
    exact ⟨m', List.mem_flatMap.2 ⟨r, hr, hm'⟩, heq⟩
  have hinline : ∀ {read : List Char → Option (List Char)} {overhead : Nat},
      ReadsTarget read overhead → m ∈ scan (inlineWith read overhead) 0 line →
      ∃ m' ∈ scan (inlineWith read overhead) 0
          (joinPieces (cutPieces line).1 ((cutPieces line).2.map (fixedPiece cwd fs))),
        m'.found.target = m.found.target := fun hread hm =>
    mem_inline_again hread hfs hfirst hclean.pieces (by rwa [joinPieces_cutPieces]) hne
  have hattribute : ReadsAttribute r → m ∈ scan htmlAnchor 0 line ++ scan dataRef 0 line →
      ∃ m' ∈ scan r 0 (joinPieces (cutPieces line).1 ((cutPieces line).2.map (fixedPiece cwd fs))),
        m'.found.target = m.found.target := by
    intro hreads hmem
    obtain ⟨hno, hmarks⟩ := hclean.attributes m hmem
    exact mem_attribute_again hreads hfs
      (fun f hf => ⟨(hmarks _ (has f hf)).old, (hmarks _ (has f hf)).new⟩)
      (fun f hf => (hmarks _ (has f hf)).bare) (by rwa [joinPieces_cutPieces]) hno
  simp only [spellings, List.mem_cons, List.not_mem_nil, or_false] at hr
  rcases hr with rfl | rfl | rfl | rfl
  · rw [angle_eq] at hm ⊢
    exact hinline readsTarget_angle hm
  · exact hinline readsTarget_standard hm
  · exact hattribute readsAttribute_htmlAnchor (List.mem_append_left _ hm)
  · exact hattribute readsAttribute_dataRef (List.mem_append_right _ hm)

/-! ## Valid and broken targets -/

theorem hasFile_of_read {t : FileTree} {root : FilePath} {page text : String} {limit : Limit}
    (h : t.read (projectPath root page) limit = .ok text) : t.hasFile root page = true := by
  obtain ⟨_, c, _, _, hstat, _⟩ := read_eq_ok h
  exact isFile_iff_stat.2 ⟨c, hstat⟩

/-- A target without a path means the document itself. -/
theorem isFile_resolveLink_of_empty {t : FileTree} {root : FilePath} {source target : String}
    (hpath : Target.path target.toList = []) (hfile : t.hasFile root source = true) :
    (resolveLink t root source target).isFile = true := by
  unfold resolveLink Target.splitAnchor
  simp only [hpath, List.isEmpty_nil, if_true, hfile]

/-- **The target of a valid link** is not the target of a broken link of its page, if that target is
read as it is written. -/
theorem writtenTarget_ne_of_valid {t : FileTree} {root : FilePath} {table : Option RedirectTable}
    {page : String} (hpage : t.hasFile root page = true) {n k : Nat} {m mb : Match} {l b : Link}
    (hl : m.link? n = some l) (hvalid : (validateLink t root table page l).status = .valid)
    (hb : mb.link? k = some b) (hbroken : (resolveLink t root page b.targetPath).isFile = false)
    (hstable : m.found.target = b.writtenTarget →
      Target.clean (trim b.writtenTarget) = b.writtenTarget) :
    b.writtenTarget ≠ m.found.target := by
  intro heq
  have hhash := hash_not_mem_targetPath hb
  obtain ⟨_, _, hkind, hpath, _⟩ := link?_eq_some hl
  rw [← heq, hstable heq.symm] at hkind hpath
  rw [path_writtenTarget hhash] at hpath
  have hsame : l.targetPath = b.targetPath := String.toList_inj.1 hpath
  rcases status_validateLink_eq_valid hvalid with h | h | ⟨_, hfile⟩
  · rw [h] at hkind
    exact kind?_ne_external _ hkind
  · -- The broken link would have no path, and so mean its own page.
    have hanchor : Target.isAnchorOnly b.writtenTarget = true := by
      rw [h] at hkind
      unfold Target.kind? at hkind
      split at hkind
      · cases hkind
      · split at hkind
        · assumption
        · split at hkind <;> cases hkind
    have hempty : b.targetPath.toList = [] := by
      rw [← path_writtenTarget hhash]
      unfold Target.isAnchorOnly at hanchor
      obtain ⟨rest, hrest⟩ := List.isPrefixOf_iff_prefix.1 hanchor
      rw [← hrest]
      rfl
    rw [isFile_resolveLink_of_empty (by rw [hempty]; rfl) hpage] at hbroken
    cases hbroken
  · rw [hsame, hbroken] at hfile
    cases hfile

/-! ## Valid links after the fixes -/

/-- **Valid links are kept.** After a check and the fixing of its report, a new check reads the same
pages, and finds each link that was valid again: on the same line of the same page, leading to the
same file. The page must not have become too large to be checked, the redirects must not be recorded
in it, and the fixes that were applied to the line must meet nothing but the links that they are
for. -/
theorem validLink_is_kept {w w₁ v : Workspace Checker} {report : CheckReport} {tier : Option Value}
    {approve : Option (SuggestedFix → Bool)} {batch : FixBatch} {asked : List SuggestedFix}
    (ht : w.tree.Proper) (hcheck : Checker.check w = (.ok report, w₁))
    (hfix : Checker.fix (some report) tier approve w₁ = (.ok (batch, asked), v))
    {pages : List String} (hpages : w.scope.pagesOf w.tree = .ok pages)
    {r : ValidationResult} (hr : r ∈ w.scope.verdictsOf w.tree pages) (hvalid : r.status = .valid)
    (hapart : w.scope.KeepsApart w.tree r.sourceFile)
    (hbreak : ∀ q ∈ batch.results, q.success = true → q.sourceFile = r.sourceFile →
      '\n' ∉ newTargetOf w.tree.cwd q.attempt)
    (hclean : ∀ line, pageLine? w.tree w.scope.context.root r.sourceFile r.link.line = some line →
      attemptsOn r.sourceFile r.link.line batch.results ≠ [] →
      UnambiguousLine w.tree.cwd line (attemptsOn r.sourceFile r.link.line batch.results))
    (hsize : ∀ limit c, Checker.limitOf w.scope.maxFileSize = .ok limit →
      v.tree.stat (projectPath w.scope.context.root r.sourceFile) = .ok (.file c) →
      limit.isExceededBy c.size = false) :
    v.scope.pagesOf v.tree = .ok pages ∧ ∃ r' ∈ v.scope.verdictsOf v.tree pages,
      r'.status = .valid ∧ r'.sourceFile = r.sourceFile ∧ r'.link.line = r.link.line ∧
        r'.resolvedPath = r.resolvedPath := by
  obtain ⟨pages', fixes, hrun⟩ := checkThenFix ht hcheck hfix
  obtain rfl : pages = pages' := Except.ok.inj (hpages.symm.trans hrun.pages_eq)
  refine ⟨hrun.pagesOf_eq, ?_⟩
  obtain ⟨page, hpage, limit, text, l, hlimit, htext, hl, rfl⟩ := mem_verdictsOf_iff.1 hr
  obtain ⟨i, line, hline, hmark, m, hm, hlink⟩ := mem_links_iff.1 hl
  obtain ⟨hnumber, _⟩ := link?_eq_some hlink
  obtain ⟨resolved, hverdict⟩ := exists_resolved_of_valid hvalid
  rw [hverdict] at hapart hbreak hclean hsize ⊢
  simp only [ValidationResult.sourceFile, ValidationResult.link, hnumber] at hapart hbreak hclean hsize ⊢
  obtain ⟨c, text', hstat, hread, hlines⟩ := hrun.line_after ht hpage hapart htext hbreak
  obtain ⟨hmark', gs, hgs, hattempts, -, hline'⟩ := hlines hline hmark
  have hpath : ∀ f ∈ gs, f.suggestion.suggestedPath ≠ "" := fun f hf =>
    ((hrun.suggested f (hgs f hf).1).hasFile ht).1
  -- On the line there are only fixes of other targets.
  obtain ⟨m', hm', htarget⟩ : ∃ m' ∈ matchesOf (gs.foldl (fixedLine w.tree.cwd) line),
      m'.found.target = m.found.target := by
    rcases gs with _ | ⟨g, gs⟩
    · exact ⟨m, hm, rfl⟩
    · have hon : ∀ f ∈ g :: gs, f.attempt ∈ attemptsOn page ((i : Int) + 1) batch.results :=
        fun f hf => (hattempts _).2 ⟨f, hf, rfl⟩
      have hcl := hclean line (pageLine?_of_read htext hline)
        (List.ne_nil_of_mem (hon g (List.mem_cons_self ..)))
      refine exists_mem_matchesOf hpath hcl hon hm fun f hf => ?_
      obtain ⟨_, _, hbroken, _, _, _, hlinks⟩ := exists_text_of_broken (hrun.broken f (hgs f hf).1)
      obtain ⟨_, _, _, _, mb, _, hlinkb⟩ := mem_links_iff.1 hlinks
      rw [(hgs f hf).2] at hbroken
      have hstable := hcl.stable _ (hon f hf) m hm
      rw [show f.attempt.2.1 = f.broken.link from rfl] at hstable
      exact writtenTarget_ne_of_valid (hasFile_of_read htext) hlink hvalid hlinkb hbroken hstable
  obtain ⟨l', hlink', hkind, htargetPath⟩ := exists_link?_of_target hlink htarget
  have hverdict' := hrun.shape.validateLink hkind htargetPath hverdict v.scope.context.table
  refine ⟨.valid page l' resolved, mem_verdictsOf_iff.2 ⟨page, hpage, limit, text', l', ?_, ?_,
    mem_links_iff.2 ⟨i, _, hline', hmark', m', hm', hlink'⟩, ?_⟩, rfl, rfl, (link?_eq_some hlink').1,
    rfl⟩
  · rw [hrun.maxFileSize]
    exact hlimit
  · rw [hrun.root]
    exact read_of_stat hstat (isIncomparable_of_read htext) (hsize limit c hlimit hstat) hread
  · rw [hrun.root]
    exact hverdict'.symm

/-- The fix that is applied to the page of the project below, and the line that it is applied to. -/
def oldPageAttempt : String × Link × String :=
  ("docs/old.md", ⟨"[x](../old.md)", "x", "../old.md", none, 1, 1, .internal⟩, "docs/old.md")

def validLine : String := "[x](../old.md) and [y](old.md)"

theorem unambiguousLine_oldPageAttempt :
    UnambiguousLine ["p"] validLine.toList [oldPageAttempt] where
  toCleanLine := by decide +kernel
  stable := by decide +kernel
  attributes := by
    rw [show scan htmlAnchor 0 validLine.toList ++ scan dataRef 0 validLine.toList = [] by
      decide +kernel]
    simp

theorem validLink_is_kept_onePage :
    ∃ report w₁ batch asked v,
      Checker.check (onePageProject validLine) = (.ok report, w₁) ∧
        Checker.fix (some report) none none w₁ = (.ok (batch, asked), v) ∧
        batch.results.map (fun r => (r.attempt, r.success)) = [(oldPageAttempt, true)] ∧
        ∃ r' ∈ v.scope.verdictsOf v.tree ["docs/old.md"],
          r'.status = .valid ∧ r'.link.line = 1 ∧ r'.resolvedPath = some "docs/old.md" := by
  obtain ⟨⟨batch, asked⟩, v, hrun, hview⟩ := Work.exists_of_view
    (x := Checker.fix none none none) (w := onePageProject validLine)
    (f := fun answer v => (answer.1.results.map fun r => (r.attempt, r.success),
      (v.tree.stat (projectPath (.ofString "/p") "docs/old.md")).toOption))
    (c := ([(oldPageAttempt, true)], some (.file (.text "[x](./old.md) and [y](old.md)"))))
    (by decide +kernel)
  obtain ⟨hresults, hstat⟩ := Prod.mk.inj hview
  simp only at hresults
  obtain ⟨report, w₁, hcheck, hfix⟩ := Checker.check_then_fix hrun
  obtain ⟨q, rest, hsplit, hq, hrest⟩ := List.map_eq_cons_iff.1 hresults
  obtain rfl := List.map_eq_nil_iff.1 hrest
  obtain ⟨hattempt, hsuccess⟩ := Prod.mk.inj hq
  have hattempts : attemptsOn "docs/old.md" 1 batch.results = [oldPageAttempt] := by
    have hsource : q.sourceFile = "docs/old.md" := congrArg (·.1) hattempt
    have hnumber : q.link.line = 1 := congrArg (·.2.1.line) hattempt
    simp [attemptsOn, hsplit, hsuccess, hsource, hnumber, hattempt]
  have hpages : (onePageProject validLine).scope.pagesOf (onePageProject validLine).tree
      = .ok ["docs/old.md"] := Work.eq_ok_of_toOption (by decide +kernel)
  have hr : .valid "docs/old.md" ⟨"[y](old.md)", "y", "old.md", none, 1, 20, .internal⟩ "docs/old.md"
      ∈ (onePageProject validLine).scope.verdictsOf (onePageProject validLine).tree ["docs/old.md"] := by
    decide +kernel
  have hline : pageLine? (onePageProject validLine).tree (.ofString "/p") "docs/old.md" 1
      = some validLine.toList := by decide +kernel
  refine ⟨report, w₁, batch, asked, v, hcheck, hfix, hresults, ?_⟩
  obtain ⟨-, r', hr', hvalid, -, hnumber, hresolved⟩ := validLink_is_kept (by decide) hcheck hfix
    hpages hr rfl (fun table _ h => nomatch h) (fun p hp _ _ => by
      obtain rfl := List.mem_singleton.1 (hsplit ▸ hp)
      rw [hattempt]
      decide +kernel) (fun line h _ => by
      rw [← Option.some.inj (hline.symm.trans h)]
      exact hattempts ▸ unambiguousLine_oldPageAttempt) fun limit c hlimit hc => by
      cases hlimit
      cases (Work.eq_ok_of_toOption hstat).symm.trans hc
      decide
  exact ⟨r', hr', hvalid, hnumber, hresolved⟩

/-- A project whose page is as large as a page may be. -/
def tightProject : Workspace Checker :=
  let w := onePageProject "[x](/old.md) [y](old.md)"
  { w with scope := { w.scope with maxFileSize := .int 24 } }

/-- A page that a fix makes too large is not read again, and its valid links are not found. -/
theorem validLink_is_lost_in_large_page :
    ∃ report w₁ batch asked v r,
      Checker.check tightProject = (.ok report, w₁) ∧
        Checker.fix (some report) none none w₁ = (.ok (batch, asked), v) ∧
        r ∈ tightProject.scope.verdictsOf tightProject.tree ["docs/old.md"] ∧ r.status = .valid ∧
        v.scope.pagesOf v.tree = .ok ["docs/old.md"] ∧
        v.scope.verdictsOf v.tree ["docs/old.md"] = [] := by
  obtain ⟨⟨batch, asked⟩, v, hrun, hview⟩ := Work.exists_of_view
    (x := Checker.fix none none none) (w := tightProject)
    (f := fun _ v => ((v.scope.pagesOf v.tree).toOption, v.scope.verdictsOf v.tree ["docs/old.md"]))
    (c := (some ["docs/old.md"], [])) (by decide +kernel)
  obtain ⟨hpages, hverdicts⟩ := Prod.mk.inj hview
  obtain ⟨report, w₁, hcheck, hfix⟩ := Checker.check_then_fix hrun
  exact ⟨report, w₁, batch, asked, v, .valid "docs/old.md"
    ⟨"[y](old.md)", "y", "old.md", none, 1, 14, .internal⟩ "docs/old.md", hcheck, hfix,
    by decide +kernel, rfl, Work.eq_ok_of_toOption hpages, hverdicts⟩

end DocLinks
