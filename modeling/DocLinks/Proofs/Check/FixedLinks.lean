import DocLinks.Proofs.Check.KeptLinks
import DocLinks.Proofs.Fix.PresentLinks
import DocLinks.Proofs.Project.Resolving

/-!
# Fixed links

A fix that succeeds on an inline link leaves a link on the line that is valid and leads to the
suggested file (`fixedLink_is_valid`), if what it writes reads back: the path is written as it is, so
a name with a blank, a percent escape or a number sign in it is read as something else
(`fixedLink_is_lost`).

## Contents
- `Link.WrittenAsRead.target_eq`: the match of a link that is written as it is read.
- `ReadsBack`: what a fix writes is read as it is written.
- `exists_mem_matchesOf_of_fix`: what a fix writes is on the line after all its fixes.
- `fixedLink_is_valid`: a fixed link leads to the suggested file.
-/

namespace DocLinks

open Text FileTree DocPath Markdown

/-! ## The match of a link -/

/-- Two texts that are the same behind their last `](`. -/
theorem eq_of_append_opening {a b x y : List Char} (hx : NoOpening x) (hy : NoOpening y)
    (h : a ++ ']' :: '(' :: x = b ++ ']' :: '(' :: y) : x = y := by
  rcases List.append_eq_append_iff.1 h with ⟨z, hz, hr⟩ | ⟨z, hz, hr⟩
  · rcases z with _ | ⟨c, _ | ⟨d, z⟩⟩
    · exact (List.cons.inj (List.cons.inj hr).2).2
    · simp at hr
    · simp only [List.cons_append, List.cons.injEq] at hr
      exact absurd ⟨z, y, by rw [hr.2.2]; simp⟩ hx
  · rcases z with _ | ⟨c, _ | ⟨d, z⟩⟩
    · exact (List.cons.inj (List.cons.inj hr).2).2.symm
    · simp at hr
    · simp only [List.cons_append, List.cons.injEq] at hr
      exact absurd ⟨z, x, by rw [hr.2.2]; simp⟩ hy

/-- What stands in the parentheses of an inline link holds no `](`. -/
theorem PlainTarget.noOpening_parens {target before after : List Char} (h : PlainTarget target)
    (hb : before = [] ∨ before = ['<']) (ha : after = [] ∨ after = ['>']) :
    NoOpening (before ++ target ++ after ++ [')']) := by
  have hclose : NoOpening [')'] ∧ NoOpening ['<'] ∧ NoOpening ['>'] := by decide
  rcases hb with rfl | rfl <;> rcases ha with rfl | rfl <;>
    simp [noOpening_append_iff, noOpening_cons_iff, h.noOpening, hclose]

/-- The target of a link that is written as it is read. -/
theorem Link.WrittenAsRead.target_eq {l : Link} (h : l.WrittenAsRead)
    {read : List Char → Option (List Char)} {overhead : Nat} (hread : ReadsTarget read overhead)
    {start : Nat} {cs : List Char} {m : Match} (hm : m ∈ scan (inlineWith read overhead) start cs)
    (hraw : l.raw.toList = m.raw) (htarget : PlainTarget m.found.target)
    (hwritten : PlainTarget l.writtenTarget) : m.found.target = l.writtenTarget := by
  obtain ⟨text, o, e, hl, ho, he⟩ := h
  obtain ⟨before, after, hmraw, hb, ha⟩ := raw_of_mem_inline hread hm
  have hsame := eq_of_append_opening (a := '[' :: m.found.text) (b := '[' :: text)
    (htarget.noOpening_parens hb ha) (hwritten.noOpening_parens ho he)
    (hmraw.symm.trans (hraw.symm.trans hl))
  exact eq_of_behindTarget? htarget hwritten (behindTarget?_eq_some.2 ⟨before, after, rfl, hb, ha⟩)
    (behindTarget?_eq_some.2 ⟨o, e, hsame, ho, he⟩)

/-- A source text in brackets is that of an inline link. -/
theorem Link.WrittenAsRead.mem_inline {l : Link} (h : l.WrittenAsRead) {line : List Char} {m : Match}
    (hm : m ∈ matchesOf line) (hraw : l.raw.toList = m.raw) :
    ∃ read overhead, ReadsTarget read overhead ∧ m ∈ scan (inlineWith read overhead) 0 line := by
  obtain ⟨text, _, _, hl, _⟩ := h
  obtain ⟨r, hr, hm⟩ := List.mem_flatMap.1 hm
  have hbracket : ∀ {r : List Char → Option Found}, (∀ cs, r ('[' :: cs) = none) →
      m ∉ scan r 0 line := by
    intro r hnone hmem
    obtain ⟨-, c, rest, -, -, hsome, htake⟩ := mem_scan hmem
    rw [← hraw, hl] at htake
    rcases hlength : m.found.length with _ | k
    · rw [hlength] at htake
      cases htake
    · rw [hlength, List.take_succ_cons, List.cons_append, List.cons.injEq] at htake
      rw [← htake.1, hnone] at hsome
      cases hsome
  simp only [spellings, List.mem_cons, List.not_mem_nil, or_false] at hr
  rcases hr with rfl | rfl | rfl | rfl
  · exact ⟨_, _, readsTarget_angle, angle_eq ▸ hm⟩
  · exact ⟨_, _, readsTarget_standard, hm⟩
  · exact absurd hm (hbracket fun _ => rfl)
  · exact absurd hm (hbracket fun _ => rfl)

/-! ## What is written reads back -/

/-- What a fix writes is read as it is written, and the way from its document to its path stays
inside the project. -/
structure ReadsBack (cwd : List String) (a : String × Link × String) : Prop where
  /-- The new target can be read, and has no escapes to undo. -/
  standard : IsStandardTarget (newTargetOf cwd a)
  clean : Target.clean (trim (newTargetOf cwd a)) = newTargetOf cwd a
  /-- The path is neither cut at a number sign nor at a backslash. -/
  plain : '#' ∉ relativeTarget (cwd.map String.toList) a.1.toList a.2.2.toList ∧
    '\\' ∉ relativeTarget (cwd.map String.toList) a.1.toList a.2.2.toList
  /-- An anchor is not empty. -/
  anchor : a.2.1.anchor ≠ some ""
  source : StaysInside (directory a.1.toList)
  path : StaysInside a.2.2.toList

theorem newTargetOf_eq (cwd : List String) {a : String × Link × String} (hpath : a.2.2 ≠ "") :
    newTargetOf cwd a = relativeTarget (cwd.map String.toList) a.1.toList a.2.2.toList ++
      (a.2.1.anchor?.map fun s => '#' :: s.toList).getD [] := by
  unfold newTargetOf relativeLink? Link.withAnchor
  rw [if_neg hpath]
  rcases a.2.1.anchor? with _ | s <;> simp

theorem kind?_of_dot (rest : List Char) :
    Target.kind? ('.' :: rest) = some .internal ∨ Target.kind? ('.' :: rest) = some .asset := by
  have hexternal : Target.isExternal ('.' :: rest) = false := rfl
  have hanchor : Target.isAnchorOnly ('.' :: rest) = false := rfl
  unfold Target.kind?
  rw [hexternal, hanchor]
  rcases Target.isAsset ('.' :: rest) with _ | _
  · exact .inl rfl
  · exact .inr rfl

/-- A target behind a path without number signs. -/
theorem path_append_anchor {path : List Char} (h : '#' ∉ path) (anchor : Option String) :
    Target.path (path ++ (anchor.map fun s => '#' :: s.toList).getD []) = path ∧
      (Target.anchor? (path ++ (anchor.map fun s => '#' :: s.toList).getD [])).map String.ofList
        = anchor := by
  have hall : ∀ c ∈ path, (c != '#') = true := fun c hc => by
    simpa using fun heq : c = '#' => h (heq ▸ hc)
  unfold Target.path Target.anchor?
  rcases anchor with _ | s
  · have hdrop : path.dropWhile (· != '#') = [] := List.dropWhile_eq_nil_iff.2 hall
    simp [hdrop, List.takeWhile_eq_self_iff.2 hall]
  · simp only [Option.map_some, Option.getD_some]
    rw [takeWhile_append_cons hall (by decide), dropWhile_append_cons hall (by decide)]
    simp

/-- **The link that a fix writes**, wherever it is read. -/
theorem ReadsBack.exists_link {cwd : List String} {a : String × Link × String} (h : ReadsBack cwd a)
    (hpath : a.2.2 ≠ "") {m : Match} (hm : m.found.target = newTargetOf cwd a) (n : Nat) :
    ∃ l, m.link? n = some l ∧ (l.kind = .internal ∨ l.kind = .asset) ∧ l.anchor = a.2.1.anchor ∧
      l.targetPath.toList = relativeTarget (cwd.map String.toList) a.1.toList a.2.2.toList := by
  obtain ⟨rest, hrest⟩ := relativeTarget_eq_cons h.source h.path (cwd.map String.toList)
  have hnew := newTargetOf_eq cwd hpath
  obtain ⟨htarget, hanchor⟩ := path_append_anchor h.plain.1 a.2.1.anchor?
  rw [← hnew] at htarget hanchor
  have hsame : a.2.1.anchor? = a.2.1.anchor := by
    have hne := h.anchor
    unfold Link.anchor?
    rcases hs : a.2.1.anchor with _ | s
    · rfl
    · rw [hs] at hne
      exact Option.filter_eq_some_iff.2 ⟨rfl, by simpa using hne⟩
  have hkind : Target.kind? (newTargetOf cwd a) = some .internal ∨
      Target.kind? (newTargetOf cwd a) = some .asset := by
    rw [hnew, hrest]
    exact kind?_of_dot _
  unfold Match.link? Link.ofTarget?
  rw [hm, h.clean]
  rcases hkind with hkind | hkind <;> rw [hkind] <;>
    exact ⟨_, rfl, by simp, hanchor.trans hsame, by rw [String.toList_ofList, htarget]⟩

/-- Such a link means the file that the fix is to lead to. -/
theorem ReadsBack.resolveLink {cwd : List String} {a : String × Link × String} (h : ReadsBack cwd a)
    {t : FileTree} {root : FilePath} (hfile : t.hasFile root a.2.2 = true) {l : Link}
    (hl : l.targetPath.toList = relativeTarget (cwd.map String.toList) a.1.toList a.2.2.toList) :
    (resolveLink t root a.1 l.targetPath).isFile = true ∧
      ∃ place, t.placeOf (projectPath root a.2.2) = .ok place ∧
        t.placeOf (projectPath root (resolveLink t root a.1 l.targetPath).resolved) = .ok place := by
  obtain ⟨hresolved, hisFile⟩ := resolveLink_relativeTarget h.source h.path hfile hl h.plain.1 h.plain.2
  refine ⟨hisFile, ?_⟩
  obtain ⟨c, hstat⟩ := isFile_iff_stat.1 hfile
  obtain ⟨_, _, place, hwalk, _⟩ := stat_eq_file_iff.1 hstat
  have hplace := placeOf_eq_ok_iff.2 hwalk
  exact ⟨place, hplace, by rw [hresolved]; exact placeOf_stepsOf hplace⟩

/-- A broken link of the document is not written like that. -/
theorem ReadsBack.ne_writtenTarget {cwd : List String} {a : String × Link × String}
    (h : ReadsBack cwd a) (hpath : a.2.2 ≠ "") {t : FileTree} {root : FilePath}
    (hfile : t.hasFile root a.2.2 = true) {b : Link} (hhash : '#' ∉ b.targetPath.toList)
    (hbroken : (DocLinks.resolveLink t root a.1 b.targetPath).isFile = false) :
    b.writtenTarget ≠ newTargetOf cwd a := by
  intro heq
  have htarget : b.targetPath.toList
      = relativeTarget (cwd.map String.toList) a.1.toList a.2.2.toList := by
    rw [← path_writtenTarget hhash, heq, newTargetOf_eq cwd hpath]
    exact (path_append_anchor h.plain.1 a.2.1.anchor?).1
  rw [(h.resolveLink hfile htarget).1] at hbroken
  cases hbroken

/-! ## Fixed links -/

/-- **What a fix of a clean line writes** is read on the line after all its fixes. -/
theorem exists_mem_matchesOf_of_fix {cwd : List String} {line : List Char} {fs : List SuggestedFix}
    (hpath : ∀ f ∈ fs, f.suggestion.suggestedPath ≠ "") {as : List (String × Link × String)}
    (hclean : CleanLine cwd line as) (has : ∀ f ∈ fs, f.attempt ∈ as) (hfound : EachFound cwd line fs)
    {read : List Char → Option (List Char)} {overhead : Nat} (hread : ReadsTarget read overhead)
    {m : Match} (hm : m ∈ scan (inlineWith read overhead) 0 line) {f : SuggestedFix} (hf : f ∈ fs)
    (htarget : m.found.target = f.broken.link.writtenTarget)
    (hothers : ∀ g ∈ fs, newTargetOf cwd g.attempt ≠ f.broken.link.writtenTarget)
    (hnew : ∀ g ∈ fs, g.broken.link.writtenTarget ≠ newTargetOf cwd f.attempt)
    (hstandard : IsStandardTarget (newTargetOf cwd f.attempt)) :
    ∃ m' ∈ matchesOf (fs.foldl (fixedLine cwd) line), m'.found.target = newTargetOf cwd f.attempt := by
  have hfs : ∀ g ∈ fs, CleanFix cwd g.attempt := fun g hg => hclean.fixes _ (has g hg)
  have hfirst := (noOpening_cutPieces line).1
  rw [← joinPieces_cutPieces line] at hfound hm ⊢
  rw [foldl_fixedLine_joinPieces hpath hfs hfirst hclean.pieces]
  -- The link stands at a cut of the line, and there the fix has written its target.
  have hopenTargets : m.found.target ∈ openTargets read (cutPieces line).1 (cutPieces line).2 := by
    rw [← targets_scan_joinPieces hread hfirst hclean.pieces 0]
    exact List.mem_map_of_mem hm
  obtain ⟨i, q, p, hq, hp, hopen, hr⟩ := mem_openTargets_iff.1 hopenTargets
  obtain ⟨before, after, rest, heq, hb, ha, -⟩ := hread.head hr
  obtain ⟨rest', hfixed⟩ := exists_fixedPiece_eq hpath hfs hothers hnew ⟨f, hf, rfl, rfl⟩ hfirst
    hclean.pieces hfound (List.mem_of_getElem? hp)
    (behindTarget?_eq_some.2 ⟨before, after, htarget ▸ heq, hb, ha⟩)
  have hagain : newTargetOf cwd f.attempt ∈ openTargets standardTarget? (cutPieces line).1
      ((cutPieces line).2.map (fixedPiece cwd fs)) :=
    mem_openTargets_fixed hfs hq hp hopen
      (standardTarget?_eq_some.2 ⟨hstandard, rest', hfixed⟩)
  rw [← targets_scan_joinPieces readsTarget_standard hfirst (fun q hq => by
    obtain ⟨p, hp, rfl⟩ := List.mem_map.1 hq
    exact (hclean.pieces p hp).fixedPiece hfs) 0] at hagain
  obtain ⟨m', hm', heq'⟩ := List.mem_map.1 hagain
  exact ⟨m', List.mem_flatMap.2 ⟨standard, by simp [spellings], hm'⟩, heq'⟩

/-- **A fix fixes.** After a check and the fixing of its report, the text of a page with a success on an
inline link holds, on the line of that link, a link with the same anchor that is valid and leads to the
suggested file. The target must be written as it is read, what is written must read back, the line
must be clean, and no other fix of the line may write the target. -/
theorem fixedLink_is_valid {w w₁ v : Workspace Checker} {report : CheckReport} {tier : Option Value}
    {approve : Option (SuggestedFix → Bool)} {batch : FixBatch} {asked : List SuggestedFix}
    (ht : w.tree.Proper) (hcheck : Checker.check w = (.ok report, w₁))
    (hfix : Checker.fix (some report) tier approve w₁ = (.ok (batch, asked), v))
    {r : FixResult} (hr : r ∈ batch.results) (hsuccess : r.success = true)
    (hwritten : r.link.WrittenAsRead) (hback : ReadsBack w.tree.cwd r.attempt)
    (hshort : isTooLong (projectPath w.scope.context.root r.newPath) = false)
    (hclean : ∀ line, pageLine? w.tree w.scope.context.root r.sourceFile r.link.line = some line →
      CleanLine w.tree.cwd line (attemptsOn r.sourceFile r.link.line batch.results))
    (hothers : ∀ a ∈ attemptsOn r.sourceFile r.link.line batch.results,
      newTargetOf w.tree.cwd a ≠ r.link.writtenTarget)
    (hbreak : ∀ q ∈ batch.results, q.success = true → q.sourceFile = r.sourceFile →
      '\n' ∉ newTargetOf w.tree.cwd q.attempt)
    (hapart : w.scope.KeepsApart w.tree r.sourceFile) :
    ∃ c text l resolved place,
      v.tree.stat (projectPath v.scope.context.root r.sourceFile) = .ok (.file c) ∧
      c.read = .ok text ∧ l ∈ links text ∧ l.line = r.link.line ∧ l.anchor = r.link.anchor ∧
      validateLink v.tree v.scope.context.root v.scope.context.table r.sourceFile l
        = .valid r.sourceFile l resolved ∧
      v.tree.placeOf (projectPath v.scope.context.root resolved) = .ok place ∧
      v.tree.placeOf (projectPath v.scope.context.root r.newPath) = .ok place := by
  obtain ⟨pages, fixes, hrun⟩ := checkThenFix ht hcheck hfix
  obtain ⟨g, hg, hattempt⟩ := hrun.exists_fix hr
  have hsource : g.broken.sourceFile = r.sourceFile := congrArg (·.1) hattempt
  have hlinkg : g.broken.link = r.link := congrArg (·.2.1) hattempt
  have hnewPath : g.suggestion.suggestedPath = r.newPath := congrArg (·.2.2) hattempt
  obtain ⟨hpage, _, _, limit, text, htext, hlinks⟩ := exists_text_of_broken (hrun.broken g hg)
  rw [hsource] at hpage htext
  rw [hlinkg] at hlinks
  obtain ⟨i, line, hline, hmark, m, hm, hlink⟩ := mem_links_iff.1 hlinks
  obtain ⟨hnumber, hraw, _⟩ := link?_eq_some hlink
  have hpath : r.newPath ≠ "" ∧ w.tree.hasFile w.scope.context.root r.newPath = true := by
    have := (hrun.suggested g hg).hasFile ht
    rw [hnewPath] at this
    exact ⟨this.1, this.2 hshort⟩
  obtain ⟨c, text', hstat, hread, hlines⟩ := hrun.line_after ht hpage hapart htext hbreak
  obtain ⟨hmark', gs, hgs, hattempts, hfound, hline'⟩ := hlines hline hmark
  -- The fix of the link is among those that were applied to its line.
  have hon : ∀ f ∈ gs, f.attempt ∈ attemptsOn r.sourceFile r.link.line batch.results := fun f hf => by
    rw [hnumber]
    exact (hattempts _).2 ⟨f, hf, rfl⟩
  obtain ⟨f, hf, hfr⟩ := (hattempts r.attempt).1
    (mem_attemptsOn.2 ⟨r, hr, hsuccess, rfl, hnumber, rfl⟩)
  have hflink : f.broken.link = r.link := congrArg (·.2.1) hfr
  have hcl := hclean line (by rw [hnumber]; exact pageLine?_of_read htext hline)
  obtain ⟨read, overhead, hreads, hm⟩ := hwritten.mem_inline hm hraw
  have htarget : m.found.target = r.link.writtenTarget := by
    have hmem : m.found.target ∈ openTargets read (cutPieces line).1 (cutPieces line).2 := by
      rw [← targets_scan_joinPieces hreads (noOpening_cutPieces line).1 hcl.pieces 0,
        joinPieces_cutPieces]
      exact List.mem_map_of_mem hm
    obtain ⟨_, _, p, _, hp, _, hpr⟩ := mem_openTargets_iff.1 hmem
    have hold := (hcl.fixes _ (hon f hf)).old
    rw [hfr] at hold
    exact hwritten.target_eq hreads hm hraw
      (hreads.clean (hcl.pieces p (List.mem_of_getElem? hp)) hpr).toPlainTarget hold.toPlainTarget
  -- No fix of the line is about what was written, since that is not broken.
  have hnew : ∀ g ∈ gs, g.broken.link.writtenTarget ≠ newTargetOf w.tree.cwd r.attempt := by
    intro g hg
    obtain ⟨_, _, hbroken, _, _, _, hlinksg⟩ := exists_text_of_broken (hrun.broken g (hgs g hg).1)
    obtain ⟨_, _, _, _, _, _, hlinkg⟩ := mem_links_iff.1 hlinksg
    rw [(hgs g hg).2] at hbroken
    exact hback.ne_writtenTarget hpath.1 hpath.2 (hash_not_mem_targetPath hlinkg) hbroken
  obtain ⟨m', hm', heq⟩ := exists_mem_matchesOf_of_fix
    (fun g hg => ((hrun.suggested g (hgs g hg).1).hasFile ht).1) hcl hon hfound hreads hm hf
    (by rw [htarget, hflink]) (fun g hg => by rw [hflink]; exact hothers _ (hon g hg))
    (fun g hg => by rw [hfr]; exact hnew g hg) (by rw [hfr]; exact hback.standard)
  obtain ⟨l, hl, hkind, hanchor, hltarget⟩ := hback.exists_link hpath.1 (heq.trans (by rw [hfr])) (i + 1)
  obtain ⟨hfile, place, hplace, hresolved⟩ := hback.resolveLink hpath.2 hltarget
  have hfile' : (resolveLink v.tree w.scope.context.root r.sourceFile l.targetPath).isFile = true := by
    rw [hrun.shape.resolveLink]
    exact hfile
  have hvalid : validateLink v.tree w.scope.context.root v.scope.context.table r.sourceFile l
      = .valid r.sourceFile l _ := validateLink_of_isFile hkind hfile'
  rw [hrun.root]
  refine ⟨c, text', l, _, place, hstat, hread,
    mem_links_iff.2 ⟨i, _, hline', hmark', m', hm', hl⟩, ?_, hanchor, hvalid, ?_, ?_⟩
  · rw [(link?_eq_some hl).1, hnumber]
  · rw [hrun.shape.resolveLink, hrun.shape.placeOf]
    exact hresolved
  · rw [hrun.shape.placeOf]
    exact hplace

/-- A page with a broken link that has an anchor, and a valid one. -/
def anchoredLine : String := "[x](<../old.md#top>) and [y](old.md)"

/-- The fix that is applied to that page. -/
def anchoredAttempt : String × Link × String :=
  ("docs/old.md", ⟨"[x](<../old.md#top>)", "x", "../old.md", some "top", 1, 1, .internal⟩, "docs/old.md")

theorem readsBack_anchoredAttempt : ReadsBack ["p"] anchoredAttempt where
  standard := by
    rw [show newTargetOf ["p"] anchoredAttempt = "./old.md#top".toList by decide +kernel]
    exact .inl ⟨by decide, List.all_eq_true.1 (by decide)⟩
  clean := by decide +kernel
  plain := by decide +kernel
  anchor := by decide
  source := by decide
  path := by decide

theorem fixedLink_is_valid_onePage :
    ∃ report w₁ batch asked v c text l,
      Checker.check (onePageProject anchoredLine) = (.ok report, w₁) ∧
        Checker.fix (some report) none none w₁ = (.ok (batch, asked), v) ∧
        batch.results.map (fun r => (r.attempt, r.success)) = [(anchoredAttempt, true)] ∧
        v.tree.stat (projectPath v.scope.context.root "docs/old.md") = .ok (.file c) ∧
        c.read = .ok text ∧ l ∈ links text ∧ l.line = 1 ∧ l.anchor = some "top" ∧
        (validateLink v.tree v.scope.context.root v.scope.context.table "docs/old.md" l).status
          = .valid := by
  obtain ⟨⟨batch, asked⟩, v, hrun, hresults⟩ := Work.exists_of_view
    (x := Checker.fix none none none) (w := onePageProject anchoredLine)
    (f := fun answer _ => answer.1.results.map fun r => (r.attempt, r.success))
    (c := [(anchoredAttempt, true)]) (by decide +kernel)
  obtain ⟨report, w₁, hcheck, hfix⟩ := Checker.check_then_fix hrun
  obtain ⟨r, rest, hsplit, hr, hrest⟩ := List.map_eq_cons_iff.1 hresults
  obtain rfl := List.map_eq_nil_iff.1 hrest
  obtain ⟨hattempt, hsuccess⟩ := Prod.mk.inj hr
  have hsource : r.sourceFile = "docs/old.md" := congrArg (·.1) hattempt
  have hlink : r.link = anchoredAttempt.2.1 := congrArg (·.2.1) hattempt
  have hpath : r.newPath = "docs/old.md" := congrArg (·.2.2) hattempt
  have honly : batch.results = [r] := hsplit
  have hon : attemptsOn r.sourceFile r.link.line batch.results = [anchoredAttempt] := by
    simp [attemptsOn, honly, hsuccess, hattempt]
  have hline : pageLine? (onePageProject anchoredLine).tree (.ofString "/p") "docs/old.md" 1
      = some anchoredLine.toList := by decide +kernel
  obtain ⟨c, text, l, resolved, place, hstat, hread, hl, hnumber, hanchor, hvalid, -, -⟩ :=
    fixedLink_is_valid (by decide) hcheck hfix (hsplit ▸ List.mem_singleton.2 rfl) hsuccess
      (by rw [hlink]; exact ⟨['x'], ['<'], ['>'], by decide, .inr rfl, .inr rfl⟩)
      (by rw [hattempt]; exact readsBack_anchoredAttempt) (by rw [hpath]; decide +kernel)
      (fun line h => by
        rw [hsource, hlink] at h
        rw [hon, ← Option.some.inj (hline.symm.trans h)]
        decide +kernel)
      (by rw [hon, hlink]; decide +kernel)
      (fun q hq _ _ => by
        obtain rfl := List.mem_singleton.1 (hsplit ▸ hq)
        rw [hattempt]
        decide +kernel)
      (fun table _ h => nomatch h)
  rw [hsource] at hstat hvalid
  rw [hlink] at hnumber hanchor
  refine ⟨report, w₁, batch, asked, v, c, text, l, hcheck, hfix, hresults, hstat, hread, hl, hnumber,
    hanchor, ?_⟩
  rw [hvalid]
  rfl

/-- A project of one page, whose name has a blank in it. -/
def blankNameProject : Workspace Checker :=
  let w := onePageProject ""
  let page : Node := .file (.text "[x](<../b c.md>)")
  { w with tree := (w.tree.remove ["p", "docs", "old.md"]).put ["p", "docs", "b c.md"] page }

/-- The target of a link that is fixed to a name with a blank is no target any more. -/
theorem fixedLink_is_lost :
    ∃ report w₁ batch asked v r,
      Checker.check blankNameProject = (.ok report, w₁) ∧
        Checker.fix (some report) none none w₁ = (.ok (batch, asked), v) ∧
        batch.results = [r] ∧ r.link.raw = "[x](<../b c.md>)" ∧ r.newPath = "docs/b c.md" ∧
        r.success = true ∧
        v.tree.stat (projectPath v.scope.context.root "docs/b c.md")
          = .ok (.file (.text "[x](./b c.md)")) ∧
        links "[x](./b c.md)" = [] := by
  obtain ⟨⟨batch, asked⟩, v, hrun, hview⟩ := Work.exists_of_view
    (x := Checker.fix none none none) (w := blankNameProject)
    (f := fun answer v => (answer.1.results.map fun r => (r.link.raw, r.newPath, r.success),
      (v.tree.stat (projectPath v.scope.context.root "docs/b c.md")).toOption))
    (c := ([("[x](<../b c.md>)", "docs/b c.md", true)], some (.file (.text "[x](./b c.md)"))))
    (by decide +kernel)
  obtain ⟨hresults, hstat⟩ := Prod.mk.inj hview
  obtain ⟨report, w₁, hcheck, hfix⟩ := Checker.check_then_fix hrun
  obtain ⟨r, rest, hsplit, hr, hrest⟩ := List.map_eq_cons_iff.1 hresults
  obtain rfl := List.map_eq_nil_iff.1 hrest
  simp only [Prod.mk.injEq] at hr
  exact ⟨report, w₁, batch, asked, v, r, hcheck, hfix, hsplit, hr.1, hr.2.1, hr.2.2,
    Work.eq_ok_of_toOption hstat, by decide +kernel⟩

end DocLinks
