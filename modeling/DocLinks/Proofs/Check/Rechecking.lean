import DocLinks.Proofs.Check.CheckThenFix
import DocLinks.Proofs.Fix.Reread

/-!
# A check after the fixes

What a new check of a project finds after a check and its fixes. It reads the same pages
(`FixRun.pagesOf_eq`); a page that the redirects are not recorded in has its lines after the fixes that
were applied to it (`FixRun.text_after`); and a link that leads to a file still does
(`SameShape.validateLink`).
-/

namespace DocLinks

open Text FileTree Markdown

/-! ## The same pages -/

namespace FileTree.SameShape

variable {t u : FileTree}

theorem isFileFrom (h : SameShape t u) (place names : List String) :
    u.isFileFrom place names = t.isFileFrom place names := by
  unfold FileTree.isFileFrom
  rw [h.walk]
  split
  · rfl
  · rename_i target _
    rcases ht : t.node? target with _ | (c | _)
    · rw [h.node?_none ht]
    · obtain ⟨d, hu⟩ := h.node?_file ht
      rw [hu]
    · rw [h.node?_folder ht]

/-- What is picked by key is picked from lists with the same keys. -/
theorem filterMap_of_keys {α β γ : Type} {g : α × β → Option γ} (hg : ∀ a b b', g (a, b) = g (a, b')) :
    ∀ {l l' : List (α × β)}, l'.map Prod.fst = l.map Prod.fst → l'.filterMap g = l.filterMap g
  | [], l', h => by rw [List.map_eq_nil_iff.1 h]
  | (a, b) :: l, l', h => by
    obtain ⟨⟨a', b'⟩, l'', rfl, rfl, hl⟩ := List.map_eq_cons_iff.1 h
    rw [List.filterMap_cons, List.filterMap_cons, hg a' b' b, filterMap_of_keys hg hl]

theorem filesBelow (h : SameShape t u) (place extensions excluded : List String) :
    u.filesBelow place extensions excluded = t.filesBelow place extensions excluded := by
  unfold FileTree.filesBelow
  simp only [h.isFileFrom]
  refine congrArg (fun found : List String => (found.mergeSort fun a b => decide (a ≤ b)).eraseDups)
    (filterMap_of_keys ?_ h.keys)
  exact fun _ _ _ => rfl

theorem scan (h : SameShape t u) (folder : FilePath) (extensions : List String)
    (excluded : List Value) : u.scan folder extensions excluded = t.scan folder extensions excluded := by
  have hs := h.stat folder
  unfold FileTree.scan
  rw [h.start]
  simp only [h.walk, h.filesBelow]
  rcases ht : t.stat folder with e | (_ | _) <;> rcases hu : u.stat folder with e' | (_ | _) <;>
    rw [ht, hu] at hs <;> first | rfl | (cases hs <;> rfl)

theorem markdownFiles (h : SameShape t u) (root : FilePath) (folder : Option String)
    (excluded : List Value) :
    DocLinks.markdownFiles u root folder excluded = DocLinks.markdownFiles t root folder excluded := by
  have hprobe : ∀ p, (u.probe p).map (·.map Node.isFolder) = (t.probe p).map (·.map Node.isFolder) := by
    intro p
    have hs := h.stat p
    unfold FileTree.probe
    rcases ht : t.stat p with e | n <;> rcases hu : u.stat p with e' | n' <;> rw [ht, hu] at hs
    · rw [Except.error.inj hs]
    · cases hs
    · cases hs
    · exact congrArg (fun b => Except.ok (some b)) (Except.ok.inj hs)
  unfold DocLinks.markdownFiles
  simp only [h.scan]
  generalize folder.filter (· ≠ "") = folder
  rcases folder with _ | f <;> simp only
  · have hp := hprobe root
    rcases ht : t.probe root with e | (_ | _ | _) <;> rcases hu : u.probe root with e' | (_ | _ | _) <;>
      rw [ht, hu] at hp <;> first | rfl | (cases hp <;> rfl)
  · have hp := hprobe (root.join (.ofString f))
    generalize root.join (.ofString f) = searched at hp ⊢
    rcases ht : t.probe searched with e | (_ | _ | _) <;>
      rcases hu : u.probe searched with e' | (_ | _ | _) <;> rw [ht, hu] at hp <;> first | rfl | (cases hp <;> rfl)

theorem resolveLink (h : SameShape t u) (root : FilePath) (source target : String) :
    DocLinks.resolveLink u root source target = DocLinks.resolveLink t root source target := by
  unfold DocLinks.resolveLink withFallback
  simp only [h.hasFile]

end FileTree.SameShape

/-! ## Verdicts -/

section Verdict

variable {t u : FileTree} {root : FilePath} {table : Option RedirectTable} {source : String}
  {l l' : Link}

/-- **A valid link** stays valid, whatever the redirects. What counts is its kind and its path. -/
theorem FileTree.SameShape.validateLink {resolved : String} (hshape : SameShape t u)
    (hkind : l'.kind = l.kind) (hpath : l'.targetPath = l.targetPath)
    (h : DocLinks.validateLink t root table source l = .valid source l resolved)
    (table' : Option RedirectTable) :
    DocLinks.validateLink u root table' source l' = .valid source l' resolved := by
  have hvalid : (DocLinks.validateLink t root table source l).status = .valid := by rw [h]; rfl
  rcases status_validateLink_eq_valid hvalid with hl | hl | ⟨hl, hfile⟩
  · rw [validateLink_of_external hl] at h
    rw [validateLink_of_external (hkind.trans hl), hpath]
    cases h
    rfl
  · rw [validateLink_of_anchorOnly hl] at h
    rw [validateLink_of_anchorOnly (hkind.trans hl)]
    cases h
    rfl
  · rw [validateLink_of_isFile hl hfile] at h
    rw [validateLink_of_isFile (hkind ▸ hl) (by rw [hshape.resolveLink, hpath, hfile]),
      hshape.resolveLink, hpath]
    cases h
    rfl

end Verdict

theorem Checker.pagesOf_congr {s s' : Checker} {t u : FileTree} (h : SameShape t u)
    (hroot : s'.context.root = s.context.root) (hexclude : s'.context.excludeDirs = s.context.excludeDirs)
    (hpath : s'.scanPath = s.scanPath) : s'.pagesOf u = s.pagesOf t := by
  unfold Checker.pagesOf
  rw [hroot, hexclude, hpath]
  simp only [h.markdownFiles]

/-- Pages at one place are the same page. -/
theorem Checker.separate_of_pagesOf {s : Checker} {t : FileTree} (ht : t.Proper) {pages : List String}
    (h : s.pagesOf t = .ok pages) {page page' : String} (hp : page ∈ pages) (hp' : page' ∈ pages)
    {place : List String} (hplace : t.placeOf (projectPath s.context.root page) = .ok place)
    (hplace' : t.placeOf (projectPath s.context.root page') = .ok place) : page = page' := by
  obtain ⟨_, -, hfiles⟩ := pagesOf_eq_ok h
  exact separate_of_markdownFiles ht hfiles hp hp' hplace hplace'

section Run

variable {w v : Workspace Checker} {pages : List String} {fixes : List SuggestedFix}
  {results : List FixResult}

/-- **A new check** reads the same pages. -/
theorem FixRun.pagesOf_eq (h : FixRun w v pages fixes results) : v.scope.pagesOf v.tree = .ok pages :=
  (Checker.pagesOf_congr h.shape h.root h.excludeDirs h.scanPath).trans h.pages_eq

theorem FixRun.source_mem_pages (h : FixRun w v pages fixes results) {f : SuggestedFix}
    (hf : f ∈ fixes) : f.broken.sourceFile ∈ pages :=
  (exists_text_of_broken (h.broken f hf)).1

/-! ## The text of a page -/

/-- A success on a document means that it was read and could be written. -/
theorem successes_of_true {t : FileTree} {root : FilePath} {page text : String}
    {fs : List SuggestedFix} {limit : Limit} (htext : t.read (projectPath root page) limit = .ok text)
    (h : true ∈ successes t root page fs) :
    documentText t root page = .ok text ∧
      successes t root page fs = foundEach t.cwd (linesOf text) (fromLastLine fs) := by
  rcases hdoc : documentText t root page with e | text'
  · rw [successes_of_error hdoc] at h
    exact absurd (List.eq_of_mem_replicate h) (by simp)
  · obtain rfl := read_unique hdoc htext
    rw [successes_of_ok hdoc] at h ⊢
    split at h
    · rename_i hcan
      rw [if_pos hcan]
      exact ⟨rfl, rfl⟩
    · exact absurd (List.eq_of_mem_replicate h) (by simp)

/-- A page that the redirects are not recorded in. -/
def Checker.KeepsApart (s : Checker) (t : FileTree) (page : String) : Prop :=
  ∀ table file, s.context.table = some table → table.file = some file →
    t.placeOf file ≠ t.placeOf (projectPath s.context.root page)

/-- What a batch leaves at the place of such a page is still there after the redirects. -/
theorem FixRun.stat_after (h : FixRun w v pages fixes results) {page : String}
    (hapart : w.scope.KeepsApart w.tree page) {place : List String} {c d : Content}
    (hplace : w.tree.placeOf (projectPath w.scope.context.root page) = .ok place)
    (hstat : w.tree.stat (projectPath w.scope.context.root page) = .ok (.file c))
    (hd : (finalTree w.tree (batchWrites w.tree w.scope.context.root fixes)).node? place
      = some (.file d)) :
    v.tree.stat (projectPath w.scope.context.root page) = .ok (.file d) := by
  have hkept := h.kept place fun table file htable hfile hp =>
    hapart table file htable hfile (hp.trans hplace.symm)
  obtain ⟨hnull, hlong, place', hwalk, _⟩ := stat_eq_file_iff.1 hstat
  obtain rfl : place = place' := Except.ok.inj (hplace.symm.trans (placeOf_eq_ok_iff.2 hwalk))
  rw [stat_eq_file_iff, h.shape.start, h.shape.walk]
  exact ⟨hnull, hlong, place, hwalk, hkept.trans hd⟩

/-- A page with a success is the document of some fixes. -/
theorem FixRun.source_of_success (h : FixRun w v pages fixes results) {r : FixResult} (hr : r ∈ results)
    (hsuccess : r.success = true) : r.sourceFile ∈ sourcesOf fixes ∧
      true ∈ successes w.tree w.scope.context.root r.sourceFile (fixesOf r.sourceFile fixes) := by
  have hsource : r.sourceFile ∈ sourcesOf fixes := by
    have hmem : r.verdict ∈ results.map FixResult.verdict := List.mem_map_of_mem hr
    rw [h.verdicts] at hmem
    obtain ⟨s, hsource, hv⟩ := List.mem_flatMap.1 hmem
    rwa [show r.sourceFile = s from source_of_mem_documentVerdicts hv]
  refine ⟨hsource, ?_⟩
  rw [← resultsOf_success h.verdicts hsource, ← hsuccess]
  exact List.mem_map_of_mem (mem_resultsOf.2 ⟨hr, rfl⟩)

/-- The successes on a document are its fixes that were applied. -/
theorem FixRun.attempt_iff (h : FixRun w v pages fixes results) {page text : String}
    (hsource : page ∈ sourcesOf fixes)
    (hdoc : documentText w.tree w.scope.context.root page = .ok text)
    (hsuccesses : successes w.tree w.scope.context.root page (fixesOf page fixes)
      = foundEach w.tree.cwd (linesOf text) (fromLastLine (fixesOf page fixes)))
    (a : String × Link × String) :
    (∃ r ∈ results, r.success = true ∧ r.sourceFile = page ∧ r.attempt = a) ↔
      ∃ f ∈ appliedFixes w.tree.cwd (linesOf text) (fromLastLine (fixesOf page fixes)), f.attempt = a := by
  have hattempts := resultsOf_attempt h.verdicts hsource
  have hverdicts := resultsOf_success h.verdicts hsource
  rw [answerOrder_of_ok hdoc] at hattempts
  rw [hsuccesses] at hverdicts
  -- The results of the document and its fixes stand in one order.
  constructor
  · rintro ⟨r, hr, hs, hp, rfl⟩
    obtain ⟨k, hk⟩ := List.mem_iff_getElem?.1 (mem_resultsOf.2 ⟨hr, hp⟩)
    have hattempt := congrArg (·[k]?) hattempts
    have hverdict := congrArg (·[k]?) hverdicts
    simp only [List.getElem?_map, hk, Option.map_some] at hattempt hverdict
    obtain ⟨f, hf, hfa⟩ := Option.map_eq_some_iff.1 hattempt.symm
    exact ⟨f, (mem_appliedFixes_iff _ _).2 ⟨k, hf, by rw [← hverdict, hs]⟩, hfa⟩
  · rintro ⟨f, hf, rfl⟩
    obtain ⟨k, hk, hfound⟩ := (mem_appliedFixes_iff _ _).1 hf
    have hattempt := congrArg (·[k]?) hattempts
    have hverdict := congrArg (·[k]?) hverdicts
    simp only [List.getElem?_map, hk, hfound, Option.map_some] at hattempt hverdict
    obtain ⟨r, hr, hra⟩ := Option.map_eq_some_iff.1 hattempt
    rw [hr, Option.map_some, Option.some.injEq] at hverdict
    obtain ⟨hmem, hp⟩ := mem_resultsOf.1 (List.mem_of_getElem? hr)
    exact ⟨r, hmem, hverdict, hp, hra⟩

/-- **The text of a page after the fixes**: its lines after those of its fixes that were applied. -/
theorem FixRun.text_after (h : FixRun w v pages fixes results) (ht : w.tree.Proper) {page : String}
    (hpage : page ∈ pages) (hapart : w.scope.KeepsApart w.tree page) {limit : Limit} {text : String}
    (htext : w.tree.read (projectPath w.scope.context.root page) limit = .ok text) :
    ∃ order : List SuggestedFix, (∀ f ∈ order, f ∈ fixes ∧ f.broken.sourceFile = page) ∧
      (∀ a, (∃ r ∈ results, r.success = true ∧ r.sourceFile = page ∧ r.attempt = a) ↔
        ∃ f ∈ appliedFixes w.tree.cwd (linesOf text) order, f.attempt = a) ∧
      ∃ c, v.tree.stat (projectPath w.scope.context.root page) = .ok (.file c) ∧
        c.read = .ok (ofLines (rewrittenLines w.tree.cwd order (linesOf text))) := by
  obtain ⟨place, c, hplace, hnode, hstat, hread⟩ := read_eq_ok htext
  by_cases hany : page ∈ sourcesOf fixes ∧
      true ∈ successes w.tree w.scope.context.root page (fixesOf page fixes)
  · obtain ⟨hsource, htrue⟩ := hany
    obtain ⟨hdoc, hsuccesses⟩ := successes_of_true htext htrue
    obtain ⟨d, hd, hlines⟩ := node?_finalTree_of_document h.separate hsource hdoc hplace hsuccesses
    have horder := lastLineFirst_fromLastLine (fixesOf page fixes)
    refine ⟨fromLastLine (fixesOf page fixes), fun f hf => ?_, h.attempt_iff hsource hdoc hsuccesses, d,
      h.stat_after hapart hplace hstat hd, by rw [hlines, rewrittenLines_congr horder.sameLine]⟩
    exact mem_fixesOf.1 (horder.perm.mem_iff.1 hf)
  · -- Nothing has come through, and the page is as it was.
    have hnode' : (finalTree w.tree (batchWrites w.tree w.scope.context.root fixes)).node? place
        = some (.file c) := by
      rw [← hnode]
      refine node?_finalTree_of_no_success fun s hs hp htrue => ?_
      obtain ⟨f, hf, rfl⟩ := mem_sourcesOf.1 hs
      obtain rfl := Checker.separate_of_pagesOf ht h.pages_eq (h.source_mem_pages hf) hpage hp hplace
      exact hany ⟨hs, htrue⟩
    refine ⟨[], by simp, fun a => ⟨?_, ?_⟩, c, h.stat_after hapart hplace hstat hnode',
      by rw [rewrittenLines_nil, ofLines_linesOf]; exact hread⟩
    · rintro ⟨r, hr, hsuccess, rfl, -⟩
      exact absurd (h.source_of_success hr hsuccess) hany
    · rintro ⟨f, hf, _⟩
      cases hf

end Run

/-! ## The lines of a page -/

/-- What was attempted on a line with success. -/
def attemptsOn (page : String) (number : Int) (results : List FixResult) :
    List (String × Link × String) :=
  (results.filter fun r => r.success && r.sourceFile == page && r.link.line == number).map
    FixResult.attempt

theorem mem_attemptsOn {page : String} {number : Int} {results : List FixResult}
    {a : String × Link × String} :
    a ∈ attemptsOn page number results ↔ ∃ r ∈ results, r.success = true ∧ r.sourceFile = page ∧
      r.link.line = number ∧ r.attempt = a := by
  simp only [attemptsOn, List.mem_map, List.mem_filter, Bool.and_eq_true, beq_iff_eq]
  constructor
  · rintro ⟨r, ⟨hr, ⟨hs, hp⟩, hn⟩, ha⟩
    exact ⟨r, hr, hs, hp, hn, ha⟩
  · rintro ⟨r, hr, hs, hp, hn, ha⟩
    exact ⟨r, ⟨hr, ⟨hs, hp⟩, hn⟩, ha⟩

/-- The line of a page with the given number. -/
def pageLine? (t : FileTree) (root : FilePath) (page : String) (number : Int) : Option (List Char) :=
  match t.stat (projectPath root page) with
  | .ok (.file c) =>
    match c.read with
    | .ok text => (linesOf text)[(number - 1).toNat]?
    | .error _ => none
  | _ => none

theorem pageLine?_of_read {t : FileTree} {root : FilePath} {page text : String} {limit : Limit}
    (h : t.read (projectPath root page) limit = .ok text) {i : Nat} {line : List Char}
    (hline : (linesOf text)[i]? = some line) : pageLine? t root page (i + 1) = some line := by
  obtain ⟨_, c, _, _, hstat, hread⟩ := read_eq_ok h
  unfold pageLine?
  rw [hstat]
  simp only [hread]
  have hi : ((i : Int) + 1 - 1).toNat = i := by omega
  rw [hi, hline]

theorem newline_not_mem_of_newTargetOf {cwd : List String} {f : SuggestedFix}
    (hpath : f.suggestion.suggestedPath ≠ "") (hnew : '\n' ∉ newTargetOf cwd f.attempt)
    {line : List Char} (hline : '\n' ∉ line) : '\n' ∉ fixedLine cwd line f := by
  rcases fixedLine_cases cwd line f with hsame | ⟨new, htarget, hr⟩
  · rwa [hsame]
  · rw [newTarget?_eq hpath] at htarget
    obtain rfl := Option.some.inj htarget
    rw [replaceLink_eq_some, String.toList_ofList] at hr
    intro h
    rcases mem_replaceOccurrences line (by rw [hr]; exact h) with h | h
    · exact hnew (by simpa using h)
    · exact hline h

/-- **A line of a page after the fixes**: those that were applied to it have found their links one
after the other. A line that was read before is read again. -/
theorem FixRun.line_after {w v : Workspace Checker} {pages : List String} {fixes : List SuggestedFix}
    {results : List FixResult} (h : FixRun w v pages fixes results) (ht : w.tree.Proper) {page : String}
    (hpage : page ∈ pages) (hapart : w.scope.KeepsApart w.tree page) {limit : Limit} {text : String}
    (htext : w.tree.read (projectPath w.scope.context.root page) limit = .ok text)
    (hbreak : ∀ q ∈ results, q.success = true → q.sourceFile = page →
      '\n' ∉ newTargetOf w.tree.cwd q.attempt) :
    ∃ c text', v.tree.stat (projectPath w.scope.context.root page) = .ok (.file c) ∧
      c.read = .ok text' ∧ ∀ {i : Nat} {line : List Char}, (linesOf text)[i]? = some line →
      (codeMarks (linesOf text))[i]? = some false → (codeMarks (linesOf text'))[i]? = some false ∧
      ∃ gs : List SuggestedFix, (∀ f ∈ gs, f ∈ fixes ∧ f.broken.sourceFile = page) ∧
        (∀ a, a ∈ attemptsOn page (i + 1) results ↔ ∃ f ∈ gs, f.attempt = a) ∧
        EachFound w.tree.cwd line gs ∧ (linesOf text')[i]? = some (gs.foldl (fixedLine w.tree.cwd) line) := by
  obtain ⟨order, horder, happlied, c, hstat, hread⟩ := h.text_after ht hpage hapart htext
  rw [← rewrittenLines_appliedFixes] at hread
  have hmem : ∀ f ∈ appliedFixes w.tree.cwd (linesOf text) order, f ∈ fixes ∧ f.broken.sourceFile = page :=
    fun f hf => by
      obtain ⟨k, hk, _⟩ := (mem_appliedFixes_iff _ _).1 hf
      exact horder f (List.mem_of_getElem? hk)
  have hlines : linesOf (ofLines (rewrittenLines w.tree.cwd
        (appliedFixes w.tree.cwd (linesOf text) order) (linesOf text)))
      = rewrittenLines w.tree.cwd (appliedFixes w.tree.cwd (linesOf text) order) (linesOf text) := by
    refine linesOf_ofLines (forall_mem_rewrittenLines (fun f hf line hl => ?_)
      fun l hl => newline_not_mem_of_mem_linesOf hl) fun hnil => ?_
    · obtain ⟨q, hq, hsuccess, hsource, hattempt⟩ := (happlied _).2 ⟨f, hf, rfl⟩
      refine newline_not_mem_of_newTargetOf ((h.suggested f (hmem f hf).1).hasFile ht).1 ?_ hl
      rw [← hattempt]
      exact hbreak q hq hsuccess hsource
    · have hlen := congrArg List.length hnil
      rw [length_rewrittenLines] at hlen
      exact linesOf_ne_nil text (List.eq_nil_of_length_eq_zero hlen)
  refine ⟨c, _, hstat, hread, ?_⟩
  intro i line hline hmark
  rw [hlines, codeMarks_rewrittenLines, getElem?_rewrittenLines, hline, Option.map_some, rewrittenLine]
  refine ⟨hmark, (appliedFixes w.tree.cwd (linesOf text) order).filter
    (·.broken.link.line = (i : Int) + 1), fun f hf => hmem f (List.mem_filter.1 hf).1, fun a => ?_,
    eachFound_appliedFixes order hline, rfl⟩
  rw [mem_attemptsOn]
  constructor
  · rintro ⟨q, hq, hsuccess, hsource, hnumber, rfl⟩
    obtain ⟨f, hf, hattempt⟩ := (happlied _).1 ⟨q, hq, hsuccess, hsource, rfl⟩
    refine ⟨f, List.mem_filter.2 ⟨hf, ?_⟩, hattempt⟩
    rw [show f.broken.link = q.link from congrArg (·.2.1) hattempt]
    simpa using hnumber
  · rintro ⟨f, hf, rfl⟩
    obtain ⟨hf, hnumber⟩ := List.mem_filter.1 hf
    obtain ⟨q, hq, hsuccess, hsource, hattempt⟩ := (happlied _).2 ⟨f, hf, rfl⟩
    refine ⟨q, hq, hsuccess, hsource, ?_, hattempt⟩
    rw [show q.link = f.broken.link from congrArg (·.2.1) hattempt]
    simpa using hnumber

end DocLinks
