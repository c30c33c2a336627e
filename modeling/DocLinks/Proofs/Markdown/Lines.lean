import DocLinks.Markdown.Document
import DocLinks.Fix.Replace
import DocLinks.Proofs.Text.Cutting

/-!
# Links and their lines

Where the links of a document come from: each is made by a match on one of the visible lines, its line
number is that of the line, and its source text stands on the line (`mem_links_iff`,
`infix_of_mem_matchesOf`). A match of a line was recognised behind the characters that it counts
(`mem_scan`).
-/

namespace DocLinks.Markdown

open Text

/-- **The visible lines** are those that are not marked as code, with their numbers. -/
theorem mem_visibleLines_iff {lines : List (List Char)} {n : Nat} {line : List Char} :
    (n, line) ∈ visibleLines lines ↔
      ∃ i : Nat, n = i + 1 ∧ lines[i]? = some line ∧ (codeMarks lines)[i]? = some false := by
  unfold visibleLines
  rw [List.mem_filterMap]
  constructor
  · rintro ⟨⟨numbered, marked⟩, hmem, hsome⟩
    obtain ⟨i, hi⟩ := List.mem_iff_getElem?.1 hmem
    rw [List.getElem?_zip_eq_some, getElem?_numberFrom] at hi
    obtain ⟨hnumbered, hmarked⟩ := hi
    obtain ⟨a, ha, rfl⟩ := Option.map_eq_some_iff.1 hnumbered
    simp only at hsome
    split at hsome
    · cases hsome
    · rename_i hfalse
      cases hsome
      refine ⟨i, by omega, ha, ?_⟩
      rw [hmarked]
      simpa using hfalse
  · rintro ⟨i, rfl, hline, hmark⟩
    refine ⟨((i + 1, line), false), List.mem_iff_getElem?.2 ⟨i, ?_⟩, rfl⟩
    rw [List.getElem?_zip_eq_some, getElem?_numberFrom, hline]
    exact ⟨by simp [Nat.add_comm], hmark⟩

/-- **The links of a document** are made by the matches of its visible lines. -/
theorem mem_links_iff {content : String} {l : Link} :
    l ∈ links content ↔ ∃ (i : Nat) (line : List Char), (linesOf content)[i]? = some line ∧
      (codeMarks (linesOf content))[i]? = some false ∧ ∃ m ∈ matchesOf line, m.link? (i + 1) = some l := by
  unfold links
  rw [List.mem_flatMap]
  constructor
  · rintro ⟨⟨n, line⟩, hvisible, hl⟩
    obtain ⟨i, rfl, hline, hmark⟩ := mem_visibleLines_iff.1 hvisible
    obtain ⟨m, hm, hsome⟩ := List.mem_filterMap.1 hl
    exact ⟨i, line, hline, hmark, m, hm, hsome⟩
  · rintro ⟨i, line, hline, hmark, m, hm, hsome⟩
    exact ⟨(i + 1, line), mem_visibleLines_iff.2 ⟨i, rfl, hline, hmark⟩,
      List.mem_filterMap.2 ⟨m, hm, hsome⟩⟩

/-- **A match** tells what was recognised behind the characters that it counts. -/
theorem mem_scan {recognise : List Char → Option Found} {start : Nat} {cs : List Char}
    {m : Match} (h : m ∈ scan recognise start cs) :
    ∃ before c rest, cs = before ++ c :: rest ∧ m.start = start + before.length ∧
      recognise (c :: rest) = some m.found ∧ m.raw = (c :: rest).take m.found.length := by
  fun_induction scan recognise start cs with
  | case1 => cases h
  | case2 start c cs f hf ih =>
    rcases List.mem_cons.1 h with rfl | h
    · exact ⟨[], c, cs, rfl, rfl, hf, rfl⟩
    · obtain ⟨before, d, rest, hdrop, hstart, hfound, hraw⟩ := ih h
      -- Something is left behind the first match, so the match ends on the line.
      have hends : f.length - 1 < cs.length := by
        have hlength := congrArg List.length hdrop
        simp only [List.length_drop, List.length_append, List.length_cons] at hlength
        omega
      refine ⟨c :: (cs.take (f.length - 1) ++ before), d, rest, ?_, ?_, hfound, hraw⟩
      · rw [List.cons_append, List.append_assoc, ← hdrop, List.take_append_drop]
      · rw [hstart, List.length_cons, List.length_append, List.length_take]
        omega
  | case3 start c cs hf ih =>
    obtain ⟨before, d, rest, rfl, hstart, hfound, hraw⟩ := ih h
    refine ⟨c :: before, d, rest, rfl, ?_, hfound, hraw⟩
    rw [hstart, List.length_cons]
    omega

/-- A match stands on the text that is scanned. -/
theorem infix_of_mem_scan {recognise : List Char → Option Found} {start : Nat} {cs : List Char}
    {m : Match} (h : m ∈ scan recognise start cs) : m.raw <:+: cs := by
  obtain ⟨before, c, rest, rfl, -, -, hraw⟩ := mem_scan h
  rw [hraw]
  apply (List.take_prefix ..).isInfix.trans
  exact (List.suffix_append before (c :: rest)).isInfix

/-- **The source text of a link** stands on its line. -/
theorem infix_of_mem_matchesOf {line : List Char} {m : Match} (h : m ∈ matchesOf line) :
    m.raw <:+: line := by
  obtain ⟨recognise, _, h⟩ := List.mem_flatMap.1 h
  exact infix_of_mem_scan h

/-- What a match says about the link that it makes. -/
theorem link?_eq_some {n : Nat} {m : Match} {l : Link} (h : m.link? n = some l) :
    l.line = n ∧ l.raw.toList = m.raw ∧
      Target.kind? (Target.clean (trim m.found.target)) = some l.kind ∧
      l.targetPath.toList = Target.path (Target.clean (trim m.found.target)) ∧
      l.anchor = (Target.anchor? (Target.clean (trim m.found.target))).map .ofList := by
  unfold Match.link? Link.ofTarget? at h
  obtain ⟨kind, hkind, rfl⟩ := Option.map_eq_some_iff.1 h
  exact ⟨rfl, String.toList_ofList, hkind, String.toList_ofList, rfl⟩

/-- A link starts where its match does. -/
theorem column_of_link? {n : Nat} {m : Match} {l : Link} (h : m.link? n = some l) :
    l.column = m.start + 1 := by
  unfold Match.link? Link.ofTarget? at h
  obtain ⟨kind, -, rfl⟩ := Option.map_eq_some_iff.1 h
  rfl

/-- No link leads out of the project. -/
theorem kind?_ne_external (target : List Char) : Target.kind? target ≠ some .external := by
  unfold Target.kind?
  split
  · exact nofun
  · split
    · simp
    · split <;> simp

/-- Matches with the same target make links to the same place. -/
theorem exists_link?_of_target {n : Nat} {m m' : Match} {l : Link} (h : m.link? n = some l)
    (htarget : m'.found.target = m.found.target) :
    ∃ l', m'.link? n = some l' ∧ l'.kind = l.kind ∧ l'.targetPath = l.targetPath := by
  unfold Match.link? Link.ofTarget? at h ⊢
  rw [htarget]
  obtain ⟨kind, hkind, rfl⟩ := Option.map_eq_some_iff.1 h
  exact ⟨_, Option.map_eq_some_iff.2 ⟨kind, hkind, rfl⟩, rfl, rfl⟩

/-- The path of a link ends before the first number sign. -/
theorem hash_not_mem_targetPath {n : Nat} {m : Match} {l : Link} (h : m.link? n = some l) :
    '#' ∉ l.targetPath.toList := by
  obtain ⟨_, _, _, hpath, _⟩ := link?_eq_some h
  rw [hpath]
  intro hmem
  simpa using List.all_eq_true.1 List.all_takeWhile _ hmem

/-- The path of a written target is that of its link. -/
theorem path_writtenTarget {l : Link} (h : '#' ∉ l.targetPath.toList) :
    Target.path l.writtenTarget = l.targetPath.toList := by
  have hall : ∀ c ∈ l.targetPath.toList, (c != '#') = true := fun c hc => by
    simpa using fun he : c = '#' => h (he ▸ hc)
  unfold Target.path Link.writtenTarget Link.withAnchor
  split
  · simp only [String.toList_append]
    rw [List.append_assoc, List.takeWhile_append_of_pos hall]
    simp
  · exact List.takeWhile_eq_self_iff.2 hall

end DocLinks.Markdown
