import DocLinks.Proofs.Markdown.Attributes
import DocLinks.Proofs.Markdown.Lines

/-!
# Where links stand

A link tells where its source text starts. The matches of one spelling stand one behind the other on
their line (`pairwise_scan`), and no two spellings can be read at one place (`spellings_disjoint`), so a
place of a document belongs to one link at most (`links_pointAtSource`).

## Contents
- `pairwise_scan`, `scan_eq_nil`: the matches of a scan.
- `spellings_disjoint`: at one place one spelling at most is read.
- `pairwise_matchesOf`, `pairwise_visibleLines`: the matches of a line and the lines of a document.
- `PointsAtSource`, `links_pointAtSource`: what the links of a document say about their source.
-/

namespace DocLinks.Markdown

open Text

/-! ## The matches of a scan -/

section Scan

variable {recognise : List Char → Option Found}

/-- The matches of a scan stand one behind the other. -/
theorem pairwise_scan (start : Nat) (cs : List Char) :
    (scan recognise start cs).Pairwise fun m m' => m.start < m'.start := by
  fun_induction scan recognise start cs with
  | case1 => exact .nil
  | case2 start c cs f hf ih =>
    apply List.Pairwise.cons _ ih
    intro m hm
    obtain ⟨before, _, _, -, hstart, -⟩ := mem_scan hm
    rw [hstart]
    show start < start + 1 + (f.length - 1) + before.length
    omega
  | case3 start c cs hf ih => exact ih

/-- A text at none of whose ends anything is recognised has no matches. -/
theorem scan_eq_nil {cs : List Char} (h : ∀ rest, rest <:+ cs → recognise rest = none)
    (start : Nat) : scan recognise start cs = [] := by
  apply List.eq_nil_iff_forall_not_mem.2
  intro m hm
  obtain ⟨before, c, rest, rfl, -, hfound, -⟩ := mem_scan hm
  rw [h _ (List.suffix_append ..)] at hfound
  cases hfound

end Scan

/-! ## Spellings -/

/-- What an inline link starts with, up to its target. -/
theorem exists_of_inlineWith {read : List Char → Option (List Char)} {overhead : Nat}
    {cs : List Char} {f : Found} (h : inlineWith read overhead cs = some f) :
    ∃ rest, bracketed? cs = some (f.text, '(' :: rest) ∧ read rest = some f.target ∧
      f.length = f.text.length + f.target.length + overhead := by
  unfold inlineWith at h
  split at h
  · rename_i text rest hbracketed
    obtain ⟨target, htarget, rfl⟩ := Option.map_eq_some_iff.1 h
    exact ⟨rest, hbracketed, htarget, rfl⟩
  · cases h

/-- The first character that a spelling takes, in lower case. -/
def StartsWith (recognise : List Char → Option Found) (c : Char) : Prop :=
  ∀ cs f, recognise cs = some f → cs.head?.map Char.toLower = some c

theorem StartsWith.of_word {w word rest : List Char} {c : Char}
    (h : w.map Char.toLower = c :: word) : (w ++ rest).head?.map Char.toLower = some c := by
  obtain ⟨d, w, rfl, hd, -⟩ := List.map_eq_cons_iff.1 h
  rw [List.cons_append, List.head?_cons, Option.map_some, hd]

theorem startsWith_inlineWith (read : List Char → Option (List Char)) (overhead : Nat) :
    StartsWith (inlineWith read overhead) '[' := by
  intro cs f h
  obtain ⟨rest, rfl, -⟩ := inlineWith_eq_some h
  rfl

theorem startsWith_htmlAnchor : StartsWith htmlAnchor '<' := by
  intro cs f h
  obtain ⟨w, blanks, rest, _, rfl, hw, -⟩ := htmlAnchor_eq_some.1 h
  exact StartsWith.of_word hw

theorem startsWith_dataRef : StartsWith dataRef 'd' := by
  intro cs f h
  obtain ⟨⟨value, after⟩, hattribute, -⟩ := Option.map_eq_some_iff.1 h
  obtain ⟨w, q, q', rfl, hw, -⟩ := attribute?_eq_some.1 hattribute
  have hword : w.map Char.toLower = 'd' :: "ata-ref=".toList := by
    rw [hw]
    decide
  exact StartsWith.of_word hword

/-- Spellings that start with different characters are not read at one place. -/
theorem StartsWith.disjoint {r r' : List Char → Option Found} {c c' : Char} (hr : StartsWith r c)
    (hr' : StartsWith r' c') (hne : c ≠ c') : ∀ cs f f', r cs = some f → r' cs ≠ some f' := by
  intro cs f f' h h'
  apply hne
  have hsame := (hr cs f h).symm.trans (hr' cs f' h')
  exact Option.some.inj hsame

/-- Behind one parenthesis stands a target in angle brackets or another one, but not both. -/
theorem angleTarget?_or_standardTarget? (cs : List Char) :
    angleTarget? cs = none ∨ standardTarget? cs = none := by
  rcases hangle : angleTarget? cs with _ | target
  · exact .inl rfl
  · right
    obtain ⟨-, -, rest, rfl⟩ := angleTarget?_eq_some.1 hangle
    rfl

/-- **At one place one spelling at most** is read. -/
theorem spellings_disjoint :
    spellings.Pairwise fun r r' => ∀ cs f f', r cs = some f → r' cs ≠ some f' := by
  have hinline : ∀ cs f f', angle cs = some f → standard cs ≠ some f' := by
    intro cs f f' hangle hstandard
    rw [angle_eq] at hangle
    obtain ⟨rest, hbracketed, htarget, -⟩ := exists_of_inlineWith hangle
    obtain ⟨rest', hbracketed', htarget', -⟩ := exists_of_inlineWith hstandard
    -- What is read as the link text does not depend on the spelling.
    rw [hbracketed] at hbracketed'
    obtain ⟨-, rfl⟩ : f.text = f'.text ∧ rest = rest' := by simpa using hbracketed'
    rcases angleTarget?_or_standardTarget? rest with hnone | hnone
    · rw [hnone] at htarget
      cases htarget
    · rw [hnone] at htarget'
      cases htarget'
  have hangle : StartsWith angle '[' := by
    rw [angle_eq]
    exact startsWith_inlineWith _ _
  have hstandard : StartsWith standard '[' := startsWith_inlineWith _ _
  unfold spellings
  simp only [List.pairwise_cons, List.mem_cons, List.not_mem_nil, or_false, forall_eq_or_imp,
    forall_eq]
  refine ⟨⟨hinline, ?_, ?_⟩, ⟨?_, ?_⟩, ?_, by simp⟩
  · exact hangle.disjoint startsWith_htmlAnchor (by decide)
  · exact hangle.disjoint startsWith_dataRef (by decide)
  · exact hstandard.disjoint startsWith_htmlAnchor (by decide)
  · exact hstandard.disjoint startsWith_dataRef (by decide)
  · exact startsWith_htmlAnchor.disjoint startsWith_dataRef (by decide)

/-- A spelling takes at least one character. -/
theorem length_pos_of_spelling {r : List Char → Option Found} (hr : r ∈ spellings) {cs : List Char}
    {f : Found} (h : r cs = some f) : 0 < f.length := by
  have hinline : ∀ {read : List Char → Option (List Char)} {overhead : Nat}, 0 < overhead →
      inlineWith read overhead cs = some f → 0 < f.length := by
    intro read overhead hpos h
    obtain ⟨-, -, -, hlength⟩ := exists_of_inlineWith h
    omega
  simp only [spellings, List.mem_cons, List.not_mem_nil, or_false] at hr
  rcases hr with rfl | rfl | rfl | rfl
  · rw [angle_eq] at h
    exact hinline (by decide) h
  · exact hinline (by decide) h
  · exact readsAttribute_htmlAnchor.positive h
  · exact readsAttribute_dataRef.positive h

/-! ## The matches of a line -/

/-- **A match of a line** is the text that starts behind the characters that it counts. -/
theorem prefix_of_mem_matchesOf {line : List Char} {m : Match} (h : m ∈ matchesOf line) :
    m.start < line.length ∧ m.raw ≠ [] ∧ m.raw <+: line.drop m.start := by
  obtain ⟨r, hr, hm⟩ := List.mem_flatMap.1 h
  obtain ⟨before, c, rest, rfl, hstart, hfound, hraw⟩ := mem_scan hm
  rw [Nat.zero_add] at hstart
  have hpos := length_pos_of_spelling hr hfound
  refine ⟨?_, ?_, ?_⟩
  · rw [hstart, List.length_append, List.length_cons]
    omega
  · rw [hraw]
    simp only [ne_eq, List.take_eq_nil_iff, reduceCtorEq, or_false]
    omega
  · rw [hstart, List.drop_left, hraw]
    exact List.take_prefix ..

/-- No two matches of a line start at the same place. -/
theorem pairwise_matchesOf (line : List Char) :
    (matchesOf line).Pairwise fun m m' => m.start ≠ m'.start := by
  apply List.pairwise_flatMap.2
  constructor
  · intro r _
    exact (pairwise_scan 0 line).imp Nat.ne_of_lt
  · apply spellings_disjoint.imp
    intro r r' hdisjoint m hm m' hm' hsame
    obtain ⟨before, c, rest, rfl, hstart, hfound, -⟩ := mem_scan hm
    obtain ⟨before', c', rest', hline, hstart', hfound', -⟩ := mem_scan hm'
    -- What precedes the matches is equally long, so it is the same, and so is what follows.
    obtain ⟨-, hrest⟩ := List.append_inj hline (by omega)
    rw [← hrest] at hfound'
    exact hdisjoint _ _ _ hfound hfound'

/-! ## The lines of a document -/

/-- The visible lines have numbers that go up. -/
theorem pairwise_visibleLines (lines : List (List Char)) :
    (visibleLines lines).Pairwise fun a b => a.1 < b.1 := by
  unfold visibleLines
  have hlength : (numberFrom 1 lines).length ≤ (codeMarks lines).length := by
    rw [length_codeMarks, ← List.length_map (f := Prod.snd), map_snd_numberFrom]
  have hzip : ((numberFrom 1 lines).zip (codeMarks lines)).Pairwise fun a b => a.1.1 < b.1.1 := by
    have hnumbers := pairwise_numberFrom 1 lines
    rw [← List.map_fst_zip hlength, List.pairwise_map] at hnumbers
    exact hnumbers
  apply hzip.filterMap
  rintro ⟨a, marked⟩ ⟨b, marked'⟩ hlt c hc c' hc'
  simp only [Option.ite_none_left_eq_some, Option.some.injEq] at hc hc'
  rw [← hc.2, ← hc'.2]
  exact hlt

/-! ## The links of a document -/

/-- A link that points at its own source text, and is read as its target says. -/
structure PointsAtSource (content : String) (l : Link) : Prop where
  /-- On a line outside of code its source text starts at its column. -/
  source : ∃ (i j : Nat) (line : List Char), l.line = i + 1 ∧ l.column = j + 1 ∧
    (linesOf content)[i]? = some line ∧ (codeMarks (linesOf content))[i]? = some false ∧
    j < line.length ∧ l.raw ≠ "" ∧ l.raw.toList <+: line.drop j
  kind : l.kind ≠ .external
  path : '#' ∉ l.targetPath.toList
  /-- It stays in its document if it has an anchor and nothing else. -/
  anchorOnly : l.kind = .anchorOnly ↔ l.targetPath = "" ∧ l.anchor ≠ none

/-- A target inside its document is one with an anchor and nothing before it. -/
theorem isAnchorOnly_iff {target : List Char} :
    Target.isAnchorOnly target = true ↔ Target.path target = [] ∧ Target.anchor? target ≠ none := by
  unfold Target.isAnchorOnly Target.path Target.anchor?
  rcases target with _ | ⟨c, cs⟩
  · decide
  · by_cases hc : c = '#'
    · subst hc
      simp
    · simp [hc, Ne.symm hc]

/-- A link stays in its document exactly if its target does. -/
theorem kind?_eq_anchorOnly_iff {target : List Char} {kind : LinkKind}
    (h : Target.kind? target = some kind) :
    kind = .anchorOnly ↔ Target.isAnchorOnly target = true := by
  unfold Target.kind? at h
  split at h
  · cases h
  · split at h
    · rename_i hanchor
      simp [hanchor, ← Option.some.inj h]
    · rename_i hanchor
      split at h <;> simp [hanchor, ← Option.some.inj h]

theorem pointsAtSource_of_mem {content : String} {l : Link} (h : l ∈ links content) :
    PointsAtSource content l := by
  obtain ⟨i, line, hline, hmark, m, hm, hlink⟩ := mem_links_iff.1 h
  obtain ⟨hnumber, hraw, hkind, hpath, hanchor⟩ := link?_eq_some hlink
  obtain ⟨hstart, hne, hprefix⟩ := prefix_of_mem_matchesOf hm
  refine ⟨⟨i, m.start, line, by rw [hnumber]; simp, ?_, hline, hmark, hstart, ?_, ?_⟩, ?_, ?_, ?_⟩
  · exact column_of_link? hlink
  · intro hempty
    rw [hempty] at hraw
    exact hne hraw.symm
  · rw [hraw]
    exact hprefix
  · intro hexternal
    rw [hexternal] at hkind
    exact kind?_ne_external _ hkind
  · exact hash_not_mem_targetPath hlink
  · rw [kind?_eq_anchorOnly_iff hkind, isAnchorOnly_iff, ← hpath, hanchor]
    simp

/-- The links of one line, and those of lines one behind the other. -/
theorem pairwise_links (content : String) : (links content).Pairwise fun l l' =>
    l.line ≤ l'.line ∧ (l.line, l.column) ≠ (l'.line, l'.column) := by
  unfold links
  apply List.pairwise_flatMap.2
  constructor
  · rintro ⟨n, line⟩ _
    apply (pairwise_matchesOf line).filterMap
    intro m m' hne l hl l' hl'
    rw [(link?_eq_some hl).1, (link?_eq_some hl').1, column_of_link? hl, column_of_link? hl']
    refine ⟨Int.le_refl _, fun hsame => hne ?_⟩
    have hcolumn := congrArg Prod.snd hsame
    simp only at hcolumn
    omega
  · apply (pairwise_visibleLines _).imp
    rintro ⟨n, line⟩ ⟨n', line'⟩ hlt l hl l' hl'
    obtain ⟨m, -, hm⟩ := List.mem_filterMap.1 hl
    obtain ⟨m', -, hm'⟩ := List.mem_filterMap.1 hl'
    rw [(link?_eq_some hm).1, (link?_eq_some hm').1]
    have hlt' : (n : Int) < n' := by exact_mod_cast hlt
    refine ⟨Int.le_of_lt hlt', fun hsame => ?_⟩
    exact absurd (congrArg Prod.fst hsame) (Int.ne_of_lt hlt')

/-- No two links of a document are the same. -/
theorem nodup_links (content : String) : (links content).Nodup := by
  apply (pairwise_links content).imp
  intro l l' hne heq
  exact hne.2 (by rw [heq])

/-- **The links of a document point at their source.** Each stands outside of code with its source text
at its column; the lines of the list never go down, and no two links stand at the same place. -/
theorem links_pointAtSource (path content : String) :
    (∀ l ∈ (parseLinks path content).links, PointsAtSource content l) ∧
      (parseLinks path content).links.Pairwise (fun l l' => l.line ≤ l'.line) ∧
      ((parseLinks path content).links.map fun l => (l.line, l.column)).Nodup ∧
      (parseLinks path content).links.Nodup := by
  have hpairwise := pairwise_links content
  have hplaces : ((links content).map fun l => (l.line, l.column)).Nodup :=
    List.pairwise_map.2 (hpairwise.imp And.right)
  exact ⟨fun l hl => pointsAtSource_of_mem hl, hpairwise.imp And.left, hplaces, nodup_links content⟩

end DocLinks.Markdown
