import DocLinks.Proofs.Markdown.Positions
import DocLinks.Proofs.Text.Trimming

/-!
# Links that are written and read again

A document is written line by line: each line is a text without links, then inline links with texts
between them. As long as no line holds a quote or an angle bracket, and no text between the links opens
a bracket, reading the document finds the links that were written, and nothing else
(`links_ofLines`).

## Contents
- `InlineLink`: a link that is written `[text](target)`, and the record that stands for it.
- `LinkLine`: a line with such links, and where on it they start.
- `matchesOf_text`: the matches of such a line.
- `links_ofLines`: the links of a document of such lines.
-/

namespace DocLinks.Markdown

open Text

/-! ## Links -/

/-- **A link to be written** as `[text](target)`. Its target is a text without blanks and parentheses,
or two such texts with a text in parentheses between them; the first is not empty. -/
structure InlineLink where
  text : List Char
  target : List Char
  closed : ']' ∉ text
  isTarget : IsStandardTarget target

namespace InlineLink

/-- The source text of a link. -/
def source (l : InlineLink) : List Char := '[' :: (l.text ++ ']' :: '(' :: (l.target ++ [')']))

/-- Whether a link stays inside the project. -/
def staysInside (l : InlineLink) : Bool := !Target.isExternal (Target.clean l.target)

/-- What a link that stays inside the project points at. -/
def kind (l : InlineLink) : LinkKind :=
  if Target.isAnchorOnly (Target.clean l.target) then .anchorOnly
  else if Target.isAsset (Target.clean l.target) then .asset
  else .internal

/-- The record of a link that is written at a place. -/
def linkAt (l : InlineLink) (line column : Nat) : Link where
  raw := .ofList l.source
  displayText := .ofList l.text
  targetPath := .ofList (Target.splitAnchor (Target.clean l.target)).1
  anchor := (Target.splitAnchor (Target.clean l.target)).2.map .ofList
  line := line
  column := column
  kind := l.kind

/-- The match of a link that `start` characters precede. -/
def matchAt (l : InlineLink) (start : Nat) : Match :=
  ⟨start, l.source, ⟨l.source.length, l.text, l.target⟩⟩

theorem standard_source_append (l : InlineLink) (tail : List Char) :
    standard (l.source ++ tail) = some ⟨l.source.length, l.text, l.target⟩ := by
  have hread : standardTarget? (l.target ++ ')' :: tail) = some l.target := by
    apply standardTarget?_eq_some.2
    exact ⟨l.isTarget, tail, rfl⟩
  have hsplit : l.source ++ tail = '[' :: (l.text ++ ']' :: '(' :: (l.target ++ ')' :: tail)) := by
    simp [source]
  have hlength : l.source.length = l.text.length + l.target.length + 4 := by
    simp only [source, List.length_cons, List.length_append, List.length_nil]
    omega
  rw [hsplit, standard_eq, inlineWith_of_open l.closed, hread, hlength]
  rfl

end InlineLink

/-- A target has no blanks at its ends. -/
theorem IsStandardTarget.trim_eq {target : List Char} (h : IsStandardTarget target) :
    trim target = target := by
  have hblank : ∀ {c : Char}, isTargetChar c = true → isBlank c = false := by
    intro c hc
    simp only [isTargetChar, Bool.not_eq_true', Bool.or_eq_false_iff] at hc
    exact hc.2
  -- Neither the first character nor the last one is a blank.
  have hends : (∀ c ∈ target.head?, isBlank c = false) ∧
      ∀ c ∈ target.reverse.head?, isBlank c = false := by
    rcases h with ⟨-, hall⟩ | ⟨first, group, last, rfl, hne, hfirst, -, hlast⟩
    · constructor
      · intro c hc
        exact hblank (hall c (List.mem_of_mem_head? hc))
      · intro c hc
        exact hblank (hall c (List.mem_reverse.1 (List.mem_of_mem_head? hc)))
    · constructor
      · intro c hc
        rcases first with _ | ⟨d, first⟩
        · exact absurd rfl hne
        · cases hc
          exact hblank (hfirst _ (List.mem_cons_self ..))
      · intro c hc
        rw [List.reverse_append, List.reverse_cons] at hc
        rcases hlast' : last.reverse with _ | ⟨d, more⟩
        · rw [hlast'] at hc
          cases hc
          decide
        · rw [hlast'] at hc
          cases hc
          apply hblank
          apply hlast
          rw [← List.mem_reverse, hlast']
          exact List.mem_cons_self ..
  simp only [List.head?_reverse] at hends
  exact trim_eq_iff.2 hends

/-- **A match makes the record of its link**, unless the link leads out of the project. -/
theorem InlineLink.link?_matchAt (l : InlineLink) (n start : Nat) :
    (l.matchAt start).link? n = if l.staysInside then some (l.linkAt n (start + 1)) else none := by
  unfold Match.link? Link.ofTarget? matchAt staysInside
  simp only [l.isTarget.trim_eq]
  have hkind : Target.kind? (Target.clean l.target)
      = if !Target.isExternal (Target.clean l.target) then some l.kind else none := by
    unfold Target.kind? InlineLink.kind
    by_cases hexternal : Target.isExternal (Target.clean l.target)
    · simp [hexternal]
    · simp only [hexternal, Bool.not_false, if_true, Bool.false_eq_true, if_false]
      split
      · rfl
      · split <;> rfl
  rw [hkind]
  by_cases hexternal : Target.isExternal (Target.clean l.target)
  · simp [hexternal]
  · simp only [hexternal, Bool.not_false, if_true, Option.map_some]
    rfl

/-! ## Lines -/

/-- The text of a line: what precedes its links, and each link with what follows it. -/
def render (lead : List Char) : List (InlineLink × List Char) → List Char
  | [] => lead
  | (l, sep) :: items => lead ++ (l.source ++ render sep items)

/-- The links of a line with the number of characters before each; `start` characters precede the
first. -/
def placedFrom (start : Nat) : List (InlineLink × List Char) → List (Nat × InlineLink)
  | [] => []
  | (l, sep) :: items => (start, l) :: placedFrom (start + l.source.length + sep.length) items

/-- **A line of links** that is no fence. Its brackets open in its links only, and it holds neither
quotes nor angle brackets. -/
structure LinkLine where
  lead : List Char
  items : List (InlineLink × List Char)
  lead_closed : '[' ∉ lead
  items_closed : ∀ item ∈ items, '[' ∉ item.2
  unmarked : Unmarked (render lead items)
  oneLine : '\n' ∉ render lead items
  visible : isFence (render lead items) = false

/-- A link stands behind the characters that are counted for it. -/
theorem source_prefix_of_mem_placedFrom {before lead : List Char} {items : List (InlineLink × List Char)}
    {start : Nat} {l : InlineLink} (h : (start, l) ∈ placedFrom (before.length + lead.length) items) :
    l.source <+: (before ++ render lead items).drop start := by
  induction items generalizing before lead with
  | nil => cases h
  | cons item items ih =>
    obtain ⟨l', sep⟩ := item
    rcases List.mem_cons.1 h with heq | h
    · cases heq
      rw [render, ← List.append_assoc, ← List.length_append, List.drop_left]
      exact List.prefix_append ..
    · -- What precedes the next link ends with this one.
      have hlength : before.length + lead.length + l'.source.length
          = (before ++ lead ++ l'.source).length := by simp only [List.length_append]
      have hsplit : before ++ render lead ((l', sep) :: items)
          = (before ++ lead ++ l'.source) ++ render sep items := by
        simp only [render, List.append_assoc]
      rw [hsplit]
      apply ih
      rw [← hlength]
      exact h

namespace LinkLine

/-- The text of a line. -/
def text (line : LinkLine) : List Char := render line.lead line.items

/-- The links of a line, each with the number of characters before it. -/
def placed (line : LinkLine) : List (Nat × InlineLink) := placedFrom line.lead.length line.items

/-- **A link is written where it is placed.** -/
theorem source_prefix_of_mem_placed {line : LinkLine} {start : Nat} {l : InlineLink}
    (h : (start, l) ∈ line.placed) : l.source <+: line.text.drop start := by
  have hplaced : (start, l) ∈ placedFrom (([] : List Char).length + line.lead.length) line.items := by
    rw [List.length_nil, Nat.zero_add]
    exact h
  exact source_prefix_of_mem_placedFrom hplaced

end LinkLine

example : ∃ line : LinkLine, line.text = "See [a](b_(c d).md#e).".toList :=
  ⟨⟨"See ".toList, [(⟨"a".toList, "b_(c d).md#e".toList, by decide,
      .inr ⟨"b_".toList, "c d".toList, ".md#e".toList, rfl, by decide, List.all_eq_true.1 (by decide),
        List.all_eq_true.1 (by decide), List.all_eq_true.1 (by decide)⟩⟩, ".".toList)],
    by decide, by decide, by decide, by decide, by decide⟩, by decide⟩

/-! ## Reading a line -/

/-- A scan goes on behind what it recognises. -/
theorem scan_append_of_some {recognise : List Char → Option Found} {a cs : List Char} {f : Found}
    (h : recognise (a ++ cs) = some f) (hne : a ≠ []) (hlength : f.length = a.length) (start : Nat) :
    scan recognise start (a ++ cs) = ⟨start, a, f⟩ :: scan recognise (start + a.length) cs := by
  rcases a with _ | ⟨c, a⟩
  · exact absurd rfl hne
  · have hbehind : start + 1 + (f.length - 1) = start + (c :: a).length := by
      rw [hlength, List.length_cons]
      omega
    have hdrop : (a ++ cs).drop (f.length - 1) = cs := by
      rw [hlength, List.length_cons]
      exact List.drop_left ..
    rw [List.cons_append] at h ⊢
    rw [scan_of_some h, hbehind, hdrop, ← List.cons_append, hlength, List.take_left]

/-- A text in which no bracket opens holds no inline link. -/
theorem scan_inline_append {read : List Char → Option (List Char)} {overhead : Nat} {lead : List Char}
    (h : '[' ∉ lead) (cs : List Char) (start : Nat) :
    scan (inlineWith read overhead) start (lead ++ cs)
      = scan (inlineWith read overhead) (start + lead.length) cs := by
  induction lead generalizing start with
  | nil => rfl
  | cons c lead ih =>
    rw [List.mem_cons, not_or] at h
    have hnone : inlineWith read overhead (c :: (lead ++ cs)) = none :=
      inlineWith_of_ne (Ne.symm h.1) (lead ++ cs)
    rw [List.cons_append, scan_of_none hnone, ih h.2, List.length_cons]
    congr 1
    omega

/-- **The inline links of a line** are those that were written on it. -/
theorem scan_standard_render {lead : List Char} {items : List (InlineLink × List Char)}
    (hlead : '[' ∉ lead) (hitems : ∀ item ∈ items, '[' ∉ item.2) (start : Nat) :
    scan standard start (render lead items)
      = (placedFrom (start + lead.length) items).map fun (s, l) => l.matchAt s := by
  -- What follows a link is read like a line of its own.
  induction items generalizing lead start with
  | nil =>
    have hskip : scan standard start (lead ++ []) = scan standard (start + lead.length) [] :=
      scan_inline_append hlead [] start
    rw [List.append_nil, scan_nil] at hskip
    exact hskip
  | cons item items ih =>
    obtain ⟨l, sep⟩ := item
    have hsep : '[' ∉ sep := hitems _ (List.mem_cons_self ..)
    have hne : l.source ≠ [] := List.cons_ne_nil _ _
    rw [render, standard_eq, scan_inline_append hlead, ← standard_eq,
      scan_append_of_some (l.standard_source_append _) hne rfl,
      ih hsep fun item hmem => hitems item (List.mem_cons_of_mem _ hmem)]
    rfl

section Unmarked

variable {cs : List Char}

theorem Unmarked.not_mem (h : Unmarked cs) {c : Char} (hc : isMark c = true) : c ∉ cs := by
  intro hmem
  rw [h c hmem] at hc
  cases hc

theorem Unmarked.of_suffix (h : Unmarked cs) {rest : List Char} (hrest : rest <:+ cs) : Unmarked rest :=
  fun c hc => h c (hrest.subset hc)

theorem Unmarked.angle_eq_none (h : Unmarked cs) : angle cs = none := by
  rw [angle_eq, Option.eq_none_iff_forall_not_mem]
  intro f hf
  obtain ⟨rest, hcs, htarget, -⟩ := inlineWith_eq_some hf
  obtain ⟨-, -, more, hrest⟩ := angleTarget?_eq_some.1 htarget
  apply h.not_mem (c := '<') (by decide)
  rw [hcs, hrest]
  simp

theorem Unmarked.htmlAnchor_eq_none (h : Unmarked cs) : htmlAnchor cs = none := by
  rw [Option.eq_none_iff_forall_not_mem]
  intro f hf
  obtain ⟨w, blanks, rest, _, hcs, hw, -⟩ := htmlAnchor_eq_some.1 hf
  obtain ⟨d, w, rfl, hd, -⟩ := List.map_eq_cons_iff.1 hw
  apply h.not_mem (c := '<') (by decide)
  rw [hcs, eq_angle_of_toLower hd]
  exact List.mem_cons_self ..

theorem Unmarked.dataRef_eq_none (h : Unmarked cs) : dataRef cs = none := by
  rw [Option.eq_none_iff_forall_not_mem]
  intro f hf
  obtain ⟨⟨value, after⟩, hattribute, -⟩ := Option.map_eq_some_iff.1 hf
  obtain ⟨w, q, q', hcs, -, hq, -⟩ := attribute?_eq_some.1 hattribute
  apply h.not_mem (c := q)
  · simp [isMark, hq]
  · rw [hcs]
    simp

end Unmarked

/-- **The matches of a line of links** are those of its links. -/
theorem matchesOf_text (line : LinkLine) :
    matchesOf line.text = line.placed.map fun (start, l) => l.matchAt start := by
  have hnone : ∀ {r : List Char → Option Found}, (∀ {cs}, Unmarked cs → r cs = none) →
      scan r 0 line.text = [] := by
    intro r hr
    apply scan_eq_nil
    intro rest hrest
    exact hr (line.unmarked.of_suffix hrest)
  have hstandard := scan_standard_render line.lead_closed line.items_closed 0
  rw [Nat.zero_add] at hstandard
  unfold matchesOf spellings
  simp only [List.flatMap_cons, List.flatMap_nil, List.append_nil]
  rw [hnone Unmarked.angle_eq_none, hnone Unmarked.htmlAnchor_eq_none, hnone Unmarked.dataRef_eq_none,
    List.nil_append, List.append_nil, List.append_nil]
  exact hstandard

/-! ## Reading a document -/

/-- The links of a line of links. -/
theorem lineLinks_text (n : Nat) (line : LinkLine) :
    lineLinks (n, line.text)
      = (line.placed.filter (·.2.staysInside)).map fun (start, l) => l.linkAt n (start + 1) := by
  unfold lineLinks
  simp only
  rw [matchesOf_text, List.filterMap_map, ← List.filterMap_eq_filter, List.map_filterMap]
  apply List.filterMap_congr
  rintro ⟨start, l⟩ -
  show (l.matchAt start).link? n = _
  rw [l.link?_matchAt]
  by_cases hstays : l.staysInside
  · simp [Option.guard, hstays]
  · simp [Option.guard, hstays]

theorem numberFrom_map {α β : Type} (f : α → β) (n : Nat) (as : List α) :
    numberFrom n (as.map f) = (numberFrom n as).map (Prod.map id f) := by
  induction as generalizing n with
  | nil => rfl
  | cons a as ih =>
    rw [List.map_cons, numberFrom, ih]
    rfl

/-- Without a fence every line is visible. -/
theorem visibleLines_of_noFence {lines : List (List Char)} (h : ∀ line ∈ lines, isFence line = false) :
    visibleLines lines = numberFrom 1 lines := by
  unfold visibleLines codeMarks
  generalize 1 = n
  induction lines generalizing n with
  | nil => rfl
  | cons line lines ih =>
    have hline := h line (List.mem_cons_self ..)
    have hlines := ih (fun l hl => h l (List.mem_cons_of_mem _ hl)) (n + 1)
    rw [numberFrom, codeMarksFrom, hline, if_neg Bool.false_ne_true, List.zip_cons_cons,
      List.filterMap_cons, hlines]
    rfl

/-- **The links of a document of such lines** are the links that were written: each link that stays
inside the project is read once, in the order of the document, with its line and column. -/
theorem links_ofLines (path : String) (ls : List LinkLine) :
    (parseLinks path (ofLines (ls.map LinkLine.text))).links =
      (numberFrom 1 ls).flatMap fun (n, line) =>
        (line.placed.filter (·.2.staysInside)).map fun (start, l) => l.linkAt n (start + 1) := by
  show links (ofLines (ls.map LinkLine.text)) = _
  rcases ls with _ | ⟨line, ls⟩
  · decide +kernel
  · have hlines : linesOf (ofLines ((line :: ls).map LinkLine.text)) = (line :: ls).map LinkLine.text := by
      apply linesOf_ofLines
      · intro text htext
        obtain ⟨line, -, rfl⟩ := List.mem_map.1 htext
        exact line.oneLine
      · exact List.cons_ne_nil _ _
    have hvisible : ∀ text ∈ (line :: ls).map LinkLine.text, isFence text = false := by
      intro text htext
      obtain ⟨line, -, rfl⟩ := List.mem_map.1 htext
      exact line.visible
    unfold links
    rw [hlines, visibleLines_of_noFence hvisible, numberFrom_map, List.flatMap_map]
    apply List.flatMap_congr
    rintro ⟨n, line⟩ -
    exact lineLinks_text n line

end DocLinks.Markdown
