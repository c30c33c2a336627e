import DocLinks.Proofs.Markdown.Rendering

/-!
# Headings that are written and read again

A heading is written as number signs, a space and its text, with the id that it names behind it, if it
names one. Between the headings stand other lines, which are neither fences nor begin with a number
sign. Reading the document finds the headings that were written, and nothing else
(`parseHeadings_ofLines`).

The text of a heading may hold number signs, braces and blanks inside, and so may an id, except for the
brace that closes it. Only the opening of an id must not occur in a text: the first place where it does
is where the id is read.

## Contents
- `HeadingLine`, `OtherLine`, `DocumentLine`: what is written on a line, and the record of a heading.
- `splitId?_of_noMark`, `splitId?_append_mark`: the id behind a text.
- `lineHeading?_source`: a heading line that is read.
- `pairwise_headings`, `parseHeadings_ofLines`: the headings of a document.
-/

namespace DocLinks.Markdown

open Text

/-! ## Lines to be written -/

/-- **A heading to be written.** Its text has no blanks at its ends and does not open an id. -/
structure HeadingLine where
  level : Nat
  text : List Char
  /-- The id that the heading names itself. -/
  id? : Option (List Char)
  level_pos : 1 ≤ level
  level_le : level ≤ 6
  text_ne_nil : text ≠ []
  trimmed : trim text = text
  oneLine : '\n' ∉ text
  noMark : ¬['{', '#'] <:+: text
  id_ne_nil : ∀ id ∈ id?, id ≠ []
  id_closed : ∀ id ∈ id?, '}' ∉ id
  id_oneLine : ∀ id ∈ id?, '\n' ∉ id

/-- A line between the headings. -/
structure OtherLine where
  text : List Char
  oneLine : '\n' ∉ text
  visible : isFence text = false
  noSign : text.head? ≠ some '#'

/-- The mark of an id at the end of a heading line. -/
def idMark (id : List Char) : List Char := '{' :: '#' :: (id ++ ['}'])

namespace HeadingLine

/-- What is written behind the number signs and the space. -/
def title (h : HeadingLine) : List Char :=
  match h.id? with
  | none => h.text
  | some id => h.text ++ ' ' :: idMark id

/-- The source text of a heading. -/
def source (h : HeadingLine) : List Char := List.replicate h.level '#' ++ ' ' :: h.title

/-- The id of a heading: the one that it names, or the slug of its text. -/
def anchorId (h : HeadingLine) : String :=
  match h.id? with
  | none => slugify (.ofList h.text)
  | some id => .ofList id

/-- The record of a heading that is written on a line. -/
def headingAt (h : HeadingLine) (line : Nat) : Heading := ⟨.ofList h.text, h.anchorId, h.level, line⟩

end HeadingLine

/-- A line of a document. -/
inductive DocumentLine
  | heading (h : HeadingLine)
  | other (l : OtherLine)

namespace DocumentLine

/-- The source text of a line. -/
def source : DocumentLine → List Char
  | heading h => h.source
  | other l => l.text

/-- The record of the heading on a line, if it is one. -/
def headingAt? (n : Nat) : DocumentLine → Option Heading
  | heading h => some (h.headingAt n)
  | other _ => none

end DocumentLine

example : ∃ h : HeadingLine, h.source = "## a # \x7bb\x7d  c \x7b#d \x7b#e\x7d".toList :=
  ⟨⟨2, "a # \x7bb\x7d  c".toList, some "d \x7b#e".toList, by decide, by decide, by decide, by decide,
    by decide, by decide, by simp, by simp, by simp⟩, by decide⟩

/-! ## The id behind a text -/

section Ids

variable {cs id : List Char}

/-- A text that does not begin with the opening of an id begins with no id. -/
theorem idAt?_of_noOpening (h : ¬['{', '#'] <+: cs) : idAt? cs = none := by
  unfold idAt?
  split
  · rename_i rest
    exact absurd (List.prefix_append ['{', '#'] rest) h
  · rfl

theorem idAt?_idMark (hne : id ≠ []) (hclosed : '}' ∉ id) : idAt? (idMark id) = some id := by
  have hid : ∀ c ∈ id, (c != '}') = true := by
    intro c hc
    simp only [bne_iff_ne, ne_eq]
    rintro rfl
    exact hclosed hc
  have htake : (id ++ ['}']).takeWhile (· != '}') = id := takeWhile_append_cons hid (by decide) []
  have hdrop : (id ++ ['}']).dropWhile (· != '}') = ['}'] := dropWhile_append_cons hid (by decide) []
  unfold idMark idAt?
  simp only [htake, hdrop]
  simp [hne]

/-- **A text without the opening of an id** is a text without an id. -/
theorem splitId?_of_noMark (h : ¬['{', '#'] <:+: cs) : splitId? cs = none := by
  induction cs with
  | nil => rfl
  | cons c cs ih =>
    rw [List.infix_cons_iff, not_or] at h
    unfold splitId?
    rw [idAt?_of_noOpening h.1, ih h.2]
    rfl

/-- **The id that is written behind a text** is the one that is read, and the text and the blank are what
precedes it. -/
theorem splitId?_append_mark (h : ¬['{', '#'] <:+: cs) (hne : id ≠ []) (hclosed : '}' ∉ id) :
    splitId? (cs ++ ' ' :: idMark id) = some (cs ++ [' '], id) := by
  induction cs with
  | nil =>
    have hblank : idAt? (' ' :: idMark id) = none := rfl
    have hmark : splitId? (idMark id) = some ([], id) := by
      have hid := idAt?_idMark hne hclosed
      unfold idMark at hid ⊢
      rw [splitId?, hid]
    rw [List.nil_append, splitId?, hblank, hmark]
    rfl
  | cons c cs ih =>
    rw [List.infix_cons_iff, not_or] at h
    -- The last character of the text opens no id with the blank behind it.
    have hopens : ¬['{', '#'] <+: c :: (cs ++ ' ' :: idMark id) := by
      intro hopens
      obtain ⟨rfl, hrest⟩ := List.cons_prefix_cons.1 hopens
      rcases cs with _ | ⟨d, cs⟩
      · exact absurd (List.cons_prefix_cons.1 hrest).1 (by decide)
      · obtain ⟨rfl, -⟩ := List.cons_prefix_cons.1 hrest
        exact h.1 (List.prefix_append ['{', '#'] cs)
    rw [List.cons_append, splitId?, idAt?_of_noOpening hopens, ih h.2]
    rfl

end Ids

/-! ## Reading a line -/

/-- The number signs and the text of a heading line. -/
theorem headingParts?_append {level : Nat} {cs : List Char} (hpos : 1 ≤ level) (hle : level ≤ 6)
    (hne : cs ≠ []) (htrim : trim cs = cs) :
    headingParts? (List.replicate level '#' ++ ' ' :: cs) = some (level, cs) := by
  have hsigns : ∀ c ∈ List.replicate level '#', (c == '#') = true := by
    intro c hc
    rw [(List.mem_replicate.1 hc).2]
    rfl
  obtain ⟨d, rest, rfl⟩ := List.exists_cons_of_ne_nil hne
  have hblank : trim (' ' :: d :: rest) = d :: rest := htrim
  unfold headingParts?
  rw [takeWhile_append_cons hsigns (by decide), dropWhile_append_cons hsigns (by decide)]
  simp only [List.length_replicate]
  rw [if_pos ⟨hpos, hle, by decide⟩, hblank]

namespace HeadingLine

variable (h : HeadingLine)

theorem title_ne_nil : h.title ≠ [] := by
  unfold title
  split
  · exact h.text_ne_nil
  · exact List.append_ne_nil_of_left_ne_nil h.text_ne_nil _

theorem trim_title : trim h.title = h.title := by
  unfold title
  split
  · exact h.trimmed
  · rename_i id hid
    obtain ⟨hhead, -⟩ := trim_eq_iff.1 h.trimmed
    refine trim_eq_iff.2 ⟨?_, ?_⟩
    · rwa [List.head?_append_of_ne_nil _ h.text_ne_nil]
    · have hlast : (h.text ++ ' ' :: idMark id).getLast? = some '}' := by
        unfold idMark
        simp [List.getLast?_append, List.getLast?_cons]
      rw [hlast]
      rintro c ⟨⟩
      decide

/-- **A heading line is read as the heading that was written.** -/
theorem lineHeading?_source (n : Nat) : lineHeading? (n, h.source) = some (h.headingAt n) := by
  have hparts : headingParts? h.source = some (h.level, h.title) :=
    headingParts?_append h.level_pos h.level_le h.title_ne_nil h.trim_title
  unfold lineHeading? headingAt anchorId
  simp only [hparts, Option.map_some]
  rcases hid : h.id? with _ | id
  · have htitle : h.title = h.text := by simp only [title, hid]
    rw [htitle, splitId?_of_noMark h.noMark]
    simp [slugify]
  · have htitle : h.title = h.text ++ ' ' :: idMark id := by simp only [title, hid]
    rw [htitle, splitId?_append_mark h.noMark (h.id_ne_nil id hid) (h.id_closed id hid)]
    have hbefore : trim (h.text ++ [' ']) = h.text := by
      rw [trim_append_of_blank (List.forall_mem_singleton.2 (by decide)), h.trimmed]
    simp only [hbefore]

theorem newline_not_mem_source : '\n' ∉ h.source := by
  have htitle : '\n' ∉ h.title := by
    unfold title
    split
    · exact h.oneLine
    · rename_i id hid
      simp [idMark, h.oneLine, h.id_oneLine id hid]
  simp [source, htitle]

/-- A number sign opens no code. -/
theorem isFence_source : isFence h.source = false := by
  obtain ⟨more, hmore⟩ : ∃ more, h.source = '#' :: more := by
    obtain ⟨k, hk⟩ := Nat.exists_eq_add_of_le' h.level_pos
    exact ⟨_, by rw [source, hk, List.replicate_succ, List.cons_append]⟩
  rw [hmore, isFence, trim_cons_of_not_blank (by decide)]
  rfl

end HeadingLine

/-- A heading has the number of its line. -/
theorem line_of_lineHeading? {numbered : Nat × List Char} {h : Heading}
    (hread : lineHeading? numbered = some h) : h.line = numbered.1 := by
  obtain ⟨⟨level, text⟩, -, rfl⟩ := Option.map_eq_some_iff.1 hread
  simp only
  split <;> rfl

theorem lineHeading?_of_noSign {line : List Char} (h : line.head? ≠ some '#') (n : Nat) :
    lineHeading? (n, line) = none := by
  have hlevel : line.takeWhile (· == '#') = [] := by
    rcases line with _ | ⟨c, cs⟩
    · rfl
    · have hc : (c == '#') = false := by simpa using h
      exact List.takeWhile_cons_of_neg (by simp [hc])
  have hparts : headingParts? line = none := by
    unfold headingParts?
    simp only [hlevel, List.length_nil]
    split <;> rfl
  unfold lineHeading?
  rw [hparts]
  rfl

namespace DocumentLine

variable (line : DocumentLine)

theorem newline_not_mem_source : '\n' ∉ line.source := by
  cases line with
  | heading h => exact h.newline_not_mem_source
  | other l => exact l.oneLine

theorem isFence_source : isFence line.source = false := by
  cases line with
  | heading h => exact h.isFence_source
  | other l => exact l.visible

theorem lineHeading?_source (n : Nat) : lineHeading? (n, line.source) = line.headingAt? n := by
  cases line with
  | heading h => exact h.lineHeading?_source n
  | other l => exact lineHeading?_of_noSign l.noSign n

end DocumentLine

/-! ## Reading a document -/

/-- The headings of a document stand one below the other. -/
theorem pairwise_headings (content : String) :
    (headings content).Pairwise fun g h => g.line < h.line := by
  unfold headings
  apply (pairwise_visibleLines _).filterMap
  intro a b hlines g hg h hh
  rw [line_of_lineHeading? hg, line_of_lineHeading? hh]
  exact hlines

/-- **The headings of a document of such lines** are the headings that were written: each is read once,
in the order of the document, with its text, its id, its level and its line. -/
theorem parseHeadings_ofLines (path : String) (ls : List DocumentLine) :
    parseHeadings path (ofLines (ls.map DocumentLine.source))
      = ⟨path, (numberFrom 1 ls).filterMap fun (n, line) => line.headingAt? n⟩ := by
  have hread : headings (ofLines (ls.map DocumentLine.source))
      = (numberFrom 1 ls).filterMap fun (n, line) => line.headingAt? n := by
    rcases ls with _ | ⟨line, ls⟩
    · decide +kernel
    · have hlines : linesOf (ofLines ((line :: ls).map DocumentLine.source))
          = (line :: ls).map DocumentLine.source := by
        apply linesOf_ofLines
        · intro text htext
          obtain ⟨line, -, rfl⟩ := List.mem_map.1 htext
          exact line.newline_not_mem_source
        · exact List.cons_ne_nil _ _
      have hvisible : ∀ text ∈ (line :: ls).map DocumentLine.source, isFence text = false := by
        intro text htext
        obtain ⟨line, -, rfl⟩ := List.mem_map.1 htext
        exact line.isFence_source
      unfold headings
      rw [hlines, visibleLines_of_noFence hvisible, numberFrom_map, List.filterMap_map]
      apply List.filterMap_congr
      rintro ⟨n, line⟩ -
      exact line.lineHeading?_source n
  rw [parseHeadings, hread]

end DocLinks.Markdown
