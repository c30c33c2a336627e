import DocLinks.Target
import DocLinks.Markdown.Fence
import DocLinks.Markdown.Inline
import DocLinks.Markdown.Slug

/-!
# Documents

Reading the links and the headings of a Markdown document. Lines in fenced code are not looked at.

## Contents
- `links`: the links that stay inside the project, in line order, and within a line in the order of
  `matchesOf`.
- `headings`: the headings that are marked by number signs. A heading that ends in `{#id}` names its
  own id; any other has the slug of its text.
-/

namespace DocLinks.Markdown

open Text

/-- The link that a match makes, if it stays inside the project. -/
def Match.link? (line : Nat) (m : Match) : Option Link :=
  Link.ofTarget? m.raw m.found.text (Target.clean (trim m.found.target)) line (m.start + 1)

/-- The links of a line. -/
def lineLinks (numbered : Nat × List Char) : List Link :=
  (matchesOf numbered.2).filterMap (Match.link? numbered.1)

/-- The links of a document. -/
def links (content : String) : List Link :=
  (visibleLines (linesOf content)).flatMap lineLinks

/-- The links of a document, under its path. -/
def parseLinks (filePath content : String) : FileLinks := ⟨filePath, links content⟩

/-- The id at the head of `{#id}`, if only blanks follow. -/
def idAt? : List Char → Option (List Char)
  | '{' :: '#' :: rest =>
    let id := rest.takeWhile (· != '}')
    match rest.dropWhile (· != '}') with
    | _ :: after => if !id.isEmpty && after.all isBlank then some id else none
    | [] => none
  | _ => none

/-- The first `{#id}` that ends a heading text, with what precedes it. -/
def splitId? : List Char → Option (List Char × List Char)
  | [] => none
  | c :: cs =>
    match idAt? (c :: cs) with
    | some id => some ([], id)
    | none => (splitId? cs).map fun (before, id) => (c :: before, id)

/-- The level and the text of a heading line: one to six number signs, then blanks, then at least
one character, which may be a blank itself. -/
def headingParts? (line : List Char) : Option (Nat × List Char) :=
  let level := (line.takeWhile (· == '#')).length
  match line.dropWhile (· == '#') with
  | c :: d :: rest =>
    if 1 ≤ level ∧ level ≤ 6 ∧ isBlank c then some (level, trim (c :: d :: rest)) else none
  | _ => none

/-- The heading of a line, if it is one. -/
def lineHeading? (numbered : Nat × List Char) : Option Heading :=
  (headingParts? numbered.2).map fun (level, text) =>
    match splitId? text with
    | some (before, id) => ⟨.ofList (trim before), .ofList id, level, numbered.1⟩
    | none => ⟨.ofList text, .ofList (slug text), level, numbered.1⟩

/-- The headings of a document. -/
def headings (content : String) : List Heading :=
  (visibleLines (linesOf content)).filterMap lineHeading?

/-- The headings of a document, under its path. -/
def parseHeadings (filePath content : String) : FileHeadings := ⟨filePath, headings content⟩

end DocLinks.Markdown
