import DocLinks.Project.Resolve
import DocLinks.Fix.Suggestion

/-!
# Replacing a link in a line

A link is found in a line by its target, between `](` and `)`. Angle brackets around the target may
be there or not, each on its own.

## Contents
- `occurrence?`: the link at the head of a text.
- `replaceOccurrences`: every occurrence replaced, from left to right.
- `replaceLink`: the line with the link replaced, if it holds the link.
- `newTarget?`, `FixPreview`: what a suggestion makes of a link.
-/

namespace DocLinks

open Text

/-- What follows a word at the head of a text. -/
def dropWord? : List Char → List Char → Option (List Char)
  | [], cs => some cs
  | _ :: _, [] => none
  | w :: word, c :: cs => if w = c then dropWord? word cs else none

/-- What follows a target and the end of its link. -/
def closing? (target cs : List Char) : Option (List Char) :=
  match dropWord? target cs with
  | some ('>' :: ')' :: rest) => some rest
  | some (')' :: rest) => some rest
  | _ => none

/-- What follows a link to a target at the head of a text. An opening angle bracket is taken for a
bracket if the text can be read so, and else for the start of the target. -/
def occurrence? (target : List Char) : List Char → Option (List Char)
  | ']' :: '(' :: '<' :: rest =>
    match closing? target rest with
    | some after => some after
    | none => closing? target ('<' :: rest)
  | ']' :: '(' :: rest => closing? target rest
  | _ => none

/-- The text with every occurrence of a link to a target replaced, and whether there is one. At most
`fuel` characters are looked at. -/
def replaceOccurrencesUpTo (target replacement : List Char) : Nat → List Char → List Char × Bool
  | 0, cs => (cs, false)
  | _, [] => ([], false)
  | fuel + 1, c :: cs =>
    match occurrence? target (c :: cs) with
    | some rest =>
      (replacement ++ (replaceOccurrencesUpTo target replacement fuel rest).1, true)
    | none =>
      let (rest, found) := replaceOccurrencesUpTo target replacement fuel cs
      (c :: rest, found)

/-- The text with every occurrence of a link to a target replaced, and whether there is one. -/
def replaceOccurrences (target replacement cs : List Char) : List Char × Bool :=
  replaceOccurrencesUpTo target replacement cs.length cs

/-- The target of a link as it is written in a document. -/
def Link.writtenTarget (l : Link) : List Char := (l.withAnchor l.targetPath).toList

/-- The line with a link replaced, or nothing if the link is not there. -/
def replaceLink (line : List Char) (l : Link) (newTarget : List Char) : Option (List Char) :=
  match replaceOccurrences l.writtenTarget (']' :: '(' :: newTarget ++ [')']) line with
  | (updated, true) => some updated
  | (_, false) => none

/-- The target that a suggestion gives to a broken link: the way to the suggested path, and the
anchor of the link. -/
def newTarget? (cwd : List String) (b : BrokenLink) (s : FixSuggestion) : Option String :=
  (relativeLink? cwd b.sourceFile s.suggestedPath).map b.link.withAnchor

/-- A link before and after a fix. -/
structure FixPreview where
  oldLine : String
  newLine : String
  newRelativePath : String
  deriving DecidableEq, Repr

/-- A link as text. -/
def linkText (display target : String) : String := "[" ++ display ++ "](" ++ target ++ ")"

/-- What a suggestion would make of a broken link. -/
def previewFix (cwd : List String) (b : BrokenLink) (s : FixSuggestion) :
    Except Fault FixPreview :=
  match relativeLink? cwd b.sourceFile s.suggestedPath with
  | none => .error .emptyPath
  | some relative =>
    .ok
      { oldLine := linkText b.link.displayText (b.link.withAnchor b.link.targetPath)
        newLine := linkText b.link.displayText (b.link.withAnchor relative)
        newRelativePath := relative }

end DocLinks
