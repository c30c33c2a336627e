import DocLinks.DocPath
import DocLinks.Text.Lines

/-!
# Redirect entries

The `redirects:` block of a configuration file, read line by line so that every entry keeps its
line and its own words.

## Contents
- `isMarker`, `endsBlock`: where the block begins and ends. It begins after the first line that
  says `redirects:` and ends before the first line that starts with a visible character.
- `RedirectEntry`, `parseEntry?`: one `from: to` line, indented by two blanks.
- `parseEntries`: the entries of a text.
-/

namespace DocLinks

open Text

/-- A redirect. `rawFrom` and `rawTo` are its own words, `fromPath` and `toPath` the published
paths that they stand for. -/
structure RedirectEntry where
  fromPath : String
  toPath : String
  rawFrom : String
  rawTo : String
  line : Nat
  deriving DecidableEq, Repr, Inhabited

/-- A redirect to be recorded. -/
structure RedirectPair where
  source : String
  destination : String
  deriving DecidableEq, Repr, Inhabited

namespace Redirect

/-- The line that opens the block, blanks around it not counted. -/
def marker : List Char := "redirects:".toList

/-- A line that opens the block. -/
def isMarker (line : List Char) : Bool := trim line = marker

/-- A line that starts with a visible character. -/
def endsBlock (line : List Char) : Bool :=
  match line with
  | c :: _ => !isBlank c
  | [] => false

/-- The two sides of an entry: what stands between the two blanks of the indentation and the first
colon after them, and what follows that colon; there has to be something on both sides. -/
def parseSides? (line : List Char) : Option (List Char × List Char) :=
  match line with
  | a :: b :: rest =>
    let key := rest.takeWhile (· != ':')
    match rest.dropWhile (· != ':') with
    | _ :: value =>
      if isBlank a && isBlank b && !key.isEmpty && !value.isEmpty then some (trim key, trim value)
      else none
    | [] => none
  | _ => none

/-- The entry with the given sides. -/
def entryOf (line : Nat) (source destination : List Char) : RedirectEntry where
  fromPath := .ofList ('/' :: source)
  toPath := .ofList (DocPath.toPublished ('/' :: destination))
  rawFrom := .ofList source
  rawTo := .ofList destination
  line := line

/-- The entry of a line, if it is one. -/
def parseEntry? (numbered : Nat × List Char) : Option RedirectEntry :=
  (parseSides? numbered.2).map fun (source, destination) => entryOf numbered.1 source destination

/-- The lines of the block, given all lines. -/
def blockLines (lines : List (Nat × List Char)) : List (Nat × List Char) :=
  ((lines.dropWhile (!isMarker ·.2)).drop 1).takeWhile (!endsBlock ·.2)

/-- The entries of a configuration text. -/
def parseEntries (content : String) : List RedirectEntry :=
  (blockLines (numberFrom 1 (linesOf content))).filterMap parseEntry?

end Redirect

end DocLinks
