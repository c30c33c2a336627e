import DocLinks.Link
import DocLinks.DocPath
import DocLinks.Text.Case
import DocLinks.Text.Percent

/-!
# Link targets

## Contents
- `isExternal`, `isAnchorOnly`, `isAsset`: what a target points at.
- `clean`: a target without its percent escapes and Markdown escapes.
- `splitAnchor`: a target cut at its first number sign.
- `Link.ofTarget?`: the link that a cleaned target makes; external targets make none.
-/

namespace DocLinks.Target

open Text

/-- The beginnings of targets that lead out of the project, in lower case. -/
def externalSchemes : List (List Char) :=
  ["http:", "https:", "mailto:", "tel:", "ftp:"].map String.toList

/-- Whether a character is the given lower-case letter in some spelling: the long s is an s, and the
i with and without a dot is an i. -/
def spells (letter c : Char) : Bool :=
  c.toLower == letter || (letter == 's' && c == 'ſ') || (letter == 'i' && (c == 'İ' || c == 'ı'))

/-- Whether the text starts with the given lower-case word in some spelling. -/
def startsWord : List Char → List Char → Bool
  | [], _ => true
  | _ :: _, [] => false
  | l :: word, c :: cs => spells l c && startsWord word cs

/-- A target that leads out of the project. -/
def isExternal (t : List Char) : Bool := externalSchemes.any (startsWord · t)

/-- A target inside the document that holds the link. -/
def isAnchorOnly (t : List Char) : Bool := ['#'].isPrefixOf t

/-- The path part of a target: what precedes the first number sign. -/
def path (t : List Char) : List Char := t.takeWhile (· != '#')

/-- The anchor of a target: what follows the first number sign, if there is one. -/
def anchor? (t : List Char) : Option (List Char) :=
  match t.dropWhile (· != '#') with
  | [] => none
  | _ :: rest => some rest

/-- A target cut at its first number sign. -/
def splitAnchor (t : List Char) : List Char × Option (List Char) := (path t, anchor? t)

/-- The extensions of files that are no pages. -/
def assetExtensions : List (List Char) :=
  [".png", ".jpg", ".jpeg", ".gif", ".svg", ".webp", ".pdf", ".zip", ".tar", ".gz",
    ".mp4", ".webm", ".mov", ".mp3", ".wav", ".ogg"].map String.toList

/-- A target whose path has the extension of a picture, a recording or an archive. -/
def isAsset (t : List Char) : Bool :=
  assetExtensions.contains (lower (DocPath.extension (path t)))

/-- The characters that a backslash escapes in a target. -/
def isEscapable (c : Char) : Bool := c == '_' || c == '#' || c == ' '

/-- The text with its backslash escapes undone. -/
def unescape : List Char → List Char
  | [] => []
  | '\\' :: c :: rest => if isEscapable c then c :: unescape rest else '\\' :: unescape (c :: rest)
  | c :: rest => c :: unescape rest

/-- A target as a path is written in the file system: percent escapes are undone first, then
backslash escapes. -/
def clean (t : List Char) : List Char := unescape (Percent.decode t)

/-- What a cleaned target points at, if that lies inside the project. -/
def kind? (t : List Char) : Option LinkKind :=
  if isExternal t then none
  else if isAnchorOnly t then some .anchorOnly
  else if isAsset t then some .asset
  else some .internal

end DocLinks.Target

namespace DocLinks

/-- The link that a cleaned target makes, or nothing if it leads out of the project. -/
def Link.ofTarget? (raw text target : List Char) (line column : Int) : Option Link :=
  (Target.kind? target).map fun kind =>
    { raw := .ofList raw
      displayText := .ofList text
      targetPath := .ofList (Target.path target)
      anchor := (Target.anchor? target).map .ofList
      line, column, kind }

end DocLinks
