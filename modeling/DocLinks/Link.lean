import DocLinks.Text.Ends

/-!
# Links and headings

The records that reading a document produces: the links that can be followed inside the project,
and the headings that links with an anchor can name.
-/

namespace DocLinks

/-- What a link points at, decided when it is read. -/
inductive LinkKind where
  | internal
  | external
  | anchorOnly
  | asset
  deriving DecidableEq, Repr, Inhabited

/-- The word for a kind of link. -/
def LinkKind.name : LinkKind → String
  | .internal => "internal"
  | .external => "external"
  | .anchorOnly => "anchor-only"
  | .asset => "asset"

/-- A link of a document. `raw` is its source text, which starts at `column` of `line`, both counted
from one; `targetPath` is its cleaned target up to the first number sign, and `anchor` what follows
that sign. -/
structure Link where
  raw : String
  displayText : String
  targetPath : String
  anchor : Option String
  line : Int
  column : Int
  kind : LinkKind
  deriving DecidableEq, Repr, Inhabited

/-- The anchor if the link names one; an empty anchor names nothing. -/
def Link.anchor? (l : Link) : Option String := l.anchor.filter (· ≠ "")

/-- The target with its anchor, as it is written in a document. -/
def Link.withAnchor (l : Link) (path : String) : String :=
  match l.anchor? with
  | some a => path ++ "#" ++ a
  | none => path

/-- The links of one document, in the order in which they are read. -/
structure FileLinks where
  filePath : String
  links : List Link
  deriving DecidableEq, Repr, Inhabited

/-- A heading, with the anchor id that links name it by. -/
structure Heading where
  text : String
  id : String
  level : Nat
  line : Nat
  deriving DecidableEq, Repr, Inhabited

/-- The headings of one document, in order. -/
structure FileHeadings where
  filePath : String
  headings : List Heading
  deriving DecidableEq, Repr, Inhabited

end DocLinks
