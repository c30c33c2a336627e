import DocLinks.Similarity
import DocLinks.Validation.Link

/-!
# Checking anchors

An anchor is valid if a heading of the target document has its id, letter case aside. For an anchor
that is not, up to three similar ids are suggested.

## Contents
- `similarAnchors`: the ids that are more than half alike, the best first, in document order among
  equals.
- `checkAnchor`: the verdict, given the headings.
- `validateAnchor`, `validateAllAnchors`: the same with the headings of the context.
-/

namespace DocLinks

open Text

/-- The verdict on an anchor. -/
structure AnchorCheck where
  sourceFile : String
  link : Option Link
  valid : Bool
  error : Option String
  suggestions : List String
  deriving DecidableEq, Repr, Inhabited

/-- The most ids that are suggested. -/
def maxAnchorSuggestions : Nat := 3

/-- The ids that resemble an anchor. -/
def similarAnchors (anchor : String) (ids : List String) : List String :=
  let scored := ids.map fun id => (textSimilarity anchor.toList id.toList, id)
  let close := scored.filter (·.1.exceedsHalf)
  ((close.mergeSort fun a b => b.1.le a.1).take maxAnchorSuggestions).map Prod.snd

/-- The verdict on an anchor of a document with the given headings, or without being a file. -/
def checkAnchor (target anchor : String) (headings : Option FileHeadings) (source : String)
    (link : Option Link) : AnchorCheck :=
  match headings with
  | none => ⟨source, link, false, some ("Target file not found: " ++ target), []⟩
  | some h =>
    let ids := h.headings.map (·.id)
    if ids.any fun id => lowercase id = lowercase anchor then ⟨source, link, true, none, []⟩
    else
      ⟨source, link, false, some ("Anchor not found: #" ++ anchor ++ " in " ++ target),
        similarAnchors (lowercase anchor) ids⟩

/-- Checks an anchor against the headings of a document. -/
def validateAnchor (target anchor source : String) (link : Option Link) :
    Work Context AnchorCheck := do
  let h ← headingsOf target
  return checkAnchor target anchor h source link

/-- The document and the anchor that a verdict asks to be checked: those of a valid link that names
an anchor. -/
def anchorOf? (r : ValidationResult) : Option (String × String) :=
  match r with
  | .valid _ link resolved =>
    if resolved = "" then none else link.anchor?.map fun a => (resolved, a)
  | _ => none

/-- Checks the anchors of the valid links, one after the other. -/
def validateAllAnchors : List ValidationResult → Work Context (List AnchorCheck)
  | [] => return []
  | r :: rs =>
    match anchorOf? r with
    | none => validateAllAnchors rs
    | some (target, anchor) => do
      let check ← validateAnchor target anchor r.sourceFile (some r.link)
      if !check.valid then
        Work.report
          { level := .debug
            logger := loggerOf "validators.anchors"
            message := r.sourceFile ++ ":" ++ toString r.link.line ++ " " ++ check.error.getD ""
            context :=
              { filePath := some r.sourceFile
                lineNumber := some r.link.line
                errorCode := some "ANC-01" } }
      return check :: (← validateAllAnchors rs)

/-- The anchors that a document offers. -/
def availableAnchors (path : String) : Work Context (List String) := do
  match ← headingsOf path with
  | none => return []
  | some h => return h.headings.map (·.id)

end DocLinks
