import DocLinks.Confidence
import DocLinks.Similarity
import DocLinks.Validation.Link

/-!
# Suggestions

What a broken link may have meant. Five strategies are asked in the order of their priority, and the
first that knows something is believed.

## Contents
- `FixSuggestion`, `Surroundings`: an answer, and what the strategies may look at.
- `redirectSuggestion`, `basenameSuggestion`, `similaritySuggestion`, `caseSuggestion`,
  `readmeSuggestion`: the strategies.
- `Strategy`, `Strategy.find`, `suggest`: the strategies by name and in order.
-/

namespace DocLinks

open Text

/-- A path that a broken link may have meant. -/
structure FixSuggestion where
  confidence : Confidence
  suggestedPath : String
  reason : String
  redirectEntry : Option RedirectEntry := none
  deriving DecidableEq, Repr, Inhabited

/-- A broken link with the suggestion that is chosen for it. -/
structure SuggestedFix where
  broken : BrokenLink
  suggestion : FixSuggestion
  deriving DecidableEq, Repr, Inhabited

/-- What a strategy may look at: the files and the redirects of a project, and its index. -/
structure Surroundings where
  tree : FileTree
  root : FilePath
  table : Option RedirectTable
  index : FileIndex

/-- The path that a broken link asks for: the resolved one if there is one, else its target. -/
def BrokenLink.probe (b : BrokenLink) : String :=
  match b.resolvedPath with
  | some p => if p = "" then b.link.targetPath else p
  | none => b.link.targetPath

/-! ## The strategies -/

/-- The redirect of a path under the given spelling, if its destination is a file. -/
def redirectFor (s : Surroundings) (table : RedirectTable) (spelling : String) :
    Option FixSuggestion :=
  match table.fromTo.get? spelling with
  | none => none
  | some destination =>
    if destination ≠ "" ∧ s.tree.hasFile s.root destination then
      some
        { confidence := .high
          suggestedPath := destination
          reason := "Redirect exists in .gitbook.yaml"
          redirectEntry := table.findEntry? spelling }
    else none

/-- The first spelling of the path that is redirected to a file. -/
def redirectSuggestion (s : Surroundings) (b : BrokenLink) : Option FixSuggestion :=
  match s.table with
  | none => none
  | some table => (RedirectTable.variants b.probe).findSome? (redirectFor s table)

/-- The indexed files with the file name that a broken link asks for. -/
def basenameMatches (s : Surroundings) (b : BrokenLink) : List String :=
  s.index.findByStem (.ofList (DocPath.stem b.probe.toList))

/-- The first of the paths that resemble a path best, with its score. -/
def bestMatch (path : String) : List String → Option (Ratio × String)
  | [] => none
  | m :: ms =>
    let score := pathSimilarity path.toList m.toList
    match bestMatch path ms with
    | none => some (score, m)
    | some (best, other) => if best.le score then some (score, m) else some (best, other)

/-- The file of the same name, if there is one only; of several the one whose path is most similar,
if more than half of it is shared. -/
def basenameSuggestion (s : Surroundings) (b : BrokenLink) : Option FixSuggestion :=
  match basenameMatches s b with
  | [] => none
  | [m] =>
    some
      { confidence := .medium
        suggestedPath := m
        reason := "File with same name found in different location" }
  | ms =>
    match bestMatch b.probe ms with
    | none => none
    | some (score, m) =>
      if score.exceedsHalf then
        some
          { confidence := .medium
            suggestedPath := m
            reason := "Similar file found (" ++ toString ms.length ++
              " candidates, best match selected)" }
      else none

/-- The greatest edit distance that is looked at. -/
def maxEditDistance : Nat := 10

/-- The greatest edit distance that is believed. -/
def maxAcceptedDistance : Nat := 5

/-- The greatest edit distance of a suggestion of medium confidence. -/
def mediumDistance : Nat := 2

/-- The greatest edit distance that is looked at for a path: three tenths of its length. -/
def distanceBound (path : String) : Nat := min maxEditDistance (3 * path.length / 10)

/-- The first of the files at the least distance from a path, with that distance; files farther away
than `bound` do not count. -/
def closest (path : List Char) (bound : Nat) : List String → Option (Nat × String)
  | [] => none
  | f :: fs =>
    let d := editDistance path (lower f.toList)
    match closest path bound fs with
    | none => if d ≤ bound then some (d, f) else none
    | some (best, other) => if d ≤ best then some (d, f) else some (best, other)

/-- The file whose path is closest, if it is close enough. -/
def similaritySuggestion (s : Surroundings) (b : BrokenLink) : Option FixSuggestion :=
  match closest (lower b.probe.toList) (distanceBound b.probe) s.index.allFiles with
  | none => none
  | some (d, f) =>
    if d ≤ maxAcceptedDistance then
      some
        { confidence := if d ≤ mediumDistance then .medium else .low
          suggestedPath := f
          reason := "Similar path found (edit distance: " ++ toString d ++ ")" }
    else none

/-- The first file whose path differs in letter case only. -/
def caseSuggestion (s : Surroundings) (b : BrokenLink) : Option FixSuggestion :=
  ((s.index.findByPath b.probe).find? (· ≠ b.probe)).map fun f =>
    { confidence := .low
      suggestedPath := f
      reason := "Case variation of path exists" }

/-- Whether a word occurs in a text. -/
def containsWord (word : List Char) : List Char → Bool
  | [] => word.isEmpty
  | c :: cs => word.isPrefixOf (c :: cs) || containsWord word cs

/-- A target that looks like a directory: it ends in a slash, or it starts with a dot and does not
mention a page. -/
def looksLikeDirectory (target : List Char) : Bool :=
  ['/'].isSuffixOf target || (['.'].isPrefixOf target && !containsWord pageExtension target)

/-- The directories beside and above a document, with what they are called. -/
def neighborDirectories : List (String × String) :=
  [("./", "current directory"), ("../", "parent directory"),
    ("../../", "grandparent directory")]

/-- The `README.md` of a directory seen from a document. -/
def neighborReadme (source : String) (relative : String) : List Char :=
  DocPath.collapse
    (DocPath.join (DocPath.join (DocPath.directory source.toList) relative.toList) readme)

/-- The `README.md` next to or above the document of a link that looks like a directory. A
suggestion that would leave the link as it is does not count. -/
def readmeSuggestion (s : Surroundings) (b : BrokenLink) : Option FixSuggestion :=
  let target := b.link.targetPath
  if looksLikeDirectory target.toList then
    neighborDirectories.findSome? fun (relative, description) =>
      let candidate := neighborReadme b.sourceFile relative
      if "..".toList.isPrefixOf candidate ∨ !s.tree.hasFile s.root (.ofList candidate) then none
      else if relative ++ "README.md" = target ∨ relative ++ "README.md" = target ++ "README.md" then
        none
      else
        some
          { confidence := .low
            suggestedPath := .ofList candidate
            reason := "README.md found in " ++ description }
  else none

/-! ## Asking them in order -/

/-- The strategies. -/
inductive Strategy where
  | redirect
  | basename
  | similarity
  | letterCase
  | readme
  deriving DecidableEq, Repr

namespace Strategy

/-- The suggestion of a strategy. -/
def find : Strategy → Surroundings → BrokenLink → Option FixSuggestion
  | redirect => redirectSuggestion
  | basename => basenameSuggestion
  | similarity => similaritySuggestion
  | letterCase => caseSuggestion
  | readme => readmeSuggestion

/-- Whether a strategy looks at the index. -/
def usesIndex : Strategy → Bool
  | basename => true
  | similarity => true
  | letterCase => true
  | _ => false

/-- All strategies, in the order of their priority. -/
def all : List Strategy := [redirect, basename, similarity, letterCase, readme]

end Strategy

/-- The best suggestion for a broken link. -/
def suggest (s : Surroundings) (b : BrokenLink) : Option FixSuggestion :=
  Strategy.all.findSome? fun strategy => strategy.find s b

end DocLinks
