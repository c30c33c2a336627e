import DocLinks.Fix.Suggestion

/-!
# Searching suggestions in a context

The strategies with the redirects and the remembered index of a context. The index is built when the
first strategy asks for it, and anew for every batch.

## Contents
- `runStrategy`, `searchFix`: one broken link.
- `searchAllFixes`: a batch; equal broken links are answered once.
- `SuggestionGroups`: the answers by confidence.
-/

namespace DocLinks

/-- What the strategies may look at in a context. -/
def surroundings (strategy : Strategy) : Work Context Surroundings := do
  let index ← if strategy.usesIndex then fileIndex else pure default
  let c ← Work.scope
  return ⟨← Work.tree, c.root, c.table, index⟩

/-- The record of a file name that several files have, none of them in a similar enough place. -/
def ambiguityRecord? (s : Surroundings) (b : BrokenLink) : Option LogRecord :=
  let ms := basenameMatches s b
  if 1 < ms.length ∧ (basenameSuggestion s b).isNone then
    some
      { level := .debug
        logger := loggerOf "fixers.suggestions"
        message := "Ambiguous basename match for " ++ b.probe ++ " (" ++ toString ms.length ++
          " candidates)" }
  else none

/-- Asks one strategy. -/
def runStrategy (strategy : Strategy) (b : BrokenLink) : Work Context (Option FixSuggestion) := do
  let s ← surroundings strategy
  if strategy = .basename then
    (ambiguityRecord? s b).toList.forM Work.report
  return strategy.find s b

/-- Asks strategies in turn until one answers. -/
def runStrategies (b : BrokenLink) : List Strategy → Work Context (Option FixSuggestion)
  | [] => return none
  | strategy :: rest => do
    match ← runStrategy strategy b with
    | some suggestion => return some suggestion
    | none => runStrategies b rest

/-- The best suggestion for a broken link. -/
def searchFix (b : BrokenLink) : Work Context (Option FixSuggestion) :=
  runStrategies b Strategy.all

/-- The record of a broken link without a suggestion. -/
def noFixRecord (b : BrokenLink) : LogRecord where
  level := .debug
  logger := loggerOf "fixers.suggestions"
  message := "No fix found for " ++ b.link.targetPath
  context :=
    { filePath := some b.sourceFile
      lineNumber := some b.link.line
      errorCode := some "LNK-03" }

/-- The suggestions for the links of a batch, one after the other. -/
def searchEach : List BrokenLink → Work Context (List (BrokenLink × Option FixSuggestion))
  | [] => return []
  | b :: bs => do
    let suggestion ← searchFix b
    if suggestion.isNone then Work.report (noFixRecord b)
    return (b, suggestion) :: (← searchEach bs)

/-- The suggestions for a batch of broken links, with an index that is built anew. -/
def searchAllFixes (bs : List BrokenLink) :
    Work Context (Assoc BrokenLink (Option FixSuggestion)) := do
  Work.modifyScope Context.clearIndex
  let found := Assoc.ofList (← searchEach bs)
  Work.report
    { level := .info
      logger := loggerOf "fixers.suggestions"
      message := "Found fixes for " ++ toString (found.filter (·.2.isSome)).length ++ " of " ++
        toString bs.length ++ " broken link(s)" }
  return found

/-- Suggestions by confidence, and the links that have none. -/
structure SuggestionGroups where
  high : List SuggestedFix
  medium : List SuggestedFix
  low : List SuggestedFix
  none : List BrokenLink
  deriving DecidableEq, Repr

/-- The suggestions by confidence. -/
def SuggestionGroups.ofSuggestions (found : Assoc BrokenLink (Option FixSuggestion)) :
    SuggestionGroups :=
  let tier (c : Confidence) : List SuggestedFix := found.filterMap fun (b, suggestion) =>
    (suggestion.filter (·.confidence = c)).map fun s => ⟨b, s⟩
  { high := tier .high
    medium := tier .medium
    low := tier .low
    none := found.filterMap fun (b, suggestion) => if suggestion.isNone then some b else .none }

end DocLinks
