import DocLinks.Fix.Replace
import DocLinks.Redirect.File
import DocLinks.Work

/-!
# Applying fixes

The fixes of a document are carried out from its last line to its first, each on the recorded line
of its link only, and the document is written once if any of them succeeds. A fix that fails does
not keep the others from being applied.

## Contents
- `FixFailure`, `FixResult`: what becomes of a fix.
- `fixLine`, `fixLines`: fixes on the lines of a document.
- `applyFileFixes`, `applyFixes`, `applyFix`: fixes on the files of a project.
- `redirectPairs`, `applyFixesWithRedirects`: recording where the replaced targets went.
-/

namespace DocLinks

open Text

/-- Why a fix was not applied. -/
inductive FixFailure where
  | lineMissing (line : Int)
  | linkMissing (line : Int)
  | unreadable (f : FileFault)
  | unwritable (f : WriteFault)

def FixFailure.message : FixFailure → String
  | lineMissing n => "Line " ++ toString n ++ " not found in file"
  | linkMissing n => "Could not find link to replace on line " ++ toString n
  | unreadable f => f.message
  | unwritable f => f.message

/-- What became of a fix. A fix without a failure was applied and written. -/
structure FixResult where
  sourceFile : String
  link : Link
  newPath : String
  failure : Option FixFailure
  redirectAdded : Bool := false

namespace FixResult

def success (r : FixResult) : Bool := r.failure.isNone

def error (r : FixResult) : Option String := r.failure.map FixFailure.message

end FixResult

/-- The result of a fix. -/
def SuggestedFix.result (f : SuggestedFix) (failure : Option FixFailure) : FixResult where
  sourceFile := f.broken.sourceFile
  link := f.broken.link
  newPath := f.suggestion.suggestedPath
  failure := failure

/-! ## Lines -/

/-- The lines of a document. -/
abbrev Lines := List (List Char)

/-- The index of the line of a fix, if the document has that line. -/
def lineIndex? (lines : Lines) (line : Int) : Option Nat :=
  if 1 ≤ line ∧ line ≤ lines.length then some (line - 1).toNat else none

/-- Carries out one fix on the lines of a document. The only fault is a suggestion without a
path. -/
def fixLine (cwd : List String) (lines : Lines) (f : SuggestedFix) :
    Except Fault (Lines × Option FixFailure) :=
  let line := f.broken.link.line
  match lineIndex? lines line with
  | none => .ok (lines, some (.lineMissing line))
  | some i =>
    match newTarget? cwd f.broken f.suggestion with
    | none => .error .emptyPath
    | some target =>
      match replaceLink (lines.getD i []) f.broken.link target.toList with
      | none => .ok (lines, some (.linkMissing line))
      | some updated => .ok (lines.set i updated, none)

/-- What is reported about a failure on a line. -/
def lineRecord (f : SuggestedFix) (failure : FixFailure) : Option LogRecord :=
  let b := f.broken
  let record (code message : String) : LogRecord :=
    { level := .warning
      logger := loggerOf "fixers.rewriter"
      message
      context :=
        { filePath := some b.sourceFile
          lineNumber := some b.link.line
          errorCode := some code } }
  match failure with
  | .lineMissing n =>
    some (record "FIX-02" (b.sourceFile ++ ": line " ++ toString n ++ " out of range"))
  | .linkMissing n =>
    some (record "FIX-01"
      (b.sourceFile ++ ":" ++ toString n ++ " link to " ++ b.link.targetPath ++ " not found"))
  | _ => none

/-- Carries out fixes on the lines of a document, one after the other. -/
def fixLines {σ : Type} (lines : Lines) :
    List SuggestedFix → Work σ (Lines × List (SuggestedFix × Option FixFailure))
  | [] => return (lines, [])
  | f :: fs => do
    let (lines, failure) ← Work.ofExcept (fixLine (← Work.tree).cwd lines f)
    ((failure.bind (lineRecord f)).toList).forM Work.report
    let (lines, rest) ← fixLines lines fs
    return (lines, (f, failure) :: rest)

/-! ## Documents -/

/-- The fixes of a document from the last line to the first; those of one line keep their order. -/
def fromLastLine (fs : List SuggestedFix) : List SuggestedFix :=
  fs.mergeSort fun f g => g.broken.link.line ≤ f.broken.link.line

/-- An error record of a document. -/
def fileErrorRecord (source code message : String) : LogRecord where
  level := .error
  logger := loggerOf "fixers.rewriter"
  message := message
  context := { filePath := some source, errorCode := some code }

/-- Applies the fixes of one document. -/
def applyFileFixes {σ : Type} (root : FilePath) (source : String) (fs : List SuggestedFix) :
    Work σ (List FixResult) := do
  let path := projectPath root source
  match (← Work.tree).read path FileTree.defaultLimit with
  | .error f =>
    Work.report (fileErrorRecord source "FS-01" ("Cannot read " ++ source ++ ": " ++ f.message))
    return fs.map (·.result (some (.unreadable f)))
  | .ok content =>
    let (lines, outcomes) ← fixLines (linesOf content) (fromLastLine fs)
    if outcomes.all (·.2.isSome) then
      return outcomes.map fun (f, failure) => f.result failure
    match ← Work.write path (ofLines lines) with
    | .ok () => return outcomes.map fun (f, failure) => f.result failure
    | .error w =>
      Work.report
        (fileErrorRecord source "FIX-03" ("Cannot write " ++ source ++ ": " ++ w.message))
      return outcomes.map fun (f, failure) => f.result (failure <|> some (.unwritable w))

/-- Applies the fixes of documents, one document after the other. -/
def applyGroups {σ : Type} (root : FilePath) :
    List (String × List SuggestedFix) → Work σ (List FixResult)
  | [] => return []
  | (source, fs) :: groups => do
    let results ← applyFileFixes root source fs
    return results ++ (← applyGroups root groups)

/-- The fixes by document, in the order in which the documents come first. -/
def groupBySource (fs : List SuggestedFix) : Assoc String (List SuggestedFix) :=
  Assoc.group (fs.map fun f => (f.broken.sourceFile, f))

/-- Applies fixes to the files of a project. -/
def applyFixes {σ : Type} (root : FilePath) (fs : List SuggestedFix) :
    Work σ (List FixResult) := do
  let groups := groupBySource fs
  let results ← applyGroups root groups
  Work.report
    { level := .info
      logger := loggerOf "fixers.rewriter"
      message := "Applied " ++ toString (results.filter (·.success)).length ++ " of " ++
        toString results.length ++ " fix(es) across " ++ toString groups.length ++ " file(s)" }
  return results

/-- Applies one fix. -/
def applyFix {σ : Type} (root : FilePath) (f : SuggestedFix) : Work σ FixResult := do
  match ← applyFixes root [f] with
  | r :: _ => return r
  | [] => Work.fail (.shape .noIndex)

/-! ## Redirects for what was replaced -/

/-- The source under which the old target of a link is redirected: the target without a leading
`./` and without its extension. -/
def redirectSource (l : Link) : String :=
  let target : List Char := match l.targetPath.toList with
    | '.' :: '/' :: rest => rest
    | cs => cs
  .ofList (replaceEnd pageExtension [] target)

/-- The redirect from the old target of a fix to its new path. -/
def FixResult.redirectPair (r : FixResult) : RedirectPair := ⟨redirectSource r.link, r.newPath⟩

/-- The redirects that applied fixes call for, each once. A source that leads upwards is no key. -/
def redirectPairs (results : List FixResult) : List RedirectPair :=
  let applied := (results.filter (·.success)).map FixResult.redirectPair
  (applied.filter fun p => !containsWord "..".toList p.source.toList).eraseDups

/-- The results of a batch of fixes, and how many redirects were recorded for them. -/
structure FixBatch where
  results : List FixResult := []
  redirectsAdded : Nat := 0
  deriving Inhabited

namespace FixBatch

def fixedCount (b : FixBatch) : Nat := (b.results.filter (·.success)).length

def failedCount (b : FixBatch) : Nat := (b.results.filter (!·.success)).length

end FixBatch

/-- Marks the results whose redirect was recorded. -/
def markRecorded (recorded : List RedirectPair) (results : List FixResult) : List FixResult :=
  results.map fun r =>
    if r.success ∧ recorded.contains r.redirectPair then { r with redirectAdded := true } else r

/-- The redirects of a batch that the table does not have yet. -/
def newPairs (table : Option RedirectTable) (results : List FixResult) : List RedirectPair :=
  (redirectPairs results).filter fun p => !table.any (·.hasSource p.source)

/-- Records redirects for the results of a batch in the table of the context. If that fails, the
results stay as they are. -/
def recordRedirects (results : List FixResult) : Work Context FixBatch := do
  let c ← Work.scope
  let pairs := newPairs c.table results
  if pairs.isEmpty then return { results }
  match c.table.bind fun table => table.file.map fun file => (table, file) with
  | none =>
    Work.report
      { level := .warning
        logger := loggerOf "fixers.rewriter"
        message := "No redirect configuration to append " ++ toString pairs.length ++
          " redirect(s) to" }
    return { results }
  | some (table, file) =>
    match ← table.append pairs with
    | .error f =>
      Work.report
        { level := .error
          logger := loggerOf "fixers.rewriter"
          message := "Failed to add redirects: " ++ f.message
          context := { filePath := some file.text, errorCode := some "RDR-03" } }
      return { results }
    | .ok (table, added) =>
      Work.modifyScope fun c => { c with table := some table }
      return { results := markRecorded pairs results, redirectsAdded := added }

/-- Applies fixes, and records redirects for them if that is wanted. -/
def applyFixesWithRedirects (fs : List SuggestedFix) (wantRedirects : Bool) :
    Work Context FixBatch := do
  let results ← applyFixes (← Work.scope).root fs
  if wantRedirects then recordRedirects results else return { results }

end DocLinks
