import DocLinks.Config.Defaults
import DocLinks.Fix.Apply
import DocLinks.Fix.Search
import DocLinks.Navigation
import DocLinks.Validation.Anchor

/-!
# Checking a project

The whole way: read the configuration, check the navigation file, the links and the anchors of all
pages, look for what the broken links may have meant, and apply what is found.

## Contents
- `Checker`, `Checker.create`, `createChecker`: a project that is ready to be checked.
- `CheckReport`, `check`: checking it.
- `Decision`, `fix`: applying suggestions. Those that reach the configured confidence are applied,
  weaker ones if they are approved.
-/

namespace DocLinks

/-- A project that is ready to be checked: its merged configuration, its files, and its context. -/
structure Checker where
  config : Dict
  navigationPath : FilePath
  redirectsPath : FilePath
  scanPath : Value
  checkAnchors : Bool
  maxFileSize : Value
  context : Context
  deriving Inhabited

namespace Checker

/-- A computation with the context of a checker. -/
def onContext {α : Type} (x : Work Context α) : Work Checker α :=
  Work.within Checker.context (fun c s => { s with context := c }) x

/-- The name of the part that reports what happens here. -/
def component : String := "checker"

/-- Reports something about the project as a whole. -/
def say {σ : Type} (level : LogLevel) (message : String) (context : LogContext) : Work σ Unit :=
  Work.report
    { level := level
      logger := rootLogger
      message := message
      context := { context with component := some component } }

/-- Reports the end of an operation. -/
def sayDone {σ : Type} (operation : String) (success : Bool) (context : LogContext) :
    Work σ Unit :=
  let context := { context with operation := some operation }
  if success then say .debug ("Completed: " ++ operation) context
  else say .warning ("Failed: " ++ operation) context

/-- A setting of a section. A section that is no mapping has no settings to be asked for. -/
def setting (config : Dict) (section? name : String) : Except Fault Value :=
  match Dict.get? config section? with
  | some (.dict d) =>
    match Dict.get? d name with
    | some v => .ok v
    | none => .error (.shape .noKey)
  | _ => .error (.shape .wrongType)

/-- A value that is used as a path. -/
def asPath (v : Value) : Except Fault FilePath :=
  match v with
  | .text s => .ok (.ofString s)
  | _ => .error (.shape .wrongType)

/-- The items of a value that is used as a sequence: those of a list, a tuple or a set, the
characters of a text, the keys of a mapping. -/
def asItems (v : Value) : Except Fault (List Value) :=
  match v.bare with
  | .list items | .tuple items | .set items => .ok items
  | .text s => .ok (s.toList.map fun c => .text (String.singleton c))
  | .dict d => .ok (d.map Prod.fst)
  | _ => .error (.shape .wrongType)

/-- The root and the files of a project. -/
structure Places where
  root : FilePath
  navigation : FilePath
  redirects : FilePath

/-- The places that a configuration sets; the files have to lie below the root. -/
def placesOf (t : FileTree) (config : Dict) : Except Fault Places := do
  let root ← validateRoot t (← asPath (← setting config "project" "root"))
  let navigation ←
    validateContained t (← asPath (← setting config "project" "navigation_file")) root
  let redirects ←
    validateContained t (← asPath (← setting config "project" "redirects_file")) root
  return ⟨root, navigation, redirects⟩

/-- The section of the link checker, which has to be a mapping. -/
def checkerSettings (config : Dict) : Except Fault Dict :=
  match Dict.get? config "link_checker" with
  | some (.dict d) => .ok d
  | _ => .error (.shape .noAttribute)

/-- The project of a configuration that is merged with the defaults. -/
def ofMerged {σ : Type} (config : Dict) : Work σ Checker := do
  let places ← Work.ofExcept (placesOf (← Work.tree) config)
  let settings ← Work.ofExcept (checkerSettings config)
  let maxFileSize ← Work.ofExcept (setting config "link_checker" "max_file_size")
  let table ← loadTable places.redirects
  let dirs ← Work.ofExcept (setting config "link_checker" "exclude_dirs")
  let excludeDirs ← Work.ofExcept (asItems dirs)
  let context ← Work.ofExcept
    (Context.create (← Work.tree) places.root (some table) excludeDirs)
  return {
    config, context, maxFileSize
    navigationPath := places.navigation
    redirectsPath := places.redirects
    scanPath := (Dict.get? settings "path").getD .null
    checkAnchors := ((Dict.get? settings "check_anchors").getD (.bool true)).isTruthy }

/-- The project of a configuration. -/
def create {σ : Type} (config : Value) : Work σ Checker := do
  ofMerged (← Work.ofExcept (Config.mergeWithDefaults config))

end Checker

/-- The project at a root, with the default configuration but for some settings of the link
checker. -/
def createChecker {σ : Type} (root : FilePath) (overrides : Dict) : Work σ Checker :=
  Checker.create (Config.textDict
    [("project", Config.textDict [("root", .text root.text)]), ("link_checker", .dict overrides)])

/-! ## Checking -/

/-- A broken link with what it may have meant. -/
structure BrokenLinkDetail where
  broken : BrokenLink
  suggestion : Option FixSuggestion
  deriving DecidableEq, Repr, Inhabited

/-- What checking a project finds. -/
structure CheckReport where
  filesScanned : Nat
  linksChecked : Nat
  validLinks : Nat
  brokenLinks : Nat
  redirectAvailable : Nat
  details : List BrokenLinkDetail
  anchorIssues : List AnchorCheck
  missingNavigation : List NavItem
  errors : List String
  deriving Inhabited

namespace CheckReport

/-- Links are broken, or navigation entries lead nowhere. -/
def hasIssues (r : CheckReport) : Bool := 0 < r.brokenLinks || !r.missingNavigation.isEmpty

/-- The broken links that something is suggested for. -/
def fixable (r : CheckReport) : List SuggestedFix :=
  r.details.filterMap fun d => d.suggestion.map fun s => ⟨d.broken, s⟩

end CheckReport

namespace Checker

/-- The limit that a value sets. -/
def limitOf (v : Value) : Except Fault Limit :=
  match v with
  | .int n => .ok (.whole n)
  | .bool b => .ok (.whole (if b then 1 else 0))
  | .real x => .ok (.real x)
  | _ => .error (.shape .wrongType)

/-- Reads the documents of a project. Those that cannot be read are listed with the reason. -/
def readDocuments (limit : Value) :
    List String → Work Context (List FileLinks × List String)
  | [] => return ([], [])
  | relative :: rest => do
    let limit' ← Work.ofExcept (limitOf limit)
    let c ← Work.scope
    let t ← Work.tree
    match t.read (c.path relative) limit' with
    | .error f =>
      let message := hidePlaces t (some c.root) f.message
      say .warning ("Skipping unreadable file: " ++ message)
        { filePath := some relative, errorCode := some "FS-01" }
      let (read, errors) ← readDocuments limit rest
      return (read, (relative ++ ": " ++ message) :: errors)
    | .ok content =>
      let links ← documentLinks relative content
      let (read, errors) ← readDocuments limit rest
      return (links :: read, errors)

/-- The folder that is scanned, if it is not the whole project. -/
def scanFolder (v : Value) : Except Fault (Option String) :=
  if v.isTruthy then
    match v with
    | .text s => .ok (some s)
    | _ => .error (.shape .wrongType)
  else .ok none

/-- The warning about a navigation entry that leads nowhere. -/
def sayMissing (navigation : FilePath) (i : NavItem) : Work Checker Unit :=
  say .warning ("Navigation entry '" ++ i.title ++ "' points to missing " ++ i.path)
    { filePath := some navigation.name
      lineNumber := some (i.line : Int)
      errorCode := some "NAV-02" }

/-- The note on a broken link. -/
def sayBroken (b : BrokenLink) : Work Checker Unit :=
  say .info b.error
    { filePath := some b.sourceFile
      lineNumber := some b.link.line
      errorCode := some "LNK-01" }

/-- The navigation entries of the project that lead nowhere. -/
def checkNavigation : Work Checker (List NavItem) := do
  let s ← Work.scope
  let navigation ← Navigation.parseFile s.navigationPath
  let t ← Work.tree
  let missing := navigation.missing (s.context.hasFile t)
  missing.forM (sayMissing s.navigationPath)
  return missing

/-- The pages of the project. -/
def pages : Work Checker (List String) := do
  let s ← Work.scope
  let t ← Work.tree
  Work.ofExcept do
    markdownFiles t s.context.root (← scanFolder s.scanPath) s.context.excludeDirs

/-- Checks the project. -/
def check : Work Checker CheckReport := do
  let s ← Work.scope
  let root := s.context.root.text
  say .debug "Starting: check" { filePath := some root, operation := some "check" }
  onContext (Work.modifyScope Context.clearHeadings)
  let missing ← checkNavigation
  let (documents, errors) ← onContext (readDocuments s.maxFileSize (← pages))
  let results ← onContext (validateAll documents)
  let stats := validationStats results
  let broken := brokenLinks results
  let found ← onContext (searchAllFixes broken)
  let details := broken.map fun b => ⟨b, (found.get? b).join⟩
  broken.forM sayBroken
  let anchors ← if s.checkAnchors then onContext (validateAllAnchors results) else pure []
  let report : CheckReport :=
    { filesScanned := documents.length
      linksChecked := stats.total
      validLinks := stats.valid
      brokenLinks := stats.broken
      redirectAvailable := stats.redirectAvailable
      details
      anchorIssues := anchors.filter (!·.valid)
      missingNavigation := missing
      errors }
  sayDone "check" (!report.hasIssues) { filePath := some root }
  return report

/-! ## Fixing -/

/-- What is done with a suggestion, and whether somebody was asked about it. -/
structure Decision where
  fix : SuggestedFix
  asked : Bool
  accepted : Bool

/-- Decides about a suggestion: one that is strong enough is accepted, and a weaker one if somebody
approves of it. -/
def decide (config : Value) (approve : Option (SuggestedFix → Bool)) (f : SuggestedFix) :
    Except Fault Decision := do
  match ← fixAction (some f.suggestion.confidence) config, approve with
  | .autoFix, _ => return ⟨f, false, true⟩
  | .review, some approves => return ⟨f, true, approves f⟩
  | _, _ => return ⟨f, false, false⟩

/-- The configuration that decisions are made by: that of the project, or one that sets nothing but
the given tier. -/
def decisionConfig (config : Dict) (minConfidence : Option Value) : Value :=
  match minConfidence with
  | some tier => Config.textDict [("fixes", Config.textDict [("auto_fix_confidence", tier)])]
  | none => .dict config

/-- Whether redirects are recorded. -/
def wantsRedirects (config : Dict) : Except Fault Bool := do
  match ← ((Dict.get? config "fixes").getD .null).member? "add_redirects" with
  | some v => return v.isTruthy
  | none => return true

/-- Applies suggestions of a report, or of a new one if none is given. The answer tells also which
suggestions somebody was asked about. -/
def fix (report : Option CheckReport) (minConfidence : Option Value)
    (approve : Option (SuggestedFix → Bool)) : Work Checker (FixBatch × List SuggestedFix) := do
  let report ← match report with
    | some r => pure r
    | none => check
  let s ← Work.scope
  let config := decisionConfig s.config minConfidence
  let decisions ← Work.ofExcept (report.fixable.mapM (decide config approve))
  let asked := (decisions.filter (·.asked)).map (·.fix)
  let fixes := (decisions.filter (·.accepted)).map (·.fix)
  if fixes.isEmpty then
    say .info "No fixes to apply" {}
    return ({}, asked)
  let wanted ← Work.ofExcept (wantsRedirects s.config)
  let batch ← onContext (applyFixesWithRedirects fixes wanted)
  onContext (Work.modifyScope Context.clearHeadings)
  sayDone "fix" (batch.failedCount = 0) {}
  return (batch, asked)

end Checker

end DocLinks
