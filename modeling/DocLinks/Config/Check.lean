import DocLinks.Config.Defaults
import DocLinks.Confidence
import DocLinks.Project.Root
import DocLinks.Work

/-!
# Checking configurations

Every setting has its own rule. All problems are collected, those that make a configuration unusable
as errors and the others as warnings.

## Contents
- `ensureList`, `positiveInt`: rules for single values.
- `Finding`, `ConfigCheck`: what is found.
- `checkProject`, `checkLinkChecker`, `checkFixes`, `checkLogging`: the rules of the sections.
- `checkConfig`: the whole configuration. If it is valid, the result is the configuration with its
  defaults, and with an absolute root.
-/

namespace DocLinks.Config

open Text

/-! ## Rules for single values -/

/-- The most items that a list may have. -/
def maxListLength : Nat := 10000

/-- A fault of a key. -/
def keyFault {α : Type} (key problem : String) (value : Value) (suggestion : Option String) :
    Except KeyFault α :=
  .error ⟨key, problem, value, suggestion⟩

/-- What is reported about a text that is taken for a list. -/
def coercionRecord (key text : String) : LogRecord where
  level := .warning
  logger := loggerOf "core.config"
  message := "Config '" ++ key ++ "': Expected list but got string '" ++ text ++
    "'. Converting to single-item list."

/-- The value as a list: nothing is the empty list, and a text may stand for its only item. -/
def ensureList (value : Value) (key : String) (coerceText : Bool) :
    Except KeyFault (List Value) :=
  match value.bare with
  | .null => .ok []
  | .text s =>
    if coerceText then .ok [.text s]
    else
      keyFault key "Expected a list, got a string" value
        (some ("Use [\"" ++ s ++ "\"] for a single-item list"))
  | .list items =>
    if maxListLength < items.length then
      keyFault key
        ("List has " ++ toString items.length ++ " items, exceeds limit of " ++
          toString maxListLength) .null none
    else .ok items
  | v =>
    keyFault key ("Expected list, got " ++ v.typeName) value
      (some "Use list syntax: [item1, item2]")

/-- What `ensureList` reports. -/
def ensureListRecords (value : Value) (key : String) (coerceText : Bool) : List LogRecord :=
  match value with
  | .text s => if coerceText then [coercionRecord key s] else []
  | _ => []

/-- The value as an integer greater than zero. -/
def positiveInt (value : Value) (key : String) : Except KeyFault Int :=
  match value with
  | .int n => if n ≤ 0 then keyFault key "Must be greater than zero" value none else .ok n
  | v => keyFault key ("Must be an integer, got " ++ v.typeName) v none

/-! ## Findings -/

/-- A problem of a configuration. -/
inductive Finding where
  | error (text : String)
  | warning (text : String)
  deriving DecidableEq, Repr

namespace Finding

/-- An error of a key. -/
def errorAt (key problem : String) : Finding := .error ("[" ++ key ++ "] " ++ problem)

/-- An error of a key with advice. -/
def errorWith (key problem suggestion : String) : Finding :=
  .error ("[" ++ key ++ "] " ++ problem ++ " | Suggestion: " ++ suggestion)

/-- A warning about a key. -/
def warningAt (key problem : String) : Finding := .warning ("[" ++ key ++ "] " ++ problem)

/-- The text, if it is an error. -/
def error? : Finding → Option String
  | error s => some s
  | warning _ => none

/-- The text, if it is a warning. -/
def warning? : Finding → Option String
  | warning s => some s
  | error _ => none

end Finding

/-- The result of checking a configuration. `config` is the usable configuration if there are no
errors. -/
structure ConfigCheck where
  isValid : Bool
  errors : List String
  warnings : List String
  config : Dict
  deriving Inhabited

/-- The result that findings without a usable configuration amount to. -/
def ConfigCheck.invalid (findings : List Finding) : ConfigCheck :=
  ⟨false, findings.filterMap Finding.error?, findings.filterMap Finding.warning?, []⟩

/-! ## Sections -/

/-- The settings of a section, with an error if the section is no mapping. A section that is absent
or empty has no settings. -/
def settingsOf (config : Dict) (name : String) : Dict × List Finding :=
  match (Dict.get? config name).map Value.bare with
  | none | some .null => ([], [])
  | some (.dict d) => (d, [])
  | some v =>
    ([], [.errorWith name ("Must be a section/dict, got " ++ v.typeName)
      ("Use [" ++ name ++ "] in TOML or " ++ name ++ ": in YAML")])

/-- The rule for truth values. -/
def checkBool (key : String) (v : Value) : List Finding :=
  let wrong := [Finding.errorAt key ("Must be a boolean, got " ++ v.typeName)]
  match v with
  | .bool _ => []
  | .text s =>
    if ["false", "no", "0"].contains (lowercase s) then
      [.warningAt key ("String '" ++ s ++ "' is truthy. Use boolean false")]
    else wrong
  | _ => wrong

/-- The rule for paths that have to stay inside the root. -/
def checkContained (t : FileTree) (root : FilePath) (key : String) (v : Value) :
    Except Fault (List Finding) :=
  match v with
  | .text s =>
    match validateContained t (.ofString s) root with
    | .ok _ => .ok []
    | .error (.path f) => .ok [.errorWith key f.message "Use a path within the project root"]
    | .error f => .error f
  | v => .ok [.errorAt key ("Must be a string, got " ++ v.typeName)]

/-- A path with the home directory in place of a leading tilde. -/
def expandHome (t : FileTree) (cs : List Char) : FilePath :=
  match cs with
  | ['~'] => .absolute t.home
  | '~' :: '/' :: rest => (FilePath.absolute t.home).join ⟨0, FilePath.namesOf rest⟩
  | cs => .ofChars cs

/-- The root that a configuration sets, with an error if it is no folder; `base` is what it is seen
from, and the root if none is set. -/
def checkRoot (t : FileTree) (base : FilePath) (checkPaths : Bool) (project : Dict) :
    Except Fault (FilePath × List Finding) :=
  match Dict.get? project "root" with
  | none => .ok (base, [])
  | some (.text s) =>
    let candidate := base.join (expandHome t s.toList)
    let missing := [Finding.errorWith "project.root" ("Directory does not exist: " ++ s)
      "Create the directory or use an existing path"]
    if checkPaths then
      match t.probe candidate with
      | .error c => .error (.file (.os c candidate.text none))
      | .ok (some .folder) => .ok (candidate, [])
      | .ok _ => .ok (base, missing)
    else .ok (candidate, [])
  | some v =>
    .ok (base, [.errorWith "project.root" ("Must be a string, got " ++ v.typeName)
      "Use root = \"path/to/project\""])

/-- The rule for a setting that may be absent. -/
def checkSetting (settings : Dict) (name : String) (rule : Value → Except Fault (List Finding)) :
    Except Fault (List Finding) :=
  match Dict.get? settings name with
  | none => .ok []
  | some v => rule v

/-- The rules of the project section, with the root that the others are checked against. -/
def checkProject (t : FileTree) (base : FilePath) (checkPaths : Bool) (settings : Dict) :
    Except Fault (FilePath × List Finding) := do
  let (root, ofRoot) ← checkRoot t base checkPaths settings
  let navigation ← checkSetting settings "navigation_file"
    (checkContained t root "project.navigation_file")
  let redirects ← checkSetting settings "redirects_file"
    (checkContained t root "project.redirects_file")
  return (root, ofRoot ++ navigation ++ redirects)

/-- The error of a key whose value does not follow its rule. A value that no message can show is a
fault. -/
def findingsOf {α : Type} (key : String) (r : Except KeyFault α) (rule : α → List Finding) :
    Except Fault (List Finding) :=
  match r with
  | .ok a => .ok (rule a)
  | .error f => if f.value.isShowable then .ok [.errorAt key f.message] else .error .unshowable

/-- The key of the excluded folders. -/
def excludeDirsKey : String := "link_checker.exclude_dirs"

/-- The rule for the names of excluded folders. -/
def checkExcludeDirs (v : Value) : Except Fault (List Finding) :=
  findingsOf excludeDirsKey (ensureList v excludeDirsKey true) fun items =>
    (items.zipIdx).filterMap fun (item, i) =>
      match item with
      | .text _ => none
      | v =>
        some (.errorAt (excludeDirsKey ++ "[" ++ toString i ++ "]")
          ("Must be string, got " ++ v.typeName))

/-- The rule for the file or the folder that is checked. -/
def checkPath (t : FileTree) (root : FilePath) (settings : Dict) :
    Except Fault (List Finding) :=
  checkSetting settings "path" fun v =>
    match v with
    | .null => .ok []
    | v => checkContained t root "link_checker.path" v

/-- The rules of the section of the link checker, less the one for its path. -/
def checkLinkChecker (settings : Dict) : Except Fault (List Finding) := do
  let dirs ← checkSetting settings "exclude_dirs" checkExcludeDirs
  let anchors ← checkSetting settings "check_anchors" fun v =>
    .ok (checkBool "link_checker.check_anchors" v)
  let size ← checkSetting settings "max_file_size" fun v =>
    findingsOf "link_checker.max_file_size" (positiveInt v "link_checker.max_file_size") fun _ => []
  return dirs ++ anchors ++ size

/-- The rule for the tier from which on suggestions are applied. -/
def checkTier (v : Value) : List Finding :=
  match Confidence.ofValue v with
  | .ok _ => []
  | .error f => [.errorAt "fixes.auto_fix_confidence" f.message]

/-- The rules of the section of the fixes. -/
def checkFixes (settings : Dict) : List Finding :=
  let rule (name : String) (f : Value → List Finding) : List Finding :=
    ((Dict.get? settings name).map f).getD []
  rule "auto_fix_confidence" checkTier ++ rule "add_redirects" (checkBool "fixes.add_redirects")

/-- The levels that a configuration may name, in any letter case. -/
def validLevels : List String := ["DEBUG", "INFO", "WARNING", "ERROR"]

/-- The rule for the level of the log. -/
def checkLevel (v : Value) : Except Fault (List Finding) :=
  let isValid := match v with
    | .text s => validLevels.contains (upperAscii s)
    | _ => false
  if isValid then .ok []
  else if v.isShowable then
    .ok [.errorWith "logging.level" ("Invalid level " ++ v.shown)
      ("Use one of: " ++ ", ".intercalate validLevels)]
  else .error .unshowable

/-- The rule for the file of the log. -/
def checkLogFile (v : Value) : List Finding :=
  match v with
  | .null | .text _ => []
  | v => [.errorAt "logging.log_file" ("Must be a string, got " ++ v.typeName)]

/-- The rules of the section of the log. -/
def checkLogging (settings : Dict) : Except Fault (List Finding) := do
  let level ← checkSetting settings "level" checkLevel
  let file ← checkSetting settings "log_file" fun v => .ok (checkLogFile v)
  return level ++ file

/-! ## The whole configuration -/

/-- Warnings about sections that nothing reads. -/
def checkUnknown (config : Dict) : Except Fault (List Finding) :=
  let unknown := (config.map Prod.fst).filter fun key =>
    !(defaultSections.any fun s => key.sameKey (.text s.1))
  if unknown.all Value.isShowable then
    .ok (unknown.map fun key => .warningAt key.plain "Unknown section is ignored")
  else .error .unshowable

/-- The settings of the link checker in which a text that stands for a list of folders is that
list. -/
def normalizeExcludeDirs (settings : Dict) : Dict :=
  match Dict.get? settings "exclude_dirs" with
  | some (.text s) => Dict.put settings (.text "exclude_dirs") (.list [.text s])
  | _ => settings

/-- The configuration as checking it leaves it behind: the section of the link checker is
normalized wherever it stands. -/
def afterCheck (config : Value) : Value :=
  let entries := match config with
    | .dict d | .shared _ _ (.dict d) => d
    | _ => []
  match Dict.get? entries "link_checker" with
  | some (.dict settings) =>
    let set (d : Dict) := Dict.put d (.text "link_checker") (.dict (normalizeExcludeDirs settings))
    match config with
    | .shared label _ _ => config.amend label set
    | _ => .dict (set entries)
  | some (.shared label _ _) | some (.again label _) => config.amend label normalizeExcludeDirs
  | _ => config

/-- What checking the section of the link checker reports. -/
def checkRecords (settings : Dict) : List LogRecord :=
  match Dict.get? settings "exclude_dirs" with
  | some v => ensureListRecords v excludeDirsKey true
  | none => []

/-- The configuration with its defaults and with its root set; a section of the project that is no
mapping cannot take a root. -/
def withRoot (config : Dict) (root : String) : Except Fault Dict :=
  let merged := overlay config
  match Dict.get? merged "project" with
  | some (.dict settings) =>
    .ok (Dict.put merged (.text "project") (.dict (Dict.put settings (.text "root") (.text root))))
  | _ => .error (.shape .wrongType)

/-- The result that the findings about a configuration amount to. -/
def conclude (t : FileTree) (config : Dict) (root : FilePath) (found : List Finding) :
    Except Fault ConfigCheck :=
  if found.any (·.error?.isSome) then .ok (.invalid found)
  else if root.hasNull then .error (.file .nullByte)
  else
    (withRoot config (root.resolve t.cwd).text).map fun merged =>
      ⟨true, [], found.filterMap Finding.warning?, merged⟩

/-- Everything that is found in a configuration, with the root that it sets. -/
def findings {σ : Type} (base : FilePath) (checkPaths : Bool) (config : Dict) :
    Work σ (FilePath × List Finding) := do
  let t ← Work.tree
  let (project, ofProject) := settingsOf config "project"
  let (root, inProject) ← Work.ofExcept (checkProject t base checkPaths project)
  let (checker, ofChecker) := settingsOf config "link_checker"
  let ofPath ← Work.ofExcept (checkPath t root checker)
  (checkRecords checker).forM Work.report
  let inChecker ← Work.ofExcept (checkLinkChecker checker)
  let (fixes, ofFixes) := settingsOf config "fixes"
  let (logging, ofLogging) := settingsOf config "logging"
  let inLogging ← Work.ofExcept (checkLogging logging)
  let unknown ← Work.ofExcept (checkUnknown config)
  return (root, ofProject ++ inProject ++ ofChecker ++ ofPath ++ inChecker ++ ofFixes ++
    checkFixes fixes ++ ofLogging ++ inLogging ++ unknown)

/-- Checks a configuration; nothing at all is the empty one. -/
def checkConfig {σ : Type} (base : FilePath) (checkPaths : Bool) (config : Value) :
    Work σ ConfigCheck := do
  match config.bare with
  | .null | .dict _ =>
    let entries (v : Value) : Dict := (v.bare.dict?).getD []
    let (root, found) ← findings base checkPaths (entries config)
    Work.ofExcept (conclude (← Work.tree) (entries (afterCheck config)) root found)
  | v =>
    return .invalid [.errorWith "config"
      ("Configuration must be a dictionary, got " ++ v.typeName)
      "Use sections like [project] or YAML mappings"]

end DocLinks.Config
