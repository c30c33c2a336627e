import DocLinks.Config.Check
import DocLinks.Config.Toml
import DocLinks.Config.Yaml
import DocLinks.Config.Yaml.Source
import DocLinks.Json

/-!
# Loading configurations

A configuration file is YAML, TOML or JSON, as its extension says.

## Contents
- `loadConfig`: the value that a file holds; an empty file holds the empty mapping.
- `loadAndCheck`: the value and what is found in it; a file that cannot be parsed is a finding.
- `loadStrict`: the usable configuration, or a fault if there is none.
-/

namespace DocLinks.Config

open Text

/-- The most bytes that a configuration file may have. -/
def maxConfigSize : Nat := 10 * 1024 * 1024

/-- The formats of configuration files. -/
inductive Format where
  | yaml
  | toml
  | json
  deriving DecidableEq, Repr

/-- The format that an extension stands for. -/
def Format.ofSuffix? (suffix : String) : Option Format :=
  match suffix with
  | ".yaml" | ".yml" => some .yaml
  | ".toml" => some .toml
  | ".json" => some .json
  | _ => none

/-- The text of a configuration file. -/
def textOf (c : Content) : Except FileFault (List Char) :=
  match c.read with
  | .ok s => .ok (unifyLineEnds s.toList)
  | .error f => .error (.undecodable f)

/-- What it amounts to that a scalar of a YAML text has no value. -/
def ofScalarFault : Yaml.ScalarFault → Fault
  | .badInt base text => .config (.badNumber base text)
  | .badFloat text => .config (.badFloat text)
  | .tooManyDigits n => .config (.tooManyDigits n)
  | .outOfRange f => .config (.badMoment f)
  | .tooLarge => .range .double
  | .noBool => .shape .noKey
  | .noNumber => .shape .noIndex
  | .noMoment => .shape .noAttribute
  | .noText => .shape .wrongType

/-- What it amounts to that a YAML text has no value. -/
def ofYamlFault : Yaml.Fault → Fault
  | .malformed => .config .badYaml
  | .undecodable f => .file (.undecodable f)
  | .noCharacter => .config .noCharacter
  | .hugeCharacter => .range .small
  | .tooDeep => .depth .value
  | .scalar f => ofScalarFault f

/-- What it amounts to that a JSON text has no value. -/
def ofJsonFault (f : Json.Fault) : Fault :=
  match f.problem with
  | .tooManyDigits n => .config (.tooManyDigits n)
  | .tooDeep isList => .depth (.json isList)
  | _ => .config (.badJson f)

/-- The value that the content of a file means in a format. Whatever is wrong with a TOML file
counts as bad TOML. -/
def parseAs (format : Format) (c : Content) : Except Fault Value :=
  match format with
  | .yaml =>
    let (text, beyond) := Yaml.textOfFile c
    (Yaml.parse text beyond).mapError ofYamlFault
  | .toml =>
    match (textOf c).toOption.bind fun text => Toml.parse? (.ofList text) with
    | some d => .ok (.dict d)
    | none => .error (.config .badToml)
  | .json =>
    match textOf c with
    | .ok text => (Json.parse (.ofList text)).mapError ofJsonFault
    | .error f => .error (.file f)

/-- The value of a file in a format. -/
def readAs (t : FileTree) (p : FilePath) (format : Format) : Except Fault Value :=
  match t.open? p with
  | .error f => .error (if format = .toml then .config .badToml else .file f)
  | .ok c => parseAs format c

/-- The value that a configuration file holds. -/
def loadConfig (t : FileTree) (p : FilePath) : Except Fault Value :=
  match t.probe p with
  | .error c => .error (.file (.os c p.text none))
  | .ok none => .error (.config (.missing p.text))
  | .ok (some n) =>
    if maxConfigSize < FileTree.Node.size n then
      .error (.config (.tooLarge p.text (FileTree.Node.size n)))
    else
      let suffix := lowercase p.suffix
      match Format.ofSuffix? suffix with
      | none => .error (.config (.unknownFormat suffix))
      | some format =>
        (readAs t p format).map fun v =>
          match v with
          | .null => .dict []
          | v => v

/-- Whether a fault is about what a file says, and not about getting at the file. -/
def isAboutContent : Fault → Bool
  | .config (.missing _) => false
  | .config _ => true
  | .file (.undecodable _) => true
  | _ => false

/-- Loads and checks a configuration file. Paths in it are seen from its folder. -/
def loadAndCheck {σ : Type} (p : FilePath) (checkPaths : Bool) :
    Work σ (Value × ConfigCheck) := do
  match loadConfig (← Work.tree) p with
  | .error f =>
    if isAboutContent f then return (.dict [], .invalid [.errorAt "config_file" f.message])
    else Work.fail f
  | .ok v =>
    let result ← checkConfig p.parent checkPaths v
    return (afterCheck v, result)

/-- The record of a warning. -/
def warningRecord (warning : String) : LogRecord where
  level := .warning
  logger := loggerOf "core.config"
  message := "Config warning: " ++ warning

/-- The configuration of a file with its defaults, if it has no errors. -/
def loadStrict {σ : Type} (p : FilePath) : Work σ Dict := do
  let (_, result) ← loadAndCheck p true
  (result.warnings.map warningRecord).forM Work.report
  if result.isValid then return result.config
  else Work.fail (.config (.invalid result.errors result.warnings))

end DocLinks.Config
