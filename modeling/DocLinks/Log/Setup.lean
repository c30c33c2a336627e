import DocLinks.Log.Format
import DocLinks.Text.Case
import DocLinks.Text.Lines
import DocLinks.Work

/-!
# Setting up the log

Where records go: to the terminal, as lines, and to a file, as JSON objects.

## Contents
- `LogSetup`: a logger with its level and its outputs.
- `LogSetup.ofConfig`: the setup that the logging section of a configuration asks for.
- `ComponentCall`, `ComponentCall.notice`: what a component of the program says.
- `LogSetup.record`: the record of a call, unless the logger is silent about it.
- `LogSetup.consoleLines`, `LogSetup.fileMembers`: what comes out.
-/

namespace DocLinks

/-- A logger: its name, the level from which on it speaks, and whether it writes to the terminal, in
colours or not, and to a file. -/
structure LogSetup where
  name : String := rootLogger
  level : LogLevel := .info
  console : Bool := true
  colors : Bool := true
  file : Bool := false
  deriving DecidableEq, Repr, Inhabited

namespace LogSetup

/-- The name of the logger above all others. -/
def topLogger : String := "root"

/-- The logger that a value names; what does not count as given names the one above all others. -/
def nameOf (v : Value) : Except ShapeFault String :=
  if !v.isTruthy then .ok topLogger
  else
    match v with
    | .text s => .ok s
    | _ => .error .wrongType

/-- The level of a logger that says none itself: that of the logger above all others. -/
def inheritedLevel : LogLevel := .warning

/-- The level from which on a logger speaks. -/
def effectiveLevel (s : LogSetup) : LogLevel :=
  if s.level = .notSet ∧ s.name ≠ topLogger then inheritedLevel else s.level

/-- The outputs of a logger: kind and level of each. -/
def handlers (s : LogSetup) : List (String × LogLevel) :=
  (if s.console then [("StreamHandler", s.level)] else []) ++
    if s.file then [("FileHandler", s.level)] else []

/-! ## Asking for a setup -/

/-- How a line of a record is laid out where nothing else is said. -/
def usualLayout : String := "%(levelname)s:%(name)s:%(message)s"

/-- The level that a value names; a value that names none stands for the usual level. Two names
belong to layouts, which are no levels: the usual layout and the table of all. -/
def levelOf (v : Value) : Except Fault LogLevel :=
  match v with
  | .text s =>
    let name := Text.upperAscii s
    if name = "BASIC_FORMAT" then .error (.unknownLevel usualLayout)
    else if name = "_STYLES" then .error (.shape .wrongType)
    else .ok ((LogLevel.ofName? name).getD .info)
  | _ => .ok .info

/-- The file that a value names. -/
def fileOf (v : Value) : Except Fault (Option FilePath) :=
  if !v.isTruthy then .ok none
  else
    match v with
    | .text s => .ok (some (.ofString s))
    | _ => .error (.shape .wrongType)

/-- Opens the file for records, making the folders above it. -/
def openFile {σ : Type} (p : FilePath) : Work σ Unit := do
  let (t, fault) := (← Work.tree).makeFolders p.parent
  Work.setTree t
  match fault with
  | some f => Work.fail (.file f)
  | none => Work.setTree (← Work.ofExcept ((t.openToAdd (p.resolve t.cwd)).mapError .file))

/-- The setup that the logging section of a configuration asks for. -/
def ofSettings {σ : Type} (settings : Dict) : Work σ LogSetup := do
  let file ← Work.ofExcept (fileOf ((Dict.get? settings "log_file").getD .null))
  let level ← Work.ofExcept (levelOf ((Dict.get? settings "level").getD (.text "INFO")))
  file.forM openFile
  return { level
           console := ((Dict.get? settings "console").getD (.bool true)).isTruthy
           file := file.isSome }

/-- The setup that a configuration asks for. A logging section that is empty asks for nothing; one
that is no mapping cannot be asked. -/
def ofConfig {σ : Type} (config : Value) : Work σ LogSetup :=
  match config with
  | .dict sections =>
    match (Dict.get? sections "logging").getD .null with
    | .dict settings => ofSettings settings
    | v => if v.isTruthy then Work.fail (.shape .noAttribute) else ofSettings []
  | _ => Work.fail (.shape .noAttribute)

end LogSetup

/-! ## What components say -/

/-- Something that a component of the program says: how, what, and what it names beside. -/
structure ComponentCall where
  method : String
  component : Value
  message : Value
  named : Dict
  deriving Inhabited

/-- What a component has said: its level, its text, and all that it named, in the form that a record
takes. -/
structure Notice where
  level : LogLevel
  message : Value
  details : LogDetails
  names : List String

/-- The names of the parts that a record has already, so that nobody can give them. -/
def takenNames : List String :=
  ["name", "msg", "args", "levelname", "levelno", "pathname", "filename", "module", "exc_info",
    "exc_text", "stack_info", "lineno", "funcName", "created", "msecs", "relativeCreated", "thread",
    "threadName", "processName", "process", "message", "asctime"]

namespace ComponentCall

/-- A notice with what a call names beside. A file that does not count as given is none; any other
one is shown as text. The receiver and the level cannot be named. -/
def noticeAs (c : ComponentCall) (level : LogLevel) (message : Value) (named : Dict) :
    Except ShapeFault Notice :=
  let names := Dict.textKeys named
  if names.contains "self" || names.contains "level" then .error .wrongType
  else
    let d := (Dict.textEntries named).foldl (fun d e => d.put e.1 e.2) ({} : LogDetails)
    let filePath : Value := if d.filePath.isTruthy then .text d.filePath.plain else .null
    .ok { level, message, names, details := { d with component := c.component, filePath } }

/-- A notice about an operation, whose name is the message of the call and a part of the notice. -/
def noticeAbout (c : ComponentCall) (level : LogLevel) (stage : String) (named : Dict) :
    Except ShapeFault Notice :=
  c.noticeAs level (.text (stage ++ c.message.plain)) (named ++ [(.text "operation", c.message)])

/-- The notice of a call. The two ways to speak of an operation name it in their message, so neither
takes it a second time; the start of one takes nothing else but a file. -/
def notice (c : ComponentCall) : Except ShapeFault Notice :=
  let names := Dict.textKeys c.named
  match c.method with
  | "debug" => c.noticeAs .debug c.message c.named
  | "info" => c.noticeAs .info c.message c.named
  | "warning" => c.noticeAs .warning c.message c.named
  | "error" => c.noticeAs .error c.message c.named
  | "operation_start" =>
    if names.all (· == "file_path") then c.noticeAbout .debug "Starting: " c.named
    else .error .wrongType
  | "operation_complete" =>
    if names.contains "operation" then .error .wrongType
    else
      let named := c.named.filter fun e => !e.1.sameKey (.text "success")
      if ((Dict.get? c.named "success").getD (.bool true)).isTruthy then
        c.noticeAbout .debug "Completed: " named
      else c.noticeAbout .warning "Failed: " named
  | "_log" | "_logger" | "component" => .error .wrongType
  | _ => .error .noAttribute

end ComponentCall

namespace LogSetup

/-- The record of a call. A logger that is silent about it does not look at what it names. -/
def record (s : LogSetup) (c : ComponentCall) : Except ShapeFault (Option LogEntry) := do
  let n ← c.notice
  if n.level.rank < s.effectiveLevel.rank then return none
  else if n.names.any takenNames.contains then throw .noKey
  else
    return some
      { level := .text n.level.name, logger := .text s.name, message := n.message,
        details := n.details }

/-- The records of calls, one after the other. -/
def records (s : LogSetup) (calls : List ComponentCall) : Except ShapeFault (List LogEntry) :=
  (calls.mapM s.record).map fun rs => rs.filterMap id

/-- The lines that records make on the terminal; `tty` tells whether it shows colours. A record that
cannot be written makes none. -/
def consoleLines (s : LogSetup) (tty : Bool) (rs : List LogEntry) : List String :=
  if s.console then
    rs.flatMap fun r => match r.line (s.colors && tty) with
      | .ok line => Text.shownLines (line ++ "\n")
      | .error _ => []
  else []

/-- The objects that records make in the file. A record that cannot be written makes none. -/
def fileMembers (s : LogSetup) (rs : List LogEntry) : List Dict :=
  if s.file then rs.filterMap fun r => r.members.toOption else []

end LogSetup

end DocLinks
