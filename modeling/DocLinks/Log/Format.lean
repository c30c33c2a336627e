import DocLinks.Log
import DocLinks.Log.Message

/-!
# Writing log records

A record can come from anywhere, so any value may stand for what it tells: for the word of its level,
for its logger, and for each part of what it is about.

## Contents
- `errorText`: what an error code stands for.
- `LogDetails`: what a record is about.
- `LogEntry`: a record as it is written, with `LogEntry.amend` and `LogEntry.within`.
- `LogEntry.line`: a record as a line for a terminal, in colours if the terminal shows them.
- `LogEntry.members`: a record as the members of a JSON object.
-/

namespace DocLinks

/-- The error codes with what they stand for. -/
def errorTexts : List (String × String) :=
  [("LNK-01", "Broken link"), ("LNK-02", "Redirect available for missing target"),
    ("LNK-03", "No fix suggestion found"), ("ANC-01", "Anchor not found"),
    ("ANC-02", "Anchor target file missing"), ("NAV-01", "Navigation file unreadable"),
    ("NAV-02", "Navigation entry target missing"),
    ("RDR-01", "Redirect configuration unreadable"),
    ("RDR-02", "Redirect configuration missing"), ("RDR-03", "Redirect append failed"),
    ("RDR-04", "Redirect target missing"), ("FIX-01", "Link text not found on recorded line"),
    ("FIX-02", "Line out of range"), ("FIX-03", "File write failed"),
    ("FS-01", "File unreadable"), ("FS-02", "File too large"),
    ("CFG-01", "Invalid configuration")]

/-- What an error code stands for. -/
def errorText (code : String) : String := (errorTexts.lookup code).getD "Unknown error"

/-! ## What a record is about -/

/-- What a record is about, in any values; nothing stands for what is not known. -/
structure LogDetails where
  component : Value := .null
  filePath : Value := .null
  lineNumber : Value := .null
  errorCode : Value := .null
  operation : Value := .null
  deriving Inhabited

/-- The first of two values, unless it is nothing. -/
def givenOr (v other : Value) : Value :=
  match v with
  | .null => other
  | v => v

namespace LogDetails

/-- The details with their gaps filled from other ones. -/
def orElse (d other : LogDetails) : LogDetails where
  component := givenOr d.component other.component
  filePath := givenOr d.filePath other.filePath
  lineNumber := givenOr d.lineNumber other.lineNumber
  errorCode := givenOr d.errorCode other.errorCode
  operation := givenOr d.operation other.operation

/-- The names of the details with their values. -/
def named (d : LogDetails) : List (String × Value) :=
  [("component", d.component), ("file_path", d.filePath), ("line_number", d.lineNumber),
    ("error_code", d.errorCode), ("operation", d.operation)]

/-- The details that are known, by name. -/
def members (d : LogDetails) : Dict :=
  d.named.filterMap fun (name, v) => match v with
    | .null => none
    | v => some (.text name, v)

/-- The details with one of them set by its name; other names change nothing. -/
def put (d : LogDetails) (name : String) (v : Value) : LogDetails :=
  match name with
  | "component" => { d with component := v }
  | "file_path" => { d with filePath := v }
  | "line_number" => { d with lineNumber := v }
  | "error_code" => { d with errorCode := v }
  | "operation" => { d with operation := v }
  | _ => d

/-- The details that a mapping names; it can name nothing else. -/
def ofValue (v : Value) : Except ShapeFault LogDetails :=
  match v with
  | .dict entries =>
    let names := ({} : LogDetails).named.map Prod.fst
    if (Dict.textKeys entries).all names.contains then
      .ok ((Dict.textEntries entries).foldl (fun d e => d.put e.1 e.2) {})
    else .error .wrongType
  | _ => .error .wrongType

end LogDetails

/-- What a record of this library is about. -/
def LogContext.details (c : LogContext) : LogDetails :=
  let textOr (s : Option String) : Value := (s.map Value.text).getD .null
  { component := textOr c.component
    filePath := textOr c.filePath
    lineNumber := (c.lineNumber.map Value.int).getD .null
    errorCode := textOr c.errorCode
    operation := textOr c.operation }

/-! ## Records as they are written -/

/-- A record as it is written. The error that it reports may turn out to be none. -/
structure LogEntry where
  level : Value
  logger : Value
  message : Value
  arguments : Arguments := .row []
  details : LogDetails := {}
  error : Except ShapeFault (Option String) := .ok none

/-- How a record reports an error with a text. -/
def errorReport (text : String) : String :=
  if text = "" then "ValueError" else "ValueError: " ++ text

/-- The report of something that should be an error with its place. The row of it is right only if
it says that there is none. -/
def reportOf (v : Value) : Except ShapeFault (Option String) :=
  if !v.isTruthy then .ok none
  else
    match v with
    | .dict _ => .error .noKey
    | .text s => .error (if s.length < 3 then .noIndex else .noAttribute)
    | .list (_ :: .null :: .null :: _) => .ok (some "NoneType: None")
    | .list items => .error (if items.length < 3 then .noIndex else .noAttribute)
    | _ => .error .wrongType

namespace LogEntry

/-- The record with one of its parts set by its name; other names change nothing. -/
def put (r : LogEntry) (name : String) (v : Value) : LogEntry :=
  match name with
  | "name" => { r with logger := v }
  | "levelname" => { r with level := v }
  | "msg" => { r with message := v }
  | "args" => { r with arguments := .ofValue v }
  | "exc_info" => { r with error := reportOf v }
  | _ => { r with details := r.details.put name v }

/-- The record with parts set by their names. -/
def amend (r : LogEntry) (parts : Dict) : LogEntry :=
  (Dict.textEntries parts).foldl (fun r e => r.put e.1 e.2) r

/-- The record in a context that fills its gaps. -/
def within (r : LogEntry) (context : LogDetails) : LogEntry :=
  { r with details := r.details.orElse context }

/-- The message of a record with its arguments. -/
def text (r : LogEntry) : Except FormFault String := messageWith r.message.plain r.arguments

/-! ### Lines -/

/-- The sequences that switch a terminal to the colour of a level, by its word, and back. -/
def colors : List (String × String) :=
  [("DEBUG", "\x1b[36m"), ("INFO", "\x1b[32m"), ("WARNING", "\x1b[33m"), ("ERROR", "\x1b[31m"),
    ("CRITICAL", "\x1b[35m"), ("RESET", "\x1b[0m")]

/-- The sequence of a word; any other value has none. -/
def colorOf (v : Value) : String :=
  match v with
  | .text s => (colors.lookup s).getD ""
  | _ => ""

/-- The level in the colour that it has. -/
def coloredLevel (level : Value) : Except FormFault String :=
  if level.isHashable then .ok (colorOf level ++ level.plain ++ colorOf (.text "RESET"))
  else .error (.shape .wrongType)

/-- The level without a colour, which has to be a word. -/
def plainLevel (level : Value) : Except FormFault String :=
  match level with
  | .text s => .ok s
  | _ => .error (.shape .wrongType)

/-- The component in a line, if there is one. -/
def componentPart (d : LogDetails) : List String :=
  if d.component.isTruthy then ["[" ++ d.component.plain ++ "]"] else []

/-- The place in a line. A line number counts only with a file, and the number zero is none. -/
def placePart (d : LogDetails) : List String :=
  if !d.filePath.isTruthy then []
  else if d.lineNumber.isTruthy then ["(" ++ d.filePath.plain ++ ":" ++ d.lineNumber.plain ++ ")"]
  else ["(" ++ d.filePath.plain ++ ")"]

/-- The error code in a line, with what it stands for. -/
def codePart (d : LogDetails) : Except FormFault (List String) :=
  if !d.errorCode.isTruthy then .ok []
  else
    match d.errorCode with
    | .text s => .ok ["[" ++ s ++ ": " ++ errorText s ++ "]"]
    | v =>
      if v.isHashable then .ok ["[" ++ v.plain ++ ": " ++ errorText "" ++ "]"]
      else .error (.shape .wrongType)

/-- The line of a record: its level, its component, the place that it is about, its message and its
error code. Whatever is missing or empty is left out. -/
def line (r : LogEntry) (inColors : Bool) : Except FormFault String := do
  let colored ← if inColors then (coloredLevel r.level).map some else pure none
  let message ← r.text
  let code ← codePart r.details
  let level ← match colored with
    | some s => pure s
    | none => plainLevel r.level
  return " ".intercalate
    ([level] ++ componentPart r.details ++ placePart r.details ++ [message] ++ code)

/-! ### Objects -/

/-- The members of the JSON object of a record, except for its time. -/
def members (r : LogEntry) : Except FormFault Dict := do
  let message ← r.text
  let error ← r.error.mapError .shape
  return [(.text "level", r.level), (.text "message", .text message), (.text "logger", r.logger)] ++
    r.details.members ++ (error.map fun e => (Value.text "exception", Value.text e)).toList

end LogEntry

end DocLinks
