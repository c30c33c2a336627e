import DocLinks.FileTree
import DocLinks.Json
import DocLinks.Value.Shown

/-!
# Faults

Everything that can end an operation, by cause, and what a message says about it.

## Contents
- `PathFault`, `RedirectFault`, `ConfigFault`, `ShapeFault`, `RangeFault`, `DepthFault`, `FormFault`:
  causes by subject.
- `Fault`: all causes together, with `Fault.message`.
-/

namespace DocLinks

/-- A path that cannot serve as the root of a project, or that leaves its container. -/
inductive PathFault where
  | rootMissing (root : String)
  | rootNotFolder (root : String)
  | outside (path container : String)

def PathFault.message : PathFault → String
  | rootMissing root => "Project root does not exist: " ++ root
  | rootNotFolder root => "Project root is not a directory: " ++ root
  | outside path container => "Path " ++ path ++ " is outside container " ++ container

/-- A file could not be written. -/
structure WriteFault where
  path : String
  cause : FileFault

def WriteFault.message (f : WriteFault) : String :=
  "Write error for " ++ f.path ++ ": " ++ f.cause.message

/-- The redirect configuration cannot be read or written. -/
inductive RedirectFault where
  | unreadable (path : String) (cause : FileFault)
  | unwritable (fault : WriteFault)
  | noFile

def RedirectFault.message : RedirectFault → String
  | unreadable path cause =>
    "Cannot read redirect configuration " ++ path ++ ": " ++ cause.message
  | unwritable f => f.message
  | noFile => "Redirect table has no configuration file to append to"

/-- One key of a configuration has a value that cannot be used. -/
structure KeyFault where
  key : String
  problem : String
  value : Value
  suggestion : Option String

def KeyFault.message (f : KeyFault) : String :=
  let got := match f.value with
    | .null => ""
    | v => " (got: " ++ v.shown ++ ")"
  let advice := match f.suggestion with
    | none => ""
    | some s => if s = "" then "" else ". Suggestion: " ++ s
  "Config error at '" ++ f.key ++ "': " ++ f.problem ++ got ++ advice

/-- What is said of a number with too many digits for a message. -/
def unshowableMessage : String :=
  "Exceeds the limit (4300 digits) for integer string conversion; use " ++
    "sys.set_int_max_str_digits() to increase the limit"

/-- How many errors of a configuration a message lists. -/
def listedErrors : Nat := 20

/-- The message about a configuration with errors. -/
def invalidConfigMessage (errors : List String) : String :=
  let listed := "\n".intercalate ((errors.take listedErrors).map ("  - " ++ ·))
  let more :=
    if listedErrors < errors.length then
      "\n  ... and " ++ toString (errors.length - listedErrors) ++ " more errors"
    else ""
  "Configuration validation failed with " ++ toString errors.length ++ " error(s):\n" ++
    listed ++ more

/-- A configuration file cannot be used. -/
inductive ConfigFault where
  | missing (path : String)
  | tooLarge (path : String) (size : Nat)
  | unknownFormat (suffix : String)
  | badYaml
  | badToml
  | badJson (fault : Json.Fault)
  | badNumber (base : Nat) (text : String)
  | badFloat (text : String)
  | tooManyDigits (count : Nat)
  | badMoment (fault : MomentFault)
  /-- An escape in a text gives the number of no character. -/
  | noCharacter
  | key (fault : KeyFault)
  | invalid (errors warnings : List String)

/-- How many characters of a text that is no number a message shows. -/
def shownNumber : Nat := 200

def ConfigFault.message : ConfigFault → String
  | missing path => "Config file not found: " ++ path
  | tooLarge path size =>
    "Config file too large: " ++ path ++ " (" ++ Decimal.grouped size ++
      " bytes). Maximum is 10MB."
  | unknownFormat suffix =>
    "Unsupported config format: " ++ suffix ++ ". Use .yaml, .yml, .toml, or .json"
  | badYaml => "YAML parse error"
  | badToml => "TOML parse error"
  | badJson f =>
    "JSON parse error at line " ++ toString f.line ++ ": " ++ f.problem.message
  | badNumber base text =>
    "invalid literal for int() with base " ++ toString base ++ ": " ++
      String.ofList ((Text.quoted text).toList.take shownNumber)
  | badFloat text => "could not convert string to float: " ++ Text.quoted text
  | tooManyDigits n => (Json.Problem.tooManyDigits n).message
  | badMoment f => f.message
  | noCharacter => "chr() arg not in range(0x110000)"
  | key f => f.message
  | invalid errors _ => invalidConfigMessage errors

/-- A value of the wrong shape reached code that does not check it. -/
inductive ShapeFault where
  | wrongType
  | noAttribute
  | noKey
  | noIndex
  deriving DecidableEq, Repr

/-- A number is beyond what an operation can take. -/
inductive RangeFault where
  /-- No character has the number. -/
  | character
  /-- The number does not fit the field that it is meant for. -/
  | small
  | wide
  /-- The number is beyond every floating-point number. -/
  | double
  /-- The number is infinite. -/
  | infinite
  /-- The number of digits asked for is beyond the greatest one. -/
  | precision
  deriving DecidableEq, Repr

def RangeFault.message : RangeFault → String
  | character => "%c arg not in range(0x110000)"
  | small => "Python int too large to convert to C int"
  | wide => "Python int too large to convert to C ssize_t"
  | double => "int too large to convert to float"
  | infinite => "cannot convert float infinity to integer"
  | precision => "precision too large"

/-- Something is nested too deep. -/
inductive DepthFault where
  | json (isList : Bool)
  | value
  deriving DecidableEq, Repr

def DepthFault.message : DepthFault → String
  | json isList => (Json.Problem.tooDeep isList).message
  | value => "maximum recursion depth exceeded"

/-- A message cannot take its arguments: one has the wrong shape or is too large, or a place is badly
written. -/
inductive FormFault where
  | shape (f : ShapeFault)
  | range (f : RangeFault)
  | noInteger
  | unknownMark (mark : Char) (position : Nat)
  | broken
  | brokenKey
  | wideWidth
  | widePrecision
  /-- No memory holds what the message would be. -/
  | tooLong

/-- The character of a mark, if a message can show it as it is. -/
def shownMark (c : Char) : Char := if 31 ≤ c.toNat ∧ c.toNat < 127 then c else '?'

def FormFault.message : FormFault → String
  | shape _ => ""
  | range f => f.message
  | noInteger => "cannot convert float NaN to integer"
  | unknownMark c position =>
    "unsupported format character '" ++ String.singleton (shownMark c) ++ "' (0x" ++
      String.ofList (Nat.toDigits 16 c.toNat) ++ ") at index " ++ toString position
  | broken => "incomplete format"
  | brokenKey => "incomplete format key"
  | wideWidth => "width too big"
  | widePrecision => "precision too big"
  | tooLong => ""

/-- What is said of a name that is not that of an encoding of text. -/
def encodingMessage : Text.EncodingFault → String
  | .unknown name => "unknown encoding: " ++ name
  | .notText name =>
    "\x27" ++ name ++ "\x27 is not a text encoding; use codecs.open() to handle arbitrary codecs"
  | .nullByte => "embedded null character"

/-- Why an operation ended without an answer. -/
inductive Fault where
  | file (f : FileFault)
  | path (f : PathFault)
  | write (f : WriteFault)
  | redirects (f : RedirectFault)
  | navigation (path : String) (cause : FileFault)
  | config (f : ConfigFault)
  | unknownTier (v : Value)
  | unknownLevel (name : String)
  | brokenStatus (status : String)
  | brokenWithoutError
  | emptyPath
  | encoding (f : Text.EncodingFault)
  | text (f : Text.TextFault)
  | form (f : FormFault)
  | shape (f : ShapeFault)
  | range (f : RangeFault)
  | depth (f : DepthFault)
  /-- A message would have to show an integer with too many digits. -/
  | unshowable

def Fault.message : Fault → String
  | file f => f.message
  | path f => f.message
  | write f => f.message
  | redirects f => f.message
  | navigation p cause => "Cannot read navigation file " ++ p ++ ": " ++ cause.message
  | config f => f.message
  | unknownTier v =>
    "Unknown confidence tier " ++ v.shown ++ ". Expected one of: high, medium, low"
  | unknownLevel name => "Unknown level: " ++ Text.quoted name
  | brokenStatus status => "BrokenLink requires status 'broken', got " ++ Text.quoted status
  | brokenWithoutError => "BrokenLink requires a non-empty error"
  | emptyPath => "no path specified"
  | encoding f => encodingMessage f
  | text f => f.message
  | form f => f.message
  | shape _ => ""
  | range f => f.message
  | depth f => f.message
  | unshowable => unshowableMessage

/-- The fault of a key, unless a message cannot show the value that it got. -/
def KeyFault.toFault (f : KeyFault) : Fault :=
  if f.value.isShowable then .config (.key f) else .unshowable

end DocLinks
