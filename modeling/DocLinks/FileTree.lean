import DocLinks.Assoc
import DocLinks.FilePath
import DocLinks.Text.Encoding
import DocLinks.Text.Quoted
import DocLinks.Decimal.Text

/-!
# File trees

A file tree is a value: the files and folders with their places, and the places of the current and
the home directory. A place is the list of names from the root of the file system.

Look-ups walk along a path name by name, as a file system does: every name but the last has to be a
folder that exists, also a name that a later `..` takes back.

## Contents
- `Content`: what a file holds.
- `OsCode`, `FileFault`: why an operation on files fails.
- `walk`, `stat`, `isFile`, `isFolder`, `probe`: look-ups.
- `Limit`, `load`, `read`: reading a file of bounded size.
-/

namespace DocLinks

open Text

/-! ## Contents of files -/

/-- What a file holds: text, or bytes that are no text. -/
inductive Content where
  | text (s : String)
  | binary (bytes : List UInt8)
  deriving DecidableEq, Inhabited

namespace Content

/-- The content with the given bytes. -/
def ofBytes (bytes : List UInt8) : Content :=
  match Utf8.decode bytes with
  | .ok s => text s
  | .error _ => binary bytes

/-- The bytes of a content. -/
def bytes : Content → List UInt8
  | text s => s.toUTF8.toList
  | binary bs => bs

/-- The number of bytes of a content. -/
def size : Content → Nat
  | text s => s.utf8ByteSize
  | binary bs => bs.length

/-- The text of a content, or where it stops being text. -/
def read : Content → Except DecodeFault String
  | text s => .ok s
  | binary bs => Utf8.decode bs

end Content

/-! ## Faults -/

/-- The ways in which an operation of the file system fails. -/
inductive OsCode where
  | noEntry
  | busy
  | alreadyThere
  | notFolder
  | isFolder
  | nameTooLong
  deriving DecidableEq, Repr

/-- The number of a failure. -/
def OsCode.number : OsCode → Nat
  | noEntry => 2
  | busy => 16
  | alreadyThere => 17
  | notFolder => 20
  | isFolder => 21
  | nameTooLong => 36

/-- A failure in words. -/
def OsCode.words : OsCode → String
  | noEntry => "No such file or directory"
  | busy => "Device or resource busy"
  | alreadyThere => "File exists"
  | notFolder => "Not a directory"
  | isFolder => "Is a directory"
  | nameTooLong => "File name too long"

/-- The most bytes a file may have to be read. What is no number cannot be compared with a size. -/
inductive Limit where
  | whole (n : Int)
  | real (x : Double)
  | incomparable

/-- Whether a size is beyond the limit. -/
def Limit.isExceededBy : Limit → Nat → Bool
  | .whole n, size => n < size
  | .real x, size => x.isBelow size
  | .incomparable, _ => false

/-- Whether the limit is no number. -/
def Limit.isIncomparable : Limit → Bool
  | .incomparable => true
  | _ => false

/-- The limit as a message shows it. -/
def Limit.text : Limit → String
  | .whole n => Decimal.grouped n
  | .real x => Decimal.ofDouble Decimal.withCommas x
  | .incomparable => ""

/-- Why a file cannot be read or written. -/
inductive FileFault where
  /-- The file system refuses; renaming has a second path. -/
  | os (code : OsCode) (path : String) (target : Option String)
  /-- The bytes are no text. -/
  | undecodable (fault : DecodeFault)
  /-- A name holds a null character. -/
  | nullByte
  /-- The file is larger than allowed. -/
  | tooLarge (path : String) (size : Nat) (limit : Limit)
  /-- The size of the file cannot be found out. -/
  | sizeUnknown (path : String) (code : OsCode)
  /-- The limit for the size of the file is no number. -/
  | noLimit

/-- A fault of the file system in words. -/
def osMessage (code : OsCode) (path : String) (target : Option String) : String :=
  "[Errno " ++ toString code.number ++ "] " ++ code.words ++ ": " ++ quoted path ++
    match target with
    | none => ""
    | some t => " -> " ++ quoted t

/-- A fault in words. -/
def FileFault.message : FileFault → String
  | os code path target => osMessage code path target
  | undecodable f => f.message
  | nullByte => "embedded null byte"
  | tooLarge path size limit =>
    "File too large: " ++ path ++ " is " ++ Decimal.grouped size ++ " bytes (max: " ++
      limit.text ++ " bytes)"
  | sizeUnknown path code =>
    "Cannot check file size for " ++ path ++ ": " ++ osMessage code path none
  | noLimit => ""

/-! ## Trees -/

/-- What stands at a place. -/
inductive Node where
  | file (content : Content)
  | folder
  deriving DecidableEq, Inhabited

/-- A file tree, with the places of the current and the home directory. -/
structure FileTree where
  nodes : Assoc (List String) Node
  cwd : List String
  home : List String
  deriving Inhabited

namespace FileTree

variable (t : FileTree)

/-- What stands at a place; the root is always a folder. -/
def node? (place : List String) : Option Node :=
  if place = [] then some .folder else Assoc.get? t.nodes place

/-- The longest name that a file can have, in bytes. -/
def maxNameSize : Nat := 255

/-- The longest path that the file system takes, in bytes. -/
def maxPathSize : Nat := 4095

/-- Whether a path is too long for the file system. -/
def isTooLong (p : FilePath) : Bool := maxPathSize < p.text.utf8ByteSize

/-- Why there is nothing of that name. -/
def absence (name : String) : OsCode :=
  if maxNameSize < name.utf8ByteSize then .nameTooLong else .noEntry

/-- One step of a look-up, from a place to the place of a name in it. -/
def step (place : List String) (name : String) : Except OsCode (List String) :=
  match t.node? place with
  | some .folder =>
    if name = ".." then .ok place.dropLast
    else if (t.node? (place ++ [name])).isSome then .ok (place ++ [name])
    else .error (absence name)
  | some (.file _) => .error .notFolder
  | none => .error .noEntry

/-- The place that names lead to from a place. -/
def walk (place : List String) : List String → Except OsCode (List String)
  | [] => .ok place
  | n :: ns =>
    match t.step place n with
    | .ok next => walk next ns
    | .error c => .error c

/-- The place from which the names of a path are walked. -/
def start (p : FilePath) : List String := if p.isAbsolute then [] else t.cwd

/-- What stands at a path. -/
def stat (p : FilePath) : Except FileFault Node :=
  if p.hasNull then .error .nullByte
  else if isTooLong p then .error (.os .nameTooLong p.text none)
  else
    match t.walk (t.start p) p.names with
    | .error c => .error (.os c p.text none)
    | .ok place =>
      match t.node? place with
      | some n => .ok n
      | none => .error (.os .noEntry p.text none)

/-- Whether a path leads to a file. -/
def isFile (p : FilePath) : Bool :=
  match t.stat p with
  | .ok (.file _) => true
  | _ => false

/-- Whether a path leads to a folder. -/
def isFolder (p : FilePath) : Bool :=
  match t.stat p with
  | .ok .folder => true
  | _ => false

/-- What stands at a path, if anything does. That a name is too long for the file system is no
answer. -/
def probe (p : FilePath) : Except OsCode (Option Node) :=
  match t.stat p with
  | .ok n => .ok (some n)
  | .error (.os .nameTooLong _ _) => .error .nameTooLong
  | .error _ => .ok none

/-! ## Reading -/

/-- The size that a folder is reported to have. -/
def folderSize : Nat := 4096

/-- The size of what stands at a place. -/
def Node.size : Node → Nat
  | .file c => c.size
  | .folder => folderSize

/-- Whether a path may be read: it is unless something too large stands there. -/
def checkSize (limit : Limit) (p : FilePath) : Except FileFault Unit :=
  match t.probe p with
  | .error c => .error (.sizeUnknown p.text c)
  | .ok none => .ok ()
  | .ok (some n) =>
    if limit.isIncomparable then .error .noLimit
    else if limit.isExceededBy (Node.size n) then .error (.tooLarge p.text (Node.size n) limit)
    else .ok ()

/-- The content of the file at a path. -/
def open? (p : FilePath) : Except FileFault Content :=
  match t.stat p with
  | .error f => .error f
  | .ok .folder => .error (.os .isFolder p.text none)
  | .ok (.file c) => .ok c

/-- The limit for a file that no other limit is set for: ten mebibytes. -/
def defaultLimit : Limit := .whole (10 * 1024 * 1024)

/-- The content of the file at a path, if it is not too large. -/
def load (p : FilePath) (limit : Limit) : Except FileFault Content :=
  match t.checkSize limit p with
  | .error f => .error f
  | .ok () => t.open? p

/-- The text of the file at a path. -/
def read (p : FilePath) (limit : Limit) : Except FileFault String :=
  match t.load p limit with
  | .error f => .error f
  | .ok c => c.read.mapError .undecodable

end FileTree

end DocLinks
