import DocLinks.Text.DomainName.Prepared
import DocLinks.Text.Punycode
import DocLinks.Text.Quoted

/-!
# Names of domains

A name is made of labels with dots between them. A label with characters beyond ASCII is written in
Punycode behind a mark.

## Contents
- `writeLabel`: how a text is written as a label.
- `ofBytes`: the text of a name.
-/

namespace DocLinks.Text.DomainName

open Punycode

/-- Why bytes are no name of a domain. -/
inductive Fault where
  | bytes (f : DecodeFault)
  | label (f : Punycode.Fault)
  | form (f : LabelFault)
  | length
  /-- The text begins as labels do that stand for another text. -/
  | marked
  /-- The label is not what its text is written as. -/
  | notWritten (found written : String)

def LabelFault.message : LabelFault → String
  | banned n => "Invalid character " ++ quoted (.ofList (spell n))
  | mixedDirections => "Violation of BIDI requirement 2"
  | otherEnd => "Violation of BIDI requirement 3"

def Fault.message : Fault → String
  | bytes f => f.message
  | label f => "decoding with 'punycode' codec failed (UnicodeError: " ++ f.message ++ ")"
  | form f => f.message
  | length => "label empty or too long"
  | marked => "Label starts with ACE prefix"
  | notWritten found written =>
    "('IDNA does not round-trip', b" ++ quoted found ++ ", b" ++ quoted written ++ ")"

/-- The mark of a label that stands for another text. -/
def mark : List Char := "xn--".toList

/-- The label, if it has a length that labels have. -/
def ofLength (label : List Char) : Except Fault (List Char) :=
  if !label.isEmpty && label.length < 64 then .ok label else .error .length

/-- Whether all code points of a text are ASCII. -/
def isAscii (text : List Nat) : Bool := text.all (· < firstPoint)

/-- How a text is written as a label. -/
def writeLabel (text : List Nat) : Except Fault (List Char) := do
  if isAscii text then
    ofLength (text.map Char.ofNat)
  else
    let form ← (prepare text).mapError .form
    let label := if isAscii form then form.map Char.ofNat else mark ++ encode form
    if !isAscii form && mark.isPrefixOf (form.map Char.ofNat) then throw .marked
    ofLength label

/-- The text of a label. -/
def labelText (label : List Char) : Except Fault (List Char) := do
  if !mark.isPrefixOf label then return label
  let bytes := (label.drop mark.length).map fun c => UInt8.ofNat c.toNat
  let text ← (decodePoints bytes).mapError .label
  let written ← writeLabel text
  if label.map Char.toLower = written then return text.flatMap spell
  else throw (.notWritten (.ofList label) (.ofList written))

/-- The text of a name. -/
def ofBytes (bytes : List UInt8) : Except Fault (List Char) := do
  let cs ← (Ascii.decode bytes).mapError .bytes
  let labels ← (cs.splitOn '.').mapM labelText
  return ['.'].intercalate labels

end DocLinks.Text.DomainName
