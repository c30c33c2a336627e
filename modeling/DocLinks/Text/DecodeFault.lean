/-!
# Bytes that are no text

Where bytes stop being text in an encoding, and why.

## Contents
- `Flaw`: why bytes stand for no character.
- `DecodeFault`, `DecodeFault.message`: a flaw and its place.
-/

namespace DocLinks.Text

/-- Why bytes are no part of a text. -/
inductive Flaw where
  /-- The byte starts no character. -/
  | start
  /-- The character is not continued as its first byte demands. -/
  | continuation
  /-- The bytes end inside a character. -/
  | cutShort
  /-- The byte is beyond ASCII in a text that is declared to be ASCII. -/
  | beyondAscii
  /-- The bytes end inside a unit of several bytes. -/
  | cutUnit
  /-- A unit ends a pair that no unit began. -/
  | secondHalf
  /-- A unit begins a pair that the next one does not end. -/
  | firstHalf
  /-- A unit is half of a pair, in an encoding without pairs. -/
  | half
  /-- A unit is greater than the number of any character. -/
  | beyondUnicode
  /-- The byte has no character on its code page. -/
  | unassigned
  /-- The bytes are no character of a table. -/
  | noCell
  /-- The bytes end inside a character of a table. -/
  | cutCell
  /-- A section of units ends inside one. -/
  | partialUnit
  /-- A section of units ends with bits that are not zero. -/
  | padding
  /-- The bytes end inside a section of units. -/
  | openSection
  /-- A section of units holds none. -/
  | illFormed
  /-- The byte is beyond ASCII where all text is ASCII. -/
  | special
  /-- Behind a letter come fewer digits than it needs. -/
  | fewDigits (letter : Char) (count : Nat)
  /-- No character has the number. -/
  | noPoint
  | pointBeyond
  /-- The name of a character is not between brackets, or is empty. -/
  | badName
  /-- No character has the name. -/
  | unknownName
  /-- The bytes end behind a backslash. -/
  | loneBackslash
  deriving DecidableEq, Repr

/-- The flaw in the words of a message. -/
def Flaw.message : Flaw → String
  | .start => "invalid start byte"
  | .continuation => "invalid continuation byte"
  | .cutShort => "unexpected end of data"
  | .beyondAscii => "ordinal not in range(128)"
  | .cutUnit => "truncated data"
  | .secondHalf => "illegal encoding"
  | .firstHalf => "illegal UTF-16 surrogate"
  | .half => "code point in surrogate code point range(0xd800, 0xe000)"
  | .beyondUnicode => "code point not in range(0x110000)"
  | .unassigned => "character maps to <undefined>"
  | .noCell => "illegal multibyte sequence"
  | .cutCell => "incomplete multibyte sequence"
  | .partialUnit => "partial character in shift sequence"
  | .padding => "non-zero padding bits in shift sequence"
  | .openSection => "unterminated shift sequence"
  | .illFormed => "ill-formed sequence"
  | .special => "unexpected special character"
  | .fewDigits letter count =>
    "truncated \\" ++ String.ofList (letter :: List.replicate count 'X') ++ " escape"
  | .noPoint => "illegal Unicode character"
  | .pointBeyond => "\\Uxxxxxxxx out of range"
  | .badName => "malformed \\N character escape"
  | .unknownName => "unknown Unicode character name"
  | .loneBackslash => "\\ at end of string"

/-- Where and why bytes are no text in their encoding: the flaw covers `width` bytes from
`position`, of which `byte` is the first. -/
structure DecodeFault where
  encoding : String
  byte : UInt8
  position : Nat
  width : Nat
  flaw : Flaw
  deriving DecidableEq, Repr

/-- The hexadecimal digits of a byte. -/
def byteDigits (b : UInt8) : String :=
  let digits := Nat.toDigits 16 b.toNat
  String.ofList (if digits.length < 2 then '0' :: digits else digits)

/-- The fault in the words of a message. -/
def DecodeFault.message (f : DecodeFault) : String :=
  let place :=
    if f.width = 1 then
      "byte 0x" ++ byteDigits f.byte ++ " in position " ++ toString f.position
    else
      "bytes in position " ++ toString f.position ++ "-" ++ toString (f.position + f.width - 1)
  "\x27" ++ f.encoding ++ "\x27 codec can\x27t decode " ++ place ++ ": " ++ f.flaw.message

end DocLinks.Text
