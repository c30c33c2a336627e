import DocLinks.Config.Yaml.Fault
import DocLinks.FileTree
import DocLinks.Text.Lines

/-!
# The text of a YAML file

A YAML file is read piece by piece while its text is taken in. Bytes that are no text, and
characters that may not stand in a YAML text, are noticed when the piece that holds them is read,
so what stands before that piece still counts.

## Contents
- `isAllowed`: the characters of YAML texts.
- `Blocks`, `Blocks.read`: bytes that are decoded block by block.
- `textOfFile`: the text of a file, and why it breaks off.
-/

namespace DocLinks.Yaml

open Text

/-- A character that may stand in a text. -/
def isAllowed (c : Char) : Bool :=
  c == '\t' || c == '\n' || c == '\r' || (' ' ≤ c && c ≤ '~') || c == '\x85' ||
    ('\u00a0' ≤ c && c ≤ '\uFFFD') || '\uFFFF' < c

/-- The number of characters of a piece. -/
def pieceSize : Nat := 4096

/-- The least number of bytes that are decoded at a time. -/
def blockSize : Nat := 8192

/-- The number of characters in the whole pieces before a character, of which the first two are read
as one. -/
def pieceStart (i : Nat) : Nat :=
  if i < 2 * pieceSize then 0 else i / pieceSize * pieceSize

/-! ## Blocks -/

/-- Bytes that are being decoded. `carried` are those of a character that is not complete; `held`
says whether a carriage return waits for what follows it. `known` are the decoded blocks, the last
one first, with `count` characters in all; the last block made `charsOfBlock` characters of
`bytesOfBlock` bytes. -/
structure Blocks where
  bytes : List UInt8
  carried : List UInt8 := []
  held : Bool := false
  known : List (List Char) := []
  count : Nat := 0
  bytesOfBlock : Nat := 0
  charsOfBlock : Nat := 0

namespace Blocks

variable (b : Blocks)

/-- The number of bytes that are decoded next: enough for the piece that is being read, as far as
the last block tells. -/
def nextSize : Nat :=
  max blockSize ((pieceSize - b.count % pieceSize) * b.bytesOfBlock / b.charsOfBlock)

/-- The decoded bytes, and those of a character that is not complete. At the end every character has
to be complete. -/
def decode (final : Bool) (bytes : List UInt8) : Except DecodeFault (List Char × List UInt8) :=
  match Utf8.decodeFrom 0 bytes with
  | .ok cs => .ok (cs, [])
  | .error f =>
    if f.flaw = .cutShort ∧ !final then
      (Utf8.decodeFrom 0 (bytes.take f.position)).map fun cs => (cs, bytes.drop f.position)
    else .error f

/-- Decodes one more block. -/
def step : Except DecodeFault Blocks := do
  let block := b.bytes.take b.nextSize
  let (cs, carried) ← decode block.isEmpty (b.carried ++ block)
  let cs := if b.held && (block.isEmpty || !cs.isEmpty) then '\r' :: cs else cs
  let held := (b.held && cs.isEmpty) || (!block.isEmpty && cs.getLast? == some '\r')
  let cs := unifyLineEnds (if !block.isEmpty && cs.getLast? = some '\r' then cs.dropLast else cs)
  return {
    bytes := b.bytes.drop block.length
    carried
    held
    known := cs :: b.known
    count := b.count + cs.length
    bytesOfBlock := block.length
    charsOfBlock := cs.length }

/-- The characters of whole pieces. -/
def wholePieces : List Char :=
  if b.count < 2 * pieceSize then []
  else b.known.reverse.flatten.take (b.count / pieceSize * pieceSize)

/-- Decodes all blocks; if a fault comes, the whole pieces before it are known. -/
def read (b : Blocks) : Nat → List Char × Option DecodeFault
  | 0 => (b.known.reverse.flatten, none)
  | fuel + 1 =>
    match b.step with
    | .error f => (b.wholePieces, some f)
    | .ok next => if b.bytes.isEmpty then (next.known.reverse.flatten, none) else next.read fuel

end Blocks

/-! ## Files -/

/-- The text as far as its pieces hold no character that may not stand in it. -/
def allowedPieces (cs : List Char) (fault : Option Fault) : List Char × Option Fault :=
  match cs.findIdx? (!isAllowed ·) with
  | some i => (cs.take (pieceStart i), some .malformed)
  | none => (cs, fault)

/-- The text of a file, and why it breaks off if it does. -/
def textOfFile : Content → List Char × Option Fault
  | .text s => allowedPieces (unifyLineEnds s.toList) none
  | .binary bytes =>
    let (cs, fault) := ({ bytes : Blocks }).read (bytes.length + 2)
    allowedPieces cs (fault.map .undecodable)

end DocLinks.Yaml
