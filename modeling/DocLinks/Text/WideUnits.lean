import DocLinks.Text.DecodeFault

/-!
# Units of two and four bytes

UTF-16 and UTF-32: bytes that make up units in either order. A mark at the beginning tells the order
where it is not given.

## Contents
- `ByteOrder`, `ByteOrder.unit`.
- `decode16`, `decode32`: units as text.
- `orderOf?`: the order that a mark tells.
-/

namespace DocLinks.Text.WideUnits

/-- Which byte of a unit comes first: the least or the most significant one. -/
inductive ByteOrder where
  | little
  | big
  deriving DecidableEq, Repr, Inhabited

/-- The number that the bytes of a unit make. -/
def ByteOrder.unit (order : ByteOrder) (bytes : List UInt8) : Nat :=
  let bytes := if order = .big then bytes else bytes.reverse
  bytes.foldl (fun n b => n * 256 + b.toNat) 0

/-- The ending of an encoding's name that tells the order. -/
def ByteOrder.ending : ByteOrder → String
  | little => "-le"
  | big => "-be"

/-- Whether a unit begins a pair. -/
def isFirstHalf (n : Nat) : Bool := 0xD800 ≤ n && n < 0xDC00

/-- Whether a unit ends a pair. -/
def isSecondHalf (n : Nat) : Bool := 0xDC00 ≤ n && n < 0xE000

/-- The character of a pair. -/
def ofPair (first second : Nat) : Char :=
  Char.ofNat (0x10000 + (first - 0xD800) * 0x400 + (second - 0xDC00))

/-- Units of two bytes as text, from the one with the first byte's number `position` on. -/
def decode16 (order : ByteOrder) (position : Nat) :
    List UInt8 → Except DecodeFault (List Char)
  | [] => .ok []
  | [a] => .error ⟨"utf-16" ++ order.ending, a, position, 1, .cutUnit⟩
  | a :: b :: rest =>
    let n := order.unit [a, b]
    let fault (width : Nat) (flaw : Flaw) : Except DecodeFault (List Char) :=
      .error ⟨"utf-16" ++ order.ending, a, position, width, flaw⟩
    if isFirstHalf n then
      match rest with
      | c :: d :: rest =>
        let m := order.unit [c, d]
        if isSecondHalf m then (decode16 order (position + 4) rest).map (ofPair n m :: ·)
        else fault 2 .firstHalf
      | rest => fault (2 + rest.length) .cutShort
    else if isSecondHalf n then fault 2 .secondHalf
    else (decode16 order (position + 2) rest).map (Char.ofNat n :: ·)

/-- Units of four bytes as text, from the one with the first byte's number `position` on. -/
def decode32 (order : ByteOrder) (position : Nat) :
    List UInt8 → Except DecodeFault (List Char)
  | [] => .ok []
  | a :: b :: c :: d :: rest =>
    let n := order.unit [a, b, c, d]
    let fault (flaw : Flaw) : Except DecodeFault (List Char) :=
      .error ⟨"utf-32" ++ order.ending, a, position, 4, flaw⟩
    if isFirstHalf n || isSecondHalf n then fault .half
    else if 0x110000 ≤ n then fault .beyondUnicode
    else (decode32 order (position + 4) rest).map (Char.ofNat n :: ·)
  | a :: rest => .error ⟨"utf-32" ++ order.ending, a, position, 1 + rest.length, .cutUnit⟩

/-- The mark at the beginning of a text. -/
def mark : Nat := 0xFEFF

/-- The order that the first `size` bytes tell, if they are a mark. -/
def orderOf? (size : Nat) (bytes : List UInt8) : Option ByteOrder :=
  [ByteOrder.little, ByteOrder.big].find? fun order =>
    size ≤ bytes.length && order.unit (bytes.take size) == mark

end DocLinks.Text.WideUnits
