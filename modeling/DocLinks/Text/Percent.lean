import DocLinks.Text.Utf8

/-!
# Percent escapes

`decode` undoes the `%41` escapes of a link target. Each run of ASCII characters is read as bytes
of UTF-8 on its own, so an escape never joins with a character beyond ASCII; bytes that are no text
become replacement characters, and a percent sign without two hexadecimal digits stands for itself.
-/

namespace DocLinks.Text.Percent

/-- The value of a hexadecimal digit. -/
def hexValue? (c : Char) : Option Nat :=
  if '0' ≤ c ∧ c ≤ '9' then some (c.toNat - '0'.toNat)
  else if 'a' ≤ c ∧ c ≤ 'f' then some (c.toNat - 'a'.toNat + 10)
  else if 'A' ≤ c ∧ c ≤ 'F' then some (c.toNat - 'A'.toNat + 10)
  else none

/-- The bytes that a run of ASCII characters stands for. -/
def bytes : List Char → List UInt8
  | [] => []
  | '%' :: h :: l :: rest =>
    match hexValue? h, hexValue? l with
    | some a, some b => UInt8.ofNat (a * 16 + b) :: bytes rest
    | _, _ => 0x25 :: bytes (h :: l :: rest)
  | c :: rest => UInt8.ofNat c.toNat :: bytes rest

/-- An ASCII character. -/
def isAscii (c : Char) : Bool := c.toNat < 0x80

/-- The text with its percent escapes undone. -/
def decode : List Char → List Char
  | [] => []
  | c :: cs =>
    if isAscii c then
      Utf8.decodeReplacing (bytes (c :: cs.takeWhile isAscii)) ++ decode (cs.dropWhile isAscii)
    else c :: decode cs
termination_by cs => cs.length
decreasing_by
  · have := (List.dropWhile_suffix isAscii (l := cs)).length_le
    simp only [List.length_cons]
    omega
  · simp

end DocLinks.Text.Percent
