import DocLinks.Text.DomainName
import DocLinks.Text.EastAsian.Iso2022
import DocLinks.Text.EncodingNames
import DocLinks.Text.Escaped
import DocLinks.Text.Utf7
import DocLinks.Text.Utf8
import DocLinks.Text.WideUnits

/-!
# Encodings

## Contents
- `Encoding`, `Encoding.ofName`: the encodings of files and their names.
- `eastAsian`: the encodings by tables.
- `Encoding.decode`: bytes as text.
-/

namespace DocLinks.Text

open WideUnits EastAsian

/-- How the bytes of a file stand for characters. An encoding by units of several bytes whose order
is not given has a mark at the beginning. -/
inductive Encoding where
  | utf8
  /-- UTF-8 with a mark at the beginning, which is no part of the text and may be missing. -/
  | utf8Marked
  | ascii
  | latin1
  | utf16 (order : Option ByteOrder)
  | utf32 (order : Option ByteOrder)
  | utf7
  | escaped
  | rawEscaped
  | punycode
  | domain
  /-- An encoding in which nothing is text. -/
  | undefined
  | page (p : CodePage)
  | table (name : String) (read : List UInt8 → Except SignFault (List Char))

/-- Why a name is not that of an encoding of text. -/
inductive EncodingFault where
  | unknown (name : String)
  /-- What has the name does not encode text. -/
  | notText (name : String)
  | nullByte

/-- Why bytes are no text in an encoding, where that is no flaw in a place. -/
inductive TextFault where
  /-- The mark that tells the order of the bytes is missing. -/
  | noMark (encoding : String)
  | undefined
  | label (f : Punycode.Fault)
  | domain (f : DomainName.Fault)

def TextFault.message : TextFault → String
  | noMark encoding => encoding ++ " stream does not start with BOM"
  | undefined => "undefined encoding"
  | label f => f.message
  | domain f => f.message

/-- Why bytes are no text in an encoding. -/
inductive ReadFault where
  | flaw (f : DecodeFault)
  | text (f : TextFault)

namespace Encoding

/-! ## Names -/

/-- The encodings that are no code pages. -/
def others : List (String × Encoding) :=
  [("utf_8", utf8), ("utf_8_sig", utf8Marked), ("ascii", ascii), ("latin_1", latin1),
    ("charmap", latin1), ("utf_16", utf16 none), ("utf_16_le", utf16 (some .little)),
    ("utf_16_be", utf16 (some .big)), ("utf_32", utf32 none), ("utf_32_le", utf32 (some .little)),
    ("utf_32_be", utf32 (some .big)), ("utf_7", utf7), ("unicode_escape", escaped),
    ("raw_unicode_escape", rawEscaped), ("punycode", punycode), ("idna", domain),
    ("undefined", undefined)]

/-- Bytes read by signs from their beginning. -/
def bySigns {σ : Type} (signOf : σ → UInt8 → List UInt8 → Sign σ) (state : σ)
    (bytes : List UInt8) : Except SignFault (List Char) := charsBySigns signOf 0 state [] bytes

/-- The encodings by tables. -/
def eastAsian : List (String × (List UInt8 → Except SignFault (List Char))) :=
  [("gb2312", bySigns (pairedSign gb2312Chars?) ()), ("gbk", bySigns (pairedSign gbkChars?) ()),
    ("gb18030", bySigns gb18030Sign ()), ("hz", bySigns hzSign false),
    ("big5", bySigns (pairedSign big5Chars?) ()), ("cp950", bySigns (pairedSign cp950Chars?) ()),
    ("big5hkscs", bySigns (pairedSign hkscsChars?) ()), ("euc_kr", bySigns eucKrSign ()),
    ("cp949", bySigns (pairedSign uhcChars?) ()), ("johab", bySigns (pairedSign johabChars?) ()),
    ("euc_jp", bySigns eucJpSign ()), ("euc_jisx0213", bySigns (eucJisSign .first) ()),
    ("euc_jis_2004", bySigns (eucJisSign .second) ()), ("shift_jis", bySigns shiftJisSign ()),
    ("cp932", bySigns cp932Sign ()),
    ("shift_jisx0213", bySigns (shiftJis2004Sign .first) ()),
    ("shift_jis_2004", bySigns (shiftJis2004Sign .second) ()),
    ("iso2022_kr", bySigns (iso2022Sign iso2022Kr) {}),
    ("iso2022_jp", bySigns (iso2022Sign iso2022Jp) {}),
    ("iso2022_jp_1", bySigns (iso2022Sign iso2022Jp1) {}),
    ("iso2022_jp_2", bySigns (iso2022Sign iso2022Jp2) {}),
    ("iso2022_jp_3", bySigns (iso2022Sign iso2022Jp3) {}),
    ("iso2022_jp_2004", bySigns (iso2022Sign iso2022Jp2004) {}),
    ("iso2022_jp_ext", bySigns (iso2022Sign iso2022JpExt) {})]

/-- What has the name of an encoding and does not encode text. -/
def transforms : List String :=
  ["base64_codec", "bz2_codec", "hex_codec", "quopri_codec", "rot_13", "uu_codec", "zlib_codec"]

/-- The words of a name, cut at what is no letter, no digit and no dot. -/
def nameWords (cs : List Char) : List (List Char) :=
  (cs.splitOnP fun c => !(c.isAlphanum || c == '.')).filter (!·.isEmpty)

/-- A name in the form that names are compared in. -/
def nameForm (name : String) : String :=
  "_".intercalate ((nameWords name.toList).map fun w => .ofList (w.map Char.toLower))

/-- The name of its own that an encoding with another name has. -/
def ownName? (other : String) : Option String :=
  (encodingNames.find? fun e => e.2.contains other).map Prod.fst

/-- The encoding of a name. Letter case does not matter, nor does what separates its parts; a dot
does so only in names that stand for others. -/
def ofName (name : String) : Except EncodingFault Encoding :=
  let form := nameForm name
  let dotless := String.ofList (form.toList.map fun c => if c = '.' then '_' else c)
  let own := ((ownName? form).or (ownName? dotless)).getD form
  if name.toList.contains '\x00' then .error .nullByte
  else if name = "locale" then .ok .utf8
  else if transforms.contains own then .error (.notText name)
  else
    match others.lookup own, CodePage.ofName? own, eastAsian.lookup own with
    | some e, _, _ => .ok e
    | none, some p, _ => .ok (.page p)
    | none, none, some read => .ok (.table own read)
    | none, none, none => .error (.unknown name)

/-! ## Decoding -/

/-- The bytes without the mark of UTF-8 at their beginning. Of bytes that only begin such a mark
nothing is left. -/
def dropMark (bytes : List UInt8) : List UInt8 :=
  let mark := [0xEF, 0xBB, 0xBF]
  if bytes.isPrefixOf mark || mark.isPrefixOf bytes then bytes.drop mark.length else bytes

/-- Bytes by a code page, the first one with the number `position`; `read` is what was read before
them, the last character first. -/
def decodePage (p : CodePage) (position : Nat) (read : List Char) :
    List UInt8 → Except DecodeFault (List Char)
  | [] => .ok read.reverse
  | b :: rest =>
    match p.char? b with
    | some c => decodePage p (position + 1) (c :: read) rest
    | none => .error ⟨"charmap", b, position, 1, .unassigned⟩

/-- A fault of an encoding by tables as one with a flaw. -/
def ofSignFault (encoding : String) (f : SignFault) : ReadFault :=
  .flaw ⟨encoding, f.byte, f.position, f.width, if f.isShort then .cutCell else .noCell⟩

/-- A fault of Punycode; a flaw of its bytes is one of ASCII. -/
def ofLabelFault : Punycode.Fault → ReadFault
  | .bytes f => .flaw f
  | f => .text (.label f)

/-- A fault in the name of a domain; a flaw of its bytes is one of ASCII. -/
def ofDomainFault : DomainName.Fault → ReadFault
  | .bytes f => .flaw f
  | f => .text (.domain f)

/-- Units of `size` bytes whose order a mark tells. Without it the little order counts for finding
flaws, but there is no text. -/
def decodeMarked (encoding : String) (size : Nat)
    (decode : ByteOrder → Nat → List UInt8 → Except DecodeFault (List Char))
    (bytes : List UInt8) : Except ReadFault (List Char) :=
  match orderOf? size bytes with
  | some order => (decode order size (bytes.drop size)).mapError .flaw
  | none =>
    match decode .little 0 bytes with
    | .error f => .error (.flaw f)
    | .ok cs => if bytes.isEmpty then .ok cs else .error (.text (.noMark encoding))

/-- Bytes as the characters of an encoding. -/
def decodeChars : Encoding → List UInt8 → Except ReadFault (List Char)
  | utf8, bytes => (Utf8.decodeFrom 0 bytes).mapError .flaw
  | utf8Marked, bytes => (Utf8.decodeFrom 0 (dropMark bytes)).mapError .flaw
  | ascii, bytes => (Ascii.decode bytes).mapError .flaw
  | latin1, bytes => .ok (bytes.map fun b => Char.ofNat b.toNat)
  | utf16 (some order), bytes => (decode16 order 0 bytes).mapError .flaw
  | utf16 none, bytes => decodeMarked "UTF-16" 2 decode16 bytes
  | utf32 (some order), bytes => (decode32 order 0 bytes).mapError .flaw
  | utf32 none, bytes => decodeMarked "UTF-32" 4 decode32 bytes
  | utf7, bytes => (Utf7.decode bytes).mapError .flaw
  | escaped, bytes => (Escaped.decode bytes).mapError .flaw
  | rawEscaped, bytes => (Escaped.decodeRaw bytes).mapError .flaw
  | punycode, bytes => (Punycode.decode bytes).mapError ofLabelFault
  | domain, bytes => (DomainName.ofBytes bytes).mapError ofDomainFault
  | undefined, _ => .error (.text .undefined)
  | page p, bytes => (decodePage p 0 [] bytes).mapError .flaw
  | table name read, bytes => (read bytes).mapError (ofSignFault name)

/-- Bytes as text. -/
def decode (e : Encoding) (bytes : List UInt8) : Except ReadFault String :=
  (e.decodeChars bytes).map .ofList

end Encoding

end DocLinks.Text
