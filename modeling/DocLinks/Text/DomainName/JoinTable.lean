/-!
# Marks and what they make

## Contents
- `markRanks`: the order of marks behind a letter.
- `joins`: the characters that a letter and a mark make together.
-/

namespace DocLinks.Text.DomainName

/-- The ranks of marks, as runs of marks with the first number, the last one and the rank. Marks of
one letter are sorted by rank; what has no rank is no mark. -/
def markRanks : List (Nat × Nat × Nat) := [
  (0x300, 0x314, 230), (0x315, 0x315, 232), (0x316, 0x319, 220), (0x31A, 0x31A, 232),
  (0x31B, 0x31B, 216), (0x31C, 0x320, 220), (0x321, 0x322, 202), (0x323, 0x326, 220),
  (0x327, 0x328, 202), (0x329, 0x333, 220), (0x334, 0x338, 1), (0x339, 0x33C, 220),
  (0x33D, 0x344, 230), (0x345, 0x345, 240), (0x346, 0x346, 230), (0x347, 0x349, 220),
  (0x34A, 0x34C, 230), (0x34D, 0x34E, 220), (0x350, 0x352, 230), (0x353, 0x356, 220),
  (0x357, 0x357, 230), (0x358, 0x358, 232), (0x359, 0x35A, 220), (0x35B, 0x35B, 230),
  (0x35C, 0x35C, 233), (0x35D, 0x35E, 234), (0x35F, 0x35F, 233), (0x360, 0x361, 234),
  (0x362, 0x362, 233), (0x363, 0x36F, 230), (0x483, 0x487, 230), (0x591, 0x591, 220),
  (0x592, 0x595, 230), (0x596, 0x596, 220), (0x597, 0x599, 230), (0x59A, 0x59A, 222),
  (0x59B, 0x59B, 220), (0x59C, 0x5A1, 230), (0x5A2, 0x5A7, 220), (0x5A8, 0x5A9, 230),
  (0x5AA, 0x5AA, 220), (0x5AB, 0x5AC, 230), (0x5AD, 0x5AD, 222), (0x5AE, 0x5AE, 228),
  (0x5AF, 0x5AF, 230), (0x5B0, 0x5B0, 10), (0x5B1, 0x5B1, 11), (0x5B2, 0x5B2, 12),
  (0x5B3, 0x5B3, 13), (0x5B4, 0x5B4, 14), (0x5B5, 0x5B5, 15), (0x5B6, 0x5B6, 16),
  (0x5B7, 0x5B7, 17), (0x5B8, 0x5B8, 18), (0x5B9, 0x5BA, 19), (0x5BB, 0x5BB, 20),
  (0x5BC, 0x5BC, 21), (0x5BD, 0x5BD, 22), (0x5BF, 0x5BF, 23), (0x5C1, 0x5C1, 24),
  (0x5C2, 0x5C2, 25), (0x5C4, 0x5C4, 230), (0x5C5, 0x5C5, 220), (0x5C7, 0x5C7, 18),
  (0x610, 0x617, 230), (0x618, 0x618, 30), (0x619, 0x619, 31), (0x61A, 0x61A, 32),
  (0x64B, 0x64B, 27), (0x64C, 0x64C, 28), (0x64D, 0x64D, 29), (0x64E, 0x64E, 30),
  (0x64F, 0x64F, 31), (0x650, 0x650, 32), (0x651, 0x651, 33), (0x652, 0x652, 34),
  (0x653, 0x654, 230), (0x655, 0x656, 220), (0x657, 0x65B, 230), (0x65C, 0x65C, 220),
  (0x65D, 0x65E, 230), (0x65F, 0x65F, 220), (0x670, 0x670, 35), (0x6D6, 0x6DC, 230),
  (0x6DF, 0x6E2, 230), (0x6E3, 0x6E3, 220), (0x6E4, 0x6E4, 230), (0x6E7, 0x6E8, 230),
  (0x6EA, 0x6EA, 220), (0x6EB, 0x6EC, 230), (0x6ED, 0x6ED, 220), (0x711, 0x711, 36),
  (0x730, 0x730, 230), (0x731, 0x731, 220), (0x732, 0x733, 230), (0x734, 0x734, 220),
  (0x735, 0x736, 230), (0x737, 0x739, 220), (0x73A, 0x73A, 230), (0x73B, 0x73C, 220),
  (0x73D, 0x73D, 230), (0x73E, 0x73E, 220), (0x73F, 0x741, 230), (0x742, 0x742, 220),
  (0x743, 0x743, 230), (0x744, 0x744, 220), (0x745, 0x745, 230), (0x746, 0x746, 220),
  (0x747, 0x747, 230), (0x748, 0x748, 220), (0x749, 0x74A, 230), (0x7EB, 0x7F1, 230),
  (0x7F2, 0x7F2, 220), (0x7F3, 0x7F3, 230), (0x7FD, 0x7FD, 220), (0x816, 0x819, 230),
  (0x81B, 0x823, 230), (0x825, 0x827, 230), (0x829, 0x82D, 230), (0x859, 0x85B, 220),
  (0x898, 0x898, 230), (0x899, 0x89B, 220), (0x89C, 0x89F, 230), (0x8CA, 0x8CE, 230),
  (0x8CF, 0x8D3, 220), (0x8D4, 0x8E1, 230), (0x8E3, 0x8E3, 220), (0x8E4, 0x8E5, 230),
  (0x8E6, 0x8E6, 220), (0x8E7, 0x8E8, 230), (0x8E9, 0x8E9, 220), (0x8EA, 0x8EC, 230),
  (0x8ED, 0x8EF, 220), (0x8F0, 0x8F0, 27), (0x8F1, 0x8F1, 28), (0x8F2, 0x8F2, 29),
  (0x8F3, 0x8F5, 230), (0x8F6, 0x8F6, 220), (0x8F7, 0x8F8, 230), (0x8F9, 0x8FA, 220),
  (0x8FB, 0x8FF, 230), (0x93C, 0x93C, 7), (0x94D, 0x94D, 9), (0x951, 0x951, 230),
  (0x952, 0x952, 220), (0x953, 0x954, 230), (0x9BC, 0x9BC, 7), (0x9CD, 0x9CD, 9),
  (0x9FE, 0x9FE, 230), (0xA3C, 0xA3C, 7), (0xA4D, 0xA4D, 9), (0xABC, 0xABC, 7), (0xACD, 0xACD, 9),
  (0xB3C, 0xB3C, 7), (0xB4D, 0xB4D, 9), (0xBCD, 0xBCD, 9), (0xC3C, 0xC3C, 7), (0xC4D, 0xC4D, 9),
  (0xC55, 0xC55, 84), (0xC56, 0xC56, 91), (0xCBC, 0xCBC, 7), (0xCCD, 0xCCD, 9), (0xD3B, 0xD3C, 9),
  (0xD4D, 0xD4D, 9), (0xDCA, 0xDCA, 9), (0xE38, 0xE39, 103), (0xE3A, 0xE3A, 9),
  (0xE48, 0xE4B, 107), (0xEB8, 0xEB9, 118), (0xEBA, 0xEBA, 9), (0xEC8, 0xECB, 122),
  (0xF18, 0xF19, 220), (0xF35, 0xF35, 220), (0xF37, 0xF37, 220), (0xF39, 0xF39, 216),
  (0xF71, 0xF71, 129), (0xF72, 0xF72, 130), (0xF74, 0xF74, 132), (0xF7A, 0xF7D, 130),
  (0xF80, 0xF80, 130), (0xF82, 0xF83, 230), (0xF84, 0xF84, 9), (0xF86, 0xF87, 230),
  (0xFC6, 0xFC6, 220), (0x1037, 0x1037, 7), (0x1039, 0x103A, 9), (0x108D, 0x108D, 220),
  (0x135D, 0x135F, 230), (0x1714, 0x1715, 9), (0x1734, 0x1734, 9), (0x17D2, 0x17D2, 9),
  (0x17DD, 0x17DD, 230), (0x18A9, 0x18A9, 228), (0x1939, 0x1939, 222), (0x193A, 0x193A, 230),
  (0x193B, 0x193B, 220), (0x1A17, 0x1A17, 230), (0x1A18, 0x1A18, 220), (0x1A60, 0x1A60, 9),
  (0x1A75, 0x1A7C, 230), (0x1A7F, 0x1A7F, 220), (0x1AB0, 0x1AB4, 230), (0x1AB5, 0x1ABA, 220),
  (0x1ABB, 0x1ABC, 230), (0x1ABD, 0x1ABD, 220), (0x1ABF, 0x1AC0, 220), (0x1AC1, 0x1AC2, 230),
  (0x1AC3, 0x1AC4, 220), (0x1AC5, 0x1AC9, 230), (0x1ACA, 0x1ACA, 220), (0x1ACB, 0x1ACE, 230),
  (0x1B34, 0x1B34, 7), (0x1B44, 0x1B44, 9), (0x1B6B, 0x1B6B, 230), (0x1B6C, 0x1B6C, 220),
  (0x1B6D, 0x1B73, 230), (0x1BAA, 0x1BAB, 9), (0x1BE6, 0x1BE6, 7), (0x1BF2, 0x1BF3, 9),
  (0x1C37, 0x1C37, 7), (0x1CD0, 0x1CD2, 230), (0x1CD4, 0x1CD4, 1), (0x1CD5, 0x1CD9, 220),
  (0x1CDA, 0x1CDB, 230), (0x1CDC, 0x1CDF, 220), (0x1CE0, 0x1CE0, 230), (0x1CE2, 0x1CE8, 1),
  (0x1CED, 0x1CED, 220), (0x1CF4, 0x1CF4, 230), (0x1CF8, 0x1CF9, 230), (0x1DC0, 0x1DC1, 230),
  (0x1DC2, 0x1DC2, 220), (0x1DC3, 0x1DC9, 230), (0x1DCA, 0x1DCA, 220), (0x1DCB, 0x1DCC, 230),
  (0x1DCD, 0x1DCD, 234), (0x1DCE, 0x1DCE, 214), (0x1DCF, 0x1DCF, 220), (0x1DD0, 0x1DD0, 202),
  (0x1DD1, 0x1DF5, 230), (0x1DF6, 0x1DF6, 232), (0x1DF7, 0x1DF8, 228), (0x1DF9, 0x1DF9, 220),
  (0x1DFA, 0x1DFA, 218), (0x1DFB, 0x1DFB, 230), (0x1DFC, 0x1DFC, 233), (0x1DFD, 0x1DFD, 220),
  (0x1DFE, 0x1DFE, 230), (0x1DFF, 0x1DFF, 220), (0x20D0, 0x20D1, 230), (0x20D2, 0x20D3, 1),
  (0x20D4, 0x20D7, 230), (0x20D8, 0x20DA, 1), (0x20DB, 0x20DC, 230), (0x20E1, 0x20E1, 230),
  (0x20E5, 0x20E6, 1), (0x20E7, 0x20E7, 230), (0x20E8, 0x20E8, 220), (0x20E9, 0x20E9, 230),
  (0x20EA, 0x20EB, 1), (0x20EC, 0x20EF, 220), (0x20F0, 0x20F0, 230), (0x2CEF, 0x2CF1, 230),
  (0x2D7F, 0x2D7F, 9), (0x2DE0, 0x2DFF, 230), (0x302A, 0x302A, 218), (0x302B, 0x302B, 228),
  (0x302C, 0x302C, 232), (0x302D, 0x302D, 222), (0x302E, 0x302F, 224), (0x3099, 0x309A, 8),
  (0xA66F, 0xA66F, 230), (0xA674, 0xA67D, 230), (0xA69E, 0xA69F, 230), (0xA6F0, 0xA6F1, 230),
  (0xA806, 0xA806, 9), (0xA82C, 0xA82C, 9), (0xA8C4, 0xA8C4, 9), (0xA8E0, 0xA8F1, 230),
  (0xA92B, 0xA92D, 220), (0xA953, 0xA953, 9), (0xA9B3, 0xA9B3, 7), (0xA9C0, 0xA9C0, 9),
  (0xAAB0, 0xAAB0, 230), (0xAAB2, 0xAAB3, 230), (0xAAB4, 0xAAB4, 220), (0xAAB7, 0xAAB8, 230),
  (0xAABE, 0xAABF, 230), (0xAAC1, 0xAAC1, 230), (0xAAF6, 0xAAF6, 9), (0xABED, 0xABED, 9),
  (0xFB1E, 0xFB1E, 26), (0xFE20, 0xFE26, 230), (0xFE27, 0xFE2D, 220), (0xFE2E, 0xFE2F, 230),
  (0x101FD, 0x101FD, 220), (0x102E0, 0x102E0, 220), (0x10376, 0x1037A, 230),
  (0x10A0D, 0x10A0D, 220), (0x10A0F, 0x10A0F, 230), (0x10A38, 0x10A38, 230),
  (0x10A39, 0x10A39, 1), (0x10A3A, 0x10A3A, 220), (0x10A3F, 0x10A3F, 9), (0x10AE5, 0x10AE5, 230),
  (0x10AE6, 0x10AE6, 220), (0x10D24, 0x10D27, 230), (0x10EAB, 0x10EAC, 230),
  (0x10F46, 0x10F47, 220), (0x10F48, 0x10F4A, 230), (0x10F4B, 0x10F4B, 220),
  (0x10F4C, 0x10F4C, 230), (0x10F4D, 0x10F50, 220), (0x10F82, 0x10F82, 230),
  (0x10F83, 0x10F83, 220), (0x10F84, 0x10F84, 230), (0x10F85, 0x10F85, 220),
  (0x11046, 0x11046, 9), (0x11070, 0x11070, 9), (0x1107F, 0x1107F, 9), (0x110B9, 0x110B9, 9),
  (0x110BA, 0x110BA, 7), (0x11100, 0x11102, 230), (0x11133, 0x11134, 9), (0x11173, 0x11173, 7),
  (0x111C0, 0x111C0, 9), (0x111CA, 0x111CA, 7), (0x11235, 0x11235, 9), (0x11236, 0x11236, 7),
  (0x112E9, 0x112E9, 7), (0x112EA, 0x112EA, 9), (0x1133B, 0x1133C, 7), (0x1134D, 0x1134D, 9),
  (0x11366, 0x1136C, 230), (0x11370, 0x11374, 230), (0x11442, 0x11442, 9), (0x11446, 0x11446, 7),
  (0x1145E, 0x1145E, 230), (0x114C2, 0x114C2, 9), (0x114C3, 0x114C3, 7), (0x115BF, 0x115BF, 9),
  (0x115C0, 0x115C0, 7), (0x1163F, 0x1163F, 9), (0x116B6, 0x116B6, 9), (0x116B7, 0x116B7, 7),
  (0x1172B, 0x1172B, 9), (0x11839, 0x11839, 9), (0x1183A, 0x1183A, 7), (0x1193D, 0x1193E, 9),
  (0x11943, 0x11943, 7), (0x119E0, 0x119E0, 9), (0x11A34, 0x11A34, 9), (0x11A47, 0x11A47, 9),
  (0x11A99, 0x11A99, 9), (0x11C3F, 0x11C3F, 9), (0x11D42, 0x11D42, 7), (0x11D44, 0x11D45, 9),
  (0x11D97, 0x11D97, 9), (0x16AF0, 0x16AF4, 1), (0x16B30, 0x16B36, 230), (0x16FF0, 0x16FF1, 6),
  (0x1BC9E, 0x1BC9E, 1), (0x1D165, 0x1D166, 216), (0x1D167, 0x1D169, 1), (0x1D16D, 0x1D16D, 226),
  (0x1D16E, 0x1D172, 216), (0x1D17B, 0x1D182, 220), (0x1D185, 0x1D189, 230),
  (0x1D18A, 0x1D18B, 220), (0x1D1AA, 0x1D1AD, 230), (0x1D242, 0x1D244, 230),
  (0x1E000, 0x1E006, 230), (0x1E008, 0x1E018, 230), (0x1E01B, 0x1E021, 230),
  (0x1E023, 0x1E024, 230), (0x1E026, 0x1E02A, 230), (0x1E130, 0x1E136, 230),
  (0x1E2AE, 0x1E2AE, 230), (0x1E2EC, 0x1E2EF, 230), (0x1E8D0, 0x1E8D6, 220),
  (0x1E944, 0x1E949, 230), (0x1E94A, 0x1E94A, 7)]

/-- The letters that a mark joins, each with the marks and what they make of it in turns. -/
def joins : List (Char × String) := [
  ('<', "\u0338≮"),
  ('=', "\u0338≠"),
  ('>', "\u0338≯"),
  ('a', "\u0300à\u0301á\u0302â\u0303ã\u0304ā\u0306ă\u0307ȧ\u0308ä\u0309ả\u030aå\u030cǎ\u030fȁ" ++
    "\u0311ȃ\u0323ạ\u0325ḁ\u0328ą"),
  ('b', "\u0307ḃ\u0323ḅ\u0331ḇ"),
  ('c', "\u0301ć\u0302ĉ\u0307ċ\u030cč\u0327ç"),
  ('d', "\u0307ḋ\u030cď\u0323ḍ\u0327ḑ\u032dḓ\u0331ḏ"),
  ('e', "\u0300è\u0301é\u0302ê\u0303ẽ\u0304ē\u0306ĕ\u0307ė\u0308ë\u0309ẻ\u030cě\u030fȅ\u0311ȇ" ++
    "\u0323ẹ\u0327ȩ\u0328ę\u032dḙ\u0330ḛ"),
  ('f', "\u0307ḟ"),
  ('g', "\u0301ǵ\u0302ĝ\u0304ḡ\u0306ğ\u0307ġ\u030cǧ\u0327ģ"),
  ('h', "\u0302ĥ\u0307ḣ\u0308ḧ\u030cȟ\u0323ḥ\u0327ḩ\u032eḫ\u0331ẖ"),
  ('i', "\u0300ì\u0301í\u0302î\u0303ĩ\u0304ī\u0306ĭ\u0308ï\u0309ỉ\u030cǐ\u030fȉ\u0311ȋ\u0323ị" ++
    "\u0328į\u0330ḭ"),
  ('j', "\u0302ĵ\u030cǰ"),
  ('k', "\u0301ḱ\u030cǩ\u0323ḳ\u0327ķ\u0331ḵ"),
  ('l', "\u0301ĺ\u030cľ\u0323ḷ\u0327ļ\u032dḽ\u0331ḻ"),
  ('m', "\u0301ḿ\u0307ṁ\u0323ṃ"),
  ('n', "\u0300ǹ\u0301ń\u0303ñ\u0307ṅ\u030cň\u0323ṇ\u0327ņ\u032dṋ\u0331ṉ"),
  ('o', "\u0300ò\u0301ó\u0302ô\u0303õ\u0304ō\u0306ŏ\u0307ȯ\u0308ö\u0309ỏ\u030bő\u030cǒ\u030fȍ" ++
    "\u0311ȏ\u031bơ\u0323ọ\u0328ǫ"),
  ('p', "\u0301ṕ\u0307ṗ"),
  ('r', "\u0301ŕ\u0307ṙ\u030cř\u030fȑ\u0311ȓ\u0323ṛ\u0327ŗ\u0331ṟ"),
  ('s', "\u0301ś\u0302ŝ\u0307ṡ\u030cš\u0323ṣ\u0326ș\u0327ş"),
  ('t', "\u0307ṫ\u0308ẗ\u030cť\u0323ṭ\u0326ț\u0327ţ\u032dṱ\u0331ṯ"),
  ('u', "\u0300ù\u0301ú\u0302û\u0303ũ\u0304ū\u0306ŭ\u0308ü\u0309ủ\u030aů\u030bű\u030cǔ\u030fȕ" ++
    "\u0311ȗ\u031bư\u0323ụ\u0324ṳ\u0328ų\u032dṷ\u0330ṵ"),
  ('v', "\u0303ṽ\u0323ṿ"),
  ('w', "\u0300ẁ\u0301ẃ\u0302ŵ\u0307ẇ\u0308ẅ\u030aẘ\u0323ẉ"),
  ('x', "\u0307ẋ\u0308ẍ"),
  ('y', "\u0300ỳ\u0301ý\u0302ŷ\u0303ỹ\u0304ȳ\u0307ẏ\u0308ÿ\u0309ỷ\u030aẙ\u0323ỵ"),
  ('z', "\u0301ź\u0302ẑ\u0307ż\u030cž\u0323ẓ\u0331ẕ"),
  ('â', "\u0300ầ\u0301ấ\u0303ẫ\u0309ẩ"),
  ('ä', "\u0304ǟ"),
  ('å', "\u0301ǻ"),
  ('æ', "\u0301ǽ\u0304ǣ"),
  ('ç', "\u0301ḉ"),
  ('ê', "\u0300ề\u0301ế\u0303ễ\u0309ể"),
  ('ï', "\u0301ḯ"),
  ('ô', "\u0300ồ\u0301ố\u0303ỗ\u0309ổ"),
  ('õ', "\u0301ṍ\u0304ȭ\u0308ṏ"),
  ('ö', "\u0304ȫ"),
  ('ø', "\u0301ǿ"),
  ('ü', "\u0300ǜ\u0301ǘ\u0304ǖ\u030cǚ"),
  ('ă', "\u0300ằ\u0301ắ\u0303ẵ\u0309ẳ"),
  ('ē', "\u0300ḕ\u0301ḗ"),
  ('ō', "\u0300ṑ\u0301ṓ"),
  ('ś', "\u0307ṥ"),
  ('š', "\u0307ṧ"),
  ('ũ', "\u0301ṹ"),
  ('ū', "\u0308ṻ"),
  ('ơ', "\u0300ờ\u0301ớ\u0303ỡ\u0309ở\u0323ợ"),
  ('ư', "\u0300ừ\u0301ứ\u0303ữ\u0309ử\u0323ự"),
  ('ǫ', "\u0304ǭ"),
  ('ȧ', "\u0304ǡ"),
  ('ȩ', "\u0306ḝ"),
  ('ȯ', "\u0304ȱ"),
  ('ʒ', "\u030cǯ"),
  ('ά', "\u0345ᾴ"),
  ('ή', "\u0345ῄ"),
  ('α', "\u0300ὰ\u0301ά\u0304ᾱ\u0306ᾰ\u0313ἀ\u0314ἁ\u0342ᾶ\u0345ᾳ"),
  ('ε', "\u0300ὲ\u0301έ\u0313ἐ\u0314ἑ"),
  ('η', "\u0300ὴ\u0301ή\u0313ἠ\u0314ἡ\u0342ῆ\u0345ῃ"),
  ('ι', "\u0300ὶ\u0301ί\u0304ῑ\u0306ῐ\u0308ϊ\u0313ἰ\u0314ἱ\u0342ῖ"),
  ('ο', "\u0300ὸ\u0301ό\u0313ὀ\u0314ὁ"),
  ('ρ', "\u0313ῤ\u0314ῥ"),
  ('υ', "\u0300ὺ\u0301ύ\u0304ῡ\u0306ῠ\u0308ϋ\u0313ὐ\u0314ὑ\u0342ῦ"),
  ('ω', "\u0300ὼ\u0301ώ\u0313ὠ\u0314ὡ\u0342ῶ\u0345ῳ"),
  ('ϊ', "\u0300ῒ\u0301ΐ\u0342ῗ"),
  ('ϋ', "\u0300ῢ\u0301ΰ\u0342ῧ"),
  ('ώ', "\u0345ῴ"),
  ('а', "\u0306ӑ\u0308ӓ"),
  ('г', "\u0301ѓ"),
  ('е', "\u0300ѐ\u0306ӗ\u0308ё"),
  ('ж', "\u0306ӂ\u0308ӝ"),
  ('з', "\u0308ӟ"),
  ('и', "\u0300ѝ\u0304ӣ\u0306й\u0308ӥ"),
  ('к', "\u0301ќ"),
  ('о', "\u0308ӧ"),
  ('у', "\u0304ӯ\u0306ў\u0308ӱ\u030bӳ"),
  ('ч', "\u0308ӵ"),
  ('ы', "\u0308ӹ"),
  ('э', "\u0308ӭ"),
  ('і', "\u0308ї"),
  ('ѵ', "\u030fѷ"),
  ('ә', "\u0308ӛ"),
  ('ө', "\u0308ӫ"),
  ('ا', "\u0653آ\u0654أ\u0655إ"),
  ('و', "\u0654ؤ"),
  ('ي', "\u0654ئ"),
  ('ہ', "\u0654ۂ"),
  ('ے', "\u0654ۓ"),
  ('ە', "\u0654ۀ"),
  ('न', "\u093cऩ"),
  ('र', "\u093cऱ"),
  ('ळ', "\u093cऴ"),
  ('\u09c7', "\u09be\u09cb\u09d7\u09cc"),
  ('\u0b47', "\u0b3e\u0b4b\u0b56\u0b48\u0b57\u0b4c"),
  ('ஒ', "\u0bd7ஔ"),
  ('\u0bc6', "\u0bbe\u0bca\u0bd7\u0bcc"),
  ('\u0bc7', "\u0bbe\u0bcb"),
  ('\u0c46', "\u0c56\u0c48"),
  ('\u0cbf', "\u0cd5\u0cc0"),
  ('\u0cc6', "\u0cc2\u0cca\u0cd5\u0cc7\u0cd6\u0cc8"),
  ('\u0cca', "\u0cd5\u0ccb"),
  ('\u0d46', "\u0d3e\u0d4a\u0d57\u0d4c"),
  ('\u0d47', "\u0d3e\u0d4b"),
  ('\u0dd9', "\u0dca\u0dda\u0dcf\u0ddc\u0ddf\u0dde"),
  ('\u0ddc', "\u0dca\u0ddd"),
  ('ဥ', "\u102eဦ"),
  ('ᬅ', "\u1b35ᬆ"),
  ('ᬇ', "\u1b35ᬈ"),
  ('ᬉ', "\u1b35ᬊ"),
  ('ᬋ', "\u1b35ᬌ"),
  ('ᬍ', "\u1b35ᬎ"),
  ('ᬑ', "\u1b35ᬒ"),
  ('\u1b3a', "\u1b35\u1b3b"),
  ('\u1b3c', "\u1b35\u1b3d"),
  ('\u1b3e', "\u1b35\u1b40"),
  ('\u1b3f', "\u1b35\u1b41"),
  ('\u1b42', "\u1b35\u1b43"),
  ('ḷ', "\u0304ḹ"),
  ('ṛ', "\u0304ṝ"),
  ('ṣ', "\u0307ṩ"),
  ('ạ', "\u0302ậ\u0306ặ"),
  ('ẹ', "\u0302ệ"),
  ('ọ', "\u0302ộ"),
  ('ἀ', "\u0300ἂ\u0301ἄ\u0342ἆ\u0345ᾀ"),
  ('ἁ', "\u0300ἃ\u0301ἅ\u0342ἇ\u0345ᾁ"),
  ('ἂ', "\u0345ᾂ"),
  ('ἃ', "\u0345ᾃ"),
  ('ἄ', "\u0345ᾄ"),
  ('ἅ', "\u0345ᾅ"),
  ('ἆ', "\u0345ᾆ"),
  ('ἇ', "\u0345ᾇ"),
  ('ἐ', "\u0300ἒ\u0301ἔ"),
  ('ἑ', "\u0300ἓ\u0301ἕ"),
  ('ἠ', "\u0300ἢ\u0301ἤ\u0342ἦ\u0345ᾐ"),
  ('ἡ', "\u0300ἣ\u0301ἥ\u0342ἧ\u0345ᾑ"),
  ('ἢ', "\u0345ᾒ"),
  ('ἣ', "\u0345ᾓ"),
  ('ἤ', "\u0345ᾔ"),
  ('ἥ', "\u0345ᾕ"),
  ('ἦ', "\u0345ᾖ"),
  ('ἧ', "\u0345ᾗ"),
  ('ἰ', "\u0300ἲ\u0301ἴ\u0342ἶ"),
  ('ἱ', "\u0300ἳ\u0301ἵ\u0342ἷ"),
  ('ὀ', "\u0300ὂ\u0301ὄ"),
  ('ὁ', "\u0300ὃ\u0301ὅ"),
  ('ὐ', "\u0300ὒ\u0301ὔ\u0342ὖ"),
  ('ὑ', "\u0300ὓ\u0301ὕ\u0342ὗ"),
  ('ὠ', "\u0300ὢ\u0301ὤ\u0342ὦ\u0345ᾠ"),
  ('ὡ', "\u0300ὣ\u0301ὥ\u0342ὧ\u0345ᾡ"),
  ('ὢ', "\u0345ᾢ"),
  ('ὣ', "\u0345ᾣ"),
  ('ὤ', "\u0345ᾤ"),
  ('ὥ', "\u0345ᾥ"),
  ('ὦ', "\u0345ᾦ"),
  ('ὧ', "\u0345ᾧ"),
  ('ὰ', "\u0345ᾲ"),
  ('ὴ', "\u0345ῂ"),
  ('ὼ', "\u0345ῲ"),
  ('ᾶ', "\u0345ᾷ"),
  ('ῆ', "\u0345ῇ"),
  ('ῶ', "\u0345ῷ"),
  ('←', "\u0338↚"),
  ('→', "\u0338↛"),
  ('↔', "\u0338↮"),
  ('⇐', "\u0338⇍"),
  ('⇒', "\u0338⇏"),
  ('⇔', "\u0338⇎"),
  ('∃', "\u0338∄"),
  ('∈', "\u0338∉"),
  ('∋', "\u0338∌"),
  ('∣', "\u0338∤"),
  ('∥', "\u0338∦"),
  ('∼', "\u0338≁"),
  ('≃', "\u0338≄"),
  ('≅', "\u0338≇"),
  ('≈', "\u0338≉"),
  ('≍', "\u0338≭"),
  ('≡', "\u0338≢"),
  ('≤', "\u0338≰"),
  ('≥', "\u0338≱"),
  ('≲', "\u0338≴"),
  ('≳', "\u0338≵"),
  ('≶', "\u0338≸"),
  ('≷', "\u0338≹"),
  ('≺', "\u0338⊀"),
  ('≻', "\u0338⊁"),
  ('≼', "\u0338⋠"),
  ('≽', "\u0338⋡"),
  ('⊂', "\u0338⊄"),
  ('⊃', "\u0338⊅"),
  ('⊆', "\u0338⊈"),
  ('⊇', "\u0338⊉"),
  ('⊑', "\u0338⋢"),
  ('⊒', "\u0338⋣"),
  ('⊢', "\u0338⊬"),
  ('⊨', "\u0338⊭"),
  ('⊩', "\u0338⊮"),
  ('⊫', "\u0338⊯"),
  ('⊲', "\u0338⋪"),
  ('⊳', "\u0338⋫"),
  ('⊴', "\u0338⋬"),
  ('⊵', "\u0338⋭"),
  ('う', "\u3099ゔ"),
  ('か', "\u3099が"),
  ('き', "\u3099ぎ"),
  ('く', "\u3099ぐ"),
  ('け', "\u3099げ"),
  ('こ', "\u3099ご"),
  ('さ', "\u3099ざ"),
  ('し', "\u3099じ"),
  ('す', "\u3099ず"),
  ('せ', "\u3099ぜ"),
  ('そ', "\u3099ぞ"),
  ('た', "\u3099だ"),
  ('ち', "\u3099ぢ"),
  ('つ', "\u3099づ"),
  ('て', "\u3099で"),
  ('と', "\u3099ど"),
  ('は', "\u3099ば\u309aぱ"),
  ('ひ', "\u3099び\u309aぴ"),
  ('ふ', "\u3099ぶ\u309aぷ"),
  ('へ', "\u3099べ\u309aぺ"),
  ('ほ', "\u3099ぼ\u309aぽ"),
  ('ゝ', "\u3099ゞ"),
  ('ウ', "\u3099ヴ"),
  ('カ', "\u3099ガ"),
  ('キ', "\u3099ギ"),
  ('ク', "\u3099グ"),
  ('ケ', "\u3099ゲ"),
  ('コ', "\u3099ゴ"),
  ('サ', "\u3099ザ"),
  ('シ', "\u3099ジ"),
  ('ス', "\u3099ズ"),
  ('セ', "\u3099ゼ"),
  ('ソ', "\u3099ゾ"),
  ('タ', "\u3099ダ"),
  ('チ', "\u3099ヂ"),
  ('ツ', "\u3099ヅ"),
  ('テ', "\u3099デ"),
  ('ト', "\u3099ド"),
  ('ハ', "\u3099バ\u309aパ"),
  ('ヒ', "\u3099ビ\u309aピ"),
  ('フ', "\u3099ブ\u309aプ"),
  ('ヘ', "\u3099ベ\u309aペ"),
  ('ホ', "\u3099ボ\u309aポ"),
  ('ワ', "\u3099ヷ"),
  ('ヰ', "\u3099ヸ"),
  ('ヱ', "\u3099ヹ"),
  ('ヲ', "\u3099ヺ"),
  ('ヽ', "\u3099ヾ"),
  ('𑂙', "𑂺𑂚"),
  ('𑂛', "𑂺𑂜"),
  ('𑂥', "𑂺𑂫"),
  ('𑄱', "𑄧𑄮"),
  ('𑄲', "𑄧𑄯"),
  ('𑍇', "𑌾𑍋𑍗𑍌"),
  ('𑒹', "𑒰𑒼𑒺𑒻𑒽𑒾"),
  ('𑖸', "𑖯𑖺"),
  ('𑖹', "𑖯𑖻"),
  ('𑤵', "𑤰𑤸")]

end DocLinks.Text.DomainName
