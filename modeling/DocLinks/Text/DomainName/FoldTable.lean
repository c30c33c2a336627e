/-!
# Letters and their plain forms

What a character of a label stands for: a small letter for a capital one, plain characters for those
that are a form of others, and a letter and its marks for a letter with marks.

## Contents
- `foldRows`: the characters that stand for others.
- `droppedBounds`: those that stand for nothing.
-/

namespace DocLinks.Text.DomainName

/-- What characters with numbers in a row stand for, each row with its first number. A pilcrow parts
the entries; one that is empty is that of a character that stands for itself. -/
def foldRows : List (Nat × String) := [
  (0x41, "a¶b¶c¶d¶e¶f¶g¶h¶i¶j¶k¶l¶m¶n¶o¶p¶q¶r¶s¶t¶u¶v¶w¶x¶y¶z"),
  (0xA0, " "),
  (0xA8, " \u0308¶¶a"),
  (0xAF, " \u0304"),
  (0xB2, "2¶3¶ \u0301¶μ"),
  (0xB8, " \u0327¶1¶o¶¶1⁄4¶1⁄2¶3⁄4¶¶a\u0300¶a\u0301¶a\u0302¶a\u0303¶a\u0308¶a\u030a¶æ¶" ++
    "c\u0327¶e\u0300¶e\u0301¶e\u0302¶e\u0308¶i\u0300¶i\u0301¶i\u0302¶i\u0308¶ð¶n\u0303¶" ++
    "o\u0300¶o\u0301¶o\u0302¶o\u0303¶o\u0308¶¶ø¶u\u0300¶u\u0301¶u\u0302¶u\u0308¶y\u0301¶þ¶ss¶" ++
    "a\u0300¶a\u0301¶a\u0302¶a\u0303¶a\u0308¶a\u030a¶¶c\u0327¶e\u0300¶e\u0301¶e\u0302¶" ++
    "e\u0308¶i\u0300¶i\u0301¶i\u0302¶i\u0308¶¶n\u0303¶o\u0300¶o\u0301¶o\u0302¶o\u0303¶o\u0308"),
  (0xF9, "u\u0300¶u\u0301¶u\u0302¶u\u0308¶y\u0301¶¶y\u0308¶a\u0304¶a\u0304¶a\u0306¶a\u0306¶" ++
    "a\u0328¶a\u0328¶c\u0301¶c\u0301¶c\u0302¶c\u0302¶c\u0307¶c\u0307¶c\u030c¶c\u030c¶d\u030c¶" ++
    "d\u030c¶đ¶¶e\u0304¶e\u0304¶e\u0306¶e\u0306¶e\u0307¶e\u0307¶e\u0328¶e\u0328¶e\u030c¶" ++
    "e\u030c¶g\u0302¶g\u0302¶g\u0306¶g\u0306¶g\u0307¶g\u0307¶g\u0327¶g\u0327¶h\u0302¶h\u0302¶" ++
    "ħ¶¶i\u0303¶i\u0303¶i\u0304¶i\u0304¶i\u0306¶i\u0306¶i\u0328¶i\u0328¶i\u0307¶¶ij¶ij¶" ++
    "j\u0302¶j\u0302¶k\u0327¶k\u0327¶¶l\u0301¶l\u0301¶l\u0327¶l\u0327¶l\u030c¶l\u030c¶l·¶l·¶" ++
    "ł¶¶n\u0301¶n\u0301¶n\u0327¶n\u0327¶n\u030c¶n\u030c¶ʼn¶ŋ¶¶o\u0304¶o\u0304¶o\u0306¶" ++
    "o\u0306¶o\u030b¶o\u030b¶œ¶¶r\u0301¶r\u0301¶r\u0327¶r\u0327¶r\u030c¶r\u030c¶s\u0301¶" ++
    "s\u0301¶s\u0302¶s\u0302¶s\u0327¶s\u0327¶s\u030c¶s\u030c¶t\u0327¶t\u0327¶t\u030c¶t\u030c¶" ++
    "ŧ¶¶u\u0303¶u\u0303¶u\u0304¶u\u0304¶u\u0306¶u\u0306¶u\u030a¶u\u030a¶u\u030b¶u\u030b¶" ++
    "u\u0328¶u\u0328¶w\u0302¶w\u0302¶y\u0302¶y\u0302¶y\u0308¶z\u0301¶z\u0301¶z\u0307¶z\u0307¶" ++
    "z\u030c¶z\u030c¶s¶¶ɓ¶ƃ¶¶ƅ¶¶ɔ¶ƈ¶¶ɖ¶ɗ¶ƌ"),
  (0x18E, "ǝ¶ə¶ɛ¶ƒ¶¶ɠ¶ɣ¶¶ɩ¶ɨ¶ƙ"),
  (0x19C, "ɯ¶ɲ¶¶ɵ¶o\u031b¶o\u031b¶ƣ¶¶ƥ¶¶ʀ¶ƨ¶¶ʃ"),
  (0x1AC, "ƭ¶¶ʈ¶u\u031b¶u\u031b¶ʊ¶ʋ¶ƴ¶¶ƶ¶¶ʒ¶ƹ"),
  (0x1BC, "ƽ"),
  (0x1C4, "dz\u030c¶dz\u030c¶dz\u030c¶lj¶lj¶lj¶nj¶nj¶nj¶a\u030c¶a\u030c¶i\u030c¶i\u030c¶" ++
    "o\u030c¶o\u030c¶u\u030c¶u\u030c¶u\u0308\u0304¶u\u0308\u0304¶u\u0308\u0301¶u\u0308\u0301¶" ++
    "u\u0308\u030c¶u\u0308\u030c¶u\u0308\u0300¶u\u0308\u0300¶¶a\u0308\u0304¶a\u0308\u0304¶" ++
    "a\u0307\u0304¶a\u0307\u0304¶æ\u0304¶æ\u0304¶ǥ¶¶g\u030c¶g\u030c¶k\u030c¶k\u030c¶o\u0328¶" ++
    "o\u0328¶o\u0328\u0304¶o\u0328\u0304¶ʒ\u030c¶ʒ\u030c¶j\u030c¶dz¶dz¶dz¶g\u0301¶g\u0301¶ƕ¶" ++
    "ƿ¶n\u0300¶n\u0300¶a\u030a\u0301¶a\u030a\u0301¶æ\u0301¶æ\u0301¶ø\u0301¶ø\u0301¶a\u030f¶" ++
    "a\u030f¶a\u0311¶a\u0311¶e\u030f¶e\u030f¶e\u0311¶e\u0311¶i\u030f¶i\u030f¶i\u0311¶i\u0311¶" ++
    "o\u030f¶o\u030f¶o\u0311¶o\u0311¶r\u030f¶r\u030f¶r\u0311¶r\u0311¶u\u030f¶u\u030f¶u\u0311¶" ++
    "u\u0311¶s\u0326¶s\u0326¶t\u0326¶t\u0326¶ȝ¶¶h\u030c¶h\u030c¶ƞ¶¶ȣ¶¶ȥ¶¶a\u0307¶a\u0307¶" ++
    "e\u0327¶e\u0327¶o\u0308\u0304¶o\u0308\u0304¶o\u0303\u0304¶o\u0303\u0304¶o\u0307¶o\u0307¶" ++
    "o\u0307\u0304¶o\u0307\u0304¶y\u0304¶y\u0304"),
  (0x23A, "ⱥ¶ȼ¶¶ƚ¶ⱦ"),
  (0x241, "ɂ¶¶ƀ¶ʉ¶ʌ¶ɇ¶¶ɉ¶¶ɋ¶¶ɍ¶¶ɏ"),
  (0x2B0, "h¶ɦ¶j¶r¶ɹ¶ɻ¶ʁ¶w¶y"),
  (0x2D8, " \u0306¶ \u0307¶ \u030a¶ \u0328¶ \u0303¶ \u030b"),
  (0x2E0, "ɣ¶l¶s¶x¶ʕ"),
  (0x340, "\u0300¶\u0301¶¶\u0313¶\u0308\u0301¶ι"),
  (0x370, "ͱ¶¶ͳ¶¶ʹ¶¶ͷ"),
  (0x37A, " ι"),
  (0x37E, ";¶ϳ"),
  (0x384, " \u0301¶ \u0308\u0301¶α\u0301¶·¶ε\u0301¶η\u0301¶ι\u0301¶¶ο\u0301¶¶υ\u0301¶ω\u0301¶" ++
    "ι\u0308\u0301¶α¶β¶γ¶δ¶ε¶ζ¶η¶θ¶ι¶κ¶λ¶μ¶ν¶ξ¶ο¶π¶ρ¶¶σ¶τ¶υ¶φ¶χ¶ψ¶ω¶ι\u0308¶υ\u0308¶α\u0301¶" ++
    "ε\u0301¶η\u0301¶ι\u0301¶υ\u0308\u0301"),
  (0x3C2, "σ"),
  (0x3CA, "ι\u0308¶υ\u0308¶ο\u0301¶υ\u0301¶ω\u0301¶ϗ¶β¶θ¶υ¶υ\u0301¶υ\u0308¶φ¶π¶¶ϙ¶¶ϛ¶¶ϝ¶¶ϟ¶¶" ++
    "ϡ¶¶ϣ¶¶ϥ¶¶ϧ¶¶ϩ¶¶ϫ¶¶ϭ¶¶ϯ¶¶κ¶ρ¶σ¶¶θ¶ε¶¶ϸ¶¶σ¶ϻ"),
  (0x3FD, "ͻ¶ͼ¶ͽ¶е\u0300¶е\u0308¶ђ¶г\u0301¶є¶ѕ¶і¶і\u0308¶ј¶љ¶њ¶ћ¶к\u0301¶и\u0300¶у\u0306¶џ¶а¶" ++
    "б¶в¶г¶д¶е¶ж¶з¶и¶и\u0306¶к¶л¶м¶н¶о¶п¶р¶с¶т¶у¶ф¶х¶ц¶ч¶ш¶щ¶ъ¶ы¶ь¶э¶ю¶я"),
  (0x439, "и\u0306"),
  (0x450, "е\u0300¶е\u0308¶¶г\u0301"),
  (0x457, "і\u0308"),
  (0x45C, "к\u0301¶и\u0300¶у\u0306¶¶ѡ¶¶ѣ¶¶ѥ¶¶ѧ¶¶ѩ¶¶ѫ¶¶ѭ¶¶ѯ¶¶ѱ¶¶ѳ¶¶ѵ¶¶ѵ\u030f¶ѵ\u030f¶ѹ¶¶ѻ¶¶ѽ¶" ++
    "¶ѿ¶¶ҁ"),
  (0x48A, "ҋ¶¶ҍ¶¶ҏ¶¶ґ¶¶ғ¶¶ҕ¶¶җ¶¶ҙ¶¶қ¶¶ҝ¶¶ҟ¶¶ҡ¶¶ң¶¶ҥ¶¶ҧ¶¶ҩ¶¶ҫ¶¶ҭ¶¶ү¶¶ұ¶¶ҳ¶¶ҵ¶¶ҷ¶¶ҹ¶¶һ¶¶ҽ¶¶ҿ¶¶" ++
    "ӏ¶ж\u0306¶ж\u0306¶ӄ¶¶ӆ¶¶ӈ¶¶ӊ¶¶ӌ¶¶ӎ"),
  (0x4D0, "а\u0306¶а\u0306¶а\u0308¶а\u0308¶ӕ¶¶е\u0306¶е\u0306¶ә¶¶ә\u0308¶ә\u0308¶ж\u0308¶" ++
    "ж\u0308¶з\u0308¶з\u0308¶ӡ¶¶и\u0304¶и\u0304¶и\u0308¶и\u0308¶о\u0308¶о\u0308¶ө¶¶ө\u0308¶" ++
    "ө\u0308¶э\u0308¶э\u0308¶у\u0304¶у\u0304¶у\u0308¶у\u0308¶у\u030b¶у\u030b¶ч\u0308¶ч\u0308¶" ++
    "ӷ¶¶ы\u0308¶ы\u0308¶ӻ¶¶ӽ¶¶ӿ¶¶ԁ¶¶ԃ¶¶ԅ¶¶ԇ¶¶ԉ¶¶ԋ¶¶ԍ¶¶ԏ¶¶ԑ¶¶ԓ¶¶ԕ¶¶ԗ¶¶ԙ¶¶ԛ¶¶ԝ¶¶ԟ¶¶ԡ¶¶ԣ¶¶ԥ¶¶ԧ¶¶" ++
    "ԩ¶¶ԫ¶¶ԭ¶¶ԯ"),
  (0x531, "ա¶բ¶գ¶դ¶ե¶զ¶է¶ը¶թ¶ժ¶ի¶լ¶խ¶ծ¶կ¶հ¶ձ¶ղ¶ճ¶մ¶յ¶ն¶շ¶ո¶չ¶պ¶ջ¶ռ¶ս¶վ¶տ¶ր¶ց¶ւ¶փ¶ք¶օ¶ֆ"),
  (0x587, "եւ"),
  (0x622, "ا\u0653¶ا\u0654¶و\u0654¶ا\u0655¶ي\u0654"),
  (0x675, "اٴ¶وٴ¶ۇٴ¶يٴ"),
  (0x6C0, "ە\u0654¶¶ہ\u0654"),
  (0x6D3, "ے\u0654"),
  (0x929, "न\u093c"),
  (0x931, "र\u093c"),
  (0x934, "ळ\u093c"),
  (0x958, "क\u093c¶ख\u093c¶ग\u093c¶ज\u093c¶ड\u093c¶ढ\u093c¶फ\u093c¶य\u093c"),
  (0x9CB, "\u09c7\u09be¶\u09c7\u09d7"),
  (0x9DC, "ড\u09bc¶ঢ\u09bc¶¶য\u09bc"),
  (0xA33, "ਲ\u0a3c"),
  (0xA36, "ਸ\u0a3c"),
  (0xA59, "ਖ\u0a3c¶ਗ\u0a3c¶ਜ\u0a3c"),
  (0xA5E, "ਫ\u0a3c"),
  (0xB48, "\u0b47\u0b56"),
  (0xB4B, "\u0b47\u0b3e¶\u0b47\u0b57"),
  (0xB5C, "ଡ\u0b3c¶ଢ\u0b3c"),
  (0xB94, "ஒ\u0bd7"),
  (0xBCA, "\u0bc6\u0bbe¶\u0bc7\u0bbe¶\u0bc6\u0bd7"),
  (0xC48, "\u0c46\u0c56"),
  (0xCC0, "\u0cbf\u0cd5"),
  (0xCC7, "\u0cc6\u0cd5¶\u0cc6\u0cd6¶¶\u0cc6\u0cc2¶\u0cc6\u0cc2\u0cd5"),
  (0xD4A, "\u0d46\u0d3e¶\u0d47\u0d3e¶\u0d46\u0d57"),
  (0xDDA, "\u0dd9\u0dca¶¶\u0dd9\u0dcf¶\u0dd9\u0dcf\u0dca¶\u0dd9\u0ddf"),
  (0xE33, "\u0e4dา"),
  (0xEB3, "\u0ecdາ"),
  (0xEDC, "ຫນ¶ຫມ"),
  (0xF0C, "་"),
  (0xF43, "ག\u0fb7"),
  (0xF4D, "ཌ\u0fb7"),
  (0xF52, "ད\u0fb7"),
  (0xF57, "བ\u0fb7"),
  (0xF5C, "ཛ\u0fb7"),
  (0xF69, "ཀ\u0fb5"),
  (0xF73, "\u0f71\u0f72¶¶\u0f71\u0f74¶\u0fb2\u0f80¶\u0fb2\u0f71\u0f80¶\u0fb3\u0f80¶" ++
    "\u0fb3\u0f71\u0f80"),
  (0xF81, "\u0f71\u0f80"),
  (0xF93, "\u0f92\u0fb7"),
  (0xF9D, "\u0f9c\u0fb7"),
  (0xFA2, "\u0fa1\u0fb7"),
  (0xFA7, "\u0fa6\u0fb7"),
  (0xFAC, "\u0fab\u0fb7"),
  (0xFB9, "\u0f90\u0fb5"),
  (0x1026, "ဥ\u102e"),
  (0x10A0, "ⴀ¶ⴁ¶ⴂ¶ⴃ¶ⴄ¶ⴅ¶ⴆ¶ⴇ¶ⴈ¶ⴉ¶ⴊ¶ⴋ¶ⴌ¶ⴍ¶ⴎ¶ⴏ¶ⴐ¶ⴑ¶ⴒ¶ⴓ¶ⴔ¶ⴕ¶ⴖ¶ⴗ¶ⴘ¶ⴙ¶ⴚ¶ⴛ¶ⴜ¶ⴝ¶ⴞ¶ⴟ¶ⴠ¶ⴡ¶ⴢ¶ⴣ¶ⴤ¶ⴥ¶¶ⴧ"),
  (0x10CD, "ⴭ"),
  (0x13A0, "ꭰ¶ꭱ¶ꭲ¶ꭳ¶ꭴ¶ꭵ¶ꭶ¶ꭷ¶ꭸ¶ꭹ¶ꭺ¶ꭻ¶ꭼ¶ꭽ¶ꭾ¶ꭿ¶ꮀ¶ꮁ¶ꮂ¶ꮃ¶ꮄ¶ꮅ¶ꮆ¶ꮇ¶ꮈ¶ꮉ¶ꮊ¶ꮋ¶ꮌ¶ꮍ¶ꮎ¶ꮏ¶ꮐ¶ꮑ¶ꮒ¶ꮓ¶ꮔ¶ꮕ¶ꮖ¶ꮗ¶" ++
    "ꮘ¶ꮙ¶ꮚ¶ꮛ¶ꮜ¶ꮝ¶ꮞ¶ꮟ¶ꮠ¶ꮡ¶ꮢ¶ꮣ¶ꮤ¶ꮥ¶ꮦ¶ꮧ¶ꮨ¶ꮩ¶ꮪ¶ꮫ¶ꮬ¶ꮭ¶ꮮ¶ꮯ¶ꮰ¶ꮱ¶ꮲ¶ꮳ¶ꮴ¶ꮵ¶ꮶ¶ꮷ¶ꮸ¶ꮹ¶ꮺ¶ꮻ¶ꮼ¶ꮽ¶ꮾ¶ꮿ¶ᏸ¶ᏹ¶ᏺ¶ᏻ¶" ++
    "ᏼ¶ᏽ"),
  (0x1C90, "ა¶ბ¶გ¶დ¶ე¶ვ¶ზ¶თ¶ი¶კ¶ლ¶მ¶ნ¶ო¶პ¶ჟ¶რ¶ს¶ტ¶უ¶ფ¶ქ¶ღ¶ყ¶შ¶ჩ¶ც¶ძ¶წ¶ჭ¶ხ¶ჯ¶ჰ¶ჱ¶ჲ¶ჳ¶ჴ¶ჵ¶ჶ¶ჷ¶" ++
    "ჸ¶ჹ¶ჺ"),
  (0x1CBD, "ჽ¶ჾ¶ჿ"),
  (0x1E00, "a\u0325¶a\u0325¶b\u0307¶b\u0307¶b\u0323¶b\u0323¶b\u0331¶b\u0331¶c\u0327\u0301¶" ++
    "c\u0327\u0301¶d\u0307¶d\u0307¶d\u0323¶d\u0323¶d\u0331¶d\u0331¶d\u0327¶d\u0327¶d\u032d¶" ++
    "d\u032d¶e\u0304\u0300¶e\u0304\u0300¶e\u0304\u0301¶e\u0304\u0301¶e\u032d¶e\u032d¶e\u0330¶" ++
    "e\u0330¶e\u0327\u0306¶e\u0327\u0306¶f\u0307¶f\u0307¶g\u0304¶g\u0304¶h\u0307¶h\u0307¶" ++
    "h\u0323¶h\u0323¶h\u0308¶h\u0308¶h\u0327¶h\u0327¶h\u032e¶h\u032e¶i\u0330¶i\u0330¶" ++
    "i\u0308\u0301¶i\u0308\u0301¶k\u0301¶k\u0301¶k\u0323¶k\u0323¶k\u0331¶k\u0331¶l\u0323¶" ++
    "l\u0323¶l\u0323\u0304¶l\u0323\u0304¶l\u0331¶l\u0331¶l\u032d¶l\u032d¶m\u0301¶m\u0301¶" ++
    "m\u0307¶m\u0307¶m\u0323¶m\u0323¶n\u0307¶n\u0307¶n\u0323¶n\u0323¶n\u0331¶n\u0331¶n\u032d¶" ++
    "n\u032d¶o\u0303\u0301¶o\u0303\u0301¶o\u0303\u0308¶o\u0303\u0308¶o\u0304\u0300¶" ++
    "o\u0304\u0300¶o\u0304\u0301¶o\u0304\u0301¶p\u0301¶p\u0301¶p\u0307¶p\u0307¶r\u0307¶" ++
    "r\u0307¶r\u0323¶r\u0323¶r\u0323\u0304¶r\u0323\u0304¶r\u0331¶r\u0331¶s\u0307¶s\u0307¶" ++
    "s\u0323¶s\u0323¶s\u0301\u0307¶s\u0301\u0307¶s\u030c\u0307¶s\u030c\u0307¶s\u0323\u0307¶" ++
    "s\u0323\u0307¶t\u0307¶t\u0307¶t\u0323¶t\u0323¶t\u0331¶t\u0331¶t\u032d¶t\u032d¶u\u0324¶" ++
    "u\u0324¶u\u0330¶u\u0330¶u\u032d¶u\u032d¶u\u0303\u0301¶u\u0303\u0301¶u\u0304\u0308¶" ++
    "u\u0304\u0308¶v\u0303¶v\u0303¶v\u0323¶v\u0323¶w\u0300¶w\u0300¶w\u0301¶w\u0301¶w\u0308¶" ++
    "w\u0308¶w\u0307¶w\u0307¶w\u0323¶w\u0323¶x\u0307¶x\u0307¶x\u0308¶x\u0308¶y\u0307¶y\u0307¶" ++
    "z\u0302¶z\u0302¶z\u0323¶z\u0323¶z\u0331¶z\u0331¶h\u0331¶t\u0308¶w\u030a¶y\u030a¶aʾ¶" ++
    "s\u0307"),
  (0x1E9E, "ss¶¶a\u0323¶a\u0323¶a\u0309¶a\u0309¶a\u0302\u0301¶a\u0302\u0301¶a\u0302\u0300¶" ++
    "a\u0302\u0300¶a\u0302\u0309¶a\u0302\u0309¶a\u0302\u0303¶a\u0302\u0303¶a\u0323\u0302¶" ++
    "a\u0323\u0302¶a\u0306\u0301¶a\u0306\u0301¶a\u0306\u0300¶a\u0306\u0300¶a\u0306\u0309¶" ++
    "a\u0306\u0309¶a\u0306\u0303¶a\u0306\u0303¶a\u0323\u0306¶a\u0323\u0306¶e\u0323¶e\u0323¶" ++
    "e\u0309¶e\u0309¶e\u0303¶e\u0303¶e\u0302\u0301¶e\u0302\u0301¶e\u0302\u0300¶e\u0302\u0300¶" ++
    "e\u0302\u0309¶e\u0302\u0309¶e\u0302\u0303¶e\u0302\u0303¶e\u0323\u0302¶e\u0323\u0302¶" ++
    "i\u0309¶i\u0309¶i\u0323¶i\u0323¶o\u0323¶o\u0323¶o\u0309¶o\u0309¶o\u0302\u0301¶" ++
    "o\u0302\u0301¶o\u0302\u0300¶o\u0302\u0300¶o\u0302\u0309¶o\u0302\u0309¶o\u0302\u0303¶" ++
    "o\u0302\u0303¶o\u0323\u0302¶o\u0323\u0302¶o\u031b\u0301¶o\u031b\u0301¶o\u031b\u0300¶" ++
    "o\u031b\u0300¶o\u031b\u0309¶o\u031b\u0309¶o\u031b\u0303¶o\u031b\u0303¶o\u031b\u0323¶" ++
    "o\u031b\u0323¶u\u0323¶u\u0323¶u\u0309¶u\u0309¶u\u031b\u0301¶u\u031b\u0301¶u\u031b\u0300¶" ++
    "u\u031b\u0300¶u\u031b\u0309¶u\u031b\u0309¶u\u031b\u0303¶u\u031b\u0303¶u\u031b\u0323¶" ++
    "u\u031b\u0323¶y\u0300¶y\u0300¶y\u0323¶y\u0323¶y\u0309¶y\u0309¶y\u0303¶y\u0303¶ỻ¶¶ỽ¶¶ỿ¶¶" ++
    "α\u0313¶α\u0314¶α\u0313\u0300¶α\u0314\u0300¶α\u0313\u0301¶α\u0314\u0301¶α\u0313\u0342¶" ++
    "α\u0314\u0342¶α\u0313¶α\u0314¶α\u0313\u0300¶α\u0314\u0300¶α\u0313\u0301¶α\u0314\u0301¶" ++
    "α\u0313\u0342¶α\u0314\u0342¶ε\u0313¶ε\u0314¶ε\u0313\u0300¶ε\u0314\u0300¶ε\u0313\u0301¶" ++
    "ε\u0314\u0301"),
  (0x1F18, "ε\u0313¶ε\u0314¶ε\u0313\u0300¶ε\u0314\u0300¶ε\u0313\u0301¶ε\u0314\u0301"),
  (0x1F20, "η\u0313¶η\u0314¶η\u0313\u0300¶η\u0314\u0300¶η\u0313\u0301¶η\u0314\u0301¶" ++
    "η\u0313\u0342¶η\u0314\u0342¶η\u0313¶η\u0314¶η\u0313\u0300¶η\u0314\u0300¶η\u0313\u0301¶" ++
    "η\u0314\u0301¶η\u0313\u0342¶η\u0314\u0342¶ι\u0313¶ι\u0314¶ι\u0313\u0300¶ι\u0314\u0300¶" ++
    "ι\u0313\u0301¶ι\u0314\u0301¶ι\u0313\u0342¶ι\u0314\u0342¶ι\u0313¶ι\u0314¶ι\u0313\u0300¶" ++
    "ι\u0314\u0300¶ι\u0313\u0301¶ι\u0314\u0301¶ι\u0313\u0342¶ι\u0314\u0342¶ο\u0313¶ο\u0314¶" ++
    "ο\u0313\u0300¶ο\u0314\u0300¶ο\u0313\u0301¶ο\u0314\u0301"),
  (0x1F48, "ο\u0313¶ο\u0314¶ο\u0313\u0300¶ο\u0314\u0300¶ο\u0313\u0301¶ο\u0314\u0301"),
  (0x1F50, "υ\u0313¶υ\u0314¶υ\u0313\u0300¶υ\u0314\u0300¶υ\u0313\u0301¶υ\u0314\u0301¶" ++
    "υ\u0313\u0342¶υ\u0314\u0342¶¶υ\u0314¶¶υ\u0314\u0300¶¶υ\u0314\u0301¶¶υ\u0314\u0342¶" ++
    "ω\u0313¶ω\u0314¶ω\u0313\u0300¶ω\u0314\u0300¶ω\u0313\u0301¶ω\u0314\u0301¶ω\u0313\u0342¶" ++
    "ω\u0314\u0342¶ω\u0313¶ω\u0314¶ω\u0313\u0300¶ω\u0314\u0300¶ω\u0313\u0301¶ω\u0314\u0301¶" ++
    "ω\u0313\u0342¶ω\u0314\u0342¶α\u0300¶α\u0301¶ε\u0300¶ε\u0301¶η\u0300¶η\u0301¶ι\u0300¶" ++
    "ι\u0301¶ο\u0300¶ο\u0301¶υ\u0300¶υ\u0301¶ω\u0300¶ω\u0301"),
  (0x1F80, "α\u0313ι¶α\u0314ι¶α\u0313\u0300ι¶α\u0314\u0300ι¶α\u0313\u0301ι¶α\u0314\u0301ι¶" ++
    "α\u0313\u0342ι¶α\u0314\u0342ι¶α\u0313ι¶α\u0314ι¶α\u0313\u0300ι¶α\u0314\u0300ι¶" ++
    "α\u0313\u0301ι¶α\u0314\u0301ι¶α\u0313\u0342ι¶α\u0314\u0342ι¶η\u0313ι¶η\u0314ι¶" ++
    "η\u0313\u0300ι¶η\u0314\u0300ι¶η\u0313\u0301ι¶η\u0314\u0301ι¶η\u0313\u0342ι¶" ++
    "η\u0314\u0342ι¶η\u0313ι¶η\u0314ι¶η\u0313\u0300ι¶η\u0314\u0300ι¶η\u0313\u0301ι¶" ++
    "η\u0314\u0301ι¶η\u0313\u0342ι¶η\u0314\u0342ι¶ω\u0313ι¶ω\u0314ι¶ω\u0313\u0300ι¶" ++
    "ω\u0314\u0300ι¶ω\u0313\u0301ι¶ω\u0314\u0301ι¶ω\u0313\u0342ι¶ω\u0314\u0342ι¶ω\u0313ι¶" ++
    "ω\u0314ι¶ω\u0313\u0300ι¶ω\u0314\u0300ι¶ω\u0313\u0301ι¶ω\u0314\u0301ι¶ω\u0313\u0342ι¶" ++
    "ω\u0314\u0342ι¶α\u0306¶α\u0304¶α\u0300ι¶αι¶α\u0301ι¶¶α\u0342¶α\u0342ι¶α\u0306¶α\u0304¶" ++
    "α\u0300¶α\u0301¶αι¶ \u0313¶ι¶ \u0313¶ \u0342¶ \u0308\u0342¶η\u0300ι¶ηι¶η\u0301ι¶¶" ++
    "η\u0342¶η\u0342ι¶ε\u0300¶ε\u0301¶η\u0300¶η\u0301¶ηι¶ \u0313\u0300¶ \u0313\u0301¶" ++
    " \u0313\u0342¶ι\u0306¶ι\u0304¶ι\u0308\u0300¶ι\u0308\u0301"),
  (0x1FD6, "ι\u0342¶ι\u0308\u0342¶ι\u0306¶ι\u0304¶ι\u0300¶ι\u0301¶¶ \u0314\u0300¶" ++
    " \u0314\u0301¶ \u0314\u0342¶υ\u0306¶υ\u0304¶υ\u0308\u0300¶υ\u0308\u0301¶ρ\u0313¶ρ\u0314¶" ++
    "υ\u0342¶υ\u0308\u0342¶υ\u0306¶υ\u0304¶υ\u0300¶υ\u0301¶ρ\u0314¶ \u0308\u0300¶" ++
    " \u0308\u0301¶`"),
  (0x1FF2, "ω\u0300ι¶ωι¶ω\u0301ι¶¶ω\u0342¶ω\u0342ι¶ο\u0300¶ο\u0301¶ω\u0300¶ω\u0301¶ωι¶" ++
    " \u0301¶ \u0314¶¶ ¶ ¶ ¶ ¶ ¶ ¶ ¶ ¶ ¶ ¶ "),
  (0x2011, "‐"),
  (0x2017, " \u0333"),
  (0x2024, ".¶..¶..."),
  (0x202F, " "),
  (0x2033, "′′¶′′′¶¶‵‵¶‵‵‵"),
  (0x203C, "!!¶¶ \u0305"),
  (0x2047, "??¶?!¶!?"),
  (0x2057, "′′′′"),
  (0x205F, " "),
  (0x2070, "0¶i"),
  (0x2074, "4¶5¶6¶7¶8¶9¶+¶−¶=¶(¶)¶n¶0¶1¶2¶3¶4¶5¶6¶7¶8¶9¶+¶−¶=¶(¶)"),
  (0x20A8, "rs"),
  (0x2100, "a/c¶a/s¶c¶°c¶¶c/o¶c/u¶ɛ¶¶°f¶g¶h¶h¶h¶h¶ħ¶i¶i¶l¶l¶¶n¶no"),
  (0x2119, "p¶q¶r¶r¶r"),
  (0x2120, "sm¶tel¶tm¶¶z¶¶ω¶¶z¶¶k¶a\u030a¶b¶c¶¶e¶e¶f¶ⅎ¶m¶o¶א¶ב¶ג¶ד¶i"),
  (0x213D, "γ¶γ¶π¶∑"),
  (0x2145, "d¶d¶e¶i¶j"),
  (0x2153, "1⁄3¶2⁄3¶1⁄5¶2⁄5¶3⁄5¶4⁄5¶1⁄6¶5⁄6¶1⁄8¶3⁄8¶5⁄8¶7⁄8¶1⁄¶i¶ii¶iii¶iv¶v¶vi¶vii¶viii¶ix¶" ++
    "x¶xi¶xii¶l¶c¶d¶m¶i¶ii¶iii¶iv¶v¶vi¶vii¶viii¶ix¶x¶xi¶xii¶l¶c¶d¶m"),
  (0x2183, "ↄ"),
  (0x219A, "←\u0338¶→\u0338"),
  (0x21AE, "↔\u0338"),
  (0x21CD, "⇐\u0338¶⇔\u0338¶⇒\u0338"),
  (0x2204, "∃\u0338"),
  (0x2209, "∈\u0338"),
  (0x220C, "∋\u0338"),
  (0x2224, "∣\u0338¶¶∥\u0338"),
  (0x222C, "∫∫¶∫∫∫¶¶∮∮¶∮∮∮"),
  (0x2241, "∼\u0338"),
  (0x2244, "≃\u0338"),
  (0x2247, "≅\u0338¶¶≈\u0338"),
  (0x2260, "=\u0338¶¶≡\u0338"),
  (0x226D, "≍\u0338¶<\u0338¶>\u0338¶≤\u0338¶≥\u0338"),
  (0x2274, "≲\u0338¶≳\u0338"),
  (0x2278, "≶\u0338¶≷\u0338"),
  (0x2280, "≺\u0338¶≻\u0338"),
  (0x2284, "⊂\u0338¶⊃\u0338"),
  (0x2288, "⊆\u0338¶⊇\u0338"),
  (0x22AC, "⊢\u0338¶⊨\u0338¶⊩\u0338¶⊫\u0338"),
  (0x22E0, "≼\u0338¶≽\u0338¶⊑\u0338¶⊒\u0338"),
  (0x22EA, "⊲\u0338¶⊳\u0338¶⊴\u0338¶⊵\u0338"),
  (0x2329, "〈¶〉"),
  (0x2460, "1¶2¶3¶4¶5¶6¶7¶8¶9¶10¶11¶12¶13¶14¶15¶16¶17¶18¶19¶20¶(1)¶(2)¶(3)¶(4)¶(5)¶(6)¶(7)¶" ++
    "(8)¶(9)¶(10)¶(11)¶(12)¶(13)¶(14)¶(15)¶(16)¶(17)¶(18)¶(19)¶(20)¶1.¶2.¶3.¶4.¶5.¶6.¶7.¶8.¶" ++
    "9.¶10.¶11.¶12.¶13.¶14.¶15.¶16.¶17.¶18.¶19.¶20.¶(a)¶(b)¶(c)¶(d)¶(e)¶(f)¶(g)¶(h)¶(i)¶(j)¶" ++
    "(k)¶(l)¶(m)¶(n)¶(o)¶(p)¶(q)¶(r)¶(s)¶(t)¶(u)¶(v)¶(w)¶(x)¶(y)¶(z)¶a¶b¶c¶d¶e¶f¶g¶h¶i¶j¶k¶l¶" ++
    "m¶n¶o¶p¶q¶r¶s¶t¶u¶v¶w¶x¶y¶z¶a¶b¶c¶d¶e¶f¶g¶h¶i¶j¶k¶l¶m¶n¶o¶p¶q¶r¶s¶t¶u¶v¶w¶x¶y¶z¶0"),
  (0x2A0C, "∫∫∫∫"),
  (0x2A74, "::=¶==¶==="),
  (0x2ADC, "⫝\u0338"),
  (0x2C00, "ⰰ¶ⰱ¶ⰲ¶ⰳ¶ⰴ¶ⰵ¶ⰶ¶ⰷ¶ⰸ¶ⰹ¶ⰺ¶ⰻ¶ⰼ¶ⰽ¶ⰾ¶ⰿ¶ⱀ¶ⱁ¶ⱂ¶ⱃ¶ⱄ¶ⱅ¶ⱆ¶ⱇ¶ⱈ¶ⱉ¶ⱊ¶ⱋ¶ⱌ¶ⱍ¶ⱎ¶ⱏ¶ⱐ¶ⱑ¶ⱒ¶ⱓ¶ⱔ¶ⱕ¶ⱖ¶ⱗ¶" ++
    "ⱘ¶ⱙ¶ⱚ¶ⱛ¶ⱜ¶ⱝ¶ⱞ¶ⱟ"),
  (0x2C60, "ⱡ¶¶ɫ¶ᵽ¶ɽ"),
  (0x2C67, "ⱨ¶¶ⱪ¶¶ⱬ¶¶ɑ¶ɱ¶ɐ¶ɒ¶¶ⱳ"),
  (0x2C75, "ⱶ"),
  (0x2C7E, "ȿ¶ɀ¶ⲁ¶¶ⲃ¶¶ⲅ¶¶ⲇ¶¶ⲉ¶¶ⲋ¶¶ⲍ¶¶ⲏ¶¶ⲑ¶¶ⲓ¶¶ⲕ¶¶ⲗ¶¶ⲙ¶¶ⲛ¶¶ⲝ¶¶ⲟ¶¶ⲡ¶¶ⲣ¶¶ⲥ¶¶ⲧ¶¶ⲩ¶¶ⲫ¶¶ⲭ¶¶ⲯ¶¶ⲱ¶¶ⲳ¶" ++
    "¶ⲵ¶¶ⲷ¶¶ⲹ¶¶ⲻ¶¶ⲽ¶¶ⲿ¶¶ⳁ¶¶ⳃ¶¶ⳅ¶¶ⳇ¶¶ⳉ¶¶ⳋ¶¶ⳍ¶¶ⳏ¶¶ⳑ¶¶ⳓ¶¶ⳕ¶¶ⳗ¶¶ⳙ¶¶ⳛ¶¶ⳝ¶¶ⳟ¶¶ⳡ¶¶ⳣ"),
  (0x2CEB, "ⳬ¶¶ⳮ"),
  (0x2CF2, "ⳳ"),
  (0x2E9F, "母"),
  (0x2EF3, "龟"),
  (0x2F00, "一¶丨¶丶¶丿¶乙¶亅¶二¶亠¶人¶儿¶入¶八¶冂¶冖¶冫¶几¶凵¶刀¶力¶勹¶匕¶匚¶匸¶十¶卜¶卩¶厂¶" ++
    "厶¶又¶口¶囗¶土¶士¶夂¶夊¶夕¶大¶女¶子¶宀¶寸¶小¶尢¶尸¶屮¶山¶巛¶工¶己¶巾¶干¶幺¶广¶廴¶廾¶弋¶" ++
    "弓¶彐¶彡¶彳¶心¶戈¶戶¶手¶支¶攴¶文¶斗¶斤¶方¶无¶日¶曰¶月¶木¶欠¶止¶歹¶殳¶毋¶比¶毛¶氏¶气¶水¶" ++
    "火¶爪¶父¶爻¶爿¶片¶牙¶牛¶犬¶玄¶玉¶瓜¶瓦¶甘¶生¶用¶田¶疋¶疒¶癶¶白¶皮¶皿¶目¶矛¶矢¶石¶示¶禸¶" ++
    "禾¶穴¶立¶竹¶米¶糸¶缶¶网¶羊¶羽¶老¶而¶耒¶耳¶聿¶肉¶臣¶自¶至¶臼¶舌¶舛¶舟¶艮¶色¶艸¶虍¶虫¶血¶" ++
    "行¶衣¶襾¶見¶角¶言¶谷¶豆¶豕¶豸¶貝¶赤¶走¶足¶身¶車¶辛¶辰¶辵¶邑¶酉¶釆¶里¶金¶長¶門¶阜¶隶¶隹¶" ++
    "雨¶靑¶非¶面¶革¶韋¶韭¶音¶頁¶風¶飛¶食¶首¶香¶馬¶骨¶高¶髟¶鬥¶鬯¶鬲¶鬼¶魚¶鳥¶鹵¶鹿¶麥¶麻"),
  (0x2FC8, "黃¶黍¶黑¶黹¶黽¶鼎¶鼓¶鼠¶鼻¶齊¶齒¶龍¶龜¶龠"),
  (0x3000, " "),
  (0x3036, "〒¶¶十¶卄¶卅"),
  (0x304C, "か\u3099¶¶き\u3099¶¶く\u3099¶¶け\u3099¶¶こ\u3099¶¶さ\u3099¶¶し\u3099¶¶す\u3099¶¶" ++
    "せ\u3099¶¶そ\u3099¶¶た\u3099¶¶ち\u3099"),
  (0x3065, "つ\u3099¶¶て\u3099¶¶と\u3099"),
  (0x3070, "は\u3099¶は\u309a¶¶ひ\u3099¶ひ\u309a¶¶ふ\u3099¶ふ\u309a¶¶へ\u3099¶へ\u309a¶¶" ++
    "ほ\u3099¶ほ\u309a"),
  (0x3094, "う\u3099"),
  (0x309B, " \u3099¶ \u309a¶¶ゝ\u3099¶より"),
  (0x30AC, "カ\u3099¶¶キ\u3099¶¶ク\u3099¶¶ケ\u3099¶¶コ\u3099¶¶サ\u3099¶¶シ\u3099¶¶ス\u3099¶¶" ++
    "セ\u3099¶¶ソ\u3099¶¶タ\u3099¶¶チ\u3099"),
  (0x30C5, "ツ\u3099¶¶テ\u3099¶¶ト\u3099"),
  (0x30D0, "ハ\u3099¶ハ\u309a¶¶ヒ\u3099¶ヒ\u309a¶¶フ\u3099¶フ\u309a¶¶ヘ\u3099¶ヘ\u309a¶¶" ++
    "ホ\u3099¶ホ\u309a"),
  (0x30F4, "ウ\u3099"),
  (0x30F7, "ワ\u3099¶ヰ\u3099¶ヱ\u3099¶ヲ\u3099"),
  (0x30FE, "ヽ\u3099¶コト"),
  (0x3131, "ᄀ¶ᄁ¶ᆪ¶ᄂ¶ᆬ¶ᆭ¶ᄃ¶ᄄ¶ᄅ¶ᆰ¶ᆱ¶ᆲ¶ᆳ¶ᆴ¶ᆵ¶ᄚ¶ᄆ¶ᄇ¶ᄈ¶ᄡ¶ᄉ¶ᄊ¶ᄋ¶ᄌ¶ᄍ¶ᄎ¶ᄏ¶ᄐ¶ᄑ¶ᄒ¶" ++
    "ᅡ¶ᅢ¶ᅣ¶ᅤ¶ᅥ¶ᅦ¶ᅧ¶ᅨ¶ᅩ¶ᅪ¶ᅫ¶ᅬ¶ᅭ¶ᅮ¶ᅯ¶ᅰ¶ᅱ¶ᅲ¶ᅳ¶ᅴ¶ᅵ¶ᅠ¶ᄔ¶ᄕ¶ᇇ¶ᇈ¶ᇌ¶ᇎ¶ᇓ¶ᇗ¶ᇙ¶ᄜ¶ᇝ¶ᇟ¶ᄝ¶ᄞ¶ᄠ¶ᄢ¶ᄣ¶" ++
    "ᄧ¶ᄩ¶ᄫ¶ᄬ¶ᄭ¶ᄮ¶ᄯ¶ᄲ¶ᄶ¶ᅀ¶ᅇ¶ᅌ¶ᇱ¶ᇲ¶ᅗ¶ᅘ¶ᅙ¶ᆄ¶ᆅ¶ᆈ¶ᆑ¶ᆒ¶ᆔ¶ᆞ¶ᆡ"),
  (0x3192, "一¶二¶三¶四¶上¶中¶下¶甲¶乙¶丙¶丁¶天¶地¶人"),
  (0x3200, "(ᄀ)¶(ᄂ)¶(ᄃ)¶(ᄅ)¶(ᄆ)¶(ᄇ)¶(ᄉ)¶(ᄋ)¶(ᄌ)¶(ᄎ)¶(ᄏ)¶(ᄐ)¶(ᄑ)¶(ᄒ)¶(가)¶" ++
    "(나)¶(다)¶(라)¶(마)¶(바)¶(사)¶(아)¶(자)¶(차)¶(카)¶(타)¶(파)¶(하)¶(주)"),
  (0x3220, "(一)¶(二)¶(三)¶(四)¶(五)¶(六)¶(七)¶(八)¶(九)¶(十)¶(月)¶(火)¶(水)¶(木)¶(金)¶(土)¶" ++
    "(日)¶(株)¶(有)¶(社)¶(名)¶(特)¶(財)¶(祝)¶(労)¶(代)¶(呼)¶(学)¶(監)¶(企)¶(資)¶(協)¶(祭)¶" ++
    "(休)¶(自)¶(至)"),
  (0x3251, "21¶22¶23¶24¶25¶26¶27¶28¶29¶30¶31¶32¶33¶34¶35¶ᄀ¶ᄂ¶ᄃ¶ᄅ¶ᄆ¶ᄇ¶ᄉ¶ᄋ¶ᄌ¶ᄎ¶ᄏ¶ᄐ¶" ++
    "ᄑ¶ᄒ¶가¶나¶다¶라¶마¶바¶사¶아¶자¶차¶카¶타¶파¶하"),
  (0x3280, "一¶二¶三¶四¶五¶六¶七¶八¶九¶十¶月¶火¶水¶木¶金¶土¶日¶株¶有¶社¶名¶特¶財¶祝¶労¶秘¶男¶" ++
    "女¶適¶優¶印¶注¶項¶休¶写¶正¶上¶中¶下¶左¶右¶医¶宗¶学¶監¶企¶資¶協¶夜¶36¶37¶38¶39¶40¶41¶42¶" ++
    "43¶44¶45¶46¶47¶48¶49¶50¶1月¶2月¶3月¶4月¶5月¶6月¶7月¶8月¶9月¶10月¶11月¶12月"),
  (0x32D0, "ア¶イ¶ウ¶エ¶オ¶カ¶キ¶ク¶ケ¶コ¶サ¶シ¶ス¶セ¶ソ¶タ¶チ¶ツ¶テ¶ト¶ナ¶ニ¶ヌ¶ネ¶ノ¶ハ¶ヒ¶" ++
    "フ¶ヘ¶ホ¶マ¶ミ¶ム¶メ¶モ¶ヤ¶ユ¶ヨ¶ラ¶リ¶ル¶レ¶ロ¶ワ¶ヰ¶ヱ¶ヲ¶¶アハ\u309aート¶アルファ¶" ++
    "アンヘ\u309aア¶アール¶イニンク\u3099¶インチ¶ウォン¶エスクート\u3099¶エーカー¶オンス¶" ++
    "オーム¶カイリ¶カラット¶カロリー¶カ\u3099ロン¶カ\u3099ンマ¶キ\u3099カ\u3099¶キ\u3099ニー¶" ++
    "キュリー¶キ\u3099ルタ\u3099ー¶キロ¶キロク\u3099ラム¶キロメートル¶キロワット¶" ++
    "ク\u3099ラム¶ク\u3099ラムトン¶クルセ\u3099イロ¶クローネ¶ケース¶コルナ¶コーホ\u309a¶" ++
    "サイクル¶サンチーム¶シリンク\u3099¶センチ¶セント¶タ\u3099ース¶テ\u3099シ¶ト\u3099ル¶" ++
    "トン¶ナノ¶ノット¶ハイツ¶ハ\u309aーセント¶ハ\u309aーツ¶ハ\u3099ーレル¶ヒ\u309aアストル¶" ++
    "ヒ\u309aクル¶ヒ\u309aコ¶ヒ\u3099ル¶ファラット\u3099¶フィート¶フ\u3099ッシェル¶フラン¶" ++
    "ヘクタール¶ヘ\u309aソ¶ヘ\u309aニヒ¶ヘルツ¶ヘ\u309aンス¶ヘ\u309aーシ\u3099¶ヘ\u3099ータ¶" ++
    "ホ\u309aイント¶ホ\u3099ルト¶ホン¶ホ\u309aント\u3099¶ホール¶ホーン¶マイクロ¶マイル¶" ++
    "マッハ¶マルク¶マンション¶ミクロン¶ミリ¶ミリハ\u3099ール¶メカ\u3099¶メカ\u3099トン¶" ++
    "メートル¶ヤート\u3099¶ヤール¶ユアン¶リットル¶リラ¶ルヒ\u309aー¶ルーフ\u3099ル¶レム¶" ++
    "レントケ\u3099ン¶ワット¶0点¶1点¶2点¶3点¶4点¶5点¶6点¶7点¶8点¶9点¶10点¶11点¶12点¶13点¶" ++
    "14点¶15点¶16点¶17点¶18点¶19点¶20点¶21点¶22点¶23点¶24点¶hpa¶da¶au¶bar¶ov¶pc"),
  (0x337B, "平成¶昭和¶大正¶明治¶株式会社¶pa¶na¶μa¶ma¶ka¶kb¶mb¶gb¶cal¶kcal¶pf¶nf¶μf¶μg¶mg¶kg¶" ++
    "hz¶khz¶mhz¶ghz¶thz¶μl¶ml¶dl¶kl¶fm¶nm¶μm¶mm¶cm¶km¶mm2¶cm2¶m2¶km2¶mm3¶cm3¶m3¶km3¶m∕s¶m∕s2¶" ++
    "pa¶kpa¶mpa¶gpa¶rad¶rad∕s¶rad∕s2¶ps¶ns¶μs¶ms¶pv¶nv¶μv¶mv¶kv¶mv¶pw¶nw¶μw¶mw¶kw¶mw¶kω¶mω¶" ++
    "a.m.¶bq¶cc¶cd¶c∕kg¶co.¶db¶gy¶ha¶hp¶in¶kk¶km¶kt¶lm¶ln¶log¶lx¶mb¶mil¶mol¶ph¶p.m.¶ppm¶pr¶" ++
    "sr¶sv¶wb"),
  (0x33E0, "1日¶2日¶3日¶4日¶5日¶6日¶7日¶8日¶9日¶10日¶11日¶12日¶13日¶14日¶15日¶16日¶17日¶18日¶" ++
    "19日¶20日¶21日¶22日¶23日¶24日¶25日¶26日¶27日¶28日¶29日¶30日¶31日"),
  (0xA640, "ꙁ¶¶ꙃ¶¶ꙅ¶¶ꙇ¶¶ꙉ¶¶ꙋ¶¶ꙍ¶¶ꙏ¶¶ꙑ¶¶ꙓ¶¶ꙕ¶¶ꙗ¶¶ꙙ¶¶ꙛ¶¶ꙝ¶¶ꙟ¶¶ꙡ¶¶ꙣ¶¶ꙥ¶¶ꙧ¶¶ꙩ¶¶ꙫ¶¶ꙭ"),
  (0xA680, "ꚁ¶¶ꚃ¶¶ꚅ¶¶ꚇ¶¶ꚉ¶¶ꚋ¶¶ꚍ¶¶ꚏ¶¶ꚑ¶¶ꚓ¶¶ꚕ¶¶ꚗ¶¶ꚙ¶¶ꚛ"),
  (0xA722, "ꜣ¶¶ꜥ¶¶ꜧ¶¶ꜩ¶¶ꜫ¶¶ꜭ¶¶ꜯ"),
  (0xA732, "ꜳ¶¶ꜵ¶¶ꜷ¶¶ꜹ¶¶ꜻ¶¶ꜽ¶¶ꜿ¶¶ꝁ¶¶ꝃ¶¶ꝅ¶¶ꝇ¶¶ꝉ¶¶ꝋ¶¶ꝍ¶¶ꝏ¶¶ꝑ¶¶ꝓ¶¶ꝕ¶¶ꝗ¶¶ꝙ¶¶ꝛ¶¶ꝝ¶¶ꝟ¶¶ꝡ¶¶ꝣ¶¶ꝥ¶¶ꝧ¶¶" ++
    "ꝩ¶¶ꝫ¶¶ꝭ¶¶ꝯ"),
  (0xA779, "ꝺ¶¶ꝼ¶¶ᵹ¶ꝿ¶¶ꞁ¶¶ꞃ¶¶ꞅ¶¶ꞇ"),
  (0xA78B, "ꞌ¶¶ɥ"),
  (0xA790, "ꞑ¶¶ꞓ"),
  (0xA796, "ꞗ¶¶ꞙ¶¶ꞛ¶¶ꞝ¶¶ꞟ¶¶ꞡ¶¶ꞣ¶¶ꞥ¶¶ꞧ¶¶ꞩ¶¶ɦ¶ɜ¶ɡ¶ɬ¶ɪ¶¶ʞ¶ʇ¶ʝ¶ꭓ¶ꞵ¶¶ꞷ¶¶ꞹ¶¶ꞻ¶¶ꞽ¶¶ꞿ¶¶ꟁ¶¶ꟃ¶¶ꞔ¶ʂ¶ᶎ¶ꟈ¶" ++
    "¶ꟊ"),
  (0xA7D0, "ꟑ"),
  (0xA7D6, "ꟗ¶¶ꟙ"),
  (0xA7F5, "ꟶ"),
  (0xF900, "豈¶更¶車¶賈¶滑¶串¶句¶龜¶龜¶契¶金¶喇¶奈¶懶¶癩¶羅¶蘿¶螺¶裸¶邏¶樂¶洛¶烙¶珞¶落¶酪¶駱¶" ++
    "亂¶卵¶欄¶爛¶蘭¶鸞¶嵐¶濫¶藍¶襤¶拉¶臘¶蠟¶廊¶朗¶浪¶狼¶郎¶來¶冷¶勞¶擄¶櫓¶爐¶盧¶老¶蘆¶虜¶路¶" ++
    "露¶魯¶鷺¶碌¶祿¶綠¶菉¶錄¶鹿¶論¶壟¶弄¶籠¶聾¶牢¶磊¶賂¶雷¶壘¶屢¶樓¶淚¶漏¶累¶縷¶陋¶勒¶肋¶凜¶" ++
    "凌¶稜¶綾¶菱¶陵¶讀¶拏¶樂¶諾¶丹¶寧¶怒¶率¶異¶北¶磻¶便¶復¶不¶泌¶數¶索¶參¶塞¶省¶葉¶說¶殺¶辰¶" ++
    "沈¶拾¶若¶掠¶略¶亮¶兩¶凉¶梁¶糧¶良¶諒¶量¶勵¶呂¶女¶廬¶旅¶濾¶礪¶閭¶驪¶麗¶黎¶力¶曆¶歷¶轢¶年¶" ++
    "憐¶戀¶撚¶漣¶煉¶璉¶秊¶練¶聯¶輦¶蓮¶連¶鍊¶列¶劣¶咽¶烈¶裂¶說¶廉¶念¶捻¶殮¶簾¶獵¶令¶囹¶寧¶嶺¶" ++
    "怜¶玲¶瑩¶羚¶聆¶鈴¶零¶靈¶領¶例¶禮¶醴¶隸¶惡¶了¶僚¶寮¶尿¶料¶樂¶燎¶療¶蓼¶遼¶龍¶暈¶阮¶劉"),
  (0xF9C8, "杻¶柳¶流¶溜¶琉¶留¶硫¶紐¶類¶六¶戮¶陸¶倫¶崙¶淪¶輪¶律¶慄¶栗¶率¶隆¶利¶吏¶履¶易¶李¶梨¶" ++
    "泥¶理¶痢¶罹¶裏¶裡¶里¶離¶匿¶溺¶吝¶燐¶璘¶藺¶隣¶鱗¶麟¶林¶淋¶臨¶立¶笠¶粒¶狀¶炙¶識¶什¶茶¶刺¶" ++
    "切¶度¶拓¶糖¶宅¶洞¶暴¶輻¶行¶降¶見¶廓¶兀¶嗀"),
  (0xFA10, "塚¶¶晴"),
  (0xFA15, "凞¶猪¶益¶礼¶神¶祥¶福¶靖¶精¶羽¶¶蘒¶¶諸"),
  (0xFA25, "逸¶都"),
  (0xFA2A, "飯¶飼¶館¶鶴"),
  (0xFA30, "侮¶僧¶免¶勉¶勤¶卑¶喝¶嘆¶器¶塀¶墨¶層¶屮¶悔¶慨¶憎¶懲¶敏¶既¶暑¶梅¶海¶渚¶漢¶煮¶爫¶琢¶" ++
    "碑¶社¶祉¶祈¶祐¶祖¶祝¶禍¶禎¶穀¶突¶節¶練¶縉¶繁¶署¶者¶臭¶艹¶艹¶著¶褐¶視¶謁¶謹¶賓¶贈¶辶¶逸¶" ++
    "難¶響¶頻"),
  (0xFB00, "ff¶fi¶fl¶ffi¶ffl¶st¶st"),
  (0xFB13, "մն¶մե¶մի¶վն¶մխ"),
  (0xFB1D, "י\u05b4¶¶ײ\u05b7¶ע¶א¶ד¶ה¶כ¶ל¶ם¶ר¶ת¶+¶ש\u05c1¶ש\u05c2¶ש\u05bc\u05c1¶ש\u05bc\u05c2¶" ++
    "א\u05b7¶א\u05b8¶א\u05bc¶ב\u05bc¶ג\u05bc¶ד\u05bc¶ה\u05bc¶ו\u05bc¶ז\u05bc¶¶ט\u05bc¶" ++
    "י\u05bc¶ך\u05bc¶כ\u05bc¶ל\u05bc¶¶מ\u05bc¶¶נ\u05bc¶ס\u05bc¶¶ף\u05bc¶פ\u05bc¶¶צ\u05bc¶" ++
    "ק\u05bc¶ר\u05bc¶ש\u05bc¶ת\u05bc¶ו\u05b9¶ב\u05bf¶כ\u05bf¶פ\u05bf¶אל¶ٱ¶ٱ¶ٻ¶ٻ¶ٻ¶ٻ¶پ¶پ¶پ¶پ¶" ++
    "ڀ¶ڀ¶ڀ¶ڀ¶ٺ¶ٺ¶ٺ¶ٺ¶ٿ¶ٿ¶ٿ¶ٿ¶ٹ¶ٹ¶ٹ¶ٹ¶ڤ¶ڤ¶ڤ¶ڤ¶ڦ¶ڦ¶ڦ¶ڦ¶ڄ¶ڄ¶ڄ¶ڄ¶ڃ¶ڃ¶ڃ¶ڃ¶چ¶چ¶چ¶چ¶ڇ¶ڇ¶ڇ¶ڇ¶ڍ¶ڍ¶ڌ¶ڌ¶" ++
    "ڎ¶ڎ¶ڈ¶ڈ¶ژ¶ژ¶ڑ¶ڑ¶ک¶ک¶ک¶ک¶گ¶گ¶گ¶گ¶ڳ¶ڳ¶ڳ¶ڳ¶ڱ¶ڱ¶ڱ¶ڱ¶ں¶ں¶ڻ¶ڻ¶ڻ¶ڻ¶ە\u0654¶ە\u0654¶ہ¶ہ¶ہ¶ہ¶ھ¶ھ¶" ++
    "ھ¶ھ¶ے¶ے¶ے\u0654¶ے\u0654"),
  (0xFBD3, "ڭ¶ڭ¶ڭ¶ڭ¶ۇ¶ۇ¶ۆ¶ۆ¶ۈ¶ۈ¶ۇٴ¶ۋ¶ۋ¶ۅ¶ۅ¶ۉ¶ۉ¶ې¶ې¶ې¶ې¶ى¶ى¶ي\u0654ا¶ي\u0654ا¶ي\u0654ە¶" ++
    "ي\u0654ە¶ي\u0654و¶ي\u0654و¶ي\u0654ۇ¶ي\u0654ۇ¶ي\u0654ۆ¶ي\u0654ۆ¶ي\u0654ۈ¶ي\u0654ۈ¶" ++
    "ي\u0654ې¶ي\u0654ې¶ي\u0654ې¶ي\u0654ى¶ي\u0654ى¶ي\u0654ى¶ی¶ی¶ی¶ی¶ي\u0654ج¶ي\u0654ح¶" ++
    "ي\u0654م¶ي\u0654ى¶ي\u0654ي¶بج¶بح¶بخ¶بم¶بى¶بي¶تج¶تح¶تخ¶تم¶تى¶تي¶ثج¶ثم¶ثى¶ثي¶جح¶جم¶حج¶حم¶" ++
    "خج¶خح¶خم¶سج¶سح¶سخ¶سم¶صح¶صم¶ضج¶ضح¶ضخ¶ضم¶طح¶طم¶ظم¶عج¶عم¶غج¶غم¶فج¶فح¶فخ¶فم¶فى¶في¶قح¶قم¶قى¶" ++
    "قي¶كا¶كج¶كح¶كخ¶كل¶كم¶كى¶كي¶لج¶لح¶لخ¶لم¶لى¶لي¶مج¶مح¶مخ¶مم¶مى¶مي¶نج¶نح¶نخ¶نم¶نى¶ني¶هج¶هم¶" ++
    "هى¶هي¶يج¶يح¶يخ¶يم¶يى¶يي¶ذ\u0670¶ر\u0670¶ى\u0670¶ \u064c\u0651¶ \u064d\u0651¶" ++
    " \u064e\u0651¶ \u064f\u0651¶ \u0650\u0651¶ \u0651\u0670¶ي\u0654ر¶ي\u0654ز¶ي\u0654م¶" ++
    "ي\u0654ن¶ي\u0654ى¶ي\u0654ي¶بر¶بز¶بم¶بن¶بى¶بي¶تر¶تز¶تم¶تن¶تى¶تي¶ثر¶ثز¶ثم¶ثن¶ثى¶ثي¶فى¶في¶" ++
    "قى¶قي¶كا¶كل¶كم¶كى¶كي¶لم¶لى¶لي¶ما¶مم¶نر¶نز¶نم¶نن¶نى¶ني¶ى\u0670¶ير¶يز¶يم¶ين¶يى¶يي¶" ++
    "ي\u0654ج¶ي\u0654ح¶ي\u0654خ¶ي\u0654م"),
  (0xFC9B, "ي\u0654ه¶بج¶بح¶بخ¶بم¶به¶تج¶تح¶تخ¶تم¶ته¶ثم¶جح¶جم¶حج¶حم¶خج¶خم¶سج¶سح¶سخ¶سم¶صح¶صخ¶صم¶" ++
    "ضج¶ضح¶ضخ¶ضم¶طح¶ظم¶عج¶عم¶غج¶غم¶فج¶فح¶فخ¶فم¶قح¶قم¶كج¶كح¶كخ¶كل¶كم¶لج¶لح¶لخ¶لم¶له¶مج¶مح¶مخ¶" ++
    "مم¶نج¶نح¶نخ¶نم¶نه¶هج¶هم¶ه\u0670¶يج¶يح¶يخ¶يم¶يه¶ي\u0654م¶ي\u0654ه¶بم¶به¶تم¶ته¶ثم¶ثه¶سم¶" ++
    "سه¶شم¶شه¶كل¶كم¶لم¶نم¶نه¶يم¶يه¶ـ\u064e\u0651¶ـ\u064f\u0651¶ـ\u0650\u0651¶طى¶طي¶عى¶عي¶غى¶" ++
    "غي¶سى¶سي¶شى¶شي¶حى¶حي¶جى¶جي¶خى¶خي¶صى¶صي¶ضى¶ضي¶شج¶شح¶شخ¶شم¶شر¶سر¶صر¶ضر¶طى¶طي¶عى¶عي¶غى¶غي¶" ++
    "سى¶سي¶شى¶شي¶حى¶حي¶جى¶جي¶خى¶خي¶صى¶صي¶ضى¶ضي¶شج¶شح¶شخ¶شم¶شر¶سر¶صر¶ضر¶شج¶شح¶شخ¶شم¶سه¶شه¶طم¶" ++
    "سج¶سح¶سخ¶شج¶شح¶شخ¶طم¶ظم¶ا\u064b¶ا\u064b"),
  (0xFD50, "تجم¶تحج¶تحج¶تحم¶تخم¶تمج¶تمح¶تمخ¶جمح¶جمح¶حمي¶حمى¶سحج¶سجح¶سجى¶سمح¶سمح¶سمج¶سمم¶سمم¶" ++
    "صحح¶صحح¶صمم¶شحم¶شحم¶شجي¶شمخ¶شمخ¶شمم¶شمم¶ضحى¶ضخم¶ضخم¶طمح¶طمح¶طمم¶طمي¶عجم¶عمم¶عمم¶عمى¶غمم¶" ++
    "غمي¶غمى¶فخم¶فخم¶قمح¶قمم¶لحم¶لحي¶لحى¶لجج¶لجج¶لخم¶لخم¶لمح¶لمح¶محج¶محم¶محي¶مجح¶مجم¶مخج¶مخم"),
  (0xFD92, "مجخ¶همج¶همم¶نحم¶نحى¶نجم¶نجم¶نجى¶نمي¶نمى¶يمم¶يمم¶بخي¶تجي¶تجى¶تخي¶تخى¶تمي¶تمى¶جمي¶" ++
    "جحى¶جمى¶سخى¶صحي¶شحي¶ضحي¶لجي¶لمي¶يحي¶يجي¶يمي¶ممي¶قمي¶نحي¶قمح¶لحم¶عمي¶كمي¶نجح¶مخي¶لجم¶كمم¶" ++
    "لجم¶نجح¶جحي¶حجي¶مجي¶فمي¶بحي¶كمم¶عجم¶صمم¶سخي¶نجي"),
  (0xFDF0, "صلے¶قلے¶الله¶اكبر¶محمد¶صلعم¶رسول¶عليه¶وسلم¶صلى¶صلى الله عليه وسلم¶جل جلاله¶ریال"),
  (0xFE30, "..¶—¶–¶_¶_¶(¶)¶\x7b¶\x7d¶〔¶〕¶【¶】¶《¶》¶〈¶〉¶「¶」¶『¶』"),
  (0xFE49, " \u0305¶ \u0305¶ \u0305¶ \u0305¶_¶_¶_¶,¶、¶.¶¶;¶:¶?¶!¶—¶(¶)¶\x7b¶\x7d¶〔¶〕¶#¶&¶" ++
    "*¶+¶-¶<¶>¶=¶¶\\¶$¶%¶@"),
  (0xFE70, " \u064b¶ـ\u064b¶ \u064c¶¶ \u064d¶¶ \u064e¶ـ\u064e¶ \u064f¶ـ\u064f¶ \u0650¶" ++
    "ـ\u0650¶ \u0651¶ـ\u0651¶ \u0652¶ـ\u0652¶ء¶ا\u0653¶ا\u0653¶ا\u0654¶ا\u0654¶و\u0654¶" ++
    "و\u0654¶ا\u0655¶ا\u0655¶ي\u0654¶ي\u0654¶ي\u0654¶ي\u0654¶ا¶ا¶ب¶ب¶ب¶ب¶ة¶ة¶ت¶ت¶ت¶ت¶ث¶ث¶ث¶ث¶" ++
    "ج¶ج¶ج¶ج¶ح¶ح¶ح¶ح¶خ¶خ¶خ¶خ¶د¶د¶ذ¶ذ¶ر¶ر¶ز¶ز¶س¶س¶س¶س¶ش¶ش¶ش¶ش¶ص¶ص¶ص¶ص¶ض¶ض¶ض¶ض¶ط¶ط¶ط¶ط¶ظ¶ظ¶ظ¶ظ¶" ++
    "ع¶ع¶ع¶ع¶غ¶غ¶غ¶غ¶ف¶ف¶ف¶ف¶ق¶ق¶ق¶ق¶ك¶ك¶ك¶ك¶ل¶ل¶ل¶ل¶م¶م¶م¶م¶ن¶ن¶ن¶ن¶ه¶ه¶ه¶ه¶و¶و¶ى¶ى¶ي¶ي¶ي¶ي¶" ++
    "لا\u0653¶لا\u0653¶لا\u0654¶لا\u0654¶لا\u0655¶لا\u0655¶لا¶لا"),
  (0xFF01, "!¶\"¶#¶$¶%¶&¶'¶(¶)¶*¶+¶,¶-¶.¶/¶0¶1¶2¶3¶4¶5¶6¶7¶8¶9¶:¶;¶<¶=¶>¶?¶@¶a¶b¶c¶d¶e¶f¶g¶h¶" ++
    "i¶j¶k¶l¶m¶n¶o¶p¶q¶r¶s¶t¶u¶v¶w¶x¶y¶z¶[¶\\¶]¶^¶_¶`¶a¶b¶c¶d¶e¶f¶g¶h¶i¶j¶k¶l¶m¶n¶o¶p¶q¶r¶s¶" ++
    "t¶u¶v¶w¶x¶y¶z¶\x7b¶|¶\x7d¶~¶⦅¶⦆¶。¶「¶」¶、¶・¶ヲ¶ァ¶ィ¶ゥ¶ェ¶ォ¶ャ¶ュ¶ョ¶ッ¶ー¶ア¶イ¶" ++
    "ウ¶エ¶オ¶カ¶キ¶ク¶ケ¶コ¶サ¶シ¶ス¶セ¶ソ¶タ¶チ¶ツ¶テ¶ト¶ナ¶ニ¶ヌ¶ネ¶ノ¶ハ¶ヒ¶フ¶ヘ¶ホ¶マ¶" ++
    "ミ¶ム¶メ¶モ¶ヤ¶ユ¶ヨ¶ラ¶リ¶ル¶レ¶ロ¶ワ¶ン¶\u3099¶\u309a¶ᅠ¶ᄀ¶ᄁ¶ᆪ¶ᄂ¶ᆬ¶ᆭ¶ᄃ¶ᄄ¶ᄅ¶ᆰ¶ᆱ¶ᆲ¶" ++
    "ᆳ¶ᆴ¶ᆵ¶ᄚ¶ᄆ¶ᄇ¶ᄈ¶ᄡ¶ᄉ¶ᄊ¶ᄋ¶ᄌ¶ᄍ¶ᄎ¶ᄏ¶ᄐ¶ᄑ¶ᄒ"),
  (0xFFC2, "ᅡ¶ᅢ¶ᅣ¶ᅤ¶ᅥ¶ᅦ"),
  (0xFFCA, "ᅧ¶ᅨ¶ᅩ¶ᅪ¶ᅫ¶ᅬ"),
  (0xFFD2, "ᅭ¶ᅮ¶ᅯ¶ᅰ¶ᅱ¶ᅲ"),
  (0xFFDA, "ᅳ¶ᅴ¶ᅵ"),
  (0xFFE0, "¢¶£¶¬¶ \u0304¶¦¶¥¶₩¶¶│¶←¶↑¶→¶↓¶■¶○"),
  (0x10400, "𐐨¶𐐩¶𐐪¶𐐫¶𐐬¶𐐭¶𐐮¶𐐯¶𐐰¶𐐱¶𐐲¶𐐳¶𐐴¶𐐵¶𐐶¶𐐷¶𐐸¶𐐹¶𐐺¶𐐻¶𐐼¶𐐽¶𐐾¶𐐿¶𐑀¶𐑁¶𐑂¶𐑃¶𐑄¶𐑅¶𐑆¶𐑇¶𐑈¶𐑉¶𐑊¶𐑋¶𐑌¶𐑍¶𐑎¶𐑏"),
  (0x104B0, "𐓘¶𐓙¶𐓚¶𐓛¶𐓜¶𐓝¶𐓞¶𐓟¶𐓠¶𐓡¶𐓢¶𐓣¶𐓤¶𐓥¶𐓦¶𐓧¶𐓨¶𐓩¶𐓪¶𐓫¶𐓬¶𐓭¶𐓮¶𐓯¶𐓰¶𐓱¶𐓲¶𐓳¶𐓴¶𐓵¶𐓶¶𐓷¶𐓸¶𐓹¶𐓺¶𐓻"),
  (0x10570, "𐖗¶𐖘¶𐖙¶𐖚¶𐖛¶𐖜¶𐖝¶𐖞¶𐖟¶𐖠¶𐖡¶¶𐖣¶𐖤¶𐖥¶𐖦¶𐖧¶𐖨¶𐖩¶𐖪¶𐖫¶𐖬¶𐖭¶𐖮¶𐖯¶𐖰¶𐖱¶¶𐖳¶𐖴¶𐖵¶𐖶¶𐖷¶𐖸¶𐖹¶¶𐖻¶𐖼"),
  (0x10C80, "𐳀¶𐳁¶𐳂¶𐳃¶𐳄¶𐳅¶𐳆¶𐳇¶𐳈¶𐳉¶𐳊¶𐳋¶𐳌¶𐳍¶𐳎¶𐳏¶𐳐¶𐳑¶𐳒¶𐳓¶𐳔¶𐳕¶𐳖¶𐳗¶𐳘¶𐳙¶𐳚¶𐳛¶𐳜¶𐳝¶𐳞¶𐳟¶𐳠¶𐳡¶𐳢¶𐳣¶𐳤¶𐳥¶𐳦¶𐳧¶" ++
    "𐳨¶𐳩¶𐳪¶𐳫¶𐳬¶𐳭¶𐳮¶𐳯¶𐳰¶𐳱¶𐳲"),
  (0x118A0, "𑣀¶𑣁¶𑣂¶𑣃¶𑣄¶𑣅¶𑣆¶𑣇¶𑣈¶𑣉¶𑣊¶𑣋¶𑣌¶𑣍¶𑣎¶𑣏¶𑣐¶𑣑¶𑣒¶𑣓¶𑣔¶𑣕¶𑣖¶𑣗¶𑣘¶𑣙¶𑣚¶𑣛¶𑣜¶𑣝¶𑣞¶𑣟"),
  (0x16E40, "𖹠¶𖹡¶𖹢¶𖹣¶𖹤¶𖹥¶𖹦¶𖹧¶𖹨¶𖹩¶𖹪¶𖹫¶𖹬¶𖹭¶𖹮¶𖹯¶𖹰¶𖹱¶𖹲¶𖹳¶𖹴¶𖹵¶𖹶¶𖹷¶𖹸¶𖹹¶𖹺¶𖹻¶𖹼¶𖹽¶𖹾¶𖹿"),
  (0x1D15E, "𝅗𝅥¶𝅘𝅥¶𝅘𝅥𝅮¶𝅘𝅥𝅯¶𝅘𝅥𝅰¶𝅘𝅥𝅱¶𝅘𝅥𝅲"),
  (0x1D1BB, "𝆹𝅥¶𝆺𝅥¶𝆹𝅥𝅮¶𝆺𝅥𝅮¶𝆹𝅥𝅯¶𝆺𝅥𝅯"),
  (0x1D400, "a¶b¶c¶d¶e¶f¶g¶h¶i¶j¶k¶l¶m¶n¶o¶p¶q¶r¶s¶t¶u¶v¶w¶x¶y¶z¶a¶b¶c¶d¶e¶f¶g¶h¶i¶j¶k¶l¶m¶n¶" ++
    "o¶p¶q¶r¶s¶t¶u¶v¶w¶x¶y¶z¶a¶b¶c¶d¶e¶f¶g¶h¶i¶j¶k¶l¶m¶n¶o¶p¶q¶r¶s¶t¶u¶v¶w¶x¶y¶z¶a¶b¶c¶d¶e¶f¶" ++
    "g¶¶i¶j¶k¶l¶m¶n¶o¶p¶q¶r¶s¶t¶u¶v¶w¶x¶y¶z¶a¶b¶c¶d¶e¶f¶g¶h¶i¶j¶k¶l¶m¶n¶o¶p¶q¶r¶s¶t¶u¶v¶w¶x¶" ++
    "y¶z¶a¶b¶c¶d¶e¶f¶g¶h¶i¶j¶k¶l¶m¶n¶o¶p¶q¶r¶s¶t¶u¶v¶w¶x¶y¶z¶a¶¶c¶d"),
  (0x1D4A2, "g"),
  (0x1D4A5, "j¶k"),
  (0x1D4A9, "n¶o¶p¶q¶¶s¶t¶u¶v¶w¶x¶y¶z¶a¶b¶c¶d¶¶f¶¶h¶i¶j¶k¶¶m¶n¶¶p¶q¶r¶s¶t¶u¶v¶w¶x¶y¶z¶a¶b¶c¶" ++
    "d¶e¶f¶g¶h¶i¶j¶k¶l¶m¶n¶o¶p¶q¶r¶s¶t¶u¶v¶w¶x¶y¶z¶a¶b¶c¶d¶e¶f¶g¶h¶i¶j¶k¶l¶m¶n¶o¶p¶q¶r¶s¶t¶u¶" ++
    "v¶w¶x¶y¶z¶a¶b¶¶d¶e¶f¶g"),
  (0x1D50D, "j¶k¶l¶m¶n¶o¶p¶q¶¶s¶t¶u¶v¶w¶x¶y¶¶a¶b¶c¶d¶e¶f¶g¶h¶i¶j¶k¶l¶m¶n¶o¶p¶q¶r¶s¶t¶u¶v¶w¶x¶" ++
    "y¶z¶a¶b¶¶d¶e¶f¶g¶¶i¶j¶k¶l¶m¶¶o"),
  (0x1D54A, "s¶t¶u¶v¶w¶x¶y¶¶a¶b¶c¶d¶e¶f¶g¶h¶i¶j¶k¶l¶m¶n¶o¶p¶q¶r¶s¶t¶u¶v¶w¶x¶y¶z¶a¶b¶c¶d¶e¶f¶" ++
    "g¶h¶i¶j¶k¶l¶m¶n¶o¶p¶q¶r¶s¶t¶u¶v¶w¶x¶y¶z¶a¶b¶c¶d¶e¶f¶g¶h¶i¶j¶k¶l¶m¶n¶o¶p¶q¶r¶s¶t¶u¶v¶w¶x¶" ++
    "y¶z¶a¶b¶c¶d¶e¶f¶g¶h¶i¶j¶k¶l¶m¶n¶o¶p¶q¶r¶s¶t¶u¶v¶w¶x¶y¶z¶a¶b¶c¶d¶e¶f¶g¶h¶i¶j¶k¶l¶m¶n¶o¶p¶" ++
    "q¶r¶s¶t¶u¶v¶w¶x¶y¶z¶a¶b¶c¶d¶e¶f¶g¶h¶i¶j¶k¶l¶m¶n¶o¶p¶q¶r¶s¶t¶u¶v¶w¶x¶y¶z¶a¶b¶c¶d¶e¶f¶g¶h¶" ++
    "i¶j¶k¶l¶m¶n¶o¶p¶q¶r¶s¶t¶u¶v¶w¶x¶y¶z¶a¶b¶c¶d¶e¶f¶g¶h¶i¶j"),
  (0x1D612, "k¶l¶m¶n¶o¶p¶q¶r¶s¶t¶u¶v¶w¶x¶y¶z¶a¶b¶c¶d¶e¶f¶g¶h¶i¶j¶k¶l¶m¶n¶o¶p¶q¶r¶s¶t¶u¶v¶w¶x¶" ++
    "y¶z¶a¶b¶c¶d¶e¶f¶g¶h¶i¶j¶k¶l¶m¶n¶o¶p¶q¶r¶s¶t¶u¶v¶w¶x¶y¶z¶a¶b¶c¶d¶e¶f¶g¶h¶i¶j¶k¶l¶m¶n¶o¶p¶" ++
    "q¶r¶s¶t¶u¶v¶w¶x¶y¶z¶a¶b¶c¶d¶e¶f¶g¶h¶i¶j¶k¶l¶m¶n¶o¶p¶q¶r¶s¶t¶u¶v¶w¶x¶y¶z¶a¶b¶c¶d¶e¶f¶g¶h¶" ++
    "i¶j¶k¶l¶m¶n¶o¶p¶q¶r¶s¶t¶u¶v¶w¶x¶y¶z"),
  (0x1D6A8, "α¶β¶γ¶δ¶ε¶ζ¶η¶θ¶ι¶κ¶λ¶μ¶ν¶ξ¶ο¶π¶ρ¶θ¶σ¶τ¶υ¶φ¶χ¶ψ¶ω¶∇¶α¶β¶γ¶δ¶ε¶ζ¶η¶θ¶ι¶κ¶λ¶μ¶ν¶ξ¶" ++
    "ο¶π¶ρ¶σ¶σ¶τ¶υ¶φ¶χ¶ψ¶ω¶∂¶ε¶θ¶κ¶φ¶ρ¶π¶α¶β¶γ¶δ¶ε¶ζ¶η¶θ¶ι¶κ¶λ¶μ¶ν¶ξ¶ο¶π¶ρ¶θ¶σ¶τ¶υ¶φ¶χ¶ψ¶ω¶∇¶" ++
    "α¶β¶γ¶δ¶ε¶ζ¶η¶θ¶ι¶κ¶λ¶μ¶ν¶ξ¶ο¶π¶ρ¶σ¶σ¶τ¶υ¶φ¶χ¶ψ¶ω¶∂¶ε¶θ¶κ¶φ¶ρ¶π¶α¶β¶γ¶δ¶ε¶ζ¶η¶θ¶ι¶κ¶λ¶μ¶" ++
    "ν¶ξ¶ο¶π¶ρ¶θ¶σ¶τ¶υ¶φ¶χ¶ψ¶ω¶∇¶α¶β¶γ¶δ¶ε¶ζ¶η¶θ¶ι¶κ¶λ¶μ¶ν¶ξ¶ο¶π¶ρ¶σ¶σ¶τ¶υ¶φ¶χ¶ψ¶ω¶∂¶ε¶θ¶κ¶φ¶" ++
    "ρ¶π¶α¶β¶γ¶δ¶ε¶ζ¶η¶θ¶ι¶κ¶λ¶μ¶ν¶ξ¶ο¶π¶ρ¶θ¶σ¶τ¶υ¶φ¶χ¶ψ¶ω¶∇"),
  (0x1D770, "α¶β¶γ¶δ¶ε¶ζ¶η¶θ¶ι¶κ¶λ¶μ¶ν¶ξ¶ο¶π¶ρ¶σ¶σ¶τ¶υ¶φ¶χ¶ψ¶ω¶∂¶ε¶θ¶κ¶φ¶ρ¶π¶α¶β¶γ¶δ¶ε¶ζ¶η¶θ¶" ++
    "ι¶κ¶λ¶μ¶ν¶ξ¶ο¶π¶ρ¶θ¶σ¶τ¶υ¶φ¶χ¶ψ¶ω¶∇¶α¶β¶γ¶δ¶ε¶ζ¶η¶θ¶ι¶κ¶λ¶μ¶ν¶ξ¶ο¶π¶ρ¶σ¶σ¶τ¶υ¶φ¶χ¶ψ¶ω¶∂¶" ++
    "ε¶θ¶κ¶φ¶ρ¶π"),
  (0x1D7CE, "0¶1¶2¶3¶4¶5¶6¶7¶8¶9¶0¶1¶2¶3¶4¶5¶6¶7¶8¶9¶0¶1¶2¶3¶4¶5¶6¶7¶8¶9¶0¶1¶2¶3¶4¶5¶6¶7¶8¶9¶" ++
    "0¶1¶2¶3¶4¶5¶6¶7¶8¶9"),
  (0x1E900, "𞤢¶𞤣¶𞤤¶𞤥¶𞤦¶𞤧¶𞤨¶𞤩¶𞤪¶𞤫¶𞤬¶𞤭¶𞤮¶𞤯¶𞤰¶𞤱¶𞤲¶𞤳¶𞤴¶𞤵¶𞤶¶𞤷¶𞤸¶𞤹¶𞤺¶𞤻¶𞤼¶𞤽¶𞤾¶𞤿¶𞥀¶𞥁¶𞥂¶𞥃"),
  (0x2F800, "丽¶丸¶乁¶𠄢¶你¶侮¶侻¶倂¶偺¶備¶僧¶像¶㒞¶𠘺¶免¶兔¶兤¶具¶𠔜¶㒹¶內¶再¶𠕋¶冗¶冤¶仌¶" ++
    "冬¶况¶𩇟¶凵¶刃¶㓟¶刻¶剆¶割¶剷¶㔕¶勇¶勉¶勤¶勺¶包¶匆¶北¶卉¶卑¶博¶即¶卽¶卿¶卿¶卿¶𠨬¶灰¶及¶" ++
    "叟¶𠭣¶叫¶叱¶吆¶咞¶吸¶呈¶周¶咢¶哶¶唐¶啓¶啣¶善¶善¶喙¶喫¶喳¶嗂¶圖¶嘆¶圗¶噑¶噴¶切¶壮¶城¶埴¶" ++
    "堍¶型¶堲¶報¶墬¶𡓤¶売¶壷¶夆¶多¶夢¶奢¶𡚨¶𡛪¶姬¶娛¶娧¶姘¶婦¶㛮¶𡍪¶嬈¶嬾¶嬾¶𡧈¶寃¶寘¶寧¶寳¶" ++
    "𡬘¶寿¶将¶弳¶尢¶㞁¶屠¶屮¶峀¶岍¶𡷤¶嵃¶𡷦¶嵮¶嵫¶嵼¶巡¶巢¶㠯¶巽¶帨¶帽¶幩¶㡢¶𢆃¶㡼¶庰¶庳¶庶¶" ++
    "廊¶𪎒¶廾¶𢌱¶𢌱¶舁¶弢¶弢¶㣇¶𣊸¶𦇚¶形¶彫¶㣣¶徚¶忍¶志¶忹¶悁¶㤺¶㤜¶悔¶𢛔¶惇¶慈¶慌¶慎¶慌¶慺¶" ++
    "憎¶憲¶憤¶憯¶懞¶懲¶懶¶成¶戛¶扝¶抱¶拔¶捐¶𢬌¶挽¶拼¶捨¶掃¶揤¶𢯱¶搢¶揅¶掩¶㨮¶摩¶摾¶撝¶摷¶㩬"),
  (0x2F8C8, "敏¶敬¶𣀊¶旣¶書¶晉¶㬙¶暑¶㬈¶㫤¶冒¶冕¶最¶暜¶肭¶䏙¶朗¶望¶朡¶杞¶杓¶𣏃¶㭉¶柺¶枅¶桒¶" ++
    "梅¶𣑭¶梎¶栟¶椔¶㮝¶楂¶榣¶槪¶檨¶𣚣¶櫛¶㰘¶次¶𣢧¶歔¶㱎¶歲¶殟¶殺¶殻¶𣪍¶𡴋¶𣫺¶汎¶𣲼¶沿¶泍¶汧¶" ++
    "洖¶派¶海¶流¶浩¶浸¶涅¶𣴞¶洴¶港¶湮¶㴳¶滋¶滇¶𣻑¶淹¶潮¶𣽞¶𣾎¶濆¶瀹¶瀞¶瀛¶㶖¶灊¶災¶灷¶炭¶𠔥¶" ++
    "煅¶𤉣¶熜¶䎫¶爨¶爵¶牐¶𤘈¶犀¶犕¶𤜵¶𤠔¶獺¶王¶㺬¶玥¶㺸¶㺸¶瑇¶瑜¶瑱¶璅¶瓊¶㼛¶甤¶𤰶¶甾¶𤲒¶異¶" ++
    "𢆟¶瘐¶𤾡¶𤾸¶𥁄¶㿼¶䀈¶直¶𥃳¶𥃲¶𥄙¶𥄳¶眞¶真¶真¶睊¶䀹¶瞋¶䁆¶䂖¶𥐝¶硎¶碌¶磌¶䃣¶𥘦¶祖¶𥚚¶𥛅¶" ++
    "福¶秫¶䄯¶穀¶穊¶穏¶𥥼¶𥪧¶𥪧¶窮¶䈂¶𥮫¶篆¶築¶䈧¶𥲀¶糒¶䊠¶糨¶糣¶紀¶𥾆¶絣¶䌁¶緇¶縂¶繅¶䌴¶𦈨¶" ++
    "𦉇¶䍙¶𦋙¶罺¶𦌾¶羕¶翺¶者¶𦓚¶𦔣¶聠¶𦖨¶聰¶𣍟¶䏕¶育¶脃¶䐋¶脾¶媵¶𦞧¶𦞵¶𣎓¶𣎜¶舁¶舄¶辞¶䑫¶芑"),
  (0x2F990, "芋¶芝¶劳¶花¶芳¶芽¶苦¶𦬼¶若¶茝¶荣¶莭¶茣¶莽¶菧¶著¶荓¶菊¶菌¶菜¶𦰶¶𦵫¶𦳕¶䔫¶蓱¶蓳¶" ++
    "蔖¶𧏊¶蕤¶𦼬¶䕝¶䕡¶𦾱¶𧃒¶䕫¶虐¶虜¶虧¶虩¶蚩¶蚈¶蜎¶蛢¶蝹¶蜨¶蝫¶螆¶䵗¶蟡¶蠁¶䗹¶衠¶衣¶𧙧¶裗¶" ++
    "裞¶䘵¶裺¶㒻¶𧢮¶𧥦¶䚾¶䛇¶誠¶諭¶變¶豕¶𧲨¶貫¶賁¶贛¶起¶𧼯¶𠠄¶跋¶趼¶跰¶𠣞¶軔¶輸¶𨗒¶𨗭¶邔¶郱¶" ++
    "鄑¶𨜮¶鄛¶鈸¶鋗¶鋘¶鉼¶鏹¶鐕¶𨯺¶開¶䦕¶閷¶𨵷¶䧦¶雃¶嶲¶霣¶𩅅¶𩈚¶䩮¶䩶¶韠¶𩐊¶䪲¶𩒖¶頋¶頋¶頩¶" ++
    "𩖶¶飢¶䬳¶餩¶馧¶駂¶駾¶䯎¶𩬰¶鬒¶鱀¶鳽¶䳎¶䳭¶鵧¶𪃎¶䳸¶𪄅¶𪈎¶𪊑¶麻¶䵖¶黹¶黾¶鼅¶鼏¶鼖¶鼻¶𪘀")]

/-- Where the characters that stand for nothing begin and end. -/
def droppedBounds : List Nat := [
  0xAD, 0xAE, 0x34F, 0x350, 0x1806, 0x1807, 0x180B, 0x180E, 0x200B, 0x200E, 0x2060, 0x2061,
  0xFE00, 0xFE10, 0xFEFF, 0xFF00]

end DocLinks.Text.DomainName
