/-!
# Names of further scripts and of forms
-/

namespace DocLinks.Text.CharNames

/-- The names of the characters from U+2C00 to U+FFFF: further scripts, and forms of letters. -/
def formNames : String := "
  2C00 GLAGOLITIC CAPITAL LETTER
  /AZU/BUKY/VEDE/GLAGOLI/DOBRO/YESTU/ZHIVETE/DZELO/ZEMLJA/IZHE/INITIAL IZHE/I/DJERVI/KAKO/LJUDIJE
  /MYSLITE/NASHI/ONU/POKOJI/RITSI/SLOVO/TVRIDO/UKU/FRITU/HERU/OTU/PE/SHTA/TSI/CHRIVI/SHA/YERU/YERI
  /YATI/SPIDERY HA/YU/SMALL YUS/SMALL YUS WITH TAIL/YO/IOTATED SMALL YUS/BIG YUS/IOTATED BIG YUS
  /FITA/IZHITSA/SHTAPIC/TROKUTASTI A/LATINATE MYSLITE/CAUDATE CHRIVI
  2C30 GLAGOLITIC SMALL LETTER
  /AZU/BUKY/VEDE/GLAGOLI/DOBRO/YESTU/ZHIVETE/DZELO/ZEMLJA/IZHE/INITIAL IZHE/I/DJERVI/KAKO/LJUDIJE
  /MYSLITE/NASHI/ONU/POKOJI/RITSI/SLOVO/TVRIDO/UKU/FRITU/HERU/OTU/PE/SHTA/TSI/CHRIVI/SHA/YERU/YERI
  /YATI/SPIDERY HA/YU/SMALL YUS/SMALL YUS WITH TAIL/YO/IOTATED SMALL YUS/BIG YUS/IOTATED BIG YUS
  /FITA/IZHITSA/SHTAPIC/TROKUTASTI A/LATINATE MYSLITE/CAUDATE CHRIVI
  2C60 LATIN
  /CAPITAL LETTER L WITH DOUBLE BAR/SMALL LETTER L WITH DOUBLE BAR
  /CAPITAL LETTER L WITH MIDDLE TILDE/CAPITAL LETTER P WITH STROKE/CAPITAL LETTER R WITH TAIL
  /SMALL LETTER A WITH STROKE/SMALL LETTER T WITH DIAGONAL STROKE/CAPITAL LETTER H WITH DESCENDER
  /SMALL LETTER H WITH DESCENDER/CAPITAL LETTER K WITH DESCENDER/SMALL LETTER K WITH DESCENDER
  /CAPITAL LETTER Z WITH DESCENDER/SMALL LETTER Z WITH DESCENDER
  2C6D LATIN CAPITAL LETTER
  /ALPHA/M WITH HOOK/TURNED A/TURNED ALPHA
  2C71 LATIN
  /SMALL LETTER V WITH RIGHT HOOK/CAPITAL LETTER W WITH HOOK/SMALL LETTER W WITH HOOK
  /SMALL LETTER V WITH CURL/CAPITAL LETTER HALF H
  2C76 LATIN SMALL LETTER
  /HALF H/TAILLESS PHI/E WITH NOTCH/TURNED R WITH TAIL/O WITH LOW RING INSIDE
  2C7B
  /LATIN LETTER SMALL CAPITAL TURNED E/LATIN SUBSCRIPT SMALL LETTER J/MODIFIER LETTER CAPITAL V
  2C7E LATIN CAPITAL LETTER
  /S WITH SWASH TAIL/Z WITH SWASH TAIL
  2C80 COPTIC
  /CAPITAL LETTER ALFA/SMALL LETTER ALFA/CAPITAL LETTER VIDA/SMALL LETTER VIDA
  /CAPITAL LETTER GAMMA/SMALL LETTER GAMMA/CAPITAL LETTER DALDA/SMALL LETTER DALDA
  /CAPITAL LETTER EIE/SMALL LETTER EIE/CAPITAL LETTER SOU/SMALL LETTER SOU/CAPITAL LETTER ZATA
  /SMALL LETTER ZATA/CAPITAL LETTER HATE/SMALL LETTER HATE/CAPITAL LETTER THETHE
  /SMALL LETTER THETHE/CAPITAL LETTER IAUDA/SMALL LETTER IAUDA/CAPITAL LETTER KAPA
  /SMALL LETTER KAPA/CAPITAL LETTER LAULA/SMALL LETTER LAULA/CAPITAL LETTER MI/SMALL LETTER MI
  /CAPITAL LETTER NI/SMALL LETTER NI/CAPITAL LETTER KSI/SMALL LETTER KSI/CAPITAL LETTER O
  /SMALL LETTER O/CAPITAL LETTER PI/SMALL LETTER PI/CAPITAL LETTER RO/SMALL LETTER RO
  /CAPITAL LETTER SIMA/SMALL LETTER SIMA/CAPITAL LETTER TAU/SMALL LETTER TAU/CAPITAL LETTER UA
  /SMALL LETTER UA/CAPITAL LETTER FI/SMALL LETTER FI/CAPITAL LETTER KHI/SMALL LETTER KHI
  /CAPITAL LETTER PSI/SMALL LETTER PSI/CAPITAL LETTER OOU/SMALL LETTER OOU
  /CAPITAL LETTER DIALECT-P ALEF/SMALL LETTER DIALECT-P ALEF/CAPITAL LETTER OLD COPTIC AIN
  /SMALL LETTER OLD COPTIC AIN/CAPITAL LETTER CRYPTOGRAMMIC EIE/SMALL LETTER CRYPTOGRAMMIC EIE
  /CAPITAL LETTER DIALECT-P KAPA/SMALL LETTER DIALECT-P KAPA/CAPITAL LETTER DIALECT-P NI
  /SMALL LETTER DIALECT-P NI/CAPITAL LETTER CRYPTOGRAMMIC NI/SMALL LETTER CRYPTOGRAMMIC NI
  /CAPITAL LETTER OLD COPTIC OOU/SMALL LETTER OLD COPTIC OOU/CAPITAL LETTER SAMPI
  /SMALL LETTER SAMPI/CAPITAL LETTER CROSSED SHEI/SMALL LETTER CROSSED SHEI
  /CAPITAL LETTER OLD COPTIC SHEI/SMALL LETTER OLD COPTIC SHEI/CAPITAL LETTER OLD COPTIC ESH
  /SMALL LETTER OLD COPTIC ESH/CAPITAL LETTER AKHMIMIC KHEI/SMALL LETTER AKHMIMIC KHEI
  /CAPITAL LETTER DIALECT-P HORI/SMALL LETTER DIALECT-P HORI/CAPITAL LETTER OLD COPTIC HORI
  /SMALL LETTER OLD COPTIC HORI/CAPITAL LETTER OLD COPTIC HA/SMALL LETTER OLD COPTIC HA
  /CAPITAL LETTER L-SHAPED HA/SMALL LETTER L-SHAPED HA/CAPITAL LETTER OLD COPTIC HEI
  /SMALL LETTER OLD COPTIC HEI/CAPITAL LETTER OLD COPTIC HAT/SMALL LETTER OLD COPTIC HAT
  /CAPITAL LETTER OLD COPTIC GANGIA/SMALL LETTER OLD COPTIC GANGIA/CAPITAL LETTER OLD COPTIC DJA
  /SMALL LETTER OLD COPTIC DJA/CAPITAL LETTER OLD COPTIC SHIMA/SMALL LETTER OLD COPTIC SHIMA
  /CAPITAL LETTER OLD NUBIAN SHIMA/SMALL LETTER OLD NUBIAN SHIMA/CAPITAL LETTER OLD NUBIAN NGI
  /SMALL LETTER OLD NUBIAN NGI/CAPITAL LETTER OLD NUBIAN NYI/SMALL LETTER OLD NUBIAN NYI
  /CAPITAL LETTER OLD NUBIAN WAU/SMALL LETTER OLD NUBIAN WAU/SYMBOL KAI/SYMBOL MI RO/SYMBOL PI RO
  /SYMBOL STAUROS/SYMBOL TAU RO/SYMBOL KHI RO/SYMBOL SHIMA SIMA/CAPITAL LETTER CRYPTOGRAMMIC SHEI
  /SMALL LETTER CRYPTOGRAMMIC SHEI/CAPITAL LETTER CRYPTOGRAMMIC GANGIA
  /SMALL LETTER CRYPTOGRAMMIC GANGIA/COMBINING NI ABOVE/COMBINING SPIRITUS ASPER
  /COMBINING SPIRITUS LENIS/CAPITAL LETTER BOHAIRIC KHEI/SMALL LETTER BOHAIRIC KHEI/////
  /OLD NUBIAN FULL STOP/OLD NUBIAN DIRECT QUESTION MARK/OLD NUBIAN INDIRECT QUESTION MARK
  /OLD NUBIAN VERSE DIVIDER/FRACTION ONE HALF/FULL STOP/MORPHOLOGICAL DIVIDER
  2D00 GEORGIAN SMALL LETTER
  /AN/BAN/GAN/DON/EN/VIN/ZEN/TAN/IN/KAN/LAS/MAN/NAR/ON/PAR/ZHAR/RAE/SAN/TAR/UN/PHAR/KHAR/GHAN/QAR
  /SHIN/CHIN/CAN/JIL/CIL/CHAR/XAN/JHAN/HAE/HE/HIE/WE/HAR/HOE//YN//////AEN
  2D30 TIFINAGH LETTER
  /YA/YAB/YABH/YAG/YAGHH/BERBER ACADEMY YAJ/YAJ/YAD/YADH/YADD/YADDH/YEY/YAF/YAK/TUAREG YAK/YAKHH
  /YAH/BERBER ACADEMY YAH/TUAREG YAH/YAHH/YAA/YAKH/TUAREG YAKH/YAQ/TUAREG YAQ/YI/YAZH/AHAGGAR YAZH
  /TUAREG YAZH/YAL/YAM/YAN/TUAREG YAGN/TUAREG YANG/YAP/YU/YAR/YARR/YAGH/TUAREG YAGH/AYER YAGH/YAS
  /YASS/YASH/YAT/YATH/YACH/YATT/YAV/YAW/YAY/YAZ/TAWELLEMET YAZ/YAZZ/YE/YO
  2D6F TIFINAGH
  /MODIFIER LETTER LABIALIZATION MARK/SEPARATOR MARK
  2D7F
  /TIFINAGH CONSONANT JOINER
  2D80 ETHIOPIC SYLLABLE
  /LOA/MOA/ROA/SOA/SHOA/BOA/TOA/COA/NOA/NYOA/GLOTTAL OA/ZOA/DOA/DDOA/JOA/THOA/CHOA/PHOA/POA/GGWA
  /GGWI/GGWEE/GGWE
  2DA0 ETHIOPIC SYLLABLE
  /SSA/SSU/SSI/SSAA/SSEE/SSE/SSO//CCA/CCU/CCI/CCAA/CCEE/CCE/CCO//ZZA/ZZU/ZZI/ZZAA/ZZEE/ZZE/ZZO/
  /CCHA/CCHU/CCHI/CCHAA/CCHEE/CCHE/CCHO//QYA/QYU/QYI/QYAA/QYEE/QYE/QYO//KYA/KYU/KYI/KYAA/KYEE/KYE
  /KYO//XYA/XYU/XYI/XYAA/XYEE/XYE/XYO//GYA/GYU/GYI/GYAA/GYEE/GYE/GYO
  2DE0 COMBINING CYRILLIC LETTER
  /BE/VE/GHE/DE/ZHE/ZE/KA/EL/EM/EN/O/PE/ER/ES/TE/HA/TSE/CHE/SHA/SHCHA/FITA/ES-TE/A/IE/DJERV
  /MONOGRAPH UK/YAT/YU/IOTIFIED A/LITTLE YUS/BIG YUS/IOTIFIED BIG YUS
  2E00
  /RIGHT ANGLE SUBSTITUTION MARKER/RIGHT ANGLE DOTTED SUBSTITUTION MARKER
  /LEFT SUBSTITUTION BRACKET/RIGHT SUBSTITUTION BRACKET/LEFT DOTTED SUBSTITUTION BRACKET
  /RIGHT DOTTED SUBSTITUTION BRACKET/RAISED INTERPOLATION MARKER
  /RAISED DOTTED INTERPOLATION MARKER/DOTTED TRANSPOSITION MARKER/LEFT TRANSPOSITION BRACKET
  /RIGHT TRANSPOSITION BRACKET/RAISED SQUARE/LEFT RAISED OMISSION BRACKET
  /RIGHT RAISED OMISSION BRACKET/EDITORIAL CORONIS/PARAGRAPHOS/FORKED PARAGRAPHOS
  /REVERSED FORKED PARAGRAPHOS/HYPODIASTOLE/DOTTED OBELOS/DOWNWARDS ANCORA/UPWARDS ANCORA
  /DOTTED RIGHT-POINTING ANGLE/DOUBLE OBLIQUE HYPHEN/INVERTED INTERROBANG/PALM BRANCH
  /HYPHEN WITH DIAERESIS/TILDE WITH RING ABOVE/LEFT LOW PARAPHRASE BRACKET
  /RIGHT LOW PARAPHRASE BRACKET
  2E1E TILDE WITH DOT
  /ABOVE/BELOW
  2E20
  /LEFT VERTICAL BAR WITH QUILL/RIGHT VERTICAL BAR WITH QUILL/TOP LEFT HALF BRACKET
  /TOP RIGHT HALF BRACKET/BOTTOM LEFT HALF BRACKET/BOTTOM RIGHT HALF BRACKET
  /LEFT SIDEWAYS U BRACKET/RIGHT SIDEWAYS U BRACKET/LEFT DOUBLE PARENTHESIS
  /RIGHT DOUBLE PARENTHESIS/TWO DOTS OVER ONE DOT PUNCTUATION/ONE DOT OVER TWO DOTS PUNCTUATION
  /SQUARED FOUR DOT PUNCTUATION/FIVE DOT MARK/REVERSED QUESTION MARK/VERTICAL TILDE/RING POINT
  /WORD SEPARATOR MIDDLE DOT/TURNED COMMA/RAISED DOT/RAISED COMMA/TURNED SEMICOLON
  /DAGGER WITH LEFT GUARD/DAGGER WITH RIGHT GUARD/TURNED DAGGER/TOP HALF SECTION SIGN/TWO-EM DASH
  /THREE-EM DASH/STENOGRAPHIC FULL STOP/VERTICAL SIX DOTS/WIGGLY VERTICAL LINE/CAPITULUM
  /DOUBLE HYPHEN/REVERSED COMMA/DOUBLE LOW-REVERSED-9 QUOTATION MARK/DASH WITH LEFT UPTURN
  /DOUBLE SUSPENSION MARK/INVERTED LOW KAVYKA/INVERTED LOW KAVYKA WITH KAVYKA ABOVE/LOW KAVYKA
  /LOW KAVYKA WITH DOT/DOUBLE STACKED COMMA/DOTTED SOLIDUS/TRIPLE DAGGER/MEDIEVAL COMMA
  /PARAGRAPHUS MARK/PUNCTUS ELEVATUS MARK/CORNISH VERSE DIVIDER/CROSS PATTY WITH RIGHT CROSSBAR
  /CROSS PATTY WITH LEFT CROSSBAR/TIRONIAN SIGN CAPITAL ET/MEDIEVAL EXCLAMATION MARK
  /MEDIEVAL QUESTION MARK/LEFT SQUARE BRACKET WITH STROKE/RIGHT SQUARE BRACKET WITH STROKE
  /LEFT SQUARE BRACKET WITH DOUBLE STROKE/RIGHT SQUARE BRACKET WITH DOUBLE STROKE
  /TOP HALF LEFT PARENTHESIS/TOP HALF RIGHT PARENTHESIS/BOTTOM HALF LEFT PARENTHESIS
  /BOTTOM HALF RIGHT PARENTHESIS/OBLIQUE HYPHEN
  2E80 CJK RADICAL
  /REPEAT/CLIFF/SECOND ONE/SECOND TWO/SECOND THREE/PERSON/BOX/TABLE/KNIFE ONE/KNIFE TWO/DIVINATION
  /SEAL/SMALL ONE/SMALL TWO/LAME ONE/LAME TWO/LAME THREE/LAME FOUR/SNAKE/THREAD/SNOUT ONE
  /SNOUT TWO/HEART ONE/HEART TWO/HAND/RAP//CHOKE/SUN/MOON/DEATH/MOTHER/CIVILIAN/WATER ONE
  /WATER TWO/FIRE/PAW ONE/PAW TWO/SIMPLIFIED HALF TREE TRUNK/COW/DOG/JADE/BOLT OF CLOTH/EYE
  /SPIRIT ONE/SPIRIT TWO/BAMBOO/SILK/C-SIMPLIFIED SILK/NET ONE/NET TWO/NET THREE/NET FOUR/MESH
  /SHEEP/RAM/EWE/OLD/BRUSH ONE/BRUSH TWO/MEAT/MORTAR/GRASS ONE/GRASS TWO/GRASS THREE/TIGER/CLOTHES
  /WEST ONE/WEST TWO/C-SIMPLIFIED SEE/SIMPLIFIED HORN/HORN/C-SIMPLIFIED SPEECH/C-SIMPLIFIED SHELL
  /FOOT/C-SIMPLIFIED CART/SIMPLIFIED WALK/WALK ONE/WALK TWO/CITY/C-SIMPLIFIED GOLD/LONG ONE
  /LONG TWO/C-SIMPLIFIED LONG/C-SIMPLIFIED GATE/MOUND ONE/MOUND TWO/RAIN/BLUE
  /C-SIMPLIFIED TANNED LEATHER/C-SIMPLIFIED LEAF/C-SIMPLIFIED WIND/C-SIMPLIFIED FLY/EAT ONE
  /EAT TWO/EAT THREE/C-SIMPLIFIED EAT/HEAD/C-SIMPLIFIED HORSE/BONE/GHOST/C-SIMPLIFIED FISH
  /C-SIMPLIFIED BIRD/C-SIMPLIFIED SALT/SIMPLIFIED WHEAT/SIMPLIFIED YELLOW/C-SIMPLIFIED FROG
  /J-SIMPLIFIED EVEN/C-SIMPLIFIED EVEN/J-SIMPLIFIED TOOTH/C-SIMPLIFIED TOOTH/J-SIMPLIFIED DRAGON
  /C-SIMPLIFIED DRAGON/TURTLE/J-SIMPLIFIED TURTLE/C-SIMPLIFIED TURTLE
  2F00 KANGXI RADICAL
  /ONE/LINE/DOT/SLASH/SECOND/HOOK/TWO/LID/MAN/LEGS/ENTER/EIGHT/DOWN BOX/COVER/ICE/TABLE/OPEN BOX
  /KNIFE/POWER/WRAP/SPOON/RIGHT OPEN BOX/HIDING ENCLOSURE/TEN/DIVINATION/SEAL/CLIFF/PRIVATE/AGAIN
  /MOUTH/ENCLOSURE/EARTH/SCHOLAR/GO/GO SLOWLY/EVENING/BIG/WOMAN/CHILD/ROOF/INCH/SMALL/LAME/CORPSE
  /SPROUT/MOUNTAIN/RIVER/WORK/ONESELF/TURBAN/DRY/SHORT THREAD/DOTTED CLIFF/LONG STRIDE/TWO HANDS
  /SHOOT/BOW/SNOUT/BRISTLE/STEP/HEART/HALBERD/DOOR/HAND/BRANCH/RAP/SCRIPT/DIPPER/AXE/SQUARE/NOT
  /SUN/SAY/MOON/TREE/LACK/STOP/DEATH/WEAPON/DO NOT/COMPARE/FUR/CLAN/STEAM/WATER/FIRE/CLAW/FATHER
  /DOUBLE X/HALF TREE TRUNK/SLICE/FANG/COW/DOG/PROFOUND/JADE/MELON/TILE/SWEET/LIFE/USE/FIELD
  /BOLT OF CLOTH/SICKNESS/DOTTED TENT/WHITE/SKIN/DISH/EYE/SPEAR/ARROW/STONE/SPIRIT/TRACK/GRAIN
  /CAVE/STAND/BAMBOO/RICE/SILK/JAR/NET/SHEEP/FEATHER/OLD/AND/PLOW/EAR/BRUSH/MEAT/MINISTER/SELF
  /ARRIVE/MORTAR/TONGUE/OPPOSE/BOAT/STOPPING/COLOR/GRASS/TIGER/INSECT/BLOOD/WALK ENCLOSURE/CLOTHES
  /WEST/SEE/HORN/SPEECH/VALLEY/BEAN/PIG/BADGER/SHELL/RED/RUN/FOOT/BODY/CART/BITTER/MORNING/WALK
  /CITY/WINE/DISTINGUISH/VILLAGE/GOLD/LONG/GATE/MOUND/SLAVE/SHORT TAILED BIRD/RAIN/BLUE/WRONG/FACE
  /LEATHER/TANNED LEATHER/LEEK/SOUND/LEAF/WIND/FLY/EAT/HEAD/FRAGRANT/HORSE/BONE/TALL/HAIR/FIGHT
  /SACRIFICIAL WINE/CAULDRON/GHOST/FISH/BIRD/SALT/DEER/WHEAT/HEMP/YELLOW/MILLET/BLACK/EMBROIDERY
  /FROG/TRIPOD/DRUM/RAT/NOSE/EVEN/TOOTH/DRAGON/TURTLE/FLUTE
  2FF0 IDEOGRAPHIC DESCRIPTION CHARACTER
  /LEFT TO RIGHT/ABOVE TO BELOW/LEFT TO MIDDLE AND RIGHT/ABOVE TO MIDDLE AND BELOW/FULL SURROUND
  /SURROUND FROM ABOVE/SURROUND FROM BELOW/SURROUND FROM LEFT/SURROUND FROM UPPER LEFT
  /SURROUND FROM UPPER RIGHT/SURROUND FROM LOWER LEFT/OVERLAID
  3000 IDEOGRAPHIC
  /SPACE/COMMA/FULL STOP
  3003
  /DITTO MARK/JAPANESE INDUSTRIAL STANDARD SYMBOL/IDEOGRAPHIC ITERATION MARK
  /IDEOGRAPHIC CLOSING MARK/IDEOGRAPHIC NUMBER ZERO/LEFT ANGLE BRACKET/RIGHT ANGLE BRACKET
  /LEFT DOUBLE ANGLE BRACKET/RIGHT DOUBLE ANGLE BRACKET/LEFT CORNER BRACKET/RIGHT CORNER BRACKET
  /LEFT WHITE CORNER BRACKET/RIGHT WHITE CORNER BRACKET/LEFT BLACK LENTICULAR BRACKET
  /RIGHT BLACK LENTICULAR BRACKET/POSTAL MARK/GETA MARK/LEFT TORTOISE SHELL BRACKET
  /RIGHT TORTOISE SHELL BRACKET/LEFT WHITE LENTICULAR BRACKET/RIGHT WHITE LENTICULAR BRACKET
  /LEFT WHITE TORTOISE SHELL BRACKET/RIGHT WHITE TORTOISE SHELL BRACKET/LEFT WHITE SQUARE BRACKET
  /RIGHT WHITE SQUARE BRACKET/WAVE DASH/REVERSED DOUBLE PRIME QUOTATION MARK
  /DOUBLE PRIME QUOTATION MARK/LOW DOUBLE PRIME QUOTATION MARK/POSTAL MARK FACE
  3021 HANGZHOU NUMERAL
  /ONE/TWO/THREE/FOUR/FIVE/SIX/SEVEN/EIGHT/NINE
  302A IDEOGRAPHIC
  /LEVEL TONE MARK/RISING TONE MARK/DEPARTING TONE MARK/ENTERING TONE MARK
  302E
  /HANGUL SINGLE DOT TONE MARK/HANGUL DOUBLE DOT TONE MARK/WAVY DASH
  3031 VERTICAL KANA REPEAT
  /MARK/WITH VOICED SOUND MARK/MARK UPPER HALF/WITH VOICED SOUND MARK UPPER HALF/MARK LOWER HALF
  3036
  /CIRCLED POSTAL MARK/IDEOGRAPHIC TELEGRAPH LINE FEED SEPARATOR SYMBOL
  3038 HANGZHOU NUMERAL
  /TEN/TWENTY/THIRTY
  303B
  /VERTICAL IDEOGRAPHIC ITERATION MARK/MASU MARK/PART ALTERNATION MARK
  /IDEOGRAPHIC VARIATION INDICATOR/IDEOGRAPHIC HALF FILL SPACE
  3041 HIRAGANA LETTER
  /SMALL A/A/SMALL I/I/SMALL U/U/SMALL E/E/SMALL O/O/KA/GA/KI/GI/KU/GU/KE/GE/KO/GO/SA/ZA/SI/ZI/SU
  /ZU/SE/ZE/SO/ZO/TA/DA/TI/DI/SMALL TU/TU/DU/TE/DE/TO/DO/NA/NI/NU/NE/NO/HA/BA/PA/HI/BI/PI/HU/BU/PU
  /HE/BE/PE/HO/BO/PO/MA/MI/MU/ME/MO/SMALL YA/YA/SMALL YU/YU/SMALL YO/YO/RA/RI/RU/RE/RO/SMALL WA/WA
  /WI/WE/WO/N/VU/SMALL KA/SMALL KE
  3099 COMBINING KATAKANA-HIRAGANA
  /VOICED SOUND MARK/SEMI-VOICED SOUND MARK
  309B KATAKANA-HIRAGANA
  /VOICED SOUND MARK/SEMI-VOICED SOUND MARK
  309D HIRAGANA
  /ITERATION MARK/VOICED ITERATION MARK/DIGRAPH YORI
  30A0
  /KATAKANA-HIRAGANA DOUBLE HYPHEN
  30A1 KATAKANA LETTER
  /SMALL A/A/SMALL I/I/SMALL U/U/SMALL E/E/SMALL O/O/KA/GA/KI/GI/KU/GU/KE/GE/KO/GO/SA/ZA/SI/ZI/SU
  /ZU/SE/ZE/SO/ZO/TA/DA/TI/DI/SMALL TU/TU/DU/TE/DE/TO/DO/NA/NI/NU/NE/NO/HA/BA/PA/HI/BI/PI/HU/BU/PU
  /HE/BE/PE/HO/BO/PO/MA/MI/MU/ME/MO/SMALL YA/YA/SMALL YU/YU/SMALL YO/YO/RA/RI/RU/RE/RO/SMALL WA/WA
  /WI/WE/WO/N/VU/SMALL KA/SMALL KE/VA/VI/VE/VO
  30FB
  /KATAKANA MIDDLE DOT/KATAKANA-HIRAGANA PROLONGED SOUND MARK
  30FD KATAKANA
  /ITERATION MARK/VOICED ITERATION MARK/DIGRAPH KOTO
  3105 BOPOMOFO LETTER
  /B/P/M/F/D/T/N/L/G/K/H/J/Q/X/ZH/CH/SH/R/Z/C/S/A/O/E/EH/AI/EI/AU/OU/AN/EN/ANG/ENG/ER/I/U/IU/V/NG
  /GN/IH/O WITH DOT ABOVE/NN
  3131 HANGUL LETTER
  /KIYEOK/SSANGKIYEOK/KIYEOK-SIOS/NIEUN/NIEUN-CIEUC/NIEUN-HIEUH/TIKEUT/SSANGTIKEUT/RIEUL
  /RIEUL-KIYEOK/RIEUL-MIEUM/RIEUL-PIEUP/RIEUL-SIOS/RIEUL-THIEUTH/RIEUL-PHIEUPH/RIEUL-HIEUH/MIEUM
  /PIEUP/SSANGPIEUP/PIEUP-SIOS/SIOS/SSANGSIOS/IEUNG/CIEUC/SSANGCIEUC/CHIEUCH/KHIEUKH/THIEUTH
  /PHIEUPH/HIEUH/A/AE/YA/YAE/EO/E/YEO/YE/O/WA/WAE/OE/YO/U/WEO/WE/WI/YU/EU/YI/I
  3164
  /HANGUL FILLER
  3165 HANGUL LETTER
  /SSANGNIEUN/NIEUN-TIKEUT/NIEUN-SIOS/NIEUN-PANSIOS/RIEUL-KIYEOK-SIOS/RIEUL-TIKEUT
  /RIEUL-PIEUP-SIOS/RIEUL-PANSIOS/RIEUL-YEORINHIEUH/MIEUM-PIEUP/MIEUM-SIOS/MIEUM-PANSIOS
  /KAPYEOUNMIEUM/PIEUP-KIYEOK/PIEUP-TIKEUT/PIEUP-SIOS-KIYEOK/PIEUP-SIOS-TIKEUT/PIEUP-CIEUC
  /PIEUP-THIEUTH/KAPYEOUNPIEUP/KAPYEOUNSSANGPIEUP/SIOS-KIYEOK/SIOS-NIEUN/SIOS-TIKEUT/SIOS-PIEUP
  /SIOS-CIEUC/PANSIOS/SSANGIEUNG/YESIEUNG/YESIEUNG-SIOS/YESIEUNG-PANSIOS/KAPYEOUNPHIEUPH
  /SSANGHIEUH/YEORINHIEUH/YO-YA/YO-YAE/YO-I/YU-YEO/YU-YE/YU-I/ARAEA/ARAEAE
  3190 IDEOGRAPHIC ANNOTATION
  /LINKING MARK/REVERSE MARK/ONE MARK/TWO MARK/THREE MARK/FOUR MARK/TOP MARK/MIDDLE MARK
  /BOTTOM MARK/FIRST MARK/SECOND MARK/THIRD MARK/FOURTH MARK/HEAVEN MARK/EARTH MARK/MAN MARK
  31A0 BOPOMOFO LETTER
  /BU/ZI/JI/GU/EE/ENN/OO/ONN/IR/ANN/INN/UNN/IM/NGG/AINN/AUNN/AM/OM/ONG/INNN
  31B4 BOPOMOFO FINAL LETTER
  /P/T/K/H
  31B8 BOPOMOFO
  /LETTER GH/LETTER LH/LETTER ZY/FINAL LETTER G/LETTER GW/LETTER KW/LETTER OE/LETTER AH
  31C0 CJK STROKE
  /T/WG/XG/BXG/SW/HZZ/HZG/HP/HZWG/SZWG/HZT/HZZP/HPWG/HZW/HZZZ/N/H/S/P/SP/D/HZ/HG/SZ/SWZ/ST/SG/PD
  /PZ/TN/SZZ/SWG/HXWG/HZZZG/PG/Q
  31F0 KATAKANA LETTER SMALL
  /KU/SI/SU/TO/NU/HA/HI/HU/HE/HO/MU/RA/RI/RU/RE/RO
  3200 PARENTHESIZED HANGUL
  /KIYEOK/NIEUN/TIKEUT/RIEUL/MIEUM/PIEUP/SIOS/IEUNG/CIEUC/CHIEUCH/KHIEUKH/THIEUTH/PHIEUPH/HIEUH
  /KIYEOK A/NIEUN A/TIKEUT A/RIEUL A/MIEUM A/PIEUP A/SIOS A/IEUNG A/CIEUC A/CHIEUCH A/KHIEUKH A
  /THIEUTH A/PHIEUPH A/HIEUH A/CIEUC U
  321D PARENTHESIZED KOREAN CHARACTER
  /OJEON/O HU
  3220 PARENTHESIZED IDEOGRAPH
  /ONE/TWO/THREE/FOUR/FIVE/SIX/SEVEN/EIGHT/NINE/TEN/MOON/FIRE/WATER/WOOD/METAL/EARTH/SUN/STOCK
  /HAVE/SOCIETY/NAME/SPECIAL/FINANCIAL/CONGRATULATION/LABOR/REPRESENT/CALL/STUDY/SUPERVISE
  /ENTERPRISE/RESOURCE/ALLIANCE/FESTIVAL/REST/SELF/REACH
  3244 CIRCLED IDEOGRAPH
  /QUESTION/KINDERGARTEN/SCHOOL/KOTO
  3248 CIRCLED NUMBER
  /TEN ON BLACK SQUARE/TWENTY ON BLACK SQUARE/THIRTY ON BLACK SQUARE/FORTY ON BLACK SQUARE
  /FIFTY ON BLACK SQUARE/SIXTY ON BLACK SQUARE/SEVENTY ON BLACK SQUARE/EIGHTY ON BLACK SQUARE
  3250
  /PARTNERSHIP SIGN
  3251 CIRCLED NUMBER TWENTY
  /ONE/TWO/THREE/FOUR/FIVE/SIX/SEVEN/EIGHT/NINE
  325A CIRCLED NUMBER
  /THIRTY/THIRTY ONE/THIRTY TWO/THIRTY THREE/THIRTY FOUR/THIRTY FIVE
  3260 CIRCLED HANGUL
  /KIYEOK/NIEUN/TIKEUT/RIEUL/MIEUM/PIEUP/SIOS/IEUNG/CIEUC/CHIEUCH/KHIEUKH/THIEUTH/PHIEUPH/HIEUH
  /KIYEOK A/NIEUN A/TIKEUT A/RIEUL A/MIEUM A/PIEUP A/SIOS A/IEUNG A/CIEUC A/CHIEUCH A/KHIEUKH A
  /THIEUTH A/PHIEUPH A/HIEUH A
  327C CIRCLED KOREAN CHARACTER
  /CHAMKO/JUEUI
  327E
  /CIRCLED HANGUL IEUNG U/KOREAN STANDARD SYMBOL
  3280 CIRCLED IDEOGRAPH
  /ONE/TWO/THREE/FOUR/FIVE/SIX/SEVEN/EIGHT/NINE/TEN/MOON/FIRE/WATER/WOOD/METAL/EARTH/SUN/STOCK
  /HAVE/SOCIETY/NAME/SPECIAL/FINANCIAL/CONGRATULATION/LABOR/SECRET/MALE/FEMALE/SUITABLE/EXCELLENT
  /PRINT/ATTENTION/ITEM/REST/COPY/CORRECT/HIGH/CENTRE/LOW/LEFT/RIGHT/MEDICINE/RELIGION/STUDY
  /SUPERVISE/ENTERPRISE/RESOURCE/ALLIANCE/NIGHT
  32B1 CIRCLED NUMBER
  /THIRTY SIX/THIRTY SEVEN/THIRTY EIGHT/THIRTY NINE/FORTY/FORTY ONE/FORTY TWO/FORTY THREE
  /FORTY FOUR/FORTY FIVE/FORTY SIX/FORTY SEVEN/FORTY EIGHT/FORTY NINE/FIFTY
  32C0 IDEOGRAPHIC TELEGRAPH SYMBOL FOR
  /JANUARY/FEBRUARY/MARCH/APRIL/MAY/JUNE/JULY/AUGUST/SEPTEMBER/OCTOBER/NOVEMBER/DECEMBER
  32CC
  /SQUARE HG/SQUARE ERG/SQUARE EV/LIMITED LIABILITY SIGN
  32D0 CIRCLED KATAKANA
  /A/I/U/E/O/KA/KI/KU/KE/KO/SA/SI/SU/SE/SO/TA/TI/TU/TE/TO/NA/NI/NU/NE/NO/HA/HI/HU/HE/HO/MA/MI/MU
  /ME/MO/YA/YU/YO/RA/RI/RU/RE/RO/WA/WI/WE/WO
  32FF SQUARE
  /ERA NAME REIWA/APAATO/ARUHUA/ANPEA/AARU/ININGU/INTI/UON/ESUKUUDO/EEKAA/ONSU/OOMU/KAIRI/KARATTO
  /KARORII/GARON/GANMA/GIGA/GINII/KYURII/GIRUDAA/KIRO/KIROGURAMU/KIROMEETORU/KIROWATTO/GURAMU
  /GURAMUTON/KURUZEIRO/KUROONE/KEESU/KORUNA/KOOPO/SAIKURU/SANTIIMU/SIRINGU/SENTI/SENTO/DAASU/DESI
  /DORU/TON/NANO/NOTTO/HAITU/PAASENTO/PAATU/BAARERU/PIASUTORU/PIKURU/PIKO/BIRU/HUARADDO/HUIITO
  /BUSSYERU/HURAN/HEKUTAARU/PESO/PENIHI/HERUTU/PENSU/PEEZI/BEETA/POINTO/BORUTO/HON/PONDO/HOORU
  /HOON/MAIKURO/MAIRU/MAHHA/MARUKU/MANSYON/MIKURON/MIRI/MIRIBAARU/MEGA/MEGATON/MEETORU/YAADO/YAARU
  /YUAN/RITTORU/RIRA/RUPII/RUUBURU/REMU/RENTOGEN/WATTO
  3358 IDEOGRAPHIC TELEGRAPH SYMBOL FOR HOUR
  /ZERO/ONE/TWO/THREE/FOUR/FIVE/SIX/SEVEN/EIGHT/NINE/TEN/ELEVEN/TWELVE/THIRTEEN/FOURTEEN/FIFTEEN
  /SIXTEEN/SEVENTEEN/EIGHTEEN/NINETEEN/TWENTY/TWENTY-ONE/TWENTY-TWO/TWENTY-THREE/TWENTY-FOUR
  3371 SQUARE
  /HPA/DA/AU/BAR/OV/PC/DM/DM SQUARED/DM CUBED/IU/ERA NAME HEISEI/ERA NAME SYOUWA/ERA NAME TAISYOU
  /ERA NAME MEIZI/CORPORATION/PA AMPS/NA/MU A/MA/KA/KB/MB/GB/CAL/KCAL/PF/NF/MU F/MU G/MG/KG/HZ/KHZ
  /MHZ/GHZ/THZ/MU L/ML/DL/KL/FM/NM/MU M/MM/CM/KM/MM SQUARED/CM SQUARED/M SQUARED/KM SQUARED
  /MM CUBED/CM CUBED/M CUBED/KM CUBED/M OVER S/M OVER S SQUARED/PA/KPA/MPA/GPA/RAD/RAD OVER S
  /RAD OVER S SQUARED/PS/NS/MU S/MS/PV/NV/MU V/MV/KV/MV MEGA/PW/NW/MU W/MW/KW/MW MEGA/K OHM/M OHM
  /AM/BQ/CC/CD/C OVER KG/CO/DB/GY/HA/HP/IN/KK/KM CAPITAL/KT/LM/LN/LOG/LX/MB SMALL/MIL/MOL/PH/PM
  /PPM/PR/SR/SV/WB/V OVER M/A OVER M
  33E0 IDEOGRAPHIC TELEGRAPH SYMBOL FOR DAY
  /ONE/TWO/THREE/FOUR/FIVE/SIX/SEVEN/EIGHT/NINE/TEN/ELEVEN/TWELVE/THIRTEEN/FOURTEEN/FIFTEEN
  /SIXTEEN/SEVENTEEN/EIGHTEEN/NINETEEN/TWENTY/TWENTY-ONE/TWENTY-TWO/TWENTY-THREE/TWENTY-FOUR
  /TWENTY-FIVE/TWENTY-SIX/TWENTY-SEVEN/TWENTY-EIGHT/TWENTY-NINE/THIRTY/THIRTY-ONE
  33FF
  /SQUARE GAL
  4DC0 HEXAGRAM FOR
  /THE CREATIVE HEAVEN/THE RECEPTIVE EARTH/DIFFICULTY AT THE BEGINNING/YOUTHFUL FOLLY/WAITING
  /CONFLICT/THE ARMY/HOLDING TOGETHER/SMALL TAMING/TREADING/PEACE/STANDSTILL/FELLOWSHIP
  /GREAT POSSESSION/MODESTY/ENTHUSIASM/FOLLOWING/WORK ON THE DECAYED/APPROACH/CONTEMPLATION
  /BITING THROUGH/GRACE/SPLITTING APART/RETURN/INNOCENCE/GREAT TAMING/MOUTH CORNERS
  /GREAT PREPONDERANCE/THE ABYSMAL WATER/THE CLINGING FIRE/INFLUENCE/DURATION/RETREAT/GREAT POWER
  /PROGRESS/DARKENING OF THE LIGHT/THE FAMILY/OPPOSITION/OBSTRUCTION/DELIVERANCE/DECREASE/INCREASE
  /BREAKTHROUGH/COMING TO MEET/GATHERING TOGETHER/PUSHING UPWARD/OPPRESSION/THE WELL/REVOLUTION
  /THE CAULDRON/THE AROUSING THUNDER/THE KEEPING STILL MOUNTAIN/DEVELOPMENT/THE MARRYING MAIDEN
  /ABUNDANCE/THE WANDERER/THE GENTLE WIND/THE JOYOUS LAKE/DISPERSION/LIMITATION/INNER TRUTH
  /SMALL PREPONDERANCE/AFTER COMPLETION/BEFORE COMPLETION
  A000 YI SYLLABLE
  /IT/IX/I/IP/IET/IEX/IE/IEP/AT/AX/A/AP/UOX/UO/UOP/OT/OX/O/OP/EX/E/WU/BIT/BIX/BI/BIP/BIET/BIEX/BIE
  /BIEP/BAT/BAX/BA/BAP/BUOX/BUO/BUOP/BOT/BOX/BO/BOP/BEX/BE/BEP/BUT/BUX/BU/BUP/BURX/BUR/BYT/BYX/BY
  /BYP/BYRX/BYR/PIT/PIX/PI/PIP/PIEX/PIE/PIEP/PAT/PAX/PA/PAP/PUOX/PUO/PUOP/POT/POX/PO/POP/PUT/PUX
  /PU/PUP/PURX/PUR/PYT/PYX/PY/PYP/PYRX/PYR/BBIT/BBIX/BBI/BBIP/BBIET/BBIEX/BBIE/BBIEP/BBAT/BBAX/BBA
  /BBAP/BBUOX/BBUO/BBUOP/BBOT/BBOX/BBO/BBOP/BBEX/BBE/BBEP/BBUT/BBUX/BBU/BBUP/BBURX/BBUR/BBYT/BBYX
  /BBY/BBYP/NBIT/NBIX/NBI/NBIP/NBIEX/NBIE/NBIEP/NBAT/NBAX/NBA/NBAP/NBOT/NBOX/NBO/NBOP/NBUT/NBUX
  /NBU/NBUP/NBURX/NBUR/NBYT/NBYX/NBY/NBYP/NBYRX/NBYR/HMIT/HMIX/HMI/HMIP/HMIEX/HMIE/HMIEP/HMAT/HMAX
  /HMA/HMAP/HMUOX/HMUO/HMUOP/HMOT/HMOX/HMO/HMOP/HMUT/HMUX/HMU/HMUP/HMURX/HMUR/HMYX/HMY/HMYP/HMYRX
  /HMYR/MIT/MIX/MI/MIP/MIEX/MIE/MIEP/MAT/MAX/MA/MAP/MUOT/MUOX/MUO/MUOP/MOT/MOX/MO/MOP/MEX/ME/MUT
  /MUX/MU/MUP/MURX/MUR/MYT/MYX/MY/MYP/FIT/FIX/FI/FIP/FAT/FAX/FA/FAP/FOX/FO/FOP/FUT/FUX/FU/FUP/FURX
  /FUR/FYT/FYX/FY/FYP/VIT/VIX/VI/VIP/VIET/VIEX/VIE/VIEP/VAT/VAX/VA/VAP/VOT/VOX/VO/VOP/VEX/VEP/VUT
  /VUX/VU/VUP/VURX/VUR/VYT/VYX/VY/VYP/VYRX/VYR/DIT/DIX/DI/DIP/DIEX/DIE/DIEP/DAT/DAX/DA/DAP/DUOX
  /DUO/DOT/DOX/DO/DOP/DEX/DE/DEP/DUT/DUX/DU/DUP/DURX/DUR/TIT/TIX/TI/TIP/TIEX/TIE/TIEP/TAT/TAX/TA
  /TAP/TUOT/TUOX/TUO/TUOP/TOT/TOX/TO/TOP/TEX/TE/TEP/TUT/TUX/TU/TUP/TURX/TUR/DDIT/DDIX/DDI/DDIP
  /DDIEX/DDIE/DDIEP/DDAT/DDAX/DDA/DDAP/DDUOX/DDUO/DDUOP/DDOT/DDOX/DDO/DDOP/DDEX/DDE/DDEP/DDUT/DDUX
  /DDU/DDUP/DDURX/DDUR/NDIT/NDIX/NDI/NDIP/NDIEX/NDIE/NDAT/NDAX/NDA/NDAP/NDOT/NDOX/NDO/NDOP/NDEX
  /NDE/NDEP/NDUT/NDUX/NDU/NDUP/NDURX/NDUR/HNIT/HNIX/HNI/HNIP/HNIET
  A16D YI SYLLABLE
  /HNIEX/HNIE/HNIEP/HNAT/HNAX/HNA/HNAP/HNUOX/HNUO/HNOT/HNOX/HNOP/HNEX/HNE/HNEP/HNUT/NIT/NIX/NI/NIP
  /NIEX/NIE/NIEP/NAX/NA/NAP/NUOX/NUO/NUOP/NOT/NOX/NO/NOP/NEX/NE/NEP/NUT/NUX/NU/NUP/NURX/NUR/HLIT
  /HLIX/HLI/HLIP/HLIEX/HLIE/HLIEP/HLAT/HLAX/HLA/HLAP/HLUOX/HLUO/HLUOP/HLOX/HLO/HLOP/HLEX/HLE/HLEP
  /HLUT/HLUX/HLU/HLUP/HLURX/HLUR/HLYT/HLYX/HLY/HLYP/HLYRX/HLYR/LIT/LIX/LI/LIP/LIET/LIEX/LIE/LIEP
  /LAT/LAX/LA/LAP/LUOT/LUOX/LUO/LUOP/LOT/LOX/LO/LOP/LEX/LE/LEP/LUT/LUX/LU/LUP/LURX/LUR/LYT/LYX/LY
  /LYP/LYRX/LYR/GIT/GIX/GI/GIP/GIET/GIEX/GIE/GIEP/GAT/GAX/GA/GAP/GUOT/GUOX/GUO/GUOP/GOT/GOX/GO/GOP
  /GET/GEX/GE/GEP/GUT/GUX/GU/GUP/GURX/GUR/KIT/KIX/KI/KIP/KIEX/KIE/KIEP/KAT/KAX/KA/KAP/KUOX/KUO
  /KUOP/KOT/KOX/KO/KOP/KET/KEX/KE/KEP/KUT/KUX/KU/KUP/KURX/KUR/GGIT/GGIX/GGI/GGIEX/GGIE/GGIEP/GGAT
  /GGAX/GGA/GGAP/GGUOT/GGUOX/GGUO/GGUOP/GGOT/GGOX/GGO/GGOP/GGET/GGEX/GGE/GGEP/GGUT/GGUX/GGU/GGUP
  /GGURX/GGUR/MGIEX/MGIE/MGAT/MGAX/MGA/MGAP/MGUOX/MGUO/MGUOP/MGOT/MGOX/MGO/MGOP/MGEX/MGE/MGEP/MGUT
  /MGUX/MGU/MGUP/MGURX/MGUR/HXIT/HXIX/HXI/HXIP/HXIET/HXIEX/HXIE/HXIEP/HXAT/HXAX/HXA/HXAP/HXUOT
  /HXUOX/HXUO/HXUOP/HXOT/HXOX/HXO/HXOP/HXEX/HXE/HXEP/NGIEX/NGIE/NGIEP/NGAT/NGAX/NGA/NGAP/NGUOT
  /NGUOX/NGUO/NGOT/NGOX/NGO/NGOP/NGEX/NGE/NGEP/HIT/HIEX/HIE/HAT/HAX/HA/HAP/HUOT/HUOX/HUO/HUOP/HOT
  /HOX/HO/HOP/HEX/HE/HEP/WAT/WAX/WA/WAP/WUOX/WUO/WUOP/WOX/WO/WOP/WEX/WE/WEP/ZIT/ZIX/ZI/ZIP/ZIEX
  /ZIE/ZIEP/ZAT/ZAX/ZA/ZAP/ZUOX/ZUO/ZUOP/ZOT/ZOX/ZO/ZOP/ZEX/ZE/ZEP/ZUT/ZUX/ZU/ZUP/ZURX/ZUR/ZYT/ZYX
  /ZY/ZYP/ZYRX/ZYR/CIT/CIX/CI/CIP/CIET/CIEX/CIE/CIEP/CAT/CAX/CA/CAP/CUOX/CUO/CUOP/COT/COX/CO/COP
  /CEX/CE/CEP/CUT/CUX/CU/CUP/CURX/CUR/CYT/CYX/CY/CYP/CYRX/CYR/ZZIT/ZZIX/ZZI/ZZIP/ZZIET/ZZIEX/ZZIE
  /ZZIEP/ZZAT/ZZAX/ZZA/ZZAP/ZZOX/ZZO/ZZOP/ZZEX/ZZE/ZZEP/ZZUX/ZZU/ZZUP/ZZURX/ZZUR/ZZYT/ZZYX/ZZY
  /ZZYP/ZZYRX/ZZYR/NZIT/NZIX/NZI/NZIP/NZIEX/NZIE/NZIEP/NZAT/NZAX/NZA/NZAP/NZUOX/NZUO/NZOX/NZOP
  /NZEX
  A2FD YI SYLLABLE
  /NZE/NZUX/NZU/NZUP/NZURX/NZUR/NZYT/NZYX/NZY/NZYP/NZYRX/NZYR/SIT/SIX/SI/SIP/SIEX/SIE/SIEP/SAT/SAX
  /SA/SAP/SUOX/SUO/SUOP/SOT/SOX/SO/SOP/SEX/SE/SEP/SUT/SUX/SU/SUP/SURX/SUR/SYT/SYX/SY/SYP/SYRX/SYR
  /SSIT/SSIX/SSI/SSIP/SSIEX/SSIE/SSIEP/SSAT/SSAX/SSA/SSAP/SSOT/SSOX/SSO/SSOP/SSEX/SSE/SSEP/SSUT
  /SSUX/SSU/SSUP/SSYT/SSYX/SSY/SSYP/SSYRX/SSYR/ZHAT/ZHAX/ZHA/ZHAP/ZHUOX/ZHUO/ZHUOP/ZHOT/ZHOX/ZHO
  /ZHOP/ZHET/ZHEX/ZHE/ZHEP/ZHUT/ZHUX/ZHU/ZHUP/ZHURX/ZHUR/ZHYT/ZHYX/ZHY/ZHYP/ZHYRX/ZHYR/CHAT/CHAX
  /CHA/CHAP/CHUOT/CHUOX/CHUO/CHUOP/CHOT/CHOX/CHO/CHOP/CHET/CHEX/CHE/CHEP/CHUX/CHU/CHUP/CHURX/CHUR
  /CHYT/CHYX/CHY/CHYP/CHYRX/CHYR/RRAX/RRA/RRUOX/RRUO/RROT/RROX/RRO/RROP/RRET/RREX/RRE/RREP/RRUT
  /RRUX/RRU/RRUP/RRURX/RRUR/RRYT/RRYX/RRY/RRYP/RRYRX/RRYR/NRAT/NRAX/NRA/NRAP/NROX/NRO/NROP/NRET
  /NREX/NRE/NREP/NRUT/NRUX/NRU/NRUP/NRURX/NRUR/NRYT/NRYX/NRY/NRYP/NRYRX/NRYR/SHAT/SHAX/SHA/SHAP
  /SHUOX/SHUO/SHUOP/SHOT/SHOX/SHO/SHOP/SHET/SHEX/SHE/SHEP/SHUT/SHUX/SHU/SHUP/SHURX/SHUR/SHYT/SHYX
  /SHY/SHYP/SHYRX/SHYR/RAT/RAX/RA/RAP/RUOX/RUO/RUOP/ROT/ROX/RO/ROP/REX/RE/REP/RUT/RUX/RU/RUP/RURX
  /RUR/RYT/RYX/RY/RYP/RYRX/RYR/JIT/JIX/JI/JIP/JIET/JIEX/JIE/JIEP/JUOT/JUOX/JUO/JUOP/JOT/JOX/JO/JOP
  /JUT/JUX/JU/JUP/JURX/JUR/JYT/JYX/JY/JYP/JYRX/JYR/QIT/QIX/QI/QIP/QIET/QIEX/QIE/QIEP/QUOT/QUOX/QUO
  /QUOP/QOT/QOX/QO/QOP/QUT/QUX/QU/QUP/QURX/QUR/QYT/QYX/QY/QYP/QYRX/QYR/JJIT/JJIX/JJI/JJIP/JJIET
  /JJIEX/JJIE/JJIEP/JJUOX/JJUO/JJUOP/JJOT/JJOX/JJO/JJOP/JJUT/JJUX/JJU/JJUP/JJURX/JJUR/JJYT/JJYX
  /JJY/JJYP/NJIT/NJIX/NJI/NJIP/NJIET/NJIEX/NJIE/NJIEP/NJUOX/NJUO/NJOT/NJOX/NJO/NJOP/NJUX/NJU/NJUP
  /NJURX/NJUR/NJYT/NJYX/NJY/NJYP/NJYRX/NJYR/NYIT/NYIX/NYI/NYIP/NYIET/NYIEX/NYIE/NYIEP/NYUOX/NYUO
  /NYUOP/NYOT/NYOX/NYO/NYOP/NYUT/NYUX/NYU/NYUP/XIT/XIX/XI/XIP/XIET/XIEX/XIE/XIEP/XUOX/XUO/XOT/XOX
  /XO/XOP/XYT/XYX/XY/XYP/XYRX/XYR/YIT/YIX/YI/YIP/YIET/YIEX/YIE/YIEP/YUOT/YUOX/YUO/YUOP/YOT/YOX/YO
  /YOP/YUT/YUX/YU/YUP/YURX/YUR/YYT/YYX/YY/YYP/YYRX/YYR
  A490 YI RADICAL
  /QOT/LI/KIT/NYIP/CYP/SSI/GGOP/GEP/MI/HXIT/LYR/BBUT/MOP/YO/PUT/HXUO/TAT/GA/ZUP/CYT/DDUR/BUR/GGUO
  /NYOP/TU/OP/JJUT/ZOT/PYT/HMO/YIT/VUR/SHY/VEP/ZA/JO/NZUP/JJY/GOT/JJIE/WO/DU/SHUR/LIE/CY/CUOP/CIP
  /HXOP/SHAT/ZUR/SHOP/CHE/ZZIET/NBIE/KE
  A4D0 LISU LETTER
  /BA/PA/PHA/DA/TA/THA/GA/KA/KHA/JA/CA/CHA/DZA/TSA/TSHA/MA/NA/LA/SA/ZHA/ZA/NGA/HA/XA/HHA/FA/WA/SHA
  /YA/GHA/A/AE/E/EU/I/O/U/UE/UH/OE/TONE MYA TI/TONE NA PO
  A4FA LISU LETTER TONE MYA
  /CYA/BO/NA/JEU
  A4FE LISU PUNCTUATION
  /COMMA/FULL STOP
  A500 VAI SYLLABLE
  /EE/EEN/HEE/WEE/WEEN/PEE/BHEE/BEE/MBEE/KPEE/MGBEE/GBEE/FEE/VEE/TEE/THEE/DHEE/DHHEE/LEE/REE/DEE
  /NDEE/SEE/SHEE/ZEE/ZHEE/CEE/JEE/NJEE/YEE/KEE/NGGEE/GEE/MEE/NEE/NYEE/I/IN/HI/HIN/WI/WIN/PI/BHI/BI
  /MBI/KPI/MGBI/GBI/FI/VI/TI/THI/DHI/DHHI/LI/RI/DI/NDI/SI/SHI/ZI/ZHI/CI/JI/NJI/YI/KI/NGGI/GI/MI/NI
  /NYI/A/AN/NGAN/HA/HAN/WA/WAN/PA/BHA/BA/MBA/KPA/KPAN/MGBA/GBA/FA/VA/TA/THA/DHA/DHHA/LA/RA/DA/NDA
  /SA/SHA/ZA/ZHA/CA/JA/NJA/YA/KA/KAN/NGGA/GA/MA/NA/NYA/OO/OON/HOO/WOO/WOON/POO/BHOO/BOO/MBOO/KPOO
  /MGBOO/GBOO/FOO/VOO/TOO/THOO/DHOO/DHHOO/LOO/ROO/DOO/NDOO/SOO/SHOO/ZOO/ZHOO/COO/JOO/NJOO/YOO/KOO
  /NGGOO/GOO/MOO/NOO/NYOO/U/UN/HU/HUN/WU/WUN/PU/BHU/BU/MBU/KPU/MGBU/GBU/FU/VU/TU/THU/DHU/DHHU/LU
  /RU/DU/NDU/SU/SHU/ZU/ZHU/CU/JU/NJU/YU/KU/NGGU/GU/MU/NU/NYU/O/ON/NGON/HO/HON/WO/WON/PO/BHO/BO/MBO
  /KPO/MGBO/GBO/GBON/FO/VO/TO/THO/DHO/DHHO/LO/RO/DO/NDO/SO/SHO/ZO/ZHO/CO/JO/NJO/YO/KO/NGGO/GO/MO
  /NO/NYO/E/EN/NGEN/HE/HEN/WE/WEN/PE/BHE/BE/MBE/KPE/KPEN/MGBE/GBE/GBEN/FE/VE/TE/THE/DHE/DHHE/LE/RE
  /DE/NDE/SE/SHE/ZE/ZHE/CE/JE/NJE/YE/KE/NGGE/NGGEN/GE/GEN/ME/NE/NYE/NG/LENGTHENER
  A60D VAI
  /COMMA/FULL STOP/QUESTION MARK
  A610 VAI SYLLABLE NDOLE
  /FA/KA/SOO
  A613 VAI SYMBOL
  /FEENG/KEENG/TING/NII/BANG/FAA/TAA/DANG/DOONG/KUNG/TONG/DO-O/JONG
  A620 VAI DIGIT
  /ZERO/ONE/TWO/THREE/FOUR/FIVE/SIX/SEVEN/EIGHT/NINE
  A62A VAI SYLLABLE NDOLE
  /MA/DO
  A640 CYRILLIC
  /CAPITAL LETTER ZEMLYA/SMALL LETTER ZEMLYA/CAPITAL LETTER DZELO/SMALL LETTER DZELO
  /CAPITAL LETTER REVERSED DZE/SMALL LETTER REVERSED DZE/CAPITAL LETTER IOTA/SMALL LETTER IOTA
  /CAPITAL LETTER DJERV/SMALL LETTER DJERV/CAPITAL LETTER MONOGRAPH UK/SMALL LETTER MONOGRAPH UK
  /CAPITAL LETTER BROAD OMEGA/SMALL LETTER BROAD OMEGA/CAPITAL LETTER NEUTRAL YER
  /SMALL LETTER NEUTRAL YER/CAPITAL LETTER YERU WITH BACK YER/SMALL LETTER YERU WITH BACK YER
  /CAPITAL LETTER IOTIFIED YAT/SMALL LETTER IOTIFIED YAT/CAPITAL LETTER REVERSED YU
  /SMALL LETTER REVERSED YU/CAPITAL LETTER IOTIFIED A/SMALL LETTER IOTIFIED A
  /CAPITAL LETTER CLOSED LITTLE YUS/SMALL LETTER CLOSED LITTLE YUS/CAPITAL LETTER BLENDED YUS
  /SMALL LETTER BLENDED YUS/CAPITAL LETTER IOTIFIED CLOSED LITTLE YUS
  /SMALL LETTER IOTIFIED CLOSED LITTLE YUS/CAPITAL LETTER YN/SMALL LETTER YN
  /CAPITAL LETTER REVERSED TSE/SMALL LETTER REVERSED TSE/CAPITAL LETTER SOFT DE
  /SMALL LETTER SOFT DE/CAPITAL LETTER SOFT EL/SMALL LETTER SOFT EL/CAPITAL LETTER SOFT EM
  /SMALL LETTER SOFT EM/CAPITAL LETTER MONOCULAR O/SMALL LETTER MONOCULAR O
  /CAPITAL LETTER BINOCULAR O/SMALL LETTER BINOCULAR O/CAPITAL LETTER DOUBLE MONOCULAR O
  /SMALL LETTER DOUBLE MONOCULAR O/LETTER MULTIOCULAR O
  A66F COMBINING CYRILLIC
  /VZMET/TEN MILLIONS SIGN/HUNDRED MILLIONS SIGN/THOUSAND MILLIONS SIGN
  A673
  /SLAVONIC ASTERISK
  A674 COMBINING CYRILLIC LETTER
  /UKRAINIAN IE/I/YI/U/HARD SIGN/YERU/SOFT SIGN/OMEGA
  A67C COMBINING CYRILLIC
  /KAVYKA/PAYEROK
  A67E CYRILLIC
  /KAVYKA/PAYEROK/CAPITAL LETTER DWE/SMALL LETTER DWE/CAPITAL LETTER DZWE/SMALL LETTER DZWE
  /CAPITAL LETTER ZHWE/SMALL LETTER ZHWE/CAPITAL LETTER CCHE/SMALL LETTER CCHE/CAPITAL LETTER DZZE
  /SMALL LETTER DZZE/CAPITAL LETTER TE WITH MIDDLE HOOK/SMALL LETTER TE WITH MIDDLE HOOK
  /CAPITAL LETTER TWE/SMALL LETTER TWE/CAPITAL LETTER TSWE/SMALL LETTER TSWE/CAPITAL LETTER TSSE
  /SMALL LETTER TSSE/CAPITAL LETTER TCHE/SMALL LETTER TCHE/CAPITAL LETTER HWE/SMALL LETTER HWE
  /CAPITAL LETTER SHWE/SMALL LETTER SHWE/CAPITAL LETTER DOUBLE O/SMALL LETTER DOUBLE O
  /CAPITAL LETTER CROSSED O/SMALL LETTER CROSSED O
  A69C MODIFIER LETTER CYRILLIC
  /HARD SIGN/SOFT SIGN
  A69E COMBINING CYRILLIC LETTER
  /EF/IOTIFIED E
  A6A0 BAMUM LETTER
  /A/KA/U/KU/EE/REE/TAE/O/NYI/I/LA/PA/RII/RIEE/LEEEE/MEEEE/TAA/NDAA/NJAEM/M/SUU/MU/SHII/SI/SHEUX
  /SEUX/KYEE/KET/NUAE/NU/NJUAE/YOQ/SHU/YUQ/YA/NSHA/KEUX/PEUX/NJEE/NTEE/PUE/WUE/PEE/FEE/RU/LU/MI/NI
  /REUX/RAE/KEN/NGKWAEN/NGGA/NGA/SHO/PUAE/FU/FOM/WA/NA/LI/PI/LOQ/KO/MBEN/REN/MEN/MA/TI/KI/MO/MBAA
  /TET/KPA/TEN/NTUU/SAMBA/FAAMAE/KOVUU/KOGHOM
  A6F0 BAMUM
  /COMBINING MARK KOQNDON/COMBINING MARK TUKWENTIS/NJAEMLI/FULL STOP/COLON/COMMA/SEMICOLON
  /QUESTION MARK
  A700 MODIFIER LETTER CHINESE TONE
  /YIN PING/YANG PING/YIN SHANG/YANG SHANG/YIN QU/YANG QU/YIN RU/YANG RU
  A708 MODIFIER LETTER
  /EXTRA-HIGH DOTTED TONE BAR/HIGH DOTTED TONE BAR/MID DOTTED TONE BAR/LOW DOTTED TONE BAR
  /EXTRA-LOW DOTTED TONE BAR/EXTRA-HIGH DOTTED LEFT-STEM TONE BAR/HIGH DOTTED LEFT-STEM TONE BAR
  /MID DOTTED LEFT-STEM TONE BAR/LOW DOTTED LEFT-STEM TONE BAR/EXTRA-LOW DOTTED LEFT-STEM TONE BAR
  /EXTRA-HIGH LEFT-STEM TONE BAR/HIGH LEFT-STEM TONE BAR/MID LEFT-STEM TONE BAR
  /LOW LEFT-STEM TONE BAR/EXTRA-LOW LEFT-STEM TONE BAR/DOT VERTICAL BAR/DOT SLASH
  /DOT HORIZONTAL BAR/LOWER RIGHT CORNER ANGLE/RAISED UP ARROW/RAISED DOWN ARROW
  /RAISED EXCLAMATION MARK/RAISED INVERTED EXCLAMATION MARK/LOW INVERTED EXCLAMATION MARK
  /STRESS AND HIGH TONE/STRESS AND LOW TONE
  A722 LATIN
  /CAPITAL LETTER EGYPTOLOGICAL ALEF/SMALL LETTER EGYPTOLOGICAL ALEF
  /CAPITAL LETTER EGYPTOLOGICAL AIN/SMALL LETTER EGYPTOLOGICAL AIN/CAPITAL LETTER HENG
  /SMALL LETTER HENG/CAPITAL LETTER TZ/SMALL LETTER TZ/CAPITAL LETTER TRESILLO
  /SMALL LETTER TRESILLO/CAPITAL LETTER CUATRILLO/SMALL LETTER CUATRILLO
  /CAPITAL LETTER CUATRILLO WITH COMMA/SMALL LETTER CUATRILLO WITH COMMA/LETTER SMALL CAPITAL F
  /LETTER SMALL CAPITAL S/CAPITAL LETTER AA/SMALL LETTER AA/CAPITAL LETTER AO/SMALL LETTER AO
  /CAPITAL LETTER AU/SMALL LETTER AU/CAPITAL LETTER AV/SMALL LETTER AV
  /CAPITAL LETTER AV WITH HORIZONTAL BAR/SMALL LETTER AV WITH HORIZONTAL BAR/CAPITAL LETTER AY
  /SMALL LETTER AY/CAPITAL LETTER REVERSED C WITH DOT/SMALL LETTER REVERSED C WITH DOT
  /CAPITAL LETTER K WITH STROKE/SMALL LETTER K WITH STROKE/CAPITAL LETTER K WITH DIAGONAL STROKE
  /SMALL LETTER K WITH DIAGONAL STROKE/CAPITAL LETTER K WITH STROKE AND DIAGONAL STROKE
  /SMALL LETTER K WITH STROKE AND DIAGONAL STROKE/CAPITAL LETTER BROKEN L/SMALL LETTER BROKEN L
  /CAPITAL LETTER L WITH HIGH STROKE/SMALL LETTER L WITH HIGH STROKE
  /CAPITAL LETTER O WITH LONG STROKE OVERLAY/SMALL LETTER O WITH LONG STROKE OVERLAY
  /CAPITAL LETTER O WITH LOOP/SMALL LETTER O WITH LOOP/CAPITAL LETTER OO/SMALL LETTER OO
  /CAPITAL LETTER P WITH STROKE THROUGH DESCENDER/SMALL LETTER P WITH STROKE THROUGH DESCENDER
  /CAPITAL LETTER P WITH FLOURISH/SMALL LETTER P WITH FLOURISH/CAPITAL LETTER P WITH SQUIRREL TAIL
  /SMALL LETTER P WITH SQUIRREL TAIL/CAPITAL LETTER Q WITH STROKE THROUGH DESCENDER
  /SMALL LETTER Q WITH STROKE THROUGH DESCENDER/CAPITAL LETTER Q WITH DIAGONAL STROKE
  /SMALL LETTER Q WITH DIAGONAL STROKE/CAPITAL LETTER R ROTUNDA/SMALL LETTER R ROTUNDA
  /CAPITAL LETTER RUM ROTUNDA/SMALL LETTER RUM ROTUNDA/CAPITAL LETTER V WITH DIAGONAL STROKE
  /SMALL LETTER V WITH DIAGONAL STROKE/CAPITAL LETTER VY/SMALL LETTER VY
  /CAPITAL LETTER VISIGOTHIC Z/SMALL LETTER VISIGOTHIC Z/CAPITAL LETTER THORN WITH STROKE
  /SMALL LETTER THORN WITH STROKE/CAPITAL LETTER THORN WITH STROKE THROUGH DESCENDER
  /SMALL LETTER THORN WITH STROKE THROUGH DESCENDER/CAPITAL LETTER VEND/SMALL LETTER VEND
  /CAPITAL LETTER ET/SMALL LETTER ET/CAPITAL LETTER IS/SMALL LETTER IS/CAPITAL LETTER CON
  /SMALL LETTER CON
  A770
  /MODIFIER LETTER US
  A771 LATIN SMALL LETTER
  /DUM/LUM/MUM/NUM/RUM
  A776 LATIN
  /LETTER SMALL CAPITAL RUM/SMALL LETTER TUM/SMALL LETTER UM/CAPITAL LETTER INSULAR D
  /SMALL LETTER INSULAR D/CAPITAL LETTER INSULAR F/SMALL LETTER INSULAR F/CAPITAL LETTER INSULAR G
  /CAPITAL LETTER TURNED INSULAR G/SMALL LETTER TURNED INSULAR G/CAPITAL LETTER TURNED L
  /SMALL LETTER TURNED L/CAPITAL LETTER INSULAR R/SMALL LETTER INSULAR R/CAPITAL LETTER INSULAR S
  /SMALL LETTER INSULAR S/CAPITAL LETTER INSULAR T/SMALL LETTER INSULAR T
  A788 MODIFIER LETTER
  /LOW CIRCUMFLEX ACCENT/COLON/SHORT EQUALS SIGN
  A78B LATIN
  /CAPITAL LETTER SALTILLO/SMALL LETTER SALTILLO/CAPITAL LETTER TURNED H
  /SMALL LETTER L WITH RETROFLEX HOOK AND BELT/LETTER SINOLOGICAL DOT
  /CAPITAL LETTER N WITH DESCENDER/SMALL LETTER N WITH DESCENDER/CAPITAL LETTER C WITH BAR
  /SMALL LETTER C WITH BAR/SMALL LETTER C WITH PALATAL HOOK/SMALL LETTER H WITH PALATAL HOOK
  /CAPITAL LETTER B WITH FLOURISH/SMALL LETTER B WITH FLOURISH/CAPITAL LETTER F WITH STROKE
  /SMALL LETTER F WITH STROKE/CAPITAL LETTER VOLAPUK AE/SMALL LETTER VOLAPUK AE
  /CAPITAL LETTER VOLAPUK OE/SMALL LETTER VOLAPUK OE/CAPITAL LETTER VOLAPUK UE
  /SMALL LETTER VOLAPUK UE/CAPITAL LETTER G WITH OBLIQUE STROKE/SMALL LETTER G WITH OBLIQUE STROKE
  /CAPITAL LETTER K WITH OBLIQUE STROKE/SMALL LETTER K WITH OBLIQUE STROKE
  /CAPITAL LETTER N WITH OBLIQUE STROKE/SMALL LETTER N WITH OBLIQUE STROKE
  /CAPITAL LETTER R WITH OBLIQUE STROKE/SMALL LETTER R WITH OBLIQUE STROKE
  /CAPITAL LETTER S WITH OBLIQUE STROKE/SMALL LETTER S WITH OBLIQUE STROKE
  A7AA LATIN CAPITAL LETTER
  /H WITH HOOK/REVERSED OPEN E/SCRIPT G/L WITH BELT/SMALL CAPITAL I
  A7AF
  /LATIN LETTER SMALL CAPITAL Q
  A7B0 LATIN CAPITAL LETTER
  /TURNED K/TURNED T/J WITH CROSSED-TAIL/CHI/BETA
  A7B5 LATIN
  /SMALL LETTER BETA/CAPITAL LETTER OMEGA/SMALL LETTER OMEGA/CAPITAL LETTER U WITH STROKE
  /SMALL LETTER U WITH STROKE/CAPITAL LETTER GLOTTAL A/SMALL LETTER GLOTTAL A
  /CAPITAL LETTER GLOTTAL I/SMALL LETTER GLOTTAL I/CAPITAL LETTER GLOTTAL U/SMALL LETTER GLOTTAL U
  /CAPITAL LETTER OLD POLISH O/SMALL LETTER OLD POLISH O/CAPITAL LETTER ANGLICANA W
  /SMALL LETTER ANGLICANA W
  A7C4 LATIN CAPITAL LETTER
  /C WITH PALATAL HOOK/S WITH HOOK/Z WITH PALATAL HOOK/D WITH SHORT STROKE OVERLAY
  A7C8 LATIN
  /SMALL LETTER D WITH SHORT STROKE OVERLAY/CAPITAL LETTER S WITH SHORT STROKE OVERLAY
  /SMALL LETTER S WITH SHORT STROKE OVERLAY//////CAPITAL LETTER CLOSED INSULAR G
  /SMALL LETTER CLOSED INSULAR G//SMALL LETTER DOUBLE THORN//SMALL LETTER DOUBLE WYNN
  /CAPITAL LETTER MIDDLE SCOTS S/SMALL LETTER MIDDLE SCOTS S/CAPITAL LETTER SIGMOID S
  /SMALL LETTER SIGMOID S
  A7F2 MODIFIER LETTER CAPITAL
  /C/F/Q
  A7F5
  /LATIN CAPITAL LETTER REVERSED HALF H/LATIN SMALL LETTER REVERSED HALF H
  /LATIN EPIGRAPHIC LETTER SIDEWAYS I/MODIFIER LETTER CAPITAL H WITH STROKE
  /MODIFIER LETTER SMALL LIGATURE OE/LATIN LETTER SMALL CAPITAL TURNED M
  A7FB LATIN EPIGRAPHIC LETTER
  /REVERSED F/REVERSED P/INVERTED M/I LONGA/ARCHAIC M
  A800 SYLOTI NAGRI
  /LETTER A/LETTER I/SIGN DVISVARA/LETTER U/LETTER E/LETTER O/SIGN HASANTA/LETTER KO/LETTER KHO
  /LETTER GO/LETTER GHO/SIGN ANUSVARA
  A80C SYLOTI NAGRI LETTER
  /CO/CHO/JO/JHO/TTO/TTHO/DDO/DDHO/TO/THO/DO/DHO/NO/PO/PHO/BO/BHO/MO/RO/LO/RRO/SO/HO
  A823 SYLOTI NAGRI VOWEL SIGN
  /A/I/U/E/OO
  A828 SYLOTI NAGRI POETRY MARK-
  /1/2/3/4
  A82C
  /SYLOTI NAGRI SIGN ALTERNATE HASANTA
  A830 NORTH INDIC FRACTION
  /ONE QUARTER/ONE HALF/THREE QUARTERS/ONE SIXTEENTH/ONE EIGHTH/THREE SIXTEENTHS
  A836 NORTH INDIC
  /QUARTER MARK/PLACEHOLDER MARK/RUPEE MARK/QUANTITY MARK
  A840 PHAGS-PA LETTER
  /KA/KHA/GA/NGA/CA/CHA/JA/NYA/TA/THA/DA/NA/PA/PHA/BA/MA/TSA/TSHA/DZA/WA/ZHA/ZA/SMALL A/YA/RA/LA
  /SHA/SA/HA/A/I/U/E/O/QA/XA/FA/GGA/EE
  A867 PHAGS-PA SUBJOINED LETTER
  /WA/YA
  A869 PHAGS-PA LETTER
  /TTA/TTHA/DDA/NNA/ALTERNATE YA/VOICELESS SHA/VOICED HA/ASPIRATED FA
  A871 PHAGS-PA
  /SUBJOINED LETTER RA/SUPERFIXED LETTER RA/LETTER CANDRABINDU/SINGLE HEAD MARK/DOUBLE HEAD MARK
  /MARK SHAD/MARK DOUBLE SHAD
  A880 SAURASHTRA SIGN
  /ANUSVARA/VISARGA
  A882 SAURASHTRA LETTER
  /A/AA/I/II/U/UU/VOCALIC R/VOCALIC RR/VOCALIC L/VOCALIC LL/E/EE/AI/O/OO/AU/KA/KHA/GA/GHA/NGA/CA
  /CHA/JA/JHA/NYA/TTA/TTHA/DDA/DDHA/NNA/TA/THA/DA/DHA/NA/PA/PHA/BA/BHA/MA/YA/RA/LA/VA/SHA/SSA/SA
  /HA/LLA
  A8B4
  /SAURASHTRA CONSONANT SIGN HAARU
  A8B5 SAURASHTRA VOWEL SIGN
  /AA/I/II/U/UU/VOCALIC R/VOCALIC RR/VOCALIC L/VOCALIC LL/E/EE/AI/O/OO/AU
  A8C4 SAURASHTRA SIGN
  /VIRAMA/CANDRABINDU
  A8CE SAURASHTRA
  /DANDA/DOUBLE DANDA
  A8D0 SAURASHTRA DIGIT
  /ZERO/ONE/TWO/THREE/FOUR/FIVE/SIX/SEVEN/EIGHT/NINE
  A8E0 COMBINING DEVANAGARI DIGIT
  /ZERO/ONE/TWO/THREE/FOUR/FIVE/SIX/SEVEN/EIGHT/NINE
  A8EA COMBINING DEVANAGARI LETTER
  /A/U/KA/NA/PA/RA/VI
  A8F1
  /COMBINING DEVANAGARI SIGN AVAGRAHA
  A8F2 DEVANAGARI SIGN
  /SPACING CANDRABINDU/CANDRABINDU VIRAMA/DOUBLE CANDRABINDU VIRAMA/CANDRABINDU TWO
  /CANDRABINDU THREE/CANDRABINDU AVAGRAHA/PUSHPIKA
  A8F9 DEVANAGARI
  /GAP FILLER/CARET/HEADSTROKE/SIGN SIDDHAM/JAIN OM/LETTER AY/VOWEL SIGN AY
  A900 KAYAH LI DIGIT
  /ZERO/ONE/TWO/THREE/FOUR/FIVE/SIX/SEVEN/EIGHT/NINE
  A90A KAYAH LI LETTER
  /KA/KHA/GA/NGA/SA/SHA/ZA/NYA/TA/HTA/NA/PA/PHA/MA/DA/BA/RA/YA/LA/WA/THA/HA/VA/CA/A/OE/I/OO
  A926 KAYAH LI VOWEL
  /UE/E/U/EE/O
  A92B KAYAH LI
  /TONE PLOPHU/TONE CALYA/TONE CALYA PLOPHU/SIGN CWI/SIGN SHYA
  A930 REJANG LETTER
  /KA/GA/NGA/TA/DA/NA/PA/BA/MA/CA/JA/NYA/SA/RA/LA/YA/WA/HA/MBA/NGGA/NDA/NYJA/A
  A947 REJANG VOWEL SIGN
  /I/U/E/AI/O/AU/EU/EA
  A94F REJANG CONSONANT SIGN
  /NG/N/R/H
  A953
  /REJANG VIRAMA
  A95F
  /REJANG SECTION MARK
  A960 HANGUL CHOSEONG TIKEUT-
  /MIEUM/PIEUP/SIOS/CIEUC
  A964 HANGUL CHOSEONG RIEUL-
  /KIYEOK/SSANGKIYEOK/TIKEUT/SSANGTIKEUT/MIEUM/PIEUP/SSANGPIEUP/KAPYEOUNPIEUP/SIOS/CIEUC/KHIEUKH
  A96F HANGUL CHOSEONG
  /MIEUM-KIYEOK/MIEUM-TIKEUT/MIEUM-SIOS/PIEUP-SIOS-THIEUTH/PIEUP-KHIEUKH/PIEUP-HIEUH
  /SSANGSIOS-PIEUP/IEUNG-RIEUL/IEUNG-HIEUH/SSANGCIEUC-HIEUH/SSANGTHIEUTH/PHIEUPH-HIEUH/HIEUH-SIOS
  /SSANGYEORINHIEUH
  A980 JAVANESE SIGN
  /PANYANGGA/CECAK/LAYAR/WIGNYAN
  A984 JAVANESE LETTER
  /A/I KAWI/I/II/U/PA CEREK/NGA LELET/NGA LELET RASWADI/E/AI/O/KA/KA SASAK/KA MURDA/GA/GA MURDA
  /NGA/CA/CA MURDA/JA/NYA MURDA/JA MAHAPRANA/NYA/TTA/TTA MAHAPRANA/DDA/DDA MAHAPRANA/NA MURDA/TA
  /TA MURDA/DA/DA MAHAPRANA/NA/PA/PA MURDA/BA/BA MURDA/MA/YA/RA/RA AGUNG/LA/WA/SA MURDA
  /SA MAHAPRANA/SA/HA
  A9B3
  /JAVANESE SIGN CECAK TELU
  A9B4 JAVANESE VOWEL SIGN
  /TARUNG/TOLONG/WULU/WULU MELIK/SUKU/SUKU MENDUT/TALING/DIRGA MURE/PEPET
  A9BD JAVANESE CONSONANT SIGN
  /KERET/PENGKAL/CAKRA
  A9C0 JAVANESE
  /PANGKON/LEFT RERENGGAN/RIGHT RERENGGAN/PADA ANDAP/PADA MADYA/PADA LUHUR/PADA WINDU/PADA PANGKAT
  /PADA LINGSA/PADA LUNGSI/PADA ADEG/PADA ADEG ADEG/PADA PISELEH/TURNED PADA PISELEH//PANGRANGKEP
  A9D0 JAVANESE DIGIT
  /ZERO/ONE/TWO/THREE/FOUR/FIVE/SIX/SEVEN/EIGHT/NINE
  A9DE JAVANESE PADA
  /TIRTA TUMETES/ISEN-ISEN
  A9E0 MYANMAR LETTER SHAN
  /GHA/CHA/JHA/NNA/BHA
  A9E5 MYANMAR
  /SIGN SHAN SAW/MODIFIER LETTER SHAN REDUPLICATION
  A9E7 MYANMAR LETTER TAI LAING
  /NYA/FA/GA/GHA/JA/JHA/DDA/DDHA/NNA
  A9F0 MYANMAR TAI LAING DIGIT
  /ZERO/ONE/TWO/THREE/FOUR/FIVE/SIX/SEVEN/EIGHT/NINE
  A9FA MYANMAR LETTER TAI LAING
  /LLA/DA/DHA/BA/BHA
  AA00 CHAM LETTER
  /A/I/U/E/AI/O/KA/KHA/GA/GHA/NGUE/NGA/CHA/CHHA/JA/JHA/NHUE/NHA/NHJA/TA/THA/DA/DHA/NUE/NA/DDA/PA
  /PPA/PHA/BA/BHA/MUE/MA/BBA/YA/RA/LA/VA/SSA/SA/HA
  AA29 CHAM VOWEL SIGN
  /AA/I/II/EI/U/OE/O/AI/AU/UE
  AA33 CHAM CONSONANT SIGN
  /YA/RA/LA/WA
  AA40 CHAM LETTER FINAL
  /K/G/NG
  AA43
  /CHAM CONSONANT SIGN FINAL NG
  AA44 CHAM LETTER FINAL
  /CH/T/N/P/Y/R/L/SS
  AA4C CHAM CONSONANT SIGN FINAL
  /M/H
  AA50 CHAM DIGIT
  /ZERO/ONE/TWO/THREE/FOUR/FIVE/SIX/SEVEN/EIGHT/NINE
  AA5C CHAM PUNCTUATION
  /SPIRAL/DANDA/DOUBLE DANDA/TRIPLE DANDA
  AA60 MYANMAR LETTER KHAMTI
  /GA/CA/CHA/JA/JHA/NYA/TTA/TTHA/DDA/DDHA/DHA/NA/SA/HA/HHA/FA
  AA70 MYANMAR
  /MODIFIER LETTER KHAMTI REDUPLICATION/LETTER KHAMTI XA/LETTER KHAMTI ZA/LETTER KHAMTI RA
  /LOGOGRAM KHAMTI OAY/LOGOGRAM KHAMTI QN/LOGOGRAM KHAMTI HM/SYMBOL AITON EXCLAMATION
  /SYMBOL AITON ONE/SYMBOL AITON TWO/LETTER AITON RA/SIGN PAO KAREN TONE/SIGN TAI LAING TONE-2
  /SIGN TAI LAING TONE-5/LETTER SHWE PALAUNG CHA/LETTER SHWE PALAUNG SHA
  AA80 TAI VIET LETTER
  /LOW KO/HIGH KO/LOW KHO/HIGH KHO/LOW KHHO/HIGH KHHO/LOW GO/HIGH GO/LOW NGO/HIGH NGO/LOW CO
  /HIGH CO/LOW CHO/HIGH CHO/LOW SO/HIGH SO/LOW NYO/HIGH NYO/LOW DO/HIGH DO/LOW TO/HIGH TO/LOW THO
  /HIGH THO/LOW NO/HIGH NO/LOW BO/HIGH BO/LOW PO/HIGH PO/LOW PHO/HIGH PHO/LOW FO/HIGH FO/LOW MO
  /HIGH MO/LOW YO/HIGH YO/LOW RO/HIGH RO/LOW LO/HIGH LO/LOW VO/HIGH VO/LOW HO/HIGH HO/LOW O/HIGH O
  AAB0 TAI VIET
  /MAI KANG/VOWEL AA/VOWEL I/VOWEL UE/VOWEL U/VOWEL E/VOWEL O/MAI KHIT
  AAB8 TAI VIET VOWEL
  /IA/UEA/UA/AUE/AY/AN/AM
  AABF TAI VIET TONE MAI
  /EK/NUENG/THO/SONG
  AADB TAI VIET SYMBOL
  /KON/NUENG/SAM/HO HOI/KOI KOI
  AAE0 MEETEI MAYEK LETTER
  /E/O/CHA/NYA/TTA/TTHA/DDA/DDHA/NNA/SHA/SSA
  AAEB MEETEI MAYEK VOWEL SIGN
  /II/UU/AAI/AU/AAU
  AAF0 MEETEI MAYEK
  /CHEIKHAN/AHANG KHUDAM/ANJI/SYLLABLE REPETITION MARK/WORD REPETITION MARK/VOWEL SIGN VISARGA
  /VIRAMA
  AB01 ETHIOPIC SYLLABLE
  /TTHU/TTHI/TTHAA/TTHEE/TTHE/TTHO///DDHU/DDHI/DDHAA/DDHEE/DDHE/DDHO///DZU/DZI/DZAA/DZEE/DZE/DZO
  AB20 ETHIOPIC SYLLABLE
  /CCHHA/CCHHU/CCHHI/CCHHAA/CCHHEE/CCHHE/CCHHO//BBA/BBU/BBI/BBAA/BBEE/BBE/BBO
  AB30 LATIN SMALL LETTER
  /BARRED ALPHA/A REVERSED-SCHWA/BLACKLETTER E/BARRED E/E WITH FLOURISH/LENIS F
  /SCRIPT G WITH CROSSED-TAIL/L WITH INVERTED LAZY S/L WITH DOUBLE MIDDLE TILDE/L WITH MIDDLE RING
  /M WITH CROSSED-TAIL/N WITH CROSSED-TAIL/ENG WITH CROSSED-TAIL/BLACKLETTER O
  /BLACKLETTER O WITH STROKE/OPEN O WITH STROKE/INVERTED OE/TURNED OE WITH STROKE
  /TURNED OE WITH HORIZONTAL STROKE/TURNED O OPEN-O/TURNED O OPEN-O WITH STROKE/STIRRUP R
  AB46
  /LATIN LETTER SMALL CAPITAL R WITH RIGHT LEG
  AB47 LATIN SMALL LETTER
  /R WITHOUT HANDLE/DOUBLE R/R WITH CROSSED-TAIL/DOUBLE R WITH CROSSED-TAIL/SCRIPT R
  /SCRIPT R WITH RING/BASELINE ESH/U WITH SHORT RIGHT LEG/U BAR WITH SHORT RIGHT LEG/UI/TURNED UI
  /U WITH LEFT HOOK/CHI/CHI WITH LOW RIGHT RING/CHI WITH LOW LEFT SERIF/X WITH LOW RIGHT RING
  /X WITH LONG LEFT LEG/X WITH LONG LEFT LEG AND LOW RIGHT RING/X WITH LONG LEFT LEG WITH SERIF
  /Y WITH SHORT RIGHT LEG
  AB5B
  /MODIFIER BREVE WITH INVERTED BREVE
  AB5C MODIFIER LETTER SMALL
  /HENG/L WITH INVERTED LAZY S/L WITH MIDDLE TILDE/U WITH LEFT HOOK
  AB60 LATIN SMALL LETTER
  /SAKHA YAT/IOTIFIED E/OPEN OE/UO/INVERTED ALPHA
  AB65
  /GREEK LETTER SMALL CAPITAL OMEGA
  AB66 LATIN SMALL LETTER
  /DZ DIGRAPH WITH RETROFLEX HOOK/TS DIGRAPH WITH RETROFLEX HOOK/TURNED R WITH MIDDLE TILDE
  AB69 MODIFIER LETTER
  /SMALL TURNED W/LEFT TACK/RIGHT TACK
  AB70 CHEROKEE SMALL LETTER
  /A/E/I/O/U/V/GA/KA/GE/GI/GO/GU/GV/HA/HE/HI/HO/HU/HV/LA/LE/LI/LO/LU/LV/MA/ME/MI/MO/MU/NA/HNA/NAH
  /NE/NI/NO/NU/NV/QUA/QUE/QUI/QUO/QUU/QUV/SA/S/SE/SI/SO/SU/SV/DA/TA/DE/TE/DI/TI/DO/DU/DV/DLA/TLA
  /TLE/TLI/TLO/TLU/TLV/TSA/TSE/TSI/TSO/TSU/TSV/WA/WE/WI/WO/WU/WV/YA
  ABC0 MEETEI MAYEK LETTER
  /KOK/SAM/LAI/MIT/PA/NA/CHIL/TIL/KHOU/NGOU/THOU/WAI/YANG/HUK/UN/I/PHAM/ATIYA/GOK/JHAM/RAI/BA/JIL
  /DIL/GHOU/DHOU/BHAM/KOK LONSUM/LAI LONSUM/MIT LONSUM/PA LONSUM/NA LONSUM/TIL LONSUM/NGOU LONSUM
  /I LONSUM
  ABE3 MEETEI MAYEK VOWEL SIGN
  /ONAP/INAP/ANAP/YENAP/SOUNAP/UNAP/CHEINAP/NUNG
  ABEB MEETEI MAYEK
  /CHEIKHEI/LUM IYEK/APUN IYEK
  ABF0 MEETEI MAYEK DIGIT
  /ZERO/ONE/TWO/THREE/FOUR/FIVE/SIX/SEVEN/EIGHT/NINE
  D7B0 HANGUL JUNGSEONG
  /O-YEO/O-O-I/YO-A/YO-AE/YO-EO/U-YEO/U-I-I/YU-AE/YU-O/EU-A/EU-EO/EU-E/EU-O/I-YA-O/I-YAE/I-YEO
  /I-YE/I-O-I/I-YO/I-YU/I-I/ARAEA-A/ARAEA-E
  D7CB HANGUL JONGSEONG
  /NIEUN-RIEUL/NIEUN-CHIEUCH/SSANGTIKEUT/SSANGTIKEUT-PIEUP/TIKEUT-PIEUP/TIKEUT-SIOS
  /TIKEUT-SIOS-KIYEOK/TIKEUT-CIEUC/TIKEUT-CHIEUCH/TIKEUT-THIEUTH/RIEUL-SSANGKIYEOK
  /RIEUL-KIYEOK-HIEUH/SSANGRIEUL-KHIEUKH/RIEUL-MIEUM-HIEUH/RIEUL-PIEUP-TIKEUT/RIEUL-PIEUP-PHIEUPH
  /RIEUL-YESIEUNG/RIEUL-YEORINHIEUH-HIEUH/KAPYEOUNRIEUL/MIEUM-NIEUN/MIEUM-SSANGNIEUN/SSANGMIEUM
  /MIEUM-PIEUP-SIOS/MIEUM-CIEUC/PIEUP-TIKEUT/PIEUP-RIEUL-PHIEUPH/PIEUP-MIEUM/SSANGPIEUP
  /PIEUP-SIOS-TIKEUT/PIEUP-CIEUC/PIEUP-CHIEUCH/SIOS-MIEUM/SIOS-KAPYEOUNPIEUP/SSANGSIOS-KIYEOK
  /SSANGSIOS-TIKEUT/SIOS-PANSIOS/SIOS-CIEUC/SIOS-CHIEUCH/SIOS-THIEUTH/SIOS-HIEUH/PANSIOS-PIEUP
  /PANSIOS-KAPYEOUNPIEUP/YESIEUNG-MIEUM/YESIEUNG-HIEUH/CIEUC-PIEUP/CIEUC-SSANGPIEUP/SSANGCIEUC
  /PHIEUPH-SIOS/PHIEUPH-THIEUTH
  FB00 LATIN SMALL LIGATURE
  /FF/FI/FL/FFI/FFL/LONG S T/ST
  FB13 ARMENIAN SMALL LIGATURE
  /MEN NOW/MEN ECH/MEN INI/VEW NOW/MEN XEH
  FB1D HEBREW
  /LETTER YOD WITH HIRIQ/POINT JUDEO-SPANISH VARIKA/LIGATURE YIDDISH YOD YOD PATAH
  FB20 HEBREW LETTER
  /ALTERNATIVE AYIN/WIDE ALEF/WIDE DALET/WIDE HE/WIDE KAF/WIDE LAMED/WIDE FINAL MEM/WIDE RESH
  /WIDE TAV/ALTERNATIVE PLUS SIGN/SHIN WITH SHIN DOT/SHIN WITH SIN DOT
  /SHIN WITH DAGESH AND SHIN DOT/SHIN WITH DAGESH AND SIN DOT/ALEF WITH PATAH/ALEF WITH QAMATS
  /ALEF WITH MAPIQ/BET WITH DAGESH/GIMEL WITH DAGESH/DALET WITH DAGESH/HE WITH MAPIQ
  /VAV WITH DAGESH/ZAYIN WITH DAGESH//TET WITH DAGESH/YOD WITH DAGESH/FINAL KAF WITH DAGESH
  /KAF WITH DAGESH/LAMED WITH DAGESH//MEM WITH DAGESH//NUN WITH DAGESH/SAMEKH WITH DAGESH/
  /FINAL PE WITH DAGESH/PE WITH DAGESH//TSADI WITH DAGESH/QOF WITH DAGESH/RESH WITH DAGESH
  /SHIN WITH DAGESH/TAV WITH DAGESH/VAV WITH HOLAM/BET WITH RAFE/KAF WITH RAFE/PE WITH RAFE
  FB4F
  /HEBREW LIGATURE ALEF LAMED
  FB50 ARABIC LETTER
  /ALEF WASLA ISOLATED FORM/ALEF WASLA FINAL FORM/BEEH ISOLATED FORM/BEEH FINAL FORM
  /BEEH INITIAL FORM/BEEH MEDIAL FORM/PEH ISOLATED FORM/PEH FINAL FORM/PEH INITIAL FORM
  /PEH MEDIAL FORM/BEHEH ISOLATED FORM/BEHEH FINAL FORM/BEHEH INITIAL FORM/BEHEH MEDIAL FORM
  /TTEHEH ISOLATED FORM/TTEHEH FINAL FORM/TTEHEH INITIAL FORM/TTEHEH MEDIAL FORM
  /TEHEH ISOLATED FORM/TEHEH FINAL FORM/TEHEH INITIAL FORM/TEHEH MEDIAL FORM/TTEH ISOLATED FORM
  /TTEH FINAL FORM/TTEH INITIAL FORM/TTEH MEDIAL FORM/VEH ISOLATED FORM/VEH FINAL FORM
  /VEH INITIAL FORM/VEH MEDIAL FORM/PEHEH ISOLATED FORM/PEHEH FINAL FORM/PEHEH INITIAL FORM
  /PEHEH MEDIAL FORM/DYEH ISOLATED FORM/DYEH FINAL FORM/DYEH INITIAL FORM/DYEH MEDIAL FORM
  /NYEH ISOLATED FORM/NYEH FINAL FORM/NYEH INITIAL FORM/NYEH MEDIAL FORM/TCHEH ISOLATED FORM
  /TCHEH FINAL FORM/TCHEH INITIAL FORM/TCHEH MEDIAL FORM/TCHEHEH ISOLATED FORM/TCHEHEH FINAL FORM
  /TCHEHEH INITIAL FORM/TCHEHEH MEDIAL FORM/DDAHAL ISOLATED FORM/DDAHAL FINAL FORM
  /DAHAL ISOLATED FORM/DAHAL FINAL FORM/DUL ISOLATED FORM/DUL FINAL FORM/DDAL ISOLATED FORM
  /DDAL FINAL FORM/JEH ISOLATED FORM/JEH FINAL FORM/RREH ISOLATED FORM/RREH FINAL FORM
  /KEHEH ISOLATED FORM/KEHEH FINAL FORM/KEHEH INITIAL FORM/KEHEH MEDIAL FORM/GAF ISOLATED FORM
  /GAF FINAL FORM/GAF INITIAL FORM/GAF MEDIAL FORM/GUEH ISOLATED FORM/GUEH FINAL FORM
  /GUEH INITIAL FORM/GUEH MEDIAL FORM/NGOEH ISOLATED FORM/NGOEH FINAL FORM/NGOEH INITIAL FORM
  /NGOEH MEDIAL FORM/NOON GHUNNA ISOLATED FORM/NOON GHUNNA FINAL FORM/RNOON ISOLATED FORM
  /RNOON FINAL FORM/RNOON INITIAL FORM/RNOON MEDIAL FORM/HEH WITH YEH ABOVE ISOLATED FORM
  /HEH WITH YEH ABOVE FINAL FORM/HEH GOAL ISOLATED FORM/HEH GOAL FINAL FORM/HEH GOAL INITIAL FORM
  /HEH GOAL MEDIAL FORM
  FBAA ARABIC LETTER HEH DOACHASHMEE
  /ISOLATED FORM/FINAL FORM/INITIAL FORM/MEDIAL FORM
  FBAE ARABIC LETTER YEH BARREE
  /ISOLATED FORM/FINAL FORM/WITH HAMZA ABOVE ISOLATED FORM/WITH HAMZA ABOVE FINAL FORM
  FBB2 ARABIC SYMBOL
  /DOT ABOVE/DOT BELOW/TWO DOTS ABOVE/TWO DOTS BELOW/THREE DOTS ABOVE/THREE DOTS BELOW
  /THREE DOTS POINTING DOWNWARDS ABOVE/THREE DOTS POINTING DOWNWARDS BELOW/FOUR DOTS ABOVE
  /FOUR DOTS BELOW/DOUBLE VERTICAL BAR BELOW/TWO DOTS VERTICALLY ABOVE/TWO DOTS VERTICALLY BELOW
  /RING/SMALL TAH ABOVE/SMALL TAH BELOW/WASLA ABOVE
  FBD3 ARABIC LETTER
  /NG ISOLATED FORM/NG FINAL FORM/NG INITIAL FORM/NG MEDIAL FORM/U ISOLATED FORM/U FINAL FORM
  /OE ISOLATED FORM/OE FINAL FORM/YU ISOLATED FORM/YU FINAL FORM/U WITH HAMZA ABOVE ISOLATED FORM
  /VE ISOLATED FORM/VE FINAL FORM/KIRGHIZ OE ISOLATED FORM/KIRGHIZ OE FINAL FORM
  /KIRGHIZ YU ISOLATED FORM/KIRGHIZ YU FINAL FORM/E ISOLATED FORM/E FINAL FORM/E INITIAL FORM
  /E MEDIAL FORM
  FBE8 ARABIC LETTER UIGHUR KAZAKH KIRGHIZ ALEF MAKSURA
  /INITIAL FORM/MEDIAL FORM
  FBEA ARABIC LIGATURE YEH WITH HAMZA ABOVE WITH
  /ALEF ISOLATED FORM/ALEF FINAL FORM/AE ISOLATED FORM/AE FINAL FORM/WAW ISOLATED FORM
  /WAW FINAL FORM/U ISOLATED FORM/U FINAL FORM/OE ISOLATED FORM/OE FINAL FORM/YU ISOLATED FORM
  /YU FINAL FORM/E ISOLATED FORM/E FINAL FORM/E INITIAL FORM
  FBF9 ARABIC LIGATURE UIGHUR KIRGHIZ YEH WITH HAMZA ABOVE WITH ALEF MAKSURA
  /ISOLATED FORM/FINAL FORM/INITIAL FORM
  FBFC ARABIC LETTER FARSI YEH
  /ISOLATED FORM/FINAL FORM/INITIAL FORM/MEDIAL FORM
  FC00 ARABIC LIGATURE YEH WITH HAMZA ABOVE WITH
  /JEEM ISOLATED FORM/HAH ISOLATED FORM/MEEM ISOLATED FORM/ALEF MAKSURA ISOLATED FORM
  /YEH ISOLATED FORM
  FC05 ARABIC LIGATURE BEH WITH
  /JEEM ISOLATED FORM/HAH ISOLATED FORM/KHAH ISOLATED FORM/MEEM ISOLATED FORM
  /ALEF MAKSURA ISOLATED FORM/YEH ISOLATED FORM
  FC0B ARABIC LIGATURE TEH WITH
  /JEEM ISOLATED FORM/HAH ISOLATED FORM/KHAH ISOLATED FORM/MEEM ISOLATED FORM
  /ALEF MAKSURA ISOLATED FORM/YEH ISOLATED FORM
  FC11 ARABIC LIGATURE
  /THEH WITH JEEM ISOLATED FORM/THEH WITH MEEM ISOLATED FORM/THEH WITH ALEF MAKSURA ISOLATED FORM
  /THEH WITH YEH ISOLATED FORM/JEEM WITH HAH ISOLATED FORM/JEEM WITH MEEM ISOLATED FORM
  /HAH WITH JEEM ISOLATED FORM/HAH WITH MEEM ISOLATED FORM/KHAH WITH JEEM ISOLATED FORM
  /KHAH WITH HAH ISOLATED FORM/KHAH WITH MEEM ISOLATED FORM/SEEN WITH JEEM ISOLATED FORM
  /SEEN WITH HAH ISOLATED FORM/SEEN WITH KHAH ISOLATED FORM/SEEN WITH MEEM ISOLATED FORM
  /SAD WITH HAH ISOLATED FORM/SAD WITH MEEM ISOLATED FORM/DAD WITH JEEM ISOLATED FORM
  /DAD WITH HAH ISOLATED FORM/DAD WITH KHAH ISOLATED FORM/DAD WITH MEEM ISOLATED FORM
  /TAH WITH HAH ISOLATED FORM/TAH WITH MEEM ISOLATED FORM/ZAH WITH MEEM ISOLATED FORM
  /AIN WITH JEEM ISOLATED FORM/AIN WITH MEEM ISOLATED FORM/GHAIN WITH JEEM ISOLATED FORM
  /GHAIN WITH MEEM ISOLATED FORM
  FC2D ARABIC LIGATURE FEH WITH
  /JEEM ISOLATED FORM/HAH ISOLATED FORM/KHAH ISOLATED FORM/MEEM ISOLATED FORM
  /ALEF MAKSURA ISOLATED FORM/YEH ISOLATED FORM
  FC33 ARABIC LIGATURE QAF WITH
  /HAH ISOLATED FORM/MEEM ISOLATED FORM/ALEF MAKSURA ISOLATED FORM/YEH ISOLATED FORM
  FC37 ARABIC LIGATURE KAF WITH
  /ALEF ISOLATED FORM/JEEM ISOLATED FORM/HAH ISOLATED FORM/KHAH ISOLATED FORM/LAM ISOLATED FORM
  /MEEM ISOLATED FORM/ALEF MAKSURA ISOLATED FORM/YEH ISOLATED FORM
  FC3F ARABIC LIGATURE LAM WITH
  /JEEM ISOLATED FORM/HAH ISOLATED FORM/KHAH ISOLATED FORM/MEEM ISOLATED FORM
  /ALEF MAKSURA ISOLATED FORM/YEH ISOLATED FORM
  FC45 ARABIC LIGATURE MEEM WITH
  /JEEM ISOLATED FORM/HAH ISOLATED FORM/KHAH ISOLATED FORM/MEEM ISOLATED FORM
  /ALEF MAKSURA ISOLATED FORM/YEH ISOLATED FORM
  FC4B ARABIC LIGATURE NOON WITH
  /JEEM ISOLATED FORM/HAH ISOLATED FORM/KHAH ISOLATED FORM/MEEM ISOLATED FORM
  /ALEF MAKSURA ISOLATED FORM/YEH ISOLATED FORM
  FC51 ARABIC LIGATURE HEH WITH
  /JEEM ISOLATED FORM/MEEM ISOLATED FORM/ALEF MAKSURA ISOLATED FORM/YEH ISOLATED FORM
  FC55 ARABIC LIGATURE YEH WITH
  /JEEM ISOLATED FORM/HAH ISOLATED FORM/KHAH ISOLATED FORM/MEEM ISOLATED FORM
  /ALEF MAKSURA ISOLATED FORM/YEH ISOLATED FORM
  FC5B ARABIC LIGATURE
  /THAL WITH SUPERSCRIPT ALEF ISOLATED FORM/REH WITH SUPERSCRIPT ALEF ISOLATED FORM
  /ALEF MAKSURA WITH SUPERSCRIPT ALEF ISOLATED FORM
  FC5E ARABIC LIGATURE SHADDA WITH
  /DAMMATAN ISOLATED FORM/KASRATAN ISOLATED FORM/FATHA ISOLATED FORM/DAMMA ISOLATED FORM
  /KASRA ISOLATED FORM/SUPERSCRIPT ALEF ISOLATED FORM
  FC64 ARABIC LIGATURE YEH WITH HAMZA ABOVE WITH
  /REH FINAL FORM/ZAIN FINAL FORM/MEEM FINAL FORM/NOON FINAL FORM/ALEF MAKSURA FINAL FORM
  /YEH FINAL FORM
  FC6A ARABIC LIGATURE BEH WITH
  /REH FINAL FORM/ZAIN FINAL FORM/MEEM FINAL FORM/NOON FINAL FORM/ALEF MAKSURA FINAL FORM
  /YEH FINAL FORM
  FC70 ARABIC LIGATURE TEH WITH
  /REH FINAL FORM/ZAIN FINAL FORM/MEEM FINAL FORM/NOON FINAL FORM/ALEF MAKSURA FINAL FORM
  /YEH FINAL FORM
  FC76 ARABIC LIGATURE THEH WITH
  /REH FINAL FORM/ZAIN FINAL FORM/MEEM FINAL FORM/NOON FINAL FORM/ALEF MAKSURA FINAL FORM
  /YEH FINAL FORM
  FC7C ARABIC LIGATURE
  /FEH WITH ALEF MAKSURA FINAL FORM/FEH WITH YEH FINAL FORM/QAF WITH ALEF MAKSURA FINAL FORM
  /QAF WITH YEH FINAL FORM/KAF WITH ALEF FINAL FORM/KAF WITH LAM FINAL FORM
  /KAF WITH MEEM FINAL FORM/KAF WITH ALEF MAKSURA FINAL FORM/KAF WITH YEH FINAL FORM
  /LAM WITH MEEM FINAL FORM/LAM WITH ALEF MAKSURA FINAL FORM/LAM WITH YEH FINAL FORM
  /MEEM WITH ALEF FINAL FORM/MEEM WITH MEEM FINAL FORM/NOON WITH REH FINAL FORM
  /NOON WITH ZAIN FINAL FORM/NOON WITH MEEM FINAL FORM/NOON WITH NOON FINAL FORM
  /NOON WITH ALEF MAKSURA FINAL FORM/NOON WITH YEH FINAL FORM
  /ALEF MAKSURA WITH SUPERSCRIPT ALEF FINAL FORM
  FC91 ARABIC LIGATURE YEH WITH
  /REH FINAL FORM/ZAIN FINAL FORM/MEEM FINAL FORM/NOON FINAL FORM/ALEF MAKSURA FINAL FORM
  /YEH FINAL FORM
  FC97 ARABIC LIGATURE YEH WITH HAMZA ABOVE WITH
  /JEEM INITIAL FORM/HAH INITIAL FORM/KHAH INITIAL FORM/MEEM INITIAL FORM/HEH INITIAL FORM
  FC9C ARABIC LIGATURE BEH WITH
  /JEEM INITIAL FORM/HAH INITIAL FORM/KHAH INITIAL FORM/MEEM INITIAL FORM/HEH INITIAL FORM
  FCA1 ARABIC LIGATURE TEH WITH
  /JEEM INITIAL FORM/HAH INITIAL FORM/KHAH INITIAL FORM/MEEM INITIAL FORM/HEH INITIAL FORM
  FCA6 ARABIC LIGATURE
  /THEH WITH MEEM INITIAL FORM/JEEM WITH HAH INITIAL FORM/JEEM WITH MEEM INITIAL FORM
  /HAH WITH JEEM INITIAL FORM/HAH WITH MEEM INITIAL FORM/KHAH WITH JEEM INITIAL FORM
  /KHAH WITH MEEM INITIAL FORM/SEEN WITH JEEM INITIAL FORM/SEEN WITH HAH INITIAL FORM
  /SEEN WITH KHAH INITIAL FORM/SEEN WITH MEEM INITIAL FORM/SAD WITH HAH INITIAL FORM
  /SAD WITH KHAH INITIAL FORM/SAD WITH MEEM INITIAL FORM/DAD WITH JEEM INITIAL FORM
  /DAD WITH HAH INITIAL FORM/DAD WITH KHAH INITIAL FORM/DAD WITH MEEM INITIAL FORM
  /TAH WITH HAH INITIAL FORM/ZAH WITH MEEM INITIAL FORM/AIN WITH JEEM INITIAL FORM
  /AIN WITH MEEM INITIAL FORM/GHAIN WITH JEEM INITIAL FORM/GHAIN WITH MEEM INITIAL FORM
  /FEH WITH JEEM INITIAL FORM/FEH WITH HAH INITIAL FORM/FEH WITH KHAH INITIAL FORM
  /FEH WITH MEEM INITIAL FORM/QAF WITH HAH INITIAL FORM/QAF WITH MEEM INITIAL FORM
  FCC4 ARABIC LIGATURE KAF WITH
  /JEEM INITIAL FORM/HAH INITIAL FORM/KHAH INITIAL FORM/LAM INITIAL FORM/MEEM INITIAL FORM
  FCC9 ARABIC LIGATURE LAM WITH
  /JEEM INITIAL FORM/HAH INITIAL FORM/KHAH INITIAL FORM/MEEM INITIAL FORM/HEH INITIAL FORM
  FCCE ARABIC LIGATURE MEEM WITH
  /JEEM INITIAL FORM/HAH INITIAL FORM/KHAH INITIAL FORM/MEEM INITIAL FORM
  FCD2 ARABIC LIGATURE NOON WITH
  /JEEM INITIAL FORM/HAH INITIAL FORM/KHAH INITIAL FORM/MEEM INITIAL FORM/HEH INITIAL FORM
  FCD7 ARABIC LIGATURE HEH WITH
  /JEEM INITIAL FORM/MEEM INITIAL FORM/SUPERSCRIPT ALEF INITIAL FORM
  FCDA ARABIC LIGATURE YEH WITH
  /JEEM INITIAL FORM/HAH INITIAL FORM/KHAH INITIAL FORM/MEEM INITIAL FORM/HEH INITIAL FORM
  /HAMZA ABOVE WITH MEEM MEDIAL FORM/HAMZA ABOVE WITH HEH MEDIAL FORM
  FCE1 ARABIC LIGATURE
  /BEH WITH MEEM MEDIAL FORM/BEH WITH HEH MEDIAL FORM/TEH WITH MEEM MEDIAL FORM
  /TEH WITH HEH MEDIAL FORM/THEH WITH MEEM MEDIAL FORM/THEH WITH HEH MEDIAL FORM
  /SEEN WITH MEEM MEDIAL FORM/SEEN WITH HEH MEDIAL FORM/SHEEN WITH MEEM MEDIAL FORM
  /SHEEN WITH HEH MEDIAL FORM/KAF WITH LAM MEDIAL FORM/KAF WITH MEEM MEDIAL FORM
  /LAM WITH MEEM MEDIAL FORM/NOON WITH MEEM MEDIAL FORM/NOON WITH HEH MEDIAL FORM
  /YEH WITH MEEM MEDIAL FORM/YEH WITH HEH MEDIAL FORM/SHADDA WITH FATHA MEDIAL FORM
  /SHADDA WITH DAMMA MEDIAL FORM/SHADDA WITH KASRA MEDIAL FORM/TAH WITH ALEF MAKSURA ISOLATED FORM
  /TAH WITH YEH ISOLATED FORM/AIN WITH ALEF MAKSURA ISOLATED FORM/AIN WITH YEH ISOLATED FORM
  /GHAIN WITH ALEF MAKSURA ISOLATED FORM/GHAIN WITH YEH ISOLATED FORM
  /SEEN WITH ALEF MAKSURA ISOLATED FORM/SEEN WITH YEH ISOLATED FORM
  /SHEEN WITH ALEF MAKSURA ISOLATED FORM/SHEEN WITH YEH ISOLATED FORM
  /HAH WITH ALEF MAKSURA ISOLATED FORM/HAH WITH YEH ISOLATED FORM
  /JEEM WITH ALEF MAKSURA ISOLATED FORM/JEEM WITH YEH ISOLATED FORM
  /KHAH WITH ALEF MAKSURA ISOLATED FORM/KHAH WITH YEH ISOLATED FORM
  /SAD WITH ALEF MAKSURA ISOLATED FORM/SAD WITH YEH ISOLATED FORM
  /DAD WITH ALEF MAKSURA ISOLATED FORM/DAD WITH YEH ISOLATED FORM/SHEEN WITH JEEM ISOLATED FORM
  /SHEEN WITH HAH ISOLATED FORM/SHEEN WITH KHAH ISOLATED FORM/SHEEN WITH MEEM ISOLATED FORM
  /SHEEN WITH REH ISOLATED FORM/SEEN WITH REH ISOLATED FORM/SAD WITH REH ISOLATED FORM
  /DAD WITH REH ISOLATED FORM/TAH WITH ALEF MAKSURA FINAL FORM/TAH WITH YEH FINAL FORM
  /AIN WITH ALEF MAKSURA FINAL FORM/AIN WITH YEH FINAL FORM/GHAIN WITH ALEF MAKSURA FINAL FORM
  /GHAIN WITH YEH FINAL FORM/SEEN WITH ALEF MAKSURA FINAL FORM/SEEN WITH YEH FINAL FORM
  /SHEEN WITH ALEF MAKSURA FINAL FORM/SHEEN WITH YEH FINAL FORM/HAH WITH ALEF MAKSURA FINAL FORM
  /HAH WITH YEH FINAL FORM/JEEM WITH ALEF MAKSURA FINAL FORM/JEEM WITH YEH FINAL FORM
  /KHAH WITH ALEF MAKSURA FINAL FORM/KHAH WITH YEH FINAL FORM/SAD WITH ALEF MAKSURA FINAL FORM
  /SAD WITH YEH FINAL FORM/DAD WITH ALEF MAKSURA FINAL FORM/DAD WITH YEH FINAL FORM
  /SHEEN WITH JEEM FINAL FORM/SHEEN WITH HAH FINAL FORM/SHEEN WITH KHAH FINAL FORM
  /SHEEN WITH MEEM FINAL FORM/SHEEN WITH REH FINAL FORM/SEEN WITH REH FINAL FORM
  /SAD WITH REH FINAL FORM/DAD WITH REH FINAL FORM/SHEEN WITH JEEM INITIAL FORM
  /SHEEN WITH HAH INITIAL FORM/SHEEN WITH KHAH INITIAL FORM/SHEEN WITH MEEM INITIAL FORM
  /SEEN WITH HEH INITIAL FORM/SHEEN WITH HEH INITIAL FORM/TAH WITH MEEM INITIAL FORM
  /SEEN WITH JEEM MEDIAL FORM/SEEN WITH HAH MEDIAL FORM/SEEN WITH KHAH MEDIAL FORM
  /SHEEN WITH JEEM MEDIAL FORM/SHEEN WITH HAH MEDIAL FORM/SHEEN WITH KHAH MEDIAL FORM
  /TAH WITH MEEM MEDIAL FORM/ZAH WITH MEEM MEDIAL FORM/ALEF WITH FATHATAN FINAL FORM
  /ALEF WITH FATHATAN ISOLATED FORM
  FD3E ORNATE
  /LEFT PARENTHESIS/RIGHT PARENTHESIS
  FD40 ARABIC LIGATURE
  /RAHIMAHU ALLAAH/RADI ALLAAHU ANH/RADI ALLAAHU ANHAA/RADI ALLAAHU ANHUM/RADI ALLAAHU ANHUMAA
  /RADI ALLAAHU ANHUNNA/SALLALLAAHU ALAYHI WA-AALIH/ALAYHI AS-SALAAM/ALAYHIM AS-SALAAM
  /ALAYHIMAA AS-SALAAM/ALAYHI AS-SALAATU WAS-SALAAM/QUDDISA SIRRAH
  /SALLALLAHU ALAYHI WAAALIHEE WA-SALLAM/ALAYHAA AS-SALAAM/TABAARAKA WA-TAAALAA/RAHIMAHUM ALLAAH
  FD50 ARABIC LIGATURE TEH WITH
  /JEEM WITH MEEM INITIAL FORM/HAH WITH JEEM FINAL FORM/HAH WITH JEEM INITIAL FORM
  /HAH WITH MEEM INITIAL FORM/KHAH WITH MEEM INITIAL FORM/MEEM WITH JEEM INITIAL FORM
  /MEEM WITH HAH INITIAL FORM/MEEM WITH KHAH INITIAL FORM
  FD58 ARABIC LIGATURE JEEM WITH MEEM WITH HAH
  /FINAL FORM/INITIAL FORM
  FD5A ARABIC LIGATURE HAH WITH MEEM WITH
  /YEH FINAL FORM/ALEF MAKSURA FINAL FORM
  FD5C ARABIC LIGATURE SEEN WITH
  /HAH WITH JEEM INITIAL FORM/JEEM WITH HAH INITIAL FORM/JEEM WITH ALEF MAKSURA FINAL FORM
  /MEEM WITH HAH FINAL FORM/MEEM WITH HAH INITIAL FORM/MEEM WITH JEEM INITIAL FORM
  /MEEM WITH MEEM FINAL FORM/MEEM WITH MEEM INITIAL FORM
  FD64 ARABIC LIGATURE SAD WITH
  /HAH WITH HAH FINAL FORM/HAH WITH HAH INITIAL FORM/MEEM WITH MEEM FINAL FORM
  FD67 ARABIC LIGATURE SHEEN WITH
  /HAH WITH MEEM FINAL FORM/HAH WITH MEEM INITIAL FORM/JEEM WITH YEH FINAL FORM
  /MEEM WITH KHAH FINAL FORM/MEEM WITH KHAH INITIAL FORM/MEEM WITH MEEM FINAL FORM
  /MEEM WITH MEEM INITIAL FORM
  FD6E ARABIC LIGATURE DAD WITH
  /HAH WITH ALEF MAKSURA FINAL FORM/KHAH WITH MEEM FINAL FORM/KHAH WITH MEEM INITIAL FORM
  FD71 ARABIC LIGATURE TAH WITH MEEM WITH
  /HAH FINAL FORM/HAH INITIAL FORM/MEEM INITIAL FORM/YEH FINAL FORM
  FD75 ARABIC LIGATURE AIN WITH
  /JEEM WITH MEEM FINAL FORM/MEEM WITH MEEM FINAL FORM/MEEM WITH MEEM INITIAL FORM
  /MEEM WITH ALEF MAKSURA FINAL FORM
  FD79 ARABIC LIGATURE GHAIN WITH MEEM WITH
  /MEEM FINAL FORM/YEH FINAL FORM/ALEF MAKSURA FINAL FORM
  FD7C ARABIC LIGATURE FEH WITH KHAH WITH MEEM
  /FINAL FORM/INITIAL FORM
  FD7E ARABIC LIGATURE QAF WITH MEEM WITH
  /HAH FINAL FORM/MEEM FINAL FORM
  FD80 ARABIC LIGATURE LAM WITH
  /HAH WITH MEEM FINAL FORM/HAH WITH YEH FINAL FORM/HAH WITH ALEF MAKSURA FINAL FORM
  /JEEM WITH JEEM INITIAL FORM/JEEM WITH JEEM FINAL FORM/KHAH WITH MEEM FINAL FORM
  /KHAH WITH MEEM INITIAL FORM/MEEM WITH HAH FINAL FORM/MEEM WITH HAH INITIAL FORM
  FD89 ARABIC LIGATURE MEEM WITH
  /HAH WITH JEEM INITIAL FORM/HAH WITH MEEM INITIAL FORM/HAH WITH YEH FINAL FORM
  /JEEM WITH HAH INITIAL FORM/JEEM WITH MEEM INITIAL FORM/KHAH WITH JEEM INITIAL FORM
  /KHAH WITH MEEM INITIAL FORM///JEEM WITH KHAH INITIAL FORM
  FD93 ARABIC LIGATURE HEH WITH MEEM WITH
  /JEEM INITIAL FORM/MEEM INITIAL FORM
  FD95 ARABIC LIGATURE NOON WITH
  /HAH WITH MEEM INITIAL FORM/HAH WITH ALEF MAKSURA FINAL FORM/JEEM WITH MEEM FINAL FORM
  /JEEM WITH MEEM INITIAL FORM/JEEM WITH ALEF MAKSURA FINAL FORM/MEEM WITH YEH FINAL FORM
  /MEEM WITH ALEF MAKSURA FINAL FORM
  FD9C ARABIC LIGATURE
  /YEH WITH MEEM WITH MEEM FINAL FORM/YEH WITH MEEM WITH MEEM INITIAL FORM
  /BEH WITH KHAH WITH YEH FINAL FORM/TEH WITH JEEM WITH YEH FINAL FORM
  /TEH WITH JEEM WITH ALEF MAKSURA FINAL FORM/TEH WITH KHAH WITH YEH FINAL FORM
  /TEH WITH KHAH WITH ALEF MAKSURA FINAL FORM/TEH WITH MEEM WITH YEH FINAL FORM
  /TEH WITH MEEM WITH ALEF MAKSURA FINAL FORM/JEEM WITH MEEM WITH YEH FINAL FORM
  /JEEM WITH HAH WITH ALEF MAKSURA FINAL FORM/JEEM WITH MEEM WITH ALEF MAKSURA FINAL FORM
  /SEEN WITH KHAH WITH ALEF MAKSURA FINAL FORM/SAD WITH HAH WITH YEH FINAL FORM
  /SHEEN WITH HAH WITH YEH FINAL FORM/DAD WITH HAH WITH YEH FINAL FORM
  /LAM WITH JEEM WITH YEH FINAL FORM/LAM WITH MEEM WITH YEH FINAL FORM
  /YEH WITH HAH WITH YEH FINAL FORM/YEH WITH JEEM WITH YEH FINAL FORM
  /YEH WITH MEEM WITH YEH FINAL FORM/MEEM WITH MEEM WITH YEH FINAL FORM
  /QAF WITH MEEM WITH YEH FINAL FORM/NOON WITH HAH WITH YEH FINAL FORM
  /QAF WITH MEEM WITH HAH INITIAL FORM/LAM WITH HAH WITH MEEM INITIAL FORM
  /AIN WITH MEEM WITH YEH FINAL FORM/KAF WITH MEEM WITH YEH FINAL FORM
  /NOON WITH JEEM WITH HAH INITIAL FORM/MEEM WITH KHAH WITH YEH FINAL FORM
  /LAM WITH JEEM WITH MEEM INITIAL FORM/KAF WITH MEEM WITH MEEM FINAL FORM
  /LAM WITH JEEM WITH MEEM FINAL FORM/NOON WITH JEEM WITH HAH FINAL FORM
  /JEEM WITH HAH WITH YEH FINAL FORM/HAH WITH JEEM WITH YEH FINAL FORM
  /MEEM WITH JEEM WITH YEH FINAL FORM/FEH WITH MEEM WITH YEH FINAL FORM
  /BEH WITH HAH WITH YEH FINAL FORM/KAF WITH MEEM WITH MEEM INITIAL FORM
  /AIN WITH JEEM WITH MEEM INITIAL FORM/SAD WITH MEEM WITH MEEM INITIAL FORM
  /SEEN WITH KHAH WITH YEH FINAL FORM/NOON WITH JEEM WITH YEH FINAL FORM
  FDCF
  /ARABIC LIGATURE SALAAMUHU ALAYNAA
  FDF0 ARABIC LIGATURE
  /SALLA USED AS KORANIC STOP SIGN ISOLATED FORM/QALA USED AS KORANIC STOP SIGN ISOLATED FORM
  /ALLAH ISOLATED FORM/AKBAR ISOLATED FORM/MOHAMMAD ISOLATED FORM/SALAM ISOLATED FORM
  /RASOUL ISOLATED FORM/ALAYHE ISOLATED FORM/WASALLAM ISOLATED FORM/SALLA ISOLATED FORM
  /SALLALLAHOU ALAYHE WASALLAM/JALLAJALALOUHOU
  FDFC
  /RIAL SIGN
  FDFD ARABIC LIGATURE
  /BISMILLAH AR-RAHMAN AR-RAHEEM/SUBHAANAHU WA TAAALAA/AZZA WA JALL
  FE00 VARIATION SELECTOR-
  /1/2/3/4/5/6/7/8/9/10/11/12/13/14/15/16
  FE10 PRESENTATION FORM FOR VERTICAL
  /COMMA/IDEOGRAPHIC COMMA/IDEOGRAPHIC FULL STOP/COLON/SEMICOLON/EXCLAMATION MARK/QUESTION MARK
  /LEFT WHITE LENTICULAR BRACKET/RIGHT WHITE LENTICULAR BRAKCET/HORIZONTAL ELLIPSIS
  FE20 COMBINING
  /LIGATURE LEFT HALF/LIGATURE RIGHT HALF/DOUBLE TILDE LEFT HALF/DOUBLE TILDE RIGHT HALF
  /MACRON LEFT HALF/MACRON RIGHT HALF/CONJOINING MACRON/LIGATURE LEFT HALF BELOW
  /LIGATURE RIGHT HALF BELOW/TILDE LEFT HALF BELOW/TILDE RIGHT HALF BELOW/MACRON LEFT HALF BELOW
  /MACRON RIGHT HALF BELOW/CONJOINING MACRON BELOW/CYRILLIC TITLO LEFT HALF
  /CYRILLIC TITLO RIGHT HALF
  FE30 PRESENTATION FORM FOR VERTICAL
  /TWO DOT LEADER/EM DASH/EN DASH/LOW LINE/WAVY LOW LINE/LEFT PARENTHESIS/RIGHT PARENTHESIS
  /LEFT CURLY BRACKET/RIGHT CURLY BRACKET/LEFT TORTOISE SHELL BRACKET/RIGHT TORTOISE SHELL BRACKET
  /LEFT BLACK LENTICULAR BRACKET/RIGHT BLACK LENTICULAR BRACKET/LEFT DOUBLE ANGLE BRACKET
  /RIGHT DOUBLE ANGLE BRACKET/LEFT ANGLE BRACKET/RIGHT ANGLE BRACKET/LEFT CORNER BRACKET
  /RIGHT CORNER BRACKET/LEFT WHITE CORNER BRACKET/RIGHT WHITE CORNER BRACKET
  FE45
  /SESAME DOT/WHITE SESAME DOT
  FE47 PRESENTATION FORM FOR VERTICAL
  /LEFT SQUARE BRACKET/RIGHT SQUARE BRACKET
  FE49
  /DASHED OVERLINE/CENTRELINE OVERLINE/WAVY OVERLINE/DOUBLE WAVY OVERLINE/DASHED LOW LINE
  /CENTRELINE LOW LINE/WAVY LOW LINE
  FE50 SMALL
  /COMMA/IDEOGRAPHIC COMMA/FULL STOP//SEMICOLON/COLON/QUESTION MARK/EXCLAMATION MARK/EM DASH
  /LEFT PARENTHESIS/RIGHT PARENTHESIS/LEFT CURLY BRACKET/RIGHT CURLY BRACKET
  /LEFT TORTOISE SHELL BRACKET/RIGHT TORTOISE SHELL BRACKET/NUMBER SIGN/AMPERSAND/ASTERISK
  /PLUS SIGN/HYPHEN-MINUS/LESS-THAN SIGN/GREATER-THAN SIGN/EQUALS SIGN//REVERSE SOLIDUS
  /DOLLAR SIGN/PERCENT SIGN/COMMERCIAL AT
  FE70 ARABIC
  /FATHATAN ISOLATED FORM/TATWEEL WITH FATHATAN ABOVE/DAMMATAN ISOLATED FORM/TAIL FRAGMENT
  /KASRATAN ISOLATED FORM//FATHA ISOLATED FORM/FATHA MEDIAL FORM/DAMMA ISOLATED FORM
  /DAMMA MEDIAL FORM/KASRA ISOLATED FORM/KASRA MEDIAL FORM/SHADDA ISOLATED FORM/SHADDA MEDIAL FORM
  /SUKUN ISOLATED FORM/SUKUN MEDIAL FORM/LETTER HAMZA ISOLATED FORM
  FE81 ARABIC LETTER ALEF WITH
  /MADDA ABOVE ISOLATED FORM/MADDA ABOVE FINAL FORM/HAMZA ABOVE ISOLATED FORM
  /HAMZA ABOVE FINAL FORM
  FE85 ARABIC LETTER WAW WITH HAMZA ABOVE
  /ISOLATED FORM/FINAL FORM
  FE87 ARABIC LETTER ALEF WITH HAMZA BELOW
  /ISOLATED FORM/FINAL FORM
  FE89 ARABIC LETTER YEH WITH HAMZA ABOVE
  /ISOLATED FORM/FINAL FORM/INITIAL FORM/MEDIAL FORM
  FE8D ARABIC LETTER
  /ALEF ISOLATED FORM/ALEF FINAL FORM/BEH ISOLATED FORM/BEH FINAL FORM/BEH INITIAL FORM
  /BEH MEDIAL FORM/TEH MARBUTA ISOLATED FORM/TEH MARBUTA FINAL FORM/TEH ISOLATED FORM
  /TEH FINAL FORM/TEH INITIAL FORM/TEH MEDIAL FORM/THEH ISOLATED FORM/THEH FINAL FORM
  /THEH INITIAL FORM/THEH MEDIAL FORM/JEEM ISOLATED FORM/JEEM FINAL FORM/JEEM INITIAL FORM
  /JEEM MEDIAL FORM/HAH ISOLATED FORM/HAH FINAL FORM/HAH INITIAL FORM/HAH MEDIAL FORM
  /KHAH ISOLATED FORM/KHAH FINAL FORM/KHAH INITIAL FORM/KHAH MEDIAL FORM/DAL ISOLATED FORM
  /DAL FINAL FORM/THAL ISOLATED FORM/THAL FINAL FORM/REH ISOLATED FORM/REH FINAL FORM
  /ZAIN ISOLATED FORM/ZAIN FINAL FORM/SEEN ISOLATED FORM/SEEN FINAL FORM/SEEN INITIAL FORM
  /SEEN MEDIAL FORM/SHEEN ISOLATED FORM/SHEEN FINAL FORM/SHEEN INITIAL FORM/SHEEN MEDIAL FORM
  /SAD ISOLATED FORM/SAD FINAL FORM/SAD INITIAL FORM/SAD MEDIAL FORM/DAD ISOLATED FORM
  /DAD FINAL FORM/DAD INITIAL FORM/DAD MEDIAL FORM/TAH ISOLATED FORM/TAH FINAL FORM
  /TAH INITIAL FORM/TAH MEDIAL FORM/ZAH ISOLATED FORM/ZAH FINAL FORM/ZAH INITIAL FORM
  /ZAH MEDIAL FORM/AIN ISOLATED FORM/AIN FINAL FORM/AIN INITIAL FORM/AIN MEDIAL FORM
  /GHAIN ISOLATED FORM/GHAIN FINAL FORM/GHAIN INITIAL FORM/GHAIN MEDIAL FORM/FEH ISOLATED FORM
  /FEH FINAL FORM/FEH INITIAL FORM/FEH MEDIAL FORM/QAF ISOLATED FORM/QAF FINAL FORM
  /QAF INITIAL FORM/QAF MEDIAL FORM/KAF ISOLATED FORM/KAF FINAL FORM/KAF INITIAL FORM
  /KAF MEDIAL FORM/LAM ISOLATED FORM/LAM FINAL FORM/LAM INITIAL FORM/LAM MEDIAL FORM
  /MEEM ISOLATED FORM/MEEM FINAL FORM/MEEM INITIAL FORM/MEEM MEDIAL FORM/NOON ISOLATED FORM
  /NOON FINAL FORM/NOON INITIAL FORM/NOON MEDIAL FORM/HEH ISOLATED FORM/HEH FINAL FORM
  /HEH INITIAL FORM/HEH MEDIAL FORM/WAW ISOLATED FORM/WAW FINAL FORM/ALEF MAKSURA ISOLATED FORM
  /ALEF MAKSURA FINAL FORM/YEH ISOLATED FORM/YEH FINAL FORM/YEH INITIAL FORM/YEH MEDIAL FORM
  FEF5 ARABIC LIGATURE LAM WITH ALEF
  /WITH MADDA ABOVE ISOLATED FORM/WITH MADDA ABOVE FINAL FORM/WITH HAMZA ABOVE ISOLATED FORM
  /WITH HAMZA ABOVE FINAL FORM/WITH HAMZA BELOW ISOLATED FORM/WITH HAMZA BELOW FINAL FORM
  /ISOLATED FORM/FINAL FORM
  FEFF
  /ZERO WIDTH NO-BREAK SPACE
  FF01 FULLWIDTH
  /EXCLAMATION MARK/QUOTATION MARK/NUMBER SIGN/DOLLAR SIGN/PERCENT SIGN/AMPERSAND/APOSTROPHE
  /LEFT PARENTHESIS/RIGHT PARENTHESIS/ASTERISK/PLUS SIGN/COMMA/HYPHEN-MINUS/FULL STOP/SOLIDUS
  FF10 FULLWIDTH DIGIT
  /ZERO/ONE/TWO/THREE/FOUR/FIVE/SIX/SEVEN/EIGHT/NINE
  FF1A FULLWIDTH
  /COLON/SEMICOLON/LESS-THAN SIGN/EQUALS SIGN/GREATER-THAN SIGN/QUESTION MARK/COMMERCIAL AT
  FF21 FULLWIDTH LATIN CAPITAL LETTER
  /A/B/C/D/E/F/G/H/I/J/K/L/M/N/O/P/Q/R/S/T/U/V/W/X/Y/Z
  FF3B FULLWIDTH
  /LEFT SQUARE BRACKET/REVERSE SOLIDUS/RIGHT SQUARE BRACKET/CIRCUMFLEX ACCENT/LOW LINE
  /GRAVE ACCENT
  FF41 FULLWIDTH LATIN SMALL LETTER
  /A/B/C/D/E/F/G/H/I/J/K/L/M/N/O/P/Q/R/S/T/U/V/W/X/Y/Z
  FF5B FULLWIDTH
  /LEFT CURLY BRACKET/VERTICAL LINE/RIGHT CURLY BRACKET/TILDE/LEFT WHITE PARENTHESIS
  /RIGHT WHITE PARENTHESIS
  FF61 HALFWIDTH
  /IDEOGRAPHIC FULL STOP/LEFT CORNER BRACKET/RIGHT CORNER BRACKET/IDEOGRAPHIC COMMA
  /KATAKANA MIDDLE DOT/KATAKANA LETTER WO
  FF67 HALFWIDTH KATAKANA LETTER SMALL
  /A/I/U/E/O/YA/YU/YO/TU
  FF70
  /HALFWIDTH KATAKANA-HIRAGANA PROLONGED SOUND MARK
  FF71 HALFWIDTH KATAKANA LETTER
  /A/I/U/E/O/KA/KI/KU/KE/KO/SA/SI/SU/SE/SO/TA/TI/TU/TE/TO/NA/NI/NU/NE/NO/HA/HI/HU/HE/HO/MA/MI/MU
  /ME/MO/YA/YU/YO/RA/RI/RU/RE/RO/WA/N
  FF9E HALFWIDTH
  /KATAKANA VOICED SOUND MARK/KATAKANA SEMI-VOICED SOUND MARK/HANGUL FILLER
  FFA1 HALFWIDTH HANGUL LETTER
  /KIYEOK/SSANGKIYEOK/KIYEOK-SIOS/NIEUN/NIEUN-CIEUC/NIEUN-HIEUH/TIKEUT/SSANGTIKEUT/RIEUL
  /RIEUL-KIYEOK/RIEUL-MIEUM/RIEUL-PIEUP/RIEUL-SIOS/RIEUL-THIEUTH/RIEUL-PHIEUPH/RIEUL-HIEUH/MIEUM
  /PIEUP/SSANGPIEUP/PIEUP-SIOS/SIOS/SSANGSIOS/IEUNG/CIEUC/SSANGCIEUC/CHIEUCH/KHIEUKH/THIEUTH
  /PHIEUPH/HIEUH////A/AE/YA/YAE/EO/E///YEO/YE/O/WA/WAE/OE///YO/U/WEO/WE/WI/YU///EU/YI/I
  FFE0 FULLWIDTH
  /CENT SIGN/POUND SIGN/NOT SIGN/MACRON/BROKEN BAR/YEN SIGN/WON SIGN
  FFE8 HALFWIDTH
  /FORMS LIGHT VERTICAL/LEFTWARDS ARROW/UPWARDS ARROW/RIGHTWARDS ARROW/DOWNWARDS ARROW
  /BLACK SQUARE/WHITE CIRCLE
  FFF9 INTERLINEAR ANNOTATION
  /ANCHOR/SEPARATOR/TERMINATOR
  FFFC
  /OBJECT REPLACEMENT CHARACTER/REPLACEMENT CHARACTER"

end DocLinks.Text.CharNames
