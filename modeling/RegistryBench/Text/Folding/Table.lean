/-!
# Folded characters

The characters of Unicode 17, with some newer ones, that fold to others, besides the letters of
ASCII: capital letters to small ones, and compatibility characters, such as full-width letters and
ligatures, to what they stand for. The characters that ideographic text ends a sentence with fold to
a full stop. `ß`, the final `ς` and the two joiners stay as they are, and the capital `ẞ` folds to
`ß`.
-/

namespace RegistryBench.Text

/-- Characters that fold to others at an even distance: the first, the last, the step from one to
the next, and what the first folds to. -/
def shiftedRanges : List (Nat × Nat × Nat × Nat) :=
  [(0xC0, 0xD6, 1, 0xE0), (0xD8, 0xDE, 1, 0xF8), (0x100, 0x12E, 2, 0x101), (0x139, 0x13D, 2, 0x13A),
    (0x141, 0x147, 2, 0x142), (0x14A, 0x176, 2, 0x14B), (0x179, 0x17D, 2, 0x17A),
    (0x1A0, 0x1A4, 2, 0x1A1), (0x1CD, 0x1DB, 2, 0x1CE), (0x1DE, 0x1EE, 2, 0x1DF),
    (0x1F8, 0x21E, 2, 0x1F9), (0x222, 0x232, 2, 0x223), (0x246, 0x24E, 2, 0x247),
    (0x388, 0x38A, 1, 0x3AD), (0x391, 0x3A1, 1, 0x3B1), (0x3A3, 0x3AB, 1, 0x3C3),
    (0x3D8, 0x3EE, 2, 0x3D9), (0x3FD, 0x3FF, 1, 0x37B), (0x400, 0x40F, 1, 0x450),
    (0x410, 0x42F, 1, 0x430), (0x460, 0x480, 2, 0x461), (0x48A, 0x4BE, 2, 0x48B),
    (0x4C1, 0x4CD, 2, 0x4C2), (0x4D0, 0x52E, 2, 0x4D1), (0x531, 0x556, 1, 0x561),
    (0x10A0, 0x10C5, 1, 0x2D00), (0x13F8, 0x13FD, 1, 0x13F0), (0x1C90, 0x1CBA, 1, 0x10D0),
    (0x1CBD, 0x1CBF, 1, 0x10FD), (0x1D31, 0x1D39, 2, 0x65), (0x1D34, 0x1D3A, 2, 0x68),
    (0x1D5D, 0x1D5F, 1, 0x3B2), (0x1DA4, 0x1DA6, 1, 0x268), (0x1DAE, 0x1DB1, 1, 0x272),
    (0x1DBC, 0x1DBE, 1, 0x290), (0x1E00, 0x1E94, 2, 0x1E01), (0x1EA0, 0x1EFE, 2, 0x1EA1),
    (0x1F08, 0x1F0F, 1, 0x1F00), (0x1F18, 0x1F1D, 1, 0x1F10), (0x1F28, 0x1F2F, 1, 0x1F20),
    (0x1F38, 0x1F3F, 1, 0x1F30), (0x1F48, 0x1F4D, 1, 0x1F40), (0x1F59, 0x1F5F, 2, 0x1F51),
    (0x1F68, 0x1F6F, 1, 0x1F60), (0x2074, 0x2079, 1, 0x34), (0x2080, 0x2089, 1, 0x30),
    (0x2096, 0x2099, 1, 0x6B), (0x2119, 0x211B, 1, 0x70), (0x2135, 0x2138, 1, 0x5D0),
    (0x2460, 0x2468, 1, 0x31), (0x24B6, 0x24CF, 1, 0x61), (0x24D0, 0x24E9, 1, 0x61),
    (0x2C00, 0x2C2F, 1, 0x2C30), (0x2C67, 0x2C6B, 2, 0x2C68), (0x2C80, 0x2CE2, 2, 0x2C81),
    (0x3137, 0x3139, 1, 0x1103), (0x313A, 0x313F, 1, 0x11B0), (0x3141, 0x3143, 1, 0x1106),
    (0x3145, 0x314E, 1, 0x1109), (0x314F, 0x3163, 1, 0x1161), (0x3178, 0x317C, 1, 0x112B),
    (0x3184, 0x3186, 1, 0x1157), (0x3263, 0x3265, 1, 0x1105), (0x3269, 0x326D, 1, 0x110E),
    (0x32E4, 0x32E9, 1, 0x30CA), (0x32EE, 0x32F2, 1, 0x30DE), (0x32F5, 0x32FA, 1, 0x30E8),
    (0x32FB, 0x32FE, 1, 0x30EF), (0xA640, 0xA66C, 2, 0xA641), (0xA680, 0xA69A, 2, 0xA681),
    (0xA722, 0xA72E, 2, 0xA723), (0xA732, 0xA76E, 2, 0xA733), (0xA77E, 0xA786, 2, 0xA77F),
    (0xA796, 0xA7A8, 2, 0xA797), (0xA7B4, 0xA7C2, 2, 0xA7B5), (0xA7CC, 0xA7DA, 2, 0xA7CD),
    (0xAB70, 0xABBF, 1, 0x13A0), (0xFB24, 0xFB26, 1, 0x5DB), (0xFE41, 0xFE44, 1, 0x300C),
    (0xFF01, 0xFF20, 1, 0x21), (0xFF21, 0xFF3A, 1, 0x61), (0xFF3B, 0xFF5E, 1, 0x5B),
    (0xFF85, 0xFF8A, 1, 0x30CA), (0xFF8F, 0xFF93, 1, 0x30DE), (0xFF96, 0xFF9B, 1, 0x30E8),
    (0xFFA7, 0xFFA9, 1, 0x1103), (0xFFAA, 0xFFAF, 1, 0x11B0), (0xFFB1, 0xFFB3, 1, 0x1106),
    (0xFFB5, 0xFFBE, 1, 0x1109), (0xFFC2, 0xFFC7, 1, 0x1161), (0xFFCA, 0xFFCF, 1, 0x1167),
    (0xFFD2, 0xFFD7, 1, 0x116D), (0xFFDA, 0xFFDC, 1, 0x1173), (0xFFE9, 0xFFEC, 1, 0x2190),
    (0x10400, 0x10427, 1, 0x10428), (0x104B0, 0x104D3, 1, 0x104D8), (0x10570, 0x10594, 2, 0x10597),
    (0x10571, 0x10579, 2, 0x10598), (0x1057D, 0x10589, 2, 0x105A4), (0x1058D, 0x10591, 2, 0x105B4),
    (0x107B6, 0x107B8, 1, 0x1C0), (0x10C80, 0x10CB2, 1, 0x10CC0), (0x10D50, 0x10D65, 1, 0x10D70),
    (0x118A0, 0x118BF, 1, 0x118C0), (0x16E40, 0x16E5F, 1, 0x16E60), (0x16EA0, 0x16EB8, 1, 0x16EBB),
    (0x1CCD6, 0x1CCEF, 1, 0x61), (0x1CCF0, 0x1CCF9, 1, 0x30), (0x1D400, 0x1D419, 1, 0x61),
    (0x1D41A, 0x1D433, 1, 0x61), (0x1D434, 0x1D44D, 1, 0x61), (0x1D44E, 0x1D466, 2, 0x61),
    (0x1D44F, 0x1D453, 2, 0x62), (0x1D457, 0x1D467, 2, 0x6A), (0x1D468, 0x1D481, 1, 0x61),
    (0x1D482, 0x1D49B, 1, 0x61), (0x1D4A9, 0x1D4AC, 1, 0x6E), (0x1D4AE, 0x1D4B5, 1, 0x73),
    (0x1D4B6, 0x1D4B9, 1, 0x61), (0x1D4BB, 0x1D4CF, 2, 0x66), (0x1D4BE, 0x1D4C2, 2, 0x69),
    (0x1D4C6, 0x1D4CE, 2, 0x71), (0x1D4D0, 0x1D4E9, 1, 0x61), (0x1D4EA, 0x1D503, 1, 0x61),
    (0x1D505, 0x1D509, 2, 0x62), (0x1D50D, 0x1D514, 1, 0x6A), (0x1D516, 0x1D51C, 1, 0x73),
    (0x1D51E, 0x1D537, 1, 0x61), (0x1D539, 0x1D53D, 2, 0x62), (0x1D53C, 0x1D546, 2, 0x65),
    (0x1D54A, 0x1D550, 1, 0x73), (0x1D552, 0x1D56B, 1, 0x61), (0x1D56C, 0x1D585, 1, 0x61),
    (0x1D586, 0x1D59F, 1, 0x61), (0x1D5A0, 0x1D5B9, 1, 0x61), (0x1D5BA, 0x1D5D3, 1, 0x61),
    (0x1D5D4, 0x1D5ED, 1, 0x61), (0x1D5EE, 0x1D607, 1, 0x61), (0x1D608, 0x1D621, 1, 0x61),
    (0x1D622, 0x1D63B, 1, 0x61), (0x1D63C, 0x1D655, 1, 0x61), (0x1D656, 0x1D66F, 1, 0x61),
    (0x1D670, 0x1D689, 1, 0x61), (0x1D68A, 0x1D6A3, 1, 0x61), (0x1D6A8, 0x1D6B8, 1, 0x3B1),
    (0x1D6BA, 0x1D6C0, 1, 0x3C3), (0x1D6C2, 0x1D6D2, 1, 0x3B1), (0x1D6D4, 0x1D6DA, 1, 0x3C3),
    (0x1D6E2, 0x1D6F2, 1, 0x3B1), (0x1D6F4, 0x1D6FA, 1, 0x3C3), (0x1D6FC, 0x1D70C, 1, 0x3B1),
    (0x1D70E, 0x1D714, 1, 0x3C3), (0x1D71C, 0x1D72C, 1, 0x3B1), (0x1D72E, 0x1D734, 1, 0x3C3),
    (0x1D736, 0x1D746, 1, 0x3B1), (0x1D748, 0x1D74E, 1, 0x3C3), (0x1D756, 0x1D766, 1, 0x3B1),
    (0x1D768, 0x1D76E, 1, 0x3C3), (0x1D770, 0x1D780, 1, 0x3B1), (0x1D782, 0x1D788, 1, 0x3C3),
    (0x1D790, 0x1D7A0, 1, 0x3B1), (0x1D7A2, 0x1D7A8, 1, 0x3C3), (0x1D7AA, 0x1D7BA, 1, 0x3B1),
    (0x1D7BC, 0x1D7C2, 1, 0x3C3), (0x1D7CE, 0x1D7D7, 1, 0x30), (0x1D7D8, 0x1D7E1, 1, 0x30),
    (0x1D7E2, 0x1D7EB, 1, 0x30), (0x1D7EC, 0x1D7F5, 1, 0x30), (0x1D7F6, 0x1D7FF, 1, 0x30),
    (0x1E030, 0x1E038, 1, 0x430), (0x1E039, 0x1E03B, 1, 0x43A), (0x1E03C, 0x1E046, 1, 0x43E),
    (0x1E051, 0x1E059, 1, 0x430), (0x1E05F, 0x1E064, 1, 0x443), (0x1E900, 0x1E921, 1, 0x1E922),
    (0x1EE0A, 0x1EE0D, 1, 0x643), (0x1EE2A, 0x1EE2D, 1, 0x643), (0x1EE8B, 0x1EE8D, 1, 0x644),
    (0x1EEAB, 0x1EEAD, 1, 0x644), (0x1F130, 0x1F149, 1, 0x61), (0x1FBF0, 0x1FBF9, 1, 0x30)]

/-- Characters that fold each to a text of its own: the first, and the texts of it and of those
that follow, with bars between them. -/
def foldedRuns : List (Nat × String) :=
  [(0xA0, " "), (0xA8, " ̈|©|a"), (0xAF, " ̄|°|±|2|3| ́|μ|¶|·| ̧|1|o|»|1⁄4|1⁄2|3⁄4"),
    (0x130, "i̇|ı|ij|ij|ĵ|ĵ|ķ"), (0x13F, "l·|l·"), (0x149, "ʼn"), (0x178, "ÿ"),
    (0x17F, "s|ƀ|ɓ|ƃ|ƃ|ƅ|ƅ|ɔ|ƈ|ƈ|ɖ|ɗ|ƌ|ƌ|ƍ|ǝ|ə|ɛ|ƒ|ƒ|ɠ|ɣ|ƕ|ɩ|ɨ|ƙ|ƙ|ƚ|ƛ|ɯ|ɲ|ƞ|ɵ"),
    (0x1A6, "ʀ|ƨ|ƨ|ʃ|ƪ|ƫ|ƭ|ƭ|ʈ|ư|ư|ʊ|ʋ|ƴ|ƴ|ƶ|ƶ|ʒ|ƹ|ƹ|ƺ|ƻ|ƽ"), (0x1C4, "dž|dž|dž|lj|lj|lj|nj|nj|nj"),
    (0x1F1, "dz|dz|dz|ǵ|ǵ|ƕ|ƿ"), (0x220, "ƞ"), (0x23A, "ⱥ|ȼ|ȼ|ƚ|ⱦ|ȿ|ɀ|ɂ|ɂ|ƀ|ʉ|ʌ"),
    (0x2B0, "h|ɦ|j|r|ɹ|ɻ|ʁ|w|y"), (0x2D8, " ̆| ̇| ̊| ̨| ̃| ̋|˞|˟|ɣ|l|s|x|ʕ"),
    (0x340, "̀|́|͂|̓|̈́|ι"), (0x370, "ͱ|ͱ|ͳ|ͳ|ʹ|͵|ͷ|ͷ|͸|͹| ι|ͻ|ͼ|ͽ|;|ϳ"), (0x384, " ́| ̈́|ά|·"),
    (0x38C, "ό|΍|ύ|ώ"), (0x3CF, "ϗ|β|θ|υ|ύ|ϋ|φ|π"), (0x3F0, "κ|ρ|σ|ϳ|θ|ε|϶|ϸ|ϸ|σ|ϻ"), (0x4C0, "ӏ"),
    (0x558, "է"), (0x587, "եւ|ֈ|։|֊|ի|յ"), (0x675, "اٴ|وٴ|ۇٴ|يٴ"),
    (0x958, "क़|ख़|ग़|ज़|ड़|ढ़|फ़|य़"), (0x9DC, "ড়|ঢ়|৞|য়"), (0xA33, "ਲ਼|਴|ਵ|ਸ਼"),
    (0xA59, "ਖ਼|ਗ਼|ਜ਼|ੜ|੝|ਫ਼"), (0xB5C, "ଡ଼|ଢ଼"), (0xE33, "ํา"), (0xEB3, "ໍາ"), (0xEDC, "ຫນ|ຫມ"),
    (0xF0C, "་"), (0xF43, "གྷ"), (0xF4D, "ཌྷ"), (0xF52, "དྷ"), (0xF57, "བྷ"), (0xF5C, "ཛྷ"),
    (0xF69, "ཀྵ"), (0xF73, "ཱི|ུ|ཱུ|ྲྀ|ྲཱྀ|ླྀ|ླཱྀ"), (0xF81, "ཱྀ"), (0xF93, "ྒྷ"), (0xF9D, "ྜྷ"),
    (0xFA2, "ྡྷ"), (0xFA7, "ྦྷ"), (0xFAC, "ྫྷ"), (0xFB9, "ྐྵ"), (0x10C7, "ⴧ"), (0x10CD, "ⴭ"),
    (0x10FC, "ნ"), (0x1C80, "в|д|о|с|т|т|ъ|ѣ|ꙋ|ᲊ"), (0x1D2C, "a|æ|b|ᴯ|d|e|ǝ"),
    (0x1D3C, "o|ȣ|p|r|t|u|w|a|ɐ|ɑ|ᴂ|b|d|e|ə|ɛ|ɜ|g|ᵎ|k|m|ŋ|o|ɔ|ᴖ|ᴗ|p|t|u|ᴝ|ɯ|v|ᴥ|β|γ|δ|φ"),
    (0x1D61, "χ|i|r|u|v|β|γ|ρ|φ|χ"), (0x1D78, "н"),
    (0x1D9B, "ɒ|c|ɕ|ð|ɜ|f|ɟ|ɡ|ɥ|ɨ|ɩ|ɪ|ᵻ|ʝ|ɭ|ᶅ|ʟ|ɱ|ɰ"), (0x1DB2, "ɸ|ʂ|ʃ|ƫ|ʉ|ʊ|ᴜ|ʋ|ʌ|z|ʐ|ʑ|ʒ|θ"),
    (0x1E9A, "aʾ|ṡ|ẜ|ẝ|ß"),
    (0x1F71, "ά|ὲ|έ|ὴ|ή|ὶ|ί|ὸ|ό|ὺ|ύ|ὼ|ώ|὾|὿|ἀι|ἁι|ἂι|ἃι|ἄι|ἅι|ἆι|ἇι|ἀι|ἁι|ἂι|ἃι|ἄι"),
    (0x1F8D, "ἅι|ἆι|ἇι|ἠι|ἡι|ἢι|ἣι|ἤι|ἥι|ἦι|ἧι|ἠι|ἡι|ἢι|ἣι|ἤι|ἥι|ἦι|ἧι|ὠι|ὡι|ὢι|ὣι"),
    (0x1FA4, "ὤι|ὥι|ὦι|ὧι|ὠι|ὡι|ὢι|ὣι|ὤι|ὥι|ὦι|ὧι|ᾰ|ᾱ|ὰι|αι|άι|᾵|ᾶ|ᾶι|ᾰ|ᾱ|ὰ|ά|αι| ̓"),
    (0x1FBE, "ι| ̓| ͂| ̈͂|ὴι|ηι|ήι|῅|ῆ|ῆι|ὲ|έ|ὴ|ή|ηι| ̓̀| ̓́| ̓͂|ῐ|ῑ|ῒ|ΐ"),
    (0x1FD8, "ῐ|ῑ|ὶ|ί|῜| ̔̀| ̔́| ̔͂|ῠ|ῡ|ῢ|ΰ"),
    (0x1FE8, "ῠ|ῡ|ὺ|ύ|ῥ| ̈̀| ̈́|\x60|῰|῱|ὼι|ωι|ώι|῵|ῶ|ῶι|ὸ|ό|ὼ|ώ|ωι| ́| ̔|῿| | | | | | "),
    (0x2006, " | | | | "), (0x2011, "‐"), (0x2017, " ̳"), (0x2024, ".|..|..."),
    (0x202F, " |‰|‱|′|′′|′′′|‵|‵‵|‵‵‵"), (0x203C, "!!|‽| ̅"), (0x2047, "??|?!|!?"),
    (0x2057, "′′′′"), (0x205F, " "), (0x2070, "0|i"), (0x207A, "+|−|=|(|)|n"),
    (0x208A, "+|−|=|(|)|₏|a|e|o|x|ə|h"), (0x209A, "p|s|t|w|y|z"), (0x20A8, "rs"),
    (0x2100, "a/c|a/s|c|°c|℄|c/o|c/u|ɛ|℈|°f|g|h|h|h|h|ħ|i|i|l|l|℔|n|no"),
    (0x211C, "r|r|℞|℟|sm|tel|tm|℣|z|℥|ω|℧|z|℩|k|å|b|c|℮|e|e|f|ⅎ|m|o"),
    (0x2139, "i|℺|fax|π|γ|γ|π|∑"), (0x2145, "d|d|e|i|j"),
    (0x2150, "1⁄7|1⁄9|1⁄10|1⁄3|2⁄3|1⁄5|2⁄5|3⁄5|4⁄5|1⁄6|5⁄6|1⁄8|3⁄8|5⁄8|7⁄8|1⁄|i|ii"),
    (0x2162, "iii|iv|v|vi|vii|viii|ix|x|xi|xii|l|c|d|m|i|ii|iii|iv|v|vi|vii|viii|ix"),
    (0x2179, "x|xi|xii|l|c|d|m|ↀ|ↁ|ↂ|ↄ"), (0x2189, "0⁄3"), (0x222C, "∫∫|∫∫∫|∮|∮∮|∮∮∮"),
    (0x2329, "〈|〉"),
    (0x2469, "10|11|12|13|14|15|16|17|18|19|20|(1)|(2)|(3)|(4)|(5)|(6)|(7)|(8)|(9)"),
    (0x247D, "(10)|(11)|(12)|(13)|(14)|(15)|(16)|(17)|(18)|(19)|(20)|1.|2.|3.|4.|5."),
    (0x248D, "6.|7.|8.|9.|10.|11.|12.|13.|14.|15.|16.|17.|18.|19.|20.|(a)|(b)|(c)"),
    (0x249F, "(d)|(e)|(f)|(g)|(h)|(i)|(j)|(k)|(l)|(m)|(n)|(o)|(p)|(q)|(r)|(s)|(t)"),
    (0x24B0, "(u)|(v)|(w)|(x)|(y)|(z)"), (0x24EA, "0"), (0x2A0C, "∫∫∫∫"), (0x2A74, "::=|==|==="),
    (0x2ADC, "⫝̸"), (0x2C60, "ⱡ|ⱡ|ɫ|ᵽ|ɽ"), (0x2C6D, "ɑ|ɱ|ɐ|ɒ|ⱱ|ⱳ|ⱳ|ⱴ|ⱶ"), (0x2C7C, "j|v|ȿ|ɀ"),
    (0x2CEB, "ⳬ|ⳬ|ⳮ"), (0x2CF2, "ⳳ"), (0x2D6F, "ⵡ"), (0x2E9F, "母"), (0x2EF3, "龟"),
    (0x2F00, "一|丨|丶|丿|乙|亅|二|亠|人|儿|入|八|冂|冖|冫|几|凵|刀|力|勹|匕|匚|匸|十|卜|卩|厂|厶|又|口|囗|土|士|夂|夊"),
    (0x2F23, "夕|大|女|子|宀|寸|小|尢|尸|屮|山|巛|工|己|巾|干|幺|广|廴|廾|弋|弓|彐|彡|彳|心|戈|戶|手|支|攴|文|斗|斤|方"),
    (0x2F46, "无|日|曰|月|木|欠|止|歹|殳|毋|比|毛|氏|气|水|火|爪|父|爻|爿|片|牙|牛|犬|玄|玉|瓜|瓦|甘|生|用|田|疋|疒|癶"),
    (0x2F69, "白|皮|皿|目|矛|矢|石|示|禸|禾|穴|立|竹|米|糸|缶|网|羊|羽|老|而|耒|耳|聿|肉|臣|自|至|臼|舌|舛|舟|艮|色|艸"),
    (0x2F8C, "虍|虫|血|行|衣|襾|見|角|言|谷|豆|豕|豸|貝|赤|走|足|身|車|辛|辰|辵|邑|酉|釆|里|金|長|門|阜|隶|隹|雨|靑|非"),
    (0x2FAF, "面|革|韋|韭|音|頁|風|飛|食|首|香|馬|骨|高|髟|鬥|鬯|鬲|鬼|魚|鳥|鹵|鹿|麥|麻|黃|黍|黑|黹|黽|鼎|鼓|鼠|鼻|齊"),
    (0x2FD2, "齒|龍|龜|龠"), (0x3000, " |、|."), (0x3036, "〒|〷|十|卄|卅"), (0x309B, " ゙| ゚|ゝ|ゞ|より"),
    (0x30FF, "コト"), (0x3131, "ᄀ|ᄁ|ᆪ|ᄂ|ᆬ|ᆭ"), (0x3140, "ᄚ|ᄆ|ᄇ|ᄈ|ᄡ"),
    (0x3165, "ᄔ|ᄕ|ᇇ|ᇈ|ᇌ|ᇎ|ᇓ|ᇗ|ᇙ|ᄜ|ᇝ|ᇟ|ᄝ|ᄞ|ᄠ|ᄢ|ᄣ|ᄧ|ᄩ"),
    (0x317D, "ᄲ|ᄶ|ᅀ|ᅇ|ᅌ|ᇱ|ᇲ|ᅗ|ᅘ|ᅙ|ᆄ|ᆅ|ᆈ|ᆑ|ᆒ|ᆔ|ᆞ|ᆡ|㆏|㆐|㆑|一|二|三|四|上|中|下|甲|乙|丙|丁|天|地|人"),
    (0x3200, "(ᄀ)|(ᄂ)|(ᄃ)|(ᄅ)|(ᄆ)|(ᄇ)|(ᄉ)|(ᄋ)|(ᄌ)|(ᄎ)|(ᄏ)|(ᄐ)|(ᄑ)|(ᄒ)|(가)|(나)|(다)"),
    (0x3211, "(라)|(마)|(바)|(사)|(아)|(자)|(차)|(카)|(타)|(파)|(하)|(주)|(오전)|(오후)|㈟|(一)|(二)"),
    (0x3222, "(三)|(四)|(五)|(六)|(七)|(八)|(九)|(十)|(月)|(火)|(水)|(木)|(金)|(土)|(日)|(株)|(有)"),
    (0x3233, "(社)|(名)|(特)|(財)|(祝)|(労)|(代)|(呼)|(学)|(監)|(企)|(資)|(協)|(祭)|(休)|(自)|(至)|問"),
    (0x3245, "幼|文|箏"),
    (0x3250, "pte|21|22|23|24|25|26|27|28|29|30|31|32|33|34|35|ᄀ|ᄂ|ᄃ|ᄅ|ᄆ|ᄇ|ᄉ|ᄋ|ᄌ"),
    (0x326E, "가|나|다|라|마|바|사|아|자|차|카|타|파|하|참고|주의|우|㉿|一|二|三|四|五|六|七|八|九|十|月|火|水|木|金|土"),
    (0x3290, "日|株|有|社|名|特|財|祝|労|秘|男|女|適|優|印|注|項|休|写|正|上|中|下|左|右|医|宗|学|監|企|資|協|夜|36"),
    (0x32B2, "37|38|39|40|41|42|43|44|45|46|47|48|49|50|1月|2月|3月|4月|5月|6月|7月|8月|9月"),
    (0x32C9, "10月|11月|12月|hg|erg|ev|ltd|ア|イ|ウ|エ|オ|カ|キ|ク|ケ|コ|サ|シ|ス|セ|ソ|タ|チ|ツ|テ|ト"),
    (0x32EA, "ヒ|フ|ヘ|ホ"), (0x32F3, "ヤ|ユ"),
    (0x32FF, "令和|アパート|アルファ|アンペア|アール|イニング|インチ|ウォン|エスクード|エーカー|オンス|オーム|カイリ|カラット|カロリー"),
    (0x330E, "ガロン|ガンマ|ギガ|ギニー|キュリー|ギルダー|キロ|キログラム|キロメートル|キロワット|グラム|グラムトン|クルゼイロ|クローネ"),
    (0x331C, "ケース|コルナ|コーポ|サイクル|サンチーム|シリング|センチ|セント|ダース|デシ|ドル|トン|ナノ|ノット|ハイツ|パーセント|パーツ"),
    (0x332D, "バーレル|ピアストル|ピクル|ピコ|ビル|ファラッド|フィート|ブッシェル|フラン|ヘクタール|ペソ|ペニヒ|ヘルツ|ペンス|ページ|ベータ"),
    (0x333D, "ポイント|ボルト|ホン|ポンド|ホール|ホーン|マイクロ|マイル|マッハ|マルク|マンション|ミクロン|ミリ|ミリバール|メガ|メガトン"),
    (0x334D, "メートル|ヤード|ヤール|ユアン|リットル|リラ|ルピー|ルーブル|レム|レントゲン|ワット|0点|1点|2点|3点|4点|5点|6点|7点"),
    (0x3360, "8点|9点|10点|11点|12点|13点|14点|15点|16点|17点|18点|19点|20点|21点|22点|23点|24点|hpa"),
    (0x3372, "da|au|bar|ov|pc|dm|dm2|dm3|iu|平成|昭和|大正|明治|株式会社|pa|na|μa|ma|ka|kb|mb|gb"),
    (0x3388, "cal|kcal|pf|nf|μf|μg|mg|kg|hz|khz|mhz|ghz|thz|μl|ml|dl|kl|fm|nm|μm|mm"),
    (0x339D, "cm|km|mm2|cm2|m2|km2|mm3|cm3|m3|km3|m∕s|m∕s2|pa|kpa|mpa|gpa|rad|rad∕s"),
    (0x33AF, "rad∕s2|ps|ns|μs|ms|pv|nv|μv|mv|kv|mv|pw|nw|μw|mw|kw|mw|kω|mω|a.m.|bq"),
    (0x33C4, "cc|cd|c∕kg|co.|db|gy|ha|hp|in|kk|km|kt|lm|ln|log|lx|mb|mil|mol|ph|p.m."),
    (0x33D9, "ppm|pr|sr|sv|wb|v∕m|a∕m|1日|2日|3日|4日|5日|6日|7日|8日|9日|10日|11日|12日|13日|14日"),
    (0x33EE, "15日|16日|17日|18日|19日|20日|21日|22日|23日|24日|25日|26日|27日|28日|29日|30日|31日"),
    (0x33FF, "gal"), (0xA69C, "ъ|ь"), (0xA770, "ꝯ"), (0xA779, "ꝺ|ꝺ|ꝼ|ꝼ|ᵹ"),
    (0xA78B, "ꞌ|ꞌ|ɥ|ꞎ|ꞏ|ꞑ|ꞑ|ꞓ"), (0xA7AA, "ɦ|ɜ|ɡ|ɬ|ɪ|ꞯ|ʞ|ʇ|ʝ|ꭓ"), (0xA7C4, "ꞔ|ʂ|ᶎ|ꟈ|ꟈ|ꟊ|ꟊ|ɤ"),
    (0xA7DC, "ƛ|ɷ"), (0xA7F1, "s|c|f|q|ꟶ|ꟶ|ꟷ|ħ|œ"), (0xAB5C, "ꜧ|ꬷ|ɫ|ꭒ"), (0xAB69, "ʍ"),
    (0xF900, "豈|更|車|賈|滑|串|句|龜|龜|契|金|喇|奈|懶|癩|羅|蘿|螺|裸|邏|樂|洛|烙|珞|落|酪|駱|亂|卵|欄|爛|蘭|鸞|嵐|濫"),
    (0xF923, "藍|襤|拉|臘|蠟|廊|朗|浪|狼|郎|來|冷|勞|擄|櫓|爐|盧|老|蘆|虜|路|露|魯|鷺|碌|祿|綠|菉|錄|鹿|論|壟|弄|籠|聾"),
    (0xF946, "牢|磊|賂|雷|壘|屢|樓|淚|漏|累|縷|陋|勒|肋|凜|凌|稜|綾|菱|陵|讀|拏|樂|諾|丹|寧|怒|率|異|北|磻|便|復|不|泌"),
    (0xF969, "數|索|參|塞|省|葉|說|殺|辰|沈|拾|若|掠|略|亮|兩|凉|梁|糧|良|諒|量|勵|呂|女|廬|旅|濾|礪|閭|驪|麗|黎|力|曆"),
    (0xF98C, "歷|轢|年|憐|戀|撚|漣|煉|璉|秊|練|聯|輦|蓮|連|鍊|列|劣|咽|烈|裂|說|廉|念|捻|殮|簾|獵|令|囹|寧|嶺|怜|玲|瑩"),
    (0xF9AF, "羚|聆|鈴|零|靈|領|例|禮|醴|隸|惡|了|僚|寮|尿|料|樂|燎|療|蓼|遼|龍|暈|阮|劉|杻|柳|流|溜|琉|留|硫|紐|類|六"),
    (0xF9D2, "戮|陸|倫|崙|淪|輪|律|慄|栗|率|隆|利|吏|履|易|李|梨|泥|理|痢|罹|裏|裡|里|離|匿|溺|吝|燐|璘|藺|隣|鱗|麟|林"),
    (0xF9F5, "淋|臨|立|笠|粒|狀|炙|識|什|茶|刺|切|度|拓|糖|宅|洞|暴|輻|行|降|見|廓|兀|嗀|﨎|﨏|塚|﨑|晴|﨓|﨔|凞|猪|益"),
    (0xFA18, "礼|神|祥|福|靖|精|羽|﨟|蘒|﨡|諸|﨣|﨤|逸|都|﨧|﨨|﨩|飯|飼|館|鶴|郞|隷|侮|僧|免|勉|勤|卑|喝|嘆|器|塀|墨"),
    (0xFA3B, "層|屮|悔|慨|憎|懲|敏|既|暑|梅|海|渚|漢|煮|爫|琢|碑|社|祉|祈|祐|祖|祝|禍|禎|穀|突|節|練|縉|繁|署|者|臭|艹"),
    (0xFA5E, "艹|著|褐|視|謁|謹|賓|贈|辶|逸|難|響|頻|恵|𤋮|舘|﩮|﩯|並|况|全|侀|充|冀|勇|勺|喝|啕|喙|嗢|塚|墳|奄|奔|婢"),
    (0xFA81, "嬨|廒|廙|彩|徭|惘|慎|愈|憎|慠|懲|戴|揄|搜|摒|敖|晴|朗|望|杖|歹|殺|流|滛|滋|漢|瀞|煮|瞧|爵|犯|猪|瑱|甆|画"),
    (0xFAA4, "瘝|瘟|益|盛|直|睊|着|磌|窱|節|类|絛|練|缾|者|荒|華|蝹|襁|覆|視|調|諸|請|謁|諾|諭|謹|變|贈|輸|遲|醙|鉶|陼"),
    (0xFAC7, "難|靖|韛|響|頋|頻|鬒|龜|𢡊|𢡄|𣏕|㮝|䀘|䀹|𥉉|𥳐|𧻓|齃|龎"), (0xFB00, "ff|fi|fl|ffi|ffl|st|st"),
    (0xFB13, "մն|մե|մի|վն|մխ"),
    (0xFB1D, "יִ|ﬞ|ײַ|ע|א|ד|ה|כ|ל|ם|ר|ת|+|שׁ|שׂ|שּׁ|שּׂ|אַ|אָ|אּ|בּ|גּ|דּ|הּ|וּ|זּ"),
    (0xFB38, "טּ|יּ|ךּ|כּ|לּ|﬽|מּ|﬿|נּ|סּ|﭂|ףּ|פּ|﭅|צּ|קּ|רּ|שּ|תּ|וֹ|בֿ|כֿ|פֿ|אל|ٱ"),
    (0xFB51, "ٱ|ٻ|ٻ|ٻ|ٻ|پ|پ|پ|پ|ڀ|ڀ|ڀ|ڀ|ٺ|ٺ|ٺ|ٺ|ٿ|ٿ|ٿ|ٿ|ٹ|ٹ|ٹ|ٹ|ڤ|ڤ|ڤ|ڤ|ڦ|ڦ|ڦ|ڦ|ڄ|ڄ"),
    (0xFB74, "ڄ|ڄ|ڃ|ڃ|ڃ|ڃ|چ|چ|چ|چ|ڇ|ڇ|ڇ|ڇ|ڍ|ڍ|ڌ|ڌ|ڎ|ڎ|ڈ|ڈ|ژ|ژ|ڑ|ڑ|ک|ک|ک|ک|گ|گ|گ|گ|ڳ"),
    (0xFB97, "ڳ|ڳ|ڳ|ڱ|ڱ|ڱ|ڱ|ں|ں|ڻ|ڻ|ڻ|ڻ|ۀ|ۀ|ہ|ہ|ہ|ہ|ھ|ھ|ھ|ھ|ے|ے|ۓ|ۓ"),
    (0xFBD3, "ڭ|ڭ|ڭ|ڭ|ۇ|ۇ|ۆ|ۆ|ۈ|ۈ|ۇٴ|ۋ|ۋ|ۅ|ۅ|ۉ|ۉ|ې|ې|ې|ې|ى|ى|ئا|ئا|ئە|ئە|ئو|ئو|ئۇ|ئۇ"),
    (0xFBF2, "ئۆ|ئۆ|ئۈ|ئۈ|ئې|ئې|ئې|ئى|ئى|ئى|ی|ی|ی|ی|ئج|ئح|ئم|ئى|ئي|بج|بح|بخ|بم|بى|بي"),
    (0xFC0B, "تج|تح|تخ|تم|تى|تي|ثج|ثم|ثى|ثي|جح|جم|حج|حم|خج|خح|خم|سج|سح|سخ|سم|صح|صم"),
    (0xFC22, "ضج|ضح|ضخ|ضم|طح|طم|ظم|عج|عم|غج|غم|فج|فح|فخ|فم|فى|في|قح|قم|قى|قي|كا|كج"),
    (0xFC39, "كح|كخ|كل|كم|كى|كي|لج|لح|لخ|لم|لى|لي|مج|مح|مخ|مم|مى|مي|نج|نح|نخ|نم|نى"),
    (0xFC50, "ني|هج|هم|هى|هي|يج|يح|يخ|يم|يى|يي|ذٰ|رٰ|ىٰ| ٌّ| ٍّ| َّ| ُّ| ِّ| ّٰ|ئر"),
    (0xFC65, "ئز|ئم|ئن|ئى|ئي|بر|بز|بم|بن|بى|بي|تر|تز|تم|تن|تى|تي|ثر|ثز|ثم|ثن|ثى|ثي"),
    (0xFC7C, "فى|في|قى|قي|كا|كل|كم|كى|كي|لم|لى|لي|ما|مم|نر|نز|نم|نن|نى|ني|ىٰ|ير|يز"),
    (0xFC93, "يم|ين|يى|يي|ئج|ئح|ئخ|ئم|ئه|بج|بح|بخ|بم|به|تج|تح|تخ|تم|ته|ثم|جح|جم|حج"),
    (0xFCAA, "حم|خج|خم|سج|سح|سخ|سم|صح|صخ|صم|ضج|ضح|ضخ|ضم|طح|ظم|عج|عم|غج|غم|فج|فح|فخ"),
    (0xFCC1, "فم|قح|قم|كج|كح|كخ|كل|كم|لج|لح|لخ|لم|له|مج|مح|مخ|مم|نج|نح|نخ|نم|نه|هج"),
    (0xFCD8, "هم|هٰ|يج|يح|يخ|يم|يه|ئم|ئه|بم|به|تم|ته|ثم|ثه|سم|سه|شم|شه|كل|كم|لم|نم"),
    (0xFCEF, "نه|يم|يه|ـَّ|ـُّ|ـِّ|طى|طي|عى|عي|غى|غي|سى|سي|شى|شي|حى|حي|جى|جي|خى|خي"),
    (0xFD05, "صى|صي|ضى|ضي|شج|شح|شخ|شم|شر|سر|صر|ضر|طى|طي|عى|عي|غى|غي|سى|سي|شى|شي|حى"),
    (0xFD1C, "حي|جى|جي|خى|خي|صى|صي|ضى|ضي|شج|شح|شخ|شم|شر|سر|صر|ضر|شج|شح|شخ|شم|سه|شه"),
    (0xFD33, "طم|سج|سح|سخ|شج|شح|شخ|طم|ظم|اً|اً"),
    (0xFD50, "تجم|تحج|تحج|تحم|تخم|تمج|تمح|تمخ|جمح|جمح|حمي|حمى|سحج|سجح|سجى|سمح|سمح"),
    (0xFD61, "سمج|سمم|سمم|صحح|صحح|صمم|شحم|شحم|شجي|شمخ|شمخ|شمم|شمم|ضحى|ضخم|ضخم|طمح"),
    (0xFD72, "طمح|طمم|طمي|عجم|عمم|عمم|عمى|غمم|غمي|غمى|فخم|فخم|قمح|قمم|لحم|لحي|لحى"),
    (0xFD83, "لجج|لجج|لخم|لخم|لمح|لمح|محج|محم|محي|مجح|مجم|مخج|مخم|﶐|﶑|مجخ|همج|همم"),
    (0xFD95, "نحم|نحى|نجم|نجم|نجى|نمي|نمى|يمم|يمم|بخي|تجي|تجى|تخي|تخى|تمي|تمى|جمي"),
    (0xFDA6, "جحى|جمى|سخى|صحي|شحي|ضحي|لجي|لمي|يحي|يجي|يمي|ممي|قمي|نحي|قمح|لحم|عمي"),
    (0xFDB7, "كمي|نجح|مخي|لجم|كمم|لجم|نجح|جحي|حجي|مجي|فمي|بحي|كمم|عجم|صمم|سخي|نجي"),
    (0xFDF0, "صلے|قلے|الله|اكبر|محمد|صلعم|رسول|عليه|وسلم|صلى|صلى الله عليه وسلم"),
    (0xFDFB, "جل جلاله|ریال"), (0xFE10, ",|、|。|:|;|!|?|〖|〗|..."),
    (0xFE30, "..|—|–|_|_|(|)|\x7b|\x7d|〔|〕|【|】|《|》|〈|〉"),
    (0xFE47, "[|]| ̅| ̅| ̅| ̅|_|_|_|,|、|.|﹓|;|:|?|!|—|(|)|\x7b|\x7d|〔|〕|#|&|*|+|-|<|>|=|﹧|\x5c"),
    (0xFE69, "$|%|@"),
    (0xFE70, " ً|ـً| ٌ|ﹳ| ٍ|﹵| َ|ـَ| ُ|ـُ| ِ|ـِ| ّ|ـّ| ْ|ـْ|ء|آ|آ|أ|أ|ؤ|ؤ|إ|إ|ئ|ئ|ئ"),
    (0xFE8C, "ئ|ا|ا|ب|ب|ب|ب|ة|ة|ت|ت|ت|ت|ث|ث|ث|ث|ج|ج|ج|ج|ح|ح|ح|ح|خ|خ|خ|خ|د|د|ذ|ذ|ر|ر"),
    (0xFEAF, "ز|ز|س|س|س|س|ش|ش|ش|ش|ص|ص|ص|ص|ض|ض|ض|ض|ط|ط|ط|ط|ظ|ظ|ظ|ظ|ع|ع|ع|ع|غ|غ|غ|غ|ف"),
    (0xFED2, "ف|ف|ف|ق|ق|ق|ق|ك|ك|ك|ك|ل|ل|ل|ل|م|م|م|م|ن|ن|ن|ن|ه|ه|ه|ه|و|و|ى|ى|ي|ي|ي|ي"),
    (0xFEF5, "لآ|لآ|لأ|لأ|لإ|لإ|لا|لا"),
    (0xFF5F, "⦅|⦆|.|「|」|、|・|ヲ|ァ|ィ|ゥ|ェ|ォ|ャ|ュ|ョ|ッ|ー|ア|イ|ウ|エ|オ|カ|キ|ク|ケ|コ|サ|シ|ス|セ|ソ|タ|チ"),
    (0xFF82, "ツ|テ|ト"), (0xFF8B, "ヒ|フ|ヘ|ホ"), (0xFF94, "ヤ|ユ"), (0xFF9C, "ワ|ン|゙|゚|ﾠ|ᄀ|ᄁ|ᆪ|ᄂ|ᆬ|ᆭ"),
    (0xFFB0, "ᄚ|ᄆ|ᄇ|ᄈ|ᄡ"), (0xFFE0, "¢|£|¬| ̄|¦|¥|₩|￧|│"), (0xFFED, "■|○"), (0x10595, "𐖼"),
    (0x10781, "ː|ˑ|æ|ʙ|ɓ|𐞆|ʣ|ꭦ|ʥ|ʤ|ɖ|ɗ|ᶑ|ɘ|ɞ|ʩ|ɤ|ɢ|ɠ|ʛ|ħ|ʜ|ɧ|ʄ|ʪ|ʫ|ɬ|𝼄|ꞎ|ɮ|𝼅|ʎ|𝼆|ø|ɶ"),
    (0x107A4, "ɷ|q|ɺ|𝼈|ɽ|ɾ|ʀ|ʨ|ʦ|ꭧ|ʧ|ʈ|ⱱ|𐞱|ʏ|ʡ|ʢ|ʘ|ǀ|ǁ|ǂ|𝼊|𝼞"),
    (0x1D15E, "𝅗𝅥|𝅘𝅥|𝅘𝅥𝅮|𝅘𝅥𝅯|𝅘𝅥𝅰|𝅘𝅥𝅱|𝅘𝅥𝅲"), (0x1D1BB, "𝆹𝅥|𝆺𝅥|𝆹𝅥𝅮|𝆺𝅥𝅮|𝆹𝅥𝅯|𝆺𝅥𝅯"),
    (0x1D49C, "a|𝒝|c|d|𝒠|𝒡|g|𝒣|𝒤|j|k"), (0x1D504, "a|b|𝔆|d|e|f|g"), (0x1D538, "a"),
    (0x1D541, "j|k|l"), (0x1D6A4, "ı|ȷ"), (0x1D6B9, "θ"), (0x1D6C1, "∇"), (0x1D6D3, "σ"),
    (0x1D6DB, "∂|ε|θ|κ|φ|ρ|π"), (0x1D6F3, "θ"), (0x1D6FB, "∇"), (0x1D70D, "σ"),
    (0x1D715, "∂|ε|θ|κ|φ|ρ|π"), (0x1D72D, "θ"), (0x1D735, "∇"), (0x1D747, "σ"),
    (0x1D74F, "∂|ε|θ|κ|φ|ρ|π"), (0x1D767, "θ"), (0x1D76F, "∇"), (0x1D781, "σ"),
    (0x1D789, "∂|ε|θ|κ|φ|ρ|π"), (0x1D7A1, "θ"), (0x1D7A9, "∇"), (0x1D7BB, "σ"),
    (0x1D7C3, "∂|ε|θ|κ|φ|ρ|π|ϝ|ϝ"), (0x1DF95, "ss"), (0x1E047, "ы|э|ю|ꚉ|ә|і|ј|ө|ү|ӏ"),
    (0x1E05A, "к|л|о|п|с"), (0x1E065, "ъ|ы|ґ|і|ѕ|џ|ҫ|ꙑ|ұ"), (0x1EE00, "ا|ب|ج|د|𞸄|و|ز|ح|ط|ي"),
    (0x1EE0E, "س|ع|ف|ص|ق|ر|ش|ت|ث|خ|ذ|ض|ظ|غ|ٮ|ں|ڡ|ٯ|𞸠|ب|ج|𞸣|ه|𞸥|𞸦|ح|𞸨|ي"),
    (0x1EE2E, "س|ع|ف|ص|ق|𞸳|ش|ت|ث|خ|𞸸|ض|𞸺|غ"), (0x1EE42, "ج"),
    (0x1EE47, "ح|𞹈|ي|𞹊|ل|𞹌|ن|س|ع|𞹐|ص|ق|𞹓|ش|𞹕|𞹖|خ|𞹘|ض|𞹚|غ|𞹜|ں|𞹞|ٯ|𞹠|ب|ج|𞹣|ه|𞹥|𞹦|ح|ط|ي"),
    (0x1EE6A, "ك|𞹫|م|ن|س|ع|ف|ص|ق|𞹳|ش|ت|ث|خ|𞹸|ض|ظ|غ|ٮ|𞹽|ڡ|𞹿|ا|ب|ج|د|ه|و|ز|ح|ط|ي"),
    (0x1EE8E, "س|ع|ف|ص|ق|ر|ش|ت|ث|خ|ذ|ض|ظ|غ"), (0x1EEA1, "ب|ج|د|𞺤|و|ز|ح|ط|ي"),
    (0x1EEAE, "س|ع|ف|ص|ق|ر|ش|ت|ث|خ|ذ|ض|ظ|غ"), (0x1F100, "0.|0,|1,|2,|3,|4,|5,|6,|7,|8,|9,"),
    (0x1F110, "(a)|(b)|(c)|(d)|(e)|(f)|(g)|(h)|(i)|(j)|(k)|(l)|(m)|(n)|(o)|(p)|(q)"),
    (0x1F121, "(r)|(s)|(t)|(u)|(v)|(w)|(x)|(y)|(z)|〔s〕|c|r|cd|wz"), (0x1F14A, "hv|mv|sd|ss|ppv|wc"),
    (0x1F16A, "mc|md|mr"), (0x1F190, "dj"), (0x1F200, "ほか|ココ|サ"),
    (0x1F210, "手|字|双|デ|二|多|解|天|交|映|無|料|前|後|再|新|初|終|生|販|声|吹|演|投|捕|一|三|遊|左|中|右|指|走|打|禁"),
    (0x1F233, "空|合|満|有|月|申|割|営|配"), (0x1F240, "〔本〕|〔三〕|〔二〕|〔安〕|〔点〕|〔打〕|〔盗〕|〔勝〕|〔敗〕"),
    (0x1F250, "得|可"),
    (0x2F800, "丽|丸|乁|𠄢|你|侮|侻|倂|偺|備|僧|像|㒞|𠘺|免|兔|兤|具|𠔜|㒹|內|再|𠕋|冗|冤|仌|冬|况|𩇟|凵|刃|㓟|刻|剆|割"),
    (0x2F823, "剷|㔕|勇|勉|勤|勺|包|匆|北|卉|卑|博|即|卽|卿|卿|卿|𠨬|灰|及|叟|𠭣|叫|叱|吆|咞|吸|呈|周|咢|哶|唐|啓|啣|善"),
    (0x2F846, "善|喙|喫|喳|嗂|圖|嘆|圗|噑|噴|切|壮|城|埴|堍|型|堲|報|墬|𡓤|売|壷|夆|多|夢|奢|𡚨|𡛪|姬|娛|娧|姘|婦|㛮|㛼"),
    (0x2F869, "嬈|嬾|嬾|𡧈|寃|寘|寧|寳|𡬘|寿|将|当|尢|㞁|屠|屮|峀|岍|𡷤|嵃|𡷦|嵮|嵫|嵼|巡|巢|㠯|巽|帨|帽|幩|㡢|𢆃|㡼|庰"),
    (0x2F88C, "庳|庶|廊|𪎒|廾|𢌱|𢌱|舁|弢|弢|㣇|𣊸|𦇚|形|彫|㣣|徚|忍|志|忹|悁|㤺|㤜|悔|𢛔|惇|慈|慌|慎|慌|慺|憎|憲|憤|憯"),
    (0x2F8AF, "懞|懲|懶|成|戛|扝|抱|拔|捐|𢬌|挽|拼|捨|掃|揤|𢯱|搢|揅|掩|㨮|摩|摾|撝|摷|㩬|敏|敬|𣀊|旣|書|晉|㬙|暑|㬈|㫤"),
    (0x2F8D2, "冒|冕|最|暜|肭|䏙|朗|望|朡|杞|杓|𣏃|㭉|柺|枅|桒|梅|𣑭|梎|栟|椔|㮝|楂|榣|槪|檨|𣚣|櫛|㰘|次|𣢧|歔|㱎|歲|殟"),
    (0x2F8F5, "殺|殻|𣪍|𡴋|𣫺|汎|𣲼|沿|泍|汧|洖|派|海|流|浩|浸|涅|𣴞|洴|港|湮|㴳|滋|滇|𣻑|淹|潮|𣽞|𣾎|濆|瀹|瀞|瀛|㶖|灊"),
    (0x2F918, "災|灷|炭|𠔥|煅|𤉣|熜|𤎫|爨|爵|牐|𤘈|犀|犕|𤜵|𤠔|獺|王|㺬|玥|㺸|㺸|瑇|瑜|瑱|璅|瓊|㼛|甤|𤰶|甾|𤲒|異|𢆟|瘐"),
    (0x2F93B, "𤾡|𤾸|𥁄|㿼|䀈|直|𥃳|𥃲|𥄙|𥄳|眞|真|真|睊|䀹|瞋|䁆|䂖|𥐝|硎|碌|磌|䃣|𥘦|祖|𥚚|𥛅|福|秫|䄯|穀|穊|穏|𥥼|𥪧"),
    (0x2F95E, "𥪧|竮|䈂|𥮫|篆|築|䈧|𥲀|糒|䊠|糨|糣|紀|𥾆|絣|䌁|緇|縂|繅|䌴|𦈨|𦉇|䍙|𦋙|罺|𦌾|羕|翺|者|𦓚|𦔣|聠|𦖨|聰|𣍟"),
    (0x2F981, "䏕|育|脃|䐋|脾|媵|𦞧|𦞵|𣎓|𣎜|舁|舄|辞|䑫|芑|芋|芝|劳|花|芳|芽|苦|𦬼|若|茝|荣|莭|茣|莽|菧|著|荓|菊|菌|菜"),
    (0x2F9A4, "𦰶|𦵫|𦳕|䔫|蓱|蓳|蔖|𧏊|蕤|𦼬|䕝|䕡|𦾱|𧃒|䕫|虐|虜|虧|虩|蚩|蚈|蜎|蛢|蝹|蜨|蝫|螆|䗗|蟡|蠁|䗹|衠|衣|𧙧|裗"),
    (0x2F9C7, "裞|䘵|裺|㒻|𧢮|𧥦|䚾|䛇|誠|諭|變|豕|𧲨|貫|賁|贛|起|𧼯|𠠄|跋|趼|跰|𠣞|軔|輸|𨗒|𨗭|邔|郱|鄑|𨜮|鄛|鈸|鋗|鋘"),
    (0x2F9EA, "鉼|鏹|鐕|𨯺|開|䦕|閷|𨵷|䧦|雃|嶲|霣|𩅅|𩈚|䩮|䩶|韠|𩐊|䪲|𩒖|頋|頋|頩|𩖶|飢|䬳|餩|馧|駂|駾|䯎|𩬰|鬒|鱀|鳽"),
    (0x2FA0D, "䳎|䳭|鵧|𪃎|䳸|𪄅|𪈎|𪊑|麻|䵖|黹|黾|鼅|鼏|鼖|鼻|𪘀")]

/-- Characters that folding drops: those that are not shown by default. -/
def ignoredRanges : List (Nat × Nat) :=
  [(0xAD, 0xAD), (0x34F, 0x34F), (0x61C, 0x61C), (0x115F, 0x1160), (0x17B4, 0x17B5),
    (0x180B, 0x180F), (0x200B, 0x200B), (0x200E, 0x200F), (0x202A, 0x202E), (0x2060, 0x206F),
    (0x3164, 0x3164), (0xFE00, 0xFE0F), (0xFEFF, 0xFEFF), (0xFFA0, 0xFFA0), (0xFFF0, 0xFFF8),
    (0x1BCA0, 0x1BCA3), (0x1D173, 0x1D17A), (0xE0000, 0xE0FFF)]

end RegistryBench.Text
