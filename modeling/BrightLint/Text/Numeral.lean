import BrightLint.Text.Ranges

/-!
Digits and other numerals: `isDigit` holds of the decimal digits of every script (category `Nd`),
`isNumeral` also of superscripts, fractions, Roman numerals and the like (Unicode 14).
The tables hold the characters outside ASCII.
-/

namespace BrightLint.Text

/-- The decimal digits from U+0080 on. -/
def digitRanges : Ranges :=
  [(0x660, 0x669, 1), (0x6F0, 0x6F9, 1), (0x7C0, 0x7C9, 1), (0x966, 0x96F, 1), (0x9E6, 0x9EF, 1),
   (0xA66, 0xA6F, 1), (0xAE6, 0xAEF, 1), (0xB66, 0xB6F, 1), (0xBE6, 0xBEF, 1), (0xC66, 0xC6F, 1),
   (0xCE6, 0xCEF, 1), (0xD66, 0xD6F, 1), (0xDE6, 0xDEF, 1), (0xE50, 0xE59, 1), (0xED0, 0xED9, 1),
   (0xF20, 0xF29, 1), (0x1040, 0x1049, 1), (0x1090, 0x1099, 1), (0x17E0, 0x17E9, 1),
   (0x1810, 0x1819, 1), (0x1946, 0x194F, 1), (0x19D0, 0x19D9, 1), (0x1A80, 0x1A89, 1),
   (0x1A90, 0x1A99, 1), (0x1B50, 0x1B59, 1), (0x1BB0, 0x1BB9, 1), (0x1C40, 0x1C49, 1),
   (0x1C50, 0x1C59, 1), (0xA620, 0xA629, 1), (0xA8D0, 0xA8D9, 1), (0xA900, 0xA909, 1),
   (0xA9D0, 0xA9D9, 1), (0xA9F0, 0xA9F9, 1), (0xAA50, 0xAA59, 1), (0xABF0, 0xABF9, 1),
   (0xFF10, 0xFF19, 1), (0x104A0, 0x104A9, 1), (0x10D30, 0x10D39, 1), (0x11066, 0x1106F, 1),
   (0x110F0, 0x110F9, 1), (0x11136, 0x1113F, 1), (0x111D0, 0x111D9, 1), (0x112F0, 0x112F9, 1),
   (0x11450, 0x11459, 1), (0x114D0, 0x114D9, 1), (0x11650, 0x11659, 1), (0x116C0, 0x116C9, 1),
   (0x11730, 0x11739, 1), (0x118E0, 0x118E9, 1), (0x11950, 0x11959, 1), (0x11C50, 0x11C59, 1),
   (0x11D50, 0x11D59, 1), (0x11DA0, 0x11DA9, 1), (0x16A60, 0x16A69, 1), (0x16AC0, 0x16AC9, 1),
   (0x16B50, 0x16B59, 1), (0x1D7CE, 0x1D7FF, 1), (0x1E140, 0x1E149, 1), (0x1E2F0, 0x1E2F9, 1),
   (0x1E950, 0x1E959, 1), (0x1FBF0, 0x1FBF9, 1)]

/-- The characters from U+0080 on that have a numeric value and are not letters. -/
def numeralRanges : Ranges :=
  [(0xB2, 0xB3, 1), (0xB9, 0xB9, 1), (0xBC, 0xBE, 1), (0x660, 0x669, 1), (0x6F0, 0x6F9, 1),
   (0x7C0, 0x7C9, 1), (0x966, 0x96F, 1), (0x9E6, 0x9EF, 1), (0x9F4, 0x9F9, 1), (0xA66, 0xA6F, 1),
   (0xAE6, 0xAEF, 1), (0xB66, 0xB6F, 1), (0xB72, 0xB77, 1), (0xBE6, 0xBF2, 1), (0xC66, 0xC6F, 1),
   (0xC78, 0xC7E, 1), (0xCE6, 0xCEF, 1), (0xD58, 0xD5E, 1), (0xD66, 0xD78, 1), (0xDE6, 0xDEF, 1),
   (0xE50, 0xE59, 1), (0xED0, 0xED9, 1), (0xF20, 0xF33, 1), (0x1040, 0x1049, 1),
   (0x1090, 0x1099, 1), (0x1369, 0x137C, 1), (0x16EE, 0x16F0, 1), (0x17E0, 0x17E9, 1),
   (0x17F0, 0x17F9, 1), (0x1810, 0x1819, 1), (0x1946, 0x194F, 1), (0x19D0, 0x19DA, 1),
   (0x1A80, 0x1A89, 1), (0x1A90, 0x1A99, 1), (0x1B50, 0x1B59, 1), (0x1BB0, 0x1BB9, 1),
   (0x1C40, 0x1C49, 1), (0x1C50, 0x1C59, 1), (0x2070, 0x2070, 1), (0x2074, 0x2079, 1),
   (0x2080, 0x2089, 1), (0x2150, 0x2182, 1), (0x2185, 0x2189, 1), (0x2460, 0x249B, 1),
   (0x24EA, 0x24FF, 1), (0x2776, 0x2793, 1), (0x2CFD, 0x2CFD, 1), (0x3007, 0x3007, 1),
   (0x3021, 0x3029, 1), (0x3038, 0x303A, 1), (0x3192, 0x3195, 1), (0x3220, 0x3229, 1),
   (0x3248, 0x324F, 1), (0x3251, 0x325F, 1), (0x3280, 0x3289, 1), (0x32B1, 0x32BF, 1),
   (0xA620, 0xA629, 1), (0xA6E6, 0xA6EF, 1), (0xA830, 0xA835, 1), (0xA8D0, 0xA8D9, 1),
   (0xA900, 0xA909, 1), (0xA9D0, 0xA9D9, 1), (0xA9F0, 0xA9F9, 1), (0xAA50, 0xAA59, 1),
   (0xABF0, 0xABF9, 1), (0xFF10, 0xFF19, 1), (0x10107, 0x10133, 1), (0x10140, 0x10178, 1),
   (0x1018A, 0x1018B, 1), (0x102E1, 0x102FB, 1), (0x10320, 0x10323, 1), (0x10341, 0x10341, 1),
   (0x1034A, 0x1034A, 1), (0x103D1, 0x103D5, 1), (0x104A0, 0x104A9, 1), (0x10858, 0x1085F, 1),
   (0x10879, 0x1087F, 1), (0x108A7, 0x108AF, 1), (0x108FB, 0x108FF, 1), (0x10916, 0x1091B, 1),
   (0x109BC, 0x109BD, 1), (0x109C0, 0x109CF, 1), (0x109D2, 0x109FF, 1), (0x10A40, 0x10A48, 1),
   (0x10A7D, 0x10A7E, 1), (0x10A9D, 0x10A9F, 1), (0x10AEB, 0x10AEF, 1), (0x10B58, 0x10B5F, 1),
   (0x10B78, 0x10B7F, 1), (0x10BA9, 0x10BAF, 1), (0x10CFA, 0x10CFF, 1), (0x10D30, 0x10D39, 1),
   (0x10E60, 0x10E7E, 1), (0x10F1D, 0x10F26, 1), (0x10F51, 0x10F54, 1), (0x10FC5, 0x10FCB, 1),
   (0x11052, 0x1106F, 1), (0x110F0, 0x110F9, 1), (0x11136, 0x1113F, 1), (0x111D0, 0x111D9, 1),
   (0x111E1, 0x111F4, 1), (0x112F0, 0x112F9, 1), (0x11450, 0x11459, 1), (0x114D0, 0x114D9, 1),
   (0x11650, 0x11659, 1), (0x116C0, 0x116C9, 1), (0x11730, 0x1173B, 1), (0x118E0, 0x118F2, 1),
   (0x11950, 0x11959, 1), (0x11C50, 0x11C6C, 1), (0x11D50, 0x11D59, 1), (0x11DA0, 0x11DA9, 1),
   (0x11FC0, 0x11FD4, 1), (0x12400, 0x1246E, 1), (0x16A60, 0x16A69, 1), (0x16AC0, 0x16AC9, 1),
   (0x16B50, 0x16B59, 1), (0x16B5B, 0x16B61, 1), (0x16E80, 0x16E96, 1), (0x1D2E0, 0x1D2F3, 1),
   (0x1D360, 0x1D378, 1), (0x1D7CE, 0x1D7FF, 1), (0x1E140, 0x1E149, 1), (0x1E2F0, 0x1E2F9, 1),
   (0x1E8C7, 0x1E8CF, 1), (0x1E950, 0x1E959, 1), (0x1EC71, 0x1ECAB, 1), (0x1ECAD, 0x1ECAF, 1),
   (0x1ECB1, 0x1ECB4, 1), (0x1ED01, 0x1ED2D, 1), (0x1ED2F, 0x1ED3D, 1), (0x1F100, 0x1F10C, 1),
   (0x1FBF0, 0x1FBF9, 1)]

/-- Whether a character is a decimal digit of any script. -/
def isDigit (c : Char) : Bool :=
  if c.toNat < 0x80 then c.isDigit else digitRanges.has c.toNat

/-- Whether a character is a numeral of any script and not a letter. -/
def isNumeral (c : Char) : Bool :=
  if c.toNat < 0x80 then c.isDigit else numeralRanges.has c.toNat

end BrightLint.Text
