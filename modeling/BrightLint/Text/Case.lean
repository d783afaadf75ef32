import BrightLint.Text.Ranges

/-!
The case of a character: the Unicode properties `Lowercase` and `Uppercase` and the category `Lt`
(Unicode 14). The tables hold the characters outside ASCII.
-/

namespace BrightLint.Text

/-- The lower-case characters from U+0080 on. -/
def lowerRanges : Ranges :=
  [(0xAA, 0xAA, 1), (0xB5, 0xB5, 1), (0xBA, 0xBA, 1), (0xDF, 0xF6, 1), (0xF8, 0xFF, 1),
   (0x101, 0x137, 2), (0x138, 0x148, 2), (0x149, 0x177, 2), (0x17A, 0x17E, 2), (0x17F, 0x180, 1),
   (0x183, 0x185, 2), (0x188, 0x188, 1), (0x18C, 0x18D, 1), (0x192, 0x192, 1), (0x195, 0x195, 1),
   (0x199, 0x19B, 1), (0x19E, 0x19E, 1), (0x1A1, 0x1A5, 2), (0x1A8, 0x1A8, 1), (0x1AA, 0x1AB, 1),
   (0x1AD, 0x1AD, 1), (0x1B0, 0x1B0, 1), (0x1B4, 0x1B6, 2), (0x1B9, 0x1BA, 1), (0x1BD, 0x1BF, 1),
   (0x1C6, 0x1C6, 1), (0x1C9, 0x1C9, 1), (0x1CC, 0x1DC, 2), (0x1DD, 0x1EF, 2), (0x1F0, 0x1F0, 1),
   (0x1F3, 0x1F5, 2), (0x1F9, 0x233, 2), (0x234, 0x239, 1), (0x23C, 0x23C, 1), (0x23F, 0x240, 1),
   (0x242, 0x242, 1), (0x247, 0x24F, 2), (0x250, 0x293, 1), (0x295, 0x2B8, 1), (0x2C0, 0x2C1, 1),
   (0x2E0, 0x2E4, 1), (0x345, 0x345, 1), (0x371, 0x373, 2), (0x377, 0x377, 1), (0x37A, 0x37D, 1),
   (0x390, 0x390, 1), (0x3AC, 0x3CE, 1), (0x3D0, 0x3D1, 1), (0x3D5, 0x3D7, 1), (0x3D9, 0x3EF, 2),
   (0x3F0, 0x3F3, 1), (0x3F5, 0x3F5, 1), (0x3F8, 0x3F8, 1), (0x3FB, 0x3FC, 1), (0x430, 0x45F, 1),
   (0x461, 0x481, 2), (0x48B, 0x4BF, 2), (0x4C2, 0x4CE, 2), (0x4CF, 0x52F, 2), (0x560, 0x588, 1),
   (0x10D0, 0x10FA, 1), (0x10FD, 0x10FF, 1), (0x13F8, 0x13FD, 1), (0x1C80, 0x1C88, 1),
   (0x1D00, 0x1DBF, 1), (0x1E01, 0x1E95, 2), (0x1E96, 0x1E9D, 1), (0x1E9F, 0x1EFF, 2),
   (0x1F00, 0x1F07, 1), (0x1F10, 0x1F15, 1), (0x1F20, 0x1F27, 1), (0x1F30, 0x1F37, 1),
   (0x1F40, 0x1F45, 1), (0x1F50, 0x1F57, 1), (0x1F60, 0x1F67, 1), (0x1F70, 0x1F7D, 1),
   (0x1F80, 0x1F87, 1), (0x1F90, 0x1F97, 1), (0x1FA0, 0x1FA7, 1), (0x1FB0, 0x1FB4, 1),
   (0x1FB6, 0x1FB7, 1), (0x1FBE, 0x1FBE, 1), (0x1FC2, 0x1FC4, 1), (0x1FC6, 0x1FC7, 1),
   (0x1FD0, 0x1FD3, 1), (0x1FD6, 0x1FD7, 1), (0x1FE0, 0x1FE7, 1), (0x1FF2, 0x1FF4, 1),
   (0x1FF6, 0x1FF7, 1), (0x2071, 0x2071, 1), (0x207F, 0x207F, 1), (0x2090, 0x209C, 1),
   (0x210A, 0x210A, 1), (0x210E, 0x210F, 1), (0x2113, 0x2113, 1), (0x212F, 0x212F, 1),
   (0x2134, 0x2134, 1), (0x2139, 0x2139, 1), (0x213C, 0x213D, 1), (0x2146, 0x2149, 1),
   (0x214E, 0x214E, 1), (0x2170, 0x217F, 1), (0x2184, 0x2184, 1), (0x24D0, 0x24E9, 1),
   (0x2C30, 0x2C5F, 1), (0x2C61, 0x2C61, 1), (0x2C65, 0x2C66, 1), (0x2C68, 0x2C6C, 2),
   (0x2C71, 0x2C71, 1), (0x2C73, 0x2C74, 1), (0x2C76, 0x2C7D, 1), (0x2C81, 0x2CE3, 2),
   (0x2CE4, 0x2CE4, 1), (0x2CEC, 0x2CEE, 2), (0x2CF3, 0x2CF3, 1), (0x2D00, 0x2D25, 1),
   (0x2D27, 0x2D27, 1), (0x2D2D, 0x2D2D, 1), (0xA641, 0xA66D, 2), (0xA681, 0xA69B, 2),
   (0xA69C, 0xA69D, 1), (0xA723, 0xA72F, 2), (0xA730, 0xA731, 1), (0xA733, 0xA76F, 2),
   (0xA770, 0xA778, 1), (0xA77A, 0xA77C, 2), (0xA77F, 0xA787, 2), (0xA78C, 0xA78E, 2),
   (0xA791, 0xA791, 1), (0xA793, 0xA795, 1), (0xA797, 0xA7A9, 2), (0xA7AF, 0xA7AF, 1),
   (0xA7B5, 0xA7C3, 2), (0xA7C8, 0xA7CA, 2), (0xA7D1, 0xA7D9, 2), (0xA7F6, 0xA7F6, 1),
   (0xA7F8, 0xA7FA, 1), (0xAB30, 0xAB5A, 1), (0xAB5C, 0xAB68, 1), (0xAB70, 0xABBF, 1),
   (0xFB00, 0xFB06, 1), (0xFB13, 0xFB17, 1), (0xFF41, 0xFF5A, 1), (0x10428, 0x1044F, 1),
   (0x104D8, 0x104FB, 1), (0x10597, 0x105A1, 1), (0x105A3, 0x105B1, 1), (0x105B3, 0x105B9, 1),
   (0x105BB, 0x105BC, 1), (0x10780, 0x10780, 1), (0x10783, 0x10785, 1), (0x10787, 0x107B0, 1),
   (0x107B2, 0x107BA, 1), (0x10CC0, 0x10CF2, 1), (0x118C0, 0x118DF, 1), (0x16E60, 0x16E7F, 1),
   (0x1D41A, 0x1D433, 1), (0x1D44E, 0x1D454, 1), (0x1D456, 0x1D467, 1), (0x1D482, 0x1D49B, 1),
   (0x1D4B6, 0x1D4B9, 1), (0x1D4BB, 0x1D4BB, 1), (0x1D4BD, 0x1D4C3, 1), (0x1D4C5, 0x1D4CF, 1),
   (0x1D4EA, 0x1D503, 1), (0x1D51E, 0x1D537, 1), (0x1D552, 0x1D56B, 1), (0x1D586, 0x1D59F, 1),
   (0x1D5BA, 0x1D5D3, 1), (0x1D5EE, 0x1D607, 1), (0x1D622, 0x1D63B, 1), (0x1D656, 0x1D66F, 1),
   (0x1D68A, 0x1D6A5, 1), (0x1D6C2, 0x1D6DA, 1), (0x1D6DC, 0x1D6E1, 1), (0x1D6FC, 0x1D714, 1),
   (0x1D716, 0x1D71B, 1), (0x1D736, 0x1D74E, 1), (0x1D750, 0x1D755, 1), (0x1D770, 0x1D788, 1),
   (0x1D78A, 0x1D78F, 1), (0x1D7AA, 0x1D7C2, 1), (0x1D7C4, 0x1D7C9, 1), (0x1D7CB, 0x1D7CB, 1),
   (0x1DF00, 0x1DF09, 1), (0x1DF0B, 0x1DF1E, 1), (0x1E922, 0x1E943, 1)]

/-- The upper-case characters from U+0080 on. -/
def upperRanges : Ranges :=
  [(0xC0, 0xD6, 1), (0xD8, 0xDE, 1), (0x100, 0x136, 2), (0x139, 0x147, 2), (0x14A, 0x178, 2),
   (0x179, 0x17D, 2), (0x181, 0x182, 1), (0x184, 0x184, 1), (0x186, 0x187, 1), (0x189, 0x18B, 1),
   (0x18E, 0x191, 1), (0x193, 0x194, 1), (0x196, 0x198, 1), (0x19C, 0x19D, 1), (0x19F, 0x1A0, 1),
   (0x1A2, 0x1A6, 2), (0x1A7, 0x1A9, 2), (0x1AC, 0x1AC, 1), (0x1AE, 0x1AF, 1), (0x1B1, 0x1B3, 1),
   (0x1B5, 0x1B5, 1), (0x1B7, 0x1B8, 1), (0x1BC, 0x1BC, 1), (0x1C4, 0x1C4, 1), (0x1C7, 0x1C7, 1),
   (0x1CA, 0x1CA, 1), (0x1CD, 0x1DB, 2), (0x1DE, 0x1EE, 2), (0x1F1, 0x1F1, 1), (0x1F4, 0x1F4, 1),
   (0x1F6, 0x1F8, 1), (0x1FA, 0x232, 2), (0x23A, 0x23B, 1), (0x23D, 0x23E, 1), (0x241, 0x241, 1),
   (0x243, 0x246, 1), (0x248, 0x24E, 2), (0x370, 0x372, 2), (0x376, 0x376, 1), (0x37F, 0x37F, 1),
   (0x386, 0x386, 1), (0x388, 0x38A, 1), (0x38C, 0x38C, 1), (0x38E, 0x38F, 1), (0x391, 0x3A1, 1),
   (0x3A3, 0x3AB, 1), (0x3CF, 0x3CF, 1), (0x3D2, 0x3D4, 1), (0x3D8, 0x3EE, 2), (0x3F4, 0x3F4, 1),
   (0x3F7, 0x3F7, 1), (0x3F9, 0x3FA, 1), (0x3FD, 0x42F, 1), (0x460, 0x480, 2), (0x48A, 0x4C0, 2),
   (0x4C1, 0x4CD, 2), (0x4D0, 0x52E, 2), (0x531, 0x556, 1), (0x10A0, 0x10C5, 1),
   (0x10C7, 0x10C7, 1), (0x10CD, 0x10CD, 1), (0x13A0, 0x13F5, 1), (0x1C90, 0x1CBA, 1),
   (0x1CBD, 0x1CBF, 1), (0x1E00, 0x1E94, 2), (0x1E9E, 0x1EFE, 2), (0x1F08, 0x1F0F, 1),
   (0x1F18, 0x1F1D, 1), (0x1F28, 0x1F2F, 1), (0x1F38, 0x1F3F, 1), (0x1F48, 0x1F4D, 1),
   (0x1F59, 0x1F5F, 2), (0x1F68, 0x1F6F, 1), (0x1FB8, 0x1FBB, 1), (0x1FC8, 0x1FCB, 1),
   (0x1FD8, 0x1FDB, 1), (0x1FE8, 0x1FEC, 1), (0x1FF8, 0x1FFB, 1), (0x2102, 0x2102, 1),
   (0x2107, 0x2107, 1), (0x210B, 0x210D, 1), (0x2110, 0x2112, 1), (0x2115, 0x2115, 1),
   (0x2119, 0x211D, 1), (0x2124, 0x212A, 2), (0x212B, 0x212D, 1), (0x2130, 0x2133, 1),
   (0x213E, 0x213F, 1), (0x2145, 0x2145, 1), (0x2160, 0x216F, 1), (0x2183, 0x2183, 1),
   (0x24B6, 0x24CF, 1), (0x2C00, 0x2C2F, 1), (0x2C60, 0x2C60, 1), (0x2C62, 0x2C64, 1),
   (0x2C67, 0x2C6D, 2), (0x2C6E, 0x2C70, 1), (0x2C72, 0x2C72, 1), (0x2C75, 0x2C75, 1),
   (0x2C7E, 0x2C80, 1), (0x2C82, 0x2CE2, 2), (0x2CEB, 0x2CED, 2), (0x2CF2, 0x2CF2, 1),
   (0xA640, 0xA66C, 2), (0xA680, 0xA69A, 2), (0xA722, 0xA72E, 2), (0xA732, 0xA76E, 2),
   (0xA779, 0xA77D, 2), (0xA77E, 0xA786, 2), (0xA78B, 0xA78D, 2), (0xA790, 0xA792, 2),
   (0xA796, 0xA7AA, 2), (0xA7AB, 0xA7AE, 1), (0xA7B0, 0xA7B4, 1), (0xA7B6, 0xA7C4, 2),
   (0xA7C5, 0xA7C7, 1), (0xA7C9, 0xA7C9, 1), (0xA7D0, 0xA7D0, 1), (0xA7D6, 0xA7D8, 2),
   (0xA7F5, 0xA7F5, 1), (0xFF21, 0xFF3A, 1), (0x10400, 0x10427, 1), (0x104B0, 0x104D3, 1),
   (0x10570, 0x1057A, 1), (0x1057C, 0x1058A, 1), (0x1058C, 0x10592, 1), (0x10594, 0x10595, 1),
   (0x10C80, 0x10CB2, 1), (0x118A0, 0x118BF, 1), (0x16E40, 0x16E5F, 1), (0x1D400, 0x1D419, 1),
   (0x1D434, 0x1D44D, 1), (0x1D468, 0x1D481, 1), (0x1D49C, 0x1D49C, 1), (0x1D49E, 0x1D49F, 1),
   (0x1D4A2, 0x1D4A2, 1), (0x1D4A5, 0x1D4A6, 1), (0x1D4A9, 0x1D4AC, 1), (0x1D4AE, 0x1D4B5, 1),
   (0x1D4D0, 0x1D4E9, 1), (0x1D504, 0x1D505, 1), (0x1D507, 0x1D50A, 1), (0x1D50D, 0x1D514, 1),
   (0x1D516, 0x1D51C, 1), (0x1D538, 0x1D539, 1), (0x1D53B, 0x1D53E, 1), (0x1D540, 0x1D544, 1),
   (0x1D546, 0x1D546, 1), (0x1D54A, 0x1D550, 1), (0x1D56C, 0x1D585, 1), (0x1D5A0, 0x1D5B9, 1),
   (0x1D5D4, 0x1D5ED, 1), (0x1D608, 0x1D621, 1), (0x1D63C, 0x1D655, 1), (0x1D670, 0x1D689, 1),
   (0x1D6A8, 0x1D6C0, 1), (0x1D6E2, 0x1D6FA, 1), (0x1D71C, 0x1D734, 1), (0x1D756, 0x1D76E, 1),
   (0x1D790, 0x1D7A8, 1), (0x1D7CA, 0x1D7CA, 1), (0x1E900, 0x1E921, 1), (0x1F130, 0x1F149, 1),
   (0x1F150, 0x1F169, 1), (0x1F170, 0x1F189, 1)]

/-- The title-case letters. -/
def titleRanges : Ranges :=
  [(0x1C5, 0x1C5, 1), (0x1C8, 0x1C8, 1), (0x1CB, 0x1CB, 1), (0x1F2, 0x1F2, 1),
   (0x1F88, 0x1F8F, 1), (0x1F98, 0x1F9F, 1), (0x1FA8, 0x1FAF, 1), (0x1FBC, 0x1FBC, 1),
   (0x1FCC, 0x1FCC, 1), (0x1FFC, 0x1FFC, 1)]

/-- Whether a character is lower case. -/
def isLower (c : Char) : Bool :=
  if c.toNat < 0x80 then c.isLower else lowerRanges.has c.toNat

/-- Whether a character is upper case. -/
def isUpper (c : Char) : Bool :=
  if c.toNat < 0x80 then c.isUpper else upperRanges.has c.toNat

/-- Whether a character is a title-case letter. -/
def isTitle (c : Char) : Bool := titleRanges.has c.toNat

/-- A word is in small letters when it has one and no letter of another case. -/
def allSmall (w : List Char) : Bool :=
  w.all (fun c => !isUpper c && !isTitle c) && w.any isLower

/-- A word is in capitals when it has a capital and no letter of another case. -/
def allCapitals (w : List Char) : Bool :=
  w.all (fun c => !isLower c && !isTitle c) && w.any isUpper

end BrightLint.Text
