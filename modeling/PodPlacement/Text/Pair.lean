import PodPlacement.Text.Character

/-!
# Two bytes

Two bytes are too few to tell an encoding by.  They are two ASCII characters as long as both
are ordinary; else they are one character of UTF-16, if that is ordinary.
-/

namespace PodPlacement.Text

/-- The ranges of ordinary characters, as far as two ASCII characters make them: blanks,
letters, marks and digits, and the punctuation of data.  Characters that two ASCII characters
do not make are in some of the ranges too. -/
def ordinaryRanges : List (Nat × Nat) := [
  (0x9, 0xD), (0x1A, 0x1A), (0x1C, 0x20), (0x22, 0x22), (0x26, 0x26), (0x28, 0x29), (0x2C, 0x2D),
  (0x2F, 0x3E), (0x41, 0x5B), (0x5D, 0x5D), (0x61, 0x7D), (0x100, 0x374), (0x376, 0x377),
  (0x37A, 0x37D), (0x37F, 0x52F), (0x531, 0x556), (0x559, 0x559), (0x560, 0x57F), (0x610, 0x61A),
  (0x620, 0x669), (0x66E, 0x67F), (0x710, 0x74A), (0x74D, 0x82D), (0x840, 0x85B), (0x860, 0x86A),
  (0x870, 0x963), (0x966, 0x96F), (0x971, 0x97F), (0xA01, 0xA03), (0xA05, 0xA0A), (0xA0F, 0xA10),
  (0xA13, 0xA28), (0xA2A, 0xA30), (0xA32, 0xA33), (0xA35, 0xA36), (0xA38, 0xA39), (0xA3C, 0xA3C),
  (0xA3E, 0xA42), (0xA47, 0xA48), (0xA4B, 0xA4D), (0xA51, 0xA51), (0xA59, 0xA5C), (0xA5E, 0xA5E),
  (0xA66, 0xA75), (0xB01, 0xB03), (0xB05, 0xB0C), (0xB0F, 0xB10), (0xB13, 0xB28), (0xB2A, 0xB30),
  (0xB32, 0xB33), (0xB35, 0xB39), (0xB3C, 0xB44), (0xB47, 0xB48), (0xB4B, 0xB4D), (0xB55, 0xB57),
  (0xB5C, 0xB5D), (0xB5F, 0xB63), (0xB66, 0xB6F), (0xB71, 0xB71), (0xC00, 0xC0C), (0xC0E, 0xC10),
  (0xC12, 0xC28), (0xC2A, 0xC39), (0xC3C, 0xC44), (0xC46, 0xC48), (0xC4A, 0xC4D), (0xC55, 0xC56),
  (0xC58, 0xC5A), (0xC5D, 0xC5D), (0xC60, 0xC63), (0xC66, 0xC6F), (0xD00, 0xD0C), (0xD0E, 0xD10),
  (0xD12, 0xD44), (0xD46, 0xD48), (0xD4A, 0xD4E), (0xD54, 0xD57), (0xD5F, 0xD63), (0xD66, 0xD6F),
  (0xD7A, 0xD7F), (0xE01, 0xE3A), (0xE40, 0xE4E), (0xE50, 0xE59), (0xF00, 0xF00), (0xF18, 0xF19),
  (0xF20, 0xF29), (0xF35, 0xF35), (0xF37, 0xF37), (0xF39, 0xF39), (0xF3E, 0xF47), (0xF49, 0xF6C),
  (0xF71, 0x1049), (0x1050, 0x1248), (0x124A, 0x124D), (0x1250, 0x1256), (0x1258, 0x1258),
  (0x125A, 0x125D), (0x1260, 0x1310), (0x1312, 0x1315), (0x1318, 0x135A), (0x135D, 0x135F),
  (0x1369, 0x1371), (0x1401, 0x166C), (0x166F, 0x1715), (0x171F, 0x1734), (0x1740, 0x1753),
  (0x1760, 0x176C), (0x176E, 0x1770), (0x1772, 0x1773), (0x180B, 0x180D), (0x180F, 0x1819),
  (0x1820, 0x1878), (0x1900, 0x191E), (0x1920, 0x192B), (0x1930, 0x193B), (0x1946, 0x196D),
  (0x1970, 0x1974), (0x1A00, 0x1A1B), (0x1A20, 0x1A5E), (0x1A60, 0x1A7C), (0x1A7F, 0x1B4C),
  (0x1B50, 0x1B59), (0x1B6B, 0x1B73), (0x1C00, 0x1C37), (0x1C40, 0x1C49), (0x1C4D, 0x1C7D),
  (0x1D00, 0x1F15), (0x1F18, 0x1F1D), (0x1F20, 0x1F45), (0x1F48, 0x1F4D), (0x1F50, 0x1F57),
  (0x1F59, 0x1F59), (0x1F5B, 0x1F5B), (0x1F5D, 0x1F5D), (0x1F5F, 0x1F7D), (0x2000, 0x200A),
  (0x2028, 0x2029), (0x202F, 0x202F), (0x205F, 0x205F), (0x2070, 0x2071), (0x2074, 0x2079),
  (0x207F, 0x207F), (0x2102, 0x2102), (0x2107, 0x2107), (0x210A, 0x2113), (0x2115, 0x2115),
  (0x2119, 0x211D), (0x2124, 0x2124), (0x2126, 0x2126), (0x2128, 0x2128), (0x212A, 0x212D),
  (0x212F, 0x2139), (0x213C, 0x213F), (0x2145, 0x2149), (0x214E, 0x214E), (0x2460, 0x2468),
  (0x2474, 0x247C), (0x2776, 0x277E), (0x2C00, 0x2D25), (0x2D27, 0x2D27), (0x2D2D, 0x2D2D),
  (0x2D30, 0x2D67), (0x2D6F, 0x2D6F), (0x2D7F, 0x2D7F), (0x3000, 0x3000), (0x3041, 0x307F),
  (0x3105, 0x312F), (0x3131, 0x317F), (0x3400, 0x7F7F)]

def isOrdinary (c : Char) : Bool := inRanges ordinaryRanges c

/-- The text of two bytes below 128.  Of the two orders of the bytes of a character the one
with the highest first is preferred. -/
def decodePair (a b : Nat) : List Char :=
  let apart := [Char.ofNat a, Char.ofNat b]
  if apart.all isOrdinary then apart
  else
    match [Char.ofNat (256 * a + b), Char.ofNat (256 * b + a)].find? isOrdinary with
    | some c => [c]
    | none => apart

end PodPlacement.Text
