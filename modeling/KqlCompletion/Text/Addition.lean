import KqlCompletion.Text.CodeRange

/-! Letters, digits and marks that the standard has had only since version 14. The character
database of that version, which composition, directions and marks are taken from, does not know
them. -/
namespace KqlCompletion.Text

def additions : List CodeRange := [
  (0x5C8, 0x5C9), (0x88F, 0x88F), (0x897, 0x897), (0xB53, 0xB54), (0xC5C, 0xC5C), (0xCDC, 0xCDC),
  (0xCF3, 0xCF3), (0xECE, 0xECE), (0x1ACF, 0x1AF0), (0x1C8A, 0x1C8A), (0x208F, 0x208F),
  (0xA7CD, 0xA7CD), (0xA7CF, 0xA7CF), (0xA7DB, 0xA7DB), (0x105C0, 0x105F3), (0x10940, 0x10959),
  (0x10D40, 0x10D4F), (0x10D69, 0x10D6D), (0x10D6F, 0x10D85), (0x10EC2, 0x10EC7),
  (0x10ECB, 0x10ECF), (0x10ED9, 0x10EEE), (0x10EF0, 0x10EFF), (0x1123F, 0x11241),
  (0x11380, 0x11389), (0x1138B, 0x1138B), (0x1138E, 0x1138E), (0x11390, 0x113B5),
  (0x113B7, 0x113C0), (0x113C2, 0x113C2), (0x113C5, 0x113C5), (0x113C7, 0x113CA),
  (0x113CC, 0x113D3), (0x113E1, 0x113E2), (0x116D0, 0x116E3), (0x11B0A, 0x11B0A),
  (0x11B60, 0x11B67), (0x11BC0, 0x11BE0), (0x11BF0, 0x11BF9), (0x11DB0, 0x11DDB),
  (0x11DE0, 0x11DE9), (0x11DF0, 0x11DF1), (0x11F00, 0x11F10), (0x11F12, 0x11F3A),
  (0x11F3E, 0x11F42), (0x11F50, 0x11F5A), (0x1342F, 0x1342F), (0x13440, 0x13455),
  (0x13460, 0x143FA), (0x16100, 0x16139), (0x16D40, 0x16D6C), (0x16D70, 0x16D79),
  (0x16EBB, 0x16ED3), (0x16FF2, 0x16FF3), (0x187F8, 0x187FF), (0x18CD6, 0x18CDA),
  (0x18CFF, 0x18CFF), (0x18D09, 0x18D20), (0x18D80, 0x18DF2), (0x18E00, 0x19191),
  (0x191A0, 0x191D2), (0x1B127, 0x1B128), (0x1B132, 0x1B132), (0x1B155, 0x1B155),
  (0x1B168, 0x1B168), (0x1D250, 0x1D252), (0x1D25B, 0x1D25C), (0x1D25F, 0x1D25F),
  (0x1D280, 0x1D281), (0x1DF1F, 0x1DF3F), (0x1DF41, 0x1DF47), (0x1DF49, 0x1DF49),
  (0x1DF4E, 0x1DF50), (0x1DF52, 0x1DF67), (0x1DF77, 0x1DF77), (0x1DF79, 0x1DF79),
  (0x1DF7B, 0x1DF7B), (0x1DF7D, 0x1DF7D), (0x1DF90, 0x1DF94), (0x1DF96, 0x1DF96),
  (0x1E08F, 0x1E08F), (0x1E4D0, 0x1E4F9), (0x1E5D0, 0x1E5FA), (0x1E6C0, 0x1E6DE),
  (0x1E6E0, 0x1E6F5), (0x1E6FE, 0x1E6FF), (0x2B739, 0x2B73F), (0x2B81E, 0x2B81E),
  (0x2CEA2, 0x2CEAD), (0x2EBF0, 0x2EE5D), (0x31350, 0x33479), (0x3D000, 0x3FC3F)]

def isAddition (code : Nat) : Bool := inRanges additions code

/-- The database knows the ideographs of Tangut, but not their names. -/
def tangut : List CodeRange := [(0x17000, 0x187F7), (0x18D00, 0x18D08)]

def isNameless (code : Nat) : Bool := isAddition code || inRanges tangut code

end KqlCompletion.Text
