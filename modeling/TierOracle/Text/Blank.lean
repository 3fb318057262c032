import TierOracle.Text.CharRanges

namespace TierOracle.Text.Blank

/-- The property White_Space of Unicode 17. -/
def ranges : CharRanges := [
  (0x9, 0xD), (0x20, 0x20), (0x85, 0x85), (0xA0, 0xA0), (0x1680, 0x1680), (0x2000, 0x200A),
  (0x2028, 0x2029), (0x202F, 0x202F), (0x205F, 0x205F), (0x3000, 0x3000)]

def holds (c : Char) : Bool := ranges.cover c

/-- A text without the white space around it. -/
def trim (cs : List Char) : List Char :=
  ((cs.dropWhile holds).reverse.dropWhile holds).reverse

end TierOracle.Text.Blank
