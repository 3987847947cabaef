import Rewind.Unicode.Ranges

/-!
# White space

The characters with the White_Space property.
-/

namespace Rewind.Unicode

/-- The code points with the White_Space property. -/
def whiteSpaceRanges : Ranges := .mk [
  (0x9, 0xd), (0x20, 0x20), (0x85, 0x85), (0xa0, 0xa0), (0x1680, 0x1680), (0x2000, 0x200a),
  (0x2028, 0x2029), (0x202f, 0x202f), (0x205f, 0x205f), (0x3000, 0x3000)]

/-- A character with the White_Space property. -/
def isWhiteSpace (c : Char) : Bool :=
  whiteSpaceRanges.contains c.toNat

end Rewind.Unicode
