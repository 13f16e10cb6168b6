import SchemaGate.Text.Ranges

/-!
# `SchemaGate.Text.Blank`: white space

The property `White_Space`, and texts that hold nothing else.
-/

set_option autoImplicit false

namespace SchemaGate.Text

/-- The code points with the property `White_Space`. -/
def blankRanges : List (Nat × Nat) := [
  (0x9, 0xD), (0x20, 0x20), (0x85, 0x85), (0xA0, 0xA0), (0x1680, 0x1680), (0x2000, 0x200A),
  (0x2028, 0x2029), (0x202F, 0x202F), (0x205F, 0x205F), (0x3000, 0x3000)]

/-- Whether a character is white space. -/
def isBlank (c : Char) : Bool := inRanges blankRanges c.toNat

/-- Whether a text is empty once the white space at its ends is removed. -/
def allBlank (s : String) : Bool := s.toList.all isBlank

end SchemaGate.Text
