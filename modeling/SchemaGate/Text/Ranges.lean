/-!
# `SchemaGate.Text.Ranges`: classes of characters as tables

A class of characters is a list of ranges of code points, both ends included. The tables of this
folder are data of the Unicode standard.
-/

set_option autoImplicit false

namespace SchemaGate.Text

/-- Whether a code point lies in one of the ranges. -/
def inRanges (ranges : List (Nat × Nat)) (code : Nat) : Bool :=
  ranges.any fun (low, high) => low ≤ code && code ≤ high

end SchemaGate.Text
