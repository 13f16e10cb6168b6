import SchemaGate.Number.Shortest

/-!
# `SchemaGate.Number.Basic`: JSON numbers

A JSON number keeps the form in which it was read: an integer that fits 64 bits, signed or
unsigned, or a binary64 value. `Number.compare` orders numbers by their exact value across the two
forms, so `1` and `1.0` are equal as values though not as representations.
-/

set_option autoImplicit false

namespace SchemaGate

attribute [local instance] corePow

/-- A JSON number. -/
inductive Number
  /-- An integer of at most 64 bits, signed or unsigned. -/
  | integer (value : Int) (inRange : -2 ^ (63 : Nat) ≤ value ∧ value < 2 ^ (64 : Nat))
  /-- Any other number. -/
  | float (value : Binary64)
  deriving DecidableEq, Repr

namespace Number

/-- The integer form of a value, if it fits 64 bits. -/
def ofInt? (n : Int) : Option Number :=
  if h : -2 ^ (63 : Nat) ≤ n ∧ n < 2 ^ (64 : Nat) then some (.integer n h) else none

instance : Inhabited Number := ⟨.integer 0 (by decide)⟩

/-- The number zero in integer form. -/
def zero : Number := .integer 0 (by decide)

/-- The exact value as an integer times a power of two. -/
def toDyadic : Number → Int × Int
  | .integer n _ => (n, 0)
  | .float x => x.toDyadic

/-- The order of the exact values. -/
def compare (x y : Number) : Ordering :=
  let (a, p) := x.toDyadic
  let (b, q) := y.toDyadic
  let low := min p q
  Ord.compare (a * 2 ^ (p - low).toNat) (b * 2 ^ (q - low).toNat)

/-- Whether two numbers have the same exact value. -/
def equal (x y : Number) : Bool := x.compare y == .eq

/-- Whether the first value is less than the second. -/
def less (x y : Number) : Bool := x.compare y == .lt

/-- The nearest binary64 value. -/
def toBinary64 : Number → Binary64
  | .integer n _ => .ofInt n
  | .float x => x

/-- Whether the exact value is an integer. -/
def isIntegral : Number → Bool
  | .integer _ _ => true
  | .float x => x.isIntegral

/-- Whether the number was read as an integer. -/
def isInteger : Number → Bool
  | .integer _ _ => true
  | .float _ => false

/-- The integer, if the number was read as one and is not negative. -/
def toNat? : Number → Option Nat
  | .integer n _ => if 0 ≤ n then some n.toNat else none
  | .float _ => none

/-- The text of a number: integers in decimal, floats in their shortest form. -/
def write : Number → String
  | .integer n _ => toString n
  | .float x => x.write .json

end Number

end SchemaGate
