/-!
# `SchemaGate.Number.Binary64`: the finite binary64 numbers, exactly

JSON numbers with a point or an exponent are binary64 values. They are modelled here without
hardware floats: a value is a sign and a *rank*, the position of its magnitude in the increasing
list of all finite magnitudes (`0`, `2 ^ -1074`, ...). Every finite value has exactly one such
form, ranks order as magnitudes do, and rounding is integer arithmetic.

What the module offers:

- `Binary64.significand` and `Binary64.exponent`, the exact value as `significand * 2 ^ exponent`;
- `roundRatio`, a quotient of naturals rounded to the nearest magnitude, ties to even;
- `Binary64.ofDecimal?`, the value of a decimal literal;
- `Binary64.ofInt`, `Binary64.divide?`, `Binary64.distance`, the operations that keywords need.
-/

set_option autoImplicit false

namespace SchemaGate

/-- Powers as the core library has them, whatever algebra is in scope. -/
@[reducible]
def corePow {α : Type} [NatPow α] : Pow α Nat := instPowNat

attribute [local instance] corePow

/-- Ranks from here on lie beyond the largest finite magnitude. -/
def Binary64.rankBound : Nat := 2047 * 2 ^ (52 : Nat)

/-- A finite binary64 value: its sign and the rank of its magnitude. Zero has rank `0` and comes
in both signs. -/
structure Binary64 where
  /-- Whether the sign bit is set. -/
  negative : Bool
  /-- The position of the magnitude among all finite magnitudes. -/
  rank : Nat
  /-- Only finite magnitudes have a rank. -/
  rank_lt : rank < Binary64.rankBound
  deriving DecidableEq, Repr

namespace Binary64

/-- The integer factor of the magnitude: below `2 ^ 52` only for the smallest magnitudes. -/
def significand (x : Binary64) : Nat :=
  if x.rank < 2 ^ (52 : Nat) then x.rank else 2 ^ (52 : Nat) + x.rank % 2 ^ (52 : Nat)

/-- The power of two of the magnitude, at least `-1074`. -/
def exponent (x : Binary64) : Int :=
  if x.rank < 2 ^ (52 : Nat) then -1074 else (x.rank / 2 ^ (52 : Nat) : Nat) - 1 - 1074

/-- The value as a signed integer times a power of two. -/
def toDyadic (x : Binary64) : Int × Int :=
  (if x.negative then -(x.significand : Int) else x.significand, x.exponent)

/-- The value `+0`. -/
def zero : Binary64 := ⟨false, 0, by decide⟩

/-- The value with a given sign and rank, if the rank is that of a finite magnitude. -/
def ofRank? (negative : Bool) (rank : Nat) : Option Binary64 :=
  if h : rank < rankBound then some ⟨negative, rank, h⟩ else none

/-! ### Rounding -/

/-- A quotient rounded to the nearest integer, a half going to the even neighbour. -/
def divideToEven (num den : Nat) : Nat :=
  let q := num / den
  let r := num % den
  if 2 * r > den || (2 * r == den && q % 2 == 1) then q + 1 else q

/-- The exponent at which `num / den` has a significand of 53 bits, but never less than `-1074`.
Both arguments are positive. -/
def ratioExponent (num den : Nat) : Int :=
  let a := num.log2
  let b := den.log2
  -- The binary logarithm of the quotient is `a - b` or one less.
  let reaches := if b ≤ a then den * 2 ^ (a - b) ≤ num else den ≤ num * 2 ^ (b - a)
  let log : Int := if reaches then (a : Int) - b else (a : Int) - b - 1
  max (-1074) (log - 52)

/-- The rank of the magnitude nearest to `num / den`. A result of `rankBound` or more says that
the quotient rounds beyond the finite values. -/
def roundRatio (num den : Nat) : Nat :=
  if num = 0 then 0
  else
    let q := ratioExponent num den
    let m := if 0 ≤ q then divideToEven num (den * 2 ^ q.toNat)
             else divideToEven (num * 2 ^ (-q).toNat) den
    -- A significand that rounds up to `2 ^ 53` lands on the first rank of the next binade.
    (q + 1074).toNat * 2 ^ (52 : Nat) + m

/-- The number of decimal digits of a natural, at least one. -/
def decimalLength (n : Nat) : Nat := (Nat.toDigits 10 n).length

/-- The value nearest to `± digits * 10 ^ exponent`, or `none` beyond the finite values. -/
def ofDecimal? (negative : Bool) (digits : Nat) (exponent : Int) : Option Binary64 :=
  if digits = 0 then ofRank? negative 0
  else
    let size := exponent + decimalLength digits
    -- Far outside the range of finite values the powers of ten need not be built.
    if size > 400 then none
    else if size < -400 then ofRank? negative 0
    else if 0 ≤ exponent then ofRank? negative (roundRatio (digits * 10 ^ exponent.toNat) 1)
    else ofRank? negative (roundRatio digits (10 ^ (-exponent).toNat))

/-- The magnitude `num * 2 ^ q` as a rank. -/
def rankOfDyadic (num : Nat) (q : Int) : Nat :=
  if 0 ≤ q then roundRatio (num * 2 ^ q.toNat) 1 else roundRatio num (2 ^ (-q).toNat)

/-- The value nearest to an integer of at most 64 bits; larger ones round to zero's sign only if
they leave the finite range, which no 64-bit integer does. -/
def ofInt (n : Int) : Binary64 :=
  (ofRank? (n < 0) (roundRatio n.natAbs 1)).getD zero

/-! ### Arithmetic -/

/-- Whether the value is an integer. -/
def isIntegral (x : Binary64) : Bool :=
  0 ≤ x.exponent || x.significand % 2 ^ (-x.exponent).toNat == 0

/-- The value without its fraction, toward zero. -/
def truncate (x : Binary64) : Int :=
  let n : Nat := if 0 ≤ x.exponent then x.significand * 2 ^ x.exponent.toNat
                 else x.significand / 2 ^ (-x.exponent).toNat
  if x.negative then -(n : Int) else n

/-- The rounded quotient, or `none` when the divisor is zero or the quotient leaves the finite
values. -/
def divide? (x y : Binary64) : Option Binary64 :=
  if y.significand = 0 then none
  else
    let q := x.exponent - y.exponent
    let rank := if 0 ≤ q then roundRatio (x.significand * 2 ^ q.toNat) y.significand
                else roundRatio x.significand (y.significand * 2 ^ (-q).toNat)
    ofRank? (x.negative != y.negative) rank

/-- Whether the fraction of the magnitude is below `2 ^ -52`. -/
def fractionBelowEpsilon (x : Binary64) : Bool :=
  if 0 ≤ x.exponent then true
  else
    let unit := 2 ^ (-x.exponent).toNat
    x.significand % unit * 2 ^ (52 : Nat) < unit

/-- Whether the fraction, which carries the sign of the value, is below `2 ^ -52`. -/
def remainderBelowEpsilon (x : Binary64) : Bool :=
  x.negative || x.fractionBelowEpsilon

/-- The rank of the rounded absolute difference of two values. -/
def distance (x y : Binary64) : Nat :=
  let (a, p) := x.toDyadic
  let (b, q) := y.toDyadic
  let low := min p q
  rankOfDyadic (a * 2 ^ (p - low).toNat - b * 2 ^ (q - low).toNat).natAbs low

/-- The rank of `2 ^ -52`. -/
def epsilonRank : Nat := rankOfDyadic 1 (-52)

end Binary64

end SchemaGate
