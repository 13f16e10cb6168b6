import SchemaGate.Number.Binary64

/-!
# `SchemaGate.Number.Shortest`: the shortest decimal text of a binary64 value

The decimal text of a value is the one with the fewest digits that still rounds to that value,
and among those the nearest. `shortestDigits` finds its digits on the decimal grids of 1 to 17
digits: on each grid only the two neighbours of the value can lie in the interval of numbers that
round to it. How the digits are laid out (point, exponent) is a `DecimalLayout`.
-/

set_option autoImplicit false

namespace SchemaGate

attribute [local instance] corePow

/-- A positive decimal `digits * 10 ^ exponent`. -/
structure Decimal where
  /-- The digits, as a number. -/
  digits : Nat
  /-- The power of ten that the digits count. -/
  exponent : Int
  deriving DecidableEq, Repr

/-- How a decimal is written. -/
structure DecimalLayout where
  /-- The least exponent of the leading digit that is written positionally; none for "all". -/
  positionalFrom : Option Int
  /-- The exponent of the leading digit from which positional writing stops; none for "never". -/
  positionalBelow : Option Int
  /-- What follows the digits of a whole number that is written positionally. -/
  wholeEnding : String
  deriving DecidableEq, Repr

namespace Binary64

/-- The value and the ends of the interval that rounds to it, together with `10 ^ k`, all as
integers on one common scale. -/
structure Grid where
  /-- The lower end of the interval. -/
  low : Nat
  /-- The value itself. -/
  value : Nat
  /-- The upper end of the interval. -/
  high : Nat
  /-- The distance of two points of the grid. -/
  unit : Nat

/-- The grid of the multiples of `10 ^ k`. -/
def grid (x : Binary64) (k : Int) : Grid :=
  let m := x.significand
  -- Below a power of two the neighbouring value is only half as far away.
  let below := if m = 2 ^ (52 : Nat) ∧ -1074 < x.exponent then 1 else 2
  let q := x.exponent - 2
  let up := 2 ^ q.toNat * 10 ^ (-k).toNat
  ⟨(4 * m - below) * up, 4 * m * up, (4 * m + 2) * up, 2 ^ (-q).toNat * 10 ^ k.toNat⟩

/-- Whether a point of the grid rounds to the value. The ends of the interval do so exactly if
the significand is even. -/
def Grid.rounds (g : Grid) (even : Bool) (d : Nat) : Bool :=
  let p := d * g.unit
  if even then g.low ≤ p && p ≤ g.high else g.low < p && p < g.high

/-- The point of the grid that rounds to the value and is nearest to it, the even one of two at
the same distance. -/
def Grid.nearest? (g : Grid) (even : Bool) : Option Nat :=
  let d := g.value / g.unit
  let r := g.value % g.unit
  let down := g.rounds even d && d != 0
  let up := g.rounds even (d + 1)
  if down && up then
    if 2 * r < g.unit || (2 * r == g.unit && d % 2 == 0) then some d else some (d + 1)
  else if down then some d
  else if up then some (d + 1)
  else none

/-- The exponent of the leading decimal digit. -/
def leadingExponent (x : Binary64) : Int :=
  let log2 : Int := x.exponent + x.significand.log2
  let guess := (log2 * 30103).fdiv 100000
  let reaches (k : Int) : Bool := let g := x.grid k; g.unit ≤ g.value
  if reaches (guess + 1) then guess + 1 else if reaches guess then guess else guess - 1

/-- The digits without the zeros at their end. -/
def trimZeros : Nat → Decimal → Decimal
  | 0, d => d
  | fuel + 1, d =>
    if d.digits % 10 = 0 && d.digits != 0 then trimZeros fuel ⟨d.digits / 10, d.exponent + 1⟩
    else d

/-- The first grid, from `17 - fuel + 1` digits on, with a point that rounds to the value. -/
def searchGrids (x : Binary64) (lead : Int) : Nat → Decimal
  | 0 => ⟨x.significand, 0⟩
  | fuel + 1 =>
    let k := lead - (17 - fuel - 1 : Int)
    match (x.grid k).nearest? (x.significand % 2 == 0) with
    | some d => trimZeros 18 ⟨d, k⟩
    | none => searchGrids x lead fuel

/-- The decimal with the fewest digits that rounds to the magnitude of a value, and the nearest
of those. -/
def shortestDigits (x : Binary64) : Decimal :=
  if x.significand = 0 then ⟨0, 0⟩ else searchGrids x x.leadingExponent 17

end Binary64

namespace Decimal

/-- A decimal in a given layout. -/
def write (layout : DecimalLayout) (d : Decimal) : String :=
  let ds := Nat.toDigits 10 d.digits
  let lead : Int := d.exponent + (ds.length - 1 : Nat)
  let positional := layout.positionalFrom.all (· ≤ lead) && layout.positionalBelow.all (lead < ·)
  String.ofList <|
    if positional then
      if 0 ≤ d.exponent then
        ds ++ List.replicate d.exponent.toNat '0' ++ layout.wholeEnding.toList
      else if 0 ≤ lead then
        ds.take (lead.toNat + 1) ++ '.' :: ds.drop (lead.toNat + 1)
      else '0' :: '.' :: List.replicate (-lead - 1).toNat '0' ++ ds
    else
      let mantissa := match ds with
        | c :: d :: r => c :: '.' :: d :: r
        | ds => ds
      let sign := if lead < 0 then '-' else '+'
      mantissa ++ 'e' :: sign :: Nat.toDigits 10 lead.natAbs

end Decimal

/-- The text of a value: a sign if the sign bit is set, then its shortest decimal. -/
def Binary64.write (layout : DecimalLayout) (x : Binary64) : String :=
  let text := x.shortestDigits.write layout
  if x.negative then "-" ++ text else text

/-- Values inside JSON: positional while the leading digit stands between `10 ^ -5` and
`10 ^ 15`, and a whole number keeps `.0` so that it reads back as a float. -/
def DecimalLayout.json : DecimalLayout := ⟨some (-5), some 16, ".0"⟩

/-- Values inside prose: always positional, whole numbers without a point. -/
def DecimalLayout.plain : DecimalLayout := ⟨none, none, ""⟩

end SchemaGate
