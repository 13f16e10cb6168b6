import SchemaGate.Number.Shortest
import SchemaGate.Proofs.Number.Rounding

/-!
# `SchemaGate.Proofs.Number.Shortest`: the shortest decimal rounds to its value

`shortestDigits` looks for a point of a decimal grid that rounds to a value, on finer and finer
grids. `shortestDigits_covers` says that it finds one: seventeen digits always suffice, as the
points of that grid are closer than the interval of the value is wide (`exists_nearest_last`). This
needs the grid to be fine enough, so the leading exponent must not be guessed too large
(`ten_zpow_leadingExponent_le`).
-/

set_option autoImplicit false

namespace SchemaGate

/-- The value of a decimal as a rational number. -/
def Decimal.value (d : Decimal) : ℚ := d.digits * 10 ^ d.exponent

namespace Binary64

theorem ten_zpow_pos (k : ℤ) : (0 : ℚ) < 10 ^ k := zpow_pos (by norm_num) k

/-! ### Grids as numbers -/

/-- A power with a whole exponent is the quotient of two powers with natural exponents: those of the
positive and of the negative part. Grids are scaled by such powers. -/
theorem zpow_toNat (b : ℚ) (hb : 0 < b) (k : ℤ) :
    b ^ k.toNat = b ^ k * b ^ (-k).toNat := by
  rw [← zpow_natCast, ← zpow_natCast, ← zpow_add₀ hb.ne']
  congr 1
  omega

/-- The common scale of a grid: what all of its numbers are multiplied by to be natural ones. -/
def gridScale (x : Binary64) (k : ℤ) : ℚ := 2 ^ (-(x.exponent - 2)).toNat * 10 ^ (-k).toNat

theorem gridScale_pos (x : Binary64) (k : ℤ) : 0 < x.gridScale k := by
  unfold gridScale
  positivity

/-- On the scale of its grid the distance of two points is `10 ^ k`, so the points are the multiples
of this power. -/
theorem grid_unit (x : Binary64) (k : ℤ) : ((x.grid k).unit : ℚ) = 10 ^ k * x.gridScale k := by
  show ((2 ^ (-(x.exponent - 2)).toNat * 10 ^ k.toNat : ℕ) : ℚ) = _
  push_cast
  rw [zpow_toNat 10 (by norm_num) k, gridScale]
  ring

/-- A quarter of the last binary place, on the scale of a grid, is the natural number that the ends
of the interval are multiples of. -/
theorem quarter_mul_gridScale (x : Binary64) (k : ℤ) :
    ((2 ^ (x.exponent - 2).toNat * 10 ^ (-k).toNat : ℕ) : ℚ) = x.quarter * x.gridScale k := by
  push_cast
  rw [zpow_toNat 2 (by norm_num) (x.exponent - 2), gridScale, quarter]
  ring

/-- The magnitude of a value is four quarters times its significand, which is how a grid has it. -/
theorem magnitude_eq (x : Binary64) : x.magnitude = 4 * x.significand * x.quarter := by
  rw [magnitude, ← four_mul_quarter]
  ring

theorem grid_value (x : Binary64) (k : ℤ) :
    ((x.grid k).value : ℚ) = x.magnitude * x.gridScale k := by
  show ((4 * x.significand * (2 ^ (x.exponent - 2).toNat * 10 ^ (-k).toNat) : ℕ) : ℚ) = _
  rw [Nat.cast_mul, quarter_mul_gridScale, magnitude_eq]
  push_cast
  ring

theorem grid_high (x : Binary64) (k : ℤ) :
    ((x.grid k).high : ℚ) = x.highEnd * x.gridScale k := by
  show (((4 * x.significand + 2) * (2 ^ (x.exponent - 2).toNat * 10 ^ (-k).toNat) : ℕ) : ℚ) = _
  rw [Nat.cast_mul, quarter_mul_gridScale, highEnd]
  push_cast
  ring

/-- The interval of a value extends one or two quarters below its magnitude. -/
theorem quartersBelow_bounds (x : Binary64) : 1 ≤ x.quartersBelow ∧ x.quartersBelow ≤ 2 := by
  unfold quartersBelow
  split <;> decide

theorem grid_low (x : Binary64) (k : ℤ) (h : x.significand ≠ 0) :
    ((x.grid k).low : ℚ) = x.lowEnd * x.gridScale k := by
  show (((4 * x.significand - x.quartersBelow)
    * (2 ^ (x.exponent - 2).toNat * 10 ^ (-k).toNat) : ℕ) : ℚ) = _
  have := x.quartersBelow_bounds
  rw [Nat.cast_mul, quarter_mul_gridScale, lowEnd, Nat.cast_sub (by omega)]
  push_cast
  ring

/-- A point of a grid is said to round to the value exactly if the value covers it. The grid
compares natural numbers on its own scale, and `Covers` compares the rational numbers themselves. -/
theorem rounds_iff (x : Binary64) (k : ℤ) (h : x.significand ≠ 0) (d : ℕ) :
    (x.grid k).rounds (x.significand % 2 == 0) d = true ↔ x.Covers (d * 10 ^ k) := by
  have hscale := x.gridScale_pos k
  -- Point and ends are integers on one scale, so they compare as the numbers that they stand for.
  have hpoint : ((d * (x.grid k).unit : ℕ) : ℚ) = d * 10 ^ k * x.gridScale k := by
    rw [Nat.cast_mul, grid_unit]
    ring
  have hlow : (x.grid k).low ≤ d * (x.grid k).unit ↔ x.lowEnd ≤ d * 10 ^ k := by
    rw [← Nat.cast_le (α := ℚ), hpoint, grid_low x k h, mul_le_mul_iff_of_pos_right hscale]
  have hlow' : (x.grid k).low < d * (x.grid k).unit ↔ x.lowEnd < d * 10 ^ k := by
    rw [← Nat.cast_lt (α := ℚ), hpoint, grid_low x k h, mul_lt_mul_iff_of_pos_right hscale]
  have hhigh : d * (x.grid k).unit ≤ (x.grid k).high ↔ d * 10 ^ k ≤ x.highEnd := by
    rw [← Nat.cast_le (α := ℚ), hpoint, grid_high, mul_le_mul_iff_of_pos_right hscale]
  have hhigh' : d * (x.grid k).unit < (x.grid k).high ↔ d * 10 ^ k < x.highEnd := by
    rw [← Nat.cast_lt (α := ℚ), hpoint, grid_high, mul_lt_mul_iff_of_pos_right hscale]
  unfold Grid.rounds Covers
  -- The ends belong to the interval exactly if the significand is even.
  by_cases heven : x.significand % 2 = 0
  · simp only [heven, beq_self_eq_true, if_true, Bool.and_eq_true, decide_eq_true_eq, hlow, hhigh,
      true_or, and_true]
  · simp only [heven, beq_iff_eq, if_false, Bool.and_eq_true, decide_eq_true_eq, hlow', hhigh',
      false_or]
    exact ⟨fun hp => ⟨⟨hp.1.le, hp.2.le⟩, hp⟩, fun hp => hp.2⟩

/-! ### The nearest point -/

/-- A point that is found on a grid rounds to the value and is not zero. -/
theorem Grid.nearest?_spec {g : Grid} {even : Bool} {d : ℕ} (h : g.nearest? even = some d) :
    d ≠ 0 ∧ g.rounds even d = true := by
  unfold nearest? at h
  simp only [Bool.and_eq_true, bne_iff_ne] at h
  split at h
  · next hboth =>
    -- Both neighbours round to the value, and the nearer one is taken.
    split at h
    · cases h
      exact ⟨hboth.1.2, hboth.1.1⟩
    · cases h
      exact ⟨Nat.succ_ne_zero _, hboth.2⟩
  · split at h
    · next hdown =>
      cases h
      exact ⟨hdown.2, hdown.1⟩
    · split at h
      · next hup =>
        cases h
        exact ⟨Nat.succ_ne_zero _, hup⟩
      · cases h

/-- A point is found on a grid if one distance of two points fits between the lower end of the
interval and its upper end, and the value is not below the first point. One of the two neighbours of
the value then lies in the interval. -/
theorem Grid.exists_nearest {g : Grid} (even : Bool) (hlow : g.low < g.value)
    (hhigh : g.value < g.high) (hpos : 0 < g.unit) (hunit : g.unit ≤ g.value)
    (hwidth : g.low + g.unit < g.high) : ∃ d, g.nearest? even = some d := by
  have hsplit : g.unit * (g.value / g.unit) + g.value % g.unit = g.value := Nat.div_add_mod _ _
  have hmod : g.value % g.unit < g.unit := Nat.mod_lt _ hpos
  have hquot : g.value / g.unit ≠ 0 := (Nat.div_pos hunit hpos).ne'
  unfold nearest?
  simp only
  generalize g.value / g.unit = d at hsplit hquot
  generalize g.value % g.unit = r at hsplit hmod
  -- One of the two neighbours of the value lies inside the interval.
  have hone : g.rounds even d = true ∨ g.rounds even (d + 1) = true := by
    have hnext : (d + 1) * g.unit = d * g.unit + g.unit := Nat.succ_mul _ _
    have hcomm : g.unit * d = d * g.unit := Nat.mul_comm _ _
    unfold rounds
    rw [hnext]
    generalize d * g.unit = p at *
    cases even
    · simp only [Bool.false_eq_true, if_false, Bool.and_eq_true, decide_eq_true_eq]
      omega
    · simp only [if_true, Bool.and_eq_true, decide_eq_true_eq]
      omega
  have hne : (d != 0) = true := bne_iff_ne.2 hquot
  cases hdown : g.rounds even d with
  | true =>
      cases hup : g.rounds even (d + 1) with
      | true =>
          simp only [hne, Bool.and_self, if_true]
          split
          · exact ⟨_, rfl⟩
          · exact ⟨_, rfl⟩
      | false =>
          simp only [hne, Bool.and_true, Bool.and_false, Bool.false_eq_true, if_false, if_true]
          exact ⟨_, rfl⟩
  | false =>
      have hup := hone.resolve_left (by rw [hdown]; decide)
      simp only [hup, Bool.false_and, Bool.false_eq_true, if_false, if_true]
      exact ⟨_, rfl⟩

/-! ### The leading digit -/

/-- The magnitude of a value other than zero is at least the power of two with its binary logarithm,
which comes from the length of the significand. -/
theorem two_zpow_le_magnitude (x : Binary64) (h : x.significand ≠ 0) :
    (2 : ℚ) ^ (x.exponent + x.significand.log2) ≤ x.magnitude := by
  have hlog : ((2 ^ x.significand.log2 : ℕ) : ℚ) ≤ x.significand := by
    exact_mod_cast Nat.log2_self_le h
  rw [zpow_add₀ (by norm_num), zpow_natCast, mul_comm, magnitude]
  push_cast at hlog
  exact mul_le_mul_of_nonneg_right hlog (two_zpow_pos _).le

/-- The decimal exponent that is estimated from a binary one is at most one too large, for all
binary exponents that a value can have. They are finitely many, so each of them is checked. -/
theorem ten_zpow_estimate_le (n : ℤ) (hlow : -1074 ≤ n) (hhigh : n < 1024) :
    (10 : ℚ) ^ ((n * 30103).fdiv 100000 - 1) ≤ 2 ^ n := by
  -- The estimate is checked at every exponent that a value can have.
  have hup : ∀ n < 1024, 10 ^ (n * 30103 / 100000) ≤ 10 * 2 ^ n := by decide +kernel
  have hdown : ∀ n < 1075, 2 ^ n ≤ 10 ^ ((n * 30103 + 99999) / 100000 + 1) := by decide +kernel
  rw [Int.fdiv_eq_ediv_of_nonneg _ (by norm_num)]
  rcases le_total 0 n with hn | hn
  · obtain ⟨n, rfl⟩ := Int.eq_ofNat_of_zero_le hn
    have hle : ((10 ^ (n * 30103 / 100000) : ℕ) : ℚ) ≤ ((10 * 2 ^ n : ℕ) : ℚ) :=
      Nat.cast_le.2 (hup n (by omega))
    have hexp : ((n : ℤ) * 30103 / 100000) = ((n * 30103 / 100000 : ℕ) : ℤ) := by omega
    push_cast at hle
    rw [hexp, zpow_sub₀ (by norm_num), zpow_natCast, zpow_natCast, zpow_one]
    linarith
  · obtain ⟨m, rfl⟩ : ∃ m : ℕ, n = -(m : ℤ) := ⟨(-n).toNat, by omega⟩
    have hle : ((2 ^ m : ℕ) : ℚ) ≤ ((10 ^ ((m * 30103 + 99999) / 100000 + 1) : ℕ) : ℚ) :=
      Nat.cast_le.2 (hdown m (by omega))
    -- The floor of a negative quotient is the negative of a ceiling.
    have hexp : -(m : ℤ) * 30103 / 100000 - 1
        = -(((m * 30103 + 99999) / 100000 + 1 : ℕ) : ℤ) := by omega
    push_cast at hle
    rw [hexp, zpow_neg, zpow_neg, zpow_natCast, zpow_natCast]
    exact inv_anti₀ (by positivity) hle

/-- The power of ten at the place that is taken for the leading digit is not above the magnitude. -/
theorem ten_zpow_leadingExponent_le (x : Binary64) (h : x.significand ≠ 0) :
    (10 : ℚ) ^ x.leadingExponent ≤ x.magnitude := by
  have hreach : ∀ k : ℤ, (x.grid k).unit ≤ (x.grid k).value ↔ (10 : ℚ) ^ k ≤ x.magnitude := by
    intro k
    rw [← Nat.cast_le (α := ℚ), grid_unit, grid_value,
      mul_le_mul_iff_of_pos_right (x.gridScale_pos k)]
  have hlog : x.significand.log2 < 53 := (Nat.log2_lt h).2 x.significand_lt
  have hguess := ten_zpow_estimate_le (x.exponent + x.significand.log2)
    (by have := x.le_exponent; omega) (by have := x.exponent_le; omega)
  have hmagnitude := x.two_zpow_le_magnitude h
  unfold leadingExponent
  simp only [decide_eq_true_eq, hreach]
  -- The exponents tried first are compared with the magnitude, and the last one is the estimate's.
  split
  · next hnext => exact hnext
  · split
    · next hsame => exact hsame
    · exact hguess.trans hmagnitude

/-! ### The search -/

/-- On the grid of seventeen digits a point is found, so the search for the shortest decimal always
ends with one. There the distance of two points is less than the width of the interval. -/
theorem exists_nearest_last (x : Binary64) (h : x.significand ≠ 0) :
    ∃ d, (x.grid (x.leadingExponent - 16)).nearest? (x.significand % 2 == 0) = some d := by
  have hlead := x.ten_zpow_leadingExponent_le h
  -- Sixteen places below the leading digit the points lie `10 ^ -16` of the magnitude apart.
  have hunit : (10 : ℚ) ^ (x.leadingExponent - 16) * 10 ^ 16 ≤ x.magnitude := by
    rw [zpow_sub₀ (by norm_num)]
    refine le_trans (le_of_eq ?_) hlead
    norm_num
  have hpos := ten_zpow_pos (x.leadingExponent - 16)
  generalize x.leadingExponent - 16 = k at hunit hpos
  have hquarter := x.quarter_pos
  have hscale := x.gridScale_pos k
  have hbelow : (1 : ℚ) ≤ x.quartersBelow := by exact_mod_cast x.quartersBelow_bounds.1
  -- Below a power of two the interval is narrower, but so is the magnitude smaller.
  have hwidth : x.magnitude < 10 ^ 16 * ((x.quartersBelow + 2) * x.quarter) := by
    rw [magnitude_eq, quartersBelow]
    split
    · next hm =>
      rw [hm.1]
      push_cast
      nlinarith
    · have hlt : (x.significand : ℚ) + 1 ≤ 2 ^ 53 := by exact_mod_cast x.significand_lt
      push_cast
      nlinarith
  refine Grid.exists_nearest _ ?_ ?_ ?_ ?_ ?_
  · rw [← Nat.cast_lt (α := ℚ), grid_low x k h, grid_value, magnitude_eq, lowEnd]
    exact mul_lt_mul_of_pos_right (by nlinarith) hscale
  · rw [← Nat.cast_lt (α := ℚ), grid_high, grid_value, magnitude_eq, highEnd]
    exact mul_lt_mul_of_pos_right (by nlinarith) hscale
  · rw [← Nat.cast_pos (α := ℚ), grid_unit]
    positivity
  · rw [← Nat.cast_le (α := ℚ), grid_unit, grid_value]
    exact mul_le_mul_of_nonneg_right (by nlinarith) hscale.le
  · rw [← Nat.cast_lt (α := ℚ), Nat.cast_add, grid_low x k h, grid_unit, grid_high, ← add_mul]
    refine mul_lt_mul_of_pos_right ?_ hscale
    rw [lowEnd, highEnd]
    nlinarith

/-- Dropping zeros at the end of the digits does not change the value of a decimal, and leaves
digits other than zero. -/
theorem trimZeros_value (fuel : ℕ) (d : Decimal) (h : d.digits ≠ 0) :
    (trimZeros fuel d).value = d.value ∧ (trimZeros fuel d).digits ≠ 0 := by
  induction fuel generalizing d with
  | zero => exact ⟨rfl, h⟩
  | succ fuel ih =>
      unfold trimZeros
      split
      · next hzero =>
        -- A zero at the end goes over into the exponent.
        simp only [Bool.and_eq_true, decide_eq_true_eq, bne_iff_ne] at hzero
        obtain ⟨n, hn⟩ : ∃ n, d.digits = n * 10 := ⟨d.digits / 10, by omega⟩
        have hdiv : d.digits / 10 = n := by omega
        obtain ⟨hvalue, hdigits⟩ := ih ⟨d.digits / 10, d.exponent + 1⟩ (by simp only; omega)
        refine ⟨hvalue.trans ?_, hdigits⟩
        show ((d.digits / 10 : ℕ) : ℚ) * 10 ^ (d.exponent + 1) = d.digits * 10 ^ d.exponent
        rw [hdiv, hn, zpow_add₀ (by norm_num)]
        push_cast
        ring
      · exact ⟨rfl, h⟩

/-- A point that is found on a grid gives a decimal that rounds to the value, also after the zeros
at its end are dropped. -/
theorem trimZeros_covers (x : Binary64) (h : x.significand ≠ 0) {k : ℤ} {d : ℕ}
    (hd : (x.grid k).nearest? (x.significand % 2 == 0) = some d) (fuel : ℕ) :
    (trimZeros fuel ⟨d, k⟩).digits ≠ 0 ∧ x.Covers (trimZeros fuel ⟨d, k⟩).value := by
  obtain ⟨hne, hrounds⟩ := Grid.nearest?_spec hd
  obtain ⟨hvalue, hdigits⟩ := trimZeros_value fuel ⟨d, k⟩ hne
  rw [hvalue]
  exact ⟨hdigits, (x.rounds_iff k h d).1 hrounds⟩

/-- The search through coarser and finer grids ends with a decimal that rounds to the value, on
whatever grid it ends. That a point is found on the last grid is all it needs. -/
theorem searchGrids_covers (x : Binary64) (h : x.significand ≠ 0) (lead : ℤ)
    (hlast : ∃ d, (x.grid (lead - 16)).nearest? (x.significand % 2 == 0) = some d) (fuel : ℕ) :
    (searchGrids x lead (fuel + 1)).digits ≠ 0 ∧
      x.Covers (searchGrids x lead (fuel + 1)).value := by
  induction fuel with
  | zero =>
      -- One grid is left, and that is the one of seventeen digits.
      obtain ⟨d, hd⟩ := hlast
      have hk : lead - (17 - (0 : ℕ) - 1 : ℤ) = lead - 16 := by norm_num
      simp only [searchGrids, hk, hd]
      exact trimZeros_covers x h hd 18
  | succ fuel ih =>
      rw [searchGrids]
      split
      · next d hd => exact trimZeros_covers x h hd 18
      · exact ih

/-- The shortest digits of a value other than zero are a positive decimal that rounds to the
value. -/
theorem shortestDigits_covers (x : Binary64) (h : x.significand ≠ 0) :
    x.shortestDigits.digits ≠ 0 ∧ x.Covers x.shortestDigits.value := by
  rw [shortestDigits, if_neg h]
  exact searchGrids_covers x h _ (exists_nearest_last x h) 16

end Binary64

end SchemaGate
