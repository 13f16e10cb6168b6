import Mathlib.Algebra.Order.Field.Power
import Mathlib.Data.Int.Log
import Mathlib.Tactic.FieldSimp
import Mathlib.Tactic.Linarith
import Mathlib.Tactic.Positivity
import Mathlib.Tactic.Ring
import SchemaGate.Number.Binary64

/-!
# `SchemaGate.Proofs.Number.Rounding`: what a quotient rounds to

The numbers that round to a value form an interval around its magnitude (`Binary64.Covers`): half
the distance to the next magnitude on both sides, less below a power of two, and with its ends
exactly if the significand is even. `roundRatio_eq_rank` says that `roundRatio` takes every quotient
of the interval to the rank of the value.

All is counted in quarters of the last binary place, `2 ^ (exponent - 2)`, so that the ends of the
interval are whole.
-/

set_option autoImplicit false

namespace SchemaGate.Binary64

/-! ### The parts of a value -/

/-- The significand of a value has at most 53 bits. -/
theorem significand_lt (x : Binary64) : x.significand < 2 ^ 53 := by
  unfold significand
  split
  · omega
  · omega

/-- The exponent of a value is at least `-1074`, that of the values around zero. -/
theorem le_exponent (x : Binary64) : -1074 ≤ x.exponent := by
  unfold exponent
  split
  · omega
  · omega

/-- The exponent of a value is at most `971`, that of the greatest values. -/
theorem exponent_le (x : Binary64) : x.exponent ≤ 971 := by
  have h : x.rank < 2047 * 2 ^ 52 := x.rank_lt
  unfold exponent
  split
  · omega
  · omega

/-- The significand of a value has all of 53 bits if the exponent is above the least one. Only
around zero there are fewer. -/
theorem le_significand (x : Binary64) (h : -1074 < x.exponent) : 2 ^ 52 ≤ x.significand := by
  unfold exponent at h
  unfold significand
  split
  · next hlt => rw [if_pos hlt] at h; omega
  · omega

/-- The rank of a value, computed from its significand and exponent. Each exponent has `2 ^ 52`
magnitudes of its own, so one exponent more moves the rank by this number. -/
theorem rank_eq (x : Binary64) :
    x.rank = (x.exponent + 1074).toNat * 2 ^ 52 + x.significand := by
  unfold exponent significand
  split
  · omega
  · omega

/-! ### Intervals -/

/-- The magnitude of a value as a rational number. -/
def magnitude (x : Binary64) : ℚ := x.significand * 2 ^ x.exponent

/-- A quarter of the last binary place of a value. The interval of the numbers that round to the
value ends at whole numbers of quarters. -/
def quarter (x : Binary64) : ℚ := 2 ^ (x.exponent - 2)

/-- How many quarters the interval of a value extends below its magnitude. It is one just above a
power of two, since the value below is only half as far away there, and two otherwise. -/
def quartersBelow (x : Binary64) : ℕ :=
  if x.significand = 2 ^ 52 ∧ -1074 < x.exponent then 1 else 2

/-- The lower end of the interval of the numbers that round to a value: half-way to the value
below. -/
def lowEnd (x : Binary64) : ℚ := (4 * x.significand - x.quartersBelow) * x.quarter

/-- The upper end of the interval of the numbers that round to a value: two quarters above the
magnitude, half-way to the value above. -/
def highEnd (x : Binary64) : ℚ := (4 * x.significand + 2) * x.quarter

/-- A positive number rounds to the magnitude of a value: it lies in the interval of the value. The
ends of the interval belong to it if the significand is even, because ties go to even
significands. -/
def Covers (x : Binary64) (p : ℚ) : Prop :=
  (x.lowEnd ≤ p ∧ p ≤ x.highEnd) ∧ (x.significand % 2 = 0 ∨ (x.lowEnd < p ∧ p < x.highEnd))

theorem two_zpow_pos (k : ℤ) : (0 : ℚ) < 2 ^ k := zpow_pos (by norm_num) k

theorem quarter_pos (x : Binary64) : 0 < x.quarter := two_zpow_pos _

/-- Four quarters of the last binary place are this place. -/
theorem four_mul_quarter (x : Binary64) : 4 * x.quarter = 2 ^ x.exponent := by
  rw [quarter, zpow_sub₀ (by norm_num)]
  ring

/-! ### Rounding to integers -/

/-- A quotient that is within half of an integer rounds to this integer. If it is just half-way, the
integer has to be even. Everything is multiplied out, so the bounds are about natural numbers. -/
theorem divideToEven_eq {num den s : ℕ} (hden : 0 < den) (hlow : 2 * s * den ≤ 2 * num + den)
    (hhigh : 2 * num ≤ 2 * s * den + den)
    (htie : s % 2 = 0 ∨ (2 * s * den < 2 * num + den ∧ 2 * num < 2 * s * den + den)) :
    divideToEven num den = s := by
  have hsplit : den * (num / den) + num % den = num := Nat.div_add_mod num den
  have hmod : num % den < den := Nat.mod_lt num hden
  unfold divideToEven
  generalize num / den = q at hsplit
  generalize num % den = r at hsplit hmod
  -- The floor is the integer itself, or the one below it.
  have hle : s ≤ q + 1 := by
    by_contra hgt
    have hs : q + 2 ≤ s := by omega
    have := Nat.mul_le_mul_left den hs
    nlinarith
  have hge : q ≤ s := by
    by_contra hgt
    have hs : s + 1 ≤ q := by omega
    have := Nat.mul_le_mul_left den hs
    nlinarith
  rcases (show s = q ∨ s = q + 1 by omega) with rfl | rfl
  · -- The remainder is at most half of the divisor, and just half only if the floor is even.
    have hr : 2 * r ≤ den := by nlinarith
    have hhalf : 2 * r = den → s % 2 = 0 := by
      intro h
      rcases htie with he | ⟨-, hlt⟩
      · exact he
      · nlinarith
    simp only
    rw [if_neg]
    simp only [Bool.or_eq_true, Bool.and_eq_true, decide_eq_true_eq, beq_iff_eq]
    omega
  · -- The remainder is at least half of the divisor, and just half only if the floor is odd.
    have hr : den ≤ 2 * r := by nlinarith
    have hhalf : 2 * r = den → q % 2 = 1 := by
      intro h
      rcases htie with he | ⟨hlt, -⟩
      · omega
      · nlinarith
    simp only
    rw [if_pos]
    simp only [Bool.or_eq_true, Bool.and_eq_true, decide_eq_true_eq, beq_iff_eq]
    omega

/-! ### The binade of a quotient -/

/-- Rounding compares a quotient with a power of two without fractions, by moving the power to the
side where it is a whole number. The comparison that it makes is the one between rational
numbers. -/
theorem zpow_le_ratio_iff {num den a b : ℕ} (hden : 0 < den) :
    (if b ≤ a then den * 2 ^ (a - b) ≤ num else den ≤ num * 2 ^ (b - a))
      ↔ (2 : ℚ) ^ ((a : ℤ) - b) ≤ (num : ℚ) / den := by
  have hdenq : (0 : ℚ) < den := by exact_mod_cast hden
  split
  · next hle =>
    obtain ⟨c, rfl⟩ := Nat.exists_eq_add_of_le hle
    have hexp : ((b + c : ℕ) : ℤ) - b = (c : ℕ) := by omega
    rw [Nat.add_sub_cancel_left, hexp, zpow_natCast, le_div_iff₀ hdenq, mul_comm]
    exact_mod_cast Iff.rfl
  · next hlt =>
    obtain ⟨c, rfl⟩ := Nat.exists_eq_add_of_le (Nat.le_of_not_le hlt)
    have hexp : (a : ℤ) - (a + c : ℕ) = -(c : ℕ) := by omega
    rw [Nat.add_sub_cancel_left, hexp, zpow_neg, zpow_natCast, ← one_div,
      div_le_div_iff₀ (by positivity) hdenq, one_mul]
    exact_mod_cast Iff.rfl

/-- A quotient lies between two powers of two that its parts determine: the difference of their
binary logarithms, less one and plus one. This is the first estimate of its own binary logarithm. -/
theorem ratio_bounds {num den : ℕ} (hnum : num ≠ 0) (hden : 0 < den) :
    (2 : ℚ) ^ ((num.log2 : ℤ) - den.log2 - 1) ≤ (num : ℚ) / den ∧
      (num : ℚ) / den < 2 ^ ((num.log2 : ℤ) - den.log2 + 1) := by
  have hdenq : (0 : ℚ) < den := by exact_mod_cast hden
  have hnumLow : (2 : ℚ) ^ num.log2 ≤ num := by exact_mod_cast Nat.log2_self_le hnum
  have hnumHigh : (num : ℚ) < 2 ^ (num.log2 + 1) := by exact_mod_cast Nat.lt_log2_self
  have hdenLow : (2 : ℚ) ^ den.log2 ≤ den := by exact_mod_cast Nat.log2_self_le hden.ne'
  have hdenHigh : (den : ℚ) < 2 ^ (den.log2 + 1) := by exact_mod_cast Nat.lt_log2_self
  generalize num.log2 = a at hnumLow hnumHigh ⊢
  generalize den.log2 = b at hdenLow hdenHigh ⊢
  have hprev : (2 : ℚ) ^ ((a : ℤ) - b - 1) = 2 ^ a / 2 ^ (b + 1) := by
    rw [sub_sub, zpow_sub₀ (by norm_num)]
    norm_cast
  have hnext : (2 : ℚ) ^ ((a : ℤ) - b + 1) = 2 ^ (a + 1) / 2 ^ b := by
    rw [sub_add_eq_add_sub, zpow_sub₀ (by norm_num)]
    norm_cast
  rw [hprev, hnext, div_le_div_iff₀ (by positivity) hdenq, div_lt_div_iff₀ hdenq (by positivity)]
  constructor
  · calc (2 : ℚ) ^ a * den ≤ num * den := by gcongr
      _ ≤ num * 2 ^ (b + 1) := by gcongr
  · calc (num : ℚ) * 2 ^ b ≤ num * den := by gcongr
      _ < 2 ^ (a + 1) * den := by gcongr

/-- The exponent at which a quotient is rounded leaves 53 bits above it, unless this is below the
least exponent. Here `log` is the binary logarithm of the quotient, which the estimate misses by at
most one. -/
theorem ratioExponent_eq {num den : ℕ} (hnum : num ≠ 0) (hden : 0 < den) :
    ∃ log : ℤ, ratioExponent num den = max (-1074) (log - 52) ∧
      (2 : ℚ) ^ log ≤ (num : ℚ) / den ∧ (num : ℚ) / den < 2 ^ (log + 1) := by
  obtain ⟨hlow, hhigh⟩ := ratio_bounds hnum hden
  have hreach := @zpow_le_ratio_iff num den num.log2 den.log2 hden
  unfold ratioExponent
  generalize num.log2 = a at hlow hhigh hreach
  generalize den.log2 = b at hlow hhigh hreach
  by_cases h : (2 : ℚ) ^ ((a : ℤ) - b) ≤ (num : ℚ) / den
  · -- The quotient reaches the quotient of the powers, and stays below its double.
    refine ⟨(a : ℤ) - b, ?_, h, hhigh⟩
    simp only [hreach.2 h, if_true]
  · -- Otherwise it reaches half of that.
    refine ⟨(a : ℤ) - b - 1, ?_, hlow, ?_⟩
    · simp only [mt hreach.1 h, if_false]
    · rw [sub_add_cancel]
      exact not_le.1 h

/-- The exponent at which a quotient is rounded is at least `-1074`. The quotient has at most 53
bits above it, and just 53 unless the exponent is the least one. -/
theorem ratioExponent_spec {num den : ℕ} (hnum : num ≠ 0) (hden : 0 < den) :
    -1074 ≤ ratioExponent num den ∧ (num : ℚ) / den < 2 ^ (ratioExponent num den + 53) ∧
      (ratioExponent num den = -1074 ∨
        (2 : ℚ) ^ (ratioExponent num den + 52) ≤ (num : ℚ) / den) := by
  obtain ⟨log, hexp, hlow, hhigh⟩ := ratioExponent_eq hnum hden
  rw [hexp]
  refine ⟨le_max_left _ _, lt_of_lt_of_le hhigh ?_, ?_⟩
  · exact zpow_le_zpow_right₀ (by norm_num) (by omega)
  · rcases le_total (log - 52) (-1074) with h | h
    · exact .inl (max_eq_left h)
    · refine .inr (le_trans (le_of_eq ?_) hlow)
      rw [max_eq_right h]
      congr 1
      omega

/-! ### The rank of a quotient -/

/-- Take a quotient within half a place of a significand, at the exponent at which it is rounded. It
rounds to the rank of this significand and exponent. If it is just half-way, the significand has to
be even. -/
theorem roundRatio_of_near {num den s : ℕ} (hnum : num ≠ 0) (hden : 0 < den)
    (hlow : (2 * s - 1) * 2 ^ ratioExponent num den ≤ 2 * ((num : ℚ) / den))
    (hhigh : 2 * ((num : ℚ) / den) ≤ (2 * s + 1) * 2 ^ ratioExponent num den)
    (htie : s % 2 = 0 ∨ ((2 * s - 1) * 2 ^ ratioExponent num den < 2 * ((num : ℚ) / den) ∧
      2 * ((num : ℚ) / den) < (2 * s + 1) * 2 ^ ratioExponent num den)) :
    roundRatio num den = (ratioExponent num den + 1074).toNat * 2 ^ 52 + s := by
  have hdenq : (0 : ℚ) < den := by exact_mod_cast hden
  simp only [roundRatio, if_neg hnum]
  generalize ratioExponent num den = q at hlow hhigh htie
  congr 1
  rw [← mul_div_assoc] at hlow hhigh htie
  split
  · next hq =>
    -- A large quotient is divided by its place.
    obtain ⟨n, rfl⟩ := Int.eq_ofNat_of_zero_le hq
    rw [zpow_natCast] at hlow hhigh htie
    rw [le_div_iff₀ hdenq] at hlow
    rw [div_le_iff₀ hdenq] at hhigh
    rw [lt_div_iff₀ hdenq, div_lt_iff₀ hdenq] at htie
    rw [Int.toNat_natCast]
    refine divideToEven_eq (by positivity) ?_ ?_ (htie.imp_right fun h => ⟨?_, ?_⟩)
    · have : (2 * s * (den * 2 ^ n) : ℚ) ≤ 2 * num + den * 2 ^ n := by linarith
      exact_mod_cast this
    · have : (2 * num : ℚ) ≤ 2 * s * (den * 2 ^ n) + den * 2 ^ n := by linarith
      exact_mod_cast this
    · have : (2 * s * (den * 2 ^ n) : ℚ) < 2 * num + den * 2 ^ n := by linarith
      exact_mod_cast this
    · have : (2 * num : ℚ) < 2 * s * (den * 2 ^ n) + den * 2 ^ n := by linarith
      exact_mod_cast this
  · next hq =>
    -- A small one is multiplied instead.
    obtain ⟨n, rfl⟩ : ∃ n : ℕ, q = -(n : ℤ) := ⟨(-q).toNat, by omega⟩
    have hpow : (0 : ℚ) < 2 ^ n := by positivity
    simp only [zpow_neg, zpow_natCast, ← div_eq_mul_inv] at hlow hhigh htie
    rw [div_le_div_iff₀ hpow hdenq] at hlow
    rw [div_le_div_iff₀ hdenq hpow] at hhigh
    rw [div_lt_div_iff₀ hpow hdenq, div_lt_div_iff₀ hdenq hpow] at htie
    rw [neg_neg, Int.toNat_natCast]
    refine divideToEven_eq hden ?_ ?_ (htie.imp_right fun h => ⟨?_, ?_⟩)
    · have : (2 * s * den : ℚ) ≤ 2 * (num * 2 ^ n) + den := by linarith
      exact_mod_cast this
    · have : (2 * (num * 2 ^ n) : ℚ) ≤ 2 * s * den + den := by linarith
      exact_mod_cast this
    · have : (2 * s * den : ℚ) < 2 * (num * 2 ^ n) + den := by linarith
      exact_mod_cast this
    · have : (2 * (num * 2 ^ n) : ℚ) < 2 * s * den + den := by linarith
      exact_mod_cast this

/-- A power of two above the exponent of a value, counted in quarters of its last binary place. -/
theorem zpow_exponent_add (x : Binary64) (n : ℕ) :
    (2 : ℚ) ^ (x.exponent + n) = 2 ^ (n + 2) * x.quarter := by
  rw [quarter, zpow_sub₀ (by norm_num), zpow_add₀ (by norm_num), zpow_natCast, pow_add]
  ring

/-- The interval of a value extends at most two quarters below the magnitude. -/
theorem quartersBelow_le (x : Binary64) : (x.quartersBelow : ℚ) ≤ 2 := by
  unfold quartersBelow
  split <;> norm_num

/-- A quotient of the interval of a value is rounded at no greater exponent than that of the value.
Otherwise it would have more than 53 bits at the exponent of the value. -/
theorem ratioExponent_le {x : Binary64} {num den : ℕ} (hnum : num ≠ 0) (hden : 0 < den)
    (h : (num : ℚ) / den ≤ x.highEnd) : ratioExponent num den ≤ x.exponent := by
  obtain ⟨-, -, htop⟩ := ratioExponent_spec hnum hden
  have hquarter := x.quarter_pos
  have hlt : (x.significand : ℚ) + 1 ≤ 2 ^ 53 := by exact_mod_cast x.significand_lt
  by_contra hgt
  have hpow : (2 : ℚ) ^ (x.exponent + 53) ≤ (num : ℚ) / den := by
    rcases htop with he | htop
    · have := x.le_exponent
      omega
    · exact le_trans (zpow_le_zpow_right₀ (by norm_num) (by omega)) htop
  have hscale := x.zpow_exponent_add 53
  push_cast at hscale
  rw [hscale] at hpow
  unfold highEnd at h
  nlinarith

/-- A quotient of the interval of a value can be rounded at a smaller exponent than that of the
value. Then it lies below a power of two and the value is this power: the significand is the least
one of 53 bits, and the exponent is one less. -/
theorem ratioExponent_of_lt {x : Binary64} {num den : ℕ} (hnum : num ≠ 0) (hden : 0 < den)
    (h : x.lowEnd ≤ (num : ℚ) / den) (hlt : ratioExponent num den < x.exponent) :
    x.significand = 2 ^ 52 ∧ x.quartersBelow = 1 ∧ ratioExponent num den = x.exponent - 1 := by
  obtain ⟨hbottom, hbelow, -⟩ := ratioExponent_spec hnum hden
  have hquarter := x.quarter_pos
  have hquarters := x.quartersBelow_le
  have hnormal : -1074 < x.exponent := by omega
  unfold lowEnd at h
  -- The quotient lies below the power of two, so the significand cannot be above it.
  have hsig : x.significand = 2 ^ 52 := by
    have hscale := x.zpow_exponent_add 52
    push_cast at hscale
    have hp : (num : ℚ) / den < 2 ^ 54 * x.quarter := by
      rw [← hscale]
      exact lt_of_lt_of_le hbelow (zpow_le_zpow_right₀ (by norm_num) (by omega))
    have hlt : (x.significand : ℚ) < 2 ^ 52 + 1 := by nlinarith
    have hle := x.le_significand hnormal
    have hlt : x.significand < 2 ^ 52 + 1 := by exact_mod_cast hlt
    omega
  have hone : x.quartersBelow = 1 := by rw [quartersBelow, if_pos ⟨hsig, hnormal⟩]
  refine ⟨hsig, hone, ?_⟩
  -- A quarter below the magnitude is not enough to lose two places.
  have hscale := x.zpow_exponent_add 51
  push_cast at hscale
  by_contra hne
  have hpow : (2 : ℚ) ^ (ratioExponent num den + 53) ≤ 2 ^ (x.exponent + 51) :=
    zpow_le_zpow_right₀ (by norm_num) (by omega)
  rw [hscale] at hpow
  rw [hsig, hone] at h
  push_cast at h
  nlinarith

/-- Every quotient of the interval of a value rounds to the rank of this value. Either it is rounded
at the exponent of the value, or just below a power of two, where its significand is rounded up to
the next exponent. -/
theorem roundRatio_eq_rank (x : Binary64) {num den : ℕ} (hnum : num ≠ 0) (hden : 0 < den)
    (h : x.Covers ((num : ℚ) / den)) : roundRatio num den = x.rank := by
  obtain ⟨⟨hlow, hhigh⟩, htie⟩ := h
  have hround := @roundRatio_of_near num den
  have hrank := x.rank_eq
  have hquarter := x.quarter_pos
  rcases lt_or_eq_of_le (ratioExponent_le hnum hden hhigh) with hlt | heq
  · -- The quotient lies just below a power of two: its significand rounds up to 53 bits and one.
    obtain ⟨hsig, hone, hexp⟩ := ratioExponent_of_lt hnum hden hlow hlt
    obtain ⟨hbottom, hbelow, -⟩ := ratioExponent_spec hnum hden
    have hplace : (2 : ℚ) ^ (x.exponent - 1) = 2 * x.quarter := by
      rw [quarter, zpow_sub₀ (by norm_num), zpow_sub₀ (by norm_num)]
      ring
    rw [lowEnd, hsig, hone] at hlow
    rw [hexp, zpow_add₀ (by norm_num), hplace] at hbelow
    rw [hexp, hplace] at hround
    generalize (num : ℚ) / den = p at hlow hbelow hround
    norm_num at hlow hbelow
    have hresult := @hround (2 ^ 53) hnum hden (by push_cast; linarith) (by push_cast; linarith)
      (.inl (by norm_num))
    rw [hresult, hrank, hsig]
    omega
  · -- Both have the same place, so the interval is half of it to both sides, or less.
    have hquarters := x.quartersBelow_le
    rw [heq, ← x.four_mul_quarter] at hround
    unfold lowEnd at hlow htie
    unfold highEnd at hhigh htie
    generalize (num : ℚ) / den = p at hlow hhigh htie hround
    rw [hround hnum hden (by nlinarith) (by linarith), hrank]
    exact htie.imp_right fun hstrict => ⟨by nlinarith [hstrict.1], by linarith [hstrict.2]⟩

end SchemaGate.Binary64
