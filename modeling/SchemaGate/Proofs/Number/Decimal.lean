import SchemaGate.Proofs.Number.Shortest

/-!
# `SchemaGate.Proofs.Number.Decimal`: a decimal that rounds to a value is read as this value

`ofDecimal?` refuses decimals far outside the finite values and takes very small ones to zero before
it rounds. A decimal that rounds to a value has a size well inside these limits
(`size_of_covers`), so it is rounded, and to this value (`ofDecimal?_of_covers`).
-/

set_option autoImplicit false

namespace SchemaGate.Binary64

/-! ### Sizes -/

/-- A positive number of `k` decimal digits lies between the powers of ten with the exponents
`k - 1` and `k`, and `k` is positive. -/
theorem decimalLength_spec {n : ℕ} (h : n ≠ 0) :
    10 ^ (decimalLength n - 1) ≤ n ∧ n < 10 ^ decimalLength n ∧ 0 < decimalLength n := by
  have hpos : 0 < decimalLength n := Nat.length_toDigits_pos
  refine ⟨?_, (Nat.length_toDigits_le_iff (by decide) hpos).1 (Nat.le_refl _), hpos⟩
  rcases Nat.eq_or_lt_of_le (show 1 ≤ decimalLength n from hpos) with hone | hmore
  · rw [← hone]
    exact Nat.pos_of_ne_zero h
  · -- A number below this power would be shorter.
    by_contra hlt
    have hshort := (Nat.length_toDigits_le_iff (by decide : 1 < 10)
      (show 0 < decimalLength n - 1 by omega)).2 (not_le.1 hlt)
    have : decimalLength n ≤ decimalLength n - 1 := hshort
    omega

/-- The upper end of the interval of any value lies below `2 ^ 1024`. So no number that rounds to a
value is too large to be read. -/
theorem highEnd_lt (x : Binary64) : x.highEnd < 2 ^ 1024 := by
  have hsig : (x.significand : ℚ) + 1 ≤ 2 ^ 53 := by exact_mod_cast x.significand_lt
  have hquarter : x.quarter ≤ 2 ^ (969 : ℤ) := by
    have := x.exponent_le
    exact zpow_le_zpow_right₀ (by norm_num) (by omega)
  have hnat : (2 : ℚ) ^ (969 : ℤ) = 2 ^ 969 := zpow_natCast 2 969
  rw [hnat] at hquarter
  have hpos := x.quarter_pos
  calc x.highEnd = (4 * x.significand + 2) * x.quarter := rfl
    _ < 2 ^ 55 * x.quarter := by nlinarith
    _ ≤ 2 ^ 55 * 2 ^ 969 := mul_le_mul_of_nonneg_left hquarter (by norm_num)
    _ = 2 ^ 1024 := by rw [← pow_add]

/-- The lower end of the interval of a value other than zero is at least half of the least positive
value. So no number that rounds to such a value is taken for zero. -/
theorem le_lowEnd (x : Binary64) (h : x.significand ≠ 0) : ((2 : ℚ) ^ 1075)⁻¹ ≤ x.lowEnd := by
  have hsig : (1 : ℚ) ≤ x.significand := by exact_mod_cast Nat.pos_of_ne_zero h
  have hbelow : (x.quartersBelow : ℚ) ≤ 2 := by exact_mod_cast x.quartersBelow_bounds.2
  have hquarter : (2 : ℚ) ^ (-1076 : ℤ) ≤ x.quarter := by
    have := x.le_exponent
    exact zpow_le_zpow_right₀ (by norm_num) (by omega)
  have hnat : (2 : ℚ) ^ (-1076 : ℤ) = (2 ^ 1076)⁻¹ := by
    rw [zpow_neg]
    exact congrArg _ (zpow_natCast 2 1076)
  rw [hnat] at hquarter
  have hhalf : ((2 : ℚ) ^ 1075)⁻¹ = 2 * (2 ^ 1076)⁻¹ := by
    rw [pow_succ 2 1075, mul_inv, mul_left_comm, mul_inv_cancel₀ two_ne_zero, mul_one]
  have hpos := x.quarter_pos
  calc ((2 : ℚ) ^ 1075)⁻¹ = 2 * (2 ^ 1076)⁻¹ := hhalf
    _ ≤ 2 * x.quarter := mul_le_mul_of_nonneg_left hquarter (by norm_num)
    _ ≤ (4 * x.significand - x.quartersBelow) * x.quarter := by nlinarith
    _ = x.lowEnd := rfl

/-- Take a decimal that rounds to a value other than zero. The place of its leading digit lies
between `-400` and `400`, within the bounds outside of which reading decides without computing. -/
theorem size_of_covers (x : Binary64) (hx : x.significand ≠ 0) {digits : ℕ} {exponent : ℤ}
    (hd : digits ≠ 0) (h : x.Covers (digits * 10 ^ exponent)) :
    -400 ≤ exponent + decimalLength digits ∧ exponent + decimalLength digits ≤ 400 := by
  obtain ⟨hlow, hhigh, hlen⟩ := decimalLength_spec hd
  have hlowq : (10 : ℚ) ^ (decimalLength digits - 1) ≤ digits := by exact_mod_cast hlow
  have hhighq : (digits : ℚ) < 10 ^ decimalLength digits := by exact_mod_cast hhigh
  have hpos := ten_zpow_pos exponent
  constructor
  · by_contra hlt
    -- The decimal would lie below the interval of any value.
    have hsmall : (digits : ℚ) * 10 ^ exponent < 10 ^ (-401 : ℤ) := by
      calc (digits : ℚ) * 10 ^ exponent < 10 ^ decimalLength digits * 10 ^ exponent :=
            mul_lt_mul_of_pos_right hhighq hpos
        _ = 10 ^ (decimalLength digits + exponent) := by
            rw [zpow_add₀ (by norm_num), zpow_natCast]
        _ ≤ 10 ^ (-401 : ℤ) := zpow_le_zpow_right₀ (by norm_num) (by omega)
    have hnat : (10 : ℚ) ^ (-401 : ℤ) = (10 ^ 401)⁻¹ := by
      rw [zpow_neg]
      exact congrArg _ (zpow_natCast 10 401)
    have hpow : ((10 : ℚ) ^ 401)⁻¹ ≤ (2 ^ 1075)⁻¹ := by
      have : (2 : ℕ) ^ 1075 ≤ 10 ^ 401 := by decide +kernel
      exact inv_anti₀ (by positivity) (by exact_mod_cast this)
    rw [hnat] at hsmall
    exact absurd (hsmall.trans_le hpow) (not_lt.2 ((x.le_lowEnd hx).trans h.1.1))
  · by_contra hgt
    -- It would lie above the interval of any value.
    have hlarge : (10 : ℚ) ^ (400 : ℤ) ≤ digits * 10 ^ exponent := by
      calc (10 : ℚ) ^ (400 : ℤ) ≤ 10 ^ (((decimalLength digits - 1 : ℕ) : ℤ) + exponent) :=
            zpow_le_zpow_right₀ (by norm_num) (by omega)
        _ = 10 ^ (decimalLength digits - 1) * 10 ^ exponent := by
            rw [zpow_add₀ (by norm_num), zpow_natCast]
        _ ≤ digits * 10 ^ exponent := mul_le_mul_of_nonneg_right hlowq hpos.le
    have hnat : (10 : ℚ) ^ (400 : ℤ) = 10 ^ 400 := zpow_natCast 10 400
    have hpow : (2 : ℚ) ^ 1024 ≤ 10 ^ 400 := by
      have : (2 : ℕ) ^ 1024 ≤ 10 ^ 400 := by decide +kernel
      exact_mod_cast this
    rw [hnat] at hlarge
    exact absurd (hlarge.trans h.1.2) (not_le.2 (lt_of_lt_of_le x.highEnd_lt hpow))

/-! ### Reading -/

/-- A value can be found by its own sign and rank. -/
theorem ofRank?_rank (x : Binary64) : ofRank? x.negative x.rank = some x := dif_pos x.rank_lt

/-- A decimal that rounds to a value other than zero is read as this value. The two bounds on its
size hold, so its quotient is rounded, and that gives the rank of the value. -/
theorem ofDecimal?_of_covers (x : Binary64) (hx : x.significand ≠ 0) {digits : ℕ} {exponent : ℤ}
    (hd : digits ≠ 0) (h : x.Covers (digits * 10 ^ exponent)) :
    ofDecimal? x.negative digits exponent = some x := by
  obtain ⟨hlow, hhigh⟩ := x.size_of_covers hx hd h
  simp only [ofDecimal?, if_neg hd, if_neg (not_lt.2 hlow), if_neg (not_lt.2 hhigh)]
  split
  · next hexp =>
    -- A decimal without places is an integer over one.
    obtain ⟨n, rfl⟩ := Int.eq_ofNat_of_zero_le hexp
    have hquot : ((digits * 10 ^ n : ℕ) : ℚ) / (1 : ℕ) = digits * 10 ^ (n : ℤ) := by
      rw [Nat.cast_one, div_one, Nat.cast_mul, Nat.cast_pow, zpow_natCast]
      rfl
    rw [Int.toNat_natCast, roundRatio_eq_rank x (by positivity) (by decide) (hquot ▸ h),
      ofRank?_rank]
  · next hexp =>
    -- A decimal with places is an integer over a power of ten.
    obtain ⟨n, rfl⟩ : ∃ n : ℕ, exponent = -(n : ℤ) := ⟨(-exponent).toNat, by omega⟩
    have hquot : (digits : ℚ) / (10 ^ n : ℕ) = digits * 10 ^ (-(n : ℤ)) := by
      rw [zpow_neg, zpow_natCast, div_eq_mul_inv, Nat.cast_pow]
      rfl
    rw [neg_neg, Int.toNat_natCast, roundRatio_eq_rank x hd (by positivity) (hquot ▸ h),
      ofRank?_rank]

/-- Every decimal that is as large as the shortest one of a value is read as this value, with
whatever digits and exponent it is written. This covers the value zero as well, whose only digit is
zero. -/
theorem ofDecimal?_of_value_eq (x : Binary64) {digits : ℕ} {exponent : ℤ}
    (h : (digits : ℚ) * 10 ^ exponent = x.shortestDigits.value) :
    ofDecimal? x.negative digits exponent = some x := by
  by_cases hx : x.significand = 0
  · -- Zero is written as zero and read before anything is rounded.
    have hrank : x.rank = 0 := by
      have := x.rank_eq
      unfold significand at hx
      split at hx
      · exact hx
      · omega
    have hdigits : digits = 0 := by
      have hzero : x.shortestDigits = ⟨0, 0⟩ := if_pos hx
      have hpos := ten_zpow_pos exponent
      rw [hzero, Decimal.value, Nat.cast_zero, zero_mul, mul_eq_zero] at h
      exact_mod_cast h.resolve_right hpos.ne'
    rw [ofDecimal?, if_pos hdigits, ← hrank, ofRank?_rank]
  · obtain ⟨hne, hcovers⟩ := x.shortestDigits_covers hx
    rw [← h] at hcovers
    refine x.ofDecimal?_of_covers hx ?_ hcovers
    -- Digits that are zero would make the shortest decimal zero.
    rintro rfl
    rw [Nat.cast_zero, zero_mul, Decimal.value] at h
    have hpos := ten_zpow_pos x.shortestDigits.exponent
    rcases mul_eq_zero.1 h.symm with h | h
    · exact hne (by exact_mod_cast h)
    · exact hpos.ne' h

end SchemaGate.Binary64
