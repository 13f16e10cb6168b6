import SchemaGate.Json.Parser
import SchemaGate.Proofs.Number.Decimal
import SchemaGate.Proofs.Text.Run

/-!
# `SchemaGate.Proofs.Json.Number`: numbers are read back as they are written

A number is written as an integer without a point, or as the shortest decimal of a binary64 value
with a point or an exponent, so the reader can tell the two apart. `readNumber_write` says that it
gives back the number, whatever follows that could not belong to a number (`EndsNumber`).

The shortest decimal has four layouts. In each of them the digits and the exponent that the reader
puts together have the value of the decimal (`readsAs_write`), and any such decimal is read as
the binary64 value.
-/

set_option autoImplicit false

namespace SchemaGate.Json

/-! ### Digits -/

/-- A text behind a number that cannot continue it: it is empty, or starts with a character that is
neither a digit nor a point nor the letter of an exponent. -/
def EndsNumber (rest : List Char) : Prop :=
  ∀ c, rest.head? = some c → c.isDigit = false ∧ c ≠ '.' ∧ c ≠ 'e' ∧ c ≠ 'E'

/-- The value that the reader gives to digits is the one that the library gives to them, so the
facts of the library can be used. -/
theorem digitsValue_eq (ds : List Char) : digitsValue ds = Nat.ofDigitChars 10 ds 0 := by
  rw [Nat.ofDigitChars_eq_foldl, digitsValue]
  congr 1
  funext n c
  rw [Nat.mul_comm]

/-- The reader gives the digits of a number the value of this number. -/
theorem digitsValue_toDigits (n : ℕ) : digitsValue (Nat.toDigits 10 n) = n := by
  rw [digitsValue_eq, Nat.ofDigitChars_ten_toDigits]

/-- All characters among the digits of a number are digits. -/
theorem isDigit_of_mem_toDigits {n : ℕ} {c : Char} (h : c ∈ Nat.toDigits 10 n) :
    c.isDigit = true :=
  Nat.isDigit_of_mem_toDigits (by decide) (by decide) h

/-- Every number has a first digit, zero as well. -/
theorem exists_toDigits_eq_cons (n : ℕ) :
    ∃ c ds, Nat.toDigits 10 n = c :: ds ∧ c.isDigit = true := by
  obtain ⟨c, ds, hds⟩ := List.exists_cons_of_ne_nil (@Nat.toDigits_ne_nil n 10)
  refine ⟨c, ds, hds, isDigit_of_mem_toDigits (n := n) ?_⟩
  rw [hds]
  exact List.mem_cons_self

/-- The digits of a positive number do not start with a zero. The reader refuses a zero in front of
other digits, so this is needed wherever digits stand before a point. -/
theorem head?_toDigits {n : ℕ} (h : n ≠ 0) : (Nat.toDigits 10 n).head? ≠ some '0' := by
  induction n using Nat.strongRecOn with
  | ind n ih =>
      rcases Nat.lt_or_ge n 10 with hlt | hge
      · -- The first digit of a number of one digit is the number.
        rw [Nat.toDigits_of_lt_base hlt]
        have key : ∀ m < 10, m ≠ 0 → [Nat.digitChar m].head? ≠ some '0' := by decide
        exact key n hlt h
      · rw [Nat.toDigits_of_base_le (by decide) hge, List.head?_append_of_ne_nil _ (by simp)]
        exact ih (n / 10) (by omega) (by omega)

/-- The reader of digits takes all digits up to the first other character, and leaves the rest of
the text. -/
theorem readDigits_append {ds rest : List Char} (hds : ∀ c ∈ ds, c.isDigit = true)
    (hrest : ∀ c, rest.head? = some c → c.isDigit = false) :
    readDigits (ds ++ rest) = (ds, rest) := by
  obtain ⟨htake, hdrop⟩ := Text.takeWhile_run_append hds hrest
  rw [readDigits, htake, hdrop]

/-! ### The parts of a number -/

/-- The whole part of a number as the reader accepts it: at least one digit, and no zero in front of
others. -/
def IsWhole (whole : List Char) : Prop :=
  (∀ c ∈ whole, c.isDigit = true) ∧ ¬(whole.isEmpty ∨ (whole.length > 1 ∧ whole.head? = some '0'))

/-- The digits of a number are a whole part that the reader accepts. -/
theorem isWhole_toDigits (n : ℕ) : IsWhole (Nat.toDigits 10 n) := by
  refine ⟨fun c hc => isDigit_of_mem_toDigits hc, ?_⟩
  rintro (hempty | ⟨hlong, hzero⟩)
  · exact Nat.toDigits_ne_nil (List.isEmpty_iff.1 hempty)
  · by_cases hn : n = 0
    · subst hn
      exact absurd hlong (by decide)
    · exact head?_toDigits hn hzero

/-- What the reader makes of a magnitude whose three parts it has read: digits, perhaps a fraction,
perhaps an exponent. Digits alone are an integer if it fits and is no negative zero; everything else
is a float. -/
theorem readMagnitude_eq {negative : Bool} {whole fraction t₁ t₂ t₃ rest : List Char}
    {exponent : Option Int} (hwhole : IsWhole whole) (h₁ : readDigits t₁ = (whole, t₂))
    (h₂ : readFraction t₂ = some (fraction, t₃)) (h₃ : readExponent t₃ = some (exponent, rest)) :
    readMagnitude negative t₁ =
      match (if (fraction.isEmpty && exponent.isNone) = true
            ∧ ¬(negative = true ∧ digitsValue whole = 0) then
          Number.ofInt? (if negative then -(digitsValue whole : Int) else digitsValue whole)
        else none) with
      | some value => some (value, rest)
      | none => (Binary64.ofDecimal? negative (digitsValue (whole ++ fraction))
          (exponent.getD 0 - fraction.length)).map fun x => (.float x, rest) := by
  simp only [readMagnitude, h₁, if_neg hwhole.2, h₂, h₃, bind, Option.bind, pure, Option.map]
  split
  · next heq => simp only [heq]
  · next heq =>
    simp only [heq]
    cases Binary64.ofDecimal? negative (digitsValue (whole ++ fraction))
      (exponent.getD 0 - fraction.length) <;> rfl

/-- Behind a point the reader takes all digits up to the first other character as the fraction. -/
theorem readFraction_point {ds rest : List Char} (hds : ∀ c ∈ ds, c.isDigit = true)
    (hne : ds ≠ []) (hrest : ∀ c, rest.head? = some c → c.isDigit = false) :
    readFraction ('.' :: (ds ++ rest)) = some (ds, rest) := by
  have hempty : ds.isEmpty = false := by simp [hne]
  simp only [readFraction, readDigits_append hds hrest, hempty, Bool.false_eq_true, if_false]

/-- Where no point follows the whole part there is no fraction, and nothing is taken off the
text. -/
theorem readFraction_none {rest : List Char} (h : rest.head? ≠ some '.') :
    readFraction rest = some ([], rest) := by
  unfold readFraction
  split
  · exact absurd rfl h
  · rfl

/-- Where no letter of an exponent follows there is no exponent, and nothing is taken off the
text. -/
theorem readExponent_none {rest : List Char} (h : rest.head? ≠ some 'e')
    (h' : rest.head? ≠ some 'E') :
    readExponent rest = some (none, rest) := by
  cases rest with
  | nil => rfl
  | cons c rest =>
      have hc : ¬(c = 'e' ∨ c = 'E') := by
        rintro (rfl | rfl)
        · exact h rfl
        · exact h' rfl
      unfold readExponent
      exact if_neg hc

/-- Behind the letter of an exponent and its sign the reader takes all digits up to the first other
character, and gives their value the sign. Printed exponents always have a sign. -/
theorem readExponent_sign (negative : Bool) {ds rest : List Char}
    (hds : ∀ c ∈ ds, c.isDigit = true) (hne : ds ≠ [])
    (hrest : ∀ c, rest.head? = some c → c.isDigit = false) :
    readExponent ('e' :: (if negative then '-' else '+') :: (ds ++ rest))
      = some (some (if negative then -(digitsValue ds : Int) else digitsValue ds), rest) := by
  have hempty : ds.isEmpty = false := by simp [hne]
  cases negative <;>
    simp [readExponent, readDigits_append hds hrest, hempty]

/-! ### The layouts -/

/-- A magnitude with a point, and without an exponent, is read as the float of all its digits,
scaled down by one power of ten for each digit behind the point. -/
theorem readMagnitude_point (negative : Bool) {whole fraction rest : List Char}
    (hwhole : IsWhole whole) (hfraction : ∀ c ∈ fraction, c.isDigit = true) (hne : fraction ≠ [])
    (hrest : EndsNumber rest) :
    readMagnitude negative (whole ++ '.' :: (fraction ++ rest))
      = (Binary64.ofDecimal? negative (digitsValue (whole ++ fraction)) (-fraction.length)).map
        fun x => (.float x, rest) := by
  have h₁ : readDigits (whole ++ '.' :: (fraction ++ rest))
      = (whole, '.' :: (fraction ++ rest)) := by
    refine readDigits_append hwhole.1 fun c hc => ?_
    cases hc
    decide
  have h₂ := readFraction_point hfraction hne fun c hc => (hrest c hc).1
  have h₃ : readExponent rest = some (none, rest) :=
    readExponent_none (fun h => (hrest _ h).2.2.1 rfl) fun h => (hrest _ h).2.2.2 rfl
  -- With a fraction the reader does not look for an integer.
  have hempty : fraction.isEmpty = false := by simp [hne]
  rw [readMagnitude_eq hwhole h₁ h₂ h₃, hempty]
  simp

/-- The digits of a mantissa as they are written, with a point behind the first one if there are
others. -/
def mantissa : List Char → List Char
  | c :: d :: rest => c :: '.' :: d :: rest
  | ds => ds

/-- A mantissa with an exponent is read as the float of all its digits, scaled by the exponent and
down by one power of ten for each digit behind the point. -/
theorem readMagnitude_scientific (negative : Bool) {c : Char} {fraction rest : List Char}
    (hc : c.isDigit = true) (hfraction : ∀ c ∈ fraction, c.isDigit = true)
    (hrest : EndsNumber rest) (lead : Int) :
    readMagnitude negative (mantissa (c :: fraction) ++ 'e' :: (if lead < 0 then '-' else '+')
        :: (Nat.toDigits 10 lead.natAbs ++ rest))
      = (Binary64.ofDecimal? negative (digitsValue (c :: fraction)) (lead - fraction.length)).map
        fun x => (.float x, rest) := by
  have hwhole : IsWhole [c] := by
    refine ⟨fun d hd => ?_, by simp⟩
    rw [List.mem_singleton.1 hd]
    exact hc
  -- The writer decides by the sign of the exponent, the reader by its character.
  have hsign : (if lead < 0 then '-' else '+') = if decide (lead < 0) then '-' else '+' := by
    simp
  have hlead : (if decide (lead < 0) then -(digitsValue (Nat.toDigits 10 lead.natAbs) : Int)
      else digitsValue (Nat.toDigits 10 lead.natAbs)) = lead := by
    rw [digitsValue_toDigits]
    split
    · next h => have := of_decide_eq_true h; omega
    · next h => have := of_decide_eq_false (Bool.eq_false_iff.2 h); omega
  have h₃ := @readExponent_sign (decide (lead < 0)) (Nat.toDigits 10 lead.natAbs) rest
    (fun c hc => isDigit_of_mem_toDigits hc) Nat.toDigits_ne_nil fun c hc => (hrest c hc).1
  rw [hlead] at h₃
  rw [hsign]
  generalize hexp : 'e' :: (if decide (lead < 0) then '-' else '+')
    :: (Nat.toDigits 10 lead.natAbs ++ rest) = t at h₃ ⊢
  -- The letter stops the digits in front of it, and it is no point.
  have ht : ∀ d, t.head? = some d → d = 'e' := by
    intro d hd
    rw [← hexp] at hd
    cases hd
    rfl
  have hstop : ∀ d, t.head? = some d → d.isDigit = false := by
    intro d hd
    rw [ht d hd]
    decide
  cases fraction with
  | nil =>
      have h₁ : readDigits ([c] ++ t) = ([c], t) := readDigits_append hwhole.1 hstop
      have h₂ : readFraction t = some ([], t) :=
        readFraction_none fun h => absurd (ht _ h) (by decide)
      show readMagnitude negative ([c] ++ t) = _
      rw [readMagnitude_eq hwhole h₁ h₂ h₃]
      simp
  | cons d fraction =>
      have h₁ : readDigits ([c] ++ '.' :: (d :: fraction ++ t))
          = ([c], '.' :: (d :: fraction ++ t)) := by
        refine readDigits_append hwhole.1 fun e he => ?_
        cases he
        decide
      have h₂ := readFraction_point hfraction (by simp) hstop
      show readMagnitude negative ([c] ++ '.' :: (d :: fraction ++ t)) = _
      rw [readMagnitude_eq hwhole h₁ h₂ h₃]
      simp

/-! ### Numbers -/

/-- Zeros in front of digits do not change their value. -/
theorem digitsValue_zeros_append (n : ℕ) (ds : List Char) :
    digitsValue (List.replicate n '0' ++ ds) = digitsValue ds := by
  rw [digitsValue_eq, digitsValue_eq, Nat.ofDigitChars_append, Nat.ofDigitChars_replicate_zero,
    Nat.mul_zero]

/-- Zeros behind digits multiply their value by powers of ten. -/
theorem digitsValue_append_zeros (ds : List Char) (n : ℕ) :
    digitsValue (ds ++ List.replicate n '0') = 10 ^ n * digitsValue ds := by
  rw [digitsValue_eq, digitsValue_eq, Nat.ofDigitChars_append, Nat.ofDigitChars_replicate_zero]

/-- Zeros that fill up a decimal are digits. -/
theorem isDigit_of_mem_zeros {n : ℕ} {c : Char} (h : c ∈ List.replicate n '0') :
    c.isDigit = true := by
  rw [(List.mem_replicate.1 h).2]
  decide

/-- The first digits of a whole part that the reader accepts are one that it accepts, as long as
there is at least one of them. -/
theorem isWhole_take {ds : List Char} (h : IsWhole ds) {n : ℕ} (hn : n ≠ 0) :
    IsWhole (ds.take n) := by
  refine ⟨fun c hc => h.1 c (List.mem_of_mem_take hc), ?_⟩
  -- Where the shorter one is empty, or starts with a zero, so does the longer one.
  rintro (hempty | ⟨hlong, hzero⟩)
  · rcases List.take_eq_nil_iff.1 (List.isEmpty_iff.1 hempty) with hn' | hds
    · exact hn hn'
    · exact h.2 (.inl (List.isEmpty_iff.2 hds))
  · refine h.2 (.inr ⟨?_, ?_⟩)
    · have := List.length_take_le' n ds
      omega
    · rwa [List.head?_take, if_neg hn] at hzero

/-- A whole part that does not start with a zero is still accepted with zeros behind it. -/
theorem isWhole_append_zeros {ds : List Char} (h : IsWhole ds) (hhead : ds.head? ≠ some '0')
    (n : ℕ) : IsWhole (ds ++ List.replicate n '0') := by
  have hne : ds ≠ [] := fun hnil => h.2 (.inl (List.isEmpty_iff.2 hnil))
  refine ⟨fun c hc => ?_, ?_⟩
  · rcases List.mem_append.1 hc with hc | hc
    · exact h.1 c hc
    · exact isDigit_of_mem_zeros hc
  · rintro (hempty | ⟨-, hzero⟩)
    · exact hne (List.append_eq_nil_iff.1 (List.isEmpty_iff.1 hempty)).1
    · rw [List.head?_append_of_ne_nil _ hne] at hzero
      exact hhead hzero

/-- A text is read as the float of a decimal with a given value, and the reader stops right before
`rest`. The digits and the exponent that it puts together may differ from those that were written;
only their value counts. -/
def ReadsAs (negative : Bool) (text rest : List Char) (q : ℚ) : Prop :=
  ∃ (digits : ℕ) (exponent : ℤ), (digits : ℚ) * 10 ^ exponent = q ∧
    readMagnitude negative (text ++ rest)
      = (Binary64.ofDecimal? negative digits exponent).map fun x => (.float x, rest)

/-- The layout of a decimal without a fraction: all digits in front of the point, zeros to fill up
the places, and a single zero behind the point. The reader puts together its value. -/
theorem readsAs_whole (negative : Bool) {n k : ℕ} (h : n ≠ 0 ∨ k = 0) {rest : List Char}
    (hrest : EndsNumber rest) :
    ReadsAs negative (Nat.toDigits 10 n ++ List.replicate k '0' ++ ['.', '0']) rest
      (n * 10 ^ (k : ℤ)) := by
  have hwhole : IsWhole (Nat.toDigits 10 n ++ List.replicate k '0') := by
    rcases h with hn | rfl
    · exact isWhole_append_zeros (isWhole_toDigits n) (head?_toDigits hn) k
    · rw [List.replicate_zero, List.append_nil]
      exact isWhole_toDigits n
  have hdigits : digitsValue (Nat.toDigits 10 n ++ List.replicate k '0' ++ ['0'])
      = 10 ^ (k + 1) * n := by
    rw [List.append_assoc, ← List.replicate_succ', digitsValue_append_zeros, digitsValue_toDigits]
  have hread := @readMagnitude_point negative _ ['0'] rest hwhole (by simp) (by simp) hrest
  rw [hdigits] at hread
  refine ⟨10 ^ (k + 1) * n, -1, ?_, ?_⟩
  · push_cast
    rw [zpow_natCast, zpow_neg, pow_succ]
    norm_num
    ring
  · rw [List.append_assoc]
    exact hread

/-- The layout of a decimal whose point stands between its digits. The reader puts together its
value. -/
theorem readsAs_split (negative : Bool) {n j : ℕ} (hj : j ≠ 0)
    (hlt : j < (Nat.toDigits 10 n).length) {rest : List Char} (hrest : EndsNumber rest) :
    ReadsAs negative ((Nat.toDigits 10 n).take j ++ '.' :: (Nat.toDigits 10 n).drop j) rest
      (n * 10 ^ ((j : ℤ) - (Nat.toDigits 10 n).length)) := by
  have hlast : (Nat.toDigits 10 n).drop j ≠ [] := by
    rw [Ne, List.drop_eq_nil_iff]
    omega
  have hread := readMagnitude_point negative (isWhole_take (isWhole_toDigits n) hj)
    (fun c hc => isDigit_of_mem_toDigits (List.mem_of_mem_drop hc)) hlast hrest
  rw [List.take_append_drop, digitsValue_toDigits, List.length_drop] at hread
  refine ⟨n, -(((Nat.toDigits 10 n).length - j : ℕ) : ℤ), ?_, ?_⟩
  · congr 2
    omega
  · rw [List.append_assoc, List.cons_append]
    exact hread

/-- The layout of a decimal below one: a zero, the point, zeros to fill up the places, and the
digits. The reader puts together its value. -/
theorem readsAs_fraction (negative : Bool) (n m : ℕ) {rest : List Char} (hrest : EndsNumber rest) :
    ReadsAs negative ('0' :: '.' :: List.replicate m '0' ++ Nat.toDigits 10 n) rest
      (n * 10 ^ (-((m + (Nat.toDigits 10 n).length : ℕ) : ℤ))) := by
  have hfraction : ∀ c ∈ List.replicate m '0' ++ Nat.toDigits 10 n, c.isDigit = true := by
    intro c hc
    rcases List.mem_append.1 hc with hc | hc
    · exact isDigit_of_mem_zeros hc
    · exact isDigit_of_mem_toDigits hc
  have hne : List.replicate m '0' ++ Nat.toDigits 10 n ≠ [] :=
    fun hnil => Nat.toDigits_ne_nil (List.append_eq_nil_iff.1 hnil).2
  have hdigits : digitsValue (['0'] ++ (List.replicate m '0' ++ Nat.toDigits 10 n)) = n := by
    rw [← List.append_assoc, show ['0'] ++ List.replicate m '0' = List.replicate (m + 1) '0'
      from rfl, digitsValue_zeros_append, digitsValue_toDigits]
  have hread := readMagnitude_point negative (isWhole_toDigits 0) hfraction hne hrest
  rw [show Nat.toDigits 10 0 = ['0'] from rfl, hdigits] at hread
  refine ⟨n, _, ?_, hread⟩
  rw [List.length_append, List.length_replicate]

/-- The layout of a decimal that is very large or very small: the point behind the first digit, and
an exponent with its sign. The reader puts together its value. -/
theorem readsAs_scientific (negative : Bool) (n : ℕ) (lead : ℤ) {rest : List Char}
    (hrest : EndsNumber rest) :
    ReadsAs negative (mantissa (Nat.toDigits 10 n) ++ 'e' :: (if lead < 0 then '-' else '+')
        :: Nat.toDigits 10 lead.natAbs) rest
      (n * 10 ^ (lead - ((Nat.toDigits 10 n).length - 1 : ℕ))) := by
  have hdigit : ∀ c ∈ Nat.toDigits 10 n, c.isDigit = true := fun c hc => isDigit_of_mem_toDigits hc
  have hvalue := digitsValue_toDigits n
  obtain ⟨c, fraction, hds, -⟩ := exists_toDigits_eq_cons n
  rw [hds] at hdigit hvalue ⊢
  have hread := readMagnitude_scientific negative (hdigit c List.mem_cons_self)
    (fun d hd => hdigit d (List.mem_cons_of_mem _ hd)) hrest lead
  rw [hvalue] at hread
  refine ⟨n, _, rfl, ?_⟩
  rw [List.append_assoc]
  exact hread

/-- In each of the four layouts the reader puts together the value of the decimal that is written.
For zero the exponent has to be zero, as it is for the shortest decimal. -/
theorem readsAs_write (negative : Bool) (d : Decimal) (hd : d.digits ≠ 0 ∨ d.exponent = 0)
    {rest : List Char} (hrest : EndsNumber rest) :
    ReadsAs negative (d.write .json).toList rest d.value := by
  obtain ⟨n, e⟩ := d
  have hlen : 0 < (Nat.toDigits 10 n).length := Nat.length_toDigits_pos
  simp only [Decimal.write, DecimalLayout.json, Option.all_some, String.toList_ofList,
    Decimal.value] at hd ⊢
  split
  · split
    · next hexp =>
      obtain ⟨k, rfl⟩ := Int.eq_ofNat_of_zero_le hexp
      exact readsAs_whole negative (hd.imp_right Int.ofNat_eq_zero.1) hrest
    · split
      · next hexp hlead =>
        obtain ⟨j, hj⟩ := Int.eq_ofNat_of_zero_le hlead
        have he : e = ((j + 1 : ℕ) : ℤ) - (Nat.toDigits 10 n).length := by omega
        rw [hj, Int.toNat_natCast, he]
        exact readsAs_split negative (Nat.succ_ne_zero j) (by omega) hrest
      · next hexp hlead =>
        generalize hm : (-(e + ((Nat.toDigits 10 n).length - 1 : ℕ)) - 1).toNat = m
        have he : e = -((m + (Nat.toDigits 10 n).length : ℕ) : ℤ) := by omega
        rw [he]
        exact readsAs_fraction negative n m hrest
  · have hread := readsAs_scientific negative n (e + ((Nat.toDigits 10 n).length - 1 : ℕ)) hrest
    rw [add_sub_cancel_right] at hread
    exact hread

/-- A text that starts with a digit is read as a magnitude without a sign. -/
theorem readNumber_of_isDigit {c : Char} {rest : List Char} (h : c.isDigit = true) :
    readNumber (c :: rest) = readMagnitude false (c :: rest) := by
  unfold readNumber
  split
  · next heq =>
    rw [(List.cons.inj heq).1] at h
    exact absurd h (by decide)
  · rfl

/-- The text of a decimal starts with a digit, in each of its layouts. -/
theorem exists_write_eq_cons (d : Decimal) :
    ∃ c rest, (d.write .json).toList = c :: rest ∧ c.isDigit = true := by
  obtain ⟨c, ds, hds, hc⟩ := exists_toDigits_eq_cons d.digits
  simp only [Decimal.write, String.toList_ofList, hds]
  split
  · split
    · exact ⟨c, _, rfl, hc⟩
    · split
      · exact ⟨c, _, rfl, hc⟩
      · exact ⟨'0', _, rfl, by decide⟩
  · cases ds with
    | nil => exact ⟨c, _, rfl, hc⟩
    | cons e ds => exact ⟨c, _, rfl, hc⟩

/-- The text of a natural number consists of its digits. -/
theorem toList_toString_ofNat (m : ℕ) : (toString (Int.ofNat m)).toList = Nat.toDigits 10 m := by
  show (Nat.repr m).toList = _
  rw [Nat.toList_repr]

/-- The text of a negative integer consists of a sign and the digits of its magnitude. -/
theorem toList_toString_negSucc (m : ℕ) :
    (toString (Int.negSucc m)).toList = '-' :: Nat.toDigits 10 (m + 1) := by
  show ("-" ++ Nat.repr (m + 1)).toList = _
  rw [String.toList_append, Nat.toList_repr]
  rfl

/-- The text of a number starts with a sign or a digit, so a reader of values knows that a number
follows. -/
theorem exists_number_eq_cons (n : Number) :
    ∃ c text, n.write.toList = c :: text ∧ (c = '-' ∨ c.isDigit = true) := by
  cases n with
  | integer n h =>
      rw [Number.write]
      cases n with
      | ofNat m =>
          obtain ⟨c, ds, hds, hc⟩ := exists_toDigits_eq_cons m
          exact ⟨c, ds, (toList_toString_ofNat m).trans hds, .inr hc⟩
      | negSucc m => exact ⟨'-', _, toList_toString_negSucc m, .inl rfl⟩
  | float x =>
      obtain ⟨c, text, htext, hc⟩ := exists_write_eq_cons x.shortestDigits
      rw [Number.write, Binary64.write]
      cases x.negative with
      | true =>
          refine ⟨'-', (x.shortestDigits.write .json).toList, ?_, .inl rfl⟩
          rw [if_pos rfl, String.toList_append]
          rfl
      | false => exact ⟨c, text, htext, .inr hc⟩

/-- A float is read back from its text, its sign and a zero with a sign included. Behind it may
stand anything that does not continue a number. -/
theorem readNumber_write_float (x : Binary64) {rest : List Char} (hrest : EndsNumber rest) :
    readNumber ((x.write .json).toList ++ rest) = some (.float x, rest) := by
  -- A decimal of no digits is the one of zero, which has no exponent either.
  have hdecimal : x.shortestDigits.digits ≠ 0 ∨ x.shortestDigits.exponent = 0 := by
    by_cases hx : x.significand = 0
    · exact .inr (by rw [Binary64.shortestDigits, if_pos hx])
    · exact .inl (x.shortestDigits_covers hx).1
  obtain ⟨digits, exponent, hvalue, hread⟩ :=
    readsAs_write x.negative x.shortestDigits hdecimal hrest
  -- Whatever digits and exponent the reader has put together, their value is the shortest one.
  rw [x.ofDecimal?_of_value_eq hvalue] at hread
  obtain ⟨c, text, htext, hc⟩ := exists_write_eq_cons x.shortestDigits
  rw [Binary64.write]
  cases hsign : x.negative with
  | true =>
      rw [hsign] at hread
      rw [if_pos rfl, String.toList_append]
      exact hread
  | false =>
      rw [hsign] at hread
      rw [if_neg (by decide), htext, List.cons_append, readNumber_of_isDigit hc]
      rw [htext] at hread
      exact hread

/-- Digits alone are read as an integer, with the sign that was read before. A zero with a sign is
no integer but a float, so it is left out. -/
theorem readMagnitude_toDigits (negative : Bool) (m : ℕ) {rest : List Char}
    (hrest : EndsNumber rest) (hm : negative = true → m ≠ 0) {value : Number}
    (hvalue : Number.ofInt? (if negative then -(m : Int) else m) = some value) :
    readMagnitude negative (Nat.toDigits 10 m ++ rest) = some (value, rest) := by
  have h₁ : readDigits (Nat.toDigits 10 m ++ rest) = (Nat.toDigits 10 m, rest) :=
    readDigits_append (isWhole_toDigits m).1 fun c hc => (hrest c hc).1
  have h₂ : readFraction rest = some ([], rest) :=
    readFraction_none fun h => (hrest _ h).2.1 rfl
  have h₃ : readExponent rest = some (none, rest) :=
    readExponent_none (fun h => (hrest _ h).2.2.1 rfl) fun h => (hrest _ h).2.2.2 rfl
  have hplain : (([] : List Char).isEmpty && (none : Option Int).isNone) = true
      ∧ ¬(negative = true ∧ m = 0) := ⟨rfl, fun h => hm h.1 h.2⟩
  rw [readMagnitude_eq (isWhole_toDigits m) h₁ h₂ h₃, digitsValue_toDigits, if_pos hplain, hvalue]

/-- An integer within the bounds for integers is read back from its text. Behind it may stand
anything that does not continue a number. -/
theorem readNumber_write_integer (n : Int) (h : -2 ^ 63 ≤ n ∧ n < 2 ^ 64) {rest : List Char}
    (hrest : EndsNumber rest) :
    readNumber ((toString n).toList ++ rest) = some (.integer n h, rest) := by
  have hvalue : Number.ofInt? n = some (.integer n h) := dif_pos h
  cases n with
  | ofNat m =>
      obtain ⟨c, ds, hds, hc⟩ := exists_toDigits_eq_cons m
      have hread := readMagnitude_toDigits false m hrest (fun h => absurd h (by decide)) hvalue
      rw [toList_toString_ofNat, hds, List.cons_append, readNumber_of_isDigit hc]
      rw [hds] at hread
      exact hread
  | negSucc m =>
      rw [toList_toString_negSucc]
      exact readMagnitude_toDigits true (m + 1) hrest (fun _ => Nat.succ_ne_zero m) hvalue

/-- Every number is read back from its text, with its representation: an integer as an integer and a
float as a float. Behind it may stand anything that does not continue a number. -/
theorem readNumber_write (n : Number) {rest : List Char} (hrest : EndsNumber rest) :
    readNumber (n.write.toList ++ rest) = some (n, rest) := by
  cases n with
  | integer n h => exact readNumber_write_integer n h hrest
  | float x => exact readNumber_write_float x hrest

end SchemaGate.Json
