import Mathlib.Data.String.Basic
import Mathlib.Tactic.SplitIfs
import SchemaGate.Text.Utf8

/-!
# `SchemaGate.Proofs.Text.Utf8`: reading back, and the order of the bytes

`Utf8.decode_encode`: the reader gives back every text from its bytes. The step is one character:
`decodeFrom_encodeChar` reads the bytes of a character off the front of any bytes, with one case for
each length of the form, and the ranges of first and second bytes let the character through because
no character is a surrogate.

`Utf8.encode_lt_encode_iff`: texts are ordered as their bytes are. The first byte of a longer form
is larger, and inside one length the bytes are the digits of the code point, the highest first.
-/

set_option autoImplicit false

namespace SchemaGate.Text.Utf8

/-! ### One character -/

/-- The number of a character is not that of a surrogate, and lies below `0x110000`. The checks that
a reader of bytes makes leave out just the other numbers. -/
theorem toNat_valid (c : Char) : c.toNat < 0xD800 ∨ 0xDFFF < c.toNat ∧ c.toNat < 0x110000 := by
  have h := c.valid
  simpa [UInt32.isValidChar, Nat.isValidChar, Char.toNat_val] using h

/-- A byte that is given by a number below 256 has this number, because nothing is cut off. -/
theorem toNat_ofNat {n : Nat} (h : n < 256) : (UInt8.ofNat n).toNat = n := by
  rw [UInt8.toNat_ofNat']
  exact Nat.mod_eq_of_lt h

/-- A reader that goes on behind a character puts this character in front of what it reads there. If
it fails there, it fails altogether. -/
theorem bind_cons (r : Except Utf8Fault (List Char)) (c : Char) :
    (do let cs ← r; return c :: cs) = r.map (c :: ·) := by
  cases r <;> rfl

/-- A byte that carries six bits behind a first byte is recognized as one, whatever its six bits
are. -/
theorem isTail_of_toNat {v : Nat} {b : UInt8} (hb : b.toNat = v % 64 + 0x80) : isTail b = true := by
  simp only [isTail, UInt8.le_iff_toNat_le, hb, UInt8.reduceToNat, Bool.and_eq_true,
    decide_eq_true_eq]
  omega

/-- A number below 128 is written as one byte. A reader that meets this byte gives the character of
the number and goes on behind it. -/
theorem decodeFrom_one (offset v : Nat) (rest : List UInt8) {a : UInt8} (ha : a.toNat = v)
    (hv : v < 0x80) :
    decodeFrom offset (a :: rest) = (decodeFrom (offset + 1) rest).map (Char.ofNat v :: ·) := by
  have h1 : a < 0x80 := UInt8.lt_iff_toNat_lt.2 (by rw [ha]; exact hv)
  rw [decodeFrom.eq_def]
  simp only [if_pos h1, ha, bind_cons]

/-- A number from 128 to `0x7FF` is written in two bytes, with its lower six bits in the second one.
A reader that meets these bytes gives the character of the number and goes on behind them. -/
theorem decodeFrom_two (offset v : Nat) (rest : List UInt8) {a b : UInt8}
    (ha : a.toNat = v / 64 + 0xC0) (hb : b.toNat = v % 64 + 0x80)
    (hlow : 0x80 ≤ v) (hhigh : v < 0x800) :
    decodeFrom offset (a :: b :: rest)
      = (decodeFrom (offset + 2) rest).map (Char.ofNat v :: ·) := by
  have h1 : ¬ a < 0x80 := by
    simp only [UInt8.lt_iff_toNat_lt, ha, UInt8.reduceToNat]
    omega
  have h2 : 0xC2 ≤ a ∧ a ≤ 0xDF := by
    simp only [UInt8.le_iff_toNat_le, ha, UInt8.reduceToNat]
    omega
  have hb' : isTail b = true := isTail_of_toNat hb
  -- The payloads of the bytes make up the code point again.
  have hval : a.toNat % 32 * 64 + payload b = v := by
    rw [payload, ha, hb]
    omega
  rw [decodeFrom.eq_def]
  simp only [if_neg h1, if_pos h2, if_pos hb', hval, bind_cons]

/-- The second byte of a form of three bytes lies in the range that its first byte asks for. The
range leaves out numbers with a shorter form and surrogates, so both bounds of the number are
used. -/
theorem isSecond_three {v : Nat} {a b : UInt8} (ha : a.toNat = v / 4096 + 0xE0)
    (hb : b.toNat = v / 64 % 64 + 0x80) (hlow : 0x800 ≤ v) (hhigh : v < 0x10000)
    (hv : v < 0xD800 ∨ 0xDFFF < v) : isSecond a b = true := by
  have ha' : ∀ n : UInt8, a = n ↔ v / 4096 + 0xE0 = n.toNat := fun n => by
    rw [← UInt8.toNat_inj, ha]
  unfold isSecond secondRange
  simp only [ha', UInt8.reduceToNat]
  -- `0xE0` has a narrower range for the shortest form, `0xED` one that leaves the surrogates out.
  split_ifs <;>
    simp only [UInt8.le_iff_toNat_le, hb, UInt8.reduceToNat, Bool.and_eq_true,
      decide_eq_true_eq] <;>
    omega

/-- A number from `0x800` to `0xFFFF` that is no surrogate is written in three bytes. A reader that
meets these bytes gives the character of the number and goes on behind them. -/
theorem decodeFrom_three (offset v : Nat) (rest : List UInt8) {a b c : UInt8}
    (ha : a.toNat = v / 4096 + 0xE0) (hb : b.toNat = v / 64 % 64 + 0x80)
    (hc : c.toNat = v % 64 + 0x80) (hlow : 0x800 ≤ v) (hhigh : v < 0x10000)
    (hv : v < 0xD800 ∨ 0xDFFF < v) :
    decodeFrom offset (a :: b :: c :: rest)
      = (decodeFrom (offset + 3) rest).map (Char.ofNat v :: ·) := by
  have h1 : ¬ a < 0x80 := by
    simp only [UInt8.lt_iff_toNat_lt, ha, UInt8.reduceToNat]
    omega
  have h2 : ¬ (0xC2 ≤ a ∧ a ≤ 0xDF) := by
    simp only [UInt8.le_iff_toNat_le, ha, UInt8.reduceToNat]
    omega
  have h3 : 0xE0 ≤ a ∧ a ≤ 0xEF := by
    simp only [UInt8.le_iff_toNat_le, ha, UInt8.reduceToNat]
    omega
  have hb' : isSecond a b = true := isSecond_three ha hb hlow hhigh hv
  have hc' : isTail c = true := isTail_of_toNat hc
  have hval : (a.toNat % 16 * 64 + payload b) * 64 + payload c = v := by
    rw [payload, payload, ha, hb, hc]
    omega
  rw [decodeFrom.eq_def]
  simp only [if_neg h1, if_neg h2, if_pos h3, if_pos hb', if_pos hc', hval, bind_cons]

/-- The second byte of a form of four bytes lies in the range that its first byte asks for. The
range leaves out numbers with a shorter form and those beyond the last plane, so both bounds of the
number are used. -/
theorem isSecond_four {v : Nat} {a b : UInt8} (ha : a.toNat = v / 262144 + 0xF0)
    (hb : b.toNat = v / 4096 % 64 + 0x80) (hlow : 0x10000 ≤ v) (hhigh : v < 0x110000) :
    isSecond a b = true := by
  have ha' : ∀ n : UInt8, a = n ↔ v / 262144 + 0xF0 = n.toNat := fun n => by
    rw [← UInt8.toNat_inj, ha]
  unfold isSecond secondRange
  simp only [ha', UInt8.reduceToNat]
  -- `0xF0` has a narrower range for the shortest form, `0xF4` one that ends with the last plane.
  split_ifs <;>
    simp only [UInt8.le_iff_toNat_le, hb, UInt8.reduceToNat, Bool.and_eq_true,
      decide_eq_true_eq] <;>
    omega

/-- A number from `0x10000` on is written in four bytes. A reader that meets these bytes gives the
character of the number and goes on behind them. -/
theorem decodeFrom_four (offset v : Nat) (rest : List UInt8) {a b c d : UInt8}
    (ha : a.toNat = v / 262144 + 0xF0) (hb : b.toNat = v / 4096 % 64 + 0x80)
    (hc : c.toNat = v / 64 % 64 + 0x80) (hd : d.toNat = v % 64 + 0x80)
    (hlow : 0x10000 ≤ v) (hhigh : v < 0x110000) :
    decodeFrom offset (a :: b :: c :: d :: rest)
      = (decodeFrom (offset + 4) rest).map (Char.ofNat v :: ·) := by
  have h1 : ¬ a < 0x80 := by
    simp only [UInt8.lt_iff_toNat_lt, ha, UInt8.reduceToNat]
    omega
  have h2 : ¬ (0xC2 ≤ a ∧ a ≤ 0xDF) := by
    simp only [UInt8.le_iff_toNat_le, ha, UInt8.reduceToNat]
    omega
  have h3 : ¬ (0xE0 ≤ a ∧ a ≤ 0xEF) := by
    simp only [UInt8.le_iff_toNat_le, ha, UInt8.reduceToNat]
    omega
  have h4 : 0xF0 ≤ a ∧ a ≤ 0xF4 := by
    simp only [UInt8.le_iff_toNat_le, ha, UInt8.reduceToNat]
    omega
  have hb' : isSecond a b = true := isSecond_four ha hb hlow hhigh
  have hc' : isTail c = true := isTail_of_toNat hc
  have hd' : isTail d = true := isTail_of_toNat hd
  have hval : ((a.toNat % 8 * 64 + payload b) * 64 + payload c) * 64 + payload d = v := by
    rw [payload, payload, payload, ha, hb, hc, hd]
    omega
  rw [decodeFrom.eq_def]
  simp only [if_neg h1, if_neg h2, if_neg h3, if_pos h4, if_pos hb', if_pos hc', if_pos hd', hval,
    bind_cons]

/-- A reader that meets the bytes of a character gives this character and goes on behind them. The
four lengths of a form are the four cases. -/
theorem decodeFrom_encodeChar (offset : Nat) (c : Char) (rest : List UInt8) :
    decodeFrom offset (String.utf8EncodeChar c ++ rest)
      = (decodeFrom (offset + (String.utf8EncodeChar c).length) rest).map (c :: ·) := by
  have hv := toNat_valid c
  have hc : Char.ofNat c.toNat = c := Char.ofNat_toNat c
  -- The encoder masks its quotients, which the bounds of each length make unnecessary.
  simp only [String.utf8EncodeChar, Char.toNat_val]
  split_ifs with h1 h2 h3
  · have h := decodeFrom_one offset c.toNat rest (toNat_ofNat (by omega)) (by omega)
    rw [hc] at h
    exact h
  · have h := decodeFrom_two offset c.toNat rest
      (a := UInt8.ofNat (c.toNat / 64 % 32 + 192)) (b := UInt8.ofNat (c.toNat % 64 + 128))
      (by rw [toNat_ofNat (by omega)]; omega) (toNat_ofNat (by omega)) (by omega) (by omega)
    rw [hc] at h
    exact h
  · have h := decodeFrom_three offset c.toNat rest
      (a := UInt8.ofNat (c.toNat / 4096 % 16 + 224)) (b := UInt8.ofNat (c.toNat / 64 % 64 + 128))
      (c := UInt8.ofNat (c.toNat % 64 + 128))
      (by rw [toNat_ofNat (by omega)]; omega) (toNat_ofNat (by omega)) (toNat_ofNat (by omega))
      (by omega) (by omega) (by omega)
    rw [hc] at h
    exact h
  · have h := decodeFrom_four offset c.toNat rest
      (a := UInt8.ofNat (c.toNat / 262144 % 8 + 240))
      (b := UInt8.ofNat (c.toNat / 4096 % 64 + 128)) (c := UInt8.ofNat (c.toNat / 64 % 64 + 128))
      (d := UInt8.ofNat (c.toNat % 64 + 128))
      (by rw [toNat_ofNat (by omega)]; omega) (toNat_ofNat (by omega)) (toNat_ofNat (by omega))
      (toNat_ofNat (by omega)) (by omega) (by omega)
    rw [hc] at h
    exact h

/-! ### Whole texts -/

/-- A reader that meets the bytes of a text gives back this text, wherever the bytes start. The
offset only matters for the faults, and there are none. -/
theorem decodeFrom_encode (offset : Nat) (cs : List Char) :
    decodeFrom offset (encode cs) = .ok cs := by
  induction cs generalizing offset with
  | nil => rfl
  | cons c cs ih =>
      show decodeFrom offset (String.utf8EncodeChar c ++ encode cs) = _
      rw [decodeFrom_encodeChar, ih]
      rfl

/-- Decoding the bytes of a text gives back the text, and never fails. -/
theorem decode_encode (cs : List Char) : decode (encode cs) = .ok cs := decodeFrom_encode 0 cs

/-- Take bytes that start with those of a text and that can be decoded. The decoded text starts with
this text, whatever the other bytes decode to. -/
theorem exists_append_of_decodeFrom {offset : Nat} {front : List Char} {rest : List UInt8}
    {cs : List Char} (h : decodeFrom offset (encode front ++ rest) = .ok cs) :
    ∃ more, cs = front ++ more := by
  induction front generalizing offset cs with
  | nil => exact ⟨cs, rfl⟩
  | cons c front ih =>
      have hbytes : encode (c :: front) ++ rest
          = String.utf8EncodeChar c ++ (encode front ++ rest) := List.append_assoc _ _ _
      rw [hbytes, decodeFrom_encodeChar] at h
      cases hrest : decodeFrom (offset + (String.utf8EncodeChar c).length) (encode front ++ rest) with
      | error fault => rw [hrest] at h; cases h
      | ok ds =>
          rw [hrest] at h
          cases h
          obtain ⟨more, rfl⟩ := ih hrest
          exact ⟨more, rfl⟩

/-! ### The order of the bytes -/

/-- Of two different characters the smaller one has the smaller bytes, and no byte behind them
changes this. Forms of different length differ in the first byte, and forms of one length are
ordered as the numbers are. -/
theorem encodeChar_append_lt {c d : Char} (h : c < d) (xs ys : List UInt8) :
    String.utf8EncodeChar c ++ xs < String.utf8EncodeChar d ++ ys := by
  have hcd : c.toNat < d.toNat := h
  have hc := toNat_valid c
  have hd := toNat_valid d
  -- Bytes after the first are digits to the base 64, so the quotients are taken one digit a time.
  have h2 : ∀ n : Nat, n / 4096 = n / 64 / 64 := fun n => by omega
  have h3 : ∀ n : Nat, n / 262144 = n / 64 / 64 / 64 := fun n => by omega
  simp only [String.utf8EncodeChar, Char.toNat_val]
  split_ifs <;>
    simp only [List.cons_append, List.nil_append, List.cons_lt_cons_iff, UInt8.lt_iff_toNat_lt,
      ← UInt8.toNat_inj, UInt8.toNat_ofNat', h2, h3] <;>
    omega

/-- A text that comes first character by character comes first byte by byte as well. -/
theorem encode_lt_encode {cs ds : List Char} (h : cs < ds) : encode cs < encode ds := by
  induction h with
  | @nil d ds =>
      show ([] : List UInt8) < String.utf8EncodeChar d ++ encode ds
      cases hd : String.utf8EncodeChar d with
      | nil => exact absurd hd String.utf8EncodeChar_ne_nil
      | cons b bs => exact List.nil_lt_cons b _
  | @rel c cs d ds hlt => exact encodeChar_append_lt hlt (encode cs) (encode ds)
  | @cons c cs ds _ ih => exact List.append_left_lt ih

/-- Texts are ordered as their bytes are. So sorting names by their characters is the same as
sorting them by their bytes, which is what ordered maps with names as keys do. -/
theorem encode_lt_encode_iff {cs ds : List Char} : encode cs < encode ds ↔ cs < ds := by
  constructor
  · intro h
    -- Otherwise the bytes of the second text would be smaller or the same.
    rcases lt_trichotomy cs ds with hlt | rfl | hgt
    · exact hlt
    · exact absurd h (List.lt_irrefl _)
    · exact absurd (List.lt_trans h (encode_lt_encode hgt)) (List.lt_irrefl _)
  · exact encode_lt_encode

end SchemaGate.Text.Utf8
