import SchemaGate.Proofs.Text.Utf8
import SchemaGate.Text.Percent

/-!
# `SchemaGate.Proofs.Text.Percent`: percent-encoding can be undone

The written form of a text consists of unreserved characters and of octets, `%` with two upper-case
hexadecimal digits (`octets_encode`). Its reader gives back the bytes of the text
(`decodeBytes_encode`), whatever follows the form, and so the text itself (`decode?_encode`).
-/

set_option autoImplicit false

namespace SchemaGate.Text.Percent

/-! ### Digits -/

/-- A hexadecimal digit in upper case. Encoding writes digits in upper case only, although decoding
reads both cases. -/
def IsUpperDigit (c : Char) : Prop := ('0' ≤ c ∧ c ≤ '9') ∨ ('A' ≤ c ∧ c ≤ 'F')

instance (c : Char) : Decidable (IsUpperDigit c) := inferInstanceAs (Decidable (_ ∨ _))

/-- The digit that encoding writes for a number below 16 is one in upper case. -/
theorem isUpperDigit_hexUpper : ∀ n < 16, IsUpperDigit (hexUpper n) := by decide

/-- Decoding gives the digit that encoding writes for a number below 16 the value of this number
again. -/
theorem hexValue?_hexUpper : ∀ n < 16, hexValue? (hexUpper n) = some n := by decide

/-! ### The alphabet -/

/-- The texts that consist of unreserved characters, of octets, and of some other characters that
stand for themselves as well. An octet is `%` with two digits in upper case. -/
inductive Octets (extra : Char → Prop) : List Char → Prop
  /-- The empty text. -/
  | nil : Octets extra []
  /-- A character that stands for itself. -/
  | plain {c : Char} {cs : List Char} (h : isUnreserved c = true ∨ extra c)
      (rest : Octets extra cs) : Octets extra (c :: cs)
  /-- A byte by its two digits. -/
  | octet {a b : Char} {cs : List Char} (ha : IsUpperDigit a) (hb : IsUpperDigit b)
      (rest : Octets extra cs) : Octets extra ('%' :: a :: b :: cs)

/-- A text of octets and of admitted characters is still such a text when the octets of some bytes
are put in front of it. -/
theorem octets_encodeByte {extra : Char → Prop} (bytes : List UInt8) {rest : List Char}
    (h : Octets extra rest) : Octets extra (bytes.flatMap encodeByte ++ rest) := by
  induction bytes with
  | nil => exact h
  | cons b bytes ih =>
      have hb : b.toNat < 256 := b.toNat_lt
      show Octets extra ('%' :: hexUpper (b.toNat / 16) :: hexUpper (b.toNat % 16)
        :: (bytes.flatMap encodeByte ++ rest))
      exact .octet (isUpperDigit_hexUpper _ (by omega)) (isUpperDigit_hexUpper _ (by omega)) ih

/-- The written form of any text consists of unreserved characters and octets, and may be put in
front of a text of octets and of admitted characters. So the written forms of several texts can be
put together. -/
theorem octets_encode {extra : Char → Prop} (cs : List Char) {rest : List Char}
    (h : Octets extra rest) : Octets extra (encode cs ++ rest) := by
  induction cs with
  | nil => exact h
  | cons c cs ih =>
      show Octets extra (encodeChar c ++ encode cs ++ rest)
      rw [List.append_assoc, encodeChar]
      split
      · next hc => exact .plain (.inl hc) ih
      · exact octets_encodeByte _ ih

/-- No reserved character is in a written form, unless it is `%` or a digit in upper case, of which
octets consist. The slash is the case that matters: it only stands between written forms, never
inside one. -/
theorem notMem_encode {c : Char} (h : isUnreserved c = false) (hc : c ≠ '%')
    (hdigit : ¬ IsUpperDigit c) (cs : List Char) : c ∉ encode cs := by
  -- The character is neither unreserved nor a part of an octet, and a form has nothing else.
  have key : ∀ ds : List Char, Octets (fun _ => False) ds → c ∉ ds := by
    intro ds hds
    induction hds with
    | nil => exact List.not_mem_nil
    | @plain d ds hd _ ih =>
        have hne : c ≠ d := by
          rintro rfl
          rw [h] at hd
          simp at hd
        simp [hne, ih]
    | @octet a b ds ha hb _ ih =>
        have hna : c ≠ a := fun he => hdigit (he ▸ ha)
        have hnb : c ≠ b := fun he => hdigit (he ▸ hb)
        simp [hc, hna, hnb, ih]
  have hds := @octets_encode (fun _ => False) cs [] .nil
  rw [List.append_nil] at hds
  exact key _ hds

/-! ### Reading back -/

/-- A character other than `%` stands for its own bytes when a text is decoded. -/
theorem decodeBytes_cons {c : Char} (h : c ≠ '%') (rest : List Char) :
    decodeBytes (c :: rest) = String.utf8EncodeChar c ++ decodeBytes rest := by
  rw [decodeBytes.eq_def]
  split
  · next heq => cases heq
  · next heq => exact absurd (List.cons.inj heq).1 h
  · next heq => obtain ⟨rfl, rfl⟩ := List.cons.inj heq; rfl

/-- The octet that is written for a byte stands for this byte when it is decoded. -/
theorem decodeBytes_encodeByte (b : UInt8) (rest : List Char) :
    decodeBytes (encodeByte b ++ rest) = b :: decodeBytes rest := by
  have hb : b.toNat < 256 := b.toNat_lt
  have hhigh := hexValue?_hexUpper (b.toNat / 16) (by omega)
  have hlow := hexValue?_hexUpper (b.toNat % 16) (by omega)
  -- The two digits put together are the byte again.
  have hbyte : b.toNat / 16 * 16 + b.toNat % 16 = b.toNat := by omega
  show decodeBytes ('%' :: hexUpper (b.toNat / 16) :: hexUpper (b.toNat % 16) :: rest) = _
  rw [decodeBytes, hhigh, hlow]
  simp only [hbyte, UInt8.ofNat_toNat]

/-- Octets that are written for some bytes, one after another, stand for these bytes in their
order. -/
theorem decodeBytes_flatMap (bytes : List UInt8) (rest : List Char) :
    decodeBytes (bytes.flatMap encodeByte ++ rest) = bytes ++ decodeBytes rest := by
  induction bytes with
  | nil => rfl
  | cons b bytes ih =>
      rw [List.flatMap_cons, List.append_assoc, decodeBytes_encodeByte, ih, List.cons_append]

/-- What is written for a character stands for the bytes of this character, whether it is written as
itself or in octets. -/
theorem decodeBytes_encodeChar (c : Char) (rest : List Char) :
    decodeBytes (encodeChar c ++ rest) = String.utf8EncodeChar c ++ decodeBytes rest := by
  rw [encodeChar]
  split
  · next hc =>
    -- An unreserved character stands for itself, as it is not the mark of an octet.
    have hne : c ≠ '%' := by
      rintro rfl
      exact absurd hc (by decide)
    exact decodeBytes_cons hne rest
  · exact decodeBytes_flatMap _ rest

/-- What is written for a text stands for the bytes of this text, whatever comes behind it. -/
theorem decodeBytes_encode (cs rest : List Char) :
    decodeBytes (encode cs ++ rest) = Utf8.encode cs ++ decodeBytes rest := by
  induction cs with
  | nil => rfl
  | cons c cs ih =>
      show decodeBytes (encodeChar c ++ encode cs ++ rest) = _
      rw [List.append_assoc, decodeBytes_encodeChar, ih]
      show _ = String.utf8EncodeChar c ++ Utf8.encode cs ++ decodeBytes rest
      rw [List.append_assoc]

/-- Decoding gives back the text that was encoded. It cannot fail, since the bytes of a text are
well formed. -/
theorem decode?_encode (cs : List Char) : decode? (encode cs) = some cs := by
  have h := decodeBytes_encode cs []
  rw [List.append_nil, decodeBytes, List.append_nil] at h
  rw [decode?, h, Utf8.decode_encode]
  rfl

/-- A text without `%` in front of another one stands for its own bytes. What is behind it is
decoded by itself. -/
theorem decodeBytes_append {front : List Char} (h : '%' ∉ front) (rest : List Char) :
    decodeBytes (front ++ rest) = Utf8.encode front ++ decodeBytes rest := by
  induction front with
  | nil => rfl
  | cons c front ih =>
      obtain ⟨hc, hfront⟩ := not_or.1 (mt List.mem_cons.2 h)
      rw [List.cons_append, decodeBytes_cons (Ne.symm hc), ih hfront, ← List.append_assoc]
      rfl

/-- Take a text that starts with characters other than `%` and that can be decoded. The decoded text
starts with the same characters, whatever the rest decodes to. -/
theorem exists_append_of_decode? {front rest cs : List Char} (hfront : '%' ∉ front)
    (h : decode? (front ++ rest) = some cs) : ∃ more, cs = front ++ more := by
  rw [decode?, decodeBytes_append hfront] at h
  cases hdecode : Utf8.decode (Utf8.encode front ++ decodeBytes rest) with
  | error fault => rw [hdecode] at h; cases h
  | ok ds =>
      rw [hdecode] at h
      cases h
      exact Utf8.exists_append_of_decodeFrom hdecode

end SchemaGate.Text.Percent
