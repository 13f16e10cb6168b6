import SchemaGate.Proofs.Json.RoundTrip

/-!
# `SchemaGate.Proofs.Json.Lines`: where JSON text breaks its lines

The tokens of a JSON text have no line break: names and strings escape it, and numbers have no use
for it. So the compact form is one line (`newline_notMem_compactChars`), and in the pretty form a
line breaks only where the printer says so. Every line of the pretty form after the first therefore
starts with a blank or a closing bracket (`indented_prettyChars`), whatever the value holds.

Both follow from `Printed.render`: what holds of the tokens and of the gaps between them, and
carries over from texts to longer texts, holds of the text of every value.
-/

set_option autoImplicit false

namespace SchemaGate.Json

/-! ### Tokens -/

/-- The decimal digits of a number have no line break among them. -/
theorem newline_notMem_toDigits (n : ℕ) : '\n' ∉ Nat.toDigits 10 n := fun h =>
  absurd (isDigit_of_mem_toDigits h) (by decide)

/-- A mantissa has no line break if its digits have none: only a point is put between them. -/
theorem newline_notMem_mantissa {ds : List Char} (h : '\n' ∉ ds) : '\n' ∉ mantissa ds := by
  unfold mantissa
  split
  · next c d rest =>
    simp only [List.mem_cons, not_or] at h ⊢
    exact ⟨h.1, by decide, h.2⟩
  · exact h

/-- The text of a decimal has no line break, in whichever of its four layouts it is written. -/
theorem newline_notMem_decimal (d : Decimal) : '\n' ∉ (d.write .json).toList := by
  have hzeros : ∀ n, '\n' ∉ List.replicate n '0' := fun n h =>
    absurd (isDigit_of_mem_zeros h) (by decide)
  have hdigits := newline_notMem_toDigits d.digits
  rw [Decimal.write, String.toList_ofList]
  generalize Nat.toDigits 10 d.digits = ds at *
  show '\n' ∉ if _ then _ else mantissa ds ++ _
  -- The layouts add zeros, a point, and an exponent.
  split
  · split
    · simp only [List.mem_append, not_or]
      exact ⟨⟨hdigits, hzeros _⟩, by decide⟩
    · split
      · simp only [List.mem_append, List.mem_cons, not_or]
        exact ⟨fun h => hdigits (List.mem_of_mem_take h), by decide,
          fun h => hdigits (List.mem_of_mem_drop h)⟩
      · simp only [List.mem_append, List.mem_cons, not_or]
        exact ⟨⟨by decide, by decide, hzeros _⟩, hdigits⟩
  · simp only [List.mem_append, List.mem_cons, not_or]
    refine ⟨newline_notMem_mantissa hdigits, by decide, ?_, newline_notMem_toDigits _⟩
    split <;> decide

/-- The text of a number has no line break, whether it is an integer or a float. -/
theorem newline_notMem_number (n : Number) : '\n' ∉ n.write.toList := by
  cases n with
  | integer n h =>
      rw [Number.write]
      cases n with
      | ofNat m =>
          rw [toList_toString_ofNat]
          exact newline_notMem_toDigits m
      | negSucc m =>
          rw [toList_toString_negSucc]
          exact List.not_mem_cons_of_ne_of_not_mem (by decide) (newline_notMem_toDigits _)
  | float x =>
      have hdecimal := newline_notMem_decimal x.shortestDigits
      rw [Number.write, Binary64.write]
      split
      · rw [String.toList_append]
        exact List.not_mem_cons_of_ne_of_not_mem (by decide) hdecimal
      · exact hdecimal

/-- No character of a string is written with a line break. A line break itself is written as an
escape. -/
theorem newline_notMem_escapeChar (c : Char) : '\n' ∉ escapeChar c := by
  -- A line break is escaped by its letter; the other controls are written in hexadecimal digits.
  have hhex : ∀ n < 16, '\n' ≠ Text.hexLower n := by decide
  unfold escapeChar
  split_ifs with hquote hslash hn hr ht hb hf hcontrol
  · decide
  · decide
  · decide
  · decide
  · decide
  · decide
  · decide
  · simp [hhex (c.toNat / 16) (by omega), hhex (c.toNat % 16) (by omega)]
  · exact fun h => hn (List.mem_singleton.1 h).symm

/-- The text of a string has no line break, whatever the string says. -/
theorem newline_notMem_quoted (s : String) : '\n' ∉ quoted s := by
  have hescaped : '\n' ∉ s.toList.flatMap escapeChar := by
    intro h
    obtain ⟨c, -, hc⟩ := List.mem_flatMap.1 h
    exact newline_notMem_escapeChar c hc
  simp [quoted, hescaped]

/-! ### Values -/

/-- A property of texts that holds of every text on one line and of every gap of a layout, and of
every two texts put together. Such a property holds of everything that is printed
(`Printed.render`). -/
structure Printed (l : Layout) (P : List Char → Prop) : Prop where
  /-- The property holds of every text on one line. -/
  line : ∀ {cs : List Char}, '\n' ∉ cs → P cs
  /-- The property carries over from two texts to the one that they are put together to. -/
  append : ∀ {xs ys : List Char}, P xs → P ys → P (xs ++ ys)
  /-- The property holds of the gap in front of an item or a member. -/
  gap : ∀ level, P (l.gap (level + 1))
  /-- The property holds of the gap and the bracket at the end of a container. -/
  closing : ∀ level, ∀ c ∈ [']', '\x7d'], P (l.gap level ++ [c])
  /-- The property holds of what follows a colon. -/
  afterColon : P l.afterColon

namespace Printed

variable {l : Layout} {P : List Char → Prop}

/-- A property of printed texts carries over to a text with another character in front, unless this
is a line break. -/
theorem cons (h : Printed l P) {c : Char} (hc : c ≠ '\n') {cs : List Char} (hcs : P cs) :
    P (c :: cs) :=
  h.append (h.line fun hmem => hc (List.mem_singleton.1 hmem).symm) hcs

mutual

/-- A property of printed texts holds of the text of every value at every level. The text consists
of tokens, which are on one line, and of gaps. -/
theorem render (h : Printed l P) (level : ℕ) : (v : Json) → P (render l level v)
  | .null => @h.line "null".toList (by decide)
  | .bool true => @h.line "true".toList (by decide)
  | .bool false => @h.line "false".toList (by decide)
  | .number n => h.line (newline_notMem_number n)
  | .string s => h.line (newline_notMem_quoted s)
  | .array [] => @h.line ['[', ']'] (by decide)
  | .array (v :: rest) => by
      rw [Json.render]
      exact h.append (h.append (h.cons (by decide) (h.gap level)) (h.render (level + 1) v))
        (h.renderItems level rest)
  | .object [] => @h.line ['\x7b', '\x7d'] (by decide)
  | .object ((name, v) :: rest) => by
      rw [Json.render]
      have hname := h.append (h.cons (c := '\x7b') (by decide) (h.gap level))
        (h.line (newline_notMem_quoted name))
      have hcolon := h.cons (c := ':') (by decide) h.afterColon
      exact h.append (h.append (h.append hname hcolon) (h.render (level + 1) v))
        (h.renderMembers level rest)

/-- A property of printed texts holds of the text of the items behind the first one, with the
closing bracket. -/
theorem renderItems (h : Printed l P) (level : ℕ) : (items : List Json) →
    P (renderItems l level items)
  | [] => h.closing level ']' (by decide)
  | v :: rest => by
      rw [Json.renderItems]
      exact h.append (h.append (h.cons (by decide) (h.gap level)) (h.render (level + 1) v))
        (h.renderItems level rest)

/-- A property of printed texts holds of the text of the members behind the first one, with the
closing brace. -/
theorem renderMembers (h : Printed l P) (level : ℕ) : (members : List (String × Json)) →
    P (renderMembers l level members)
  | [] => h.closing level '\x7d' (by decide)
  | (name, v) :: rest => by
      rw [Json.renderMembers]
      have hname := h.append (h.cons (c := ',') (by decide) (h.gap level))
        (h.line (newline_notMem_quoted name))
      have hcolon := h.cons (c := ':') (by decide) h.afterColon
      exact h.append (h.append (h.append hname hcolon) (h.render (level + 1) v))
        (h.renderMembers level rest)

end

end Printed

/-! ### The two forms -/

/-- The compact form of a value is one line, because its gaps are empty. -/
theorem newline_notMem_compactChars (v : Json) : '\n' ∉ v.compactChars := by
  have hclosing : ∀ c ∈ [']', '\x7d'], '\n' ∉ [c] := by simp
  have h : Printed .compact fun cs => '\n' ∉ cs :=
    ⟨id, fun hxs hys h => (List.mem_append.1 h).elim hxs hys, fun _ => List.not_mem_nil,
      fun _ => hclosing, List.not_mem_nil⟩
  rw [compactChars_eq 0]
  exact h.render 0 v

/-- Behind every line break of a text stands a blank or a closing bracket or brace. So no line but
the first starts with a letter, and none of them can be taken for a declaration. -/
def Indented : List Char → Prop
  | [] => True
  | c :: rest => (c = '\n' → ∃ d ∈ [' ', ']', '\x7d'], rest.head? = some d) ∧ Indented rest

namespace Indented

/-- A text without a line break is indented, since there is nothing to ask. -/
theorem line {cs : List Char} (h : '\n' ∉ cs) : Indented cs := by
  induction cs with
  | nil => exact trivial
  | cons c rest ih =>
      obtain ⟨hc, hrest⟩ := List.ne_and_not_mem_of_not_mem_cons h
      exact ⟨fun hn => absurd hn.symm hc, ih hrest⟩

/-- Two indented texts, one behind the other, make an indented text: what stands behind a line break
of the first one stands in the first one too. -/
theorem append {xs ys : List Char} (hxs : Indented xs) (hys : Indented ys) :
    Indented (xs ++ ys) := by
  induction xs with
  | nil => exact hys
  | cons c rest ih =>
      -- What stands behind a line break of the first text is still there.
      refine ⟨fun hc => ?_, ih hxs.2⟩
      obtain ⟨d, hd, hhead⟩ := hxs.1 hc
      exact ⟨d, hd, List.head?_append.trans (by rw [hhead, Option.some_or])⟩

/-- A line break in front of a text on one line makes an indented text, if this text starts with a
blank or a closing bracket or brace. -/
theorem newline {d : Char} {rest : List Char} (hd : d ∈ [' ', ']', '\x7d'])
    (hrest : '\n' ∉ d :: rest) : Indented ('\n' :: d :: rest) :=
  ⟨fun _ => ⟨d, hd, rfl⟩, line hrest⟩

end Indented

/-- Every line of the pretty form of a value, except for the first, starts with a blank or a closing
bracket or brace, whatever the value holds. -/
theorem indented_prettyChars (level : ℕ) (v : Json) : Indented (prettyChars level v) := by
  have hblanks : ∀ n, '\n' ∉ List.replicate n ' ' := fun n h =>
    absurd (List.mem_replicate.1 h).2 (by decide)
  have h : Printed .pretty Indented := by
    refine ⟨Indented.line, Indented.append, fun level => ?_, fun level c hc => ?_,
      Indented.line (by decide)⟩
    · exact Indented.newline (by decide) (hblanks (2 * level + 2))
    · have hc' : '\n' ∉ [c] := (by simp : ∀ c ∈ [']', '\x7d'], '\n' ∉ [c]) c hc
      -- At the top the bracket follows the line break, elsewhere the indentation does.
      cases level with
      | zero => exact Indented.newline (List.mem_cons_of_mem _ hc) hc'
      | succ level =>
          exact (Indented.newline (by decide) (hblanks (2 * level + 2))).append (Indented.line hc')
  rw [prettyChars_eq]
  exact h.render level v

end SchemaGate.Json
