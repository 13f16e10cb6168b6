import Mathlib.Tactic.SplitIfs
import SchemaGate.Json.Ordered
import SchemaGate.Json.Printer
import SchemaGate.Proofs.Json.Number
import SchemaGate.Proofs.Json.Values

/-!
# `SchemaGate.Proofs.Json.RoundTrip`: values are read back as they are written

The compact and the pretty form differ in the blanks between the tokens only. Both are `render` with
a `Layout`, which says what these blanks are (`compactChars_eq`, `prettyChars_eq`), and the reader
skips them all. So it gives back every canonical value from its text in any layout, and stops right
behind it (`readValue_render`). The steps and the levels that a reader of a whole text allows are
enough for any text of a value, so the value is the result (`parse?_render`).

Two consequences need no reader in their statement: a value can be told from its text, and where the
text ends can be found again whatever follows it (`render_append_inj`).
-/

set_option autoImplicit false

namespace SchemaGate.Json

/-! ### Strings -/

/-- The reader gives the digit that is written for a number below 16 the value of this number. -/
theorem hexValue?_hexLower : ∀ n < 16, Text.hexValue? (Text.hexLower n) = some n := by decide

/-- A character that is escaped by a letter is read back, and the reader goes on behind the
escape. -/
theorem readChars_letter {c d : Char} (hu : c ≠ 'u') (h : escapedChar? c = some d)
    (text : List Char) :
    readChars ('\\' :: c :: text) = (readChars text).map fun (cs, rest) => (d :: cs, rest) := by
  -- All cases but that of an escape by a letter contradict what stands here.
  rw [readChars.eq_def]
  split
  · next heq => cases heq
  · next heq => exact absurd (List.cons.inj (List.cons.inj heq).2).1 hu
  · next heq =>
    obtain ⟨rfl, rfl⟩ := List.cons.inj (List.cons.inj heq).2
    rw [h]
    cases readChars text <;> rfl
  · next hletter heq =>
    obtain ⟨rfl, rfl⟩ := List.cons.inj heq
    exact absurd rfl (hletter c text rfl)
  · next heq => cases heq

/-- A control character that is escaped by its number is read back from the four digits, and the
reader goes on behind the escape. -/
theorem readChars_number {c : Char} (h : c.toNat < 0x20) (text : List Char) :
    readChars ('\\' :: 'u' :: '0' :: '0' :: Text.hexLower (c.toNat / 16)
        :: Text.hexLower (c.toNat % 16) :: text)
      = (readChars text).map fun (cs, rest) => (c :: cs, rest) := by
  have hhigh := hexValue?_hexLower (c.toNat / 16) (by omega)
  have hlow := hexValue?_hexLower (c.toNat % 16) (by omega)
  have hzero : Text.hexValue? '0' = some 0 := rfl
  have hquad : hexQuad? '0' '0' (Text.hexLower (c.toNat / 16)) (Text.hexLower (c.toNat % 16))
      = some c.toNat := by
    simp only [hexQuad?, hzero, hhigh, hlow, bind, Option.bind, pure]
    congr 1
    omega
  -- The number is below the surrogates, so it stands for itself.
  have hfirst : ¬(0xDC00 ≤ c.toNat ∧ c.toNat < 0xE000) := by omega
  have hsecond : ¬(0xD800 ≤ c.toNat ∧ c.toNat < 0xDC00) := by omega
  rw [readChars, hquad]
  simp only [bind, Option.bind, if_neg hfirst, if_neg hsecond, Char.ofNat_toNat]
  cases readChars text <;> rfl

/-- A character that needs no escape is read as itself: neither a quote, nor a backslash, nor a
control character. -/
theorem readChars_plain {c : Char} (hquote : c ≠ '"') (hslash : c ≠ '\\') (h : ¬ c.toNat < 0x20)
    (text : List Char) :
    readChars (c :: text) = (readChars text).map fun (cs, rest) => (c :: cs, rest) := by
  rw [readChars.eq_def]
  split
  · next heq => exact absurd (List.cons.inj heq).1 hquote
  · next heq => exact absurd (List.cons.inj heq).1 hslash
  · next heq => exact absurd (List.cons.inj heq).1 hslash
  · next heq =>
    obtain ⟨rfl, rfl⟩ := List.cons.inj heq
    rw [if_neg (by rintro (hlt | heq) <;> contradiction)]
    cases readChars text <;> rfl
  · next heq => cases heq

/-- Every character of a string is read back from what is written for it, in whichever of the three
ways this is. -/
theorem readChars_escapeChar (c : Char) (text : List Char) :
    readChars (escapeChar c ++ text) = (readChars text).map fun (cs, rest) => (c :: cs, rest) := by
  -- The reader knows the same letters as the printer.
  unfold escapeChar
  split_ifs with hquote hslash hn hr ht hb hf hcontrol
  · subst hquote; exact readChars_letter (by decide) rfl text
  · subst hslash; exact readChars_letter (by decide) rfl text
  · subst hn; exact readChars_letter (by decide) rfl text
  · subst hr; exact readChars_letter (by decide) rfl text
  · subst ht; exact readChars_letter (by decide) rfl text
  · subst hb; exact readChars_letter (by decide) rfl text
  · subst hf; exact readChars_letter (by decide) rfl text
  · exact readChars_number hcontrol text
  · exact readChars_plain hquote hslash hcontrol text

/-- The characters of a string are read back behind the opening quote, and the reader stops behind
the closing one. -/
theorem readChars_escaped (cs rest : List Char) :
    readChars (cs.flatMap escapeChar ++ '"' :: rest) = some (cs, rest) := by
  induction cs with
  | nil => rfl
  | cons c cs ih =>
      rw [List.flatMap_cons, List.append_assoc, readChars_escapeChar, ih]
      rfl

/-! ### Blanks -/

/-- A character that the reader skips between tokens: the blank, the tab and the two characters of
line breaks. -/
def IsBlank (c : Char) : Prop := c = ' ' ∨ c = '\t' ∨ c = '\n' ∨ c = '\r'

instance (c : Char) : Decidable (IsBlank c) := inferInstanceAs (Decidable (_ ∨ _))

/-- The reader skips all blanks in front of a text and goes on as without them. -/
theorem skipBlanks_append {bs : List Char} (h : ∀ c ∈ bs, IsBlank c) (text : List Char) :
    skipBlanks (bs ++ text) = skipBlanks text := by
  induction bs with
  | nil => rfl
  | cons b bs ih =>
      obtain ⟨hb, hbs⟩ := List.forall_mem_cons.1 h
      rw [List.cons_append, skipBlanks]
      exact (if_pos hb).trans (ih hbs)

/-- A character that is no blank stops the skipping of blanks. -/
theorem skipBlanks_cons {c : Char} (h : ¬ IsBlank c) (text : List Char) :
    skipBlanks (c :: text) = c :: text := by
  rw [skipBlanks]
  exact if_neg h

/-- Blanks in front of a value make no difference to what is read, nor to what is left behind it. -/
theorem readValue_blanks {bs : List Char} (h : ∀ c ∈ bs, IsBlank c) (fuel levels : ℕ)
    (text : List Char) : readValue fuel levels (bs ++ text) = readValue fuel levels text := by
  cases fuel with
  | zero => rfl
  | succ fuel => rw [readValue, readValue, skipBlanks_append h]

/-! ### Layouts -/

/-- The blanks between the tokens of a text: the gap in front of an item or a closing bracket, by
its level, and what stands behind a colon. The fields say that these are blanks, so that the reader
skips them. -/
structure Layout where
  /-- The blanks in front of an item, a member or a closing bracket at a level. -/
  gap : ℕ → List Char
  /-- The blanks behind a colon. -/
  afterColon : List Char
  /-- A gap consists of blanks. -/
  blank_gap : ∀ level, ∀ c ∈ gap level, IsBlank c
  /-- What stands behind a colon consists of blanks. -/
  blank_afterColon : ∀ c ∈ afterColon, IsBlank c

mutual

/-- The text of a value in a layout. The level says how deep inside the text the value stands, for
layouts that indent. -/
def render (l : Layout) (level : ℕ) : Json → List Char
  | .null => "null".toList
  | .bool b => (if b then "true" else "false").toList
  | .number n => n.write.toList
  | .string s => quoted s
  | .array [] => ['[', ']']
  | .array (v :: rest) =>
    '[' :: l.gap (level + 1) ++ render l (level + 1) v ++ renderItems l level rest
  | .object [] => ['{', '}']
  | .object ((name, v) :: rest) =>
    '{' :: l.gap (level + 1) ++ quoted name ++ ':' :: l.afterColon ++ render l (level + 1) v
      ++ renderMembers l level rest

/-- The text of the items behind the first one of an array, with a comma in front of each, and of
the closing bracket. -/
def renderItems (l : Layout) (level : ℕ) : List Json → List Char
  | [] => l.gap level ++ [']']
  | v :: rest =>
    ',' :: l.gap (level + 1) ++ render l (level + 1) v ++ renderItems l level rest

/-- The text of the members behind the first one of an object, with a comma in front of each, and of
the closing brace. -/
def renderMembers (l : Layout) (level : ℕ) : List (String × Json) → List Char
  | [] => l.gap level ++ ['}']
  | (name, v) :: rest =>
    ',' :: l.gap (level + 1) ++ quoted name ++ ':' :: l.afterColon ++ render l (level + 1) v
      ++ renderMembers l level rest

end

/-- The layout without any blanks. -/
def Layout.compact : Layout := ⟨fun _ => [], [], by simp, by simp⟩

/-- The layout with a line for every item and member, indented by two blanks for every level, and
with a blank behind every colon. -/
def Layout.pretty : Layout where
  gap := newline
  afterColon := [' ']
  blank_gap := by
    intro level c hc
    rcases List.mem_cons.1 hc with rfl | hc
    · decide
    · rw [(List.mem_replicate.1 hc).2]
      decide
  blank_afterColon := by
    intro c hc
    rw [List.mem_singleton.1 hc]
    decide

mutual

/-- The compact form of a value is its text in the layout without blanks, at whatever level. -/
theorem compactChars_eq (level : ℕ) : (v : Json) → v.compactChars = render .compact level v
  | .null => rfl
  | .bool _ => rfl
  | .number _ => rfl
  | .string _ => rfl
  | .array [] => rfl
  | .array (v :: rest) => by
      rw [compactChars, render, compactChars_eq (level + 1) v, compactItems_eq level rest]
      rfl
  | .object [] => rfl
  | .object ((name, v) :: rest) => by
      rw [compactChars, render, compactChars_eq (level + 1) v, compactMembers_eq level rest]
      simp [Layout.compact]

/-- The items of the compact form are written as the layout without blanks has them. -/
theorem compactItems_eq (level : ℕ) :
    (items : List Json) → compactItems items = renderItems .compact level items
  | [] => rfl
  | v :: rest => by
      rw [compactItems, renderItems, compactChars_eq (level + 1) v, compactItems_eq level rest]
      rfl

/-- The members of the compact form are written as the layout without blanks has them. -/
theorem compactMembers_eq (level : ℕ) :
    (members : List (String × Json)) → compactMembers members = renderMembers .compact level members
  | [] => rfl
  | (name, v) :: rest => by
      rw [compactMembers, renderMembers, compactChars_eq (level + 1) v,
        compactMembers_eq level rest]
      simp [Layout.compact]

end

mutual

/-- The pretty form of a value is its text in the layout with lines. -/
theorem prettyChars_eq (level : ℕ) : (v : Json) → prettyChars level v = render .pretty level v
  | .null => rfl
  | .bool _ => rfl
  | .number _ => rfl
  | .string _ => rfl
  | .array [] => rfl
  | .array (v :: rest) => by
      rw [prettyChars, render, prettyChars_eq (level + 1) v, prettyItems_eq level rest]
      rfl
  | .object [] => rfl
  | .object ((name, v) :: rest) => by
      rw [prettyChars, render, prettyChars_eq (level + 1) v, prettyMembers_eq level rest]
      simp [Layout.pretty]

/-- The items of the pretty form are written as the layout with lines has them. -/
theorem prettyItems_eq (level : ℕ) :
    (items : List Json) → prettyItems level items = renderItems .pretty level items
  | [] => rfl
  | v :: rest => by
      rw [prettyItems, renderItems, prettyChars_eq (level + 1) v, prettyItems_eq level rest]
      rfl

/-- The members of the pretty form are written as the layout with lines has them. -/
theorem prettyMembers_eq (level : ℕ) :
    (members : List (String × Json)) →
      prettyMembers level members = renderMembers .pretty level members
  | [] => rfl
  | (name, v) :: rest => by
      rw [prettyMembers, renderMembers, prettyChars_eq (level + 1) v, prettyMembers_eq level rest]
      simp [Layout.pretty]

end

/-! ### What follows a value -/

/-- A character that no number has does not continue a number. -/
theorem endsNumber_cons {c : Char} (h : c.isDigit = false ∧ c ≠ '.' ∧ c ≠ 'e' ∧ c ≠ 'E')
    (text : List Char) : EndsNumber (c :: text) := by
  intro d hd
  cases hd
  exact h

/-- Blanks do not continue a number. If there are none, it depends on what follows them. -/
theorem endsNumber_append {bs : List Char} (h : ∀ c ∈ bs, IsBlank c) {text : List Char}
    (htext : EndsNumber text) : EndsNumber (bs ++ text) := by
  cases bs with
  | nil => exact htext
  | cons b bs =>
      refine endsNumber_cons ?_ (bs ++ text)
      rcases h b List.mem_cons_self with rfl | rfl | rfl | rfl <;> decide

/-- What follows an item does not continue a number: a comma, or blanks and a closing bracket. So an
item that is a number ends where it should. -/
theorem endsNumber_renderItems (l : Layout) (level : ℕ) (items : List Json) (rest : List Char) :
    EndsNumber (renderItems l level items ++ rest) := by
  cases items with
  | nil =>
      rw [renderItems, List.append_assoc]
      exact endsNumber_append (l.blank_gap level) (endsNumber_cons (by decide) rest)
  | cons v items => exact endsNumber_cons (by decide) _

/-- What follows the value of a member does not continue a number: a comma, or blanks and a closing
brace. -/
theorem endsNumber_renderMembers (l : Layout) (level : ℕ) (members : Members) (rest : List Char) :
    EndsNumber (renderMembers l level members ++ rest) := by
  cases members with
  | nil =>
      rw [renderMembers, List.append_assoc]
      exact endsNumber_append (l.blank_gap level) (endsNumber_cons (by decide) rest)
  | cons m members => exact endsNumber_cons (by decide) _

/-- There is at least one value inside a value, the value itself. -/
theorem size_pos (v : Json) : 0 < v.size := by
  cases v <;> simp only [size] <;> omega

/-! ### Reading -/

/-- A text that starts with a sign or a digit is read as a number. -/
theorem readValue_number {c : Char} {text : List Char} (h : c = '-' ∨ c.isDigit = true)
    (fuel levels : ℕ) :
    readValue (fuel + 1) levels (c :: text)
      = (readNumber (c :: text)).map fun (n, rest) => (.number n, rest) := by
  have hne : ∀ d : Char, ¬(d = '-' ∨ d.isDigit = true) → c ≠ d := by
    rintro d hd rfl
    exact hd h
  have hblank : ¬ IsBlank c := by
    rintro (rfl | rfl | rfl | rfl) <;> exact absurd h (by decide)
  rw [readValue, skipBlanks_cons hblank]
  split
  · next heq => exact absurd (List.cons.inj heq).1 (hne 'n' (by decide))
  · next heq => exact absurd (List.cons.inj heq).1 (hne 't' (by decide))
  · next heq => exact absurd (List.cons.inj heq).1 (hne 'f' (by decide))
  · next heq => exact absurd (List.cons.inj heq).1 (hne '"' (by decide))
  · next heq => exact absurd (List.cons.inj heq).1 (hne '[' (by decide))
  · next heq => exact absurd (List.cons.inj heq).1 (hne '{' (by decide))
  · rfl

/-- The text of a value starts with a character that is neither a blank nor a closing bracket. So
the reader of an array can tell its first item from its end. -/
theorem exists_render_eq_cons (l : Layout) (level : ℕ) (v : Json) :
    ∃ c text, render l level v = c :: text ∧ ¬ IsBlank c ∧ c ≠ ']' := by
  cases v with
  | null => exact ⟨'n', _, rfl, by decide⟩
  | bool b => cases b <;> exact ⟨_, _, rfl, by decide⟩
  | number n =>
      obtain ⟨c, text, htext, hc⟩ := exists_number_eq_cons n
      refine ⟨c, text, htext, ?_, ?_⟩
      · rintro (rfl | rfl | rfl | rfl) <;> exact absurd hc (by decide)
      · rintro rfl
        exact absurd hc (by decide)
  | string s => exact ⟨'"', _, rfl, by decide⟩
  | array items => cases items <;> exact ⟨'[', _, rfl, by decide⟩
  | object members => cases members <;> exact ⟨'{', _, rfl, by decide⟩

/-- Blanks in front of the items of an array make no difference to what is read. -/
theorem readItems_blanks {bs : List Char} (h : ∀ c ∈ bs, IsBlank c) (fuel levels : ℕ)
    (text : List Char) : readItems fuel levels (bs ++ text) = readItems fuel levels text := by
  cases fuel with
  | zero => rfl
  | succ fuel => rw [readItems, readItems, readValue_blanks h]

/-- Blanks in front of the members of an object make no difference to what is read. -/
theorem readMembers_blanks {bs : List Char} (h : ∀ c ∈ bs, IsBlank c) (fuel levels : ℕ)
    (text : List Char) : readMembers fuel levels (bs ++ text) = readMembers fuel levels text := by
  cases fuel with
  | zero => rfl
  | succ fuel => rw [readMembers, readMembers, skipBlanks_append h]

/-- The items of an array end with the one behind which, after blanks, the closing bracket
follows. -/
theorem readItems_last {fuel levels : ℕ} {text t rest : List Char} {v : Json}
    (hv : readValue fuel levels text = some (v, t)) (ht : skipBlanks t = ']' :: rest) :
    readItems (fuel + 1) levels text = some ([v], rest) := by
  simp only [readItems, hv, bind, Option.bind, ht]
  rfl

/-- The items of an array go on with those that are read behind the next comma. -/
theorem readItems_more {fuel levels : ℕ} {text t t' rest : List Char} {v : Json}
    {items : List Json} (hv : readValue fuel levels text = some (v, t))
    (ht : skipBlanks t = ',' :: t') (hitems : readItems fuel levels t' = some (items, rest)) :
    readItems (fuel + 1) levels text = some (v :: items, rest) := by
  simp only [readItems, hv, bind, Option.bind, ht, hitems]
  rfl

/-- The members of an object end with the one behind which, after blanks, the closing brace
follows. -/
theorem readMembers_last {fuel levels : ℕ} {name : String} {text t rest : List Char} {v : Json}
    (hv : readValue fuel levels text = some (v, t)) (ht : skipBlanks t = '}' :: rest) :
    readMembers (fuel + 1) levels (quoted name ++ ':' :: text) = some ([(name, v)], rest) := by
  have hname : readChars (name.toList.flatMap escapeChar ++ '"' :: ':' :: text)
      = some (name.toList, ':' :: text) := readChars_escaped _ _
  have htext : quoted name ++ ':' :: text
      = '"' :: (name.toList.flatMap escapeChar ++ '"' :: ':' :: text) := by simp [quoted]
  rw [htext]
  simp only [readMembers, skipBlanks_cons (show ¬ IsBlank '"' by decide),
    skipBlanks_cons (show ¬ IsBlank ':' by decide), hname, hv, bind, Option.bind, ht,
    String.ofList_toList]
  rfl

/-- The members of an object go on with those that are read behind the next comma. -/
theorem readMembers_more {fuel levels : ℕ} {name : String} {text t t' rest : List Char} {v : Json}
    {members : Members} (hv : readValue fuel levels text = some (v, t))
    (ht : skipBlanks t = ',' :: t') (hmembers : readMembers fuel levels t' = some (members, rest)) :
    readMembers (fuel + 1) levels (quoted name ++ ':' :: text)
      = some ((name, v) :: members, rest) := by
  have hname : readChars (name.toList.flatMap escapeChar ++ '"' :: ':' :: text)
      = some (name.toList, ':' :: text) := readChars_escaped _ _
  have htext : quoted name ++ ':' :: text
      = '"' :: (name.toList.flatMap escapeChar ++ '"' :: ':' :: text) := by simp [quoted]
  rw [htext]
  simp only [readMembers, skipBlanks_cons (show ¬ IsBlank '"' by decide),
    skipBlanks_cons (show ¬ IsBlank ':' by decide), hname, hv, bind, Option.bind, ht, hmembers,
    String.ofList_toList]
  rfl

/-- An array is read if its items are, behind the opening bracket and blanks. One level less is left
for the items, and the first of them may not start with the closing bracket. -/
theorem readValue_array {fuel levels : ℕ} {bs text rest : List Char} {c : Char}
    {items : List Json} (hbs : ∀ b ∈ bs, IsBlank b) (hblank : ¬ IsBlank c) (hc : c ≠ ']')
    (h : readItems fuel levels (c :: text) = some (items, rest)) :
    readValue (fuel + 1) (levels + 1) ('[' :: (bs ++ c :: text)) = some (.array items, rest) := by
  rw [readValue, skipBlanks_cons (show ¬ IsBlank '[' by decide)]
  simp only [skipBlanks_append hbs, skipBlanks_cons hblank]
  split
  · next heq => exact absurd (List.cons.inj heq).1 hc
  · rw [h]
    rfl

/-- An object is read if its members are, behind the opening brace and blanks, and its members are
put in order. One level less is left for their values. -/
theorem readValue_object {fuel levels : ℕ} {bs rest text : List Char} {name : String}
    {members : Members} (hbs : ∀ b ∈ bs, IsBlank b)
    (h : readMembers fuel levels (quoted name ++ text) = some (members, rest)) :
    readValue (fuel + 1) (levels + 1) ('\x7b' :: (bs ++ (quoted name ++ text)))
      = some (.ofMembers members, rest) := by
  have htext : quoted name ++ text = '"' :: (name.toList.flatMap escapeChar ++ '"' :: text) := by
    simp [quoted]
  rw [htext] at h ⊢
  rw [readValue, skipBlanks_cons (show ¬ IsBlank '\x7b' by decide)]
  simp only [skipBlanks_append hbs, skipBlanks_cons (show ¬ IsBlank '"' by decide)]
  split
  · next heq => exact absurd (List.cons.inj heq).1 (by decide)
  · rw [h]
    rfl

/-- The text of an array with items, in front of another text, taken apart in the order in which the
reader meets its parts. -/
theorem render_array_append (l : Layout) (level : ℕ) (v : Json) (items : List Json)
    (rest : List Char) :
    render l level (.array (v :: items)) ++ rest = '[' :: (l.gap (level + 1)
      ++ (render l (level + 1) v ++ (renderItems l level items ++ rest))) := by
  simp [render]

/-- The text of an object with members, in front of another text, taken apart in the order in which
the reader meets its parts. -/
theorem render_object_append (l : Layout) (level : ℕ) (name : String) (v : Json)
    (members : Members) (rest : List Char) :
    render l level (.object ((name, v) :: members)) ++ rest = '\x7b' :: (l.gap (level + 1)
      ++ (quoted name ++ ':' :: (l.afterColon
        ++ (render l (level + 1) v ++ (renderMembers l level members ++ rest))))) := by
  simp [render]

/-- The text of further items, in front of another text, taken apart in the order in which the
reader meets its parts. -/
theorem renderItems_append (l : Layout) (level : ℕ) (v : Json) (items : List Json)
    (rest : List Char) :
    renderItems l level (v :: items) ++ rest = ',' :: (l.gap (level + 1)
      ++ (render l (level + 1) v ++ (renderItems l level items ++ rest))) := by
  simp [renderItems]

/-- The text of further members, in front of another text, taken apart in the order in which the
reader meets its parts. -/
theorem renderMembers_append (l : Layout) (level : ℕ) (name : String) (v : Json)
    (members : Members) (rest : List Char) :
    renderMembers l level ((name, v) :: members) ++ rest = ',' :: (l.gap (level + 1)
      ++ (quoted name ++ ':' :: (l.afterColon
        ++ (render l (level + 1) v ++ (renderMembers l level members ++ rest))))) := by
  simp [renderMembers]

/-- With so many steps the reader gives back every canonical value from its text and stops right
behind it, if the steps are enough for the size of the value and the levels for its depth. -/
def ReadsValues (l : Layout) (fuel : ℕ) : Prop :=
  ∀ (v : Json) (level levels : ℕ) (rest : List Char), v.Canonical → 2 * v.size ≤ fuel →
    v.depth ≤ levels → EndsNumber rest →
    readValue fuel levels (render l level v ++ rest) = some (v, rest)

/-- With so many steps the reader gives back one or more items of an array from their text and stops
right behind the closing bracket. -/
def ReadsItems (l : Layout) (fuel : ℕ) : Prop :=
  ∀ (v : Json) (items : List Json) (level levels : ℕ) (rest : List Char),
    CanonicalItems (v :: items) → 2 * sizeItems (v :: items) < fuel →
    depthItems (v :: items) ≤ levels →
    readItems fuel levels (render l (level + 1) v ++ (renderItems l level items ++ rest))
      = some (v :: items, rest)

/-- With so many steps the reader gives back one or more members of an object from their text and
stops right behind the closing brace. -/
def ReadsMembers (l : Layout) (fuel : ℕ) : Prop :=
  ∀ (name : String) (v : Json) (members : Members) (level levels : ℕ) (rest : List Char),
    CanonicalMembers ((name, v) :: members) → 2 * sizeMembers ((name, v) :: members) < fuel →
    depthMembers ((name, v) :: members) ≤ levels →
    readMembers fuel levels (quoted name ++ ':' ::
        (l.afterColon ++ (render l (level + 1) v ++ (renderMembers l level members ++ rest))))
      = some ((name, v) :: members, rest)

/-- With one step more the reader gives back items: the first one takes fewer steps, and the others
are read with the steps that are left. -/
theorem readsItems_succ {l : Layout} {fuel : ℕ} (hvalues : ReadsValues l fuel)
    (hitems : ReadsItems l fuel) : ReadsItems l (fuel + 1) := by
  intro v items level levels rest hcanonical hfuel hlevels
  rw [sizeItems] at hfuel
  rw [depthItems] at hlevels
  have hsize := v.size_pos
  have hv := hvalues v (level + 1) levels (renderItems l level items ++ rest) hcanonical.1
    (by omega) (by omega) (endsNumber_renderItems l level items rest)
  -- Behind the item stands the closing bracket, or a comma and the next item.
  cases items with
  | nil =>
      refine readItems_last hv ?_
      rw [renderItems, List.append_assoc, skipBlanks_append (l.blank_gap level)]
      exact skipBlanks_cons (by decide) rest
  | cons w items =>
      rw [renderItems_append] at hv ⊢
      refine readItems_more hv (skipBlanks_cons (by decide) _) ?_
      rw [readItems_blanks (l.blank_gap (level + 1))]
      exact hitems w items level levels rest hcanonical.2 (by omega) (by omega)

/-- With one step more the reader gives back members: the value of the first one takes fewer steps,
and the others are read with the steps that are left. -/
theorem readsMembers_succ {l : Layout} {fuel : ℕ} (hvalues : ReadsValues l fuel)
    (hmembers : ReadsMembers l fuel) : ReadsMembers l (fuel + 1) := by
  intro name v members level levels rest hcanonical hfuel hlevels
  rw [sizeMembers] at hfuel
  rw [depthMembers] at hlevels
  have hsize := v.size_pos
  have hv := hvalues v (level + 1) levels (renderMembers l level members ++ rest) hcanonical.1
    (by omega) (by omega) (endsNumber_renderMembers l level members rest)
  rw [← readValue_blanks l.blank_afterColon] at hv
  -- Behind the member stands the closing brace, or a comma and the next member.
  cases members with
  | nil =>
      refine readMembers_last hv ?_
      rw [renderMembers, List.append_assoc, skipBlanks_append (l.blank_gap level)]
      exact skipBlanks_cons (by decide) rest
  | cons m members =>
      obtain ⟨name', w⟩ := m
      rw [renderMembers_append] at hv ⊢
      refine readMembers_more hv (skipBlanks_cons (by decide) _) ?_
      rw [readMembers_blanks (l.blank_gap (level + 1))]
      exact hmembers name' w members level levels rest hcanonical.2 (by omega) (by omega)

/-- With one step more the reader gives back values: the step enters an array or an object, whose
inside is read with the steps that are left, and everything else takes no further step. -/
theorem readsValues_succ {l : Layout} {fuel : ℕ} (hitems : ReadsItems l fuel)
    (hmembers : ReadsMembers l fuel) : ReadsValues l (fuel + 1) := by
  intro v level levels rest hcanonical hfuel hlevels hrest
  -- The first character of the text says which value the reader expects.
  cases v with
  | null =>
      show readValue (fuel + 1) levels ('n' :: 'u' :: 'l' :: 'l' :: rest) = _
      simp [readValue, skipBlanks, readWord]
  | bool b =>
      cases b
      · show readValue (fuel + 1) levels ('f' :: 'a' :: 'l' :: 's' :: 'e' :: rest) = _
        simp [readValue, skipBlanks, readWord]
      · show readValue (fuel + 1) levels ('t' :: 'r' :: 'u' :: 'e' :: rest) = _
        simp [readValue, skipBlanks, readWord]
  | number n =>
      have hread := readNumber_write n hrest
      obtain ⟨c, text, htext, hc⟩ := exists_number_eq_cons n
      rw [render, htext, List.cons_append, readValue_number hc]
      rw [htext, List.cons_append] at hread
      rw [hread]
      rfl
  | string s =>
      have hread := readChars_escaped s.toList rest
      have htext : quoted s ++ rest = '"' :: (s.toList.flatMap escapeChar ++ '"' :: rest) := by
        simp [quoted]
      rw [render, htext, readValue, skipBlanks_cons (by decide)]
      simp only [hread, Option.map_some, String.ofList_toList]
  | array items =>
      rw [depth] at hlevels
      obtain ⟨levels, rfl⟩ : ∃ k, levels = k + 1 := ⟨levels - 1, by omega⟩
      cases items with
      | nil =>
          show readValue (fuel + 1) (levels + 1) ('[' :: ']' :: rest) = _
          simp [readValue, skipBlanks]
      | cons v items =>
          rw [size] at hfuel
          have hread := hitems v items level levels rest hcanonical (by omega) (by omega)
          obtain ⟨c, text, htext, hblank, hc⟩ := exists_render_eq_cons l (level + 1) v
          rw [render_array_append, htext]
          rw [htext] at hread
          exact readValue_array (l.blank_gap (level + 1)) hblank hc hread
  | object members =>
      rw [depth] at hlevels
      obtain ⟨levels, rfl⟩ : ∃ k, levels = k + 1 := ⟨levels - 1, by omega⟩
      cases members with
      | nil =>
          show readValue (fuel + 1) (levels + 1) ('\x7b' :: '\x7d' :: rest) = _
          simp [readValue, skipBlanks]
      | cons m members =>
          obtain ⟨name, v⟩ := m
          rw [size] at hfuel
          have hread := hmembers name v members level levels rest hcanonical.2 (by omega) (by omega)
          -- The members are in order, so that building an object from them changes nothing.
          rw [render_object_append, readValue_object (l.blank_gap (level + 1)) hread, ofMembers,
            Members.ofList_of_ordered hcanonical.1]

/-- The reader gives back every canonical value from its text, in any layout, and stops right behind
it. Twice as many steps as there are values inside are enough. -/
theorem readValue_render (l : Layout) (fuel : ℕ) : ReadsValues l fuel := by
  -- Every step relies on values, items and members being read with one step less.
  suffices h : ReadsValues l fuel ∧ ReadsItems l fuel ∧ ReadsMembers l fuel from h.1
  induction fuel with
  | zero =>
      refine ⟨?_, ?_, ?_⟩
      · intro v _ _ _ _ hfuel
        have := v.size_pos
        omega
      · intro v items _ _ _ _ hfuel
        exact absurd hfuel (Nat.not_lt_zero _)
      · intro name v members _ _ _ _ hfuel
        exact absurd hfuel (Nat.not_lt_zero _)
  | succ fuel ih =>
      obtain ⟨hvalues, hitems, hmembers⟩ := ih
      exact ⟨readsValues_succ hitems hmembers, readsItems_succ hvalues hitems,
        readsMembers_succ hvalues hmembers⟩

/-! ### Whole texts -/

mutual

/-- Every value inside a value takes at least one character of the text. So the steps that are
allowed by the length of a text are enough to read it. -/
theorem size_le_length_render (l : Layout) (level : ℕ) : (v : Json) →
    v.size ≤ (render l level v).length
  | .null => Nat.le_add_left 1 3
  | .bool true => Nat.le_add_left 1 3
  | .bool false => Nat.le_add_left 1 4
  | .number n => by
      obtain ⟨c, text, htext, -⟩ := exists_number_eq_cons n
      rw [render, htext]
      exact Nat.le_add_left 1 text.length
  | .string s => by
      rw [render, quoted]
      exact Nat.le_add_left 1 _
  | .array [] => Nat.le_add_left 1 1
  | .array (v :: rest) => by
      have hv := size_le_length_render l (level + 1) v
      have hrest := sizeItems_le_length_renderItems l level rest
      simp only [render, size, sizeItems, List.length_append, List.length_cons]
      omega
  | .object [] => Nat.le_add_left 1 1
  | .object ((name, v) :: rest) => by
      have hv := size_le_length_render l (level + 1) v
      have hrest := sizeMembers_le_length_renderMembers l level rest
      simp only [render, size, sizeMembers, List.length_append, List.length_cons]
      omega

/-- Every value inside the items of an array takes at least one character of their text. -/
theorem sizeItems_le_length_renderItems (l : Layout) (level : ℕ) : (items : List Json) →
    sizeItems items ≤ (renderItems l level items).length
  | [] => Nat.zero_le _
  | v :: rest => by
      have hv := size_le_length_render l (level + 1) v
      have hrest := sizeItems_le_length_renderItems l level rest
      simp only [renderItems, sizeItems, List.length_append, List.length_cons]
      omega

/-- Every value inside the members of an object takes at least one character of their text. -/
theorem sizeMembers_le_length_renderMembers (l : Layout) (level : ℕ) :
    (members : List (String × Json)) →
    sizeMembers members ≤ (renderMembers l level members).length
  | [] => Nat.zero_le _
  | (name, v) :: rest => by
      have hv := size_le_length_render l (level + 1) v
      have hrest := sizeMembers_le_length_renderMembers l level rest
      simp only [renderMembers, sizeMembers, List.length_append, List.length_cons]
      omega

end

/-- Reading a whole text within so many levels gives back the canonical value that was written in
it, in any layout, if the levels are enough for the depth of the value. -/
theorem parseWithin?_render (l : Layout) {v : Json} (hv : v.Canonical) {levels : ℕ}
    (hlevels : v.depth ≤ levels) :
    parseWithin? levels (String.ofList (render l 0 v)) = some v := by
  have hsize := size_le_length_render l 0 v
  have hread := readValue_render l (2 * (render l 0 v).length + 2) v 0 levels [] hv (by omega)
    hlevels (by rintro c ⟨⟩)
  rw [List.append_nil] at hread
  rw [parseWithin?, String.toList_ofList]
  simp only [hread, bind, Option.bind]
  rfl

/-- Reading a whole text gives back the canonical value that was written in it, in any layout. -/
theorem parse?_render (l : Layout) {v : Json} (hv : v.Canonical) :
    parse? (String.ofList (render l 0 v)) = some v := by
  have hdepth := depth_le_size v
  have hsize := size_le_length_render l 0 v
  rw [parse?, String.toList_ofList]
  exact parseWithin?_render l hv (Nat.le_trans hdepth hsize)

/-! ### Texts tell values apart -/

/-- If a text starts with the text of a canonical value in two ways, the values are the same, and so
is what stands behind them. Behind a number nothing may stand that continues it; for other values
this is no restriction. -/
theorem render_append_inj (l : Layout) (level : ℕ) {v w : Json} (hv : v.Canonical)
    (hw : w.Canonical) {rest rest' : List Char} (hrest : EndsNumber rest)
    (hrest' : EndsNumber rest') (h : render l level v ++ rest = render l level w ++ rest') :
    v = w ∧ rest = rest' := by
  -- Read with steps and levels for both values, the text has one result only.
  have hread := readValue_render l (2 * (v.size + w.size)) v level (v.depth + w.depth) rest hv
    (by omega) (by omega) hrest
  have hread' := readValue_render l (2 * (v.size + w.size)) w level (v.depth + w.depth) rest' hw
    (by omega) (by omega) hrest'
  rw [h, hread'] at hread
  cases hread
  exact ⟨rfl, rfl⟩

/-- Where the compact form of a canonical value ends can be found in a longer text, and so can the
value. -/
theorem compactChars_append_inj {v w : Json} (hv : v.Canonical) (hw : w.Canonical)
    {rest rest' : List Char} (hrest : EndsNumber rest) (hrest' : EndsNumber rest')
    (h : v.compactChars ++ rest = w.compactChars ++ rest') : v = w ∧ rest = rest' := by
  rw [compactChars_eq 0, compactChars_eq 0] at h
  exact render_append_inj .compact 0 hv hw hrest hrest' h

/-- Where the pretty form of a canonical value ends can be found in a longer text, and so can the
value. -/
theorem prettyChars_append_inj {v w : Json} (hv : v.Canonical) (hw : w.Canonical)
    {rest rest' : List Char} (hrest : EndsNumber rest) (hrest' : EndsNumber rest')
    (h : prettyChars 0 v ++ rest = prettyChars 0 w ++ rest') : v = w ∧ rest = rest' := by
  rw [prettyChars_eq, prettyChars_eq] at h
  exact render_append_inj .pretty 0 hv hw hrest hrest' h

end SchemaGate.Json
