import SchemaGate.Proofs.Pointer
import SchemaGate.Proofs.Text.Run
import SchemaGate.Report

/-!
# `SchemaGate.Proofs.Report`: rendered places are unambiguous

A place is rendered segment by segment without separators: `[0]` for an index, `.name` for a plain
name, and `['text']` for everything else. Indices and plain names are runs of characters that the
next segment does not continue, so they end where they seem to. Quoted segments are different: a
quote inside is written `\'`, but a backslash is written as it is, so `\'` is a quote inside for one
reading and a backslash before the closing quote for another.

The two readings can differ at such a place, but they cannot end together. From there on one of them
is between two segments and the other one inside quotes. The former has to open quotes at some
point, which for the latter is a quote that closes; so both change places at once, and at the end of
the text one of them is still inside quotes (`inQuotes_ne`). Therefore two pointers with the same
rendered text are the same (`displayPath_write_inj`).
-/

set_option autoImplicit false

namespace SchemaGate.Report

open Text (EndsRun endsRun_cons notMem_run run_append_inj append_cons_inj)

/-! ### The forms of a segment -/

/-- The characters that a plain name consists of: letters, digits, the underscore and the dollar
sign. Neither a bracket nor a dot is one of them, so no segment continues the name before it. -/
def isNameChar (c : Char) : Bool := c.isAlphanum || c == '_' || c == '$'

/-- A segment that is rendered as an index consists of digits. -/
theorem isDigit_of_isIndex {s : List Char} (h : isIndex s = true) : ∀ c ∈ s, c.isDigit = true :=
  List.all_eq_true.1 (Bool.and_eq_true_iff.1 h).2

/-- A segment that is rendered as a plain name consists of the characters of names, its first
character too. -/
theorem isNameChar_of_isPlainName {s : List Char} (h : isPlainName s = true) :
    ∀ c ∈ s, isNameChar c = true := by
  cases s with
  | nil => cases h
  | cons c rest =>
      obtain ⟨hfirst, hrest⟩ := Bool.and_eq_true_iff.1 h
      refine List.forall_mem_cons.2 ⟨?_, List.all_eq_true.1 hrest⟩
      -- The first character may be any of these but a digit.
      simp only [Bool.or_eq_true] at hfirst
      rcases hfirst with (hletter | hline) | hdollar <;> simp [isNameChar, Char.isAlphanum, *]

/-! ### Inside quotes -/

/-- The text of a place: its segments, each rendered in its own form, one after the other. Nothing
stands between two segments, so it is not obvious that the text can be read back. -/
def displaySegments (segments : List (List Char)) : List Char := segments.flatMap displaySegment

/-- The text of a place from a position inside quotes on. `s` is what is left of the segment that is
being read, and `later` are the segments behind it; the quotes are closed in between. -/
def inQuotes (s : List Char) (later : List (List Char)) : List Char :=
  quoteSegment s ++ '\'' :: ']' :: displaySegments later

/-- A quote inside a segment is written with a backslash in front of it. -/
theorem inQuotes_quote (s : List Char) (later : List (List Char)) :
    inQuotes ('\'' :: s) later = '\\' :: '\'' :: inQuotes s later := rfl

/-- Inside quotes every character but the quote stands for itself, the backslash too. Because the
backslash is not written in any other way, the text alone does not tell what it belongs to. -/
theorem inQuotes_cons {c : Char} (h : c ≠ '\'') (s : List Char) (later : List (List Char)) :
    inQuotes (c :: s) later = c :: inQuotes s later := by
  simp [inQuotes, quoteSegment, h]

/-- If the text inside quotes goes on with a quote, nothing is left of the segment: a quote of the
segment would have a backslash in front. A bracket and the later segments follow. -/
theorem eq_nil_of_inQuotes {s : List Char} {later : List (List Char)} {text : List Char}
    (h : inQuotes s later = '\'' :: text) : s = [] ∧ text = ']' :: displaySegments later := by
  cases s with
  | nil => exact ⟨rfl, (List.cons.inj h).2.symm⟩
  | cons c s =>
      by_cases hc : c = '\''
      · subst hc
        rw [inQuotes_quote] at h
        exact absurd (List.cons.inj h).1 (by decide)
      · rw [inQuotes_cons hc] at h
        exact absurd (List.cons.inj h).1 hc

/-- If the text inside quotes goes on with a character that is neither a quote nor a backslash, then
this character is the next one of the segment, and the quotes stay open behind it. -/
theorem exists_of_inQuotes_cons {c : Char} (hquote : c ≠ '\'') (hslash : c ≠ '\\')
    {s : List Char} {later : List (List Char)} {text : List Char}
    (h : inQuotes s later = c :: text) : ∃ s', s = c :: s' ∧ inQuotes s' later = text := by
  cases s with
  | nil => exact absurd (List.cons.inj h).1.symm hquote
  | cons d s =>
      by_cases hd : d = '\''
      · subst hd
        rw [inQuotes_quote] at h
        exact absurd (List.cons.inj h).1.symm hslash
      · rw [inQuotes_cons hd] at h
        obtain ⟨rfl, htext⟩ := List.cons.inj h
        exact ⟨s, rfl, htext⟩

/-- A text without quotes and backslashes cannot lead out of quotes: behind it the reading is still
inside the same segment. -/
theorem exists_of_inQuotes_append {front : List Char} (hquote : '\'' ∉ front)
    (hslash : '\\' ∉ front) {s : List Char} {later : List (List Char)} {text : List Char}
    (h : inQuotes s later = front ++ text) : ∃ s', inQuotes s' later = text := by
  induction front generalizing s with
  | nil => exact ⟨s, h⟩
  | cons c front ih =>
      obtain ⟨s', -, hs'⟩ := exists_of_inQuotes_cons (Ne.symm (List.ne_of_not_mem_cons hquote))
        (Ne.symm (List.ne_of_not_mem_cons hslash)) h
      exact ih (List.not_mem_of_not_mem_cons hquote) (List.not_mem_of_not_mem_cons hslash) hs'

/-! ### Segments in front of others -/

/-- How a segment is rendered in front of others: digits between brackets, a plain name behind a
dot, or any characters between quotes. The first two forms come with the kind of their characters,
which is what tells where they end. -/
inductive Rendered (s : List Char) (later : List (List Char)) : Prop
  | index (hs : ∀ c ∈ s, c.isDigit = true)
      (heq : displaySegments (s :: later) = '[' :: (s ++ ']' :: displaySegments later))
  | name (hs : ∀ c ∈ s, isNameChar c = true)
      (heq : displaySegments (s :: later) = '.' :: (s ++ displaySegments later))
  | quoted (heq : displaySegments (s :: later) = '[' :: '\'' :: inQuotes s later)

/-- Every segment is rendered as an index, as a plain name or between quotes. -/
theorem rendered (s : List Char) (later : List (List Char)) : Rendered s later := by
  have hcons : displaySegments (s :: later) = displaySegment s ++ displaySegments later := rfl
  cases hindex : isIndex s with
  | true => exact .index (isDigit_of_isIndex hindex) (by simp [hcons, displaySegment, hindex])
  | false =>
      cases hname : isPlainName s with
      | true =>
          exact .name (isNameChar_of_isPlainName hname)
            (by simp [hcons, displaySegment, hindex, hname])
      | false => exact .quoted (by simp [hcons, displaySegment, hindex, hname, inQuotes])

/-- A segment is rendered in one of two ways: without any quote or backslash, or between quotes.
Readings can only part where there are quotes, so indices and plain names need not be told apart
there. -/
theorem rendered_plain_or_quoted (s : List Char) (later : List (List Char)) :
    (∃ front, '\'' ∉ front ∧ '\\' ∉ front ∧
      displaySegments (s :: later) = front ++ displaySegments later) ∨
    displaySegments (s :: later) = '[' :: '\'' :: inQuotes s later := by
  rcases rendered s later with ⟨hs, heq⟩ | ⟨hs, heq⟩ | ⟨heq⟩
  · have hquote : '\'' ∉ s := notMem_run hs (by decide)
    have hslash : '\\' ∉ s := notMem_run hs (by decide)
    exact .inl ⟨'[' :: s ++ [']'], by simp [hquote], by simp [hslash], by simp [heq]⟩
  · have hquote : '\'' ∉ s := notMem_run hs (by decide)
    have hslash : '\\' ∉ s := notMem_run hs (by decide)
    exact .inl ⟨'.' :: s, by simp [hquote], by simp [hslash], by simp [heq]⟩
  · exact .inr heq

/-- No segment is rendered as nothing, not even one without characters, so a place with segments has
a text. -/
theorem displaySegments_cons_ne_nil (s : List Char) (later : List (List Char)) :
    displaySegments (s :: later) ≠ [] := by
  rcases rendered s later with ⟨-, heq⟩ | ⟨-, heq⟩ | ⟨heq⟩ <;> simp [heq]

/-- What follows a plain name does not continue it: the next segment starts with a bracket or a dot,
and at the end there is nothing. -/
theorem endsRun_displaySegments (later : List (List Char)) :
    EndsRun isNameChar (displaySegments later) := by
  cases later with
  | nil =>
      intro c hc
      cases hc
  | cons s later =>
      rcases rendered s later with ⟨-, heq⟩ | ⟨-, heq⟩ | ⟨heq⟩ <;>
        exact heq ▸ endsRun_cons (by decide) _

/-! ### Two readings of one text -/

/-- A reading that is inside quotes and one that is between two segments never end together.
Whenever the second one opens quotes, the first one closes them, so they only change places. -/
theorem inQuotes_ne (s : List Char) (later segments : List (List Char)) :
    inQuotes s later ≠ displaySegments segments := by
  -- Every segment of the reading outside leaves one segment less, and may change the places.
  induction hn : later.length + segments.length using Nat.strongRecOn
    generalizing s later segments with
  | ind n ih =>
      intro h
      cases segments with
      | nil =>
          have hlength := congrArg List.length h
          simp [inQuotes, displaySegments] at hlength
      | cons t segments =>
          have hless : later.length + segments.length < n := by
            rw [List.length_cons] at hn
            omega
          rcases rendered_plain_or_quoted t segments with ⟨front, hquote, hslash, heq⟩ | heq
          · -- The other reading stays inside quotes.
            rw [heq] at h
            obtain ⟨s', hs'⟩ := exists_of_inQuotes_append hquote hslash h
            exact ih _ hless s' later segments rfl hs'
          · -- The quote that opens here closes the quotes of the other reading.
            rw [heq] at h
            obtain ⟨s', -, hs'⟩ := exists_of_inQuotes_cons (by decide) (by decide) h
            obtain ⟨-, hopened⟩ := eq_nil_of_inQuotes hs'
            obtain ⟨t', -, ht'⟩ := exists_of_inQuotes_cons (by decide) (by decide) hopened
            exact ih _ (by omega) t' segments later rfl ht'

/-- Two readings of one text cannot part inside quotes. Where a quote of the segment comes next for
one of them, it comes next for the other as well: if the other saw the backslash as a character of
its own, its quotes would be closed right behind. -/
theorem inQuotes_quote_ne {c : Char} (hc : c ≠ '\'') (s t : List Char)
    (later later' : List (List Char)) :
    inQuotes ('\'' :: s) later ≠ inQuotes (c :: t) later' := by
  intro h
  rw [inQuotes_quote, inQuotes_cons hc] at h
  -- The other reading is at a backslash and closes its quotes behind it.
  obtain ⟨-, hquote⟩ := List.cons.inj h
  obtain ⟨-, hclosed⟩ := eq_nil_of_inQuotes hquote.symm
  obtain ⟨s', -, hs'⟩ := exists_of_inQuotes_cons (by decide) (by decide) hclosed
  exact inQuotes_ne s' later later' hs'

/-- Two readings of one text that are both inside quotes have the same characters left of their
segments, and the same text behind these segments. -/
theorem inQuotes_inj {s t : List Char} {later later' : List (List Char)}
    (h : inQuotes s later = inQuotes t later') :
    s = t ∧ displaySegments later = displaySegments later' := by
  induction s generalizing t with
  | nil =>
      obtain ⟨rfl, htext⟩ := eq_nil_of_inQuotes h.symm
      exact ⟨rfl, (List.cons.inj htext).2⟩
  | cons c s ih =>
      cases t with
      | nil =>
          obtain ⟨hnil, -⟩ := eq_nil_of_inQuotes h
          cases hnil
      | cons d t =>
          by_cases hc : c = '\'' <;> by_cases hd : d = '\''
          · subst hc hd
            obtain ⟨rfl, hlater⟩ := ih (List.cons.inj (List.cons.inj h).2).2
            exact ⟨rfl, hlater⟩
          · subst hc
            exact absurd h (inQuotes_quote_ne hd s t later later')
          · subst hd
            exact absurd h.symm (inQuotes_quote_ne hc t s later' later)
          · rw [inQuotes_cons hc, inQuotes_cons hd] at h
            obtain ⟨rfl, htail⟩ := List.cons.inj h
            obtain ⟨rfl, hlater⟩ := ih htail
            exact ⟨rfl, hlater⟩

/-- No quote stands behind the bracket that opens an index, because an index has digits only and is
closed by a bracket. So an index is never taken for a quoted segment. -/
theorem index_ne_quote {s : List Char} (hs : ∀ c ∈ s, c.isDigit = true) (rest text : List Char) :
    s ++ ']' :: rest ≠ '\'' :: text := by
  cases s with
  | nil => exact fun h => absurd (List.cons.inj h).1 (by decide)
  | cons c s =>
      intro h
      have hc := hs c List.mem_cons_self
      rw [(List.cons.inj h).1] at hc
      exact absurd hc (by decide)

/-- If two places have the same text, their first segments are the same, and so are the texts of the
segments behind. The forms of the two first segments are compared case by case. -/
theorem displaySegments_cons_inj {s t : List Char} {p q : List (List Char)}
    (h : displaySegments (s :: p) = displaySegments (t :: q)) :
    s = t ∧ displaySegments p = displaySegments q := by
  -- The first two characters tell the form of the segment.
  rcases rendered s p with ⟨hs, heq⟩ | ⟨hs, heq⟩ | ⟨heq⟩ <;>
    rcases rendered t q with ⟨ht, heq'⟩ | ⟨ht, heq'⟩ | ⟨heq'⟩ <;>
    rw [heq, heq'] at h <;>
    obtain ⟨hfirst, htail⟩ := List.cons.inj h
  · exact append_cons_inj (notMem_run hs (by decide)) (notMem_run ht (by decide)) htail
  · exact absurd hfirst (by decide)
  · exact absurd htail (index_ne_quote hs _ _)
  · exact absurd hfirst (by decide)
  · exact run_append_inj hs ht (endsRun_displaySegments p) (endsRun_displaySegments q) htail
  · exact absurd hfirst (by decide)
  · exact absurd htail.symm (index_ne_quote ht _ _)
  · exact absurd hfirst (by decide)
  · exact inQuotes_inj (List.cons.inj htail).2

/-- Places with the same text have the same segments. The text of a place is read from the front,
one segment at a time. -/
theorem displaySegments_inj {p q : List (List Char)} (h : displaySegments p = displaySegments q) :
    p = q := by
  induction p generalizing q with
  | nil =>
      cases q with
      | nil => rfl
      | cons t q => exact absurd h.symm (displaySegments_cons_ne_nil t q)
  | cons s p ih =>
      cases q with
      | nil => exact absurd h (displaySegments_cons_ne_nil s p)
      | cons t q =>
          obtain ⟨rfl, hlater⟩ := displaySegments_cons_inj h
          rw [ih hlater]

/-! ### Pointers -/

/-- The text that a report shows for a pointer is the text of its segments. The report takes the
pointer apart at slashes and undoes the escapes first, and both give back what the pointer was
written from. -/
theorem displayPath_write (p : Pointer) :
    displayPath p.write = String.ofList (displaySegments (p.map String.toList)) := by
  have hsegment : ∀ s : String,
      displaySegment (Pointer.unescape (Pointer.escape s.toList)) = displaySegment s.toList :=
    fun s => by rw [Pointer.unescape_escape]
  rw [displayPath, Pointer.splitSegments_write, List.drop_one, List.tail_cons, displaySegments,
    List.flatMap_map, List.flatMap_map]
  simp only [hsegment]

/-- The text of several records consists of the texts of the single ones with commas between them.
Without any record there is a text of its own, hence the hypothesis. -/
theorem errorsText_eq {records : List ErrorRecord} (h : records ≠ []) (name : String) :
    errorsText records name = ", ".intercalate (records.map (recordText name)) := by
  rw [errorsText, if_neg (by simpa using h)]

/-- The text of a single record: the name of the value, the place inside it, and the message. -/
theorem errorsText_singleton (r : ErrorRecord) (name : String) :
    errorsText [r] name = name ++ displayPath r.dataPath ++ " " ++ r.message := by
  rw [errorsText_eq (List.cons_ne_nil r []), List.map_singleton, String.intercalate_singleton,
    recordText]

/-- A rendered place tells which place it is: two pointers are rendered alike exactly if they are
the same. Hence, under the same name and with the same message, the texts of two records are the
same exactly if the records are about the same place. -/
theorem displayPath_write_inj (p q : Pointer) :
    (displayPath p.write = displayPath q.write ↔ p = q) ∧
    ∀ name keyword keyword' message : String,
      errorsText [⟨keyword, p.write, message⟩] name = errorsText [⟨keyword', q.write, message⟩] name
        ↔ p.write = q.write := by
  have hplaces : displayPath p.write = displayPath q.write → p = q := by
    intro h
    rw [displayPath_write, displayPath_write, String.ofList_inj] at h
    exact List.map_injective_iff.2 (fun _ _ => String.toList_inj.1) (displaySegments_inj h)
  refine ⟨⟨hplaces, fun h => h ▸ rfl⟩, fun name keyword keyword' message => ?_⟩
  rw [errorsText_singleton, errorsText_singleton]
  constructor
  · intro h
    rw [String.append_left_inj, String.append_left_inj, String.append_right_inj] at h
    rw [hplaces h]
  · intro h
    rw [h]

/-- Of two places that are told apart, one text may be the front of the other. -/
example : displayPath (Pointer.write ["a'][", "]"])
    = displayPath (Pointer.write ["a\\", "]["]) ++ "']" := by
  decide +kernel

end SchemaGate.Report
