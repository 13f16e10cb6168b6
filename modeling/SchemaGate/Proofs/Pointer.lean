import SchemaGate.Pointer
import SchemaGate.Proofs.Text.Percent

/-!
# `SchemaGate.Proofs.Pointer`: a pointer can be read back from its fragment

A segment goes through two escapes on its way into a fragment, and both have to be undone in the
right order. `~` marks the first one and is not touched by the second; `/` separates the segments
and is left in neither of their written forms. So a fragment may be split before or after it is
percent-decoded (`splitThenDecode_fragment`, `decodeThenSplit_fragment`), and the segments come out
as they went in.
-/

set_option autoImplicit false

namespace SchemaGate.Pointer

open Text.Percent

/-! ### One segment -/

/-- The written form of a character as far as `~` goes, which becomes `~0`. A slash stays as it is;
this is the inner one of the two escapes of a segment. -/
def escapeTilde (c : Char) : List Char := if c = '~' then ['~', '0'] else [c]

/-- Every pair of the characters `a` and `b` replaced by `c`, from left to right. A pair that is
made only by an earlier replacement is not looked at again. -/
def replacePair (a b c : Char) : List Char → List Char
  | x :: y :: rest =>
    if x = a ∧ y = b then c :: replacePair a b c rest else x :: replacePair a b c (y :: rest)
  | cs => cs

/-- The segment of a written form, undone in two passes: first every `~1` becomes a slash, then
every `~0` becomes a `~`. This is how a reader with replacements undoes the escapes; `unescape` does
it in one pass. -/
def unescapeInTurn (cs : List Char) : List Char :=
  replacePair '~' '0' '~' (replacePair '~' '1' '/' cs)

/-- A character that no pair starts with stays in front, and the replacement goes on behind it. -/
theorem replacePair_cons {a b c x : Char} (h : x ≠ a) (rest : List Char) :
    replacePair a b c (x :: rest) = x :: replacePair a b c rest := by
  cases rest with
  | nil => rfl
  | cons y rest => rw [replacePair, if_neg fun hxy => h hxy.1]

/-- A pair in front is replaced, and the replacement goes on behind both of its characters. -/
theorem replacePair_pair (a b c : Char) (rest : List Char) :
    replacePair a b c (a :: b :: rest) = c :: replacePair a b c rest := by
  rw [replacePair, if_pos ⟨rfl, rfl⟩]

/-- Replacing `~1` in the written form of a segment undoes the outer one of the two escapes. Every
`~` of the segment still stands there as `~0`, because no `~0` can be taken for the start of a
`~1`. -/
theorem replacePair_slash (s : List Char) :
    replacePair '~' '1' '/' (escape s) = s.flatMap escapeTilde := by
  induction s with
  | nil => rfl
  | cons c s ih =>
      show replacePair '~' '1' '/' (escapeChar c ++ escape s)
        = escapeTilde c ++ s.flatMap escapeTilde
      by_cases htilde : c = '~'
      · subst htilde
        show replacePair '~' '1' '/' ('~' :: '0' :: escape s) = '~' :: '0' :: s.flatMap escapeTilde
        -- The pair `~0` is none of those replaced, and `0` starts none.
        rw [replacePair, if_neg (by decide), replacePair_cons (by decide), ih]
      · by_cases hslash : c = '/'
        · -- Here the pair is one of those replaced.
          subst hslash
          show replacePair '~' '1' '/' ('~' :: '1' :: escape s) = '/' :: s.flatMap escapeTilde
          rw [replacePair_pair, ih]
        · rw [escapeChar, if_neg htilde, if_neg hslash, escapeTilde, if_neg htilde]
          show replacePair '~' '1' '/' (c :: escape s) = c :: s.flatMap escapeTilde
          rw [replacePair_cons htilde, ih]

/-- Replacing `~0` undoes the inner one of the two escapes, in which only `~` is written in another
way. -/
theorem replacePair_tilde (s : List Char) :
    replacePair '~' '0' '~' (s.flatMap escapeTilde) = s := by
  induction s with
  | nil => rfl
  | cons c s ih =>
      rw [List.flatMap_cons, escapeTilde]
      split
      · next htilde =>
        subst htilde
        show replacePair '~' '0' '~' ('~' :: '0' :: s.flatMap escapeTilde) = _
        rw [replacePair_pair, ih]
      · next htilde =>
        show replacePair '~' '0' '~' (c :: s.flatMap escapeTilde) = _
        rw [replacePair_cons htilde, ih]

/-- Undone in two passes, the written form of a segment gives back the segment, whatever its
characters are. -/
theorem unescapeInTurn_escape (s : List Char) : unescapeInTurn (escape s) = s := by
  rw [unescapeInTurn, replacePair_slash, replacePair_tilde]

/-- A character that pairs start with stays if the second character of a pair does not follow, and
the replacement goes on behind it. -/
theorem replacePair_alone {a b : Char} (c : Char) {cs : List Char} (h : cs.head? ≠ some b) :
    replacePair a b c (a :: cs) = a :: replacePair a b c cs := by
  cases cs with
  | nil => rfl
  | cons d rest => rw [replacePair, if_neg fun hd => h (congrArg some hd.2)]

/-- Replacing `~1` puts no zero in front: what comes first is the first character of the text, or a
slash. So no `~` before it becomes a `~0` by the first pass. -/
theorem head?_replacePair_slash {cs : List Char} (h : cs.head? ≠ some '0') :
    (replacePair '~' '1' '/' cs).head? ≠ some '0' := by
  cases cs with
  | nil => exact h
  | cons c rest =>
      cases rest with
      | nil => exact h
      | cons d rest =>
          rw [replacePair]
          split
          · simp
          · exact h

/-- Undoing both escapes in one pass gives the same as replacing `~1` everywhere and then `~0`. This
holds of every text, also of one with a `~` that starts no escape. -/
theorem unescape_eq_unescapeInTurn (cs : List Char) : unescape cs = unescapeInTurn cs := by
  induction cs using unescape.induct with
  | case1 => rfl
  | case2 rest ih =>
      have hslash : replacePair '~' '1' '/' ('~' :: '0' :: rest)
          = '~' :: '0' :: replacePair '~' '1' '/' rest := by
        rw [replacePair, if_neg (by decide), replacePair_cons (by decide)]
      rw [unescape, ih, unescapeInTurn, unescapeInTurn, hslash, replacePair_pair]
  | case3 rest ih =>
      rw [unescape, ih, unescapeInTurn, unescapeInTurn, replacePair_pair,
        replacePair_cons (by decide)]
  | case4 c rest hzero hone ih =>
      rw [unescape.eq_4 c rest hzero hone, ih, unescapeInTurn, unescapeInTurn]
      by_cases hc : c = '~'
      · -- Neither replacement finds a pair at this `~`.
        subst hc
        have hhead : ∀ d, (∀ rest', '~' = '~' → rest = d :: rest' → False) →
            rest.head? ≠ some d := by
          intro d hd heq
          obtain ⟨rest', hrest⟩ := List.head?_eq_some_iff.1 heq
          exact hd rest' rfl hrest
        rw [replacePair_alone '/' (hhead '1' hone),
          replacePair_alone '~' (head?_replacePair_slash (hhead '0' hzero))]
      · rw [replacePair_cons hc, replacePair_cons hc]

/-- Undone in one pass, the written form of a segment gives back the segment, whatever its
characters are. -/
theorem unescape_escape (s : List Char) : unescape (escape s) = s := by
  rw [unescape_eq_unescapeInTurn, unescapeInTurn_escape]

/-- The written form of a segment has no slash in it, so the segments of a pointer can be told apart
by the slashes between them. -/
theorem slash_notMem_escape (s : List Char) : '/' ∉ escape s := by
  intro h
  obtain ⟨c, -, hc⟩ := List.mem_flatMap.1 h
  rw [escapeChar] at hc
  split at hc
  · simp at hc
  · split at hc
    · simp at hc
    · -- What stands for itself is no separator.
      next hslash => exact hslash (List.mem_singleton.1 hc).symm

/-! ### Splitting -/

/-- Take a piece without a slash and others without a slash, each of which is put behind a slash. A
text made of them splits into these pieces again, in their order. -/
theorem splitSegments_append {front : List Char} {pieces : List (List Char)} (hfront : '/' ∉ front)
    (hpieces : ∀ cs ∈ pieces, '/' ∉ cs) :
    splitSegments (front ++ pieces.flatMap fun cs => '/' :: cs) = front :: pieces := by
  induction pieces generalizing front with
  | nil =>
      rw [List.flatMap_nil, List.append_nil]
      exact List.splitOn_eq_singleton hfront
  | cons piece pieces ih =>
      -- The text is cut at its first separator, and `piece` is the front of what follows.
      obtain ⟨hpiece, hrest⟩ := List.forall_mem_cons.1 hpieces
      have hnext := ih hpiece hrest
      rw [splitSegments] at hnext ⊢
      rw [List.flatMap_cons, List.cons_append,
        List.splitOn_append_cons_self_of_not_mem hfront, hnext]

/-! ### Fragments -/

/-- The characters of a fragment: behind one slash each, the percent-encoded written forms of the
segments. -/
theorem toList_fragment (p : Pointer) :
    p.fragment.toList = (p.map fun s => encode (escape s.toList)).flatMap fun cs => '/' :: cs := by
  rw [fragment, String.toList_ofList, List.flatMap_map]

/-- The characters of a pointer as text: behind one slash each, the written forms of the
segments. -/
theorem toList_write (p : Pointer) :
    p.write.toList = (p.map fun s => escape s.toList).flatMap fun cs => '/' :: cs := by
  rw [write, String.toList_ofList, List.flatMap_map]

/-- A text made of unreserved characters, slashes and octets, that is of `%` with two hexadecimal
digits. These are the texts that a URI admits as a fragment and that need no further encoding. -/
def FragmentText (cs : List Char) : Prop := Octets (· = '/') cs

/-- A fragment is made of unreserved characters, slashes and octets, whatever the segments of its
pointer are. -/
theorem fragmentText_fragment (p : Pointer) : FragmentText p.fragment.toList := by
  rw [toList_fragment]
  induction p with
  | nil => exact .nil
  | cons s p ih =>
      show Octets _ ('/' :: (encode (escape s.toList) ++ _))
      exact .plain (.inr rfl) (octets_encode _ ih)

/-- The bytes that a fragment stands for are those of the pointer as text. Slashes stand for
themselves, and what is encoded between them is decoded again. -/
theorem decodeBytes_fragment (p : Pointer) :
    decodeBytes p.fragment.toList = Text.Utf8.encode p.write.toList := by
  rw [toList_fragment, toList_write]
  induction p with
  | nil => rfl
  | cons s p ih =>
      rw [List.map_cons, List.flatMap_cons, List.cons_append, decodeBytes_cons (by decide),
        decodeBytes_encode, ih]
      simp [Text.Utf8.encode]

/-- Percent-decoding a fragment as a whole gives the text of its pointer. It never fails, because
the bytes are those of a text. -/
theorem decode?_fragment (p : Pointer) : decode? p.fragment.toList = some p.write.toList := by
  rw [decode?, decodeBytes_fragment, Text.Utf8.decode_encode]
  rfl

/-- Percent-decoding a fragment without its first slash gives the pointer without its first slash. A
reference drops this slash before it decodes, so its reader meets this form. -/
theorem decode?_encode_append_fragment (s : String) (p : Pointer) :
    decode? (encode (escape s.toList) ++ p.fragment.toList)
      = some (escape s.toList ++ p.write.toList) := by
  have hbytes : Text.Utf8.encode (escape s.toList ++ p.write.toList)
      = Text.Utf8.encode (escape s.toList) ++ Text.Utf8.encode p.write.toList :=
    List.flatMap_append
  rw [decode?, decodeBytes_encode, decodeBytes_fragment, ← hbytes, Text.Utf8.decode_encode]
  rfl

/-- None of the segments of a pointer, as they are written, has a slash in it. -/
theorem slash_notMem_segments (p : Pointer) : ∀ cs ∈ p.map fun s => escape s.toList, '/' ∉ cs := by
  intro cs hcs
  obtain ⟨s, -, rfl⟩ := List.mem_map.1 hcs
  exact slash_notMem_escape s.toList

/-- The text of a pointer, without its first slash, splits into the written forms of its
segments. -/
theorem splitSegments_escape_append_write (s : String) (p : Pointer) :
    splitSegments (escape s.toList ++ p.write.toList)
      = escape s.toList :: p.map fun s => escape s.toList := by
  rw [toList_write]
  exact splitSegments_append (slash_notMem_escape s.toList) (slash_notMem_segments p)

/-- The text of a pointer splits into the written forms of its segments, after an empty piece for
what stands before the first slash. -/
theorem splitSegments_write (p : Pointer) :
    splitSegments p.write.toList = [] :: p.map fun s => escape s.toList := by
  rw [toList_write]
  exact splitSegments_append List.not_mem_nil (slash_notMem_segments p)

/-- What stands behind the last slash of a pointer is the written form of its last segment, whatever
the segments before it are. -/
theorem lastSegment_write (p : Pointer) (s : String) :
    lastSegment (p ++ [s]).write = String.ofList (escape s.toList) := by
  rw [lastSegment, splitSegments_write, List.map_append, List.map_singleton, ← List.cons_append,
    List.getLastD_concat]

/-- A fragment that is split before it is decoded gives the encoded written forms of its segments,
after an empty piece for what stands before the first slash. Encoding leaves no slash inside a
piece. -/
theorem splitSegments_fragment (p : Pointer) :
    splitSegments p.fragment.toList = [] :: p.map fun s => encode (escape s.toList) := by
  rw [toList_fragment]
  -- No reserved character is left by the encoding, and a slash is one.
  refine splitSegments_append List.not_mem_nil fun cs hcs => ?_
  obtain ⟨s, -, rfl⟩ := List.mem_map.1 hcs
  exact notMem_encode (by decide) (by decide) (by decide) (escape s.toList)

/-! ### Reading fragments -/

/-- The pointer of a fragment for a reader that percent-decodes all of it and splits the result at
slashes. The first piece is empty and is dropped; the escapes of the others are undone in two
passes. -/
def decodeThenSplit (fragment : List Char) : Option Pointer :=
  match (decode? fragment).map splitSegments with
  | some ([] :: pieces) => some (pieces.map fun cs => String.ofList (unescapeInTurn cs))
  | _ => none

/-- The pointer of a fragment for a reader that splits it at slashes and percent-decodes the pieces
one by one. The first piece is empty and is dropped; the escapes of the others are undone in two
passes. -/
def splitThenDecode (fragment : List Char) : Option Pointer :=
  match splitSegments fragment with
  | [] :: pieces =>
    pieces.mapM fun cs => (decode? cs).map fun cs => String.ofList (unescapeInTurn cs)
  | _ => none

/-- A reader that decodes first gets back the pointer that a fragment was written from, segment by
segment. -/
theorem decodeThenSplit_fragment (p : Pointer) : decodeThenSplit p.fragment.toList = some p := by
  -- Only the escape of the pointer is left in the pieces.
  have hpieces : (p.map fun s => escape s.toList).map (fun cs => String.ofList (unescapeInTurn cs))
      = p := by
    rw [List.map_map]
    refine (List.map_congr_left fun s _ => ?_).trans p.map_id
    show String.ofList (unescapeInTurn (escape s.toList)) = s
    rw [unescapeInTurn_escape, String.ofList_toList]
  rw [decodeThenSplit, decode?_fragment, Option.map_some, splitSegments_write]
  exact congrArg some hpieces

/-- A reader that splits first gets back the pointer that a fragment was written from, segment by
segment. So the order in which a reader proceeds does not matter. -/
theorem splitThenDecode_fragment (p : Pointer) : splitThenDecode p.fragment.toList = some p := by
  rw [splitThenDecode, splitSegments_fragment]
  show (p.map fun s => encode (escape s.toList)).mapM _ = some p
  induction p with
  | nil => rfl
  | cons s p ih =>
      -- Both escapes are left in each piece, and undone from the outside.
      rw [List.map_cons, List.mapM_cons, ih, decode?_encode, Option.map_some,
        unescapeInTurn_escape, String.ofList_toList]
      rfl

end SchemaGate.Pointer
