import Mathlib.Data.List.Basic

/-!
# `SchemaGate.Proofs.Text.Run`: runs of characters

A run of characters of one kind ends at the first character of another kind, so it can be told from
what stands behind it: `takeWhile_run_append` takes it off the front of a text, and
`run_append_inj` finds it in two spellings of the same text.
-/

set_option autoImplicit false

namespace SchemaGate.Text

/-- A text behind a run of characters of one kind, if it does not continue this run: it is empty, or
starts with a character of another kind. -/
def EndsRun (kind : Char → Bool) (rest : List Char) : Prop :=
  ∀ c, rest.head? = some c → kind c = false

variable {kind : Char → Bool}

/-- A text that starts with a character of another kind does not continue a run. -/
theorem endsRun_cons {c : Char} (h : kind c = false) (rest : List Char) :
    EndsRun kind (c :: rest) := by
  intro d hd
  cases hd
  exact h

/-- A character of another kind is not in a run, which has characters of its own kind only. -/
theorem notMem_run {xs : List Char} (hxs : ∀ c ∈ xs, kind c = true) {c : Char}
    (hc : kind c = false) : c ∉ xs := by
  intro hmem
  rw [hxs c hmem] at hc
  cases hc

/-- Take a run and a text behind it that does not continue it. Then taking off characters of this
kind from the front gives exactly the run, and leaves exactly the text behind it. -/
theorem takeWhile_run_append {xs rest : List Char} (hxs : ∀ c ∈ xs, kind c = true)
    (hrest : EndsRun kind rest) :
    (xs ++ rest).takeWhile kind = xs ∧ (xs ++ rest).dropWhile kind = rest := by
  -- Nothing is taken from what stands behind.
  have hstop : rest.takeWhile kind = [] ∧ rest.dropWhile kind = rest := by
    cases rest with
    | nil => exact ⟨rfl, rfl⟩
    | cons c rest =>
        have hc : ¬ kind c = true := by rw [hrest c rfl]; decide
        exact ⟨List.takeWhile_cons_of_neg hc, List.dropWhile_cons_of_neg hc⟩
  rw [List.takeWhile_append_of_pos hxs, List.dropWhile_append_of_pos hxs, hstop.1, hstop.2,
    List.append_nil]
  exact ⟨rfl, rfl⟩

/-- If one text is a run with something behind it in two ways, both runs are the same, and so is
what stands behind them. Neither continuation may go on with the run. -/
theorem run_append_inj {xs ys rest rest' : List Char} (hxs : ∀ c ∈ xs, kind c = true)
    (hys : ∀ c ∈ ys, kind c = true) (hrest : EndsRun kind rest) (hrest' : EndsRun kind rest')
    (h : xs ++ rest = ys ++ rest') : xs = ys ∧ rest = rest' := by
  obtain ⟨htake, hdrop⟩ := takeWhile_run_append hxs hrest
  obtain ⟨htake', hdrop'⟩ := takeWhile_run_append hys hrest'
  rw [h] at htake hdrop
  exact ⟨htake.symm.trans htake', hdrop.symm.trans hdrop'⟩

/-- If one text has the same character behind a front without this character in two ways, both
fronts are the same, and so is what stands behind the character. -/
theorem append_cons_inj {c : Char} {xs ys : List Char} (hx : c ∉ xs) (hy : c ∉ ys)
    {rest rest' : List Char} (h : xs ++ c :: rest = ys ++ c :: rest') : xs = ys ∧ rest = rest' := by
  have hother : ∀ zs : List Char, c ∉ zs → ∀ x ∈ zs, (x != c) = true := by
    intro zs hz x hx
    exact bne_iff_ne.2 fun heq => hz (heq ▸ hx)
  have hends : ∀ zs : List Char, EndsRun (· != c) (c :: zs) := endsRun_cons (bne_self_eq_false c)
  obtain ⟨hfirst, hrest⟩ := run_append_inj (hother xs hx) (hother ys hy) (hends rest)
    (hends rest') h
  exact ⟨hfirst, (List.cons.inj hrest).2⟩

end SchemaGate.Text
