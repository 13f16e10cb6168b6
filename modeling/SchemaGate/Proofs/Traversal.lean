import Mathlib.Data.List.Forall2

/-!
# `SchemaGate.Proofs.Traversal`: steps that can fail

A loop of steps that can fail succeeds if every step does. `mapM_eq_ok_iff` says so of loops that
collect results, and all that comes out of them follows from it; `exists_foldlM` says so of loops
that pass a state on.
-/

set_option autoImplicit false

namespace SchemaGate

variable {ε α β : Type}

/-- Two steps in a row succeed with `b` exactly if the first one succeeds and the second one, given
its result, succeeds with `b`. Proofs about code that can fail take it apart with this lemma, one
step at a time. -/
theorem bind_eq_ok_iff {x : Except ε α} {f : α → Except ε β} {b : β} :
    x >>= f = .ok b ↔ ∃ a, x = .ok a ∧ f a = .ok b := by
  cases x with
  | error fault => simp [bind, Except.bind]
  | ok a => simp [bind, Except.bind]

/-- A computation that can fail succeeded if its result, seen as an option, meets a check. For a
closed term the hypothesis can be computed; the result and the check come out as facts. -/
theorem exists_ok_of_any {x : Except ε α} {p : α → Bool} (h : x.toOption.any p = true) :
    ∃ a, x = .ok a ∧ p a = true := by
  cases x with
  | error fault => cases h
  | ok a => exact ⟨a, rfl, h⟩

/-- A computation that can fail succeeded if it has a result when seen as an option. For a closed
term this can be computed. -/
theorem exists_ok_of_isSome {x : Except ε α} (h : x.toOption.isSome = true) : ∃ a, x = .ok a := by
  cases x with
  | error fault => cases h
  | ok a => exact ⟨a, rfl⟩

/-- A traversal succeeds exactly if every step does, and its results stand in the order of the
items. `List.Forall₂` says both at once: item by item, the step gave the result at the same
position. -/
theorem mapM_eq_ok_iff {f : α → Except ε β} {xs : List α} {ys : List β} :
    xs.mapM f = .ok ys ↔ List.Forall₂ (fun x y => f x = .ok y) xs ys := by
  induction xs generalizing ys with
  | nil =>
      rw [List.mapM_nil, List.forall₂_nil_left_iff]
      exact ⟨fun h => by cases h; rfl, fun h => by rw [h]; rfl⟩
  | cons x xs ih =>
      rw [List.mapM_cons, List.forall₂_cons_left_iff]
      constructor
      · intro h
        obtain ⟨y, hy, h⟩ := bind_eq_ok_iff.1 h
        obtain ⟨ys, hys, h⟩ := bind_eq_ok_iff.1 h
        cases h
        exact ⟨y, ys, hy, ih.1 hys, rfl⟩
      · rintro ⟨y, ys, hy, hys, rfl⟩
        rw [hy, ih.2 hys]
        rfl

/-- Everything that comes out of a traversal is the result of its step at one of the items. -/
theorem exists_of_mem_mapM {f : α → Except ε β} {xs : List α} {ys : List β}
    (h : xs.mapM f = .ok ys) {y : β} (hy : y ∈ ys) : ∃ x ∈ xs, f x = .ok y := by
  induction mapM_eq_ok_iff.1 h with
  | nil => cases hy
  | @cons x y' xs ys hx hxs ih =>
      rcases List.mem_cons.1 hy with rfl | hy
      · exact ⟨x, List.mem_cons_self, hx⟩
      · obtain ⟨x', hx', heq⟩ := ih (mapM_eq_ok_iff.2 hxs) hy
        exact ⟨x', List.mem_cons_of_mem _ hx', heq⟩

/-- A traversal that succeeds has a result for every item: the step succeeds there, and what it
gives is among the results. -/
theorem exists_of_mapM {f : α → Except ε β} {xs : List α} {ys : List β} (h : xs.mapM f = .ok ys)
    {x : α} (hx : x ∈ xs) : ∃ y ∈ ys, f x = .ok y := by
  induction mapM_eq_ok_iff.1 h with
  | nil => cases hx
  | @cons x' y xs ys hy hys ih =>
      rcases List.mem_cons.1 hx with rfl | hx
      · exact ⟨y, List.mem_cons_self, hy⟩
      · obtain ⟨y', hy', heq⟩ := ih (mapM_eq_ok_iff.2 hys) hx
        exact ⟨y', List.mem_cons_of_mem _ hy', heq⟩

/-- A traversal succeeds if the step succeeds at every item, and gives what the step gives there.
The function `g` names the result of the step at an item. -/
theorem mapM_eq_ok_map {f : α → Except ε β} {g : α → β} {xs : List α}
    (h : ∀ x ∈ xs, f x = .ok (g x)) : xs.mapM f = .ok (xs.map g) :=
  mapM_eq_ok_iff.2 <| List.forall₂_map_right_iff.2 <| List.forall₂_same.2 h

/-- A loop that passes a state on succeeds if its step succeeds at every item, whatever state it is
given there. Nothing is said about the state that comes out. -/
theorem exists_foldlM {f : β → α → Except ε β} {xs : List α}
    (h : ∀ x ∈ xs, ∀ b, ∃ b', f b x = .ok b') (b : β) : ∃ b', xs.foldlM f b = .ok b' := by
  induction xs generalizing b with
  | nil => exact ⟨b, rfl⟩
  | cons x xs ih =>
      obtain ⟨b', hb'⟩ := h x List.mem_cons_self b
      rw [List.foldlM_cons, hb']
      exact ih (fun x hx => h x (List.mem_cons_of_mem _ hx)) b'

end SchemaGate
