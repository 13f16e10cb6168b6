import Mathlib.Tactic.ByContra
import SchemaGate.Proofs.Schema.Locality

/-!
# `SchemaGate.Proofs.Schema.Ending`: evaluations that come to an end

Schemas may refer to themselves, so a question to a schema need not have an answer. `Question.Ends`
says that it has one, without a word about levels: the answer follows, one level down, from the
answers to questions whose evaluation ends. A branch that settles the answer by itself is enough for
this, whatever the other branches do.

The evaluator of the model counts levels. `Evaluator.levels_sameAt` shows that it finds the answer
to every question that ends, as soon as there are as many levels at a value as there are questions
about it. The argument goes from the inside of a value to the outside. At one value the set of
questions that are answered after a number of levels only grows with that number, so it stands still
for one level at least once (`exists_stable`); from there on it has to contain every question that
ends, because the answers to the questions that this one depends on are found already.
-/

set_option autoImplicit false

namespace SchemaGate

/-- What an evaluator can be asked about a value by a schema. Its four functions are put into one
type, so that statements about all answers need not be repeated for each function. -/
inductive Question (σ : Type)
  /-- Whether a schema accepts a value. -/
  | accepts (s : σ) (v : Json)
  /-- Which violations of a schema there are. -/
  | violations (s : σ) (v : Json)
  /-- Whether a schema evaluates a property. -/
  | property (s : σ) (v : Json) (name : String) (x : Json)
  /-- Whether a schema evaluates an item. -/
  | item (s : σ) (v : Json) (index : Nat) (x : Json)

variable {σ : Type}

/-- Two evaluators give the same answer to a question. -/
def Evaluator.SameAt (e e' : Evaluator σ) : Question σ → Prop
  | .accepts s v => e.accepts s v = e'.accepts s v
  | .violations s v => e.violations s v = e'.violations s v
  | .property s v name x => e.coversProperty s v name x = e'.coversProperty s v name x
  | .item s v index x => e.coversItem s v index x = e'.coversItem s v index x

namespace Question

/-- The evaluation of a question ends with the answer that a table holds: every evaluator that gives
the answers of the table to certain questions whose evaluation ends gives the answer of the table,
one level up, to this question. Since the definition is inductive, no chain of such questions is
endless. -/
inductive EndsWith (read : σ → List (Keyword σ)) (answers : Evaluator σ) : Question σ → Prop
  | intro {q : Question σ} (needed : Question σ → Prop)
      (ended : ∀ q', needed q' → EndsWith read answers q')
      (settled : ∀ e : Evaluator σ, (∀ q', needed q' → e.SameAt answers q') →
        (Evaluator.step read e).SameAt answers q) : EndsWith read answers q

/-- The evaluation of a question ends, with some table of answers. References that lead back to the
same question about the same value are what keeps an evaluation from ending. -/
def Ends (read : σ → List (Keyword σ)) (q : Question σ) : Prop := ∃ answers, EndsWith read answers q

/-- The value that a question is about. -/
def value : Question σ → Json
  | .accepts _ v | .violations _ v | .property _ v _ _ | .item _ v _ _ => v

/-- All questions to one schema about a value: whether it is accepted, what its violations are, and
of each member and item whether it is evaluated. -/
def ofSite (v : Json) (s : σ) : List (Question σ) :=
  .accepts s v :: .violations s v
    :: (v.memberList.map (fun x => .property s v x.1 x.2)
      ++ v.itemList.zipIdx.map fun x => .item s v x.2 x.1)

/-- All questions to some schemas about a value. -/
def about (ss : List σ) (v : Json) : List (Question σ) := ss.flatMap (ofSite v)

end Question

/-! ### How many questions there are -/

namespace Json

/-- There is at least one value inside a value, the value itself. -/
theorem one_le_size (v : Json) : 1 ≤ v.size := by
  cases v <;> simp only [size] <;> omega

/-- There are no more members than values inside them, since each member has one. -/
theorem length_le_sizeMembers (members : Members) : members.length ≤ sizeMembers members := by
  induction members with
  | nil => exact Nat.le_refl _
  | cons x rest ih =>
      obtain ⟨name, v⟩ := x
      have hsize := v.one_le_size
      rw [List.length_cons, sizeMembers]
      omega

/-- There are no more items than values inside them, since each item is one. -/
theorem length_le_sizeItems (items : List Json) : items.length ≤ sizeItems items := by
  induction items with
  | nil => exact Nat.le_refl _
  | cons v rest ih =>
      have hsize := v.one_le_size
      rw [List.length_cons, sizeItems]
      omega

/-- A value has no more members and items together than there are values inside it. -/
theorem length_memberList_add_itemList (v : Json) :
    v.memberList.length + v.itemList.length ≤ v.size := by
  cases v with
  | object members =>
      have hlength := length_le_sizeMembers members
      simp only [memberList, members?, itemList, size, Option.getD_some, List.length_nil]
      omega
  | array items =>
      have hlength := length_le_sizeItems items
      simp only [memberList, members?, itemList, size, Option.getD_none, List.length_nil]
      omega
  | _ => exact Nat.zero_le _

end Json

namespace Question

/-- The number of questions to one schema about a value is at most the size of the value and two. -/
theorem length_ofSite (v : Json) (s : σ) : (ofSite v s).length ≤ v.size + 2 := by
  have hparts := v.length_memberList_add_itemList
  simp only [ofSite, List.length_cons, List.length_append, List.length_map, List.length_zipIdx]
  omega

/-- The number of questions to some schemas about a value is at most the number of the schemas times
the size of the value and two. This is what the budget of levels has to exceed. -/
theorem length_about (ss : List σ) (v : Json) : (about ss v).length ≤ ss.length * (v.size + 2) := by
  induction ss with
  | nil => simp [about]
  | cons s rest ih =>
      have hsite := length_ofSite v s
      have happend : (about (s :: rest) v).length = (ofSite v s).length + (about rest v).length := by
        simp [about]
      rw [happend, List.length_cons, Nat.add_mul, Nat.one_mul]
      omega

/-- The questions to a schema about a value, one by one. -/
theorem mem_ofSite {v : Json} {s : σ} {q : Question σ} : q ∈ ofSite v s ↔
    q = .accepts s v ∨ q = .violations s v ∨ (∃ x ∈ v.memberList, q = .property s v x.1 x.2) ∨
      ∃ x ∈ v.itemList.zipIdx, q = .item s v x.2 x.1 := by
  simp only [ofSite, List.mem_cons, List.mem_append, List.mem_map, eq_comm]

/-- The questions that are listed for a value are about this value. -/
theorem value_of_mem_about {ss : List σ} {v : Json} {q : Question σ} (h : q ∈ about ss v) :
    q.value = v := by
  obtain ⟨s, -, hq⟩ := List.mem_flatMap.1 h
  rcases mem_ofSite.1 hq with rfl | rfl | ⟨x, -, rfl⟩ | ⟨x, -, rfl⟩ <;> rfl

end Question

/-! ### What a level depends on -/

namespace Evaluator

/-- The questions that a level of evaluation at a value may leave to another evaluator, if the
schemas are from a set: all those about this value, and those about its parts whether they are
accepted or what violates them. -/
def MayAsk (ss : List σ) (v : Json) (q : Question σ) : Prop :=
  q ∈ Question.about ss v ∨ ∃ s ∈ ss, ∃ w ∈ v.parts, q = .accepts s w ∨ q = .violations s w

/-- A set of schemas is closed if it contains every schema that a keyword of one of them asks. -/
def Closed (read : σ → List (Keyword σ)) (ss : List σ) : Prop :=
  ∀ s ∈ ss, ∀ s' ∈ (read s).flatMap Keyword.sites, s' ∈ ss

variable {read : σ → List (Keyword σ)} {ss : List σ} {v : Json} {e e' : Evaluator σ}

/-- Evaluators that give the same answers to all questions that may be asked agree on everything
that keywords look at. -/
theorem agreesOn_of_mayAsk (h : ∀ q, MayAsk ss v q → e.SameAt e' q) : e.AgreesOn ss v e' := by
  have habout : ∀ s ∈ ss, ∀ q ∈ Question.ofSite v s, e.SameAt e' q := fun s hs q hq =>
    h q (.inl (List.mem_flatMap.2 ⟨s, hs, hq⟩))
  constructor
  case accepts =>
    intro s hs w hw
    rcases List.mem_cons.1 hw with rfl | hw
    · exact habout s hs (.accepts s w) (Question.mem_ofSite.2 (.inl rfl))
    · exact h (.accepts s w) (.inr ⟨s, hs, w, hw, .inl rfl⟩)
  case violations =>
    intro s hs w hw
    rcases List.mem_cons.1 hw with rfl | hw
    · exact habout s hs (.violations s w) (Question.mem_ofSite.2 (.inr (.inl rfl)))
    · exact h (.violations s w) (.inr ⟨s, hs, w, hw, .inr rfl⟩)
  case coversProperty =>
    intro s hs x hx
    exact habout s hs (.property s v x.1 x.2)
      (Question.mem_ofSite.2 (.inr (.inr (.inl ⟨x, hx, rfl⟩))))
  case coversItem =>
    intro s hs x hx
    exact habout s hs (.item s v x.2 x.1) (Question.mem_ofSite.2 (.inr (.inr (.inr ⟨x, hx, rfl⟩))))

/-- One level of evaluation gives the same answer over two evaluators that agree on the schemas
asked by the keywords. -/
theorem step_sameAt_of_agreesOn {s : σ} (h : e.AgreesOn ((read s).flatMap Keyword.sites) v e')
    {q : Question σ} (hq : q ∈ Question.ofSite v s) : (step read e).SameAt (step read e') q := by
  rcases Question.mem_ofSite.1 hq with rfl | rfl | ⟨x, hx, rfl⟩ | ⟨x, hx, rfl⟩
  · exact accepts_step_congr h
  · exact violations_step_congr h
  · exact coversProperty_step_congr h hx
  · exact coversItem_step_congr h hx

/-- One level of evaluation gives the same answer over two evaluators that agree on all questions it
may ask. The set of schemas is closed, so no other questions come up. -/
theorem step_sameAt (hclosed : Closed read ss) (h : ∀ q, MayAsk ss v q → e.SameAt e' q)
    {q : Question σ} (hq : q ∈ Question.about ss v) : (step read e).SameAt (step read e') q := by
  obtain ⟨s, hs, hq⟩ := List.mem_flatMap.1 hq
  exact step_sameAt_of_agreesOn ((agreesOn_of_mayAsk h).mono (hclosed s hs)) hq

/-- One level of evaluation depends on how the schemas that are asked read, and on nothing else in
the registry. So two registries in which they read alike give the same answers. -/
theorem step_sameAt_of_read {read' : σ → List (Keyword σ)} (hread : ∀ s ∈ ss, read' s = read s)
    {q : Question σ} (hq : q ∈ Question.about ss v) :
    (step read' e).SameAt (step read e) q := by
  obtain ⟨s, hs, hq⟩ := List.mem_flatMap.1 hq
  rcases Question.mem_ofSite.1 hq with rfl | rfl | ⟨x, hx, rfl⟩ | ⟨x, hx, rfl⟩ <;>
    simp only [SameAt, step, hread s hs]

/-- If the evaluator is picked by the value, a question is left to the evaluator that is picked for
the value it is about. -/
theorem byValue_sameAt (pick : Json → Evaluator σ) (q : Question σ) :
    (byValue pick).SameAt (pick q.value) q := by
  cases q <;> rfl

open Classical in
/-- The evaluator that answers some of the questions as one evaluator does and all the others as
another one. It serves to change the answers to questions that do not matter. -/
noncomputable def onlyFor (asked : Question σ → Prop) (e others : Evaluator σ) : Evaluator σ where
  accepts s v := if asked (.accepts s v) then e.accepts s v else others.accepts s v
  violations s v := if asked (.violations s v) then e.violations s v else others.violations s v
  coversProperty s v name x :=
    if asked (.property s v name x) then e.coversProperty s v name x
    else others.coversProperty s v name x
  coversItem s v index x :=
    if asked (.item s v index x) then e.coversItem s v index x else others.coversItem s v index x

/-- The chosen questions are answered as the first evaluator does. -/
theorem sameAt_onlyFor {asked : Question σ → Prop} (e others : Evaluator σ) {q : Question σ}
    (h : asked q) : e.SameAt (onlyFor asked e others) q := by
  cases q <;> exact (if_pos h).symm

/-- All questions but the chosen ones are answered as the second evaluator does. -/
theorem onlyFor_sameAt {asked : Question σ → Prop} (e others : Evaluator σ) {q : Question σ}
    (h : ¬ asked q) : (onlyFor asked e others).SameAt others q := by
  cases q <;> exact if_neg h

/-- If two evaluators give the same answer to a question, and the second one gives the same as a
third one, then so do the first and the third. -/
theorem SameAt.trans {e₁ e₂ e₃ : Evaluator σ} {q : Question σ} (h : e₁.SameAt e₂ q)
    (h' : e₂.SameAt e₃ q) : e₁.SameAt e₃ q := by
  cases q <;> exact Eq.trans h h'

/-- That two evaluators give the same answer to a question can be read the other way round. -/
theorem SameAt.symm {q : Question σ} (h : e.SameAt e' q) : e'.SameAt e q := by
  cases q <;> exact Eq.symm h

end Evaluator

/-! ### A growing set that stands still -/

/-- Fewer members of a list have one property than another that it implies, if at least one member
has the other property only. -/
theorem countP_lt {α : Type} {xs : List α} {p q : α → Bool}
    (himp : ∀ x ∈ xs, p x = true → q x = true)
    {x : α} (hx : x ∈ xs) (hp : ¬ p x = true) (hq : q x = true) : xs.countP p < xs.countP q := by
  obtain ⟨before, after, rfl⟩ := List.append_of_mem hx
  have hbefore := List.countP_mono_left (l := before) fun y hy => himp y (by simp [hy])
  have hafter := List.countP_mono_left (l := after) fun y hy => himp y (by simp [hy])
  rw [List.countP_append, List.countP_append, List.countP_cons_of_neg hp,
    List.countP_cons_of_pos hq]
  omega

open Classical in
/-- Take a property of the members of a list that is never lost from one stage to the next. At one
of the first stages, as many as there are members, no member gains it: otherwise more members would
have it than there are. -/
theorem exists_stable {α : Type} (xs : List α) (P : Nat → α → Prop)
    (grows : ∀ n x, P n x → P (n + 1) x) :
    ∃ n, n ≤ xs.length ∧ ∀ x ∈ xs, P (n + 1) x → P n x := by
  by_contra hnot
  -- Otherwise every stage adds a member, so there are too many of them in the end.
  have hcount : ∀ n, n ≤ xs.length + 1 → n ≤ xs.countP fun x => decide (P n x) := by
    intro n
    induction n with
    | zero => exact fun _ => Nat.zero_le _
    | succ n ih =>
        intro hn
        have hadds : ∃ x ∈ xs, P (n + 1) x ∧ ¬ P n x := by
          by_contra hnone
          refine hnot ⟨n, by omega, fun x hx hnext => ?_⟩
          by_contra hlast
          exact hnone ⟨x, hx, hnext, hlast⟩
        obtain ⟨x, hx, hnext, hlast⟩ := hadds
        have hlt := countP_lt (p := fun x => decide (P n x)) (q := fun x => decide (P (n + 1) x))
          (fun y _ hy => decide_eq_true (grows n y (of_decide_eq_true hy))) hx
          (by simpa using hlast) (decide_eq_true hnext)
        have hle := ih (by omega)
        omega
  have hlast := hcount (xs.length + 1) (Nat.le_refl _)
  have hlength := List.countP_le_length (p := fun x => decide (P (xs.length + 1) x)) (l := xs)
  omega

/-! ### Levels at one value -/

namespace Evaluator

variable {read read' : σ → List (Keyword σ)} {ss : List σ} {answers inside : Evaluator σ}

/-- One level more can be put at the bottom just as well as at the top: it is one level over what
lies deeper. -/
theorem levels_succ (read : σ → List (Keyword σ)) (inside deeper : Evaluator σ) (depth n : Nat) :
    levels read inside deeper depth (n + 1)
      = levels read inside (levels read inside deeper depth 1) depth n := by
  induction n with
  | zero => rfl
  | succ n ih =>
      rw [levels, ih]
      rfl

/-- A question is answered after a number of levels, and gets the answer of the table, whatever
evaluator stands below these levels. -/
def SettledAt (read : σ → List (Keyword σ)) (answers inside : Evaluator σ) (depth n : Nat)
    (q : Question σ) : Prop :=
  ∀ deeper, (levels read inside deeper depth n).SameAt answers q

/-- A question that is answered after a number of levels is answered after any greater number, since
more levels are only another evaluator below. -/
theorem settledAt_mono {depth m n : Nat} (hmn : m ≤ n) {q : Question σ}
    (h : SettledAt read answers inside depth m q) : SettledAt read answers inside depth n q := by
  induction hmn with
  | refl => exact h
  | step _ ih =>
      intro deeper
      rw [levels_succ]
      exact ih _

/-- The questions about a value whose evaluation ends are answered after as many levels as there are
questions about the value, if those about its parts are answered inside. By `exists_stable` no
further question is answered after some of these levels; and then none is left, because the first
one left would be answered next. -/
theorem settledAt_of_endsWith (hclosed : Closed read ss) (hread : ∀ s ∈ ss, read' s = read s)
    {v : Json} (hinside : ∀ s ∈ ss, ∀ w ∈ v.parts, ∀ q : Question σ,
      (q = .accepts s w ∨ q = .violations s w) → q.EndsWith read answers → inside.SameAt answers q)
    {q : Question σ} (hq : q ∈ Question.about ss v) (hends : q.EndsWith read answers) {n : Nat}
    (hn : (Question.about ss v).length ≤ n) : SettledAt read' answers inside v.depth n q := by
  obtain ⟨m, hm, hstable⟩ := exists_stable (Question.about ss v)
    (fun n q => SettledAt read' answers inside v.depth n q)
    fun n q h => settledAt_mono (Nat.le_succ n) h
  refine settledAt_mono (Nat.le_trans hm hn) ?_
  -- By induction on the end of the evaluation: what the answer depends on is settled at stage `m`,
  -- so the answer is settled one stage later, and therefore at stage `m`.
  induction hends with
  | @intro q needed ended settled ih =>
      refine hstable q hq fun deeper => ?_
      let pick : Json → Evaluator σ := fun w =>
        if w.depth < v.depth then inside else levels read' inside deeper v.depth m
      have hself : pick v = levels read' inside deeper v.depth m := if_neg (Nat.lt_irrefl _)
      have hpart : ∀ w ∈ v.parts, pick w = inside := fun w hw =>
        if_pos (Json.depth_lt_of_mem_parts hw)
      have hpick : ∀ q', MayAsk ss v q' → needed q' → (byValue pick).SameAt answers q' := by
        rintro q' (habout | ⟨s, hs, w, hw, hq'⟩) hneeded
        · refine (byValue_sameAt pick q').trans ?_
          rw [Question.value_of_mem_about habout, hself]
          exact ih q' hneeded habout deeper
        · have hvalue : q'.value = w := by rcases hq' with rfl | rfl <;> rfl
          refine (byValue_sameAt pick q').trans ?_
          rw [hvalue, hpart w hw]
          exact hinside s hs w hw q' hq' (ended q' hneeded)
      -- The level asks only what it may ask, so all other answers can be taken from the table.
      have hmixed : ∀ q', needed q' →
          (onlyFor (MayAsk ss v) (byValue pick) answers).SameAt answers q' := by
        intro q' hneeded
        by_cases hask : MayAsk ss v q'
        · exact (sameAt_onlyFor _ _ hask).symm.trans (hpick q' hask hneeded)
        · exact onlyFor_sameAt _ _ hask
      exact ((step_sameAt_of_read hread hq).trans
        (step_sameAt hclosed (fun q' hask => sameAt_onlyFor _ _ hask) hq)).trans
          (settled _ hmixed)

/-- The evaluator of all values spends the whole budget of levels at each value, over the evaluator
of the values inside it. -/
theorem full_accepts (read : σ → List (Keyword σ)) (deeper : Evaluator σ) (budget : Json → Nat)
    (s : σ) (v : Json) : (full read deeper budget).accepts s v
      = (levels read (within read deeper budget v.depth) deeper v.depth (budget v)).accepts s v :=
  rfl

/-- The evaluator of all values spends the same budget when it is asked for violations as when it is
asked whether a value is accepted. -/
theorem full_violations (read : σ → List (Keyword σ)) (deeper : Evaluator σ) (budget : Json → Nat)
    (s : σ) (v : Json) : (full read deeper budget).violations s v
      = (levels read (within read deeper budget v.depth) deeper v.depth (budget v)).violations s v :=
  rfl

/-- The evaluator of values up to a depth answers all questions whose evaluation ends, if the budget
has a level for every question about a value. The induction is on the bound on the depth. -/
theorem within_sameAt (hclosed : Closed read ss) (hread : ∀ s ∈ ss, read' s = read s)
    {deeper : Evaluator σ} {budget : Json → Nat}
    (hbudget : ∀ v, (Question.about ss v).length ≤ budget v) (bound : Nat) {v : Json}
    (hv : v.depth < bound) {q : Question σ} (hq : q ∈ Question.about ss v)
    (hends : q.EndsWith read answers) : (within read' deeper budget bound).SameAt answers q := by
  induction bound generalizing v q with
  | zero => exact absurd hv (Nat.not_lt_zero _)
  | succ bound ih =>
      have hinside : ∀ s ∈ ss, ∀ w ∈ v.parts, ∀ q : Question σ,
          (q = .accepts s w ∨ q = .violations s w) → q.EndsWith read answers →
            (within read' deeper budget bound).SameAt answers q := by
        intro s hs w hw q hq hends
        have hdepth : w.depth < bound :=
          Nat.lt_of_lt_of_le (Json.depth_lt_of_mem_parts hw) (Nat.le_of_lt_succ hv)
        have hmem : q ∈ Question.ofSite w s :=
          Question.mem_ofSite.2 (hq.imp id fun h => .inl h)
        exact ih hdepth (List.mem_flatMap.2 ⟨s, hs, hmem⟩) hends
      refine (byValue_sameAt _ q).trans ?_
      rw [Question.value_of_mem_about hq]
      exact settledAt_of_endsWith hclosed hread hinside hq hends (hbudget v) deeper

/-- The questions to a closed set of schemas whose evaluation ends are answered by as many levels as
there are questions about the value, over the evaluator of the values inside. Further levels change
nothing. -/
theorem levels_sameAt (hclosed : Closed read ss) (hread : ∀ s ∈ ss, read' s = read s)
    {deeper : Evaluator σ} {budget : Json → Nat}
    (hbudget : ∀ v, (Question.about ss v).length ≤ budget v) {v : Json} {q : Question σ}
    (hq : q ∈ Question.about ss v) (hends : q.EndsWith read answers) {n : Nat}
    (hn : (Question.about ss v).length ≤ n) :
    (levels read' (within read' deeper budget v.depth) deeper v.depth n).SameAt answers q := by
  refine settledAt_of_endsWith hclosed hread (fun s hs w hw q hq hends => ?_) hq hends hn deeper
  have hmem : q ∈ Question.ofSite w s := Question.mem_ofSite.2 (hq.imp id fun h => .inl h)
  exact within_sameAt hclosed hread hbudget v.depth (Json.depth_lt_of_mem_parts hw)
    (List.mem_flatMap.2 ⟨s, hs, hmem⟩) hends

/-- The evaluator of all values answers all questions to a closed set of schemas whose evaluation
ends, if its budget has a level for every question. Hence the answers do not depend on the budget,
nor on the registry beyond how these schemas read. -/
theorem full_sameAt (hclosed : Closed read ss) (hread : ∀ s ∈ ss, read' s = read s)
    {deeper : Evaluator σ} {budget : Json → Nat}
    (hbudget : ∀ v, (Question.about ss v).length ≤ budget v) {v : Json} {q : Question σ}
    (hq : q ∈ Question.about ss v) (hends : q.EndsWith read answers) :
    (full read' deeper budget).SameAt answers q := by
  refine (byValue_sameAt _ q).trans ?_
  rw [Question.value_of_mem_about hq]
  exact within_sameAt hclosed hread hbudget _ (Nat.lt_succ_self _) hq hends

end Evaluator

/-! ### Schemas that do not come back to themselves -/

namespace Evaluator

variable {read : σ → List (Keyword σ)} {ss : σ → Prop} {rank : σ → Nat}

/-- In a set of schemas, every one asks only schemas of the set that have a smaller rank. -/
def Descends (read : σ → List (Keyword σ)) (ss : σ → Prop) (rank : σ → Nat) : Prop :=
  ∀ s, ss s → ∀ s' ∈ (read s).flatMap Keyword.sites, ss s' ∧ rank s' < rank s

/-- A number of levels over the evaluator that accepts everything. -/
def iterate (read : σ → List (Keyword σ)) : Nat → Evaluator σ
  | 0 => lenient
  | n + 1 => step read (iterate read n)

/-- The evaluator that gives each schema one level more than its rank. It is the table of answers
for schemas that descend. -/
def ranked (read : σ → List (Keyword σ)) (rank : σ → Nat) : Evaluator σ where
  accepts s v := (iterate read (rank s + 1)).accepts s v
  violations s v := (iterate read (rank s + 1)).violations s v
  coversProperty s v name x := (iterate read (rank s + 1)).coversProperty s v name x
  coversItem s v index x := (iterate read (rank s + 1)).coversItem s v index x

/-- The questions to a schema are answered in this table by the levels of the schema. -/
theorem ranked_sameAt (read : σ → List (Keyword σ)) (rank : σ → Nat) {s : σ} {v : Json}
    {q : Question σ} (hq : q ∈ Question.ofSite v s) :
    (iterate read (rank s + 1)).SameAt (ranked read rank) q := by
  rcases Question.mem_ofSite.1 hq with rfl | rfl | ⟨x, hx, rfl⟩ | ⟨x, hx, rfl⟩ <;> rfl

/-- Evaluators that give the same answers to all questions to some schemas agree on everything that
keywords ask these schemas. -/
theorem agreesOn_of_forall {ss : List σ} {e e' : Evaluator σ} {v : Json}
    (h : ∀ s ∈ ss, ∀ w, ∀ q ∈ Question.ofSite w s, e.SameAt e' q) : e.AgreesOn ss v e' := by
  constructor
  case accepts =>
    intro s hs w _
    exact h s hs w (.accepts s w) (Question.mem_ofSite.2 (.inl rfl))
  case violations =>
    intro s hs w _
    exact h s hs w (.violations s w) (Question.mem_ofSite.2 (.inr (.inl rfl)))
  case coversProperty =>
    intro s hs x hx
    exact h s hs v (.property s v x.1 x.2) (Question.mem_ofSite.2 (.inr (.inr (.inl ⟨x, hx, rfl⟩))))
  case coversItem =>
    intro s hs x hx
    exact h s hs v (.item s v x.2 x.1) (Question.mem_ofSite.2 (.inr (.inr (.inr ⟨x, hx, rfl⟩))))

/-- At a schema of a set that descends, more levels than its rank do not change the answers. -/
theorem iterate_sameAt (h : Descends read ss rank) (n : Nat) {s : σ} (hs : ss s)
    (hrank : rank s < n) {v : Json} {q : Question σ} (hq : q ∈ Question.ofSite v s) :
    (iterate read n).SameAt (ranked read rank) q := by
  induction n using Nat.strongRecOn generalizing s v q with
  | ind n ih =>
      cases n with
      | zero => exact absurd hrank (Nat.not_lt_zero _)
      | succ n =>
          -- Both are one level over levels that the schemas asked have enough of.
          have hbelow : ∀ m, rank s ≤ m → m ≤ n → ∀ s' ∈ (read s).flatMap Keyword.sites, ∀ w,
              ∀ q' ∈ Question.ofSite w s', (iterate read m).SameAt (ranked read rank) q' := by
            intro m hm hmn s' hs' w q' hq'
            obtain ⟨hs', hlt⟩ := h s hs s' hs'
            exact ih m (by omega) hs' (by omega) hq'
          have hagree : (iterate read n).AgreesOn ((read s).flatMap Keyword.sites) v
              (iterate read (rank s)) :=
            agreesOn_of_forall fun s' hs' w q' hq' =>
              (hbelow n (by omega) (Nat.le_refl n) s' hs' w q' hq').trans
                (hbelow (rank s) (Nat.le_refl _) (by omega) s' hs' w q' hq').symm
          exact (step_sameAt_of_agreesOn hagree hq).trans (ranked_sameAt read rank hq)

/-- Evaluation ends at schemas that ask only schemas of a smaller rank, whatever the value is. A
rank is easy to give for a schema without references that lead back. -/
theorem ends_of_descends (h : Descends read ss rank) {s : σ} (hs : ss s) {v : Json}
    {q : Question σ} (hq : q ∈ Question.ofSite v s) : q.Ends read := by
  refine ⟨ranked read rank, ?_⟩
  induction hrank : rank s using Nat.strongRecOn generalizing s v q with
  | ind n ih =>
      subst hrank
      refine .intro (fun q' => ∃ s' ∈ (read s).flatMap Keyword.sites, ∃ w, q' ∈ Question.ofSite w s')
        ?_ ?_
      · rintro q' ⟨s', hs', w, hq'⟩
        obtain ⟨hmem, hlt⟩ := h s hs s' hs'
        exact ih (rank s') hlt hmem hq' rfl
      · intro e he
        have hagree : e.AgreesOn ((read s).flatMap Keyword.sites) v (iterate read (rank s)) :=
          agreesOn_of_forall fun s' hs' w q' hq' => by
            obtain ⟨hmem, hlt⟩ := h s hs s' hs'
            exact (he q' ⟨s', hs', w, hq'⟩).trans (iterate_sameAt h (rank s) hmem hlt hq').symm
        exact (step_sameAt_of_agreesOn hagree hq).trans (ranked_sameAt read rank hq)

end Evaluator

end SchemaGate
