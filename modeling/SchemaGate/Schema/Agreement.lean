import SchemaGate.Schema.Keyword

/-!
# `SchemaGate.Schema.Agreement`: deciding and explaining agree

An evaluator agrees with itself if it accepts a value exactly when it finds no violation. A keyword
preserves this from its sub-schemas (`Keyword.violations_isEmpty`), hence a level of evaluation does
(`Evaluator.agrees_step`), hence any number of levels at values of any depth
(`Evaluator.agrees_full`).
-/

set_option autoImplicit false

namespace SchemaGate

variable {σ : Type}

/-- An evaluator accepts a value exactly if it finds no violation. -/
def Evaluator.Agrees (e : Evaluator σ) : Prop :=
  ∀ s v, (e.violations s v).isEmpty = e.accepts s v

namespace Keyword

/-- Reports gathered from parts are empty exactly if each part's report is. -/
theorem isEmpty_flatMap {α β : Type} (xs : List α) (f : α → List β) :
    (xs.flatMap f).isEmpty = xs.all fun x => (f x).isEmpty := by
  induction xs with
  | nil => rfl
  | cons x rest ih =>
    rw [List.flatMap_cons, List.all_cons, ← ih]
    cases f x <;> simp

/-- A checked cause is reported exactly if the condition fails. -/
theorem isEmpty_checked (holds : Bool) (cause : Cause) : (checked holds cause).isEmpty = holds := by
  cases holds <;> rfl

/-- The violations inside a property are none exactly if its schemas accept the value. -/
theorem isEmpty_propertyViolations {e : Evaluator σ} (h : e.Agrees) (schemas : List σ)
    (name : String) (x : Json) :
    (propertyViolations e schemas name x).isEmpty = schemas.all fun s => e.accepts s x := by
  unfold propertyViolations
  rw [isEmpty_flatMap]
  simp [h _ _]

/-- The violations inside an item are none exactly if its schema accepts it. -/
theorem isEmpty_itemViolations {e : Evaluator σ} (h : e.Agrees) (s : σ) (index : Nat) (x : Json) :
    (itemViolations e s index x).isEmpty = e.accepts s x := by
  simp [itemViolations, h _ _]

/-- A dependency has no violations exactly if it is met. -/
theorem isEmpty_unmet {e : Evaluator σ} (h : e.Agrees) (members : Members) (d : Dependency σ) :
    (unmet e members d).isEmpty = meets e members d := by
  cases d with
  | names names =>
    simp only [unmet, meets, List.isEmpty_map]
    induction names with
    | nil => rfl
    | cons n rest ih => cases hn : Members.has members n <;> simp_all
  | schema s => exact h s (.object members)

/-- Each schema against the item of its place: none has violations exactly if each accepts. -/
theorem isEmpty_zipIdx_items {e : Evaluator σ} (h : e.Agrees) (pairs : List (σ × Json))
    (start : Nat) :
    ((pairs.zipIdx start).all fun ((s, x), i) => (itemViolations e s i x).isEmpty)
      = pairs.all fun (s, x) => e.accepts s x := by
  simp only [isEmpty_itemViolations h]
  induction pairs generalizing start with
  | nil => rfl
  | cons p rest ih => exact congrArg (e.accepts p.1 p.2 && ·) (ih (start + 1))

/-- One schema against all items: it has no violations exactly if it accepts each. -/
theorem isEmpty_zipIdx_item {e : Evaluator σ} (h : e.Agrees) (s : σ) (items : List Json)
    (start : Nat) :
    ((items.zipIdx start).all fun (x, i) => (itemViolations e s i x).isEmpty)
      = items.all (e.accepts s) := by
  simp only [isEmpty_itemViolations h]
  induction items generalizing start with
  | nil => rfl
  | cons x rest ih => exact congrArg (e.accepts s x && ·) (ih (start + 1))

/-- Two reports together are empty exactly if both are. -/
theorem isEmpty_append {α : Type} (xs ys : List α) :
    (xs ++ ys).isEmpty = (xs.isEmpty && ys.isEmpty) := by
  cases xs <;> rfl

/-- The properties that no schema names are none exactly if each has one. -/
theorem isEmpty_filter {α : Type} (xs : List α) (p : α → Bool) :
    (xs.filter p).isEmpty = xs.all fun x => !p x := by
  induction xs with
  | nil => rfl
  | cons x rest ih => cases hx : p x <;> simp [hx, ih]

/-- Two checks of the members of one list are one check. -/
theorem all_and_all {α : Type} (xs : List α) (p q : α → Bool) :
    (xs.all p && xs.all q) = xs.all fun x => p x && q x := by
  induction xs with
  | nil => rfl
  | cons x rest ih =>
    simp only [List.all_cons, ← ih]
    cases p x <;> cases q x <;> simp

/-- The violations inside named properties and those of being unnamed are none exactly if every
property is named, and accepted by each schema that names it. -/
theorem isEmpty_namedAndOthers {e : Evaluator σ} (h : e.Agrees) (entries : List (String × σ))
    (patterns : List (Regex × σ)) (members : Members) :
    ((members.flatMap fun (n, x) =>
          propertyViolations e (schemasFor entries patterns n) n x)
        ++ checked (members.filter fun (n, _) => (schemasFor entries patterns n).isEmpty).isEmpty
            (.additionalProperties (Members.names
              (members.filter fun (n, _) => (schemasFor entries patterns n).isEmpty)))).isEmpty
      = members.all fun (n, x) =>
          match schemasFor entries patterns n with
          | [] => false
          | ss => ss.all fun s => e.accepts s x := by
  rw [isEmpty_append, isEmpty_flatMap, isEmpty_checked, isEmpty_filter, all_and_all]
  congr 1
  funext ⟨n, x⟩
  simp only [isEmpty_propertyViolations h]
  cases schemasFor entries patterns n <;> simp

/-- A keyword accepts a value exactly if it finds no violation, provided that its sub-schemas do. -/
theorem violations_isEmpty {e : Evaluator σ} (h : e.Agrees) (keywords : List (Keyword σ))
    (v : Json) (k : Keyword σ) :
    (violations e keywords v k).isEmpty = accepts e keywords v k := by
  have hp := isEmpty_propertyViolations h
  cases k with
  | never => rfl
  | assertion a => simp [violations, accepts, a.causes_isEmpty]
  | reference _ s => exact h s v
  | allOf branches => simp [violations, accepts, isEmpty_flatMap, h _ _]
  | anyOf branches => simp [violations, accepts, isEmpty_checked]
  | oneOf branches => simp [violations, accepts, isEmpty_checked]
  | not _ body => simp [violations, accepts, isEmpty_checked]
  | conditional test yes no =>
    simp only [violations, accepts]
    split
    · cases yes <;> simp [h _ _]
    · cases no <;> simp [h _ _]
  | properties entries =>
    cases v <;> try rfl
    next members =>
      simp only [violations, accepts, isEmpty_flatMap]
      congr 1
      funext ⟨n, s⟩
      cases members.lookup n <;> simp [hp]
  | patternProperties entries =>
    cases v <;> try rfl
    next members =>
      simp only [violations, accepts, isEmpty_flatMap]
      congr 1
      funext ⟨r, s⟩
      congr 1
      funext ⟨n, x⟩
      cases isMatch r n <;> simp [hp]
  | restProperties entries patterns rest =>
    cases v <;> try rfl
    next members =>
      simp only [violations, accepts, isEmpty_flatMap]
      congr 1
      funext ⟨n, x⟩
      cases schemasFor entries patterns n <;> simp [hp]
  | noOtherProperties entries patterns =>
    cases v <;> try rfl
    next members =>
      simp only [violations, accepts]
      exact isEmpty_namedAndOthers h entries patterns members
  | noProperties => cases v with
    | object members => cases members <;> rfl
    | _ => rfl
  | openProperties => rfl
  | propertyNames body =>
    cases v <;> try rfl
    next members => simp [violations, accepts, isEmpty_flatMap, h _ _]
  | noNames =>
    cases v <;> try rfl
    simp [violations, accepts, isEmpty_checked]
  | dependencies entries =>
    cases v <;> try rfl
    next members =>
      simp only [violations, accepts, isEmpty_flatMap]
      congr 1
      funext ⟨n, d⟩
      cases Members.has members n <;> simp [isEmpty_unmet h]
  | dependentSchemas entries =>
    cases v <;> try rfl
    next members =>
      simp only [violations, accepts, isEmpty_flatMap]
      congr 1
      funext ⟨n, s⟩
      cases Members.has members n <;> simp [h _ _]
  | tuple schemas =>
    cases v <;> try rfl
    next items =>
      simp only [violations, accepts, isEmpty_flatMap]
      exact isEmpty_zipIdx_items h (schemas.zip items) 0
  | itemsFrom start body =>
    cases v <;> try rfl
    next items =>
      simp only [violations, accepts, isEmpty_flatMap]
      exact isEmpty_zipIdx_item h body (items.drop start) start
  | noItemsFrom start =>
    cases v <;> try rfl
    simp only [violations, accepts, isEmpty_checked]
  | openItems => rfl
  | contains least most body =>
    cases v <;> try rfl
    simp only [violations, accepts, isEmpty_checked]
  | unevaluatedProperties body =>
    cases v <;> try rfl
    simp only [violations, accepts, isEmpty_checked]
  | unevaluatedItems body =>
    cases v <;> try rfl
    simp only [violations, accepts, isEmpty_checked]

end Keyword

namespace Evaluator

/-- The evaluator that accepts everything agrees with itself. -/
theorem agrees_lenient : (lenient : Evaluator σ).Agrees := fun _ _ => rfl

/-- An evaluator agrees that leaves each value to one that does. -/
theorem agrees_byValue {pick : Json → Evaluator σ} (h : ∀ v, (pick v).Agrees) :
    (byValue pick).Agrees :=
  fun s v => h v s v

/-- A level of evaluation agrees if the evaluator under it does. -/
theorem agrees_step (read : σ → List (Keyword σ)) {inner : Evaluator σ} (h : inner.Agrees) :
    (step read inner).Agrees := by
  intro s v
  simp only [step, Keyword.isEmpty_flatMap]
  congr 1
  funext k
  exact Keyword.violations_isEmpty h _ v k

/-- Any number of levels agree if the evaluators that they leave something to do. -/
theorem agrees_levels (read : σ → List (Keyword σ)) {inside deeper : Evaluator σ}
    (hi : inside.Agrees) (hd : deeper.Agrees) (depth n : Nat) :
    (levels read inside deeper depth n).Agrees := by
  induction n with
  | zero => exact hd
  | succ n ih =>
    refine agrees_step read (agrees_byValue fun v => ?_)
    split
    · exact hi
    · exact ih

/-- The evaluator of values up to any depth agrees if the one under it does. -/
theorem agrees_within (read : σ → List (Keyword σ)) {deeper : Evaluator σ} (h : deeper.Agrees)
    (budget : Json → Nat) (bound : Nat) : (within read deeper budget bound).Agrees := by
  induction bound with
  | zero => exact h
  | succ bound ih => exact agrees_byValue fun v => agrees_levels read ih h v.depth (budget v)

/-- The evaluator of all values agrees if the one under it does. -/
theorem agrees_full (read : σ → List (Keyword σ)) {deeper : Evaluator σ} (h : deeper.Agrees)
    (budget : Json → Nat) : (full read deeper budget).Agrees :=
  agrees_byValue fun v => agrees_within read h budget (v.depth + 1)

end Evaluator

end SchemaGate
