import SchemaGate.Proofs.Engine.Dispatch
import SchemaGate.Proofs.Engine.Guard
import SchemaGate.Proofs.Engine.Refusal

/-!
# `SchemaGate.Proofs.Engine.Acceptance`: every way to check a value has the same verdict

A schema answers two questions about a value in two traversals: whether it accepts the value, and
which violations there are. The answers agree (`Schema.isEmpty_violations`), and with them all that
is built on either: the short answer by the name of a type or by a validator, a validation by either
of these, and a guard for a request with one part.

`Engine.validate_eq_ok_iff` and `SingleValidator.validate_eq_ok_iff` read the verdict of a
validation off the short answer, `RequestGuard.passes_iff` the one on a part of a request.
`Engine.acceptance_agrees` compares the three front ends.
-/

set_option autoImplicit false

namespace SchemaGate

/-- Two outcomes that are the same up to the text: both hand back the same value, or both refuse it
as a value of the same type with the same records. -/
inductive Refusal.Alike : Except Refusal Json → Except Refusal Json → Prop
  | accepted (v : Json) : Alike (.ok v) (.ok v)
  | refused (typeName : String) (errors : List ErrorRecord) (text text' : String) :
    Alike (.error (.invalid typeName errors text)) (.error (.invalid typeName errors text'))

/-- A value that is handed back or refused is handed back exactly if it is accepted. -/
theorem Refusal.ite_eq_ok_iff {accepted : Bool} {v w : Json} {refusal : Refusal} :
    (if accepted then .ok v else .error refusal : Except Refusal Json) = .ok w
      ↔ w = v ∧ accepted = true := by
  cases accepted with
  | true => exact ⟨fun h => ⟨(Except.ok.inj h).symm, rfl⟩, fun h => congrArg Except.ok h.1.symm⟩
  | false =>
      constructor
      · intro h
        cases h
      · rintro ⟨-, h⟩
        cases h

/-! ### By the name of a type -/

/-- Validation by the name of a type hands a value back exactly if the value is valid, and it hands
it back unchanged. -/
theorem Engine.validate_eq_ok_iff {e : Engine} {name : String} {v w : Json} :
    e.validate name v = .ok w ↔ w = v ∧ e.isValid name v = true := by
  cases hp : e.typePredicate name with
  | error refusal =>
      rw [validate, isValid, hp]
      constructor
      · intro h
        cases h
      · rintro ⟨-, h⟩
        cases h
  | ok p =>
      rw [validate_of_typePredicate hp, isValid, hp]
      exact Refusal.ite_eq_ok_iff

/-- If the name of a type has a predicate, then the short answer by the name is the one that this
predicate gives. -/
theorem Engine.isValid_of_typePredicate {e : Engine} {name : String} {p : Predicate}
    (h : e.typePredicate name = .ok p) (v : Json) : e.isValid name v = p.isValid v := by
  rw [isValid, h]

/-! ### By a validator -/

namespace SingleValidator

/-- A validator hands a value back exactly if the value is valid, and it hands it back unchanged. -/
theorem validate_eq_ok_iff {s : SingleValidator} {v w : Json} :
    s.validate v = .ok w ↔ w = v ∧ s.isValid v = true := by
  rw [validate_eq, isValid]
  exact Refusal.ite_eq_ok_iff

/-- In an engine of several types a validator is found for a name exactly if the name has a
predicate. The validator then carries the name and this predicate. -/
theorem resolve_eq_ok_iff {e : Engine} (h : e.shape = .multi) {name : String}
    {s : SingleValidator} :
    resolve e name = .ok s ↔ s.typeName = name ∧ e.typePredicate name = .ok s.predicate := by
  obtain ⟨typeName, p⟩ := s
  rw [Engine.resolve_of_multi h]
  cases e.typePredicate name <;> simp [Except.map, eq_comm]

/-- In an engine of several types no validator is found for a name exactly if the name has no
predicate, and both lookups give the same reason. -/
theorem resolve_eq_error_iff {e : Engine} (h : e.shape = .multi) {name : String}
    {refusal : Refusal} :
    resolve e name = .error refusal ↔ e.typePredicate name = .error refusal := by
  rw [Engine.resolve_of_multi h]
  cases e.typePredicate name <;> simp [Except.map]

/-- A validator and the name of its type accept the same values, and they refuse the others with the
same records. -/
theorem alike_validate {e : Engine} {s : SingleValidator}
    (h : e.typePredicate s.typeName = .ok s.predicate) (v : Json) :
    Refusal.Alike (s.validate v) (e.validate s.typeName v) := by
  rw [validate_eq, Engine.validate_of_typePredicate h]
  cases s.predicate.isValid v with
  | true => exact .accepted v
  | false => exact .refused s.typeName _ _ _

end SingleValidator

/-! ### By a guard -/

/-- A part of a request passes a guard exactly if its predicate accepts it, provided that there is
such a part and that there is a predicate for it. -/
theorem RequestGuard.passes_iff {g : RequestGuard} {r : RequestData} {field : RequestField} :
    g.Passes r field ↔
      ∀ p v, g.validator field = some p → r.get? field = some v → p.isValid v = true := by
  have hcheck : ∀ (p : Predicate) (v : Json), p.check v = [] ↔ p.isValid v = true := by
    intro p v
    rw [← p.isEmpty_check v, List.isEmpty_iff]
  unfold Passes
  cases g.validator field with
  | none => simp
  | some p => cases r.get? field <;> simp [hcheck]

/-! ### All ways at once -/

/-- The ways to check a value with an engine, whatever its predicates report:

- a value is valid by the name of a type exactly if its validation hands something back, which is
  the value itself;
- among several types a validator is found exactly if the name is, and otherwise both are refused
  for the same key; it gives the same short answers, accepts the same values and refuses the others
  with the same records;
- a value is valid by a validator exactly if its validation hands something back, which is the value
  itself;
- a request with one part passes a guard exactly if nothing is registered for this part, or the
  predicate that is accepts it. -/
theorem Engine.acceptance_agrees (e : Engine) :
    (∀ name v, (e.isValid name v = true ↔ ∃ w, e.validate name v = .ok w) ∧
      ∀ w, e.validate name v = .ok w → w = v) ∧
    (e.shape = .multi → ∀ name,
      ((∃ s, SingleValidator.resolve e name = .ok s) ↔ ∃ p, e.typePredicate name = .ok p) ∧
      (∀ refusal, SingleValidator.resolve e name = .error refusal ↔
        e.typePredicate name = .error refusal) ∧
      (∀ refusal, e.typePredicate name = .error refusal →
        refusal = .noValidator (registryKey name none)) ∧
      ∀ s, SingleValidator.resolve e name = .ok s → ∀ v,
        s.isValid v = e.isValid name v ∧
        Refusal.Alike (s.validate v) (e.validate name v)) ∧
    (∀ name s, SingleValidator.resolve e name = .ok s → ∀ v,
      (s.isValid v = true ↔ ∃ w, s.validate v = .ok w) ∧
      ∀ w, s.validate v = .ok w → w = v) ∧
    ∀ t field v r, r.get? field = some v → (∀ other, other ≠ field → r.get? other = none) →
      ((∃ passed, (RequestGuard.forType e t).guard r = .ok passed) ↔
        e.predicate? (registryKey t (some field)) = none ∨
          ∃ p, e.predicate? (registryKey t (some field)) = some p ∧ p.isValid v = true) := by
  refine ⟨fun name v => ⟨?_, fun w h => (validate_eq_ok_iff.1 h).1⟩,
    fun hmulti name => ⟨?_, fun refusal => SingleValidator.resolve_eq_error_iff hmulti,
      fun refusal h => eq_noValidator_of_typePredicate h, fun s hs v => ?_⟩,
    fun name s _ v => ⟨?_, fun w h => (SingleValidator.validate_eq_ok_iff.1 h).1⟩,
    fun t field v r hv hothers => ?_⟩
  · simp [validate_eq_ok_iff]
  · rw [resolve_of_multi hmulti]
    cases e.typePredicate name <;> simp [Except.map]
  · obtain ⟨rfl, hp⟩ := (SingleValidator.resolve_eq_ok_iff hmulti).1 hs
    exact ⟨(isValid_of_typePredicate hp v).symm, SingleValidator.alike_validate hp v⟩
  · simp [SingleValidator.validate_eq_ok_iff]
  · -- The other parts are absent, so only this one can fail.
    have hguard : (∃ passed, (RequestGuard.forType e t).guard r = .ok passed) ↔
        (RequestGuard.forType e t).Passes r field := by
      constructor
      · rintro ⟨passed, hpassed⟩
        exact (RequestGuard.guard_eq_ok_iff.1 hpassed).2 field
      · intro hfield
        refine ⟨r, RequestGuard.guard_eq_ok_iff.2 ⟨rfl, fun other => ?_⟩⟩
        by_cases hother : other = field
        · exact hother ▸ hfield
        · exact .inl (hothers other hother)
    rw [hguard, RequestGuard.passes_iff]
    show (∀ p w, e.predicate? (registryKey t (some field)) = some p → _) ↔ _
    rw [hv]
    cases e.predicate? (registryKey t (some field)) <;> simp

/-- The type `A` and its body: an object with a wrong body is refused by the name of the type and by
a validator, with the same records, and a request with this body alone passes if and only if the
predicate of the body accepts it. -/
theorem Engine.acceptance_agrees_bodyDocument : ∃ e s p, build bodyDocument .default = .ok e ∧
    e.shape = .multi ∧ SingleValidator.resolve e "A" = .ok s ∧
    s.isValid (.object [("body", .bool true)]) = false ∧
    Refusal.Alike (s.validate (.object [("body", .bool true)]))
      (e.validate "A" (.object [("body", .bool true)])) ∧
    ¬ (∃ w, s.validate (.object [("body", .bool true)]) = .ok w) ∧
    e.predicate? (registryKey "A" (some .body)) = some p ∧
    ((∃ passed, (RequestGuard.forType e "A").guard { body := some (.bool true) } = .ok passed) ↔
      p.isValid (.bool true) = true) := by
  have hbuild : (build bodyDocument .default).toOption.any (fun e =>
      (SingleValidator.resolve e "A").toOption.any (fun s =>
          !s.isValid (.object [("body", .bool true)]))
        && (e.predicate? (registryKey "A" (some .body))).isSome) = true := by
    decide +kernel
  obtain ⟨e, he, hfinds⟩ := exists_ok_of_any hbuild
  obtain ⟨hresolves, hregistered⟩ := Bool.and_eq_true_iff.1 hfinds
  obtain ⟨s, hs, hinvalid⟩ := exists_ok_of_any hresolves
  obtain ⟨p, hp⟩ := Option.isSome_iff_exists.1 hregistered
  have hmulti : e.shape = .multi := (registers_of_build he).shape.trans (by decide)
  have hvalid : s.isValid (.object [("body", .bool true)]) = false := by simpa using hinvalid
  obtain ⟨-, hresolved, hsingle, hguard⟩ := e.acceptance_agrees
  refine ⟨e, s, p, he, hmulti, hs, hvalid, ((hresolved hmulti "A").2.2.2 s hs _).2, ?_, hp, ?_⟩
  · rw [← (hsingle "A" s hs _).1, hvalid]
    decide
  · have hothers : ∀ other : RequestField, other ≠ .body →
        ({ body := some (.bool true) } : RequestData).get? other = none := by
      intro other hother
      cases other with
      | body => exact absurd rfl hother
      | _ => rfl
    rw [hguard "A" .body (.bool true) _ rfl hothers, hp]
    simp

end SchemaGate
