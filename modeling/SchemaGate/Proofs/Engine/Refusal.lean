import SchemaGate.Engine.Dispatch
import SchemaGate.Engine.Request
import SchemaGate.Proofs.Predicate
import SchemaGate.Proofs.Traversal

/-!
# `SchemaGate.Proofs.Engine.Refusal`: a refusal says why

A value is refused, and a request rejected, with the records of the predicate that does not accept
it. Records of conditionals are left out on the way, but a predicate reports none, so the refusal
has all that the predicate reports, which is something.

`Engine.validate_of_typePredicate`, `SingleValidator.validate_eq` and `RequestGuard.guard_eq_error`
say this of the three ways to refuse, and `Engine.refusal_gives_reason` puts them together.
-/

set_option autoImplicit false

namespace SchemaGate

open Report (recordText)

/-- The type, the records and the text of a refusal of a value that is not accepted. -/
def Refusal.report? (outcome : Except Refusal Json) : Option (String × List ErrorRecord × String) :=
  match outcome with
  | .error (.invalid typeName errors text) => some (typeName, errors, text)
  | _ => none

/-- A refusal with a report is one of a value that is not accepted. A missing validator has nothing
to report. -/
theorem Refusal.eq_of_report? {outcome : Except Refusal Json}
    (h : (report? outcome).isSome = true) :
    ∃ typeName errors text, outcome = .error (.invalid typeName errors text) := by
  unfold report? at h
  split at h
  · exact ⟨_, _, _, rfl⟩
  · cases h

/-- Looking up the name of a type is refused only for want of a predicate, and the refusal carries
the key under which there is none. -/
theorem Engine.eq_noValidator_of_typePredicate {e : Engine} {name : String} {refusal : Refusal}
    (h : e.typePredicate name = .error refusal) :
    refusal = .noValidator (registryKey name none) := by
  unfold typePredicate at h
  cases hfind : e.predicate? (registryKey name none) with
  | some p => simp only [hfind] at h; cases h
  | none => simp only [hfind] at h; exact (Except.error.inj h).symm

/-- Looking up a validator is refused only for want of a predicate, and the refusal carries the key
under which there is none. -/
theorem SingleValidator.eq_noValidator_of_resolve {e : Engine} {name : String} {refusal : Refusal}
    (h : resolve e name = .error refusal) : refusal = .noValidator (key e.shape name) := by
  unfold resolve at h
  cases hfind : e.predicate? (key e.shape name) with
  | some p => simp only [hfind] at h; cases h
  | none => simp only [hfind] at h; exact (Except.error.inj h).symm

/-- Suppose that the name of a type has a predicate. Then a value that the predicate does not accept
is refused by this name with the records of the predicate, and any other value is handed back. -/
theorem Engine.validate_of_typePredicate {e : Engine} {typeName : String} {p : Predicate}
    (h : e.typePredicate typeName = .ok p) (v : Json) : e.validate typeName v =
      if p.isValid v then .ok v
      else .error (.invalid typeName (p.check v) ("Invalid " ++ typeName ++ ": "
        ++ ", ".intercalate ((p.check v).map (recordText typeName)))) := by
  rw [validate, h, ← p.isEmpty_check v]
  have hkept := p.withoutConditional_check v
  dsimp only [bind, Except.bind]
  cases hrecords : p.check v with
  | nil => rfl
  | cons r rest =>
      rw [hrecords] at hkept
      simp only [hkept, Report.errorsText_eq (List.cons_ne_nil r rest)]
      rfl

/-- A value that the predicate of a validator does not accept is refused with the records of the
predicate, and the text ends with the value itself. Any other value is handed back. -/
theorem SingleValidator.validate_eq (s : SingleValidator) (v : Json) : s.validate v =
    if s.predicate.isValid v then .ok v
    else .error (.invalid s.typeName (s.predicate.check v)
      (", ".intercalate ((s.predicate.check v).map (recordText s.typeName))
        ++ "\n\n" ++ Report.inspect v)) := by
  rw [validate, ← s.predicate.isEmpty_check v]
  have hkept := s.predicate.withoutConditional_check v
  cases hrecords : s.predicate.check v with
  | nil => rfl
  | cons r rest =>
      rw [hrecords] at hkept
      simp only [hkept, Report.errorsText_eq (List.cons_ne_nil r rest)]
      rfl

namespace RequestGuard

/-- If there are records against a part of a request, then the part is present, its validator does
not accept it, and the records are those of the validator. -/
theorem exists_of_errors_ne_nil {g : RequestGuard} {r : RequestData} {field : RequestField}
    (h : g.errors r field ≠ []) : ∃ p v, g.validator field = some p ∧ r.get? field = some v ∧
      g.errors r field = p.check v ∧ p.isValid v = false := by
  unfold errors at h ⊢
  cases hp : g.validator field with
  | none => rw [hp] at h; exact absurd rfl h
  | some p =>
      cases hv : r.get? field with
      | none => rw [hp, hv] at h; exact absurd rfl h
      | some v =>
          rw [hp, hv] at h
          exact ⟨p, v, rfl, rfl, rfl, Predicate.check_ne_nil_iff.1 h⟩

/-- The rejection for a part that is not accepted has status 400, and its message lists the records
against the part and then dumps the request. -/
theorem rejection_eq {p : Predicate} {v : Json} (h : p.isValid v = false) (r : RequestData)
    (field : RequestField) : rejection r field (p.check v) = ⟨400, "Invalid request: "
      ++ ", ".intercalate ((p.check v).map (recordText field.name)) ++ "\n\n"
      ++ Report.inspect r.toJson⟩ := by
  rw [rejection, p.withoutConditional_check,
    Report.errorsText_eq (Predicate.check_ne_nil_iff.2 h)]
  rfl

/-- A rejected request has a part that is constrained and not accepted; the rejection lists the
records against the first such part. -/
theorem guard_eq_error {g : RequestGuard} {r : RequestData} {rejection : Rejection}
    (h : g.guard r = .error rejection) : ∃ field p v,
      g.firstFailing? r RequestField.all = some field ∧ g.validator field = some p ∧
      r.get? field = some v ∧ p.isValid v = false ∧
      rejection = ⟨400, "Invalid request: "
        ++ ", ".intercalate ((p.check v).map (recordText field.name)) ++ "\n\n"
        ++ Report.inspect r.toJson⟩ := by
  rw [guard_eq] at h
  cases hfirst : g.firstFailing? r RequestField.all with
  | none => rw [hfirst] at h; cases h
  | some field =>
      rw [hfirst] at h
      have hfails : g.errors r field ≠ [] := by
        simpa using List.find?_some hfirst
      obtain ⟨p, v, hp, hv, herrors, hvalid⟩ := exists_of_errors_ne_nil hfails
      refine ⟨field, p, v, rfl, hp, hv, hvalid, ?_⟩
      rw [← rejection_eq hvalid, ← herrors]
      exact (Except.error.inj h).symm

end RequestGuard

namespace Engine

/-- A refusal always gives a reason:

- no violation that a predicate finds has the keyword `if`, wherever in the schema the broken rule
  stands, so no record has it, and no record is left out for it;
- a value is refused by the name of a type, or by a validator, with the records of the predicate
  against it, of which there is one at least, and the text lists these records;
- a request is rejected for a part that its validator does not accept, and the message lists the
  records of the validator against this part, of which there is one at least. -/
theorem refusal_gives_reason :
    (∀ (p : Predicate) (v : Json),
      (∀ x ∈ p.schema.violations v, ∀ place, x.cause.keywordAt place ≠ "if") ∧
      (∀ r ∈ p.check v, r.keyword ≠ "if") ∧
      Report.withoutConditional (p.check v) = p.check v) ∧
    (∀ (e : Engine) (name : String) (v : Json) (typeName : String) (errors : List ErrorRecord)
        (text : String), e.validate name v = .error (.invalid typeName errors text) →
      ∃ p, e.typePredicate name = .ok p ∧ typeName = name ∧ errors = p.check v ∧ errors ≠ [] ∧
        text = "Invalid " ++ name ++ ": " ++ ", ".intercalate (errors.map (recordText name))) ∧
    (∀ (s : SingleValidator) (v : Json) (typeName : String) (errors : List ErrorRecord)
        (text : String), s.validate v = .error (.invalid typeName errors text) →
      typeName = s.typeName ∧ errors = s.predicate.check v ∧ errors ≠ [] ∧
        text = ", ".intercalate (errors.map (recordText s.typeName)) ++ "\n\n"
          ++ Report.inspect v) ∧
    ∀ (g : RequestGuard) (r : RequestData) (rejection : Rejection),
      g.guard r = .error rejection → ∃ field p v, g.validator field = some p ∧
        r.get? field = some v ∧ p.check v ≠ [] ∧
        rejection = ⟨400, "Invalid request: "
          ++ ", ".intercalate ((p.check v).map (recordText field.name)) ++ "\n\n"
          ++ Report.inspect r.toJson⟩ := by
  refine ⟨fun p v => ⟨fun x _ place => ?_, fun r hr => Predicate.keyword_ne_conditional hr,
    p.withoutConditional_check v⟩, fun e name v typeName errors text h => ?_,
    fun s v typeName errors text h => ?_, fun g r rejection h => ?_⟩
  · rw [Cause.keywordAt_eq]
    exact x.cause.keyword_ne_conditional
  · cases hp : e.typePredicate name with
    | error refusal =>
        rw [validate, hp, eq_noValidator_of_typePredicate hp] at h
        cases h
    | ok p =>
        rw [validate_of_typePredicate hp] at h
        split at h
        · cases h
        · next hvalid =>
          cases h
          exact ⟨p, rfl, rfl, rfl, Predicate.check_ne_nil_iff.2 (by simpa using hvalid), rfl⟩
  · rw [s.validate_eq] at h
    split at h
    · cases h
    · next hvalid =>
      cases h
      exact ⟨rfl, rfl, Predicate.check_ne_nil_iff.2 (by simpa using hvalid), rfl⟩
  · obtain ⟨field, p, v, -, hp, hv, hvalid, rfl⟩ := RequestGuard.guard_eq_error h
    exact ⟨field, p, v, hp, hv, Predicate.check_ne_nil_iff.2 hvalid, rfl⟩

/-- A type with a property called like a keyword, which no object may have, and with a body. -/
def ifDocument : Document :=
  ⟨_, Json.canonical_ofList [
    ("$schema", .string "http://json-schema.org/draft-07/schema#"),
    ("definitions", .object [("A", .object [("properties", .object
      [("body", .object [("type", .string "string")]), ("if", .bool false)])])])]⟩

/-- An object with the property called `if` is refused by the name of its type and by a validator,
and a request with a truth value as its body is rejected, each for a reason. -/
theorem refusal_gives_reason_ifDocument : ∃ e s p, build ifDocument .default = .ok e ∧
    SingleValidator.resolve e "A" = .ok s ∧ e.typePredicate "A" = .ok p ∧
    (∃ text, e.validate "A" (.object [("if", .bool true)])
      = .error (.invalid "A" (p.check (.object [("if", .bool true)])) text)) ∧
    p.check (.object [("if", .bool true)]) ≠ [] ∧
    (∃ text, s.validate (.object [("if", .bool true)]) = .error
      (.invalid s.typeName (s.predicate.check (.object [("if", .bool true)])) text)) ∧
    s.predicate.check (.object [("if", .bool true)]) ≠ [] ∧
    ∃ rejection field q v,
      (RequestGuard.forType e "A").guard { body := some (.bool true) } = .error rejection ∧
      (RequestGuard.forType e "A").validator field = some q ∧
      ({ body := some (.bool true) } : RequestData).get? field = some v ∧ q.check v ≠ [] := by
  have hbuild : (build ifDocument .default).toOption.any (fun e =>
      (Refusal.report? (e.validate "A" (.object [("if", .bool true)]))).isSome
        && (SingleValidator.resolve e "A").toOption.any (fun s =>
          (Refusal.report? (s.validate (.object [("if", .bool true)]))).isSome)
        && !((RequestGuard.forType e "A").guard { body := some (.bool true) }).isOk) = true := by
    decide +kernel
  obtain ⟨-, hnamed, hresolved, hguarded⟩ := refusal_gives_reason
  obtain ⟨e, he, hrefuses⟩ := exists_ok_of_any hbuild
  simp only [Bool.and_eq_true, Bool.not_eq_true'] at hrefuses
  obtain ⟨⟨hvalidate, hsingle⟩, hguard⟩ := hrefuses
  obtain ⟨typeName, errors, text, hvalidate⟩ := Refusal.eq_of_report? hvalidate
  obtain ⟨p, hp, rfl, rfl, hreasons, -⟩ := hnamed e _ _ _ _ _ hvalidate
  obtain ⟨s, hs, hsingle⟩ := exists_ok_of_any hsingle
  obtain ⟨typeName', errors', text', hsingle⟩ := Refusal.eq_of_report? hsingle
  obtain ⟨rfl, rfl, hreasons', -⟩ := hresolved s _ _ _ _ hsingle
  cases hrejected : (RequestGuard.forType e "A").guard { body := some (.bool true) } with
  | ok r => rw [hrejected] at hguard; cases hguard
  | error rejection =>
      obtain ⟨field, q, v, hq, hv, hreasons'', -⟩ := hguarded _ _ _ hrejected
      exact ⟨e, s, p, he, hs, hp, ⟨text, hvalidate⟩, hreasons, ⟨text', hsingle⟩, hreasons',
        rejection, field, q, v, hrejected, hq, hv, hreasons''⟩

end Engine

end SchemaGate
