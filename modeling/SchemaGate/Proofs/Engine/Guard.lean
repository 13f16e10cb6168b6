import SchemaGate.Proofs.Engine.Refusal
import SchemaGate.Proofs.Engine.RegistryKey

/-!
# `SchemaGate.Proofs.Engine.Guard`: the parts of a request are checked one by one

A guard goes through the parts of a request in a fixed order. What it says about one part depends on
this part and on the validator for it only (`RequestGuard.Passes`), so a request is let through
exactly if each part passes by itself, and then as it is, checked or not.

A rejected request has a first part that fails (`RequestGuard.FailsFirst`). Its records make up the
text in front of the dump of the request; parts behind it are not looked at, and the ones before it
have passed. So two requests that fail first for the same value in the same part are rejected with
texts that differ in the dump only. `RequestGuard.guard_first_failing` states all of this.
-/

set_option autoImplicit false

namespace SchemaGate.RequestGuard

/-- A part of a request passes if it is absent, or if there is no validator for it, or if the
validator has no records against it. -/
def Passes (g : RequestGuard) (r : RequestData) (field : RequestField) : Prop :=
  r.get? field = none ∨ g.validator field = none ∨
    ∃ p v, g.validator field = some p ∧ r.get? field = some v ∧ p.check v = []

/-- The part of a request that is reported: it fails, and all the parts that are checked before it
pass. -/
def FailsFirst (g : RequestGuard) (r : RequestData) (field : RequestField) : Prop :=
  ¬ g.Passes r field ∧ ∃ before after, RequestField.all = before ++ field :: after ∧
    ∀ f ∈ before, g.Passes r f

variable {g : RequestGuard} {r : RequestData} {field : RequestField}

/-- Every field of a request is in the list of those that are checked, so a guard leaves out no
part. -/
theorem mem_all (field : RequestField) : field ∈ RequestField.all := by
  cases field <;> decide

/-- The list of records that a guard collects against a part is empty exactly if the part passes. -/
theorem errors_eq_nil_iff : g.errors r field = [] ↔ g.Passes r field := by
  unfold errors Passes
  cases g.validator field with
  | none => simp
  | some p => cases r.get? field <;> simp

/-- The search for a part that fails finds none exactly if all the parts of the request pass. -/
theorem firstFailing?_eq_none_iff :
    g.firstFailing? r RequestField.all = none ↔ ∀ f, g.Passes r f := by
  rw [firstFailing?, List.find?_eq_none]
  constructor
  · intro h f
    have hf := h f (mem_all f)
    rw [← errors_eq_nil_iff]
    simpa using hf
  · intro h f _
    rw [errors_eq_nil_iff.2 (h f)]
    decide

/-- The search for a part that fails finds a certain part exactly if this one fails and all those
before it pass. -/
theorem firstFailing?_eq_some_iff :
    g.firstFailing? r RequestField.all = some field ↔ g.FailsFirst r field := by
  rw [firstFailing?, List.find?_eq_some_iff_append, FailsFirst, ← errors_eq_nil_iff]
  simp [← errors_eq_nil_iff]

/-! ### Outcomes -/

/-- The text in front of the dump of a rejected request: the records of a validator against a part,
under the name of the part. -/
def rejectionFront (p : Predicate) (v : Json) (field : RequestField) : String :=
  "Invalid request: " ++ Report.errorsText (Report.withoutConditional (p.check v)) field.name
    ++ "\n\n"

/-- The dump of a request: all of its parts by their names, with `null` for an absent one. -/
def dump (r : RequestData) : String :=
  Json.pretty (.object [("body", r.body.getD .null), ("params", r.params.getD .null),
    ("query", r.query.getD .null)])

/-- A guard lets a request through exactly if all its parts pass, and what it lets through is the
request itself. -/
theorem guard_eq_ok_iff {passed : RequestData} :
    g.guard r = .ok passed ↔ passed = r ∧ ∀ field, g.Passes r field := by
  rw [guard_eq, ← firstFailing?_eq_none_iff]
  cases g.firstFailing? r RequestField.all with
  | none => simp [eq_comm]
  | some field => simp

/-- A request is rejected for the part that fails first. There is a validator for this part, and the
text of the rejection lists its records and then dumps the request. -/
theorem guard_of_failsFirst (h : g.FailsFirst r field) :
    ∃ p v, g.validator field = some p ∧ r.get? field = some v ∧
      g.guard r = .error ⟨400, rejectionFront p v field ++ dump r⟩ := by
  obtain ⟨p, v, hp, hv, herrors, -⟩ :=
    exists_of_errors_ne_nil fun hnil => h.1 (errors_eq_nil_iff.1 hnil)
  refine ⟨p, v, hp, hv, ?_⟩
  rw [guard_eq, firstFailing?_eq_some_iff.2 h]
  show Except.error (rejection r field (g.errors r field)) = _
  rw [herrors]
  rfl

/-- If a request is rejected, then one of its parts fails first, so the rejection is always about
some part. -/
theorem exists_failsFirst {rejection : Rejection} (h : g.guard r = .error rejection) :
    ∃ field, g.FailsFirst r field := by
  obtain ⟨field, -, -, hfirst, -⟩ := guard_eq_error h
  exact ⟨field, firstFailing?_eq_some_iff.1 hfirst⟩

/-- The guard of a type, for requests of all kinds:

- a request is let through exactly if every part is absent, or has no validator registered for it,
  or has a validator with no records against it;
- what is let through has the parts of the request, whether they were checked or not;
- otherwise the answer has status 400, and its text lists the records of the validator against the
  first part that fails and then dumps the request;
- requests that fail first for the same value in the same part get the same text up to the dump. -/
theorem guard_first_failing (e : Engine) (t : String) :
    (∀ r, (∃ passed, (forType e t).guard r = .ok passed) ↔ ∀ field,
      r.get? field = none ∨ e.predicate? (registryKey t (some field)) = none ∨
        ∃ p v, e.predicate? (registryKey t (some field)) = some p ∧ r.get? field = some v ∧
          p.check v = []) ∧
    (∀ r passed, (forType e t).guard r = .ok passed →
      ∀ field, passed.get? field = r.get? field) ∧
    (∀ r rejection, (forType e t).guard r = .error rejection ↔ ∃ field p v,
      (forType e t).FailsFirst r field ∧ e.predicate? (registryKey t (some field)) = some p ∧
        r.get? field = some v ∧ rejection.status = 400 ∧
        rejection.message = rejectionFront p v field ++ dump r) ∧
    ∀ r r' field, (forType e t).FailsFirst r field → (forType e t).FailsFirst r' field →
      r.get? field = r'.get? field →
      ∃ front, (forType e t).guard r = .error ⟨400, front ++ dump r⟩ ∧
        (forType e t).guard r' = .error ⟨400, front ++ dump r'⟩ := by
  refine ⟨fun r => ⟨?_, ?_⟩, fun r passed h field => ?_, fun r rejection => ⟨fun h => ?_, ?_⟩,
    fun r r' field h h' heq => ?_⟩
  · rintro ⟨passed, h⟩
    exact (guard_eq_ok_iff.1 h).2
  · intro h
    exact ⟨r, guard_eq_ok_iff.2 ⟨rfl, h⟩⟩
  · rw [(guard_eq_ok_iff.1 h).1]
  · obtain ⟨field, hfirst⟩ := exists_failsFirst h
    obtain ⟨p, v, hp, hv, hguard⟩ := guard_of_failsFirst hfirst
    rw [h] at hguard
    cases hguard
    exact ⟨field, p, v, hfirst, hp, hv, rfl, rfl⟩
  · rintro ⟨field, p, v, hfirst, hp, hv, hstatus, hmessage⟩
    obtain ⟨q, w, hq, hw, hguard⟩ := guard_of_failsFirst hfirst
    cases Option.some.inj (hp.symm.trans hq)
    cases Option.some.inj (hv.symm.trans hw)
    obtain ⟨status, message⟩ := rejection
    cases hstatus
    cases hmessage
    exact hguard
  · obtain ⟨p, v, hp, hv, hguard⟩ := guard_of_failsFirst h
    obtain ⟨q, w, hq, hw, hguard'⟩ := guard_of_failsFirst h'
    -- The same validator has the same records against the same value.
    cases Option.some.inj (hp.symm.trans hq)
    cases Option.some.inj ((hv.symm.trans heq).trans hw)
    exact ⟨rejectionFront p v field, hguard, hguard'⟩

/-- A document with one type, which wants an object as its parameters and a string as its body and
says nothing about its query. -/
def partsDocument : Document :=
  ⟨_, Json.canonical_ofList [
    ("$schema", .string "http://json-schema.org/draft-07/schema#"),
    ("definitions", .object [("A", .object [("properties", .object
      [("body", .object [("type", .string "string")]),
        ("params", .object [("type", .string "object")])])])])]⟩

/-- Two requests with the same wrong parameters, one of which also has a wrong body, are rejected
with the same text up to the dump. A request that has a query only is let through with it. -/
theorem guard_first_failing_partsDocument : ∃ e front, Engine.build partsDocument .default = .ok e ∧
    (forType e "A").guard { params := some (.bool true), body := some (.bool true) }
      = .error ⟨400, front ++ dump { params := some (.bool true), body := some (.bool true) }⟩ ∧
    (forType e "A").guard { params := some (.bool true), query := some .null }
      = .error ⟨400, front ++ dump { params := some (.bool true), query := some .null }⟩ ∧
    ∃ passed, (forType e "A").guard { query := some (.bool true) } = .ok passed ∧
      passed.get? .query = some (.bool true) := by
  have hbuild : (Engine.build partsDocument .default).toOption.any (fun e =>
      (forType e "A").firstFailing? { params := some (.bool true), body := some (.bool true) }
          RequestField.all == some .params
        && (forType e "A").firstFailing? { params := some (.bool true), query := some .null }
          RequestField.all == some .params
        && (forType e "A").firstFailing? { query := some (.bool true) } RequestField.all == none)
        = true := by
    decide +kernel
  obtain ⟨e, he, hfails⟩ := exists_ok_of_any hbuild
  simp only [Bool.and_eq_true, beq_iff_eq] at hfails
  obtain ⟨⟨hboth, hparams⟩, hquery⟩ := hfails
  obtain ⟨hpasses, htaken, -, hfronts⟩ := guard_first_failing e "A"
  obtain ⟨front, hguard, hguard'⟩ := hfronts _ _ .params (firstFailing?_eq_some_iff.1 hboth)
    (firstFailing?_eq_some_iff.1 hparams) rfl
  obtain ⟨passed, hpassed⟩ := (hpasses _).2 (firstFailing?_eq_none_iff.1 hquery)
  exact ⟨e, front, he, hguard, hguard', passed, hpassed, htaken _ _ hpassed .query⟩

end SchemaGate.RequestGuard
