import SchemaGate.Proofs.Engine.Dispatch
import SchemaGate.Proofs.Engine.Refusal

/-!
# `SchemaGate.Proofs.Engine.AllErrors`: how much is reported

Whether all errors are reported is decided when an engine is built. It reaches the predicates and
nothing else: two engines of one document, built with options that otherwise agree, hold predicates
of the same schemas under the same keys (`Engine.build_reporting`). One of them reports the first of
the records that the other reports.

The first record is taken before the records of conditionals are left out, which could leave nothing
of it. But there are none of these, so whatever is accepted or refused by one engine is by the other
(`Engine.ReportsFirst`).
-/

set_option autoImplicit false

namespace SchemaGate

/-! ### Predicates -/

namespace Predicate

/-- What a predicate accepts does not depend on how much it reports about a value that it
refuses. -/
theorem isValid_reporting (p : Predicate) (allErrors : Bool) (v : Json) :
    (p.reporting allErrors).isValid v = p.isValid v := rfl

/-- Whether a schema compiles, and with which fault it does not, is independent of how much is to be
reported. The two predicates of one schema differ in nothing else. -/
theorem compile_reporting (schema : Json) (allErrors before : Bool) :
    compile schema allErrors = (compile schema before).map (reporting · allErrors) := by
  unfold compile
  cases Schema.compile schema <;> rfl

/-- A value has no records under either setting, or the first of all its records is the one that is
reported alone. -/
theorem check_reporting (p : Predicate) (v : Json) :
    ((p.reporting true).check v = [] ∧ (p.reporting false).check v = []) ∨
      ∃ first rest, (p.reporting true).check v = first :: rest ∧
        (p.reporting false).check v = [first] := by
  rw [check_reporting_false]
  cases (p.reporting true).check v with
  | nil => exact .inl ⟨rfl, rfl⟩
  | cons first rest => exact .inr ⟨first, rest, rfl, rfl⟩

end Predicate

/-! ### Engines -/

namespace Engine

/-- The engine of the same schemas in which every predicate reports as much as `allErrors` says,
that is all errors or the first one only. -/
def reporting (e : Engine) (allErrors : Bool) : Engine :=
  { e with predicates := e.predicates.map fun x => (x.1, x.2.reporting allErrors) }

/-- A list of registrations compiles, or fails with a certain fault, whatever is to be reported. The
predicates it compiles to differ only in how much they report. -/
theorem compileAll_reporting (allErrors before : Bool) (rs : List (String × Json)) :
    compileAll allErrors rs = (compileAll before rs).map
      (List.map fun x => (x.1, x.2.reporting allErrors)) := by
  induction rs with
  | nil => rfl
  | cons r rest ih =>
      rw [compileAll_cons, compileAll_cons, Predicate.compile_reporting r.2 allErrors before, ih]
      cases Predicate.compile r.2 before with
      | error fault => rfl
      | ok p => cases compileAll before rest <;> rfl

/-- Two builds of one document give engines that differ only in how much is reported, or fail with
the same fault. Coercion has to be asked for in both builds or in neither, since asking for it is a
fault of its own. -/
theorem build_reporting (d : Document) {o before : EngineOptions}
    (h : o.coercesTypes = before.coercesTypes) :
    build d o = (build d before).map (reporting · o.allErrors) := by
  cases hc : o.coercesTypes with
  | true =>
      rw [build_of_coerces hc, build_of_coerces (h ▸ hc)]
      rfl
  | false =>
      rw [build_of_not_coerces hc, build_of_not_coerces (h ▸ hc),
        compileAll_reporting o.allErrors before.allErrors]
      cases compileAll before.allErrors d.registrations <;> rfl

/-- A key is registered in both engines or in neither, and its predicates come from the same
schema. -/
theorem predicate?_reporting (e : Engine) (allErrors : Bool) (key : String) :
    (e.reporting allErrors).predicate? key
      = (e.predicate? key).map (Predicate.reporting · allErrors) := by
  unfold predicate? reporting
  rw [← List.map_reverse, Members.lookup_map (Predicate.reporting · allErrors)]

/-- The name of a type has a predicate in both engines or in neither, and the two predicates come
from the same schema. -/
theorem typePredicate_reporting (e : Engine) (allErrors : Bool) (name : String) :
    (e.reporting allErrors).typePredicate name
      = (e.typePredicate name).map (Predicate.reporting · allErrors) := by
  rw [typePredicate_eq, typePredicate_eq, predicate?_reporting]
  cases e.predicate? (registryKey name none) <;> rfl

/-- A validator is found by a name in both engines or in neither. The two validators have the same
name, and their predicates come from the same schema. -/
theorem resolve_reporting (e : Engine) (allErrors : Bool) (name : String) :
    SingleValidator.resolve (e.reporting allErrors) name
      = (SingleValidator.resolve e name).map fun s =>
          { s with predicate := s.predicate.reporting allErrors } := by
  have hshape : (e.reporting allErrors).shape = e.shape := rfl
  rw [SingleValidator.resolve, SingleValidator.resolve, hshape, predicate?_reporting]
  cases e.predicate? (SingleValidator.key e.shape name) <;> rfl

end Engine

/-! ### Outcomes -/

/-- The second outcome reports the first of the records that the first outcome reports. The two
agree in everything else, up to the text: a value that is handed back, a key without a predicate,
and the type in whose name a value is refused. -/
inductive Refusal.FirstOf : Except Refusal Json → Except Refusal Json → Prop
  | accepted (v : Json) : FirstOf (.ok v) (.ok v)
  | noValidator (key : String) : FirstOf (.error (.noValidator key)) (.error (.noValidator key))
  | invalid (typeName : String) (first : ErrorRecord) (rest : List ErrorRecord)
      (text text' : String) :
    FirstOf (.error (.invalid typeName (first :: rest) text))
      (.error (.invalid typeName [first] text'))

open Refusal (FirstOf)

/-- Validation by the name of a type accepts the same values under both settings. A value that is
refused is refused with all its records under the one, and with the first of these under the
other. -/
theorem Engine.validate_reporting (e : Engine) (name : String) (v : Json) :
    FirstOf ((e.reporting true).validate name v) ((e.reporting false).validate name v) := by
  have hall := e.typePredicate_reporting true name
  have hfirst := e.typePredicate_reporting false name
  cases hp : e.typePredicate name with
  | error refusal =>
      rw [hp] at hall hfirst
      rw [eq_noValidator_of_typePredicate hp] at hall hfirst
      rw [validate, validate, hall, hfirst]
      exact .noValidator _
  | ok p =>
      rw [hp] at hall hfirst
      rw [validate_of_typePredicate hall, validate_of_typePredicate hfirst,
        p.isValid_reporting, p.isValid_reporting]
      cases hvalid : p.isValid v with
      | true => exact .accepted v
      | false =>
          rcases p.check_reporting v with ⟨hnone, -⟩ | ⟨first, rest, hmany, hone⟩
          · exact absurd hnone (Predicate.check_ne_nil_iff.2 hvalid)
          · rw [hmany, hone]
            exact .invalid name first rest _ _

/-- A validator accepts the same values under both settings. A value that it refuses is refused with
all its records under the one, and with the first of these under the other. -/
theorem SingleValidator.validate_reporting (name : String) (p : Predicate) (v : Json) :
    FirstOf (validate ⟨name, p.reporting true⟩ v) (validate ⟨name, p.reporting false⟩ v) := by
  rw [validate_eq, validate_eq, p.isValid_reporting, p.isValid_reporting]
  cases hvalid : p.isValid v with
  | true => exact .accepted v
  | false =>
      rcases p.check_reporting v with ⟨hnone, -⟩ | ⟨first, rest, hmany, hone⟩
      · exact absurd hnone (Predicate.check_ne_nil_iff.2 hvalid)
      · simp only [hmany, hone]
        exact .invalid name first rest _ _

namespace RequestGuard

/-- A guard that reports first errors finds against a part of a request the first record, if there
is any, of those that the guard reporting all errors finds. -/
theorem errors_reporting (e : Engine) (t : String) (r : RequestData) (field : RequestField) :
    (forType (e.reporting false) t).errors r field
      = ((forType (e.reporting true) t).errors r field).take 1 := by
  have hvalidator : ∀ allErrors, (forType (e.reporting allErrors) t).validator field
      = (e.predicate? (registryKey t (some field))).map (Predicate.reporting · allErrors) :=
    fun allErrors => e.predicate?_reporting allErrors _
  unfold errors
  rw [hvalidator, hvalidator]
  cases e.predicate? (registryKey t (some field)) with
  | none => rfl
  | some p =>
      cases r.get? field with
      | none => rfl
      | some v => exact p.check_reporting_false v

/-- The first part of a request that fails is the same for both guards, since a part has records
under both settings or under neither. -/
theorem firstFailing?_reporting (e : Engine) (t : String) (r : RequestData)
    (fields : List RequestField) : (forType (e.reporting false) t).firstFailing? r fields
      = (forType (e.reporting true) t).firstFailing? r fields := by
  unfold firstFailing?
  congr 1
  funext field
  rw [errors_reporting]
  cases (forType (e.reporting true) t).errors r field <;> rfl

/-- A request passes both guards, or both reject it for the same part. The one rejection then has
all the records against this part, and the other has the first of them. -/
theorem guard_reporting (e : Engine) (t : String) (r : RequestData) :
    ((forType (e.reporting true) t).guard r = .ok r ∧
      (forType (e.reporting false) t).guard r = .ok r) ∨
    ∃ field first rest,
      (forType (e.reporting true) t).firstFailing? r RequestField.all = some field ∧
      (forType (e.reporting false) t).firstFailing? r RequestField.all = some field ∧
      (forType (e.reporting true) t).guard r = .error (rejection r field (first :: rest)) ∧
      (forType (e.reporting false) t).guard r = .error (rejection r field [first]) := by
  rw [guard_eq, guard_eq, firstFailing?_reporting]
  cases hfails : (forType (e.reporting true) t).firstFailing? r RequestField.all with
  | none => exact .inl ⟨rfl, rfl⟩
  | some field =>
      have hsome : (forType (e.reporting true) t).errors r field ≠ [] := by
        simpa using List.find?_some hfails
      simp only [errors_reporting]
      cases hrecords : (forType (e.reporting true) t).errors r field with
      | nil => exact absurd hrecords hsome
      | cons first rest => exact .inr ⟨field, first, rest, rfl, rfl, rfl, rfl⟩

end RequestGuard

/-! ### Two builds -/

namespace Engine

/-- Two engines that differ only in how much they report, where the second one reports the first of
the records that the first one reports. The fields go through everything that can be asked of an
engine. -/
structure ReportsFirst (e e' : Engine) : Prop where
  shape : e'.shape = e.shape
  typeNames : e'.typeNames = e.typeNames
  /-- Both engines have predicates under the same keys, in the same order. -/
  keys : e'.predicates.map (·.1) = e.predicates.map (·.1)
  /-- The two predicates under a key accept the same values. Where the first one has records, the
  second one has the first of these. -/
  predicates : ∀ key, (e.predicate? key = none ∧ e'.predicate? key = none) ∨
    ∃ p p', e.predicate? key = some p ∧ e'.predicate? key = some p' ∧
      ∀ v, p'.isValid v = p.isValid v ∧ ((p.check v = [] ∧ p'.check v = []) ∨
        ∃ first rest, p.check v = first :: rest ∧ p'.check v = [first])
  /-- Values are accepted and refused alike when they are validated by the name of a type. -/
  validate : ∀ name v, FirstOf (e.validate name v) (e'.validate name v)
  /-- A name has a validator in both engines or in neither, and values are accepted and refused
  alike by the two validators. -/
  single : ∀ name, (∃ key, SingleValidator.resolve e name = .error (.noValidator key) ∧
      SingleValidator.resolve e' name = .error (.noValidator key)) ∨
    ∃ s s', SingleValidator.resolve e name = .ok s ∧ SingleValidator.resolve e' name = .ok s' ∧
      ∀ v, FirstOf (s.validate v) (s'.validate v)
  /-- A request passes both guards as it is, or is rejected by both for the same part, by the second
  one with the first of the records. -/
  guard : ∀ t r, ((RequestGuard.forType e t).guard r = .ok r ∧
      (RequestGuard.forType e' t).guard r = .ok r) ∨
    ∃ field first rest,
      (RequestGuard.forType e t).firstFailing? r RequestField.all = some field ∧
      (RequestGuard.forType e' t).firstFailing? r RequestField.all = some field ∧
      (RequestGuard.forType e t).guard r
        = .error (RequestGuard.rejection r field (first :: rest)) ∧
      (RequestGuard.forType e' t).guard r = .error (RequestGuard.rejection r field [first])

/-- The two engines of the same schemas, one reporting all errors and one the first error, differ
only in how much they report. -/
theorem reportsFirst_reporting (e : Engine) :
    ReportsFirst (e.reporting true) (e.reporting false) where
  shape := rfl
  typeNames := rfl
  keys := by
    simp only [reporting, List.map_map]
    rfl
  predicates key := by
    rw [predicate?_reporting, predicate?_reporting]
    cases e.predicate? key with
    | none => exact .inl ⟨rfl, rfl⟩
    | some p => exact .inr ⟨_, _, rfl, rfl, fun v => ⟨rfl, p.check_reporting v⟩⟩
  validate name v := e.validate_reporting name v
  single name := by
    rw [resolve_reporting, resolve_reporting]
    cases hs : SingleValidator.resolve e name with
    | error refusal =>
        rw [SingleValidator.eq_noValidator_of_resolve hs]
        exact .inl ⟨_, rfl, rfl⟩
    | ok s =>
        exact .inr ⟨_, _, rfl, rfl, fun v =>
          SingleValidator.validate_reporting s.typeName s.predicate v⟩
  guard t r := RequestGuard.guard_reporting e t r

/-- Options that agree in every value except `allErrors` agree in whether values are to be coerced,
because coercion is asked for under another name. -/
theorem coercesTypes_congr {o o' : EngineOptions}
    (h : ∀ name, name ≠ "allErrors" → o.get? name = o'.get? name) :
    o.coercesTypes = o'.coercesTypes := by
  have hget : o.get? EngineOptions.coercionName = o'.get? EngineOptions.coercionName :=
    h _ (by decide)
  rw [EngineOptions.coercesTypes, EngineOptions.coercesTypes, hget]

/-- Take two builds of one document whose options differ at most in `allErrors`, so that the first
reports all errors and the second the first one. Then both fail with the same fault, or both give an
engine and the engines differ only in how much they report. -/
theorem build_allErrors (d : Document) {o o' : EngineOptions}
    (h : ∀ name, name ≠ "allErrors" → o.get? name = o'.get? name)
    (hall : o.allErrors = true) (hfirst : o'.allErrors = false) :
    (∃ fault, build d o = .error fault ∧ build d o' = .error fault) ∨
    ∃ e e', build d o = .ok e ∧ build d o' = .ok e' ∧ ReportsFirst e e' := by
  have hcoerces := coercesTypes_congr h
  have hown : build d o = (build d o).map (reporting · true) := by
    rw [← hall]
    exact build_reporting d rfl
  have hother : build d o' = (build d o).map (reporting · false) := by
    rw [← hfirst]
    exact build_reporting d hcoerces.symm
  cases hbuild : build d o with
  | error fault =>
      rw [hbuild] at hother
      exact .inl ⟨fault, rfl, hother⟩
  | ok e =>
      rw [hbuild] at hown hother
      -- The engine that reports all errors is the one of its schemas that does.
      refine .inr ⟨e, e.reporting false, rfl, hother, ?_⟩
      have heq : e = e.reporting true := Except.ok.inj hown
      have hreports := e.reportsFirst_reporting
      rw [← heq] at hreports
      exact hreports

/-- The default options with `allErrors` turned off, which ask for the first error only. -/
def firstErrorOptions : EngineOptions := EngineOptions.default.set "allErrors" (.bool false)

/-- The document with a request field has an engine under the default options, which reports all
errors, and an engine that reports the first error only, and the two differ in nothing else. -/
theorem build_allErrors_bodyDocument : ∃ e e', build bodyDocument .default = .ok e ∧
    build bodyDocument firstErrorOptions = .ok e' ∧ ReportsFirst e e' := by
  have hsame : ∀ name, name ≠ "allErrors" →
      EngineOptions.default.get? name = firstErrorOptions.get? name := by
    intro name hname
    have hne : (name == "allErrors") = false := beq_eq_false_iff_ne.2 hname
    show List.lookup name [("allErrors", Json.bool true), ("coerceTypes", .bool false)]
      = List.lookup name [("allErrors", Json.bool false), ("coerceTypes", .bool false)]
    simp only [List.lookup_cons, hne]
  obtain ⟨e, he⟩ := exists_build_bodyDocument
  rcases build_allErrors bodyDocument hsame (by decide) (by decide) with
    ⟨fault, hfault, -⟩ | houtcome
  · rw [he] at hfault
    cases hfault
  · exact houtcome

end Engine

end SchemaGate
