import SchemaGate.Decode.Basic
import SchemaGate.Engine.Basic

/-!
# `SchemaGate.Engine.Request`: guards for requests

A request has up to three parts that a type may constrain. A guard checks those that are present and
constrained, in a fixed order, and rejects the request at the first one that fails; everything else
passes as it is (`RequestGuard.guard_eq`).
-/

set_option autoImplicit false

namespace SchemaGate

/-- The parts of a request; one that is absent differs from one that is `null`. -/
structure RequestData where
  /-- The parameters of the path. -/
  params : Option Json := none
  /-- The parameters of the query. -/
  query : Option Json := none
  /-- The body. -/
  body : Option Json := none
  deriving Inhabited

namespace RequestData

/-- The part that a field names. -/
def get? (r : RequestData) : RequestField → Option Json
  | .params => r.params
  | .query => r.query
  | .body => r.body

/-- The request with one part given or left out. -/
def put (r : RequestData) (field : RequestField) (v : Option Json) : RequestData :=
  match field with
  | .params => { r with params := v }
  | .query => { r with query := v }
  | .body => { r with body := v }

/-- The request with one part given. -/
def set (r : RequestData) (field : RequestField) (v : Json) : RequestData := r.put field (some v)

/-- All three parts, with `null` for an absent one. -/
def toJson (r : RequestData) : Json :=
  .object [("body", r.body.getD .null), ("params", r.params.getD .null),
    ("query", r.query.getD .null)]

/-- Any value, kept as it is. -/
def anything : Decoder Json := fun v => .ok v

/-- The one field of a payload. -/
def payloadField (_ : String) (v : Json) (_ : Option Json) : Except DecodeFault (Option Json) :=
  Decode.optional anything v

/-- The body in a payload. -/
def payload : Decoder (Option Json) :=
  Decode.record "RequestPayload" ["body"] payloadField none

/-- One field of a request. -/
def readField (field : String) (v : Json) (r : RequestData) : Except DecodeFault RequestData :=
  match field with
  | "request" => do return { r with body := (← Decode.optional payload v).join }
  | "params" => do return { r with params := ← Decode.optional anything v }
  | _ => do return { r with query := ← Decode.optional anything v }

/-- A request from JSON, in which `null` stands for an absent part. -/
def ofJson : Decoder RequestData :=
  Decode.record "JsonRequest" ["request", "params", "query"] readField {}

end RequestData

/-- The answer to a request that is not let through. -/
structure Rejection where
  /-- The status of the answer. -/
  status : Nat
  /-- What is wrong. -/
  message : String
  deriving DecidableEq, Repr

/-- A rejection as text. -/
def Rejection.display (r : Rejection) : String := toString r.status ++ ": " ++ r.message

/-- The validators of a type's request fields. -/
structure RequestGuard where
  /-- The validator of a field, if the type constrains it. -/
  validator : RequestField → Option Predicate

namespace RequestGuard

/-- The status of every rejection. -/
def badRequest : Nat := 400

/-- The guard of a type. An unknown type constrains nothing. -/
def forType (e : Engine) (typeName : String) : RequestGuard :=
  ⟨fun field => e.predicate? (registryKey typeName (some field))⟩

/-- The records against a part of a request. -/
def errors (g : RequestGuard) (r : RequestData) (field : RequestField) : List ErrorRecord :=
  match g.validator field, r.get? field with
  | some p, some v => p.check v
  | _, _ => []

/-- The rejection of a request for a part with records against it. -/
def rejection (r : RequestData) (field : RequestField) (errors : List ErrorRecord) : Rejection :=
  ⟨badRequest,
    "Invalid request: " ++ Report.errorsText (Report.withoutConditional errors) field.name ++ "\n\n"
      ++ Report.inspect r.toJson⟩

/-- One round of a guard: the parts let through so far and one more, or the rejection of the request
for this part. -/
def round (g : RequestGuard) (r passed : RequestData) (field : RequestField) :
    Except Rejection RequestData :=
  match g.errors r field with
  | [] => .ok (passed.put field (r.get? field))
  | records => .error (rejection r field records)

/-- A request that is let through, or its rejection: the parts are checked in order, up to the first
with records against it. -/
def guard (g : RequestGuard) (r : RequestData) : Except Rejection RequestData :=
  RequestField.all.foldlM (g.round r) {}

/-- The first of some fields with records against it. -/
def firstFailing? (g : RequestGuard) (r : RequestData) (fields : List RequestField) :
    Option RequestField :=
  fields.find? fun field => !(g.errors r field).isEmpty

/-- A part without records against it is taken over. -/
theorem round_of_errors_eq_nil {g : RequestGuard} {r : RequestData} {field : RequestField}
    (h : g.errors r field = []) (passed : RequestData) :
    g.round r passed field = .ok (passed.put field (r.get? field)) := by
  rw [round, h]

/-- For a part with records against it the request is rejected, whatever was let through before. -/
theorem round_of_errors_ne_nil {g : RequestGuard} {r : RequestData} {field : RequestField}
    (h : g.errors r field ≠ []) (passed : RequestData) :
    g.round r passed field = .error (rejection r field (g.errors r field)) := by
  rw [round]
  split
  · contradiction
  · rfl

/-- Rounds for some fields take over the part of each, or reject the request for the first with
records against it. -/
theorem foldlM_round (g : RequestGuard) (r passed : RequestData) (fields : List RequestField) :
    fields.foldlM (g.round r) passed = match g.firstFailing? r fields with
      | none => .ok (fields.foldl (fun done field => done.put field (r.get? field)) passed)
      | some field => .error (rejection r field (g.errors r field)) := by
  induction fields generalizing passed with
  | nil => rfl
  | cons field rest ih =>
      rw [List.foldlM_cons, firstFailing?, List.find?_cons]
      by_cases h : g.errors r field = []
      · rw [round_of_errors_eq_nil h, h]
        exact ih (passed.put field (r.get? field))
      · rw [round_of_errors_ne_nil h, List.isEmpty_eq_false_iff.2 h]
        rfl

/-- A guard rejects a request for the first part that fails, and lets every other request through as
it is. -/
theorem guard_eq (g : RequestGuard) (r : RequestData) :
    g.guard r = match g.firstFailing? r RequestField.all with
      | none => .ok r
      | some field => .error (rejection r field (g.errors r field)) :=
  foldlM_round g r {} RequestField.all

end RequestGuard

end SchemaGate
