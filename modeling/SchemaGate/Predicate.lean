import SchemaGate.Report
import SchemaGate.Schema.Basic

/-!
# `SchemaGate.Predicate`: compiled checks

A predicate is a compiled schema with the decision how much of a refusal is reported: every
violation, or the first one only.
-/

set_option autoImplicit false

namespace SchemaGate

/-- A compiled check of values. -/
structure Predicate where
  /-- The schema. -/
  schema : Schema
  /-- Whether all violations are reported. -/
  allErrors : Bool
  deriving Inhabited

namespace Predicate

/-- The check of a schema, or the fault that makes it unusable. -/
def compile (schema : Json) (allErrors : Bool) : Except Fault Predicate := do
  return ⟨← Schema.compile schema, allErrors⟩

/-- Whether a value is accepted. -/
def isValid (p : Predicate) (v : Json) : Bool := p.schema.accepts v

/-- The records against a value; a value without any is accepted. -/
def check (p : Predicate) (v : Json) : List ErrorRecord :=
  let records := (p.schema.violations v).map Violation.record
  if p.allErrors then records else records.take 1

/-- A predicate as text for developers. -/
def describe (p : Predicate) : String :=
  "Predicate \x7b all_errors: " ++ (if p.allErrors then "true" else "false") ++ ", .. \x7d"

end Predicate

end SchemaGate
