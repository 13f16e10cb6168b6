import SchemaGate.Decode.Basic
import SchemaGate.Json.Ordered

/-!
# `SchemaGate.Options.Engine`: options of the validation engine

The options are an object whose members override two defaults: values are not coerced, and all
errors are reported. `EngineOptions.merged` is the object in force; the overrides alone are what is
saved.
-/

set_option autoImplicit false

namespace SchemaGate

/-- The options of the validation engine. -/
structure EngineOptions where
  /-- What the caller set, in order of the names. -/
  overrides : Members
  /-- No name comes up twice, here or in the values. -/
  canonical : (Json.object overrides).Canonical

namespace EngineOptions

/-- The options without overrides. -/
def default : EngineOptions := ⟨[], Json.canonical_nil⟩

instance : Inhabited EngineOptions := ⟨default⟩

/-- The name of the option that asks for coercion. -/
def coercionName : String := "coerceTypes"

/-- The name of the option that asks for all errors. -/
def allErrorsName : String := "allErrors"

/-- The values in force where nothing is overridden. -/
def defaults : Members := [(allErrorsName, .bool true), (coercionName, .bool false)]

/-- The options with one more override, whose value is brought into canonical form. -/
def set (o : EngineOptions) (name : String) (value : Json) : EngineOptions :=
  ⟨Members.insert name value.sortKeys o.overrides,
    Json.canonical_insert name (Json.canonical_sortKeys value) o.canonical⟩

/-- The members in force: the defaults under the overrides. -/
def merged (o : EngineOptions) : Members :=
  o.overrides.foldl (fun acc (name, value) => Members.insert name value acc) defaults

/-- The value in force of an option. -/
def get? (o : EngineOptions) (name : String) : Option Json := o.merged.lookup name

/-- Whether all errors are reported: unless a boolean says otherwise. -/
def allErrors (o : EngineOptions) : Bool :=
  match o.get? allErrorsName with
  | some (.bool b) => b
  | _ => true

/-- Whether values are to be coerced: by any value but `false` and `null`. -/
def coercesTypes (o : EngineOptions) : Bool :=
  match o.get? coercionName with
  | some (.bool b) => b
  | some .null | none => false
  | some _ => true

/-- The overrides as JSON. -/
def toJson (o : EngineOptions) : Json := .object o.overrides

/-- Options from their overrides. -/
def ofJson : Decoder EngineOptions := fun v => do
  let members ← Decode.map (fun x => .ok x) v
  return ⟨_, Json.canonical_ofList members⟩

end EngineOptions

end SchemaGate
