import SchemaGate.Json.Ordered

/-!
# `SchemaGate.Document`: schema documents

A document is a canonical JSON object that describes one type by its root, or several named types
under `definitions`. A named type may constrain three parts of a request by properties of those
names. Types and their request fields are registered under keys, which `registryKey` writes.
-/

set_option autoImplicit false

namespace SchemaGate

/-- Whether a document describes one type or several. -/
inductive Shape
  | single
  | multi
  deriving DecidableEq, Repr

/-- The name of a shape. -/
def Shape.name : Shape → String
  | .single => "single"
  | .multi => "multi"

/-- A part of a request that a type can constrain. -/
inductive RequestField
  | params
  | query
  | body
  deriving DecidableEq, Repr

namespace RequestField

/-- The name of a field. -/
def name : RequestField → String
  | .params => "params"
  | .query => "query"
  | .body => "body"

/-- The fields in the order in which they are checked. -/
def all : List RequestField := [.params, .query, .body]

/-- The field of a name. -/
def ofName? (name : String) : Option RequestField := all.find? fun f => f.name == name

end RequestField

/-- The key of the root of a document. -/
def rootKey : String := "Schema"

/-- The key of a type, or of one of its request fields. -/
def registryKey (typeName : String) (field : Option RequestField) : String :=
  match field with
  | none => rootKey ++ "#/definitions/" ++ typeName
  | some f => rootKey ++ "#/definitions/" ++ typeName ++ "/properties/" ++ f.name

/-- The kind of a JSON value, with its article. -/
def Json.kind : Json → String
  | .null => "null"
  | .bool _ => "a boolean"
  | .number _ => "a number"
  | .string _ => "a string"
  | .array _ => "an array"
  | .object _ => "an object"

/-- A schema document: always an object, with all objects inside it in order of their names. -/
structure Document where
  /-- The members of the root. -/
  members : Members
  /-- No object inside holds a name twice or out of order. -/
  canonical : (Json.object members).Canonical

namespace Document

instance : Inhabited Document := ⟨[], Json.canonical_nil⟩

/-- The root as JSON. -/
def root (d : Document) : Json := .object d.members

/-- The document of a JSON object, in canonical form. -/
def ofJson? : Json → Option Document
  | .object members => some ⟨_, Json.canonical_ofList members⟩
  | _ => none

/-- Documents with the same root are the same. -/
theorem ext_root {d d' : Document} (h : d.root = d'.root) : d = d' := by
  obtain ⟨members, _⟩ := d
  obtain ⟨members', _⟩ := d'
  have hm : members = members' := Json.object.inj h
  subst hm
  rfl

/-- The document of a canonical value has this value as its root. -/
theorem root_of_ofJson? {v : Json} {d : Document} (hv : v.Canonical) (h : ofJson? v = some d) :
    d.root = v := by
  cases v with
  | object members =>
      cases h
      exact Json.sortKeys_of_canonical (.object members) hv
  | _ => cases h

/-- The text that refuses a value that is no document. -/
def refusal (v : Json) : String := "schema document must be a JSON object, found " ++ v.kind

/-- The types by name, if `definitions` is an object. -/
def definitions? (d : Document) : Option Members :=
  (d.members.lookup "definitions").bind Json.members?

/-- The schema of a type. -/
def definition? (d : Document) (typeName : String) : Option Json :=
  d.definitions?.bind fun types => types.lookup typeName

/-- The names of the types, in their order. -/
def definitionNames (d : Document) : List String := (d.definitions?.getD []).names

/-- The names of the types are those under which there is one. -/
theorem mem_definitionNames_iff {d : Document} {name : String} :
    name ∈ d.definitionNames ↔ (d.definition? name).isSome = true := by
  unfold definitionNames definition?
  cases d.definitions? with
  | none => simp [Members.names]
  | some types => exact Members.mem_names_iff

/-- The types are canonical. -/
theorem canonical_definitions (d : Document) :
    (Json.object (d.definitions?.getD [])).Canonical := by
  unfold definitions?
  cases hl : d.members.lookup "definitions" with
  | none => exact Json.canonical_nil
  | some v =>
      have hv : v.Canonical := Json.canonical_of_lookup d.canonical.2 hl
      cases v with
      | object types => exact hv
      | _ => exact Json.canonical_nil

/-- The keywords that make the root a type of its own. -/
def typeKeywords : List String :=
  ["type", "properties", "$ref", "anyOf", "oneOf", "allOf", "enum", "items", "const"]

/-- Whether the root is a type of its own. -/
def describesType (d : Document) : Bool := typeKeywords.any d.members.has

/-- A document has several types if it defines any and its root is not a type itself. -/
def shape (d : Document) : Shape :=
  if !(d.definitions?.getD []).isEmpty && !d.describesType then .multi else .single

/-- The schemas of a type's properties, if it declares any. -/
def properties? (d : Document) (typeName : String) : Option Members :=
  ((d.definition? typeName).bind fun schema => schema.get? "properties").bind Json.members?

/-- Whether a type declares properties. -/
def hasProperties (d : Document) (typeName : String) : Bool := (d.properties? typeName).isSome

/-- The schema that a type declares for a request field. -/
def requestField? (d : Document) (typeName : String) (field : RequestField) : Option Json :=
  (d.properties? typeName).bind fun properties => properties.lookup field.name

/-- The request fields that a type constrains, in the order in which they are checked. -/
def requestFields (d : Document) (typeName : String) : List RequestField :=
  RequestField.all.filter fun f => (d.requestField? typeName f).isSome

end Document

end SchemaGate
