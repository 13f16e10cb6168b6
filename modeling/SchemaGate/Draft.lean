import SchemaGate.Json.Basic

/-!
# `SchemaGate.Draft`: the drafts of the schema language

A schema is read by the rules of a draft, which the identifier under `$schema` names. The keywords
that a draft knows, the place of sub-schemas and the formats it checks all depend on the draft.
-/

set_option autoImplicit false

namespace SchemaGate

/-- A draft of the schema language. -/
inductive Draft
  | draft4
  | draft6
  | draft7
  | draft2019
  | draft2020
  deriving DecidableEq, Repr, Inhabited

namespace Draft

/-- The place of a draft in time. -/
def order : Draft → Nat
  | .draft4 => 4
  | .draft6 => 6
  | .draft7 => 7
  | .draft2019 => 8
  | .draft2020 => 9

instance : LE Draft := ⟨fun a b => a.order ≤ b.order⟩

instance (a b : Draft) : Decidable (a ≤ b) := inferInstanceAs (Decidable (a.order ≤ b.order))

/-- The draft by whose rules a schema is read that names none. -/
def standard : Draft := .draft2020

/-- The identifier of a draft, without the trailing `#` that some have. -/
def identifier : Draft → String
  | .draft4 => "http://json-schema.org/draft-04/schema"
  | .draft6 => "http://json-schema.org/draft-06/schema"
  | .draft7 => "http://json-schema.org/draft-07/schema"
  | .draft2019 => "https://json-schema.org/draft/2019-09/schema"
  | .draft2020 => "https://json-schema.org/draft/2020-12/schema"

/-- All drafts. -/
def all : List Draft := [.draft4, .draft6, .draft7, .draft2019, .draft2020]

/-- An identifier without its trailing `#`s. -/
def trim (identifier : String) : String :=
  String.ofList (identifier.toList.reverse.dropWhile (· == '#')).reverse

/-- The draft of an identifier. -/
def ofIdentifier? (identifier : String) : Option Draft :=
  all.find? fun d => d.identifier == trim identifier

/-- The identifier that a schema gives under `$schema`. -/
def declared? (schema : Json) : Option String := (schema.get? "$schema").bind Json.string?

/-- The draft of a schema inside another one: the one it declares, else that of the outer schema. A
schema that declares an unknown draft is read by the standard one. -/
def inner (outer : Draft) (schema : Json) : Draft :=
  match declared? schema with
  | some id => (ofIdentifier? id).getD standard
  | none => outer

/-- The draft of a whole schema, or the trimmed identifier that no draft has. -/
def detect (schema : Json) : Except String Draft :=
  match declared? schema with
  | none => .ok standard
  | some id =>
    match ofIdentifier? id with
    | some d => .ok d
    | none => .error (trim id)

/-- Whether a reference hides the keywords beside it. -/
def refHidesSiblings (d : Draft) : Bool := d ≤ .draft7

/-- The keyword that identifies a schema. -/
def idKeyword (d : Draft) : String := if d = .draft4 then "id" else "$id"

end Draft

end SchemaGate
