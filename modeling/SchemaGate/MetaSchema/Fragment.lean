import SchemaGate.Json.Basic

/-!
# `SchemaGate.MetaSchema.Fragment`: recurring parts of the schemas of schemas

Short schemas that the schemas of schemas are put together from.
-/

set_option autoImplicit false

namespace SchemaGate.MetaSchema

/-- The values of a type. -/
def ofType (name : String) : Json := .object [("type", .string name)]

/-- The values that another schema accepts. -/
def ref (address : String) : Json := .object [("$ref", .string address)]

/-- A list of strings. -/
def texts (items : List String) : Json := .array (items.map .string)

/-- The schemas of the draft of September 2019, those of an extending dialect included. -/
def anySchema2019 : Json := .object [("$recursiveRef", .string "#")]

/-- The schemas of the draft of December 2020, those of an extending dialect included. -/
def anySchema2020 : Json := .object [("$dynamicRef", .string "#meta")]

end SchemaGate.MetaSchema
