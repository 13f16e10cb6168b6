import SchemaGate.MetaSchema.Fragment

/-!
# `SchemaGate.MetaSchema.Draft4`: the schema of schemas of the fourth draft

One schema describes all keywords. Members are in order of their names.
-/

set_option autoImplicit false

namespace SchemaGate.MetaSchema

/-- The schema of schemas of the fourth draft. -/
def draft4 : Json :=
  .object [
    ("$schema", .string "http://json-schema.org/draft-04/schema#"), ("default", .object []),
    ("definitions", .object [
      ("positiveInteger", .object [("minimum", .ofNat 0), ("type", .string "integer")]),
      ("positiveIntegerDefault0", .object [
        ("allOf", .array [
          ref "#/definitions/positiveInteger", .object [("default", .ofNat 0)]])]),
      ("schemaArray", .object [
        ("items", ref "#"), ("minItems", .ofNat 1), ("type", .string "array")]),
      ("simpleTypes", .object [
        ("enum", texts [
          "array", "boolean", "integer", "null", "number", "object", "string"])]),
      ("stringArray", .object [
        ("items", ofType "string"), ("minItems", .ofNat 1), ("type", .string "array"),
        ("uniqueItems", .bool true)])]),
    ("dependencies", .object [
      ("exclusiveMaximum", texts ["maximum"]), ("exclusiveMinimum", texts ["minimum"])]),
    ("description", .string "Core schema meta-schema"),
    ("id", .string "http://json-schema.org/draft-04/schema#"),
    ("properties", .object [
      ("$schema", ofType "string"),
      ("additionalItems", .object [
        ("anyOf", .array [ofType "boolean", ref "#"]), ("default", .object [])]),
      ("additionalProperties", .object [
        ("anyOf", .array [ofType "boolean", ref "#"]), ("default", .object [])]),
      ("allOf", ref "#/definitions/schemaArray"), ("anyOf", ref "#/definitions/schemaArray"),
      ("default", .object []),
      ("definitions", .object [
        ("additionalProperties", ref "#"), ("default", .object []), ("type", .string "object")]),
      ("dependencies", .object [
        ("additionalProperties", .object [
          ("anyOf", .array [ref "#", ref "#/definitions/stringArray"])]),
        ("type", .string "object")]),
      ("description", ofType "string"),
      ("enum", .object [
        ("minItems", .ofNat 1), ("type", .string "array"), ("uniqueItems", .bool true)]),
      ("exclusiveMaximum", ofType "boolean"), ("exclusiveMinimum", ofType "boolean"),
      ("format", ofType "string"), ("id", ofType "string"),
      ("items", .object [
        ("anyOf", .array [ref "#", ref "#/definitions/schemaArray"]), ("default", .object [])]),
      ("maxItems", ref "#/definitions/positiveInteger"),
      ("maxLength", ref "#/definitions/positiveInteger"),
      ("maxProperties", ref "#/definitions/positiveInteger"), ("maximum", ofType "number"),
      ("minItems", ref "#/definitions/positiveIntegerDefault0"),
      ("minLength", ref "#/definitions/positiveIntegerDefault0"),
      ("minProperties", ref "#/definitions/positiveIntegerDefault0"),
      ("minimum", ofType "number"),
      ("multipleOf", .object [
        ("exclusiveMinimum", .bool true), ("minimum", .ofNat 0), ("type", .string "number")]),
      ("not", ref "#"), ("oneOf", ref "#/definitions/schemaArray"),
      ("pattern", .object [
        ("format", .string "regex"), ("type", .string "string")]),
      ("patternProperties", .object [
        ("additionalProperties", ref "#"), ("default", .object []), ("type", .string "object")]),
      ("properties", .object [
        ("additionalProperties", ref "#"), ("default", .object []), ("type", .string "object")]),
      ("required", ref "#/definitions/stringArray"), ("title", ofType "string"),
      ("type", .object [
        ("anyOf", .array [
          ref "#/definitions/simpleTypes",
          .object [
            ("items", ref "#/definitions/simpleTypes"), ("minItems", .ofNat 1),
            ("type", .string "array"), ("uniqueItems", .bool true)]])]),
      ("uniqueItems", .object [("default", .bool false), ("type", .string "boolean")])]),
    ("type", .string "object")]

end SchemaGate.MetaSchema
