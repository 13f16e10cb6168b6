import SchemaGate.MetaSchema.Fragment

/-!
# `SchemaGate.MetaSchema.Draft6`: the schema of schemas of the sixth draft

One schema describes all keywords. Members are in order of their names.
-/

set_option autoImplicit false

namespace SchemaGate.MetaSchema

/-- The schema of schemas of the sixth draft. -/
def draft6 : Json :=
  .object [
    ("$id", .string "http://json-schema.org/draft-06/schema#"),
    ("$schema", .string "http://json-schema.org/draft-06/schema#"), ("default", .object []),
    ("definitions", .object [
      ("nonNegativeInteger", .object [("minimum", .ofNat 0), ("type", .string "integer")]),
      ("nonNegativeIntegerDefault0", .object [
        ("allOf", .array [
          ref "#/definitions/nonNegativeInteger", .object [("default", .ofNat 0)]])]),
      ("schemaArray", .object [
        ("items", ref "#"), ("minItems", .ofNat 1), ("type", .string "array")]),
      ("simpleTypes", .object [
        ("enum", texts [
          "array", "boolean", "integer", "null", "number", "object", "string"])]),
      ("stringArray", .object [
        ("default", .array []), ("items", ofType "string"), ("type", .string "array"),
        ("uniqueItems", .bool true)])]),
    ("properties", .object [
      ("$id", .object [
        ("format", .string "uri-reference"), ("type", .string "string")]),
      ("$ref", .object [
        ("format", .string "uri-reference"), ("type", .string "string")]),
      ("$schema", .object [("format", .string "uri"), ("type", .string "string")]),
      ("additionalItems", ref "#"), ("additionalProperties", ref "#"),
      ("allOf", ref "#/definitions/schemaArray"), ("anyOf", ref "#/definitions/schemaArray"),
      ("const", .object []), ("contains", ref "#"), ("default", .object []),
      ("definitions", .object [
        ("additionalProperties", ref "#"), ("default", .object []), ("type", .string "object")]),
      ("dependencies", .object [
        ("additionalProperties", .object [
          ("anyOf", .array [ref "#", ref "#/definitions/stringArray"])]),
        ("type", .string "object")]),
      ("description", ofType "string"),
      ("enum", .object [
        ("minItems", .ofNat 1), ("type", .string "array"), ("uniqueItems", .bool true)]),
      ("examples", .object [("items", .object []), ("type", .string "array")]),
      ("exclusiveMaximum", ofType "number"), ("exclusiveMinimum", ofType "number"),
      ("format", ofType "string"),
      ("items", .object [
        ("anyOf", .array [ref "#", ref "#/definitions/schemaArray"]), ("default", .object [])]),
      ("maxItems", ref "#/definitions/nonNegativeInteger"),
      ("maxLength", ref "#/definitions/nonNegativeInteger"),
      ("maxProperties", ref "#/definitions/nonNegativeInteger"), ("maximum", ofType "number"),
      ("minItems", ref "#/definitions/nonNegativeIntegerDefault0"),
      ("minLength", ref "#/definitions/nonNegativeIntegerDefault0"),
      ("minProperties", ref "#/definitions/nonNegativeIntegerDefault0"),
      ("minimum", ofType "number"),
      ("multipleOf", .object [
        ("exclusiveMinimum", .ofNat 0), ("type", .string "number")]),
      ("not", ref "#"), ("oneOf", ref "#/definitions/schemaArray"),
      ("pattern", .object [
        ("format", .string "regex"), ("type", .string "string")]),
      ("patternProperties", .object [
        ("additionalProperties", ref "#"), ("default", .object []), ("type", .string "object")]),
      ("properties", .object [
        ("additionalProperties", ref "#"), ("default", .object []), ("type", .string "object")]),
      ("propertyNames", ref "#"), ("required", ref "#/definitions/stringArray"),
      ("title", ofType "string"),
      ("type", .object [
        ("anyOf", .array [
          ref "#/definitions/simpleTypes",
          .object [
            ("items", ref "#/definitions/simpleTypes"), ("minItems", .ofNat 1),
            ("type", .string "array"), ("uniqueItems", .bool true)]])]),
      ("uniqueItems", .object [("default", .bool false), ("type", .string "boolean")])]),
    ("title", .string "Core schema meta-schema"), ("type", texts ["object", "boolean"])]

end SchemaGate.MetaSchema
