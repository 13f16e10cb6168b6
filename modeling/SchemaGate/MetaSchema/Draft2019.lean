import SchemaGate.MetaSchema.Fragment

/-!
# `SchemaGate.MetaSchema.Draft2019`: the schema of schemas of the draft of September 2019

The root combines one schema for every vocabulary. Members are in order of their names.
-/

set_option autoImplicit false

namespace SchemaGate.MetaSchema

/-- The schema of schemas of the draft of September 2019. -/
def draft2019 : Json :=
  .object [
    ("$id", .string "https://json-schema.org/draft/2019-09/schema"),
    ("$recursiveAnchor", .bool true),
    ("$schema", .string "https://json-schema.org/draft/2019-09/schema"),
    ("$vocabulary", .object [
      ("https://json-schema.org/draft/2019-09/vocab/applicator", .bool true),
      ("https://json-schema.org/draft/2019-09/vocab/content", .bool true),
      ("https://json-schema.org/draft/2019-09/vocab/core", .bool true),
      ("https://json-schema.org/draft/2019-09/vocab/format", .bool false),
      ("https://json-schema.org/draft/2019-09/vocab/meta-data", .bool true),
      ("https://json-schema.org/draft/2019-09/vocab/validation", .bool true)]),
    ("allOf", .array [
      ref "meta/core", ref "meta/applicator", ref "meta/validation", ref "meta/meta-data",
      ref "meta/format", ref "meta/content"]),
    ("properties", .object [
      ("definitions", .object [
        ("additionalProperties", anySchema2019), ("default", .object []),
        ("type", .string "object")]),
      ("dependencies", .object [
        ("additionalProperties", .object [
          ("anyOf", .array [
            anySchema2019, ref "meta/validation#/$defs/stringArray"])]),
        ("type", .string "object")])]),
    ("title", .string "Core and Validation specifications meta-schema"),
    ("type", texts ["object", "boolean"])]

/-- The core vocabulary meta-schema of the draft of September 2019. -/
def core2019 : Json :=
  .object [
    ("$id", .string "https://json-schema.org/draft/2019-09/meta/core"),
    ("$recursiveAnchor", .bool true),
    ("$schema", .string "https://json-schema.org/draft/2019-09/schema"),
    ("$vocabulary", .object [
      ("https://json-schema.org/draft/2019-09/vocab/core", .bool true)]),
    ("properties", .object [
      ("$anchor", .object [
        ("pattern", .string "^[A-Za-z][-A-Za-z0-9.:_]*$"), ("type", .string "string")]),
      ("$comment", ofType "string"),
      ("$defs", .object [
        ("additionalProperties", anySchema2019), ("default", .object []),
        ("type", .string "object")]),
      ("$id", .object [
        ("$comment", .string "Non-empty fragments not allowed."),
        ("format", .string "uri-reference"), ("pattern", .string "^[^#]*#?$"),
        ("type", .string "string")]),
      ("$recursiveAnchor", .object [("default", .bool false), ("type", .string "boolean")]),
      ("$recursiveRef", .object [
        ("format", .string "uri-reference"), ("type", .string "string")]),
      ("$ref", .object [
        ("format", .string "uri-reference"), ("type", .string "string")]),
      ("$schema", .object [("format", .string "uri"), ("type", .string "string")]),
      ("$vocabulary", .object [
        ("additionalProperties", ofType "boolean"),
        ("propertyNames", .object [
          ("format", .string "uri"), ("type", .string "string")]),
        ("type", .string "object")])]),
    ("title", .string "Core vocabulary meta-schema"), ("type", texts ["object", "boolean"])]

/-- The applicator vocabulary meta-schema of the draft of September 2019. -/
def applicator2019 : Json :=
  .object [
    ("$defs", .object [
      ("schemaArray", .object [
        ("items", anySchema2019), ("minItems", .ofNat 1), ("type", .string "array")])]),
    ("$id", .string "https://json-schema.org/draft/2019-09/meta/applicator"),
    ("$recursiveAnchor", .bool true),
    ("$schema", .string "https://json-schema.org/draft/2019-09/schema"),
    ("$vocabulary", .object [
      ("https://json-schema.org/draft/2019-09/vocab/applicator", .bool true)]),
    ("properties", .object [
      ("additionalItems", anySchema2019), ("additionalProperties", anySchema2019),
      ("allOf", ref "#/$defs/schemaArray"), ("anyOf", ref "#/$defs/schemaArray"),
      ("contains", anySchema2019),
      ("dependentSchemas", .object [
        ("additionalProperties", anySchema2019), ("type", .string "object")]),
      ("else", anySchema2019), ("if", anySchema2019),
      ("items", .object [
        ("anyOf", .array [anySchema2019, ref "#/$defs/schemaArray"])]),
      ("not", anySchema2019), ("oneOf", ref "#/$defs/schemaArray"),
      ("patternProperties", .object [
        ("additionalProperties", anySchema2019), ("default", .object []),
        ("propertyNames", .object [("format", .string "regex")]), ("type", .string "object")]),
      ("properties", .object [
        ("additionalProperties", anySchema2019), ("default", .object []),
        ("type", .string "object")]),
      ("propertyNames", anySchema2019), ("then", anySchema2019),
      ("unevaluatedItems", anySchema2019), ("unevaluatedProperties", anySchema2019)]),
    ("title", .string "Applicator vocabulary meta-schema"), ("type", texts ["object", "boolean"])]

/-- The validation vocabulary meta-schema of the draft of September 2019. -/
def validation2019 : Json :=
  .object [
    ("$defs", .object [
      ("nonNegativeInteger", .object [("minimum", .ofNat 0), ("type", .string "integer")]),
      ("nonNegativeIntegerDefault0", .object [
        ("$ref", .string "#/$defs/nonNegativeInteger"), ("default", .ofNat 0)]),
      ("simpleTypes", .object [
        ("enum", texts [
          "array", "boolean", "integer", "null", "number", "object", "string"])]),
      ("stringArray", .object [
        ("default", .array []), ("items", ofType "string"), ("type", .string "array"),
        ("uniqueItems", .bool true)])]),
    ("$id", .string "https://json-schema.org/draft/2019-09/meta/validation"),
    ("$recursiveAnchor", .bool true),
    ("$schema", .string "https://json-schema.org/draft/2019-09/schema"),
    ("$vocabulary", .object [
      ("https://json-schema.org/draft/2019-09/vocab/validation", .bool true)]),
    ("properties", .object [
      ("const", .bool true),
      ("dependentRequired", .object [
        ("additionalProperties", ref "#/$defs/stringArray"), ("type", .string "object")]),
      ("enum", .object [("items", .bool true), ("type", .string "array")]),
      ("exclusiveMaximum", ofType "number"), ("exclusiveMinimum", ofType "number"),
      ("maxContains", ref "#/$defs/nonNegativeInteger"),
      ("maxItems", ref "#/$defs/nonNegativeInteger"),
      ("maxLength", ref "#/$defs/nonNegativeInteger"),
      ("maxProperties", ref "#/$defs/nonNegativeInteger"), ("maximum", ofType "number"),
      ("minContains", .object [
        ("$ref", .string "#/$defs/nonNegativeInteger"), ("default", .ofNat 1)]),
      ("minItems", ref "#/$defs/nonNegativeIntegerDefault0"),
      ("minLength", ref "#/$defs/nonNegativeIntegerDefault0"),
      ("minProperties", ref "#/$defs/nonNegativeIntegerDefault0"), ("minimum", ofType "number"),
      ("multipleOf", .object [
        ("exclusiveMinimum", .ofNat 0), ("type", .string "number")]),
      ("pattern", .object [
        ("format", .string "regex"), ("type", .string "string")]),
      ("required", ref "#/$defs/stringArray"),
      ("type", .object [
        ("anyOf", .array [
          ref "#/$defs/simpleTypes",
          .object [
            ("items", ref "#/$defs/simpleTypes"), ("minItems", .ofNat 1),
            ("type", .string "array"), ("uniqueItems", .bool true)]])]),
      ("uniqueItems", .object [("default", .bool false), ("type", .string "boolean")])]),
    ("title", .string "Validation vocabulary meta-schema"), ("type", texts ["object", "boolean"])]

/-- The meta-data vocabulary meta-schema of the draft of September 2019. -/
def metaData2019 : Json :=
  .object [
    ("$id", .string "https://json-schema.org/draft/2019-09/meta/meta-data"),
    ("$recursiveAnchor", .bool true),
    ("$schema", .string "https://json-schema.org/draft/2019-09/schema"),
    ("$vocabulary", .object [
      ("https://json-schema.org/draft/2019-09/vocab/meta-data", .bool true)]),
    ("properties", .object [
      ("default", .bool true),
      ("deprecated", .object [("default", .bool false), ("type", .string "boolean")]),
      ("description", ofType "string"),
      ("examples", .object [("items", .bool true), ("type", .string "array")]),
      ("readOnly", .object [("default", .bool false), ("type", .string "boolean")]),
      ("title", ofType "string"),
      ("writeOnly", .object [("default", .bool false), ("type", .string "boolean")])]),
    ("title", .string "Meta-data vocabulary meta-schema"), ("type", texts ["object", "boolean"])]

/-- The format vocabulary meta-schema of the draft of September 2019. -/
def format2019 : Json :=
  .object [
    ("$id", .string "https://json-schema.org/draft/2019-09/meta/format"),
    ("$recursiveAnchor", .bool true),
    ("$schema", .string "https://json-schema.org/draft/2019-09/schema"),
    ("$vocabulary", .object [
      ("https://json-schema.org/draft/2019-09/vocab/format", .bool true)]),
    ("properties", .object [("format", ofType "string")]),
    ("title", .string "Format vocabulary meta-schema"), ("type", texts ["object", "boolean"])]

/-- The content vocabulary meta-schema of the draft of September 2019. -/
def content2019 : Json :=
  .object [
    ("$id", .string "https://json-schema.org/draft/2019-09/meta/content"),
    ("$recursiveAnchor", .bool true),
    ("$schema", .string "https://json-schema.org/draft/2019-09/schema"),
    ("$vocabulary", .object [
      ("https://json-schema.org/draft/2019-09/vocab/content", .bool true)]),
    ("properties", .object [
      ("contentEncoding", ofType "string"), ("contentMediaType", ofType "string"),
      ("contentSchema", anySchema2019)]),
    ("title", .string "Content vocabulary meta-schema"), ("type", texts ["object", "boolean"])]

end SchemaGate.MetaSchema
