import SchemaGate.MetaSchema.Fragment

/-!
# `SchemaGate.MetaSchema.Draft2020`: the schema of schemas of the draft of December 2020

The root combines one schema for every vocabulary. Members are in order of their names.
-/

set_option autoImplicit false

namespace SchemaGate.MetaSchema

/-- The schema of schemas of the draft of December 2020. -/
def draft2020 : Json :=
  .object [
    ("$comment", .string "This meta-schema also defines keywords that have appeared in previous drafts in order to prevent incompatible extensions as they remain in common use."),
    ("$dynamicAnchor", .string "meta"),
    ("$id", .string "https://json-schema.org/draft/2020-12/schema"),
    ("$schema", .string "https://json-schema.org/draft/2020-12/schema"),
    ("$vocabulary", .object [
      ("https://json-schema.org/draft/2020-12/vocab/applicator", .bool true),
      ("https://json-schema.org/draft/2020-12/vocab/content", .bool true),
      ("https://json-schema.org/draft/2020-12/vocab/core", .bool true),
      ("https://json-schema.org/draft/2020-12/vocab/format-annotation", .bool true),
      ("https://json-schema.org/draft/2020-12/vocab/meta-data", .bool true),
      ("https://json-schema.org/draft/2020-12/vocab/unevaluated", .bool true),
      ("https://json-schema.org/draft/2020-12/vocab/validation", .bool true)]),
    ("allOf", .array [
      ref "meta/core", ref "meta/applicator", ref "meta/unevaluated", ref "meta/validation",
      ref "meta/meta-data", ref "meta/format-annotation", ref "meta/content"]),
    ("properties", .object [
      ("$recursiveAnchor", .object [
        ("$comment", .string "\"$recursiveAnchor\" has been replaced by \"$dynamicAnchor\"."),
        ("$ref", .string "meta/core#/$defs/anchorString"), ("deprecated", .bool true)]),
      ("$recursiveRef", .object [
        ("$comment", .string "\"$recursiveRef\" has been replaced by \"$dynamicRef\"."),
        ("$ref", .string "meta/core#/$defs/uriReferenceString"), ("deprecated", .bool true)]),
      ("definitions", .object [
        ("$comment", .string "\"definitions\" has been replaced by \"$defs\"."),
        ("additionalProperties", anySchema2020), ("default", .object []),
        ("deprecated", .bool true), ("type", .string "object")]),
      ("dependencies", .object [
        ("$comment", .string "\"dependencies\" has been split and replaced by \"dependentSchemas\" and \"dependentRequired\" in order to serve their differing semantics."),
        ("additionalProperties", .object [
          ("anyOf", .array [
            anySchema2020, ref "meta/validation#/$defs/stringArray"])]),
        ("default", .object []), ("deprecated", .bool true), ("type", .string "object")])]),
    ("title", .string "Core and Validation specifications meta-schema"),
    ("type", texts ["object", "boolean"])]

/-- The core vocabulary meta-schema of the draft of December 2020. -/
def core2020 : Json :=
  .object [
    ("$defs", .object [
      ("anchorString", .object [
        ("pattern", .string "^[A-Za-z_][-A-Za-z0-9._]*$"), ("type", .string "string")]),
      ("uriReferenceString", .object [
        ("format", .string "uri-reference"), ("type", .string "string")]),
      ("uriString", .object [("format", .string "uri"), ("type", .string "string")])]),
    ("$dynamicAnchor", .string "meta"),
    ("$id", .string "https://json-schema.org/draft/2020-12/meta/core"),
    ("$schema", .string "https://json-schema.org/draft/2020-12/schema"),
    ("$vocabulary", .object [
      ("https://json-schema.org/draft/2020-12/vocab/core", .bool true)]),
    ("properties", .object [
      ("$anchor", ref "#/$defs/anchorString"), ("$comment", ofType "string"),
      ("$defs", .object [
        ("additionalProperties", anySchema2020), ("type", .string "object")]),
      ("$dynamicAnchor", ref "#/$defs/anchorString"),
      ("$dynamicRef", ref "#/$defs/uriReferenceString"),
      ("$id", .object [
        ("$comment", .string "Non-empty fragments not allowed."),
        ("$ref", .string "#/$defs/uriReferenceString"), ("pattern", .string "^[^#]*#?$")]),
      ("$ref", ref "#/$defs/uriReferenceString"), ("$schema", ref "#/$defs/uriString"),
      ("$vocabulary", .object [
        ("additionalProperties", ofType "boolean"), ("propertyNames", ref "#/$defs/uriString"),
        ("type", .string "object")])]),
    ("title", .string "Core vocabulary meta-schema"), ("type", texts ["object", "boolean"])]

/-- The applicator vocabulary meta-schema of the draft of December 2020. -/
def applicator2020 : Json :=
  .object [
    ("$defs", .object [
      ("schemaArray", .object [
        ("items", anySchema2020), ("minItems", .ofNat 1), ("type", .string "array")])]),
    ("$dynamicAnchor", .string "meta"),
    ("$id", .string "https://json-schema.org/draft/2020-12/meta/applicator"),
    ("$schema", .string "https://json-schema.org/draft/2020-12/schema"),
    ("$vocabulary", .object [
      ("https://json-schema.org/draft/2020-12/vocab/applicator", .bool true)]),
    ("properties", .object [
      ("additionalProperties", anySchema2020), ("allOf", ref "#/$defs/schemaArray"),
      ("anyOf", ref "#/$defs/schemaArray"), ("contains", anySchema2020),
      ("dependentSchemas", .object [
        ("additionalProperties", anySchema2020), ("default", .object []),
        ("type", .string "object")]),
      ("else", anySchema2020), ("if", anySchema2020), ("items", anySchema2020),
      ("not", anySchema2020), ("oneOf", ref "#/$defs/schemaArray"),
      ("patternProperties", .object [
        ("additionalProperties", anySchema2020), ("default", .object []),
        ("propertyNames", .object [("format", .string "regex")]), ("type", .string "object")]),
      ("prefixItems", ref "#/$defs/schemaArray"),
      ("properties", .object [
        ("additionalProperties", anySchema2020), ("default", .object []),
        ("type", .string "object")]),
      ("propertyNames", anySchema2020), ("then", anySchema2020)]),
    ("title", .string "Applicator vocabulary meta-schema"), ("type", texts ["object", "boolean"])]

/-- The unevaluated applicator vocabulary meta-schema of the draft of December 2020. -/
def unevaluated2020 : Json :=
  .object [
    ("$dynamicAnchor", .string "meta"),
    ("$id", .string "https://json-schema.org/draft/2020-12/meta/unevaluated"),
    ("$schema", .string "https://json-schema.org/draft/2020-12/schema"),
    ("$vocabulary", .object [
      ("https://json-schema.org/draft/2020-12/vocab/unevaluated", .bool true)]),
    ("properties", .object [
      ("unevaluatedItems", anySchema2020), ("unevaluatedProperties", anySchema2020)]),
    ("title", .string "Unevaluated applicator vocabulary meta-schema"),
    ("type", texts ["object", "boolean"])]

/-- The validation vocabulary meta-schema of the draft of December 2020. -/
def validation2020 : Json :=
  .object [
    ("$defs", .object [
      ("nonNegativeInteger", .object [("minimum", .ofNat 0), ("type", .string "integer")]),
      ("nonNegativeIntegerDefault0", .object [
        ("$ref", .string "#/$defs/nonNegativeInteger"), ("default", .ofNat 0)]),
      ("simpleTypes", .object [
        ("enum", texts [
          "array", "boolean", "integer", "null", "number", "object", "string"])]),
      ("stringArray", .object [
        ("default", .array []), ("items", ofType "string"), ("type", .string "array"),
        ("uniqueItems", .bool true)])]),
    ("$dynamicAnchor", .string "meta"),
    ("$id", .string "https://json-schema.org/draft/2020-12/meta/validation"),
    ("$schema", .string "https://json-schema.org/draft/2020-12/schema"),
    ("$vocabulary", .object [
      ("https://json-schema.org/draft/2020-12/vocab/validation", .bool true)]),
    ("properties", .object [
      ("const", .bool true),
      ("dependentRequired", .object [
        ("additionalProperties", ref "#/$defs/stringArray"), ("type", .string "object")]),
      ("enum", .object [("items", .bool true), ("type", .string "array")]),
      ("exclusiveMaximum", ofType "number"), ("exclusiveMinimum", ofType "number"),
      ("maxContains", ref "#/$defs/nonNegativeInteger"),
      ("maxItems", ref "#/$defs/nonNegativeInteger"),
      ("maxLength", ref "#/$defs/nonNegativeInteger"),
      ("maxProperties", ref "#/$defs/nonNegativeInteger"), ("maximum", ofType "number"),
      ("minContains", .object [
        ("$ref", .string "#/$defs/nonNegativeInteger"), ("default", .ofNat 1)]),
      ("minItems", ref "#/$defs/nonNegativeIntegerDefault0"),
      ("minLength", ref "#/$defs/nonNegativeIntegerDefault0"),
      ("minProperties", ref "#/$defs/nonNegativeIntegerDefault0"), ("minimum", ofType "number"),
      ("multipleOf", .object [
        ("exclusiveMinimum", .ofNat 0), ("type", .string "number")]),
      ("pattern", .object [
        ("format", .string "regex"), ("type", .string "string")]),
      ("required", ref "#/$defs/stringArray"),
      ("type", .object [
        ("anyOf", .array [
          ref "#/$defs/simpleTypes",
          .object [
            ("items", ref "#/$defs/simpleTypes"), ("minItems", .ofNat 1),
            ("type", .string "array"), ("uniqueItems", .bool true)]])]),
      ("uniqueItems", .object [("default", .bool false), ("type", .string "boolean")])]),
    ("title", .string "Validation vocabulary meta-schema"), ("type", texts ["object", "boolean"])]

/-- The meta-data vocabulary meta-schema of the draft of December 2020. -/
def metaData2020 : Json :=
  .object [
    ("$dynamicAnchor", .string "meta"),
    ("$id", .string "https://json-schema.org/draft/2020-12/meta/meta-data"),
    ("$schema", .string "https://json-schema.org/draft/2020-12/schema"),
    ("$vocabulary", .object [
      ("https://json-schema.org/draft/2020-12/vocab/meta-data", .bool true)]),
    ("properties", .object [
      ("default", .bool true),
      ("deprecated", .object [("default", .bool false), ("type", .string "boolean")]),
      ("description", ofType "string"),
      ("examples", .object [("items", .bool true), ("type", .string "array")]),
      ("readOnly", .object [("default", .bool false), ("type", .string "boolean")]),
      ("title", ofType "string"),
      ("writeOnly", .object [("default", .bool false), ("type", .string "boolean")])]),
    ("title", .string "Meta-data vocabulary meta-schema"), ("type", texts ["object", "boolean"])]

/-- The format vocabulary meta-schema for annotation results of the draft of December 2020. -/
def formatAnnotation2020 : Json :=
  .object [
    ("$dynamicAnchor", .string "meta"),
    ("$id", .string "https://json-schema.org/draft/2020-12/meta/format-annotation"),
    ("$schema", .string "https://json-schema.org/draft/2020-12/schema"),
    ("$vocabulary", .object [
      ("https://json-schema.org/draft/2020-12/vocab/format-annotation", .bool true)]),
    ("properties", .object [("format", ofType "string")]),
    ("title", .string "Format vocabulary meta-schema for annotation results"),
    ("type", texts ["object", "boolean"])]

/-- The content vocabulary meta-schema of the draft of December 2020. -/
def content2020 : Json :=
  .object [
    ("$dynamicAnchor", .string "meta"),
    ("$id", .string "https://json-schema.org/draft/2020-12/meta/content"),
    ("$schema", .string "https://json-schema.org/draft/2020-12/schema"),
    ("$vocabulary", .object [
      ("https://json-schema.org/draft/2020-12/vocab/content", .bool true)]),
    ("properties", .object [
      ("contentEncoding", ofType "string"), ("contentMediaType", ofType "string"),
      ("contentSchema", anySchema2020)]),
    ("title", .string "Content vocabulary meta-schema"), ("type", texts ["object", "boolean"])]

end SchemaGate.MetaSchema
