import SchemaGate.Json.Printer
import SchemaGate.Pointer
import SchemaGate.Text.Utf8

/-!
# `SchemaGate.Schema.Cause`: why a schema refuses a value

A `Cause` names the rule that a value breaks, with what the report has to show. `Cause.keyword` and
`Cause.message` are the two texts of the report; the keyword is the one whose rule is broken,
wherever in the schema it stands. A `Violation` is a cause and the place of the value at fault.

Choosing a branch of a conditional is no rule of its own, so no cause has the keyword `if`.
-/

set_option autoImplicit false

namespace SchemaGate

/-- The types that a schema can ask for. -/
inductive JsonType
  | array
  | boolean
  | integer
  | null
  | number
  | object
  | string
  deriving DecidableEq, Repr

namespace JsonType

/-- The name of a type. -/
def name : JsonType → String
  | .array => "array"
  | .boolean => "boolean"
  | .integer => "integer"
  | .null => "null"
  | .number => "number"
  | .object => "object"
  | .string => "string"

/-- All types, in the order in which reports list them. -/
def all : List JsonType := [.array, .boolean, .integer, .null, .number, .object, .string]

/-- The type of a name. -/
def ofName? (name : String) : Option JsonType := all.find? fun t => t.name == name

end JsonType

/-- Why a value is refused. The first value of most constructors is the one at fault. -/
inductive Cause
  | falseSchema (value : Json)
  | notOfType (value : Json) (type : JsonType)
  | notOfTypes (value : Json) (types : List JsonType)
  | missing (name : String)
  | notListed (value : Json) (options : List Json)
  | notConstant (expected : Json)
  | belowMinimum (value limit : Json)
  | aboveMaximum (value limit : Json)
  | notAboveMinimum (value limit : Json)
  | notBelowMaximum (value limit : Json)
  | notMultiple (value : Json) (divisor : Binary64)
  | tooShort (value : Json) (limit : Nat)
  | tooLong (value : Json) (limit : Nat)
  | tooFewItems (value : Json) (limit : Nat)
  | tooManyItems (value : Json) (limit : Nat)
  | tooFewProperties (value : Json) (limit : Nat)
  | tooManyProperties (value : Json) (limit : Nat)
  | repeatedItems (value : Json)
  | noMatch (value : Json) (pattern : String)
  /-- A pattern was not decided within its budget. -/
  | undecidedPattern
  | badFormat (value : Json) (format : String)
  | additionalProperties (names : List String)
  | additionalItems (items : List Json)
  | unevaluatedProperties (names : List String)
  | unevaluatedItems (items : List Json)
  | noneOfAny (value : Json)
  | noneOfOne (value : Json)
  | severalOfOne (value : Json)
  | forbidden (value schema : Json)
  | nothingContained (value : Json)
  /-- The name of a property is refused. -/
  | propertyName (inner : Cause)
  | badEncoding (value : Json) (encoding : String)
  | badMediaType (value : Json) (mediaType : String)
  /-- Encoded content decodes to bytes that are no text. -/
  | notText (fault : Text.Utf8Fault)
  deriving Inhabited

namespace Cause

/-- The keyword that a cause names by its kind, if it names one. -/
def kindKeyword? : Cause → Option String
  | .falseSchema _ => some "false schema"
  | .notOfType _ _ | .notOfTypes _ _ => some "type"
  | .missing _ => some "required"
  | .notListed _ _ => some "enum"
  | .notConstant _ => some "const"
  | .belowMinimum _ _ => some "minimum"
  | .aboveMaximum _ _ => some "maximum"
  | .notAboveMinimum _ _ => some "exclusiveMinimum"
  | .notBelowMaximum _ _ => some "exclusiveMaximum"
  | .notMultiple _ _ => some "multipleOf"
  | .tooShort _ _ => some "minLength"
  | .tooLong _ _ => some "maxLength"
  | .tooFewItems _ _ => some "minItems"
  | .tooManyItems _ _ => some "maxItems"
  | .tooFewProperties _ _ => some "minProperties"
  | .tooManyProperties _ _ => some "maxProperties"
  | .repeatedItems _ => some "uniqueItems"
  | .noMatch _ _ => some "pattern"
  | .badFormat _ _ => some "format"
  | .additionalProperties _ => some "additionalProperties"
  | .additionalItems _ => some "additionalItems"
  | .unevaluatedProperties _ => some "unevaluatedProperties"
  | .unevaluatedItems _ => some "unevaluatedItems"
  | .noneOfAny _ => some "anyOf"
  | .noneOfOne _ | .severalOfOne _ => some "oneOf"
  | .forbidden _ _ => some "not"
  | .nothingContained _ => some "contains"
  | .propertyName _ => some "propertyNames"
  | .badEncoding _ _ => some "contentEncoding"
  | .badMediaType _ _ => some "contentMediaType"
  | .undecidedPattern | .notText _ => none

/-- Where in a whole schema the broken rule is said to stand, if the schema with the rule stands at
a place of it. The place can be any path, also one through names that the schema gives its own
parts, and a path that ends there ends in any text. Only an undecided pattern is known to stand
under its keyword; content that is no text is refused outside of any schema. -/
def rulePath (place : Pointer) : Cause → Pointer
  | .undecidedPattern => place ++ ["pattern"]
  | .notText _ => []
  | _ => place

/-- The keyword whose rule is broken, if the schema with the rule stands at a place of a whole one:
the keyword that the cause names, else the last segment of the path to the rule. For a cause that
names no keyword by its kind the place could decide, so every kind has to be gone through to see
that it never does. -/
def keywordAt (place : Pointer) (c : Cause) : String :=
  c.kindKeyword?.getD (Pointer.lastSegment (c.rulePath place).write)

/-- The keyword whose rule is broken, as reports show it. It is the same wherever the schema with
the rule stands, so the place is left out; content that is no text breaks a rule without a
keyword. -/
def keyword (c : Cause) : String := c.keywordAt []

/-- A number of things: the plural unless there is one. -/
def counted (n : Nat) (one many : String) : String :=
  toString n ++ " " ++ if n = 1 then one else many

/-- Texts separated by commas. -/
def listed (texts : List String) : String := ", ".intercalate texts

/-- A text between single quotes. -/
def ticked (text : String) : String := "'" ++ text ++ "'"

/-- The verb for a number of things that were not expected. -/
def unexpected (texts : List String) : String :=
  listed texts ++ if texts.length = 1 then " was unexpected" else " were unexpected"

/-- The text of a cause. -/
def message : Cause → String
  | .falseSchema v => "False schema does not allow " ++ v.compact
  | .notOfType v t => v.compact ++ " is not of type " ++ Json.quote t.name
  | .notOfTypes v ts =>
    v.compact ++ " is not of types "
      ++ listed ((JsonType.all.filter ts.contains).map fun t => Json.quote t.name)
  | .missing name => Json.quote name ++ " is a required property"
  | .notListed v options => v.compact ++ " is not one of " ++ (Json.array options).compact
  | .notConstant expected => expected.compact ++ " was expected"
  | .belowMinimum v limit => v.compact ++ " is less than the minimum of " ++ limit.compact
  | .aboveMaximum v limit => v.compact ++ " is greater than the maximum of " ++ limit.compact
  | .notAboveMinimum v limit =>
    v.compact ++ " is less than or equal to the minimum of " ++ limit.compact
  | .notBelowMaximum v limit =>
    v.compact ++ " is greater than or equal to the maximum of " ++ limit.compact
  | .notMultiple v divisor => v.compact ++ " is not a multiple of " ++ divisor.write .plain
  | .tooShort v n => v.compact ++ " is shorter than " ++ counted n "character" "characters"
  | .tooLong v n => v.compact ++ " is longer than " ++ counted n "character" "characters"
  | .tooFewItems v n => v.compact ++ " has less than " ++ counted n "item" "items"
  | .tooManyItems v n => v.compact ++ " has more than " ++ counted n "item" "items"
  | .tooFewProperties v n => v.compact ++ " has less than " ++ counted n "property" "properties"
  | .tooManyProperties v n => v.compact ++ " has more than " ++ counted n "property" "properties"
  | .repeatedItems v => v.compact ++ " has non-unique elements"
  | .noMatch v pattern => v.compact ++ " does not match \"" ++ pattern ++ "\""
  | .undecidedPattern =>
    "Error executing regex: Max limit for backtracking count exceeded"
  | .badFormat v format => v.compact ++ " is not a \"" ++ format ++ "\""
  | .additionalProperties names =>
    "Additional properties are not allowed (" ++ unexpected (names.map ticked) ++ ")"
  | .additionalItems items =>
    "Additional items are not allowed (" ++ unexpected (items.map Json.compact) ++ ")"
  | .unevaluatedProperties names =>
    "Unevaluated properties are not allowed (" ++ unexpected (names.map ticked) ++ ")"
  | .unevaluatedItems items =>
    "Unevaluated items are not allowed (" ++ unexpected (items.map fun v => ticked v.compact) ++ ")"
  | .noneOfAny v =>
    v.compact ++ " is not valid under any of the schemas listed in the 'anyOf' keyword"
  | .noneOfOne v =>
    v.compact ++ " is not valid under any of the schemas listed in the 'oneOf' keyword"
  | .severalOfOne v =>
    v.compact ++ " is valid under more than one of the schemas listed in the 'oneOf' keyword"
  | .forbidden v schema => schema.compact ++ " is not allowed for " ++ v.compact
  | .nothingContained v => "None of " ++ v.compact ++ " are valid under the given schema"
  | .propertyName inner => inner.message
  | .badEncoding v encoding =>
    v.compact ++ " is not compliant with \"" ++ encoding ++ "\" content encoding"
  | .badMediaType v mediaType =>
    v.compact ++ " is not compliant with \"" ++ mediaType ++ "\" media type"
  | .notText fault => fault.message

end Cause

/-- A cause and the place, inside the value that was checked, of the value at fault. -/
structure Violation where
  /-- The place of the value at fault. -/
  path : Pointer
  /-- Why it is refused. -/
  cause : Cause
  deriving Inhabited

namespace Violation

/-- A violation by the value itself. -/
def here (cause : Cause) : Violation := ⟨[], cause⟩

/-- A violation inside the value of a property, seen from the object. -/
def under (name : String) (v : Violation) : Violation := { v with path := name :: v.path }

/-- A violation inside an item, seen from the array. -/
def atIndex (index : Nat) (v : Violation) : Violation := v.under (toString index)

/-- The place at which a violation is reported. Content that is no text has none: what decodes it
does not know where the content stands. -/
def reportedPath (v : Violation) : Pointer :=
  match v.cause with
  | .notText _ => []
  | _ => v.path

end Violation

end SchemaGate
