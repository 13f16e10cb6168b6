import SchemaGate.Format.Basic
import SchemaGate.Json.Parser
import SchemaGate.Schema.Cause
import SchemaGate.Text.Base64

/-!
# `SchemaGate.Schema.Assertion`: rules without sub-schemas

An assertion looks at a value alone. `Assertion.holds` decides it and `Assertion.causes` explains a
refusal; an assertion holds exactly if there is no cause against it.
-/

set_option autoImplicit false

namespace SchemaGate

attribute [local instance] corePow

namespace Json

/-- Whether a value has a type. Under `strict` an integer is a number read as one; otherwise a
number without a fraction is one too. -/
def hasType (strict : Bool) (v : Json) (t : JsonType) : Bool :=
  match t, v with
  | .array, .array _ => true
  | .boolean, .bool _ => true
  | .integer, .number n => if strict then n.isInteger else n.isIntegral
  | .null, .null => true
  | .number, .number _ => true
  | .object, .object _ => true
  | .string, .string _ => true
  | _, _ => false

/-- Whether a value is the constant of a schema. Numbers agree when their nearest binary64 values
lie within `2 ^ -52` of each other; inside containers they have to be equal. -/
def isConstant (expected v : Json) : Bool :=
  match expected, v with
  | .number a, .number b => a.toBinary64.distance b.toBinary64 < Binary64.epsilonRank
  | expected, v => expected.equal v

/-- Whether all items of a list differ as values. -/
def allDistinct : List Json → Bool
  | [] => true
  | v :: rest => !rest.any v.equal && allDistinct rest

end Json

namespace Number

/-- Whether a number is a multiple of a divisor. A divisor without a fraction divides only numbers
without one; otherwise the fraction of the quotient, which carries its sign, must be below
`2 ^ -52`. A quotient beyond the finite numbers is taken exactly. -/
def isMultiple (divisor n : Number) : Bool :=
  let d := divisor.toBinary64
  let x := n.toBinary64
  let exact := fun _ : Unit =>
    let (a, p) := x.toDyadic
    let (b, q) := d.toDyadic
    let low := min p q
    b != 0 && a * 2 ^ (p - low).toNat % (b * 2 ^ (q - low).toNat) == 0
  if d.isIntegral then x.isIntegral && exact ()
  else
    match x.divide? d with
    | some quotient => quotient.remainderBelowEpsilon
    | none => exact ()

end Number

/-- A rule that looks at a value alone. -/
inductive Assertion
  /-- The value has one of the types. Under `strict` only numbers read as integers are such. -/
  | type (strict : Bool) (types : List JsonType)
  | required (names : List String)
  | enum (options : List Json)
  | const (expected : Json)
  | minimum (limit : Number)
  | maximum (limit : Number)
  | exclusiveMinimum (limit : Number)
  | exclusiveMaximum (limit : Number)
  | multipleOf (divisor : Number)
  | minLength (limit : Nat)
  | maxLength (limit : Nat)
  | minItems (limit : Nat)
  | maxItems (limit : Nat)
  | minProperties (limit : Nat)
  | maxProperties (limit : Nat)
  | uniqueItems
  | pattern (text : String) (regex : Regex)
  | format (format : Format)
  /-- Strings are base64. -/
  | encoded
  /-- Strings are JSON texts. -/
  | json
  /-- Strings are base64 of JSON texts. -/
  | encodedJson

namespace Assertion

/-- The name of the content encoding that is checked. -/
def base64Name : String := "base64"

/-- The name of the media type that is checked. -/
def jsonName : String := "application/json"

/-- How deep the containers of a JSON text inside a string may be nested. -/
def contentDepth : Nat := 127

/-- Whether a text is a JSON text. -/
def isJsonText (text : String) : Bool := (Json.parseWithin? contentDepth text).isSome

/-- Whether an assertion holds of a value. -/
def holds (a : Assertion) (v : Json) : Bool :=
  match a, v with
  | .type strict types, v => types.any (v.hasType strict)
  | .required names, .object members => names.all (Members.has members)
  | .enum options, v => options.any v.equal
  | .const expected, v => expected.isConstant v
  | .minimum limit, .number n => !n.less limit
  | .maximum limit, .number n => !limit.less n
  | .exclusiveMinimum limit, .number n => limit.less n
  | .exclusiveMaximum limit, .number n => n.less limit
  | .multipleOf divisor, .number n => divisor.isMultiple n
  | .minLength limit, .string s => limit ≤ s.length
  | .maxLength limit, .string s => s.length ≤ limit
  | .minItems limit, .array items => limit ≤ items.length
  | .maxItems limit, .array items => items.length ≤ limit
  | .minProperties limit, .object members => limit ≤ members.length
  | .maxProperties limit, .object members => members.length ≤ limit
  | .uniqueItems, .array items => Json.allDistinct items
  | .pattern _ regex, .string s => regex.search s == .found
  | .format f, .string s => f.holds s
  | .encoded, .string s => (Text.Base64.decode? s.toList).isSome
  | .json, .string s => isJsonText s
  | .encodedJson, .string s =>
    match Text.Base64.decode? s.toList with
    | none => false
    | some bytes =>
      match Text.Utf8.decode bytes with
      | .error _ => false
      | .ok text => isJsonText (String.ofList text)
  | _, _ => true

/-- The cause against a string that is to be base64 of a JSON text. -/
def encodedJsonCause (v : Json) (s : String) : Cause :=
  match Text.Base64.decode? s.toList with
  | none => .badEncoding v base64Name
  | some bytes =>
    match Text.Utf8.decode bytes with
    | .error fault => .notText fault
    | .ok _ => .badMediaType v jsonName

/-- The cause against a value of which an assertion does not hold; of missing names, the first. -/
def cause (a : Assertion) (v : Json) : Cause :=
  match a with
  | .type _ [t] => .notOfType v t
  | .type _ types => .notOfTypes v types
  | .required names => .missing (names.headD "")
  | .enum options => .notListed v options
  | .const expected => .notConstant expected
  | .minimum limit => .belowMinimum v (.number limit)
  | .maximum limit => .aboveMaximum v (.number limit)
  | .exclusiveMinimum limit => .notAboveMinimum v (.number limit)
  | .exclusiveMaximum limit => .notBelowMaximum v (.number limit)
  | .multipleOf divisor => .notMultiple v divisor.toBinary64
  | .minLength limit => .tooShort v limit
  | .maxLength limit => .tooLong v limit
  | .minItems limit => .tooFewItems v limit
  | .maxItems limit => .tooManyItems v limit
  | .minProperties limit => .tooFewProperties v limit
  | .maxProperties limit => .tooManyProperties v limit
  | .uniqueItems => .repeatedItems v
  | .pattern text regex =>
    match v with
    | .string s => if regex.search s = .exhausted then .undecidedPattern else .noMatch v text
    | _ => .noMatch v text
  | .format f => .badFormat v f.name
  | .encoded => .badEncoding v base64Name
  | .json => .badMediaType v jsonName
  | .encodedJson =>
    match v with
    | .string s => encodedJsonCause v s
    | _ => .badMediaType v jsonName

/-- The causes against a value: one for every missing name, else one if the assertion does not
hold. -/
def causes (a : Assertion) (v : Json) : List Cause :=
  match a, v with
  | .required names, .object members =>
    (names.filter fun name => !Members.has members name).map .missing
  | a, v => if a.holds v then [] else [a.cause v]

/-- An assertion holds exactly if there is no cause against it. -/
theorem causes_isEmpty (a : Assertion) (v : Json) : (a.causes v).isEmpty = a.holds v := by
  unfold causes
  split
  · next names members =>
    induction names with
    | nil => rfl
    | cons name rest ih =>
      by_cases h : Members.has members name <;> simp_all [holds]
  · by_cases h : a.holds v <;> simp [h]

end Assertion

end SchemaGate
