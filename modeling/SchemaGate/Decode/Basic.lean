import SchemaGate.Json.Basic
import SchemaGate.Text.Debug

/-!
# `SchemaGate.Decode.Basic`: typed values from JSON

A decoder reads a value of a type from JSON or says what it found instead. The members of an object
are read in order, so the first member that does not fit is the one reported. A record may also be
given as the list of its fields.
-/

set_option autoImplicit false

namespace SchemaGate

attribute [local instance] corePow

/-- Why a JSON value is not one of a type. -/
inductive DecodeFault
  /-- A value of another kind was expected. -/
  | wrongType (found : Json) (expected : String)
  /-- An integer is too large or too small. -/
  | outOfRange (found : Int) (expected : String)
  /-- A field that has no default is absent. -/
  | missingField (name : String)
  /-- A list gives fewer fields than a record has. -/
  | tooFewFields (count : Nat) (record : String) (fields : Nat)
  /-- A list gives more fields than a record has. -/
  | tooManyFields (count : Nat)
  /-- No variant has this name. -/
  | unknownVariant (found : String) (known : List String)
  /-- A variant is given by an object that has not exactly one member. -/
  | notSingle
  deriving Inhabited

namespace DecodeFault

/-- Floats are shown positionally and always with a point. -/
def floatLayout : DecimalLayout := ⟨none, none, ".0"⟩

/-- A text between backquotes. -/
def ticked (text : String) : String := "\x60" ++ text ++ "\x60"

/-- What was found. -/
def shown : Json → String
  | .null => "null"
  | .bool b => "boolean " ++ ticked (if b then "true" else "false")
  | .number (.integer n _) => "integer " ++ ticked (toString n)
  | .number (.float x) => "floating point " ++ ticked (x.write floatLayout)
  | .string s => "string " ++ Text.debug s
  | .array _ => "sequence"
  | .object _ => "map"

/-- The text of a fault. -/
def message : DecodeFault → String
  | .wrongType found expected => "invalid type: " ++ shown found ++ ", expected " ++ expected
  | .outOfRange found expected =>
    "invalid value: integer " ++ ticked (toString found) ++ ", expected " ++ expected
  | .missingField name => "missing field " ++ ticked name
  | .tooFewFields count record fields =>
    "invalid length " ++ toString count ++ ", expected struct " ++ record ++ " with "
      ++ toString fields ++ " elements"
  | .tooManyFields count =>
    "invalid length " ++ toString count ++ ", expected fewer elements in array"
  | .unknownVariant found known =>
    "unknown variant " ++ ticked found ++ ", expected " ++ " or ".intercalate (known.map ticked)
  | .notSingle => "invalid value: map, expected map with a single key"

end DecodeFault

/-- A reader of values of a type. -/
abbrev Decoder (α : Type) := Json → Except DecodeFault α

namespace Decode

/-- A boolean. -/
def bool : Decoder Bool
  | .bool b => .ok b
  | v => .error (.wrongType v "a boolean")

/-- A text. -/
def string : Decoder String
  | .string s => .ok s
  | v => .error (.wrongType v "a string")

/-- An integer within bounds. -/
def integer (name : String) (low high : Int) : Decoder Int
  | .number (.integer n _) => if low ≤ n ∧ n ≤ high then .ok n else .error (.outOfRange n name)
  | v => .error (.wrongType v name)

/-- A signed integer of 64 bits. -/
def int64 : Decoder Int := integer "i64" (-2 ^ (63 : Nat)) (2 ^ (63 : Nat) - 1)

/-- An unsigned integer of 8 bits. -/
def uint8 : Decoder Int := integer "u8" 0 255

/-- A number of either form, as a float. -/
def float : Decoder Binary64
  | .number n => .ok n.toBinary64
  | v => .error (.wrongType v "f64")

/-- A list. -/
def list {α : Type} (item : Decoder α) : Decoder (List α)
  | .array items => items.mapM item
  | v => .error (.wrongType v "a sequence")

/-- The members of an object. -/
def map {α : Type} (value : Decoder α) : Decoder (List (String × α))
  | .object members => members.mapM fun (name, v) => do return (name, ← value v)
  | v => .error (.wrongType v "a map")

/-- A value that may be absent, which `null` says. -/
def optional {α : Type} (value : Decoder α) : Decoder (Option α)
  | .null => .ok none
  | v => do return some (← value v)

/-- A record read field by field into a start value. Members of other names are left out, and fields
that are not given stay as they are. -/
def record {α : Type} (name : String) (fields : List String)
    (read : String → Json → α → Except DecodeFault α) (start : α) : Decoder α
  | .object members =>
    members.foldlM (fun r (field, v) => if fields.contains field then read field v r else .ok r)
      start
  | .array items => do
    let r ← (fields.zip items).foldlM (fun r (field, v) => read field v r) start
    if items.length ≤ fields.length then return r else throw (.tooManyFields items.length)
  | v => .error (.wrongType v ("struct " ++ name))

end Decode

end SchemaGate
