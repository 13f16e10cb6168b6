import SchemaGate.Decode.Basic

/-!
# `SchemaGate.Decode.Target`: the types that validated values are read as

A validated value can be handed on as a value of one of a few types. `Target.decode` reads it, and
the result is shown as JSON again: floats for the numbers read as such, the name of a variant.
-/

set_option autoImplicit false

namespace SchemaGate

/-- A point with a label. -/
structure Point where
  /-- The first coordinate. -/
  x : Int
  /-- The second coordinate. -/
  y : Int
  /-- The label, if there is one. -/
  label : Option String
  deriving DecidableEq, Repr

/-- A state of activity. -/
inductive Status
  | active
  | inactive
  deriving DecidableEq, Repr

namespace Decode

/-- The fields of a point that were read so far. -/
structure PointParts where
  /-- The first coordinate. -/
  x : Option Int
  /-- The second coordinate. -/
  y : Option Int
  /-- The label. -/
  label : Option String

/-- One field of a point. -/
def pointField (field : String) (v : Json) (p : PointParts) : Except DecodeFault PointParts :=
  match field with
  | "x" => do return { p with x := some (← int64 v) }
  | "y" => do return { p with y := some (← int64 v) }
  | _ => do return { p with label := ← optional string v }

/-- A point. Both coordinates have to be given; a list has to give the label too. -/
def point : Decoder Point := fun v => do
  let p ← record "Point" ["x", "y", "label"] pointField ⟨none, none, none⟩ v
  if let .array items := v then
    if items.length < 3 then throw (.tooFewFields items.length "Point" 3)
  match p.x, p.y with
  | some x, some y => return ⟨x, y, p.label⟩
  | none, _ => throw (.missingField "x")
  | _, none => throw (.missingField "y")

/-- The variant of a name. -/
def statusName (name : String) : Except DecodeFault Status :=
  match name with
  | "active" => .ok .active
  | "inactive" => .ok .inactive
  | name => .error (.unknownVariant name ["active", "inactive"])

/-- A status: its name, or an object whose one member has that name and the value `null`. -/
def status : Decoder Status
  | .string name => statusName name
  | .object [(name, v)] => do
    let s ← statusName name
    match v with
    | .null => return s
    | v => throw (.wrongType v "unit")
  | .object _ => .error .notSingle
  | v => .error (.wrongType v "string or map")

end Decode

/-- A type that validated values are read as. -/
inductive Target
  | value
  | uint8
  | int64
  | float
  | bool
  | string
  | optionalString
  | stringList
  | integerMap
  | point
  | status
  deriving DecidableEq, Repr

namespace Target

/-- An integer of at most 64 bits as JSON. -/
def integerJson (n : Int) : Json := .number ((Number.ofInt? n).getD .zero)

/-- A text that may be absent as JSON. -/
def optionalJson : Option String → Json
  | none => .null
  | some s => .string s

/-- A point as JSON. -/
def pointJson (p : Point) : Json :=
  .object [("label", optionalJson p.label), ("x", integerJson p.x), ("y", integerJson p.y)]

/-- A status as JSON, by the name of its variant. -/
def statusJson : Status → Json
  | .active => .string "Active"
  | .inactive => .string "Inactive"

/-- A value read as a type and shown as JSON again. -/
def decode (t : Target) (v : Json) : Except DecodeFault Json :=
  match t with
  | .value => .ok v
  | .uint8 => do return integerJson (← Decode.uint8 v)
  | .int64 => do return integerJson (← Decode.int64 v)
  | .float => do return .number (.float (← Decode.float v))
  | .bool => do return .bool (← Decode.bool v)
  | .string => do return .string (← Decode.string v)
  | .optionalString => do return optionalJson (← Decode.optional Decode.string v)
  | .stringList => do return .array ((← Decode.list Decode.string v).map .string)
  | .integerMap => do
    return .object ((← Decode.map Decode.int64 v).map fun (name, n) => (name, integerJson n))
  | .point => do return pointJson (← Decode.point v)
  | .status => do return statusJson (← Decode.status v)

end Target

end SchemaGate
