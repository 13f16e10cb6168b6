import SchemaGate.Number.Basic

/-!
# `SchemaGate.Json.Basic`: JSON values

Objects are lists of members. The reader builds them with `Members.insert`, which keeps the names
in increasing order (code points, which is also the order of their UTF-8 bytes) and lets the last
member of a name win; `Json.sortKeys` gives every object that form. `Json.equal` is equality of
values: numbers by their exact value, objects by their members.
-/

set_option autoImplicit false

namespace SchemaGate

/-- A JSON value. -/
inductive Json
  | null
  | bool (value : Bool)
  | number (value : Number)
  | string (value : String)
  | array (items : List Json)
  | object (members : List (String × Json))
  deriving Inhabited, Repr

/-- The members of an object. -/
abbrev Members := List (String × Json)

namespace Members

/-- A member put in its place by name; it replaces an earlier member of the same name. -/
def insert (name : String) (value : Json) : Members → Members
  | [] => [(name, value)]
  | (n, v) :: rest =>
    if name = n then (name, value) :: rest
    else if name < n then (name, value) :: (n, v) :: rest
    else (n, v) :: insert name value rest

/-- The members in order of their names, the last of each name. -/
def ofList (members : Members) : Members :=
  members.foldl (fun acc (name, value) => insert name value acc) []

/-- The names of the members, in their order. -/
def names (members : Members) : List String := members.map (·.1)

/-- Whether a member of this name is present. -/
def has (members : Members) (name : String) : Bool := (members.lookup name).isSome

end Members

namespace Json

/-! ### Building -/

/-- The object with these members, in order of their names. -/
def ofMembers (members : Members) : Json := .object (Members.ofList members)

/-- A natural number below `2 ^ 64`; larger ones become floats. -/
def ofNat (n : Nat) : Json :=
  .number ((Number.ofInt? n).getD (.float (.ofInt n)))

/-! ### Looking inside -/

/-- The member of this name, if the value is an object that has one. -/
def get? (value : Json) (name : String) : Option Json :=
  match value with
  | .object members => members.lookup name
  | _ => none

/-- The members, if the value is an object. -/
def members? : Json → Option Members
  | .object members => some members
  | _ => none

/-- The text, if the value is a string. -/
def string? : Json → Option String
  | .string s => some s
  | _ => none

/-- Whether the value is an object. -/
def isObject (value : Json) : Bool := value.members?.isSome

mutual

/-- The number of values inside a value, itself included. -/
def size : Json → Nat
  | .array items => 1 + sizeItems items
  | .object members => 1 + sizeMembers members
  | _ => 1

/-- The number of values inside the items of an array. -/
def sizeItems : List Json → Nat
  | [] => 0
  | v :: rest => v.size + sizeItems rest

/-- The number of values inside the members of an object. -/
def sizeMembers : List (String × Json) → Nat
  | [] => 0
  | (_, v) :: rest => v.size + sizeMembers rest

end

mutual

/-- The number of containers around the deepest value. -/
def depth : Json → Nat
  | .array items => 1 + depthItems items
  | .object members => 1 + depthMembers members
  | _ => 0

/-- The depth of the deepest item. -/
def depthItems : List Json → Nat
  | [] => 0
  | v :: rest => max v.depth (depthItems rest)

/-- The depth of the deepest member. -/
def depthMembers : List (String × Json) → Nat
  | [] => 0
  | (_, v) :: rest => max v.depth (depthMembers rest)

end

/-! ### Order of members and equality -/

mutual

/-- The same value with the members of every object in order of their names. -/
def sortKeys : Json → Json
  | .array items => .array (sortItems items)
  | .object members => .object (Members.ofList (sortMembers members))
  | v => v

/-- `sortKeys` on the items of an array. -/
def sortItems : List Json → List Json
  | [] => []
  | v :: rest => v.sortKeys :: sortItems rest

/-- `sortKeys` on the values of an object's members, which stay where they are. -/
def sortMembers : List (String × Json) → List (String × Json)
  | [] => []
  | (name, v) :: rest => (name, v.sortKeys) :: sortMembers rest

end

mutual

/-- Equality of values: numbers by exact value, members by position. -/
def equal : Json → Json → Bool
  | .null, .null => true
  | .bool a, .bool b => a == b
  | .number a, .number b => a.equal b
  | .string a, .string b => a == b
  | .array a, .array b => equalItems a b
  | .object a, .object b => equalMembers a b
  | _, _ => false

/-- Equality of two lists of items. -/
def equalItems : List Json → List Json → Bool
  | [], [] => true
  | a :: as, b :: bs => a.equal b && equalItems as bs
  | _, _ => false

/-- Equality of two lists of members. -/
def equalMembers : List (String × Json) → List (String × Json) → Bool
  | [], [] => true
  | (m, a) :: as, (n, b) :: bs => m == n && a.equal b && equalMembers as bs
  | _, _ => false

end

end Json

end SchemaGate
