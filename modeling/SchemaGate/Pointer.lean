import SchemaGate.Text.Percent
import SchemaGate.Json.Basic

/-!
# `SchemaGate.Pointer`: JSON pointers

A pointer is a list of segments. As text every segment is written after a `/`, with `~` as `~0` and
`/` as `~1`; inside a URI fragment the text of each segment is percent-encoded as well.

`Pointer.write` and `Pointer.fragment` are the two texts. What reads them splits a text with
`Pointer.splitSegments` and goes from a value to the one under a segment with `Pointer.step`, which
says why if there is none.
-/

set_option autoImplicit false

namespace SchemaGate

attribute [local instance] corePow

/-- The segments of a JSON pointer. -/
abbrev Pointer := List String

namespace Pointer

/-- The written form of one character of a segment. -/
def escapeChar (c : Char) : List Char :=
  if c = '~' then ['~', '0'] else if c = '/' then ['~', '1'] else [c]

/-- The written form of a segment. -/
def escape (segment : List Char) : List Char := segment.flatMap escapeChar

/-- The segment of a written form. A `~` before anything but `0` and `1` stands for itself. -/
def unescape : List Char → List Char
  | [] => []
  | '~' :: '0' :: rest => '~' :: unescape rest
  | '~' :: '1' :: rest => '/' :: unescape rest
  | c :: rest => c :: unescape rest

/-- The text of a pointer. -/
def write (p : Pointer) : String :=
  String.ofList (p.flatMap fun s => '/' :: escape s.toList)

/-- The text of a pointer inside a URI fragment. -/
def fragment (p : Pointer) : String :=
  String.ofList (p.flatMap fun s => '/' :: Text.Percent.encode (escape s.toList))

/-- The segments of a text that starts with `/`, its first character left out. -/
def splitSegments (cs : List Char) : List (List Char) := cs.splitOn '/'

/-- What a text has behind its last `/`, or all of it. -/
def lastSegment (text : String) : String :=
  String.ofList ((splitSegments text.toList).getLastD [])

/-- Why a walk along a pointer ends early. -/
inductive Dangling
  /-- There is no such member or item. -/
  | missing
  /-- The segment, as it is written, does not index an array. -/
  | badIndex (segment : String)
  deriving DecidableEq, Repr

/-- The value of an array index as it is written in a pointer: digits after an optional plus sign,
below `2 ^ 64`. -/
def index? (segment : List Char) : Option Nat :=
  let digits := match segment with
    | '+' :: rest => rest
    | cs => cs
  if digits.isEmpty || !digits.all Char.isDigit then none
  else
    let n := digits.foldl (fun n c => n * 10 + (c.toNat - '0'.toNat)) 0
    if n < 2 ^ (64 : Nat) then some n else none

/-- One step of a walk: the value under a segment as it is written. -/
def step (value : Json) (segment : List Char) : Except Dangling Json :=
  match value with
  | .array items =>
    match index? segment with
    | none => .error (.badIndex (String.ofList segment))
    | some i =>
      match items[i]? with
      | some v => .ok v
      | none => .error .missing
  | .object members =>
    match members.lookup (String.ofList (unescape segment)) with
    | some v => .ok v
    | none => .error .missing
  | _ => .error .missing

end Pointer

end SchemaGate
