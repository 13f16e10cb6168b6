import SchemaGate.Schema.Cause

/-!
# `SchemaGate.Report`: reports of violations

A record gives the keyword, the place and the message of a violation. `errorsText` renders records
for people, with each place written like access to properties: `.items[0]['first name']`.
-/

set_option autoImplicit false

namespace SchemaGate

/-- A reported violation. -/
structure ErrorRecord where
  /-- The keyword whose rule is broken. -/
  keyword : String
  /-- The place of the value at fault, as a JSON pointer. -/
  dataPath : String
  /-- What is wrong. -/
  message : String
  deriving DecidableEq, Repr, Inhabited

/-- The record of a violation. -/
def Violation.record (v : Violation) : ErrorRecord :=
  ⟨v.cause.keyword, v.reportedPath.write, v.cause.message⟩

namespace Report

/-- The keyword of records that only say which branch of a conditional was taken. -/
def conditionalKeyword : String := "if"

/-- The records that say what is wrong. -/
def withoutConditional (records : List ErrorRecord) : List ErrorRecord :=
  records.filter fun r => r.keyword != conditionalKeyword

/-- Whether a segment can be written after a point: an ASCII identifier. -/
def isPlainName : List Char → Bool
  | [] => false
  | c :: rest =>
    (c.isAlpha || c == '_' || c == '$')
      && rest.all fun c => c.isAlphanum || c == '_' || c == '$'

/-- Whether a segment is written as an index. -/
def isIndex (segment : List Char) : Bool := !segment.isEmpty && segment.all Char.isDigit

/-- A segment between single quotes, in which quotes are escaped and nothing else. -/
def quoteSegment (segment : List Char) : List Char :=
  segment.flatMap fun c => if c = '\'' then ['\\', '\''] else [c]

/-- A segment as access to a property. -/
def displaySegment (segment : List Char) : List Char :=
  if isIndex segment then '[' :: segment ++ [']']
  else if isPlainName segment then '.' :: segment
  else '[' :: '\'' :: quoteSegment segment ++ ['\'', ']']

/-- A JSON pointer as access to properties. -/
def displayPath (pointer : String) : String :=
  String.ofList (((Pointer.splitSegments pointer.toList).drop 1).flatMap fun s =>
    displaySegment (Pointer.unescape s))

/-- A record as text; the value that was checked goes by a name. -/
def recordText (name : String) (r : ErrorRecord) : String :=
  name ++ displayPath r.dataPath ++ " " ++ r.message

/-- Records as text. -/
def errorsText (records : List ErrorRecord) (name : String) : String :=
  if records.isEmpty then "No errors" else ", ".intercalate (records.map (recordText name))

/-- A value as text for people. -/
def inspect (v : Json) : String := v.pretty

end Report

end SchemaGate
