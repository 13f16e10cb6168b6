import SchemaGate.Json.Basic
import SchemaGate.Text.Hex

/-!
# `SchemaGate.Json.Printer`: JSON text

Two forms: compact, without any blank, and pretty, with every item and member on a line of its own
indented by two blanks a level, a blank after each colon, and empty containers kept closed.

Strings escape the quote, the backslash and the characters below U+0020 (`\b`, `\t`, `\n`, `\f`,
`\r` by letter, the others as `\u00xx`); every other character is written as itself. The text of a
string therefore never holds a line break.
-/

set_option autoImplicit false

namespace SchemaGate.Json

/-- The escaped form of one character of a string. -/
def escapeChar (c : Char) : List Char :=
  if c = '"' then ['\\', '"']
  else if c = '\\' then ['\\', '\\']
  else if c = '\n' then ['\\', 'n']
  else if c = '\r' then ['\\', 'r']
  else if c = '\t' then ['\\', 't']
  else if c = '\x08' then ['\\', 'b']
  else if c = '\x0c' then ['\\', 'f']
  else if c.toNat < 0x20 then
    ['\\', 'u', '0', '0', Text.hexLower (c.toNat / 16), Text.hexLower (c.toNat % 16)]
  else [c]

/-- A string between quotes. -/
def quoted (s : String) : List Char := '"' :: s.toList.flatMap escapeChar ++ ['"']

/-- A string between quotes, as a string. -/
def quote (s : String) : String := String.ofList (quoted s)

mutual

/-- The characters of the compact form. -/
def compactChars : Json → List Char
  | .null => "null".toList
  | .bool b => (if b then "true" else "false").toList
  | .number n => n.write.toList
  | .string s => quoted s
  | .array [] => ['[', ']']
  | .array (v :: rest) => '[' :: v.compactChars ++ compactItems rest
  | .object [] => ['{', '}']
  | .object ((name, v) :: rest) =>
    '{' :: quoted name ++ ':' :: v.compactChars ++ compactMembers rest

/-- The items after the first, and the closing bracket. -/
def compactItems : List Json → List Char
  | [] => [']']
  | v :: rest => ',' :: v.compactChars ++ compactItems rest

/-- The members after the first, and the closing brace. -/
def compactMembers : List (String × Json) → List Char
  | [] => ['}']
  | (name, v) :: rest => ',' :: quoted name ++ ':' :: v.compactChars ++ compactMembers rest

end

/-- A line break and the indentation of a level. -/
def newline (level : Nat) : List Char := '\n' :: List.replicate (2 * level) ' '

mutual

/-- The characters of the pretty form of a value that stands at a level of indentation. -/
def prettyChars (level : Nat) : Json → List Char
  | .null => "null".toList
  | .bool b => (if b then "true" else "false").toList
  | .number n => n.write.toList
  | .string s => quoted s
  | .array [] => ['[', ']']
  | .array (v :: rest) =>
    '[' :: newline (level + 1) ++ prettyChars (level + 1) v ++ prettyItems level rest
  | .object [] => ['{', '}']
  | .object ((name, v) :: rest) =>
    '{' :: newline (level + 1) ++ quoted name ++ ':' :: ' ' :: prettyChars (level + 1) v
      ++ prettyMembers level rest

/-- The items after the first of an array at a level, and its closing bracket. -/
def prettyItems (level : Nat) : List Json → List Char
  | [] => newline level ++ [']']
  | v :: rest => ',' :: newline (level + 1) ++ prettyChars (level + 1) v ++ prettyItems level rest

/-- The members after the first of an object at a level, and its closing brace. -/
def prettyMembers (level : Nat) : List (String × Json) → List Char
  | [] => newline level ++ ['}']
  | (name, v) :: rest =>
    ',' :: newline (level + 1) ++ quoted name ++ ':' :: ' ' :: prettyChars (level + 1) v
      ++ prettyMembers level rest

end

/-- The compact form, members in the order they have. -/
def compact (v : Json) : String := String.ofList v.compactChars

/-- The pretty form, members in the order they have. -/
def pretty (v : Json) : String := String.ofList (prettyChars 0 v)

/-- The compact form with members in order of their names, so that equal values have equal
texts. -/
def stableCompact (v : Json) : String := v.sortKeys.compact

/-- The pretty form with members in order of their names. -/
def stablePretty (v : Json) : String := v.sortKeys.pretty

end SchemaGate.Json
