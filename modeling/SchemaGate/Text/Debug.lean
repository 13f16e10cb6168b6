import SchemaGate.Text.Printable

/-!
# `SchemaGate.Text.Debug`: text made visible

The form in which a message shows a text whose characters may be invisible: between quotes, with
`"`, `\`, NUL, tab, line feed and carriage return escaped by a backslash, and every character that
does not print, or that would join its neighbour, written as its code point. The single quote
stands for itself.
-/

set_option autoImplicit false

namespace SchemaGate.Text

/-- A code point between braces, in lower-case hexadecimal without leading zeros. -/
def codePointChars (c : Char) : List Char :=
  '\\' :: 'u' :: '{' :: Nat.toDigits 16 c.toNat ++ ['}']

/-- The visible form of one character. -/
def visibleChar (c : Char) : List Char :=
  if c = '"' then ['\\', '"']
  else if c = '\\' then ['\\', '\\']
  else if c = '\x00' then ['\\', '0']
  else if c = '\t' then ['\\', 't']
  else if c = '\n' then ['\\', 'n']
  else if c = '\r' then ['\\', 'r']
  else if isExtender c || !isPrintable c then codePointChars c
  else [c]

/-- The visible form of a text, between quotes. -/
def debug (s : String) : String :=
  String.ofList ('"' :: s.toList.flatMap visibleChar ++ ['"'])

end SchemaGate.Text
