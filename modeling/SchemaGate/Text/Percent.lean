import SchemaGate.Text.Hex
import SchemaGate.Text.Utf8

/-!
# `SchemaGate.Text.Percent`: percent-encoding

Every byte of a text's UTF-8 form that is not an unreserved ASCII character is written as `%` and
two upper-case hexadecimal digits. The reader replaces each such triple by its byte, leaves every
other character as it is, and reads the bytes as UTF-8.
-/

set_option autoImplicit false

namespace SchemaGate.Text.Percent

/-- The characters that stand for themselves: ASCII letters and digits, `-`, `_`, `.` and `~`. -/
def isUnreserved (c : Char) : Bool :=
  ('A' ≤ c && c ≤ 'Z') || ('a' ≤ c && c ≤ 'z') || ('0' ≤ c && c ≤ '9')
    || c == '-' || c == '_' || c == '.' || c == '~'

/-- The written form of one byte. -/
def encodeByte (b : UInt8) : List Char :=
  ['%', hexUpper (b.toNat / 16), hexUpper (b.toNat % 16)]

/-- The written form of one character. -/
def encodeChar (c : Char) : List Char :=
  if isUnreserved c then [c] else (String.utf8EncodeChar c).flatMap encodeByte

/-- The written form of a text. -/
def encode (cs : List Char) : List Char := cs.flatMap encodeChar

/-- The bytes that a written form stands for. A `%` without two digits stands for itself. -/
def decodeBytes : List Char → List UInt8
  | [] => []
  | '%' :: a :: b :: rest =>
    match hexValue? a, hexValue? b with
    | some a, some b => UInt8.ofNat (a * 16 + b) :: decodeBytes rest
    | _, _ => String.utf8EncodeChar '%' ++ decodeBytes (a :: b :: rest)
  | c :: rest => String.utf8EncodeChar c ++ decodeBytes rest

/-- The text that a written form stands for, if its bytes are UTF-8. -/
def decode? (cs : List Char) : Option (List Char) :=
  (Utf8.decode (decodeBytes cs)).toOption

end SchemaGate.Text.Percent
