/-!
# `SchemaGate.Text.Utf8`: reading UTF-8

A reader of byte sequences as UTF-8. Where the bytes are not UTF-8 it says how many bytes before
the fault are, and how long the faulty sequence is; a sequence that merely stops too early has no
length.
-/

set_option autoImplicit false

namespace SchemaGate.Text

/-- Why bytes are not UTF-8. -/
structure Utf8Fault where
  /-- The number of bytes in front of the fault. -/
  validUpTo : Nat
  /-- The number of bytes that no character starts with; none when the bytes end too early. -/
  length : Option Nat
  deriving DecidableEq, Repr

namespace Utf8

/-- Whether a byte may continue a character. -/
def isTail (b : UInt8) : Bool := 0x80 ≤ b && b ≤ 0xBF

/-- The range of the second byte of a character of three or four bytes, by its first byte. -/
def secondRange (first : UInt8) : UInt8 × UInt8 :=
  if first = 0xE0 then (0xA0, 0xBF)
  else if first = 0xED then (0x80, 0x9F)
  else if first = 0xF0 then (0x90, 0xBF)
  else if first = 0xF4 then (0x80, 0x8F)
  else (0x80, 0xBF)

/-- Whether a byte may be the second one after the given first. -/
def isSecond (first b : UInt8) : Bool :=
  let (low, high) := secondRange first
  low ≤ b && b ≤ high

/-- The six payload bits of a continuing byte. -/
def payload (b : UInt8) : Nat := b.toNat % 64

/-- The characters of a byte sequence that starts `offset` bytes into the whole. -/
def decodeFrom (offset : Nat) : List UInt8 → Except Utf8Fault (List Char)
  | [] => .ok []
  | a :: rest =>
    if a < 0x80 then do
      let cs ← decodeFrom (offset + 1) rest
      return Char.ofNat a.toNat :: cs
    else if 0xC2 ≤ a ∧ a ≤ 0xDF then
      match rest with
      | [] => .error ⟨offset, none⟩
      | b :: rest =>
        if isTail b then do
          let cs ← decodeFrom (offset + 2) rest
          return Char.ofNat (a.toNat % 32 * 64 + payload b) :: cs
        else .error ⟨offset, some 1⟩
    else if 0xE0 ≤ a ∧ a ≤ 0xEF then
      match rest with
      | [] => .error ⟨offset, none⟩
      | b :: rest =>
        if isSecond a b then
          match rest with
          | [] => .error ⟨offset, none⟩
          | c :: rest =>
            if isTail c then do
              let cs ← decodeFrom (offset + 3) rest
              return Char.ofNat ((a.toNat % 16 * 64 + payload b) * 64 + payload c) :: cs
            else .error ⟨offset, some 2⟩
        else .error ⟨offset, some 1⟩
    else if 0xF0 ≤ a ∧ a ≤ 0xF4 then
      match rest with
      | [] => .error ⟨offset, none⟩
      | b :: rest =>
        if isSecond a b then
          match rest with
          | [] => .error ⟨offset, none⟩
          | c :: rest =>
            if isTail c then
              match rest with
              | [] => .error ⟨offset, none⟩
              | d :: rest =>
                if isTail d then do
                  let cs ← decodeFrom (offset + 4) rest
                  let code := ((a.toNat % 8 * 64 + payload b) * 64 + payload c) * 64 + payload d
                  return Char.ofNat code :: cs
                else .error ⟨offset, some 3⟩
            else .error ⟨offset, some 2⟩
        else .error ⟨offset, some 1⟩
    else .error ⟨offset, some 1⟩

/-- The characters of a byte sequence. -/
def decode (bytes : List UInt8) : Except Utf8Fault (List Char) := decodeFrom 0 bytes

/-- The bytes of a text. -/
def encode (cs : List Char) : List UInt8 := cs.flatMap String.utf8EncodeChar

end Utf8

/-- The text of a fault. -/
def Utf8Fault.message (f : Utf8Fault) : String :=
  match f.length with
  | some n => s!"invalid utf-8 sequence of {n} bytes from index {f.validUpTo}"
  | none => s!"incomplete utf-8 byte sequence from index {f.validUpTo}"

end SchemaGate.Text
