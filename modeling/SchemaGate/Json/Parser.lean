import SchemaGate.Json.Basic
import SchemaGate.Text.Hex

/-!
# `SchemaGate.Json.Parser`: reading JSON text

A reader for the JSON grammar over lists of characters. Each function takes the text and gives
what it read together with the rest. Of several members of one name the last wins; integers that
fit 64 bits stay integers, and `-0` and everything with a point, an exponent or more than 64 bits
becomes a binary64 value; a number beyond the finite values is refused, and so is an escape of half
a surrogate pair.

`parse?` reads a whole text. `parseWithin?` also bounds the nesting of containers.
-/

set_option autoImplicit false

namespace SchemaGate.Json

/-- The text after its leading blanks. -/
def skipBlanks : List Char → List Char
  | [] => []
  | c :: rest =>
    if c = ' ' ∨ c = '\t' ∨ c = '\n' ∨ c = '\r' then skipBlanks rest else c :: rest

/-- The value of four hexadecimal digits. -/
def hexQuad? (a b c d : Char) : Option Nat := do
  let a ← Text.hexValue? a
  let b ← Text.hexValue? b
  let c ← Text.hexValue? c
  let d ← Text.hexValue? d
  return ((a * 16 + b) * 16 + c) * 16 + d

/-- The character that a letter names after a backslash. -/
def escapedChar? (c : Char) : Option Char :=
  match c with
  | '"' => some '"'
  | '\\' => some '\\'
  | '/' => some '/'
  | 'b' => some '\x08'
  | 'f' => some '\x0c'
  | 'n' => some '\n'
  | 'r' => some '\r'
  | 't' => some '\t'
  | _ => none

/-- The rest of a string after its opening quote: its characters and the text after the closing
quote. -/
def readChars : List Char → Option (List Char × List Char)
  | '"' :: rest => some ([], rest)
  | '\\' :: 'u' :: a :: b :: c :: d :: rest => do
    let code ← hexQuad? a b c d
    if 0xDC00 ≤ code ∧ code < 0xE000 then none
    else if 0xD800 ≤ code ∧ code < 0xDC00 then
      -- The first half of a pair: the second half must follow at once.
      match rest with
      | '\\' :: 'u' :: e :: f :: g :: h :: rest =>
        let low ← hexQuad? e f g h
        if 0xDC00 ≤ low ∧ low < 0xE000 then
          let (cs, rest) ← readChars rest
          return (Char.ofNat (0x10000 + (code - 0xD800) * 0x400 + (low - 0xDC00)) :: cs, rest)
        else none
      | _ => none
    else
      let (cs, rest) ← readChars rest
      return (Char.ofNat code :: cs, rest)
  | '\\' :: c :: rest => do
    let c ← escapedChar? c
    let (cs, rest) ← readChars rest
    return (c :: cs, rest)
  | c :: rest =>
    if c.toNat < 0x20 ∨ c = '\\' then none
    else do
      let (cs, rest) ← readChars rest
      return (c :: cs, rest)
  | [] => none
termination_by structural text => text

/-- The value of a run of decimal digits. -/
def digitsValue (ds : List Char) : Nat :=
  ds.foldl (fun n c => n * 10 + (c.toNat - '0'.toNat)) 0

/-- The digits at the front of a text and the text after them. -/
def readDigits (text : List Char) : List Char × List Char :=
  (text.takeWhile Char.isDigit, text.dropWhile Char.isDigit)

/-- A fraction, if a point comes next: its digits, of which there is at least one. -/
def readFraction : List Char → Option (List Char × List Char)
  | '.' :: rest =>
    let (ds, rest) := readDigits rest
    if ds.isEmpty then none else some (ds, rest)
  | text => some ([], text)

/-- An exponent, if its letter comes next. -/
def readExponent : List Char → Option (Option Int × List Char)
  | c :: rest =>
    if c = 'e' ∨ c = 'E' then
      let (negative, rest) := match rest with
        | '-' :: rest => (true, rest)
        | '+' :: rest => (false, rest)
        | rest => (false, rest)
      let (ds, rest) := readDigits rest
      if ds.isEmpty then none
      else
        let n : Int := digitsValue ds
        some (some (if negative then -n else n), rest)
    else some (none, c :: rest)
  | [] => some (none, [])

/-- A number after its sign. -/
def readMagnitude (negative : Bool) (text : List Char) : Option (Number × List Char) := do
  let (whole, rest) := readDigits text
  if whole.isEmpty ∨ (whole.length > 1 ∧ whole.head? = some '0') then none
  else
    let (fraction, rest) ← readFraction rest
    let (exponent, rest) ← readExponent rest
    let plain := fraction.isEmpty && exponent.isNone
    let n := digitsValue whole
    let asInteger :=
      if plain ∧ ¬(negative ∧ n = 0) then Number.ofInt? (if negative then -(n : Int) else n)
      else none
    match asInteger with
    | some value => return (value, rest)
    | none =>
      let x ← Binary64.ofDecimal? negative (digitsValue (whole ++ fraction))
        (exponent.getD 0 - fraction.length)
      return (.float x, rest)

/-- A number. -/
def readNumber : List Char → Option (Number × List Char)
  | '-' :: rest => readMagnitude true rest
  | text => readMagnitude false text

/-- A word that must come next. -/
def readWord (word : List Char) (text : List Char) : Option (List Char) :=
  if word.isPrefixOf text then some (text.drop word.length) else none

mutual

/-- A value, within a number of further container levels. The first argument bounds the number
of steps. -/
def readValue : Nat → Nat → List Char → Option (Json × List Char)
  | 0, _, _ => none
  | fuel + 1, levels, text =>
    match skipBlanks text with
    | 'n' :: rest => (readWord "ull".toList rest).map (.null, ·)
    | 't' :: rest => (readWord "rue".toList rest).map (.bool true, ·)
    | 'f' :: rest => (readWord "alse".toList rest).map (.bool false, ·)
    | '"' :: rest => (readChars rest).map fun (cs, rest) => (.string (String.ofList cs), rest)
    | '[' :: rest =>
      match levels with
      | 0 => none
      | levels + 1 =>
        match skipBlanks rest with
        | ']' :: rest => some (.array [], rest)
        | rest => (readItems fuel levels rest).map fun (items, rest) => (.array items, rest)
    | '{' :: rest =>
      match levels with
      | 0 => none
      | levels + 1 =>
        match skipBlanks rest with
        | '}' :: rest => some (.object [], rest)
        | rest =>
          (readMembers fuel levels rest).map fun (members, rest) => (.ofMembers members, rest)
    | rest => (readNumber rest).map fun (n, rest) => (.number n, rest)

/-- One or more items and the closing bracket. -/
def readItems : Nat → Nat → List Char → Option (List Json × List Char)
  | 0, _, _ => none
  | fuel + 1, levels, text => do
    let (v, rest) ← readValue fuel levels text
    match skipBlanks rest with
    | ',' :: rest =>
      let (items, rest) ← readItems fuel levels rest
      return (v :: items, rest)
    | ']' :: rest => return ([v], rest)
    | _ => none

/-- One or more members and the closing brace. -/
def readMembers : Nat → Nat → List Char → Option (List (String × Json) × List Char)
  | 0, _, _ => none
  | fuel + 1, levels, text =>
    match skipBlanks text with
    | '"' :: rest => do
      let (name, rest) ← readChars rest
      match skipBlanks rest with
      | ':' :: rest =>
        let (v, rest) ← readValue fuel levels rest
        match skipBlanks rest with
        | ',' :: rest =>
          let (members, rest) ← readMembers fuel levels rest
          return ((String.ofList name, v) :: members, rest)
        | '}' :: rest => return ([(String.ofList name, v)], rest)
        | _ => none
      | _ => none
    | _ => none

end

/-- The value of a whole text whose containers nest at most `levels` deep. -/
def parseWithin? (levels : Nat) (text : String) : Option Json := do
  let chars := text.toList
  -- Every step but the last of a container reads a character, and a container ends in one.
  let (v, rest) ← readValue (2 * chars.length + 2) levels chars
  if (skipBlanks rest).isEmpty then some v else none

/-- The value of a whole text. -/
def parse? (text : String) : Option Json := parseWithin? text.toList.length text

end SchemaGate.Json
