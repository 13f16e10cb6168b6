import SchemaGate.Text.Hex

/-!
# `SchemaGate.Format.Address`: network addresses in text form

Dotted IPv4 addresses, IPv6 addresses, and host names by their labels.
-/

set_option autoImplicit false

namespace SchemaGate.Format

/-- The value of a decimal number of one to three digits below 256 that has no leading zero. -/
def octet? (cs : List Char) : Option Nat :=
  if cs.isEmpty || cs.length > 3 || !cs.all Char.isDigit || (cs.length > 1 && cs.head? == some '0')
  then none
  else
    let n := cs.foldl (fun n c => n * 10 + (c.toNat - '0'.toNat)) 0
    if n < 256 then some n else none

/-- Four octets between points. -/
def isIpv4 (cs : List Char) : Bool :=
  let parts := cs.splitOn '.'
  parts.length == 4 && parts.all fun p => (octet? p).isSome

/-- One to four hexadecimal digits. -/
def isHexGroup (cs : List Char) : Bool :=
  !cs.isEmpty && cs.length ≤ 4 && cs.all fun c => (Text.hexValue? c).isSome

/-- The number of 16-bit groups that a colon-separated list stands for. A dotted IPv4 address may
stand at its end, where `dotted` allows it, for two of them. -/
def groupCount? (dotted : Bool) : List (List Char) → Option Nat
  | [] => some 0
  | [last] =>
    if isHexGroup last then some 1
    else if dotted && isIpv4 last then some 2
    else none
  | g :: rest => if isHexGroup g then (groupCount? dotted rest).map (· + 1) else none

/-- The places at which a text can be cut around two adjacent colons. -/
def doubleColonCuts : List Char → List (List Char × List Char)
  | ':' :: ':' :: rest =>
    ([], rest) :: (doubleColonCuts (':' :: rest)).map fun (a, b) => (':' :: a, b)
  | c :: rest => (doubleColonCuts rest).map fun (a, b) => (c :: a, b)
  | [] => []

/-- The groups of one side of a double colon; an empty side has none. -/
def sideCount? (dotted : Bool) (side : List Char) : Option Nat :=
  if side.isEmpty then some 0 else groupCount? dotted (side.splitOn ':')

/-- Eight groups between colons, or fewer with one double colon in place of at least one group. -/
def isIpv6 (cs : List Char) : Bool :=
  groupCount? true (cs.splitOn ':') == some 8 ||
  (doubleColonCuts cs).any fun (left, right) =>
    match sideCount? false left, sideCount? true right with
    | some a, some b => a + b ≤ 7
    | _, _ => false

/-- A host label: 1 to 63 ASCII letters, digits and hyphens, with no hyphen at either end. -/
def isHostLabel (cs : List Char) : Bool :=
  !cs.isEmpty && cs.length ≤ 63 && cs.head? != some '-' && cs.getLast? != some '-'
    && cs.all fun c => c.isAlphanum || c == '-'

/-- At most 253 characters of host labels between points. -/
def isHostname (cs : List Char) : Bool :=
  cs.length ≤ 253 && (cs.splitOn '.').all isHostLabel

end SchemaGate.Format
