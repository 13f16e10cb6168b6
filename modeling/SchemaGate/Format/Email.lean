import SchemaGate.Format.Address
import SchemaGate.Text.Blank

/-!
# `SchemaGate.Format.Email`: mail addresses

A local part and a domain around the last `@`, with an optional display name before an address in
angle brackets. The local part is a dotted list of atoms or a quoted string; the domain is a host
name or an address in square brackets.
-/

set_option autoImplicit false

namespace SchemaGate.Format

/-- The characters of an atom; all characters beyond ASCII belong to them. -/
def isAtomChar (c : Char) : Bool :=
  c.isAlphanum || "!#$%&'*+-/=?^_`\x7b|\x7d~".toList.contains c || 0x80 ≤ c.toNat

/-- A non-empty run of atom characters. -/
def isAtom (cs : List Char) : Bool := !cs.isEmpty && cs.all isAtomChar

/-- The inside of a quoted local part. -/
def isQuotedContent : List Char → Bool
  | [] => true
  | '\\' :: rest =>
    match rest with
    | c :: rest => 0x21 ≤ c.toNat && c.toNat ≤ 0x7E && isQuotedContent rest
    | [] => false
  | c :: rest =>
    (c == ' ' || c == '\t' || (0x21 ≤ c.toNat && c.toNat ≤ 0x7E && c != '"') || 0x80 ≤ c.toNat)
      && isQuotedContent rest

/-- The number of bytes of a text. -/
def byteLength (cs : List Char) : Nat := cs.foldl (fun n c => n + c.utf8Size) 0

/-- A local part of at most 64 bytes. -/
def isLocalPart (cs : List Char) : Bool :=
  !cs.isEmpty && byteLength cs ≤ 64 &&
    if cs.head? == some '"' && cs.getLast? == some '"' then
      cs.length > 2 && isQuotedContent ((cs.drop 1).dropLast)
    else (cs.splitOn '.').all isAtom

/-- The inside of square brackets: an IPv4 address, or an IPv6 address after its tag. -/
def isAddressLiteral (cs : List Char) : Bool :=
  let tag := "IPv6:".toList
  if tag.isPrefixOf cs then isIpv6 (cs.drop tag.length) else isIpv4 cs

/-- A domain of at most 254 bytes. -/
def isMailDomain (cs : List Char) : Bool :=
  byteLength cs ≤ 254 &&
    if cs.head? == some '[' && cs.getLast? == some ']' && cs.length ≥ 2 then
      isAddressLiteral ((cs.drop 1).dropLast)
    else isHostname cs

/-- The text around the last occurrence of a character. -/
def cutAtLast? (sep : Char) (cs : List Char) : Option (List Char × List Char) :=
  if cs.contains sep then
    let after := (cs.reverse.takeWhile (· != sep)).reverse
    some (cs.take (cs.length - after.length - 1), after)
  else none

/-- A text without the white space at its ends. -/
def trimBlanks (cs : List Char) : List Char :=
  ((cs.dropWhile Text.isBlank).reverse.dropWhile Text.isBlank).reverse

/-- The text after the last ` <`, if there is one. -/
def afterDisplayName? : List Char → Option (List Char)
  | [] => none
  | c :: rest =>
    match afterDisplayName? rest with
    | some address => some address
    | none => if c = ' ' then
        match rest with
        | '<' :: address => some address
        | _ => none
      else none

/-- A mail address. -/
def isEmail (cs : List Char) : Bool :=
  let address? := match afterDisplayName? cs with
    | none => some cs
    | some rest =>
      let rest := trimBlanks rest
      if rest.getLast? = some '>' then some rest.dropLast else none
  match address?.bind (cutAtLast? '@') with
  | some (user, domain) => isLocalPart user && isMailDomain domain
  | none => false

end SchemaGate.Format
