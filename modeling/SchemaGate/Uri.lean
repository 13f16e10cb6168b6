import SchemaGate.Format.Address
import SchemaGate.Text.Percent

/-!
# `SchemaGate.Uri`: URI references

References after RFC 3986: their components, the characters that each component admits, resolution
against a base, and the syntax-based normal form. Identifiers and references of schemas are
compared in that form, with their fragments apart.
-/

set_option autoImplicit false

namespace SchemaGate

/-- A URI reference by its components, as lists of characters, still percent-encoded. -/
structure Uri where
  /-- The scheme, absent in a relative reference. -/
  scheme : Option (List Char)
  /-- What follows `//`: user, host and service number. -/
  authority : Option (List Char)
  /-- The path, possibly empty. -/
  path : List Char
  /-- What follows `?`. -/
  query : Option (List Char)
  /-- What follows `#`. -/
  fragment : Option (List Char)
  deriving DecidableEq, Repr, Inhabited

/-- Why a text is not a URI reference. The number counts the bytes in front of the fault. -/
inductive UriFault
  | unexpectedCharacter (index : Nat)
  | badOctet (index : Nat)
  | badAddress (index : Nat)
  deriving DecidableEq, Repr

/-- The text of a fault. -/
def UriFault.message : UriFault → String
  | .unexpectedCharacter i => s!"unexpected character at index {i}"
  | .badOctet i => s!"invalid percent-encoded octet at index {i}"
  | .badAddress i => s!"invalid IPv6 address at index {i}"

namespace Uri

/-! ### Reading -/

/-- The delimiters that have no meaning of their own inside a component. -/
def isSubDelimiter (c : Char) : Bool :=
  c == '!' || c == '$' || c == '&' || c == '\'' || c == '(' || c == ')' || c == '*' || c == '+'
    || c == ',' || c == ';' || c == '='

/-- The characters of a user or a host name. -/
def isNameChar (c : Char) : Bool := Text.Percent.isUnreserved c || isSubDelimiter c

/-- The characters of a path segment. -/
def isSegmentChar (c : Char) : Bool := isNameChar c || c == ':' || c == '@'

/-- The characters of a query or a fragment. -/
def isQueryChar (c : Char) : Bool := isSegmentChar c || c == '/' || c == '?'

/-- The number of bytes of a text. -/
def byteCount (cs : List Char) : Nat := cs.foldl (fun n c => n + c.utf8Size) 0

/-- The first fault of a component that starts at an index. -/
def check (allowed : Char → Bool) (index : Nat) : List Char → Except UriFault Unit
  | [] => .ok ()
  | '%' :: rest =>
    match rest with
    | a :: b :: rest =>
      if (Text.hexValue? a).isSome && (Text.hexValue? b).isSome then check allowed (index + 3) rest
      else .error (.badOctet index)
    | _ => .error (.badOctet index)
  | c :: rest =>
    if allowed c then check allowed (index + 1) rest else .error (.unexpectedCharacter index)

/-- A scheme: a letter, then letters, digits, `+`, `-` and `.`. -/
def isScheme : List Char → Bool
  | [] => false
  | c :: rest => c.isAlpha && rest.all fun c => c.isAlphanum || c == '+' || c == '-' || c == '.'

/-- The first fault of a host and its service number. -/
def checkHost (index : Nat) (cs : List Char) : Except UriFault Unit :=
  match cs with
  | '[' :: rest =>
    let inner := rest.takeWhile (· != ']')
    let after := rest.dropWhile (· != ']')
    match after with
    | ']' :: service => do
      let future := match inner with
        | v :: more =>
          (v == 'v' || v == 'V') &&
            (match more.dropWhile fun c => (Text.hexValue? c).isSome with
              | '.' :: name => more.head? != some '.' && !name.isEmpty
                  && name.all fun c => isNameChar c || c == ':'
              | _ => false)
        | [] => false
      if Format.isIpv6 inner || future then pure () else throw (.badAddress (index + 1))
      let start := index + inner.length + 2
      match service with
      | [] => pure ()
      | ':' :: digits => check Char.isDigit (start + 1) digits
      | _ => throw (.unexpectedCharacter start)
    | _ => .error (.badAddress (index + 1))
  | _ =>
    let host := cs.takeWhile (· != ':')
    let service := cs.dropWhile (· != ':')
    do
      check isNameChar index host
      check Char.isDigit (index + byteCount host + 1) (service.drop 1)

/-- The first fault of an authority. -/
def checkAuthority (index : Nat) (cs : List Char) : Except UriFault Unit :=
  if cs.contains '@' then do
    let user := cs.takeWhile (· != '@')
    check (fun c => isNameChar c || c == ':') index user
    checkHost (index + byteCount user + 1) ((cs.dropWhile (· != '@')).drop 1)
  else checkHost index cs

/-- A reference by its components. -/
def parse (text : String) : Except UriFault Uri := do
  let cs := text.toList
  let candidate := cs.takeWhile fun c => c != ':' && c != '/' && c != '?' && c != '#'
  let hasScheme := isScheme candidate && cs[candidate.length]? == some ':'
  let start := if hasScheme then candidate.length + 1 else 0
  let rest := cs.drop start
  let isDelimiter := fun c : Char => c == '/' || c == '?' || c == '#'
  let (authority, pathStart, rest) := match rest with
    | '/' :: '/' :: more =>
      let a := more.takeWhile (!isDelimiter ·)
      (some a, start + 2 + byteCount a, more.dropWhile (!isDelimiter ·))
    | _ => (none, start, rest)
  if let some a := authority then checkAuthority (start + 2) a
  let path := rest.takeWhile fun c => c != '?' && c != '#'
  -- A colon in the first segment of a relative path would read as the end of a scheme.
  let first := path.takeWhile (· != '/')
  if hasScheme || authority.isSome then check (fun c => isSegmentChar c || c == '/') pathStart path
  else do
    check (fun c => isSegmentChar c && c != ':') pathStart first
    check (fun c => isSegmentChar c || c == '/') (pathStart + first.length) (path.drop first.length)
  let rest := rest.drop path.length
  let queryStart := pathStart + byteCount path + 1
  let (query, rest, fragmentStart) := match rest with
    | '?' :: more =>
      let q := more.takeWhile (· != '#')
      (some q, more.dropWhile (· != '#'), queryStart + byteCount q + 1)
    | _ => (none, rest, queryStart)
  if let some q := query then check isQueryChar queryStart q
  let fragment := match rest with
    | '#' :: f => some f
    | _ => none
  if let some f := fragment then check isQueryChar fragmentStart f
  return {
    scheme := if hasScheme then some candidate else none
    authority := authority
    path := path
    query := query
    fragment := fragment }

/-! ### Writing -/

/-- The text of a reference. -/
def write (u : Uri) : String :=
  String.ofList (
    (match u.scheme with | some s => s ++ [':'] | none => [])
      ++ (match u.authority with | some a => '/' :: '/' :: a | none => [])
      ++ u.path
      ++ (match u.query with | some q => '?' :: q | none => [])
      ++ (match u.fragment with | some f => '#' :: f | none => []))

/-! ### Resolving -/

/-- The segments of a path without `.` and `..`, read against the segments kept so far, last
first. -/
def removeDots (kept : List (List Char)) : List (List Char) → List (List Char)
  | [] => kept.reverse
  | [s] =>
    if s = ['.'] then ([] :: kept).reverse
    else if s = ['.', '.'] then ([] :: kept.drop 1).reverse
    else (s :: kept).reverse
  | s :: rest =>
    if s = ['.'] then removeDots kept rest
    else if s = ['.', '.'] then removeDots (kept.drop 1) rest
    else removeDots (s :: kept) rest

/-- A path without dot segments. -/
def withoutDots (path : List Char) : List Char :=
  match path with
  | '/' :: rest => '/' :: List.intercalate ['/'] (removeDots [] (rest.splitOn '/'))
  | _ => path

/-- The path of a base up to its last slash, followed by a relative path. -/
def mergePath (base : Uri) (path : List Char) : List Char :=
  if base.authority.isSome && base.path.isEmpty then '/' :: path
  else (base.path.reverse.dropWhile (· != '/')).reverse ++ path

/-- Percent-encoding in normal form: upper-case digits, and unreserved characters as themselves. -/
def normalizeEncoding : List Char → List Char
  | '%' :: a :: b :: rest =>
    match Text.hexValue? a, Text.hexValue? b with
    | some x, some y =>
      let c := Char.ofNat (x * 16 + y)
      if Text.Percent.isUnreserved c then c :: normalizeEncoding rest
      else '%' :: Text.hexUpper x :: Text.hexUpper y :: normalizeEncoding rest
    | _, _ => '%' :: normalizeEncoding (a :: b :: rest)
  | c :: rest => c :: normalizeEncoding rest
  | [] => []

/-- The syntax-based normal form: lower-case scheme and host, normal percent-encoding, no dot
segments. -/
def normalize (u : Uri) : Uri :=
  let path := normalizeEncoding u.path
  { scheme := u.scheme.map (·.map Char.toLower)
    authority := u.authority.map fun a => (normalizeEncoding a).map Char.toLower
    path := if u.scheme.isSome then withoutDots path else path
    query := u.query.map normalizeEncoding
    fragment := u.fragment.map normalizeEncoding }

/-- A reference read against a base. -/
def resolve (base ref : Uri) : Uri :=
  if ref.scheme.isSome then { ref with path := withoutDots ref.path }
  else if ref.authority.isSome then { ref with scheme := base.scheme, path := withoutDots ref.path }
  else if ref.path.isEmpty then
    { base with query := ref.query.or base.query, fragment := ref.fragment }
  else
    let path := if ref.path.head? = some '/' then ref.path else mergePath base ref.path
    { base with path := withoutDots path, query := ref.query, fragment := ref.fragment }

end Uri

end SchemaGate
