import SchemaGate.Text.Hex

/-!
# `SchemaGate.Format.Template`: URI templates and pointers as text

URI templates with their expressions between braces, JSON pointers, and relative JSON pointers.
-/

set_option autoImplicit false

namespace SchemaGate.Format

/-! ### Pointers -/

/-- Segments after a slash in which every `~` is followed by `0` or `1`. -/
def isPointerTail : List Char → Bool
  | [] => true
  | '~' :: rest =>
    match rest with
    | c :: rest => (c == '0' || c == '1') && isPointerTail rest
    | [] => false
  | _ :: rest => isPointerTail rest

/-- The empty text, or segments that each follow a slash. -/
def isJsonPointer : List Char → Bool
  | [] => true
  | c :: rest => c == '/' && isPointerTail rest

/-- A number without leading zeros, followed by `#` or by a pointer. -/
def isRelativeJsonPointer (cs : List Char) : Bool :=
  let digits := cs.takeWhile Char.isDigit
  let rest := cs.drop digits.length
  !digits.isEmpty && (digits.length == 1 || digits.head? != some '0')
    && (rest == ['#'] || isJsonPointer rest)

/-! ### Templates -/

/-- A hexadecimal digit in lower case. -/
def isLowerHex (c : Char) : Bool := c.isDigit || ('a' ≤ c && c ≤ 'f')

/-- What follows the name of a variable, which has at least one character; `started` says that
one was read. -/
def afterVariable? (started : Bool) : List Char → Option (List Char)
  | '%' :: a :: b :: rest =>
    if isLowerHex a && isLowerHex b then afterVariable? true rest
    else if started then some ('%' :: a :: b :: rest) else none
  | c :: rest =>
    if c.isDigit || c.isLower || c == '_' then afterVariable? true rest
    else if started then some (c :: rest) else none
  | [] => if started then some [] else none

/-- What follows the modifier of a variable: a length of one to four digits, a star, or nothing. -/
def afterModifier? : List Char → Option (List Char)
  | '*' :: rest => some rest
  | ':' :: rest =>
    let digits := (rest.take 4).takeWhile Char.isDigit
    if digits.isEmpty || digits.head? = some '0' then none else some (rest.drop digits.length)
  | rest => some rest

/-- What follows the variables of an expression and its closing brace. The first argument bounds
the number of variables. -/
def afterVariables? : Nat → List Char → Option (List Char)
  | 0, _ => none
  | fuel + 1, cs =>
    match (afterVariable? false cs).bind afterModifier? with
    | some ('}' :: rest) => some rest
    | some (',' :: rest) => afterVariables? fuel rest
    | _ => none

/-- The characters that a template cannot hold outside its expressions. -/
def isTemplateLiteral (c : Char) : Bool :=
  0x20 < c.toNat && !"\"'<>%\\^`\x7b|\x7d".toList.contains c

/-- A template, read with at most the given number of steps. -/
def isTemplateWithin : Nat → List Char → Bool
  | _, [] => true
  | 0, _ => false
  | fuel + 1, '%' :: rest =>
    match rest with
    | a :: b :: rest => isLowerHex a && isLowerHex b && isTemplateWithin fuel rest
    | _ => false
  | fuel + 1, '{' :: rest =>
    let body := match rest with
      | c :: more => if "+#./;?&=,!@|".toList.contains c then more else rest
      | [] => []
    match afterVariables? body.length body with
    | some rest => isTemplateWithin fuel rest
    | none => false
  | fuel + 1, c :: rest => isTemplateLiteral c && isTemplateWithin fuel rest

/-- A URI template. -/
def isUriTemplate (cs : List Char) : Bool := isTemplateWithin cs.length cs

end SchemaGate.Format
