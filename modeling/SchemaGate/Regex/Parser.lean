import SchemaGate.Regex.Expr
import SchemaGate.Text.Hex

/-!
# `SchemaGate.Regex.Parser`: the text of a pattern

Patterns are read in one of two modes. The plain mode is the one of finite automata: it has no
look-around and no references, its shorthand classes are those of ECMA-262 (`\d` and `\w` are
ASCII), and it refuses every malformed repetition. A pattern that needs more is read again in the
extended mode, which adds look-around, references and atomic groups, knows Unicode shorthand
classes, and takes a brace that opens no repetition for itself.

`Regex.read` says which groups a pattern has, and fails with a `Fault` that tells the two cases
apart: the pattern needs the extended mode, or it is no pattern at all.
-/

set_option autoImplicit false

namespace SchemaGate.Regex

/-- Why a text is not a pattern of a mode. -/
inductive Fault
  | malformed
  /-- The plain mode has no look-around and no references. -/
  | needsExtended
  deriving DecidableEq, Repr

/-- The switches of a pattern. -/
structure Flags where
  /-- Letters match without regard to case. -/
  caseless : Bool := false
  /-- `^` and `$` match at line breaks too. -/
  multiLine : Bool := false
  /-- `.` matches line breaks too. -/
  dotAll : Bool := false
  /-- Repetitions are lazy, and `?` makes them greedy. -/
  swapGreed : Bool := false
  /-- Blanks and comments are left out. -/
  verbose : Bool := false
  deriving DecidableEq, Repr

/-- The state of a reader. -/
structure Reading where
  /-- The mode. -/
  extended : Bool
  /-- The text that is still to be read. -/
  rest : List Char
  /-- The number of groups opened so far. -/
  groups : Nat
  /-- The named groups. -/
  names : List (String × Nat)
  /-- The switches in force. -/
  flags : Flags

/-- A reader of a part of a pattern. -/
abbrev Reader := StateT Reading (Except Fault)

namespace Reader

/-! ### Characters -/

/-- The text is no pattern. -/
def malformed {α : Type} : Reader α := throw .malformed

/-- The text that is still to be read. -/
def rest : Reader (List Char) := return (← get).rest

/-- Leaves out some characters. -/
def skip (n : Nat) : Reader Unit := modify fun s => { s with rest := s.rest.drop n }

/-- The next character. -/
def peek : Reader (Option Char) := return (← rest).head?

/-- The next character, consumed. -/
def next : Reader Char := do
  match ← peek with
  | some c => skip 1; return c
  | none => malformed

/-- Whether a text comes next; it is then consumed. -/
def accept (text : String) : Reader Bool := do
  if text.toList.isPrefixOf (← rest) then skip text.length; return true else return false

/-- Consumes a text that must come next. -/
def expect (text : String) : Reader Unit := do if !(← accept text) then malformed

/-- The characters before the first that fails a test, consumed. -/
def takeWhile (p : Char → Bool) : Reader (List Char) := do
  let word := (← rest).takeWhile p
  skip word.length
  return word

/-- A text without the blanks and comments in front. The first argument bounds their number. -/
def dropBlank (verbose extended : Bool) : Nat → List Char → List Char
  | 0, cs => cs
  | fuel + 1, cs =>
    match cs with
    | '(' :: '?' :: '#' :: more =>
      if extended then dropBlank verbose extended fuel ((more.dropWhile (· != ')')).drop 1) else cs
    | '#' :: more =>
      if verbose then dropBlank verbose extended fuel (more.dropWhile (· != '\n')) else cs
    | c :: more =>
      if verbose && (c == ' ' || c == '\t' || c == '\r' || c == '\n') then
        dropBlank verbose extended fuel more
      else cs
    | [] => []

/-- Leaves out blanks and comments, where they count as such. -/
def skipBlank : Reader Unit := modify fun s =>
  { s with rest := dropBlank s.flags.verbose s.extended s.rest.length s.rest }

/-! ### Sets -/

/-- A set under the switch for case. -/
def fold (set : CharSet) : Reader CharSet :=
  return if (← get).flags.caseless then .folded set else set

/-- The digits of a mode. -/
def digits (extended : Bool) : CharSet := if extended then .decimal else .range '0' '9'

/-- The blanks of a mode. -/
def blanks (extended : Bool) : CharSet :=
  if extended then .blank
  else .ofList [' ', '\t', '\n', '\r', '\x0b', '\x0c', '\u00a0', '\ufeff', '\u2003', '\u2029']

/-- The word characters of ASCII. -/
def asciiWord : CharSet :=
  .union (.union (.range 'a' 'z') (.range 'A' 'Z')) (.union (.range '0' '9') (.single '_'))

/-- The word characters of a mode. -/
def words (extended : Bool) : CharSet := if extended then .word else asciiWord

/-- The hexadecimal digits. -/
def hexDigits : CharSet :=
  .union (.range '0' '9') (.union (.range 'a' 'f') (.range 'A' 'F'))

/-- A set of ASCII characters by its name between colons. -/
def asciiClass? (name : String) : Option CharSet :=
  let letters := CharSet.union (.range 'a' 'z') (.range 'A' 'Z')
  match name with
  | "alnum" => some (.union letters (.range '0' '9'))
  | "alpha" => some letters
  | "ascii" => some (.range '\x00' '\x7f')
  | "blank" => some (.ofList ['\t', ' '])
  | "cntrl" => some (.union (.range '\x00' '\x1f') (.single '\x7f'))
  | "digit" => some (.range '0' '9')
  | "graph" => some (.range '!' '~')
  | "lower" => some (.range 'a' 'z')
  | "print" => some (.range ' ' '~')
  | "punct" => some (.diff (.range '!' '~') (.union letters (.range '0' '9')))
  | "space" => some (.ofList ['\t', '\n', '\x0b', '\x0c', '\r', ' '])
  | "upper" => some (.range 'A' 'Z')
  | "word" => some asciiWord
  | "xdigit" => some hexDigits
  | _ => none

/-- A set by the name of a Unicode property, in which case and separators do not count. -/
def property? (name : List Char) : Option CharSet :=
  let plain := (name.filter fun c => c != '_' && c != '-' && c != ' ').map Char.toLower
  match String.ofList plain with
  | "alphabetic" | "alpha" => some .alphabetic
  | "whitespace" | "wspace" | "space" => some .blank
  | "any" => some (.compl .empty)
  | "ascii" => some (.range '\x00' '\x7f')
  | name => (Text.Category.ofName? name).map .category

/-! ### Escapes -/

/-- What an escape stands for. -/
inductive Escaped
  | literal (c : Char)
  | set (s : CharSet)
  | expr (e : Expr)

/-- The character of a code point. -/
def scalar (n : Nat) : Reader Char := if n.isValidChar then return Char.ofNat n else malformed

/-- The character of hexadecimal digits: a fixed number of them, or any number in braces. -/
def hex (width : Nat) : Reader Char := do
  let value := fun (ds : List Char) =>
    ds.foldl (fun n c => n * 16 + (Text.hexValue? c).getD 0) 0
  let isHex := fun (c : Char) => (Text.hexValue? c).isSome
  if ← accept "\x7b" then
    let ds ← takeWhile isHex
    expect "\x7d"
    if ds.isEmpty then malformed
    scalar (value ds)
  else
    let ds := (← rest).take width
    if ds.length < width || !ds.all isHex then malformed
    skip width
    scalar (value ds)

/-- The set of a property, whose name is one letter or stands in braces. -/
def property (negated : Bool) : Reader CharSet := do
  let name ←
    if ← accept "\x7b" then
      let name ← takeWhile (· != '\x7d')
      expect "\x7d"
      pure name
    else pure [← next]
  let (flip, name) := match name with
    | '^' :: more => (true, more)
    | name => (false, name)
  match property? name with
  | some s => return if negated != flip then .compl s else s
  | none => malformed

/-- A reference to a group by its name or number. -/
def reference (name : String) : Reader Expr := do
  let s ← get
  match s.names.lookup name with
  | some g => return .backref g
  | none =>
    match name.toNat? with
    | some g => if g ≤ s.groups then return .backref g else malformed
    | none => malformed

/-- The escape whose backslash was just read. -/
def escape (length : Nat) : Reader Escaped := do
  let extended := (← get).extended
  let set := fun (s : CharSet) (negated : Bool) =>
    (do return Escaped.set (← fold (if negated then .compl s else s)) : Reader Escaped)
  let c ← next
  if c.isDigit then
    if !extended then throw .needsExtended
    let more ← takeWhile Char.isDigit
    let g := (c :: more).foldl (fun n d => n * 10 + (d.toNat - '0'.toNat)) 0
    if g ≤ (← get).groups && g < length / 2 then return .expr (.backref g) else malformed
  else
    match c with
    | 'd' => set (digits extended) false
    | 'D' => set (digits extended) true
    | 's' => set (blanks extended) false
    | 'S' => set (blanks extended) true
    | 'w' => set (words extended) false
    | 'W' => set (words extended) true
    | 'p' => set (← property false) false
    | 'P' => set (← property true) false
    | 'b' => return .expr (.assert .wordBoundary)
    | 'B' => return .expr (.assert .notWordBoundary)
    | 'A' => return .expr (.assert .textStart)
    | 'z' => return .expr (.assert .textEnd)
    | '<' => return .expr (.assert .wordStart)
    | '>' => return .expr (.assert .wordEnd)
    | 'x' => return .literal (← hex 2)
    | 'u' => return .literal (← hex 4)
    | 'U' => return .literal (← hex 8)
    | 'a' => return .literal '\x07'
    | 'f' => return .literal '\x0c'
    | 't' => return .literal '\t'
    | 'n' => return .literal '\n'
    | 'r' => return .literal '\r'
    | 'v' => return .literal '\x0b'
    | 'c' =>
      let letter ← next
      if !extended && letter.isAlpha then return .literal (Char.ofNat (letter.toNat % 32))
      else malformed
    | 'e' => if extended then return .literal '\x1b' else malformed
    | 'h' => if extended then set hexDigits false else malformed
    | 'H' => if extended then set hexDigits true else malformed
    | 'K' => if extended then return .expr .empty else malformed
    | 'G' => if extended then return .expr (.assert .textStart) else malformed
    | 'k' =>
      if extended && (← accept "<") then
        let name ← takeWhile (· != '>')
        expect ">"
        return .expr (← reference (String.ofList name))
      else malformed
    | c =>
      if c.isAlphanum then malformed
      else if c.toNat < 0x80 || extended then return .literal c
      else malformed

/-! ### Classes -/

/-- The item of a class that comes next: a character or a set. -/
def classItem (length : Nat) : Reader Escaped := do
  let c ← next
  if c = '\\' then
    match ← escape length with
    | .expr _ => malformed
    | item => return item
  else return .literal c

/-- An item of a class, or the range that it opens. -/
def classRange (length : Nat) : Reader CharSet := do
  let low ← classItem length
  let after := (← rest).drop 1
  if (← peek) = some '-' && after.head? != some ']' && after.head? != some '-' then
    skip 1
    match low, ← classItem length with
    | .literal a, .literal b => if a ≤ b then fold (.range a b) else malformed
    | _, _ => malformed
  else
    match low with
    | .literal c => fold (.single c)
    | .set s => return s
    | .expr _ => malformed

/-- The named set of ASCII characters that comes next. -/
def namedClass? (cs : List Char) : Option (CharSet × Nat) :=
  match cs with
  | '[' :: ':' :: more =>
    let (negated, more) := match more with
      | '^' :: more => (true, more)
      | more => (false, more)
    let name := more.takeWhile (· != ':')
    match asciiClass? (String.ofList name), more.drop name.length with
    | some s, ':' :: ']' :: _ =>
      some (if negated then .compl s else s, name.length + 4 + negated.toNat)
    | _, _ => none
  | _ => none

mutual

/-- A class after its opening bracket. The first argument bounds the depth. -/
def classSet (length : Nat) : Nat → Reader CharSet
  | 0 => malformed
  | fuel + 1 => do
    let negated ← accept "^"
    let dashes ← takeWhile (· == '-')
    let bracket ← if dashes.isEmpty then accept "]" else pure false
    let front := CharSet.ofList (dashes.take 1 ++ if bracket then [']'] else [])
    let set ← classItems length fuel none front
    return if negated then .compl set else set

/-- The items of a class and its closing bracket. `pending` is the operation that awaits the set
read so far. -/
def classItems (length : Nat) :
    Nat → Option (CharSet → CharSet) → CharSet → Reader CharSet
  | 0, _, _ => malformed
  | fuel + 1, pending, set => do
    let total := match pending with
      | some op => op set
      | none => set
    if ← accept "]" then return total
    else if ← accept "&&" then classItems length fuel (some (.inter total)) .empty
    else if ← accept "--" then classItems length fuel (some (.diff total)) .empty
    else if ← accept "~~" then classItems length fuel (some (.symmetric total)) .empty
    else
      let item ←
        match namedClass? (← rest) with
        | some (s, n) => do skip n; fold s
        | none => do
          if ← accept "[" then classSet length fuel else classRange length
      classItems length fuel pending (.union set item)

end

/-! ### Expressions -/

/-- The bounds of a repetition in braces, which must be well formed. -/
def bounds? (extended : Bool) (cs : List Char) : Option (Nat × Option Nat × Nat) := do
  let value := fun (ds : List Char) =>
    ds.foldl (fun n d => n * 10 + (d.toNat - '0'.toNat)) 0
  let low := cs.takeWhile Char.isDigit
  if low.isEmpty && !(extended && cs.head? == some ',') then none
  else
    match cs.drop low.length with
    | '\x7d' :: _ => some (value low, some (value low), low.length + 1)
    | ',' :: more =>
      let high := more.takeWhile Char.isDigit
      match more.drop high.length with
      | '\x7d' :: _ =>
        some (value low, if high.isEmpty then none else some (value high),
          low.length + high.length + 2)
      | _ => none
    | _ => none

/-- Whether a repetition may follow an expression. -/
def isRepeatable : Expr → Bool
  | .empty => false
  | .assert _ => false
  | .look _ _ _ => false
  | _ => true

/-- The expression of items in a row. -/
def sequenceOf (items : List Expr) : Expr :=
  match items with
  | [] => .empty
  | [e] => e
  | items => .seq items

/-- A look behind, which needs to know how far to step back: branches of different lengths look
behind one by one. -/
def lookBehind? (negated : Bool) (body : Expr) : Option Expr :=
  if body.isFixed then some (.look true negated body)
  else
    match body with
    | .alt branches =>
      if Expr.allFixed branches then
        let looks := branches.map (.look true negated)
        some (if negated then .seq looks else .alt looks)
      else none
    | _ => none

/-- The switches between `(?` and a colon or a closing parenthesis. The first argument bounds their
number; `any` says that one was read. -/
def switches : Nat → (negated any : Bool) → Reader Unit
  | 0, _, _ => malformed
  | fuel + 1, negated, any => do
    let set := fun (f : Flags → Flags) =>
      (modify fun s => { s with flags := f s.flags } : Reader Unit)
    match ← peek with
    | some 'i' => skip 1; set fun f => { f with caseless := !negated }; switches fuel negated true
    | some 'm' => skip 1; set fun f => { f with multiLine := !negated }; switches fuel negated true
    | some 's' => skip 1; set fun f => { f with dotAll := !negated }; switches fuel negated true
    | some 'U' => skip 1; set fun f => { f with swapGreed := !negated }; switches fuel negated true
    | some 'x' => skip 1; set fun f => { f with verbose := !negated }; switches fuel negated true
    | some 'u' => if negated then malformed else do skip 1; switches fuel negated true
    | some '-' => if negated then malformed else do skip 1; switches fuel true false
    | some ')' => if any then return else malformed
    | some ':' => if negated && !any then malformed else return
    | _ => malformed

/-- The name of a group up to the closing angle bracket. -/
def groupName : Reader String := do
  let name ← takeWhile (· != '>')
  expect ">"
  let isStart := fun c : Char => c == '_' || Text.isAlphabetic c
  match name with
  | [] => malformed
  | c :: more =>
    if isStart c && more.all (fun c => isStart c || Text.isNumeric c) then
      return String.ofList name
    else malformed

/-- The number of a group that opens. -/
def openGroup : Reader Nat := do
  modify fun s => { s with groups := s.groups + 1 }
  return (← get).groups

/-- How deep groups may be nested. -/
def maxDepth : Nat := 64

/-- An expression under the repetition that may follow it. -/
def repeated (item : Expr) : Reader Expr := do
  let s ← get
  let bounds := match s.rest with
    | '?' :: _ => some (0, some 1, 1)
    | '*' :: _ => some (0, none, 1)
    | '+' :: _ => some (1, none, 1)
    | '\x7b' :: more => (bounds? s.extended more).map fun (low, high, n) => (low, high, n + 1)
    | _ => none
  match bounds with
  | none => if !s.extended && s.rest.head? == some '\x7b' then malformed else return item
  | some (low, high, n) =>
    if !isRepeatable item || high.any (· < low) then malformed
    skip n
    skipBlank
    let isLazy ← accept "?"
    let loop := Expr.loop low high (isLazy == s.flags.swapGreed) item
    if ← accept "+" then return .atomic loop else return loop

mutual

/-- The branches up to a closing parenthesis or the end. The first argument bounds the number of
steps. -/
def alternation (length : Nat) : Nat → Nat → Reader Expr
  | 0, _ => malformed
  | fuel + 1, depth => do
    let first ← items length fuel depth []
    if ← accept "|" then
      match ← alternation length fuel depth with
      | .alt branches => return .alt (first :: branches)
      | other => return .alt [first, other]
    else return first

/-- The items of a branch; those read so far come in reverse order. -/
def items (length : Nat) : Nat → Nat → List Expr → Reader Expr
  | 0, _, _ => malformed
  | fuel + 1, depth, found => do
    skipBlank
    match ← peek with
    | none | some ')' | some '|' => return sequenceOf found.reverse
    | some _ =>
      let item ← atom length fuel depth (found.isEmpty)
      skipBlank
      let item ← repeated item
      items length fuel depth (match item with | .empty => found | e => e :: found)

/-- One item without its repetition. -/
def atom (length : Nat) : Nat → Nat → Bool → Reader Expr
  | 0, _, _ => malformed
  | fuel + 1, depth, isFirst => do
    let s ← get
    let c ← next
    match c with
    | '(' => group length fuel (depth + 1)
    | '[' => return .one (← classSet length fuel)
    | '.' => return .one (.compl (if s.flags.dotAll then .empty else .single '\n'))
    | '^' => return .assert (if s.flags.multiLine then .lineStart else .textStart)
    | '$' => return .assert (if s.flags.multiLine then .lineEnd else .textEnd)
    | '*' | '+' | '?' => malformed
    | '\\' =>
      match ← escape length with
      | .literal c => return .one (← fold (.single c))
      | .set set => return .one set
      | .expr e => return e
    | c =>
      -- A brace after a repetition stands for itself, but must still look like a repetition.
      if c = '\x7b' && !s.extended && (isFirst || (bounds? false (← rest)).isNone) then malformed
      else return .one (← fold (.single c))

/-- A group after its opening parenthesis. -/
def group (length : Nat) : Nat → Nat → Reader Expr
  | 0, _ => malformed
  | fuel + 1, depth => do
    if depth ≥ maxDepth then malformed
    let s ← get
    let close := fun (e : Expr) => (do
      expect ")"
      modify fun t => { t with flags := s.flags }
      return e : Reader Expr)
    let look := fun (behind negated : Bool) => (do
      if !s.extended then throw .needsExtended
      let body ← alternation length fuel depth
      if behind then
        match lookBehind? negated body with
        | some e => close e
        | none => malformed
      else close (.look false negated body) : Reader Expr)
    if ← accept "?=" then look false false
    else if ← accept "?!" then look false true
    else if ← accept "?<=" then look true false
    else if ← accept "?<!" then look true true
    else if (← accept "?P<") || (← accept "?<") then
      let name ← groupName
      if (s.names.lookup name).isSome then malformed
      let g ← openGroup
      modify fun t => { t with names := (name, g) :: t.names }
      close (.group g (← alternation length fuel depth))
    else if s.extended && (← accept "?P=") then
      let name ← takeWhile (· != ')')
      close (← reference (String.ofList name))
    else if s.extended && (← accept "?>") then close (.atomic (← alternation length fuel depth))
    else if ← accept "?" then
      switches (length + 1) false false
      if ← accept ")" then return .empty
      else
        expect ":"
        close (← alternation length fuel depth)
    else
      let g ← openGroup
      close (.group g (← alternation length fuel depth))

end

end Reader

/-- The expression of a pattern in a mode and the number of its groups. -/
def read (extended : Bool) (pattern : List Char) : Except Fault (Expr × Nat) := do
  let length := (pattern.foldl (fun n c => n + c.utf8Size) 0)
  let start : Reading := ⟨extended, pattern, 0, [], {}⟩
  let (e, s) ← (Reader.alternation length (8 * (pattern.length + 2)) 0).run start
  if s.rest.isEmpty then return (e, s.groups) else throw .malformed

end SchemaGate.Regex
