import SchemaGate.Text.Blank
import SchemaGate.Text.Category
import SchemaGate.Text.Fold
import SchemaGate.Text.Word

/-!
# `SchemaGate.Regex.Expr`: pattern expressions

The tree of a pattern. Sets of characters are expressions too, closed under union, intersection,
differences, complement and case folding; assertions look at the characters around a position
without consuming any. An expression is *hard* when it looks around, refers back or cuts: those
parts need backtracking, all others are matched without.
-/

set_option autoImplicit false

namespace SchemaGate.Regex

/-- A set of characters. -/
inductive CharSet
  | range (low high : Char)
  | decimal
  | blank
  | word
  | alphabetic
  | category (k : Text.Category)
  | union (a b : CharSet)
  | inter (a b : CharSet)
  | diff (a b : CharSet)
  | symmetric (a b : CharSet)
  | compl (a : CharSet)
  | folded (a : CharSet)
  deriving Repr

namespace CharSet

/-- The set without members. -/
def empty : CharSet := .compl (.range '\x00' (Char.ofNat 0x10FFFF))

/-- The set of one character. -/
def single (c : Char) : CharSet := .range c c

/-- The set of the given characters. -/
def ofList (cs : List Char) : CharSet := cs.foldl (fun s c => .union s (single c)) empty

/-- Membership. A folded set has every character that differs from a member in case only. -/
def contains : CharSet → Char → Bool
  | .range low high, c => low ≤ c && c ≤ high
  | .decimal, c => Text.isDecimalDigit c
  | .blank, c => Text.isBlank c
  | .word, c => Text.isWordChar c
  | .alphabetic, c => Text.isAlphabetic c
  | .category k, c => k.contains c
  | .union a b, c => a.contains c || b.contains c
  | .inter a b, c => a.contains c && b.contains c
  | .diff a b, c => a.contains c && !b.contains c
  | .symmetric a b, c => a.contains c != b.contains c
  | .compl a, c => !a.contains c
  | .folded a, c => (Text.foldClass c.toNat).any fun n => a.contains (Char.ofNat n)

end CharSet

/-- A condition on a position of the text. -/
inductive Assertion
  | textStart
  | textEnd
  | lineStart
  | lineEnd
  | wordBoundary
  | notWordBoundary
  | wordStart
  | wordEnd
  deriving DecidableEq, Repr

/-- Whether an assertion holds between two neighbouring characters; a missing neighbour is an end
of the text. -/
def Assertion.holds (a : Assertion) (before after : Option Char) : Bool :=
  let left := before.any Text.isWordChar
  let right := after.any Text.isWordChar
  match a with
  | .textStart => before.isNone
  | .textEnd => after.isNone
  | .lineStart => before.all (· == '\n')
  | .lineEnd => after.all (· == '\n')
  | .wordBoundary => left != right
  | .notWordBoundary => left == right
  | .wordStart => !left && right
  | .wordEnd => left && !right

/-- A pattern expression. -/
inductive Expr
  /-- The empty text. -/
  | empty
  /-- One character of a set. -/
  | one (set : CharSet)
  /-- A condition on the position. -/
  | assert (a : Assertion)
  /-- The items one after another. -/
  | seq (items : List Expr)
  /-- One of the branches, the first that leads to a match. -/
  | alt (branches : List Expr)
  /-- A capturing group. -/
  | group (index : Nat) (body : Expr)
  /-- Between `low` and `high` times the body, as many as possible if greedy. -/
  | loop (low : Nat) (high : Option Nat) (greedy : Bool) (body : Expr)
  /-- A look at what follows (or precedes), which must match (or not). -/
  | look (behind negated : Bool) (body : Expr)
  /-- The text that a group matched. -/
  | backref (group : Nat)
  /-- The first match of the body, never revised. -/
  | atomic (body : Expr)
  deriving Repr, Inhabited

namespace Expr

mutual

/-- Whether an expression refers back to a group. -/
def refersTo (g : Nat) : Expr → Bool
  | .seq items => refersToAny g items
  | .alt branches => refersToAny g branches
  | .group _ body => body.refersTo g
  | .loop _ _ _ body => body.refersTo g
  | .look _ _ body => body.refersTo g
  | .atomic body => body.refersTo g
  | .backref n => n == g
  | _ => false

/-- Whether one of the expressions refers back to a group. -/
def refersToAny (g : Nat) : List Expr → Bool
  | [] => false
  | e :: rest => e.refersTo g || refersToAny g rest

end

mutual

/-- Whether an expression needs backtracking: it looks around, refers back, cuts, or is a group
that the pattern refers back to. -/
def isHard (referred : Nat → Bool) : Expr → Bool
  | .seq items => isHardAny referred items
  | .alt branches => isHardAny referred branches
  | .group g body => referred g || body.isHard referred
  | .loop _ _ _ body => body.isHard referred
  | .look _ _ _ => true
  | .backref _ => true
  | .atomic _ => true
  | _ => false

/-- Whether one of the expressions needs backtracking. -/
def isHardAny (referred : Nat → Bool) : List Expr → Bool
  | [] => false
  | e :: rest => e.isHard referred || isHardAny referred rest

end

mutual

/-- The least number of characters that a match consumes. -/
def minLength : Expr → Nat
  | .one _ => 1
  | .seq items => sumLengths items
  | .alt branches => leastLength branches
  | .group _ body => body.minLength
  | .loop low _ _ body => low * body.minLength
  | .atomic body => body.minLength
  | _ => 0

/-- The least number of characters of a sequence. -/
def sumLengths : List Expr → Nat
  | [] => 0
  | e :: rest => e.minLength + sumLengths rest

/-- The least number of characters of one of the branches. -/
def leastLength : List Expr → Nat
  | [] => 0
  | [e] => e.minLength
  | e :: rest => min e.minLength (leastLength rest)

end

mutual

/-- Whether all matches consume the same number of characters. -/
def isFixed : Expr → Bool
  | .seq items => allFixed items
  | .alt branches => allFixed branches && sameLength branches
  | .group _ body => body.isFixed
  | .loop low high _ body => body.isFixed && high == some low
  | .backref _ => false
  | .atomic body => body.isFixed
  | _ => true

/-- Whether every expression consumes a fixed number of characters. -/
def allFixed : List Expr → Bool
  | [] => true
  | e :: rest => e.isFixed && allFixed rest

/-- Whether all expressions have the same least length. -/
def sameLength : List Expr → Bool
  | [] => true
  | e :: rest => rest.all (fun f => f.minLength == e.minLength)

end

end Expr

end SchemaGate.Regex
