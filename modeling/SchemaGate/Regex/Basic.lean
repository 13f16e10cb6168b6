import SchemaGate.Regex.Backtrack
import SchemaGate.Regex.Parser

/-!
# `SchemaGate.Regex.Basic`: patterns ready to match

A pattern is read in the plain mode first and in the extended mode if it needs that one. It matches
a text if it matches some part of it. A pattern that is not hard runs on an automaton and always
decides; a hard one runs on the backtracking machine, whose budget may run out.
-/

set_option autoImplicit false

namespace SchemaGate

/-- A pattern ready to match. -/
inductive Regex
  /-- A pattern that needs no backtracking. -/
  | automaton (m : Regex.Automaton)
  /-- A pattern that needs backtracking. -/
  | machine (m : Regex.Machine)
  deriving Inhabited, Repr

namespace Regex

/-- How many choices the machine may return to. -/
def budget : Nat := 1000000

/-- The pattern of an expression with a number of groups. -/
def ofExpr (groups : Nat) (e : Expr) : Regex :=
  if e.isHard (fun g => e.refersTo g) then .machine (.ofExpr groups e)
  else .automaton (.ofSeq [e])

/-- The pattern of a text, if it is one. -/
def parse? (pattern : String) : Option Regex :=
  match read false pattern.toList with
  | .ok (e, groups) => some (ofExpr groups e)
  | .error .malformed => none
  | .error .needsExtended =>
    match read true pattern.toList with
    | .ok (e, groups) => some (ofExpr groups e)
    | .error _ => none

/-- Whether a text is a pattern. -/
def isPattern (text : String) : Bool := (parse? text).isSome

/-- What a search in a text comes to. -/
def search (r : Regex) (text : String) : Outcome :=
  match r with
  | .automaton m => if m.isMatch text.toList then .found else .absent
  | .machine m => m.search budget text.toList

end Regex

end SchemaGate
