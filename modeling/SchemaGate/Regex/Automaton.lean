import SchemaGate.Regex.Expr

/-!
# `SchemaGate.Regex.Automaton`: matching without backtracking

An expression that is not hard becomes a list of instructions with relative jumps, and a text is
matched by following all alternatives side by side, one character at a time. The time is at most
the length of the text times the number of instructions, whatever the pattern.

The alternatives are kept in order of preference, so the end of the preferred match is known too.
-/

set_option autoImplicit false

namespace SchemaGate.Regex

/-- An instruction. Jumps are relative to the instruction itself. -/
inductive Instr
  /-- Consume one character of a set. -/
  | one (set : CharSet)
  /-- Go on if a condition holds. -/
  | assert (a : Assertion)
  /-- Go on at either place, the first by preference. -/
  | split (first second : Int)
  /-- Go on elsewhere. -/
  | jump (offset : Int)
  /-- The match is complete. -/
  | accept
  deriving Repr, Inhabited

namespace Automaton

/-- A choice whose first way is the next instruction if `greedy`, else the other one. -/
def choose (greedy : Bool) (other : Int) : Instr :=
  if greedy then .split 1 other else .split other 1

/-- Up to `n` times some code, each time only after the one before. -/
def optional (greedy : Bool) (body : List Instr) : Nat → List Instr
  | 0 => []
  | n + 1 =>
    let rest := optional greedy body n
    choose greedy (body.length + rest.length + 1 : Nat) :: body ++ rest

/-- Any number of times some code. -/
def star (greedy : Bool) (body : List Instr) : List Instr :=
  choose greedy (body.length + 2 : Nat) :: body ++ [.jump (-(body.length + 1 : Nat))]

mutual

/-- The code of an expression that is not hard. -/
def code : Expr → List Instr
  | .empty => []
  | .one s => [.one s]
  | .assert a => [.assert a]
  | .seq items => codeSeq items
  | .alt branches => codeAlt branches
  | .group _ body => code body
  | .loop low high greedy body =>
    let c := code body
    let required := (List.replicate low c).flatten
    match high with
    | none => required ++ star greedy c
    | some high => required ++ optional greedy c (high - low)
  | .look _ _ _ => []
  | .backref _ => []
  | .atomic body => code body

/-- The code of expressions one after another. -/
def codeSeq : List Expr → List Instr
  | [] => []
  | e :: rest => code e ++ codeSeq rest

/-- The code of a choice between expressions. -/
def codeAlt : List Expr → List Instr
  | [] => []
  | [e] => code e
  | e :: rest =>
    let a := code e
    let b := codeAlt rest
    .split 1 (a.length + 2 : Nat) :: a ++ .jump (b.length + 1 : Nat) :: b

end

end Automaton

/-- The instructions of an expression, ready to run. -/
structure Automaton where
  /-- The instructions; the last one accepts. -/
  instrs : Array Instr
  deriving Repr, Inhabited

namespace Automaton

/-- The automaton of a sequence of expressions that are not hard. -/
def ofSeq (items : List Expr) : Automaton := ⟨(codeSeq items ++ [Instr.accept]).toArray⟩

/-- The place a relative jump leads to. -/
def target (pc : Nat) (offset : Int) : Nat := (pc + offset).toNat

/-- The places that wait for a character or accept, reached from the places on a stack without
consuming anything, in order of preference. The first argument bounds the number of steps. -/
def reach (m : Automaton) (before after : Option Char) :
    Nat → List Nat → Array Bool → List Nat → List Nat
  | 0, _, _, found => found.reverse
  | _, [], _, found => found.reverse
  | fuel + 1, pc :: stack, seen, found =>
    if seen.getD pc true then reach m before after fuel stack seen found
    else
      let seen := seen.setIfInBounds pc true
      match m.instrs[pc]? with
      | some (.split a b) =>
        reach m before after fuel (target pc a :: target pc b :: stack) seen found
      | some (.jump a) => reach m before after fuel (target pc a :: stack) seen found
      | some (.assert a) =>
        if a.holds before after then reach m before after fuel ((pc + 1) :: stack) seen found
        else reach m before after fuel stack seen found
      | some _ => reach m before after fuel stack seen (pc :: found)
      | none => reach m before after fuel stack seen found

/-- `reach` with as many steps as there can be. -/
def close (m : Automaton) (before after : Option Char) (pcs : List Nat) : List Nat :=
  m.reach before after (3 * m.instrs.size + pcs.length + 1) pcs
    (Array.replicate m.instrs.size false) []

/-- Whether a place accepts. -/
def accepts (m : Automaton) (pc : Nat) : Bool :=
  match m.instrs[pc]? with
  | some .accept => true
  | _ => false

/-- The places after a character. -/
def advance (m : Automaton) (c : Char) (pcs : List Nat) : List Nat :=
  pcs.filterMap fun pc =>
    match m.instrs[pc]? with
    | some (Instr.one s) => if s.contains c then some (pc + 1) else none
    | _ => none

/-- Whether a match starts or goes on somewhere in the text that remains. -/
def search (m : Automaton) (before : Option Char) (pcs : List Nat) : List Char → Bool
  | [] => (m.close before none (pcs ++ [0])).any m.accepts
  | c :: rest =>
    let now := m.close before (some c) (pcs ++ [0])
    now.any m.accepts || search m (some c) (m.advance c now) rest

/-- Whether some part of a text matches. -/
def isMatch (m : Automaton) (text : List Char) : Bool := m.search none [] text

/-- The number of characters of the preferred match at the front of the text, where `best` is the
longest prefix found so far among the alternatives already finished and `count` characters have
been read. -/
def matchFrom (m : Automaton) (before : Option Char) (pcs : List Nat) (count : Nat)
    (best : Option Nat) : List Char → Option Nat
  | [] => if (m.close before none pcs).any m.accepts then some count else best
  | c :: rest =>
    let now := m.close before (some c) pcs
    -- Alternatives after one that accepts are of lower preference and are dropped.
    let live := now.takeWhile (!m.accepts ·)
    let best := if live.length < now.length then some count else best
    if live.isEmpty then best else matchFrom m (some c) (m.advance c live) (count + 1) best rest

/-- The number of characters of the preferred match at the front of a text. -/
def matchLength? (m : Automaton) (before : Option Char) (text : List Char) : Option Nat :=
  m.matchFrom before [0] 0 none text

end Automaton

end SchemaGate.Regex
