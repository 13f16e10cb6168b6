import SchemaGate.Regex.Automaton

/-!
# `SchemaGate.Regex.Backtrack`: matching with a budget

Expressions that look around or refer back are matched by a machine with a stack of choices to
return to. Parts that are not hard are handed to an automaton wherever nothing after them can ask
for another match, so only the remaining choices count. Returning to a choice costs one unit of a
budget, and a match that exhausts it is neither found nor refuted: the outcome says so.
-/

set_option autoImplicit false

namespace SchemaGate.Regex

/-- An instruction of the machine. Jumps are relative to the instruction itself. -/
inductive Step
  | one (set : CharSet)
  | assert (a : Assertion)
  /-- The preferred match of an automaton. -/
  | delegate (m : Automaton)
  /-- Go on at the first place and remember the second. -/
  | split (first second : Int)
  | jump (offset : Int)
  /-- Remember the position in a slot. -/
  | save (slot : Nat)
  /-- Set a slot to zero. -/
  | clear (slot : Nat)
  /-- Return to the position in a slot. -/
  | restore (slot : Nat)
  /-- The head of a counted loop whose end lies at `next`; the count is in a slot. -/
  | count (greedy : Bool) (low : Nat) (high : Option Nat) (next : Int) (slot : Nat)
  /-- The head of an unbounded loop whose body may match nothing; the slot after the count holds
  the position of the last round. -/
  | guard (greedy : Bool) (low : Nat) (next : Int) (slot : Nat)
  /-- Step back a number of characters. -/
  | back (count : Nat)
  /-- The body of a negative look matched: forget its choices and fail. -/
  | refute
  /-- The text of a group, which two slots delimit. -/
  | backref (slot : Nat)
  /-- Remember the number of open choices in a slot. -/
  | mark (slot : Nat)
  /-- Forget the choices made since the mark. -/
  | cut (slot : Nat)
  | accept
  deriving Repr, Inhabited

namespace Step

/-- A choice whose first way is the next instruction if `greedy`, else the other one. -/
def choose (greedy : Bool) (other : Int) : Step :=
  if greedy then .split 1 other else .split other 1

/-- One instruction for a sequence of expressions that are not hard; none for an empty one. -/
def delegates (items : List Expr) : List Step :=
  match items with
  | [] => []
  | [.one s] => [.one s]
  | [.assert a] => [.assert a]
  | items => [.delegate (.ofSeq items)]

/-- The number of items at the front that are not hard and consume a fixed number of
characters. -/
def fixedFront (referred : Nat → Bool) (items : List Expr) : Nat :=
  (items.takeWhile fun e => e.isFixed && !e.isHard referred).length

/-- The number of items at the back that can be handed to an automaton: none of them is hard, and
if something that follows may ask for another match they also have a fixed length. -/
def easyBack (referred : Nat → Bool) (pressed : Bool) (items : List Expr) : Nat :=
  (items.reverse.takeWhile fun e => !e.isHard referred && (e.isFixed || !pressed)).length

mutual

/-- The code of an expression and the next free slot. `pressed` says that what follows may ask for
another match. -/
def code (referred : Nat → Bool) (slot : Nat) (pressed : Bool) : Expr → List Step × Nat
  | .empty => ([], slot)
  | .one s => ([.one s], slot)
  | .assert a => ([.assert a], slot)
  | .seq items =>
    if !pressed && !Expr.isHardAny referred items then (delegates items, slot)
    else
      let front := fixedFront referred items
      let back := easyBack referred pressed (items.drop front)
      let (middle, slot) := codeSeq referred slot front (items.length - front - back) items
      (delegates (items.take front) ++ middle ++ delegates (items.drop (items.length - back)), slot)
  | .alt branches =>
    if !pressed && !Expr.isHardAny referred branches then (delegates [.alt branches], slot)
    else codeAlt referred slot pressed branches
  | .group g body =>
    if !pressed && !referred g && !body.isHard referred then (delegates [body], slot)
    else
      let (c, slot) := code referred slot pressed body
      (.save (2 * g) :: c ++ [.save (2 * g + 1)], slot)
  | .loop low high greedy body =>
    let hard := body.isHard referred
    if !pressed && !hard then (delegates [.loop low high greedy body], slot)
    else if low = 0 ∧ high = some 1 then
      let (c, slot) := code referred slot pressed body
      (choose greedy (c.length + 1 : Nat) :: c, slot)
    else
      let (c, next) := code referred slot true body
      let n := c.length
      match high with
      | none =>
        if body.minLength = 0 then
          (.clear next :: .guard greedy low (n + 2 : Nat) next :: c ++ [.jump (-(n + 1 : Nat))],
            next + 2)
        else if low = 0 then
          (choose greedy (n + 2 : Nat) :: c ++ [.jump (-(n + 1 : Nat))], next)
        else if low = 1 then
          (c ++ [if greedy then .split (-(n : Nat)) 1 else .split 1 (-(n : Nat))], next)
        else
          (.clear next :: .count greedy low none (n + 2 : Nat) next :: c
            ++ [.jump (-(n + 1 : Nat))], next + 1)
      | some high =>
        (.clear next :: .count greedy low (some high) (n + 2 : Nat) next :: c
          ++ [.jump (-(n + 1 : Nat))], next + 1)
  | .look behind negated body =>
    let (c, slot) := code referred slot false body
    let c := if behind then .back body.minLength :: c else c
    if negated then (.split 1 (c.length + 2 : Nat) :: c ++ [.refute], slot)
    else (.save slot :: c ++ [.restore slot], slot + 1)
  | .backref g => ([.backref (2 * g)], slot)
  | .atomic body =>
    let (c, slot) := code referred slot false body
    (.mark slot :: c ++ [.cut slot], slot + 1)

/-- The code of `count` items after the first `skip`. -/
def codeSeq (referred : Nat → Bool) (slot skip count : Nat) : List Expr → List Step × Nat
  | [] => ([], slot)
  | e :: rest =>
    match skip, count with
    | skip + 1, count => codeSeq referred slot skip count rest
    | 0, 0 => ([], slot)
    | 0, count + 1 =>
      let (a, slot) := code referred slot true e
      let (b, slot) := codeSeq referred slot 0 count rest
      (a ++ b, slot)

/-- The code of a choice. -/
def codeAlt (referred : Nat → Bool) (slot : Nat) (pressed : Bool) : List Expr → List Step × Nat
  | [] => ([], slot)
  | [e] => code referred slot pressed e
  | e :: rest =>
    let (a, slot) := code referred slot pressed e
    let (b, slot) := codeAlt referred slot pressed rest
    (.split 1 (a.length + 2 : Nat) :: a ++ .jump (b.length + 1 : Nat) :: b, slot)

end

end Step

/-- A program of the machine. -/
structure Machine where
  /-- The instructions. -/
  steps : Array Step
  /-- The number of slots. -/
  slots : Nat
  deriving Repr, Inhabited

/-- What a match with a budget comes to. -/
inductive Outcome
  | found
  | absent
  | exhausted
  deriving DecidableEq, Repr

namespace Machine

/-- The machine that finds an expression with a number of groups anywhere in a text: it skips
characters one by one in front of the match. -/
def ofExpr (groups : Nat) (e : Expr) : Machine :=
  let (c, slots) := Step.code (fun g => e.refersTo g) (2 * (groups + 1)) true e
  let any := Expr.one (.compl .empty)
  let (skip, slots) := Step.code (fun _ => false) slots true (.loop 0 none false any)
  ⟨(skip ++ c ++ [Step.accept]).toArray, slots⟩

/-- A choice to return to: the place, the position and the slots at that time. -/
structure Choice where
  /-- The instruction to go on with. -/
  pc : Nat
  /-- The position in the text. -/
  position : Nat
  /-- The slots. -/
  slots : Array (Option Nat)

/-- The state of the machine between two instructions. -/
structure State where
  /-- The next instruction. -/
  pc : Nat
  /-- The position in the text. -/
  position : Nat
  /-- The slots; one that was never set holds nothing. -/
  slots : Array (Option Nat)
  /-- The choices to return to, the latest first. -/
  stack : List Choice
  /-- How often the machine returned to a choice. -/
  returns : Nat

/-- What one instruction does. -/
inductive Effect
  | goOn (s : State)
  | fail (s : State)
  | done

/-- The place a relative jump leads to. -/
def target (pc : Nat) (offset : Int) : Nat := (pc + offset).toNat

/-- The value of a slot. -/
def slot (s : State) (i : Nat) : Option Nat := (s.slots[i]?).join

/-- A slot set to a value. -/
def setSlot (s : State) (i v : Nat) : State := { s with slots := s.slots.setIfInBounds i (some v) }

/-- The state at the next instruction. -/
def next (s : State) : State := { s with pc := s.pc + 1 }

/-- The state at the other end of a jump. -/
def go (s : State) (offset : Int) : State := { s with pc := target s.pc offset }

/-- A choice remembered. -/
def push (s : State) (offset : Int) : State :=
  { s with stack := ⟨target s.pc offset, s.position, s.slots⟩ :: s.stack }

/-- The characters between two positions. -/
def slice (text : Array Char) (low high : Nat) : List Char := (text.toList.take high).drop low

/-- The effect of the instruction that comes next. -/
def exec (m : Machine) (text : Array Char) (s : State) : Effect :=
  match m.steps[s.pc]? with
  | none => .fail s
  | some .accept => .done
  | some (.one set) =>
    match text[s.position]? with
    | some c => if set.contains c then .goOn { next s with position := s.position + 1 } else .fail s
    | none => .fail s
  | some (.assert a) =>
    let before := if s.position = 0 then none else text[s.position - 1]?
    if a.holds before text[s.position]? then .goOn (next s) else .fail s
  | some (.delegate a) =>
    let before := if s.position = 0 then none else text[s.position - 1]?
    match a.matchLength? before (text.toList.drop s.position) with
    | some n => .goOn { next s with position := s.position + n }
    | none => .fail s
  | some (.split a b) => .goOn (go (push s b) a)
  | some (.jump a) => .goOn (go s a)
  | some (.save i) => .goOn (next (setSlot s i s.position))
  | some (.clear i) => .goOn (next (setSlot s i 0))
  | some (.restore i) => .goOn { next s with position := (slot s i).getD s.position }
  | some (.count greedy low high exit i) =>
    let n := (slot s i).getD 0
    if high = some n then .goOn (go s exit)
    else
      let s := setSlot s i (n + 1)
      if low ≤ n then
        if greedy then .goOn (next (push s exit)) else .goOn (go (push s 1) exit)
      else .goOn (next s)
  | some (.guard greedy low exit i) =>
    let n := (slot s i).getD 0
    if n > 0 ∧ slot s (i + 1) = some s.position then .fail s
    else
      let s := setSlot s i (n + 1)
      if low ≤ n then
        let s := setSlot s (i + 1) s.position
        if greedy then .goOn (next (push s exit)) else .goOn (go (push s 1) exit)
      else .goOn (next s)
  | some (.back n) =>
    if n ≤ s.position then .goOn { next s with position := s.position - n } else .fail s
  | some .refute =>
    -- The choice to skip the look-around is the oldest of those that belong to it.
    .fail { s with stack := (s.stack.dropWhile fun c => c.pc != s.pc + 1).drop 1 }
  | some (.backref i) =>
    match slot s i, slot s (i + 1) with
    | some low, some high =>
      let word := slice text low high
      if slice text s.position (s.position + word.length) = word then
        .goOn { next s with position := s.position + word.length }
      else .fail s
    | _, _ => .fail s
  | some (.mark i) => .goOn (next (setSlot s i s.stack.length))
  | some (.cut i) =>
    let keep := (slot s i).getD 0
    .goOn (next { s with stack := s.stack.drop (s.stack.length - keep) })

/-- The outcome of a run within a budget of returns. The first argument bounds the number of
instructions. -/
def run (m : Machine) (text : Array Char) (budget : Nat) : Nat → State → Outcome
  | 0, _ => .exhausted
  | fuel + 1, s =>
    match m.exec text s with
    | .done => .found
    | .goOn s => run m text budget fuel s
    | .fail s =>
      match s.stack with
      | [] => .absent
      | c :: stack =>
        if s.returns ≥ budget then .exhausted
        else run m text budget fuel ⟨c.pc, c.position, c.slots, stack, s.returns + 1⟩

/-- The outcome of a search within a budget of returns. -/
def search (m : Machine) (budget : Nat) (text : List Char) : Outcome :=
  let text := text.toArray
  -- Between two returns the machine moves forward through the program once per character.
  let fuel := (budget + 2) * (m.steps.size + 1) * (text.size + 2) * (text.size + 2)
  m.run text budget fuel ⟨0, 0, Array.replicate m.slots none, [], 0⟩

end Machine

end SchemaGate.Regex
