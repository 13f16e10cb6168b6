import SchemaGate.Schema.Vocabulary

/-!
# `SchemaGate.Schema.Basic`: schemas that check values

`Schema.compile` checks a schema before its first use: its draft has to be known, its references
must not leave it, the schema of schemas has to accept it, and every keyword that can be reached
from its root must be readable. `Schema.accepts` and `Schema.violations` then apply it to values.

The levels of evaluation at one value are bounded by the number of questions about it: whether a
schema accepts it, which violations it finds, and whether it evaluates one of the properties or
items. Between two steps into the value no question can come up twice without ending up in a circle.
-/

set_option autoImplicit false

namespace SchemaGate

/-- A schema that was found usable. -/
structure Schema where
  /-- The schemas it can refer to. -/
  registry : Registry
  /-- The schema in its place. -/
  root : Site
  deriving Inhabited

namespace Registry

/-- The evaluator of the schemas of a registry, over one for what lies deeper than the levels of a
value. -/
def evaluator (r : Registry) (deeper : Evaluator Site) (levels : Json → Nat) : Evaluator Site :=
  Evaluator.full r.readable deeper levels

/-- Reads all schemas that can be reached from one, in order; the addresses already referred to are
not followed again. The first argument bounds the number of steps. -/
def visit (r : Registry) : Nat → List Uri → Site → Except Fault (List Uri)
  | 0, seen, _ => .ok seen
  | fuel + 1, seen, s =>
    (r.keywords s).foldlM (fun seen k => do
      match ← k with
      | .reference address target =>
        if seen.contains address then return seen else visit r fuel (address :: seen) target
      | k => k.children.foldlM (visit r fuel) seen) seen

end Registry

namespace Schema

/-- The number of values in all schemas that a schema can refer to. -/
def weight (contents : Json) : Nat := contents.size + Registry.metaSchemaWeight

/-- The number of levels after which an evaluation has left a value: no less than the number of
questions that the schemas, each by the rules of any draft, can be asked about it. -/
def levels (contents v : Json) : Nat :=
  Draft.all.length * (weight contents + 1) * (v.size + 2)

/-- The evaluator of a schema and of all that it can refer to. -/
def evaluator (s : Schema) : Evaluator Site :=
  s.registry.evaluator .lenient (levels s.root.contents)

/-- Whether a schema accepts a value. -/
def accepts (s : Schema) (v : Json) : Bool := s.evaluator.accepts s.root v

/-- The violations of a schema by a value, in order. -/
def violations (s : Schema) (v : Json) : List Violation := s.evaluator.violations s.root v

/-- The schema of schemas of a draft. -/
def ofDraft (d : Draft) : Schema :=
  let registry := Registry.ofMetaSchemas d
  ⟨registry, (registry.resources.head?.map (·.2)).getD default⟩

/-- Refuses what the schema of schemas of a draft refuses, with the first cause. -/
def checkAgainstDraft (d : Draft) (contents : Json) : Except Fault Unit :=
  let s := ofDraft d
  if s.accepts contents then .ok ()
  else
    match s.violations contents with
    | v :: _ => .error (.invalid v.cause)
    | [] => .ok ()

/-- A schema ready to check values, or the first fault that makes it unusable. -/
def compile (contents : Json) : Except Fault Schema := do
  let draft ←
    match Draft.detect contents with
    | .ok d => pure d
    | .error identifier => throw (.unknownDraft identifier)
  let (registry, root) ← Registry.ofSchema draft contents
  checkAgainstDraft draft contents
  let w := weight contents + 1
  let _ ← registry.visit (w * w) [] root
  return ⟨registry, root⟩

end Schema

end SchemaGate
