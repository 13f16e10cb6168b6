import SchemaGate.Schema.Assertion

/-!
# `SchemaGate.Schema.Keyword`: what one keyword asks of a value

A schema is a list of keywords, and a keyword that holds sub-schemas leaves them to an `Evaluator`:
whatever answers, for a sub-schema and a value, whether it accepts the value, which violations it
finds, and which properties and items it evaluates. `Keyword σ` does not fix what a sub-schema `σ`
is.

`Keyword.accepts` and `Keyword.violations` are two separate readings of a keyword: the one decides,
the other explains. They agree as soon as the evaluator's two answers agree.
-/

set_option autoImplicit false

namespace SchemaGate

/-- Answers about sub-schemas. -/
structure Evaluator (σ : Type) where
  /-- Whether a schema accepts a value. -/
  accepts : σ → Json → Bool
  /-- The violations of a schema by a value, in the order of the report. -/
  violations : σ → Json → List Violation
  /-- Whether a schema, applied to an object, evaluates the property of this name and value. -/
  coversProperty : σ → Json → String → Json → Bool
  /-- Whether a schema, applied to an array, evaluates the item of this index and value. -/
  coversItem : σ → Json → Nat → Json → Bool

/-- What a dependency asks of an object that has the property it depends on. -/
inductive Dependency (σ : Type)
  /-- The object has these properties too. -/
  | names (names : List String)
  /-- The object is accepted. -/
  | schema (body : σ)

/-- A keyword of a schema. -/
inductive Keyword (σ : Type)
  /-- Nothing is accepted. -/
  | never
  /-- A rule without sub-schemas. -/
  | assertion (a : Assertion)
  /-- The schema that an address names. -/
  | reference (address : Uri) (target : σ)
  | allOf (branches : List σ)
  | anyOf (branches : List σ)
  | oneOf (branches : List σ)
  /-- Nothing that the body accepts; reports show the schema as it is written. -/
  | not (schema : Json) (body : σ)
  /-- One of two schemas, as a test decides. -/
  | conditional (test : σ) (yes no : Option σ)
  /-- Properties by name. -/
  | properties (entries : List (String × σ))
  /-- Properties by the patterns that their names match. -/
  | patternProperties (entries : List (Regex × σ))
  /-- Properties by name and by pattern, and a schema for all others. -/
  | restProperties (entries : List (String × σ)) (patterns : List (Regex × σ)) (rest : σ)
  /-- Properties by name and by pattern, and no others. -/
  | noOtherProperties (entries : List (String × σ)) (patterns : List (Regex × σ))
  /-- No properties at all. -/
  | noProperties
  /-- Any property, which counts as evaluated. -/
  | openProperties
  /-- The names of properties, as strings. -/
  | propertyNames (body : σ)
  /-- No name is accepted. -/
  | noNames
  | dependencies (entries : List (String × Dependency σ))
  | dependentSchemas (entries : List (String × σ))
  /-- The items at the front, each by its own schema. -/
  | tuple (items : List σ)
  /-- The items from an index on. -/
  | itemsFrom (start : Nat) (body : σ)
  /-- No items from an index on. -/
  | noItemsFrom (start : Nat)
  /-- Any item, which counts as evaluated. -/
  | openItems
  /-- The number of items that are accepted lies within bounds. -/
  | contains (least : Nat) (most : Option Nat) (body : σ)
  /-- The properties that no other keyword evaluates. -/
  | unevaluatedProperties (body : σ)
  /-- The items that no other keyword evaluates. -/
  | unevaluatedItems (body : σ)

namespace Keyword

variable {σ : Type}

/-! ### Evaluated properties and items -/

/-- The branch that alone accepts a value, if exactly one does. -/
def onlyAccepting? (e : Evaluator σ) (branches : List σ) (v : Json) : Option σ :=
  match branches.filter fun s => e.accepts s v with
  | [s] => some s
  | _ => none

/-- Whether a name is the one of an entry whose schema accepts the value. -/
def namedAccepts (e : Evaluator σ) (entries : List (String × σ)) (name : String) (x : Json) :
    Bool :=
  entries.any fun (n, s) => n == name && e.accepts s x

/-- Whether a text matches a pattern; a pattern that is not decided does not match. -/
def isMatch (regex : Regex) (text : String) : Bool := regex.search text == .found

/-- Whether a name matches one of the patterns. -/
def matchesAny (entries : List (Regex × σ)) (name : String) : Bool :=
  entries.any fun (r, _) => isMatch r name

/-- Whether a keyword of a schema that is applied to `v` evaluates the property of this name and
value. -/
def coversProperty (e : Evaluator σ) (v : Json) (name : String) (x : Json) : Keyword σ → Bool
  | .reference _ s => e.coversProperty s v name x
  | .allOf branches =>
    branches.all (fun s => e.accepts s v) && branches.any fun s => e.coversProperty s v name x
  | .anyOf branches => branches.any fun s => e.accepts s v && e.coversProperty s v name x
  | .oneOf branches => (onlyAccepting? e branches v).any fun s => e.coversProperty s v name x
  | .conditional test yes no =>
    if e.accepts test v then
      e.coversProperty test v name x || yes.any fun s => e.coversProperty s v name x
    else no.any fun s => e.coversProperty s v name x
  | .properties entries => namedAccepts e entries name x
  | .patternProperties entries => matchesAny entries name
  | .restProperties entries patterns rest =>
    namedAccepts e entries name x || matchesAny patterns name || e.accepts rest x
  | .noOtherProperties entries patterns =>
    namedAccepts e entries name x || matchesAny patterns name
  | .openProperties => true
  | .dependentSchemas entries =>
    entries.any fun (n, s) => (v.get? n).isSome && e.coversProperty s v name x
  | .unevaluatedProperties body => e.accepts body x
  | _ => false

/-- Whether a keyword of a schema that is applied to `v` evaluates the item of this index and
value. -/
def coversItem (e : Evaluator σ) (v : Json) (index : Nat) (x : Json) : Keyword σ → Bool
  | .reference _ s => e.coversItem s v index x
  | .allOf branches =>
    branches.all (fun s => e.accepts s v) && branches.any fun s => e.coversItem s v index x
  | .anyOf branches => branches.any fun s => e.accepts s v && e.coversItem s v index x
  | .oneOf branches => (onlyAccepting? e branches v).any fun s => e.coversItem s v index x
  | .conditional test yes no =>
    if e.accepts test v then
      e.coversItem test v index x || yes.any fun s => e.coversItem s v index x
    else no.any fun s => e.coversItem s v index x
  | .tuple items => index < items.length
  | .itemsFrom start _ => start ≤ index
  | .noItemsFrom start => start ≤ index
  | .openItems => true
  | .contains _ _ body => e.accepts body x
  | .unevaluatedItems body => e.accepts body x
  | _ => false

/-- The names of the properties that no keyword of a schema evaluates. -/
def uncoveredNames (e : Evaluator σ) (keywords : List (Keyword σ)) (members : Members) :
    List String :=
  (members.filter fun (name, x) =>
    !keywords.any (coversProperty e (.object members) name x)).map (·.1)

/-- The items that no keyword of a schema evaluates. -/
def uncoveredItems (e : Evaluator σ) (keywords : List (Keyword σ)) (items : List Json) :
    List Json :=
  (items.zipIdx.filter fun (x, i) =>
    !keywords.any (coversItem e (.array items) i x)).map (·.1)

/-! ### Acceptance -/

/-- The schemas for a property: the one of its name, then those of the patterns it matches. -/
def schemasFor (entries : List (String × σ)) (patterns : List (Regex × σ)) (name : String) :
    List σ :=
  (entries.lookup name).toList
    ++ (patterns.filter fun (r, _) => isMatch r name).map (·.2)

/-- Whether a number of accepted items lies within bounds. -/
def withinBounds (least : Nat) (most : Option Nat) (count : Nat) : Bool :=
  least ≤ count && most.all (count ≤ ·)

/-- The number of items that a schema accepts. -/
def countAccepted (e : Evaluator σ) (body : σ) (items : List Json) : Nat :=
  items.countP (e.accepts body)

/-- Whether a dependency is met by an object. -/
def meets (e : Evaluator σ) (members : Members) : Dependency σ → Bool
  | .names names => names.all (Members.has members)
  | .schema s => e.accepts s (.object members)

/-- Whether a keyword of a schema accepts a value. -/
def accepts (e : Evaluator σ) (keywords : List (Keyword σ)) (v : Json) : Keyword σ → Bool
  | .never => false
  | .assertion a => a.holds v
  | .reference _ s => e.accepts s v
  | .allOf branches => branches.all fun s => e.accepts s v
  | .anyOf branches => branches.any fun s => e.accepts s v
  | .oneOf branches => (onlyAccepting? e branches v).isSome
  | .not _ body => !e.accepts body v
  | .conditional test yes no =>
    if e.accepts test v then yes.all fun s => e.accepts s v else no.all fun s => e.accepts s v
  | .properties entries =>
    match v with
    | .object members => entries.all fun (n, s) => (members.lookup n).all (e.accepts s)
    | _ => true
  | .patternProperties entries =>
    match v with
    | .object members =>
      entries.all fun (r, s) => members.all fun (n, x) => !isMatch r n || e.accepts s x
    | _ => true
  | .restProperties entries patterns rest =>
    match v with
    | .object members =>
      members.all fun (n, x) =>
        match schemasFor entries patterns n with
        | [] => e.accepts rest x
        | ss => ss.all fun s => e.accepts s x
    | _ => true
  | .noOtherProperties entries patterns =>
    match v with
    | .object members =>
      members.all fun (n, x) =>
        match schemasFor entries patterns n with
        | [] => false
        | ss => ss.all fun s => e.accepts s x
    | _ => true
  | .noProperties =>
    match v with
    | .object members => members.isEmpty
    | _ => true
  | .openProperties => true
  | .propertyNames body =>
    match v with
    | .object members => members.all fun (n, _) => e.accepts body (.string n)
    | _ => true
  | .noNames =>
    match v with
    | .object members => members.isEmpty
    | _ => true
  | .dependencies entries =>
    match v with
    | .object members => entries.all fun (n, d) => !Members.has members n || meets e members d
    | _ => true
  | .dependentSchemas entries =>
    match v with
    | .object members => entries.all fun (n, s) => !Members.has members n || e.accepts s v
    | _ => true
  | .tuple schemas =>
    match v with
    | .array items => (schemas.zip items).all fun (s, x) => e.accepts s x
    | _ => true
  | .itemsFrom start body =>
    match v with
    | .array items => (items.drop start).all (e.accepts body)
    | _ => true
  | .noItemsFrom start =>
    match v with
    | .array items => (items.drop start).isEmpty
    | _ => true
  | .openItems => true
  | .contains least most body =>
    match v with
    | .array items => withinBounds least most (countAccepted e body items)
    | _ => true
  | .unevaluatedProperties _ =>
    match v with
    | .object members => (uncoveredNames e keywords members).isEmpty
    | _ => true
  | .unevaluatedItems _ =>
    match v with
    | .array items => (uncoveredItems e keywords items).isEmpty
    | _ => true

/-! ### Violations -/

/-- A report of one cause against the value itself, unless a condition holds. -/
def checked (holds : Bool) (cause : Cause) : List Violation :=
  if holds then [] else [.here cause]

/-- The violations of a dependency by an object. -/
def unmet (e : Evaluator σ) (members : Members) : Dependency σ → List Violation
  | .names names =>
    (names.filter fun n => !Members.has members n).map fun n => .here (.missing n)
  | .schema s => e.violations s (.object members)

/-- The violations of schemas by the value of a property, seen from the object. -/
def propertyViolations (e : Evaluator σ) (schemas : List σ) (name : String) (x : Json) :
    List Violation :=
  schemas.flatMap fun s => (e.violations s x).map (.under name)

/-- The violations of a schema by an item, seen from the array. -/
def itemViolations (e : Evaluator σ) (s : σ) (index : Nat) (x : Json) : List Violation :=
  (e.violations s x).map (.atIndex index)

/-- The violations of a keyword of a schema by a value. -/
def violations (e : Evaluator σ) (keywords : List (Keyword σ)) (v : Json) :
    Keyword σ → List Violation
  | .never => [.here (.falseSchema v)]
  | .assertion a => (a.causes v).map .here
  | .reference _ s => e.violations s v
  | .allOf branches => branches.flatMap fun s => e.violations s v
  | .anyOf branches => checked (branches.any fun s => e.accepts s v) (.noneOfAny v)
  | .oneOf branches =>
    checked (onlyAccepting? e branches v).isSome
      (if branches.any fun s => e.accepts s v then .severalOfOne v else .noneOfOne v)
  | .not schema body => checked (!e.accepts body v) (.forbidden v schema)
  | .conditional test yes no =>
    if e.accepts test v then yes.toList.flatMap fun s => e.violations s v
    else no.toList.flatMap fun s => e.violations s v
  | .properties entries =>
    match v with
    | .object members =>
      entries.flatMap fun (n, s) =>
        (members.lookup n).toList.flatMap (propertyViolations e [s] n)
    | _ => []
  | .patternProperties entries =>
    match v with
    | .object members =>
      entries.flatMap fun (r, s) =>
        members.flatMap fun (n, x) => if isMatch r n then propertyViolations e [s] n x else []
    | _ => []
  | .restProperties entries patterns rest =>
    match v with
    | .object members =>
      members.flatMap fun (n, x) =>
        match schemasFor entries patterns n with
        | [] => propertyViolations e [rest] n x
        | ss => propertyViolations e ss n x
    | _ => []
  | .noOtherProperties entries patterns =>
    match v with
    | .object members =>
      let others := members.filter fun (n, _) => (schemasFor entries patterns n).isEmpty
      (members.flatMap fun (n, x) => propertyViolations e (schemasFor entries patterns n) n x)
        ++ checked others.isEmpty (.additionalProperties (Members.names others))
    | _ => []
  | .noProperties =>
    match v with
    | .object ((_, x) :: _) => [.here (.falseSchema x)]
    | _ => []
  | .openProperties => []
  | .propertyNames body =>
    match v with
    | .object members =>
      members.flatMap fun (n, _) =>
        (e.violations body (.string n)).map fun w => .here (.propertyName w.cause)
    | _ => []
  | .noNames =>
    match v with
    | .object members => checked members.isEmpty (.falseSchema v)
    | _ => []
  | .dependencies entries =>
    match v with
    | .object members =>
      entries.flatMap fun (n, d) => if Members.has members n then unmet e members d else []
    | _ => []
  | .dependentSchemas entries =>
    match v with
    | .object members =>
      entries.flatMap fun (n, s) => if Members.has members n then e.violations s v else []
    | _ => []
  | .tuple schemas =>
    match v with
    | .array items =>
      (schemas.zip items).zipIdx.flatMap fun ((s, x), i) => itemViolations e s i x
    | _ => []
  | .itemsFrom start body =>
    match v with
    | .array items =>
      ((items.drop start).zipIdx start).flatMap fun (x, i) => itemViolations e body i x
    | _ => []
  | .noItemsFrom start =>
    match v with
    | .array items =>
      checked (items.drop start).isEmpty (.additionalItems (items.drop start))
    | _ => []
  | .openItems => []
  | .contains least most body =>
    match v with
    | .array items =>
      checked (withinBounds least most (countAccepted e body items)) (.nothingContained v)
    | _ => []
  | .unevaluatedProperties _ =>
    match v with
    | .object members =>
      let names := uncoveredNames e keywords members
      checked names.isEmpty (.unevaluatedProperties names)
    | _ => []
  | .unevaluatedItems _ =>
    match v with
    | .array items =>
      let rest := uncoveredItems e keywords items
      checked rest.isEmpty (.unevaluatedItems rest)
    | _ => []

/-! ### Sub-schemas -/

/-- The sub-schemas of a keyword, in the order in which they are looked at. A reference has none,
because what it leads to stands elsewhere, and neither has a test that decides nothing. -/
def children : Keyword σ → List σ
  | .allOf branches | .anyOf branches | .oneOf branches => branches
  | .not _ body => [body]
  | .conditional _ none none => []
  | .conditional test yes no => test :: yes.toList ++ no.toList
  | .properties entries => entries.map (·.2)
  | .patternProperties entries => entries.map (·.2)
  | .restProperties entries patterns rest =>
    patterns.map (·.2) ++ entries.map (·.2) ++ [rest]
  | .noOtherProperties entries patterns => patterns.map (·.2) ++ entries.map (·.2)
  | .propertyNames body => [body]
  | .dependencies entries =>
    entries.filterMap fun (_, d) =>
      match d with
      | .names _ => none
      | .schema s => some s
  | .dependentSchemas entries => entries.map (·.2)
  | .tuple items => items
  | .itemsFrom _ body => [body]
  | .contains _ _ body => [body]
  | .unevaluatedProperties body => [body]
  | .unevaluatedItems body => [body]
  | _ => []

end Keyword

namespace Evaluator

variable {σ : Type}

/-- The evaluator that accepts everything. -/
def lenient : Evaluator σ where
  accepts _ _ := true
  violations _ _ := []
  coversProperty _ _ _ _ := true
  coversItem _ _ _ _ := true

/-- The evaluator that leaves a question about a value to the one picked for that value. -/
def byValue (pick : Json → Evaluator σ) : Evaluator σ where
  accepts s v := (pick v).accepts s v
  violations s v := (pick v).violations s v
  coversProperty s v name x := (pick v).coversProperty s v name x
  coversItem s v index x := (pick v).coversItem s v index x

/-- One level of evaluation: the schemas read as keywords, and their sub-schemas left to an inner
evaluator. -/
def step (read : σ → List (Keyword σ)) (inner : Evaluator σ) : Evaluator σ where
  accepts s v :=
    let keywords := read s
    keywords.all (Keyword.accepts inner keywords v)
  violations s v :=
    let keywords := read s
    keywords.flatMap (Keyword.violations inner keywords v)
  coversProperty s v name x := (read s).any (Keyword.coversProperty inner v name x)
  coversItem s v index x := (read s).any (Keyword.coversItem inner v index x)

/-- A number of levels of evaluation of values of one depth. Values nested less deep are left to
`inside`, and what is left after the levels to `deeper`. -/
def levels (read : σ → List (Keyword σ)) (inside deeper : Evaluator σ) (depth : Nat) :
    Nat → Evaluator σ
  | 0 => deeper
  | n + 1 => step read (byValue fun v =>
      if v.depth < depth then inside else levels read inside deeper depth n)

/-- The evaluator of the values nested less deep than a bound. Every value is given a budget of
levels, so that a step into a value starts afresh. -/
def within (read : σ → List (Keyword σ)) (deeper : Evaluator σ) (budget : Json → Nat) :
    Nat → Evaluator σ
  | 0 => deeper
  | bound + 1 => byValue fun v =>
      levels read (within read deeper budget bound) deeper v.depth (budget v)

/-- The evaluator of all values, over one for what the budgets do not suffice for. A question that
comes to an end within the budgets has the same answer over every such evaluator. -/
def full (read : σ → List (Keyword σ)) (deeper : Evaluator σ) (budget : Json → Nat) :
    Evaluator σ :=
  byValue fun v => within read deeper budget (v.depth + 1)

end Evaluator

end SchemaGate
