import SchemaGate.Schema.Keyword
import SchemaGate.Schema.Registry

/-!
# `SchemaGate.Schema.Vocabulary`: the keywords of a schema

`Registry.keywords` reads a schema in its place as a list of keywords, in the order of their names.
A boolean schema reads as no keyword or as the one that nothing satisfies. A member whose name the
draft does not know, or whose value the keyword cannot have, reads as nothing.
-/

set_option autoImplicit false

namespace SchemaGate

attribute [local instance] corePow

namespace Vocabulary

/-- What a member of a schema reads as: nothing, a keyword, or a fault. -/
abbrev Reading := Option (Except Fault (Keyword Site))

/-! ### Values of keywords -/

/-- A limit on a count: an integer that is not negative, or a number without a fraction. -/
def limit? : Json → Option Nat
  | .number n =>
    if n.isIntegral then some (min n.toBinary64.truncate.toNat (2 ^ (64 : Nat) - 1)) else none
  | _ => none

/-- The number of a limit. -/
def number? : Json → Option Number
  | .number n => some n
  | _ => none

/-- The strings of a list. -/
def names? : Json → Option (List String)
  | .array items => items.mapM Json.string?
  | _ => none

/-- The members of an object. -/
def members (v : Json) : Members := v.members?.getD []

/-- Whether a value is the boolean `true`. -/
def isTrue : Json → Bool
  | .bool b => b
  | _ => false

/-- Whether a value is the boolean `false`. -/
def isFalse : Json → Bool
  | .bool b => !b
  | _ => false

/-! ### Keywords -/

/-- A rule without sub-schemas. -/
def rule (a : Assertion) : Reading := some (.ok (.assertion a))

/-- A keyword that can be read. -/
def plain (k : Keyword Site) : Reading := some (.ok k)

/-- The schemas of a list. -/
def schemas (s : Site) : Json → List Site
  | .array items => items.map s.enter
  | _ => []

/-- The schemas of a collection by name. -/
def named (s : Site) (v : Json) : List (String × Site) :=
  (members v).map fun (name, schema) => (name, s.enter schema)

/-- The schemas of a collection by pattern. A text that is no pattern is reported with the schema
under it. -/
def patterned (s : Site) (v : Json) : Except Fault (List (Regex × Site)) :=
  (members v).mapM fun (pattern, schema) =>
    match Regex.parse? pattern with
    | some regex => .ok (regex, s.enter schema)
    | none => .error (.invalid (.badFormat schema Format.regex.name))

/-- The types of a schema. -/
def types? : Json → Option (List JsonType)
  | .string name => (JsonType.ofName? name).map ([·])
  | .array items => some (items.filterMap fun v => v.string?.bind JsonType.ofName?)
  | _ => none

/-- The pattern of a schema. -/
def pattern (v : Json) : Reading :=
  v.string?.map fun text =>
    match Regex.parse? text with
    | some regex => .ok (.assertion (.pattern text regex))
    | none => .error (.invalid (.badFormat v Format.regex.name))

/-- A limit on numbers. In the fourth draft a neighbouring member says whether the limit itself is
excluded. -/
def numberLimit (s : Site) (excluder : String) (openRule closedRule : Number → Assertion)
    (v : Json) : Reading :=
  (number? v).bind fun n =>
    let excluded := s.draft = .draft4 && ((s.contents.get? excluder).map isTrue).getD false
    rule (if excluded then openRule n else closedRule n)

/-- An exclusive limit on numbers, which the fourth draft writes otherwise. -/
def openLimit (s : Site) (make : Number → Assertion) (v : Json) : Reading :=
  if s.draft = .draft4 then none else (number? v).bind fun n => rule (make n)

/-- A limit on a count. -/
def countLimit (make : Nat → Assertion) (v : Json) : Reading :=
  (limit? v).bind fun n => rule (make n)

/-- The schema for properties that have none of their own. A boolean `true` asks nothing; any other
one takes over what the schema says of properties by name and by pattern. -/
def additionalProperties (s : Site) (v : Json) : Reading :=
  let byName := s.contents.get? "properties"
  let byPattern := s.contents.get? "patternProperties"
  match v with
  | .bool true => plain .openProperties
  | .bool false =>
    if byName.isNone && byPattern.isNone then plain .noProperties
    else
      some do
        return .noOtherProperties (named s (byName.getD .null))
          (← patterned s (byPattern.getD .null))
  | v =>
    some do
      return .restProperties (named s (byName.getD .null)) (← patterned s (byPattern.getD .null))
        (s.enter v)

/-- Whether another keyword takes over the properties by name and by pattern. -/
def takesOverProperties (s : Site) : Bool :=
  match s.contents.get? "additionalProperties" with
  | none => false
  | some v => !isTrue v

/-- The schema for all items, or for each item by its place. -/
def items (s : Site) (v : Json) : Reading :=
  match v with
  | .bool true => plain .openItems
  | .array _ =>
    if s.draft = .draft2020 then none else plain (.tuple (schemas s v))
  | v =>
    let start :=
      if s.draft = .draft2020 then
        match s.contents.get? "prefixItems" with
        | some (.array front) => front.length
        | _ => 0
      else 0
    plain (.itemsFrom start (s.enter v))

/-- The schema for items beyond those with a place of their own. -/
def additionalItems (s : Site) (v : Json) : Reading :=
  match s.contents.get? "items" with
  | some (.array front) =>
    match v with
    | .bool true => plain .openItems
    | .bool false => plain (.noItemsFrom front.length)
    | v => plain (.itemsFrom front.length (s.enter v))
  | some (.bool false) => plain .never
  | _ => none

/-- How many items a schema has to accept. -/
def contains (s : Site) (v : Json) : Reading :=
  let bound := fun keyword =>
    if s.draft ≤ .draft7 then none else (s.contents.get? keyword).bind limit?
  let most := bound "maxContains"
  plain (.contains ((bound "minContains").getD 1) most (s.enter v))

/-- A choice by a test. A test without consequences still evaluates. -/
def conditional (s : Site) (v : Json) : Reading :=
  plain (.conditional (s.enter v) ((s.contents.get? "then").map s.enter)
    ((s.contents.get? "else").map s.enter))

/-- What properties ask of the others. -/
def dependencies (s : Site) (v : Json) : Reading :=
  plain (.dependencies ((members v).map fun (name, d) =>
    match names? d with
    | some names => (name, .names names)
    | none => (name, .schema (s.enter d))))

/-- The properties that others ask for. -/
def dependentRequired (v : Json) : Reading :=
  plain (.dependencies ((members v).map fun (name, d) => (name, .names ((names? d).getD []))))

/-- The encoding of strings, which a media type beside it takes over. -/
def contentEncoding (s : Site) (v : Json) : Reading :=
  if (s.contents.get? "contentMediaType").isNone && v.string? == some Assertion.base64Name then
    rule .encoded
  else none

/-- The media type of strings, behind an encoding if there is one. -/
def contentMediaType (s : Site) (v : Json) : Reading :=
  if v.string? != some Assertion.jsonName then none
  else
    match s.contents.get? "contentEncoding" with
    | none => rule .json
    | some encoding =>
      if encoding.string? == some Assertion.base64Name then rule .encodedJson else none

/-- A reference that is followed as it is written. -/
def reference (r : Registry) (s : Site) (v : Json) : Reading :=
  match v with
  | .string text => some do
      let (address, target) ← r.resolve s text
      return .reference address target
  | v => some (.error (.invalid (.notOfType v .string)))

/-- The keyword of a name and a value in a schema, if the draft knows it. -/
def keyword? (r : Registry) (s : Site) (name : String) (v : Json) : Reading :=
  let d := s.draft
  let since := fun (first : Draft) (k : Reading) => if first ≤ d then k else none
  let unlessTaken := fun (k : Reading) => if takesOverProperties s then none else k
  match name with
  | "$ref" => reference r s v
  | "$dynamicRef" =>
    if d = .draft2020 then
      v.string?.map fun text => do
        let (address, target) ← r.resolveDynamic s text
        return .reference address target
    else none
  | "$recursiveRef" =>
    if d = .draft2019 then
      v.string?.map fun text => do
        let (address, target) ← r.resolveRecursive s text
        return .reference address target
    else none
  | "additionalItems" => if d = .draft2020 then none else additionalItems s v
  | "additionalProperties" => additionalProperties s v
  | "allOf" => plain (.allOf (schemas s v))
  | "anyOf" => plain (.anyOf (schemas s v))
  | "const" => since .draft6 (rule (.const v))
  | "contains" => since .draft6 (contains s v)
  | "contentEncoding" => if d ≤ .draft7 then since .draft6 (contentEncoding s v) else none
  | "contentMediaType" => if d ≤ .draft7 then since .draft6 (contentMediaType s v) else none
  | "dependencies" => dependencies s v
  | "dependentRequired" => since .draft2019 (dependentRequired v)
  | "dependentSchemas" => since .draft2019 (plain (.dependentSchemas (named s v)))
  | "enum" =>
    match v with
    | .array options => rule (.enum options)
    | _ => none
  | "exclusiveMaximum" => openLimit s .exclusiveMaximum v
  | "exclusiveMinimum" => openLimit s .exclusiveMinimum v
  | "format" => (v.string?.bind (Format.ofName? d)).bind fun f => rule (.format f)
  | "if" => since .draft7 (conditional s v)
  | "items" => items s v
  | "maxItems" => countLimit .maxItems v
  | "maxLength" => countLimit .maxLength v
  | "maxProperties" => countLimit .maxProperties v
  | "maximum" => numberLimit s "exclusiveMaximum" .exclusiveMaximum .maximum v
  | "minItems" => countLimit .minItems v
  | "minLength" => countLimit .minLength v
  | "minProperties" => countLimit .minProperties v
  | "minimum" => numberLimit s "exclusiveMinimum" .exclusiveMinimum .minimum v
  | "multipleOf" => (number? v).bind fun n => rule (.multipleOf n)
  | "not" => plain (.not v (s.enter v))
  | "oneOf" => plain (.oneOf (schemas s v))
  | "pattern" => pattern v
  | "patternProperties" => unlessTaken (some do return .patternProperties (← patterned s v))
  | "prefixItems" => if d = .draft2020 then plain (.tuple (schemas s v)) else none
  | "properties" => unlessTaken (plain (.properties (named s v)))
  | "propertyNames" =>
    since .draft6 (if isFalse v then plain .noNames else plain (.propertyNames (s.enter v)))
  | "required" => (names? v).bind fun names => rule (.required names)
  | "type" => (types? v).bind fun types => rule (.type (d = .draft4) types)
  | "unevaluatedItems" => since .draft2019 (plain (.unevaluatedItems (s.enter v)))
  | "unevaluatedProperties" => since .draft2019 (plain (.unevaluatedProperties (s.enter v)))
  | "uniqueItems" => if isTrue v then rule .uniqueItems else none
  | _ => none

end Vocabulary

namespace Registry

/-- The keywords of a schema in its place, in the order of their names. In the drafts up to the
seventh a reference hides everything beside it. -/
def keywords (r : Registry) (s : Site) : List (Except Fault (Keyword Site)) :=
  match s.contents with
  | .bool true => []
  | .bool false => [.ok .never]
  | .object members =>
    match members.lookup "$ref" with
    | some (.string ref) =>
      if s.draft.refHidesSiblings then (Vocabulary.reference r s (.string ref)).toList
      else members.filterMap fun (name, v) => Vocabulary.keyword? r s name v
    | _ => members.filterMap fun (name, v) => Vocabulary.keyword? r s name v
  | v => [.error (.invalid (.notOfTypes v [.boolean, .object]))]

/-- The keywords of a schema that can be read. -/
def readable (r : Registry) (s : Site) : List (Keyword Site) :=
  (r.keywords s).filterMap Except.toOption

end Registry

end SchemaGate
