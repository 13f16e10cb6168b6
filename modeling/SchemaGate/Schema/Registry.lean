import SchemaGate.MetaSchema.Draft2019
import SchemaGate.MetaSchema.Draft2020
import SchemaGate.MetaSchema.Draft4
import SchemaGate.MetaSchema.Draft6
import SchemaGate.MetaSchema.Draft7
import SchemaGate.Schema.Site

/-!
# `SchemaGate.Schema.Registry`: schemas by address

All schemas that a schema may refer to: the ones inside it that have an address or an anchor, and
the schemas of schemas. `Registry.ofSchema` collects them and refuses references to any other
document; `Registry.resolve` follows a reference.

A registry is a table that is filled in the order in which schemas are found, so of two schemas with
one address the later one counts. The schemas of schemas come first, then the whole schema, then
what stands inside it, level by level: a schema can take the address of any schema around it.
-/

set_option autoImplicit false

namespace SchemaGate

/-! ### Sub-schemas by position -/

namespace Draft

/-- The keywords whose value is a schema. -/
def schemaKeywords : Draft → List String
  | .draft4 => ["additionalItems", "additionalProperties", "not"]
  | .draft6 => ["additionalItems", "additionalProperties", "contains", "not", "propertyNames"]
  | .draft7 =>
    ["additionalItems", "additionalProperties", "contains", "else", "if", "not", "propertyNames",
      "then"]
  | .draft2019 =>
    ["additionalItems", "additionalProperties", "contains", "contentSchema", "else", "if", "not",
      "propertyNames", "then", "unevaluatedItems", "unevaluatedProperties"]
  | .draft2020 =>
    ["additionalProperties", "contains", "contentSchema", "else", "if", "items", "not",
      "propertyNames", "then", "unevaluatedItems", "unevaluatedProperties"]

/-- The keywords whose value is a list of schemas. -/
def listKeywords : Draft → List String
  | .draft2020 => ["allOf", "anyOf", "oneOf", "prefixItems"]
  | _ => ["allOf", "anyOf", "oneOf"]

/-- The keywords whose value is a collection of schemas by name. -/
def mapKeywords : Draft → List String
  | .draft2019 | .draft2020 =>
    ["$defs", "definitions", "dependentSchemas", "patternProperties", "properties"]
  | _ => ["definitions", "patternProperties", "properties"]

/-- The schemas in the value of a keyword. -/
def subschemasOf (d : Draft) (keyword : String) (value : Json) : List Json :=
  if d.schemaKeywords.contains keyword then
    if value.isObject || !d ≤ .draft4 then [value] else []
  else if d.listKeywords.contains keyword then
    match value with
    | .array items => items
    | _ => []
  else if d.mapKeywords.contains keyword then
    match value with
    | .object members => members.map (·.2)
    | _ => []
  else if keyword = "items" then
    match value with
    | .array items => items
    | value => [value]
  else if keyword = "dependencies" && d.refHidesSiblings then
    match value with
    | .object members => (members.map (·.2)).filter Json.isObject
    | _ => []
  else []

/-- The schemas directly inside a schema. -/
def subschemas (d : Draft) (schema : Json) : List Json :=
  match schema with
  | .object members => members.flatMap fun (keyword, value) => d.subschemasOf keyword value
  | _ => []

/-- The anchors that a schema gives itself; the flag marks those that a later schema may override
along the path of references. -/
def anchors (d : Draft) (schema : Json) : List (List Char × Bool) :=
  let text := fun keyword => ((schema.get? keyword).bind Json.string?).toList
  if d.refHidesSiblings then
    if (schema.get? "$ref").isSome then []
    else (text d.idKeyword).filterMap fun id =>
      match id.toList with
      | '#' :: name => some (name, false)
      | _ => none
  else
    (text "$anchor").map (fun name => (name.toList, false))
      ++ if d = .draft2020 then (text "$dynamicAnchor").map fun name => (name.toList, true) else []

end Draft

/-! ### Registries -/

/-- Where a schema can be found by name. -/
structure Anchor where
  /-- The address of the document part it belongs to. -/
  base : Uri
  /-- The name. -/
  name : List Char
  /-- Whether an outer schema may override it. -/
  isDynamic : Bool
  /-- The schema. -/
  site : Site

/-- Schemas by address and by anchor, in the order in which they were found. -/
structure Registry where
  /-- The schemas that have an address. -/
  resources : List (Uri × Site)
  /-- The anchors. -/
  anchors : List Anchor
  deriving Inhabited

namespace Registry

/-- The registry without schemas. -/
def empty : Registry := ⟨[], []⟩

/-- The registry of both; what the second one holds was found later. -/
def append (a b : Registry) : Registry := ⟨a.resources ++ b.resources, a.anchors ++ b.anchors⟩

/-- A schema that is not part of another one, in its place. -/
def rootSite (base : Uri) (draft : Draft) (schema : Json) : Except Fault Site := do
  return ⟨← Site.innerBase base draft schema, [], draft, schema⟩

/-- What a schema adds by itself. -/
def ofSite (isResource : Bool) (s : Site) : Registry :=
  ⟨if isResource then [(s.base, s)] else [],
    (s.draft.anchors s.contents).map fun (name, isDynamic) => ⟨s.base, name, isDynamic, s⟩⟩

/-- The addresses of the families of schemas of schemas. -/
def knownFamilies : List String :=
  ["https://json-schema.org/draft/2020-12/", "https://json-schema.org/draft/2019-09/",
    "http://json-schema.org/draft-07/", "http://json-schema.org/draft-06/",
    "http://json-schema.org/draft-04/"]

/-- The address, without its fragment, of the document that a schema refers to directly, if that
may be another one. -/
def externalAddress? (s : Site) : Except Fault (Option Uri) :=
  match (s.contents.get? "$ref").bind Json.string? with
  | none => .ok none
  | some ref =>
    if knownFamilies.any (fun f => f.toList.isPrefixOf ref.toList)
        || ref.toList.head? == some '#' then .ok none
    else do return some { (← Site.absolute s.base ref) with fragment := none }

/-- A schema found inside another one: its draft has to be known, and its address to be one. -/
def inner (outer : Site) (schema : Json) : Except Fault Site := do
  let draft ←
    match Draft.declared? schema with
    | none => pure outer.draft
    | some id =>
      match Draft.ofIdentifier? id with
      | some d => pure d
      | none => throw (.unknownDraft (Draft.trim id))
  let base ← Site.innerBase outer.base draft schema
  return ⟨base, [], draft, schema⟩

/-- The schemas of a level and of all levels below, level by level, with the documents they refer
to. The first argument bounds the number of levels. -/
def collect : Nat → List Site → Except Fault (Registry × List Uri)
  | 0, _ => .ok (empty, [])
  | _, [] => .ok (empty, [])
  | fuel + 1, level => do
    let found ← level.mapM fun s => do
      let children ← (s.draft.subschemas s.contents).mapM (inner s)
      let external ← children.mapM externalAddress?
      return (children, external.filterMap id)
    let children := found.flatMap (·.1)
    let addressed := children.map fun c =>
      ofSite (Site.address? c.draft c.contents).isSome c
    let (deeper, external) ← collect fuel children
    return (addressed.foldr append deeper, found.flatMap (·.2) ++ external)

/-- The address of a schema that gives itself none. -/
def defaultBase : Uri := ⟨some "json-schema".toList, some [], ['/'], none, none⟩

/-- The address of a schema of schemas, by the scheme and path that its identifier has. -/
def metaAddress (scheme path : String) : Uri :=
  ⟨some scheme.toList, some "json-schema.org".toList, path.toList, none, none⟩

/-- The schemas of schemas of a draft with their addresses, the one for whole schemas first. -/
def metaSchemasOf (d : Draft) : List (Uri × Json) :=
  match d with
  | .draft4 => [(metaAddress "http" "/draft-04/schema", MetaSchema.draft4)]
  | .draft6 => [(metaAddress "http" "/draft-06/schema", MetaSchema.draft6)]
  | .draft7 => [(metaAddress "http" "/draft-07/schema", MetaSchema.draft7)]
  | .draft2019 => [
    (metaAddress "https" "/draft/2019-09/schema", MetaSchema.draft2019),
    (metaAddress "https" "/draft/2019-09/meta/core", MetaSchema.core2019),
    (metaAddress "https" "/draft/2019-09/meta/applicator", MetaSchema.applicator2019),
    (metaAddress "https" "/draft/2019-09/meta/validation", MetaSchema.validation2019),
    (metaAddress "https" "/draft/2019-09/meta/meta-data", MetaSchema.metaData2019),
    (metaAddress "https" "/draft/2019-09/meta/format", MetaSchema.format2019),
    (metaAddress "https" "/draft/2019-09/meta/content", MetaSchema.content2019)]
  | .draft2020 => [
    (metaAddress "https" "/draft/2020-12/schema", MetaSchema.draft2020),
    (metaAddress "https" "/draft/2020-12/meta/core", MetaSchema.core2020),
    (metaAddress "https" "/draft/2020-12/meta/applicator", MetaSchema.applicator2020),
    (metaAddress "https" "/draft/2020-12/meta/unevaluated", MetaSchema.unevaluated2020),
    (metaAddress "https" "/draft/2020-12/meta/validation", MetaSchema.validation2020),
    (metaAddress "https" "/draft/2020-12/meta/meta-data", MetaSchema.metaData2020),
    (metaAddress "https" "/draft/2020-12/meta/format-annotation", MetaSchema.formatAnnotation2020),
    (metaAddress "https" "/draft/2020-12/meta/content", MetaSchema.content2020)]

/-- The registry of the schemas of schemas of a draft. None of them has an address or an anchor
inside. -/
def ofMetaSchemas (d : Draft) : Registry :=
  ((metaSchemasOf d).map fun (base, schema) => ofSite true ⟨base, [], d, schema⟩).foldr append empty

/-- All schemas of schemas. -/
def metaSchemas : Registry :=
  (Draft.all.map ofMetaSchemas).foldr append empty

/-- No less than the number of values in all schemas of schemas. -/
def metaSchemaWeight : Nat := 1200

/-- The schema at an address: of several, the one that was found last. -/
def resource? (r : Registry) (address : Uri) : Option Site := r.resources.reverse.lookup address

/-- The schema with an anchor: of several, the one that was found last. -/
def anchor? (r : Registry) (base : Uri) (name : List Char) : Option Anchor :=
  r.anchors.reverse.find? fun a => a.base == base && a.name == name

/-- The registry of a whole schema and its place in it. -/
def ofSchema (draft : Draft) (schema : Json) : Except Fault (Registry × Site) := do
  let root ← rootSite defaultBase draft schema
  let direct ← externalAddress? root
  let (below, indirect) ← collect schema.size [root]
  let external := direct.toList ++ indirect
  let r := metaSchemas.append ((ofSite true root).append below)
  match external.find? fun address => (r.resource? address).isNone with
  | some address => throw (.externalSchema address.write)
  | none => return (r, root)

/-! ### References -/

/-- The schema at the end of a path of segments as they are written. -/
def walk (pointer : String) (s : Site) : List (List Char) → Except Fault Site
  | [] => .ok s
  | segment :: rest =>
    match Pointer.step s.contents segment with
    | .ok contents => walk pointer (s.enter contents) rest
    | .error .missing => .error (.danglingPointer pointer)
    | .error (.badIndex segment) => .error (.badIndex segment pointer)

/-- The schema that a fragment names inside a schema with an address. -/
def locate (r : Registry) (s : Site) (fragment : List Char) : Except Fault Site :=
  match fragment with
  | [] => .ok s
  | '/' :: rest =>
    match Text.Percent.decode? rest with
    | some cs => walk (String.ofList fragment) s (Pointer.splitSegments cs)
    | none => .error (.undecodablePointer (String.ofList fragment))
  | _ =>
    match r.anchor? s.base fragment with
    | some a => .ok { a.site with scope := s.scope }
    | none =>
      if fragment.contains '/' then .error (.badAnchor (String.ofList fragment))
      else .error (.unknownAnchor (String.ofList fragment))

/-- A reference as the address of a document, against a base, and a fragment as it is written. -/
def splitReference (base : Uri) (reference : String) :
    Except Fault (Uri × List Char) := do
  -- All of the reference has to be well formed, its fragment too.
  let address ← Site.absolute base reference
  match reference.toList with
  | '#' :: fragment => return (base, fragment)
  | cs =>
    let fragment := (cs.reverse.takeWhile (· != '#')).reverse
    return ({ address with fragment := none },
      if cs.contains '#' then fragment else [])

/-- The schema that a reference leads to, with its address. -/
def resolve (r : Registry) (s : Site) (reference : String) : Except Fault (Uri × Site) := do
  let (document, fragment) ← splitReference s.base reference
  match r.resource? document with
  | none => throw (.unknownAddress document.write)
  | some target =>
    let found ← r.locate (s.follow target) fragment
    return ({ document with fragment := some fragment }, found)

/-- The schema that a reference leads to that outer schemas may redirect: of the outer schemas with
the same anchor the outermost, if the anchor allows it. -/
def resolveDynamic (r : Registry) (s : Site) (reference : String) :
    Except Fault (Uri × Site) := do
  let (address, found) ← r.resolve s reference
  let name := address.fragment.getD []
  match r.anchor? { address with fragment := none } name with
  | some ⟨_, _, true, _⟩ =>
    let outer := found.scope.foldl (fun (last : Site) base =>
      match r.anchor? base name with
      | some ⟨_, _, true, site⟩ => { site with scope := found.scope }
      | _ => last) found
    return (address, outer)
  | _ => return (address, found)

/-- Whether a schema lets outer schemas take its place. -/
def isRecursiveAnchor (schema : Json) : Bool :=
  match schema.get? "$recursiveAnchor" with
  | some (.bool b) => b
  | _ => false

/-- The outermost schema, of those whose references led here without a gap, that may take the place
of this one. -/
def outermostRecursive (r : Registry) (last : Site) : List Uri → Site
  | [] => last
  | base :: rest =>
    match r.resource? base with
    | some s =>
      if isRecursiveAnchor s.contents then outermostRecursive r { s with scope := last.scope } rest
      else last
    | none => last

/-- The schema that a recursive reference leads to. -/
def resolveRecursive (r : Registry) (s : Site) (reference : String) :
    Except Fault (Uri × Site) := do
  let (address, found) ← r.resolve s reference
  if isRecursiveAnchor found.contents then
    return (address, r.outermostRecursive found found.scope)
  else return (address, found)

end Registry

end SchemaGate
