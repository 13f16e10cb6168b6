import SchemaGate.Draft
import SchemaGate.Pointer
import SchemaGate.Schema.Cause
import SchemaGate.Uri

/-!
# `SchemaGate.Schema.Site`: a schema in its place

What a schema means depends on where it stands: its references are read against a base address, and
its draft is inherited from outside. A `Site` is a schema with what it inherits. `Site.enter` goes
from a schema to one inside it, which may name a draft and an address of its own.

A `Fault` is a reason why a schema cannot be used at all.
-/

set_option autoImplicit false

namespace SchemaGate

/-- Why a schema cannot be used. -/
inductive Fault
  /-- No draft has this identifier. -/
  | unknownDraft (identifier : String)
  /-- A text that should be a URI reference is none. -/
  | badReference (text : String) (fault : UriFault)
  /-- A schema of another document is referred to. -/
  | externalSchema (address : String)
  /-- An address that no schema has. -/
  | unknownAddress (address : String)
  /-- A pointer leads nowhere. -/
  | danglingPointer (pointer : String)
  /-- A pointer into an array has no index where it should. -/
  | badIndex (segment pointer : String)
  /-- A pointer decodes to bytes that are no text. -/
  | undecodablePointer (pointer : String)
  /-- No schema has this anchor. -/
  | unknownAnchor (name : String)
  /-- No anchor can have this name. -/
  | badAnchor (name : String)
  /-- A rule for schemas is broken. -/
  | invalid (cause : Cause)
  deriving Inhabited

namespace Fault

/-- An address at which no schema was found, and why none was fetched from there. -/
def notRetrieved (address reason : String) : String :=
  "Resource '" ++ address ++ "' is not present in a registry and retrieving it failed: " ++ reason

/-- The text of a fault. -/
def message : Fault → String
  | .unknownDraft identifier => "Unknown specification: " ++ identifier
  | .badReference text fault => "Invalid URI reference '" ++ text ++ "': " ++ fault.message
  | .externalSchema address =>
    notRetrieved address ("external schema \x60" ++ address ++ "\x60 cannot be retrieved")
  | .unknownAddress address =>
    notRetrieved address
      "Retrieving external resources is not supported once the registry is populated"
  | .danglingPointer pointer => "Pointer '" ++ pointer ++ "' does not exist"
  | .badIndex segment pointer =>
    "Failed to parse array index '" ++ segment ++ "' in pointer '" ++ pointer ++ "'"
  | .undecodablePointer pointer =>
    "Invalid percent encoding in pointer '" ++ pointer
      ++ "': the decoded bytes do not represent valid UTF-8"
  | .unknownAnchor name => "Anchor '" ++ name ++ "' does not exist"
  | .badAnchor name => "Anchor '" ++ name ++ "' is invalid"
  | .invalid cause => cause.message

end Fault

/-- A schema with what it inherits from its place. -/
structure Site where
  /-- The address against which references are read, without a fragment. -/
  base : Uri
  /-- The bases of the schemas whose references led here, the latest first. -/
  scope : List Uri
  /-- The draft by whose rules the schema is read. -/
  draft : Draft
  /-- The schema. -/
  contents : Json
  deriving Inhabited

namespace Site

/-- The address that a schema gives itself: the text of its identifier, unless that is a mere
fragment, or hidden beside a reference. -/
def address? (draft : Draft) (schema : Json) : Option String :=
  if draft.refHidesSiblings && (schema.get? "$ref").isSome then none
  else
    match (schema.get? draft.idKeyword).bind Json.string? with
    | some id => if id.toList.head? = some '#' then none else some id
    | none => none

/-- A reference read against a base, in normal form. A mere fragment leaves the base as it is. -/
def absolute (base : Uri) (reference : String) : Except Fault Uri :=
  match Uri.parse reference with
  | .ok u =>
    if reference.toList.head? = some '#' then .ok { base with fragment := u.fragment }
    else .ok (base.resolve u).normalize
  | .error fault => .error (.badReference reference fault)

/-- The base of a schema whose place has a base. -/
def innerBase (base : Uri) (draft : Draft) (schema : Json) : Except Fault Uri :=
  match address? draft schema with
  | none => .ok base
  | some id => do return { (← absolute base id) with fragment := none }

/-- A schema inside another one. An identifier that is no reference leaves the base as it is. -/
def enter (outer : Site) (schema : Json) : Site :=
  let draft := outer.draft.inner schema
  let base := (innerBase outer.base draft schema).toOption.getD outer.base
  ⟨base, outer.scope, draft, schema⟩

/-- A schema to which a reference leads, seen from where the reference stands. -/
def follow (source target : Site) : Site :=
  let scope :=
    if source.scope.isEmpty || target.base != source.base then source.base :: source.scope
    else source.scope
  { target with scope := scope }

end Site

end SchemaGate
