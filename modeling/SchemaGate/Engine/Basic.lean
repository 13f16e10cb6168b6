import SchemaGate.Document
import SchemaGate.Options.Engine
import SchemaGate.Predicate

/-!
# `SchemaGate.Engine.Basic`: the predicates of a document

An engine holds one predicate for the root of a document and, if the document has several types, one
for each type and for each request field of a type. A type is checked through a small schema that
keeps the definitions of the document and refers to the type by a pointer.

Predicates are registered in order. Of two under one key the later one counts.
-/

set_option autoImplicit false

namespace SchemaGate

/-- Why an engine cannot be built. -/
inductive EngineFault
  /-- An option asks for what the engine does not do. -/
  | unsupported (option : String)
  /-- The schema of a key cannot be used. -/
  | uncompilable (key : String) (fault : Fault)

/-- The text of a fault. -/
def EngineFault.message : EngineFault → String
  | .unsupported option => "validation engine option \x60" ++ option ++ "\x60 is not supported"
  | .uncompilable key fault =>
    "failed to compile schema \x60" ++ key ++ "\x60: " ++ fault.message

/-- The predicates of a document. -/
structure Engine where
  /-- The shape of the document. -/
  shape : Shape
  /-- The types, in order; none if the document describes a single one. -/
  typeNames : List String
  /-- The predicates by key, in the order of registration. -/
  predicates : List (String × Predicate)

namespace Document

/-- The members of the root that a schema for a part of the document keeps. -/
def keptKeywords : List String := ["$schema", "definitions"]

/-- The pointer to a type, or to a request field of it. -/
def typePointer (typeName : String) : Option RequestField → Pointer
  | none => ["definitions", typeName]
  | some f => ["definitions", typeName, "properties", f.name]

/-- A reference to a part of the document. -/
def reference (p : Pointer) : Json := .object [("$ref", .string ("#" ++ p.fragment))]

/-- The schema of a part of the document: what the part accepts, with the definitions that it may
refer to. -/
def partSchema (d : Document) (p : Pointer) : Json :=
  let kept := keptKeywords.filterMap fun k => (d.members.lookup k).map fun v => (k, v)
  .ofMembers (kept ++ [("allOf", .array [reference p])])

/-- The schemas of a type and its request fields, with their keys. -/
def typeRegistrations (d : Document) (typeName : String) : List (String × Json) :=
  (none :: (d.requestFields typeName).map some).map fun field =>
    (registryKey typeName field, d.partSchema (typePointer typeName field))

/-- The schemas of a document with their keys, in order. -/
def registrations (d : Document) : List (String × Json) :=
  (rootKey, d.root) ::
    match d.shape with
    | .single => []
    | .multi => d.definitionNames.flatMap d.typeRegistrations

end Document

namespace Engine

/-- The predicates of registered schemas, in order, or the first fault. -/
def compileAll (allErrors : Bool) (schemas : List (String × Json)) :
    Except EngineFault (List (String × Predicate)) :=
  schemas.mapM fun (key, schema) =>
    match Predicate.compile schema allErrors with
    | .ok p => .ok (key, p)
    | .error fault => .error (.uncompilable key fault)

/-- The engine of a document. Coercion of values is refused. -/
def build (d : Document) (options : EngineOptions) : Except EngineFault Engine := do
  if options.coercesTypes then throw (.unsupported EngineOptions.coercionName)
  let predicates ← compileAll options.allErrors d.registrations
  let typeNames := match d.shape with
    | .single => []
    | .multi => d.definitionNames
  return ⟨d.shape, typeNames, predicates⟩

/-- The predicate under a key. -/
def predicate? (e : Engine) (key : String) : Option Predicate := e.predicates.reverse.lookup key

/-- The predicate of the document root. -/
def root? (e : Engine) : Option Predicate := e.predicate? rootKey

end Engine

end SchemaGate
