import SchemaGate.Options.Engine

/-!
# `SchemaGate.Options.Generation`: options of a generation

What a run of the generator needs beside the document: the names of the types and where to import
them from, options of the engine, and the compiler options that decide how the engine is imported.
Both records are saved as objects and read back from objects or from lists of their fields; a field
that is absent keeps its default.
-/

set_option autoImplicit false

namespace SchemaGate

/-- How the emitted module imports the engine. -/
inductive ImportStyle
  /-- By a default import. -/
  | default
  /-- By an import assignment. -/
  | require
  deriving DecidableEq, Repr

/-- The name of an import style. -/
def ImportStyle.name : ImportStyle → String
  | .default => "default"
  | .require => "require"

/-- The compiler options of the project that the emitted module becomes part of. -/
structure CompilerOptions where
  /-- Whether default imports of modules without a default export are allowed. -/
  allowSyntheticDefaultImports : Option Bool := none
  /-- Whether such imports are made to work. -/
  esModuleInterop : Option Bool := none
  /-- The module system. -/
  moduleSystem : Option String := none
  deriving DecidableEq, Repr, Inhabited

namespace CompilerOptions

/-- How the engine is imported. The names of module systems are compared without regard to case. -/
def importStyle (o : CompilerOptions) : ImportStyle :=
  let system := o.moduleSystem.map String.toLower
  let synthetic := o.allowSyntheticDefaultImports.getD false
  let interop := o.esModuleInterop.getD false
    && system.any fun m => "es".toList.isPrefixOf m.toList
  if synthetic || interop || system == some "system" then .default else .require

/-- The names of the fields, in order. -/
def fields : List String := ["allowSyntheticDefaultImports", "esModuleInterop", "module"]

/-- A value that may be absent as JSON. -/
def optionalJson {α : Type} (write : α → Json) : Option α → Json
  | none => .null
  | some x => write x

/-- The options as JSON. -/
def toJson (o : CompilerOptions) : Json :=
  .object [
    ("allowSyntheticDefaultImports", optionalJson .bool o.allowSyntheticDefaultImports),
    ("esModuleInterop", optionalJson .bool o.esModuleInterop),
    ("module", optionalJson .string o.moduleSystem)]

/-- One field of the options. -/
def readField (field : String) (v : Json) (o : CompilerOptions) :
    Except DecodeFault CompilerOptions :=
  match field with
  | "allowSyntheticDefaultImports" => do
    return { o with allowSyntheticDefaultImports := ← Decode.optional Decode.bool v }
  | "esModuleInterop" => do return { o with esModuleInterop := ← Decode.optional Decode.bool v }
  | _ => do return { o with moduleSystem := ← Decode.optional Decode.string v }

/-- The options from JSON. -/
def ofJson : Decoder CompilerOptions := Decode.record "CompilerOptions" fields readField {}

/-- The options in a project configuration; a configuration without any has the default ones. -/
def ofConfiguration (configuration : Json) : Except DecodeFault CompilerOptions :=
  match configuration.get? "compilerOptions" with
  | some v => ofJson v
  | none => .ok {}

end CompilerOptions

/-- The options of a generation. -/
structure GenerationOptions where
  /-- The options of the engine in the emitted module. -/
  engine : EngineOptions := .default
  /-- The compiler options. -/
  compiler : CompilerOptions := {}
  /-- Whether helpers for requests are emitted. -/
  emitsHttp : Bool := false
  /-- The types to validate, in order. -/
  typeNames : List String := []
  /-- Where the types are imported from. -/
  importPath : String := ""
  /-- Whether the type of a document for one type is imported by name. -/
  namedExport : Bool := false
  deriving Inhabited

namespace GenerationOptions

/-- A list of names without repetitions, the first of each kept. `seen` holds the names before the
list. -/
def distinct (seen : List String) : List String → List String
  | [] => []
  | name :: rest =>
    if seen.contains name then distinct seen rest else name :: distinct (name :: seen) rest

/-- The types to validate, each once. -/
def uniqueTypeNames (o : GenerationOptions) : List String := distinct [] o.typeNames

/-- The names of the fields, in order. -/
def fields : List String :=
  ["validationEngineOptions", "compilerOptions", "emitHttpIntegration", "typeNames", "importPath",
    "namedExport"]

/-- The options as JSON. -/
def toJson (o : GenerationOptions) : Json :=
  .object [
    ("compilerOptions", o.compiler.toJson), ("emitHttpIntegration", .bool o.emitsHttp),
    ("importPath", .string o.importPath), ("namedExport", .bool o.namedExport),
    ("typeNames", .array (o.typeNames.map .string)), ("validationEngineOptions", o.engine.toJson)]

/-- One field of the options. -/
def readField (field : String) (v : Json) (o : GenerationOptions) :
    Except DecodeFault GenerationOptions :=
  match field with
  | "validationEngineOptions" => do return { o with engine := ← EngineOptions.ofJson v }
  | "compilerOptions" => do return { o with compiler := ← CompilerOptions.ofJson v }
  | "emitHttpIntegration" => do return { o with emitsHttp := ← Decode.bool v }
  | "typeNames" => do return { o with typeNames := ← Decode.list Decode.string v }
  | "importPath" => do return { o with importPath := ← Decode.string v }
  | _ => do return { o with namedExport := ← Decode.bool v }

/-- The options from JSON. -/
def ofJson : Decoder GenerationOptions := Decode.record "GenerationOptions" fields readField {}

end GenerationOptions

end SchemaGate
