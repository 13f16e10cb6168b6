import SchemaGate.Module.Fragment
import SchemaGate.Text.Alphabetic
import SchemaGate.Text.Blank
import SchemaGate.Text.Debug
import SchemaGate.Text.Numeric

/-!
# `SchemaGate.Module.Basic`: modules for documents

`generate` checks a request first, in a fixed order, and only then puts the text of the module
together: the head, the imports, the engine, the schema, the validators, and helpers for requests if
they are asked for. All names that the text embeds are identifiers by then, and the import path fits
between single quotes.
-/

set_option autoImplicit false

namespace SchemaGate

/-- Why no module is generated. -/
inductive GenerationFault
  | missingTypeNames
  | missingImportPath
  | invalidImportPath (path : String)
  | invalidTypeName (name : String)
  | unknownType (name : String) (available : List String)
  | ambiguousSingleType (names : List String)
  | httpRequiresDefinitions
  deriving DecidableEq, Repr

namespace GenerationFault

/-- The text of a fault. -/
def message : GenerationFault → String
  | .missingTypeNames => "no type names requested"
  | .missingImportPath => "no import path given for the validated types"
  | .invalidImportPath path =>
    "import path " ++ Text.debug path
      ++ " cannot be embedded in a single-quoted module specifier"
  | .invalidTypeName name => "\x60" ++ name ++ "\x60 is not a valid TypeScript identifier"
  | .unknownType name available =>
    "type \x60" ++ name ++ "\x60 is not defined in the schema document (available: "
      ++ ", ".intercalate available ++ ")"
  | .ambiguousSingleType names =>
    "a single-type schema document can only validate one type, got: " ++ ", ".intercalate names
  | .httpRequiresDefinitions =>
    "HTTP integration requires a schema document with multiple named definitions"

end GenerationFault

/-- A generated module. -/
structure Artifact where
  /-- The shape of the document. -/
  shape : Shape
  /-- The types that the module validates, in order. -/
  typeNames : List String
  /-- The text. -/
  text : String
  deriving DecidableEq, Repr

namespace Module

/-! ### Checks -/

/-- The characters that an identifier may start with. -/
def startsIdentifier (c : Char) : Bool := Text.isAlphabetic c || c == '_' || c == '$'

/-- The characters of an identifier after the first. -/
def continuesIdentifier (c : Char) : Bool := startsIdentifier c || Text.isNumeric c

/-- Whether a text is an identifier. -/
def isIdentifier (name : String) : Bool :=
  match name.toList with
  | [] => false
  | c :: rest => startsIdentifier c && rest.all continuesIdentifier

/-- Whether a character cannot stand between single quotes as it is. -/
def breaksQuotes (c : Char) : Bool := c == '\'' || c == '\\' || c == '\n' || c == '\r'

/-- The types to validate, after all checks. -/
def checkedTypeNames (d : Document) (o : GenerationOptions) :
    Except GenerationFault (List String) := do
  let names := o.uniqueTypeNames
  if names.isEmpty then throw .missingTypeNames
  if Text.allBlank o.importPath then throw .missingImportPath
  if o.importPath.toList.any breaksQuotes then throw (.invalidImportPath o.importPath)
  if let some name := names.find? (!isIdentifier ·) then throw (.invalidTypeName name)
  match d.shape with
  | .single =>
    if names.length > 1 then throw (.ambiguousSingleType names)
    if o.emitsHttp then throw .httpRequiresDefinitions
  | .multi =>
    if let some name := names.find? fun name => (d.definition? name).isNone then
      throw (.unknownType name d.definitionNames)
  return names

/-! ### Text -/

/-- The parts at the top of every module. -/
def head (o : GenerationOptions) : List String :=
  [lintMarker, generatedMarker, importInspect, importEngine o.compiler.importStyle]

/-- The parts of a module for one type. -/
def singleParts (d : Document) (o : GenerationOptions) (typeName : String) : List String :=
  let schemaName := typeName ++ "Schema"
  [importType typeName o.importPath o.namedExport, declareEngine o.engine, exportNames [typeName],
    declareSchema schemaName d.root, declareValidateFunction, singleValidator typeName schemaName]

/-- The parts of a module that deal with requests. The signatures by type are there if at least one
of the types declares properties. -/
def requestParts (d : Document) (names : List String) : List String :=
  (if names.any d.hasProperties then
      names.map fun name => requestOverload name (d.requestFields name)
    else [])
    ++ [requestFallback, requestImplementation]

/-- The parts of a module for several types. -/
def multiParts (d : Document) (o : GenerationOptions) (names : List String) : List String :=
  importNames names o.importPath
    :: (if o.emitsHttp then [declareRequestContext] else [])
    ++ [declareEngine o.engine, exportNames names, declareSchema rootKey d.root, addSchema rootKey,
      declareValidateFunction]
    ++ names.map lookupPredicate
    ++ names.map validateOverload
    ++ [validateImplementation]
    ++ if o.emitsHttp then requestParts d names else []

/-- The parts of a module, in order. -/
def parts (d : Document) (o : GenerationOptions) (names : List String) : List String :=
  head o ++
    match d.shape with
    | .single => singleParts d o (names.headD "")
    | .multi => multiParts d o names

/-- The module for a document, or the first reason why there is none. -/
def generate (d : Document) (o : GenerationOptions) : Except GenerationFault Artifact := do
  let names ← checkedTypeNames d o
  return ⟨d.shape, names, lines (parts d o names) ++ "\n"⟩

end Module

end SchemaGate
