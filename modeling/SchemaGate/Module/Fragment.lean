import SchemaGate.Document
import SchemaGate.Json.Printer
import SchemaGate.Options.Generation

/-!
# `SchemaGate.Module.Fragment`: the parts of an emitted module

The emitted module is TypeScript for the validation engine `ajv`. Every definition here is a piece
of its text; which pieces a module has, and in which order, is not decided here.
-/

set_option autoImplicit false

namespace SchemaGate.Module

/-- Lines of text. -/
def lines (texts : List String) : String := "\n".intercalate texts

/-- A text between braces. -/
def braced (text : String) : String := "\x7b" ++ text ++ "\x7d"

/-- Names separated by commas, between braces. -/
def bracedNames (names : List String) : String := braced (", ".intercalate names)

/-! ### Head of the module -/

/-- Switches a style checker off. -/
def lintMarker : String := "/* tslint:disable */"

/-- Says that the module is generated. -/
def generatedMarker : String := "// generated by typeguard"

/-- Imports the printer of offending values. -/
def importInspect : String := "import inspect from 'util-inspect';"

/-- Imports the engine. -/
def importEngine : ImportStyle → String
  | .default => "import Ajv from 'ajv';"
  | .require => "import Ajv = require('ajv');"

/-- Imports types by name. -/
def importNames (names : List String) (path : String) : String :=
  "import " ++ bracedNames names ++ " from '" ++ path ++ "';"

/-- Imports a type as the default export. -/
def importDefault (name path : String) : String := "import " ++ name ++ " from '" ++ path ++ "';"

/-- Imports one type, by name or as the default export. -/
def importType (name path : String) (namedExport : Bool) : String :=
  if namedExport then importNames [name] path else importDefault name path

/-! ### Engine and schema -/

/-- The instance of the engine, and the schema of schemas that it needs beside its own. -/
def declareEngine (options : EngineOptions) : String :=
  lines [
    "export const ajv = new Ajv(" ++ (Json.object options.merged).stableCompact ++ ");",
    "",
    "ajv.addMetaSchema(require('ajv/lib/refs/json-schema-draft-06.json'));"]

/-- Exports the imported types again. -/
def exportNames (names : List String) : String := "export " ++ bracedNames names ++ ";"

/-- A schema as a constant. -/
def declareSchema (name : String) (schema : Json) : String :=
  "export const " ++ name ++ " = " ++ schema.stablePretty ++ ";"

/-- Registers a schema constant under its name. -/
def addSchema (name : String) : String := "ajv.addSchema(" ++ name ++ ", '" ++ name ++ "');"

/-- The type of functions that check values. -/
def declareValidateFunction : String :=
  "export type ValidateFunction<T> = ((data: unknown) => data is T) & "
    ++ "Pick<Ajv.ValidateFunction, 'errors'>;"

/-- The type of the function that checks values of a type. -/
def validateFunctionOf (typeName : String) : String := "ValidateFunction<" ++ typeName ++ ">"

/-- The call that compiles a schema. -/
def compileSchema (schemaName typeName : String) : String :=
  "ajv.compile(" ++ schemaName ++ ") as " ++ validateFunctionOf typeName

/-- Drops the errors that only say which branch of a conditional was taken. -/
def dropConditional : String := ".filter((e: any) => e.keyword !== 'if')"

/-! ### Validators -/

/-- The predicate of the one type of a module and the function that throws unless it holds. -/
def singleValidator (typeName schemaName : String) : String :=
  lines [
    "export const is" ++ typeName ++ " = " ++ compileSchema schemaName typeName ++ ";",
    "export default function validate(value: unknown): " ++ typeName ++ " \x7b",
    "  if (is" ++ typeName ++ "(value)) \x7b",
    "    return value;",
    "  \x7d else \x7b",
    "    throw new Error(",
    "      ajv.errorsText(is" ++ typeName ++ ".errors!" ++ dropConditional ++ ", "
      ++ braced ("dataVar: '" ++ typeName ++ "'") ++ ") +",
    "      '\\n\\n' +",
    "      inspect(value),",
    "    );",
    "  \x7d",
    "\x7d"]

/-- The predicate of a type, looked up under its key. -/
def lookupPredicate (typeName : String) : String :=
  "export const is" ++ typeName ++ " = ajv.getSchema('" ++ registryKey typeName none ++ "')! as "
    ++ validateFunctionOf typeName ++ ";"

/-- The signature of `validate` for a type. -/
def validateOverload (typeName : String) : String :=
  "export function validate(typeName: '" ++ typeName ++ "'): (value: unknown) => " ++ typeName
    ++ ";"

/-- The key of the type that a variable of the emitted code names, as a template of that code. -/
def keyTemplate (rest : String) : String :=
  "\x60" ++ registryKey ("$" ++ braced "typeName") none ++ rest ++ "\x60"

/-- The body of `validate`. -/
def validateImplementation : String :=
  lines [
    "export function validate(typeName: string): (value: unknown) => any \x7b",
    "  const validator: any = ajv.getSchema(" ++ keyTemplate "" ++ ");",
    "  return (value: unknown): any => \x7b",
    "    if (!validator) \x7b",
    "      throw new Error(\x60No validator defined for "
      ++ registryKey ("$" ++ braced "typeName") none ++ "\x60);",
    "    \x7d",
    "",
    "    const valid = validator(value);",
    "",
    "    if (!valid) \x7b",
    "      throw new Error(",
    "        'Invalid ' + typeName + ': ' + ajv.errorsText(validator.errors!" ++ dropConditional
      ++ ", " ++ braced "dataVar: typeName" ++ "),",
    "      );",
    "    \x7d",
    "",
    "    return value as any;",
    "  \x7d;",
    "\x7d"]

/-! ### Requests -/

/-- What the helpers for requests need to know of a request. -/
def declareRequestContext : String :=
  lines [
    "export interface KoaContext \x7b",
    "  readonly request?: unknown; // " ++ braced "body?: unknown",
    "  readonly params?: unknown;",
    "  readonly query?: unknown;",
    "  throw(status: 400, message: string): unknown;",
    "\x7d"]

/-- The signature of the request check for any name. -/
def requestFallback : String :=
  lines [
    "export function validateKoaRequest(typeName: string): (ctx: KoaContext) => \x7b",
    "  params: unknown,",
    "  query: unknown,",
    "  body: unknown,",
    "\x7d;"]

/-- The type of a request field: a member of the named type if that declares it. -/
def requestFieldType (typeName : String) (declared : List RequestField) (field : RequestField) :
    String :=
  if declared.contains field then typeName ++ "['" ++ field.name ++ "']" else "unknown"

/-- The signature of the request check for a type that declares some request fields. -/
def requestOverload (typeName : String) (declared : List RequestField) : String :=
  let member := fun (f : RequestField) =>
    "  " ++ f.name ++ ": " ++ requestFieldType typeName declared f ++ ","
  lines (
    ("export function validateKoaRequest(typeName: '" ++ typeName
      ++ "'): (ctx: KoaContext) => \x7b")
    :: RequestField.all.map member ++ ["\x7d;"])

/-- The body of the request check. -/
def requestImplementation : String :=
  let lookup := fun (f : RequestField) =>
    "  const " ++ f.name ++ " = ajv.getSchema(" ++ keyTemplate ("/properties/" ++ f.name) ++ ");"
  let inspected :=
    "params: ctx.params, query: ctx.query, body: ctx.request && (ctx.request as any).body"
  lines (
    ["export function validateKoaRequest(typeName: string): (ctx: KoaContext) => \x7b",
      "  params: any,",
      "  query: any,",
      "  body: any,",
      "\x7d \x7b"]
    ++ RequestField.all.map lookup
    ++ ["  const validateProperty = (",
      "    prop: string,",
      "    validator: any,",
      "    ctx: KoaContext,",
      "  ): any => \x7b",
      "    const data = prop === 'body' ? ctx.request && (ctx.request as any).body : "
        ++ "(ctx as any)[prop];",
      "    if (validator) \x7b",
      "      const valid = validator(data);",
      "",
      "      if (!valid) \x7b",
      "        ctx.throw(",
      "          400,",
      "          'Invalid request: ' + ajv.errorsText(validator.errors!" ++ dropConditional ++ ", "
        ++ braced "dataVar: prop" ++ ") + '\\n\\n' + inspect(" ++ braced inspected ++ "),",
      "        );",
      "      \x7d",
      "    \x7d",
      "    return data;",
      "  \x7d;",
      "  return (ctx) => \x7b",
      "    return \x7b"]
    ++ RequestField.all.map (fun f =>
      "      " ++ f.name ++ ": validateProperty('" ++ f.name ++ "', " ++ f.name ++ ", ctx),")
    ++ ["    \x7d;",
      "  \x7d;",
      "\x7d"])

end SchemaGate.Module
