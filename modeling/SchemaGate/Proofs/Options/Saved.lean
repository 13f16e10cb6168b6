import SchemaGate.Module.Basic
import SchemaGate.Proofs.Decode

/-!
# `SchemaGate.Proofs.Options.Saved`: saved options are read back

Options are saved as an object, and are read from an object or from the list of their fields; an
object may have members of other names, and so may the compiler options inside.
`GenerationOptions.Saved` has all the forms that options come back from, and the engine options keep
their overrides and gain none (`EngineOptions.ofJson_toJson`).

`GenerationOptions.saved_options` says that options are what is read from each of these forms, so
that a generation has the same outcome, and that saving is one of them.
-/

set_option autoImplicit false

namespace SchemaGate

/-! ### Options of the engine -/

namespace EngineOptions

/-- Options of the engine are the same if their overrides are. That these are canonical is a fact
about them and adds nothing. -/
theorem ext_overrides {o o' : EngineOptions} (h : o.overrides = o'.overrides) : o = o' := by
  obtain ⟨overrides, hcanonical⟩ := o
  obtain ⟨overrides', hcanonical'⟩ := o'
  subst h
  rfl

/-- Options of the engine are read back from what they are saved as. The overrides come back one by
one, and defaults are not added to them. -/
theorem ofJson_toJson (o : EngineOptions) : ofJson o.toJson = .ok o := by
  have hread : Decode.map (fun v => .ok v) o.toJson = .ok (o.overrides.map id) :=
    mapM_eq_ok_map fun _ _ => rfl
  have hsorted := Json.sortKeys_of_canonical _ o.canonical
  rw [ofJson, hread, List.map_id]
  refine congrArg Except.ok (ext_overrides ?_)
  exact Json.object.inj hsorted

end EngineOptions

/-! ### Compiler options -/

namespace CompilerOptions

/-- The values of the fields of compiler options as they are saved, in the order of the fields. -/
def values (o : CompilerOptions) : List Json :=
  [optionalJson .bool o.allowSyntheticDefaultImports, optionalJson .bool o.esModuleInterop,
    optionalJson .string o.moduleSystem]

/-- The forms that compiler options are read from: an object with the value of each field under its
name, whatever it has under other names, or the list of the values. -/
inductive Saved (o : CompilerOptions) : Json → Prop
  | object {members : Members} (hordered : members.Ordered)
      (hfields : ∀ f ∈ fields, members.lookup f = (fields.zip o.values).lookup f) :
      Saved o (.object members)
  | list : Saved o (.array o.values)

/-- A truth value that may be missing is read back from what it is saved as, `null` if it is
missing. -/
theorem optional_bool (x : Option Bool) :
    Decode.optional Decode.bool (optionalJson .bool x) = .ok x := by
  cases x <;> rfl

/-- A text that may be missing is read back from what it is saved as, `null` if it is missing. -/
theorem optional_string (x : Option String) :
    Decode.optional Decode.string (optionalJson .string x) = .ok x := by
  cases x <;> rfl

/-- The fields of compiler options are declared in the order of their names, so an object has them
in the order in which they are read. -/
theorem pairwise_fields : fields.Pairwise (· < ·) := by decide

/-- What compiler options are saved as is one of the forms that they are read from. -/
theorem saved_toJson (o : CompilerOptions) : o.Saved o.toJson :=
  .object (Members.ordered_of_names pairwise_fields) fun _ _ => rfl

/-- From each of their forms compiler options are read as they were, all fields included. -/
theorem ofJson_of_saved {o : CompilerOptions} {v : Json} (h : o.Saved v) : ofJson v = .ok o := by
  cases h with
  | @object members hordered hfields =>
      have hsynthetic : members.lookup "allowSyntheticDefaultImports"
          = some (optionalJson .bool o.allowSyntheticDefaultImports) := hfields _ (by decide)
      have hinterop : members.lookup "esModuleInterop"
          = some (optionalJson .bool o.esModuleInterop) := hfields _ (by decide)
      have hsystem : members.lookup "module"
          = some (optionalJson .string o.moduleSystem) := hfields _ (by decide)
      rw [ofJson, Decode.record_of_ordered hordered pairwise_fields (.refl _), fields]
      simp [hsynthetic, hinterop, hsystem, readField, optional_bool, optional_string, bind,
        Except.bind, pure, Except.pure]
  | list =>
      simp [ofJson, Decode.record, fields, values, readField, optional_bool, optional_string, bind,
        Except.bind, pure, Except.pure]

end CompilerOptions

/-! ### Options of a generation -/

namespace GenerationOptions

/-- The values of the fields of generation options as they are saved, in the order of the fields.
The compiler options are a parameter because they have several forms of their own. -/
def values (o : GenerationOptions) (compiler : Json) : List Json :=
  [o.engine.toJson, compiler, .bool o.emitsHttp, .array (o.typeNames.map .string),
    .string o.importPath, .bool o.namedExport]

/-- The forms that generation options are read from: an object with the value of each field under
its name, whatever it has under other names, or the list of the values. The compiler options inside
have any of their forms. -/
inductive Saved (o : GenerationOptions) : Json → Prop
  | object {compiler : Json} {members : Members} (hcompiler : o.compiler.Saved compiler)
      (hordered : members.Ordered)
      (hfields : ∀ f ∈ fields, members.lookup f = (fields.zip (o.values compiler)).lookup f) :
      Saved o (.object members)
  | list {compiler : Json} (hcompiler : o.compiler.Saved compiler) :
      Saved o (.array (o.values compiler))

/-- The names of the fields of generation options in the order in which an object has them, which is
not the one in which they are declared. -/
def namesInOrder : List String :=
  ["compilerOptions", "emitHttpIntegration", "importPath", "namedExport", "typeNames",
    "validationEngineOptions"]

/-- The list `namesInOrder` is in the order of names, as it says. -/
theorem pairwise_namesInOrder : namesInOrder.Pairwise (· < ·) := by decide

/-- What generation options are saved as is one of the forms that they are read from. -/
theorem saved_toJson (o : GenerationOptions) : o.Saved o.toJson := by
  refine .object o.compiler.saved_toJson (Members.ordered_of_names pairwise_namesInOrder)
    fun f hf => ?_
  simp only [fields, List.mem_cons, List.not_mem_nil, or_false] at hf
  rcases hf with rfl | rfl | rfl | rfl | rfl | rfl <;> rfl

/-- From each of their forms generation options are read as they were, all fields included. -/
theorem ofJson_of_saved {o : GenerationOptions} {v : Json} (h : o.Saved v) : ofJson v = .ok o := by
  have hstring : ∀ s, Decode.string (.string s) = .ok s := fun _ => rfl
  have hnames := Decode.list_map hstring o.typeNames
  cases h with
  | @object compiler members hcompiler hordered hfields =>
      have hengine : members.lookup "validationEngineOptions" = some o.engine.toJson :=
        hfields _ (by decide)
      have hcompiled : members.lookup "compilerOptions" = some compiler := hfields _ (by decide)
      have hhttp : members.lookup "emitHttpIntegration" = some (.bool o.emitsHttp) :=
        hfields _ (by decide)
      have htypes : members.lookup "typeNames" = some (.array (o.typeNames.map .string)) :=
        hfields _ (by decide)
      have hpath : members.lookup "importPath" = some (.string o.importPath) :=
        hfields _ (by decide)
      have hexport : members.lookup "namedExport" = some (.bool o.namedExport) :=
        hfields _ (by decide)
      rw [ofJson, Decode.record_of_ordered hordered pairwise_namesInOrder (by decide), namesInOrder]
      simp [hengine, hcompiled, hhttp, htypes, hpath, hexport, readField,
        EngineOptions.ofJson_toJson, CompilerOptions.ofJson_of_saved hcompiler, hnames, Decode.bool,
        Decode.string, bind, Except.bind, pure, Except.pure]
  | list hcompiler =>
      simp [ofJson, Decode.record, fields, values, readField, EngineOptions.ofJson_toJson,
        CompilerOptions.ofJson_of_saved hcompiler, hnames, Decode.bool, Decode.string, bind,
        Except.bind, pure, Except.pure]

/-- Options survive being saved and read back:

- they are saved in one of the forms that they have, and the list of their fields is another one;
- from each form the options are read, so that every generation has the outcome that it has for
  them;
- members that are no fields can be left out of an object, or put into it, without a difference to
  what is read, both for options and for the compiler options inside;
- whatever options are read from a value, they are read again from what they are saved as. -/
theorem saved_options :
    (∀ o : GenerationOptions, o.Saved o.toJson ∧ o.Saved (.array (o.values o.compiler.toJson))) ∧
    (∀ (o : GenerationOptions) (v : Json), o.Saved v → ofJson v = .ok o ∧
      ∀ d, (ofJson v).map (Module.generate d) = .ok (Module.generate d o)) ∧
    (∀ members : Members, ofJson (.object (members.filter fun m => fields.contains m.1))
      = ofJson (.object members)) ∧
    (∀ members : Members, CompilerOptions.ofJson
        (.object (members.filter fun m => CompilerOptions.fields.contains m.1))
      = CompilerOptions.ofJson (.object members)) ∧
    ∀ (v : Json) (o : GenerationOptions), ofJson v = .ok o → ofJson o.toJson = .ok o := by
  refine ⟨fun o => ⟨o.saved_toJson, .list o.compiler.saved_toJson⟩, fun o v h => ?_,
    Decode.record_filter, Decode.record_filter, fun v o _ => ofJson_of_saved o.saved_toJson⟩
  have hread := ofJson_of_saved h
  refine ⟨hread, fun d => ?_⟩
  rw [hread]
  rfl

/-- Options in which one value of the engine and two fields of the compiler are `null`, the values
that are easiest to lose. -/
def sparseOptions : GenerationOptions where
  engine := EngineOptions.default.set "nullable" .null
  compiler := { moduleSystem := some "es2020" }
  typeNames := ["A", "A"]
  importPath := "./types"

/-- A form of the compiler options of `sparseOptions` with a member that is no field. -/
def sparseCompiler : Members :=
  [("allowSyntheticDefaultImports", .null), ("esModuleInterop", .null),
    ("module", .string "es2020"), ("strict", .bool true)]

/-- A form of `sparseOptions` with a member that is no field. -/
def sparseMembers : Members :=
  [("compilerOptions", .object sparseCompiler), ("emitHttpIntegration", .bool false),
    ("extends", .string "./base"), ("importPath", .string "./types"), ("namedExport", .bool false),
    ("typeNames", .array [.string "A", .string "A"]),
    ("validationEngineOptions", .object [("nullable", .null)])]

/-- The options `sparseOptions` are read from the form with members that are no fields, and again
from what they are saved as. -/
theorem saved_options_sparse : ofJson (.object sparseMembers) = .ok sparseOptions ∧
    ofJson sparseOptions.toJson = .ok sparseOptions := by
  obtain ⟨-, hread, -, -, hagain⟩ := saved_options
  have hcompiler : sparseOptions.compiler.Saved (.object sparseCompiler) := by
    refine .object (Members.ordered_of_names (by decide)) fun f hf => ?_
    simp only [CompilerOptions.fields, List.mem_cons, List.not_mem_nil, or_false] at hf
    rcases hf with rfl | rfl | rfl <;> rfl
  have hsaved : sparseOptions.Saved (.object sparseMembers) := by
    refine .object hcompiler (Members.ordered_of_names (by decide)) fun f hf => ?_
    simp only [fields, List.mem_cons, List.not_mem_nil, or_false] at hf
    rcases hf with rfl | rfl | rfl | rfl | rfl | rfl <;> rfl
  have hfirst := (hread _ _ hsaved).1
  exact ⟨hfirst, hagain _ _ hfirst⟩

end GenerationOptions

end SchemaGate
