import SchemaGate.Proofs.Engine.AllErrors
import SchemaGate.Proofs.Json.Canonical
import SchemaGate.Proofs.Module.Injective

/-!
# `SchemaGate.Proofs.Options.Flags`: two readers of the options of the engine

The options have two readers. An engine asks them whether to coerce values and whether to report all
errors; an emitted module hands the object in force on to code that asks every value for its truth
(`Json.truthy`).

The two agree on most values, and `EngineOptions.flags_in_force` lists the others: zero and the
empty text, which an engine takes for a request to coerce and to report all errors, and `null`,
which it takes for the latter. `EngineOptions.flags_of_empty_values` has options on which the two
differ.
-/

set_option autoImplicit false

namespace SchemaGate

/-! ### Truth of values -/

namespace Json

/-- Whether a value counts as true where code asks it for its truth. `null`, `false`, zero in all
its forms and the empty text do not; everything else does, an empty array or object too. -/
def truthy : Json → Bool
  | .null => false
  | .bool b => b
  | .number (.integer n _) => n != 0
  | .number (.float x) => x.rank != 0
  | .string s => s != ""
  | .array _ => true
  | .object _ => true

/-- The texts and numbers that count as false: the empty text, and zero as an integer and as a float
of either sign. -/
def emptyValues : List Json :=
  [.string "", .number .zero, .number (.float .zero),
    .number (.float { Binary64.zero with negative := true })]

/-- The values that count as false are `null`, `false` and the empty ones, and no others. -/
theorem truthy_eq_false_iff {v : Json} :
    v.truthy = false ↔ v = .null ∨ v = .bool false ∨ v ∈ emptyValues := by
  cases v with
  | null => simp [truthy]
  | bool b => simp [truthy, emptyValues]
  | string s => simp [truthy, emptyValues]
  | array items => simp [truthy, emptyValues]
  | object members => simp [truthy, emptyValues]
  | number n =>
      cases n with
      | integer n h => simp [truthy, emptyValues, Number.zero]
      | float x =>
          obtain ⟨negative, rank, h⟩ := x
          cases negative <;> simp [truthy, emptyValues, Number.zero, Binary64.zero]

/-- A value other than `null` and `false` counts as true, or is one of the empty values. On the
latter the two readers of a flag differ that ask for either. -/
theorem ne_null_and_ne_false_iff {v : Json} :
    v ≠ .null ∧ v ≠ .bool false ↔ v.truthy = true ∨ v ∈ emptyValues := by
  cases htruthy : v.truthy with
  | false =>
      have hempty : v ∈ emptyValues → v ≠ .null ∧ v ≠ .bool false := by
        intro hmem
        constructor <;> rintro rfl <;> simp [emptyValues] at hmem
      have hfalse := truthy_eq_false_iff.1 htruthy
      constructor
      · rintro ⟨hnull, hne⟩
        exact .inr ((hfalse.resolve_left hnull).resolve_left hne)
      · rintro (h | h)
        · cases h
        · exact hempty h
  | true =>
      refine iff_of_true ⟨?_, ?_⟩ (.inl rfl) <;> rintro rfl <;> cases htruthy

/-- A value other than `false` counts as true, or is `null` or one of the empty values. On the
latter the two readers of a flag differ that ask for either. -/
theorem ne_false_iff {v : Json} :
    v ≠ .bool false ↔ v.truthy = true ∨ v = .null ∨ v ∈ emptyValues := by
  by_cases hnull : v = .null
  · rw [hnull]
    simp
  · have hiff := ne_null_and_ne_false_iff (v := v)
    simp only [hnull, ne_eq, not_false_eq_true, true_and, false_or] at hiff ⊢
    exact hiff

end Json

/-! ### Values in force -/

namespace EngineOptions

variable {o : EngineOptions}

/-- The value in force of an option is its override, or else its default. Merging puts the overrides
over the defaults, name by name. -/
theorem lookup_merged (o : EngineOptions) (name : String) :
    o.merged.lookup name = (o.overrides.lookup name).or (defaults.lookup name) := by
  rw [merged, Members.lookup_foldl_insert, Members.lookup_reverse_of_ordered o.canonical.1]

/-- An option with a default always has a value in force, whatever the overrides are. -/
theorem exists_lookup_merged (o : EngineOptions) {name : String}
    (h : (defaults.lookup name).isSome = true) : ∃ v, o.merged.lookup name = some v := by
  obtain ⟨v, hv⟩ := Option.isSome_iff_exists.1 h
  rw [lookup_merged, hv]
  cases o.overrides.lookup name with
  | none => exact ⟨v, rfl⟩
  | some w => exact ⟨w, rfl⟩

/-- Values are to be coerced if the value in force of the option is anything but `null` and `false`.
The engine does not ask whether the value counts as true. -/
theorem coercesTypes_iff {v : Json} (h : o.merged.lookup coercionName = some v) :
    o.coercesTypes = true ↔ v ≠ .null ∧ v ≠ .bool false := by
  rw [coercesTypes, get?, h]
  cases v <;> simp

/-- All errors are to be reported if the value in force of the option is anything but `false`. For a
value that is no truth value the engine takes its default, which is to report all. -/
theorem allErrors_iff {v : Json} (h : o.merged.lookup allErrorsName = some v) :
    o.allErrors = true ↔ v ≠ .bool false := by
  rw [allErrors, get?, h]
  cases v <;> simp

end EngineOptions

/-! ### What the readers do -/

/-- The declaration of the engine in an emitted module has the values in force as the text of its
one argument. The text can be read back, so the code that runs the module gets just these values. -/
theorem Module.exists_declareEngine_eq (o : EngineOptions) : ∃ text,
    declareEngine o = "export const ajv = new Ajv(" ++ text
      ++ ");\n\najv.addMetaSchema(require('ajv/lib/refs/json-schema-draft-06.json'));" ∧
    Json.parse? text = some (.object o.merged) := by
  refine ⟨(Json.object o.merged).stableCompact, ?_, ?_⟩
  · have hend : ");\n\najv.addMetaSchema(require('ajv/lib/refs/json-schema-draft-06.json'));"
        = ");" ++ "\n" ++ "" ++ "\n"
          ++ "ajv.addMetaSchema(require('ajv/lib/refs/json-schema-draft-06.json'));" := by decide
    unfold declareEngine lines
    rw [String.intercalate_cons_cons, String.intercalate_cons_cons, String.intercalate_singleton,
      hend]
    simp only [String.append_assoc]
  · rw [Json.parse?_stableCompact, Json.sortKeys_of_canonical _ o.canonical_merged]

namespace Engine

/-- The predicates of an engine report as much as its options say: all records, or the first one of
these. This holds for every key of the engine, because one setting is passed to all predicates. -/
theorem check_of_build {d : Document} {o : EngineOptions} {e : Engine} (h : build d o = .ok e)
    {key : String} {p : Predicate} (hp : e.predicate? key = some p) (v : Json) :
    p.check v = if o.allErrors then (p.reporting true).check v
      else ((p.reporting true).check v).take 1 := by
  -- The engine is the one of its schemas that reports as much.
  have hown : build d o = (build d o).map (reporting · o.allErrors) := build_reporting d rfl
  rw [h] at hown
  have heq : e = e.reporting o.allErrors := Except.ok.inj hown
  rw [heq, predicate?_reporting] at hp
  obtain ⟨q, -, rfl⟩ := Option.map_eq_some_iff.1 hp
  cases o.allErrors <;> rfl

end Engine

namespace EngineOptions

/-- What the two readers make of the options:

- the emitted module calls the engine with the object in force;
- a build is refused exactly if the value of `coerceTypes` counts as true or is empty;
- the predicates of an engine report all records if the value of `allErrors` counts as true, is
  `null` or is empty, and otherwise the first record only. -/
theorem flags_in_force (o : EngineOptions) :
    (∃ text, Module.declareEngine o = "export const ajv = new Ajv(" ++ text
        ++ ");\n\najv.addMetaSchema(require('ajv/lib/refs/json-schema-draft-06.json'));" ∧
      Json.parse? text = some (.object o.merged)) ∧
    ∃ coercion errors, o.merged.lookup "coerceTypes" = some coercion ∧
      o.merged.lookup "allErrors" = some errors ∧
      (o.coercesTypes = true ↔ coercion.truthy = true ∨ coercion ∈ Json.emptyValues) ∧
      (o.allErrors = true ↔
        errors.truthy = true ∨ errors = .null ∨ errors ∈ Json.emptyValues) ∧
      (∀ d, Engine.build d o = .error (.unsupported "coerceTypes") ↔ o.coercesTypes = true) ∧
      ∀ d e, Engine.build d o = .ok e → ∀ key p, e.predicate? key = some p → ∀ v,
        p.check v = if o.allErrors then (p.reporting true).check v
          else ((p.reporting true).check v).take 1 := by
  have hcoercion : (defaults.lookup coercionName).isSome = true := rfl
  have herrors : (defaults.lookup allErrorsName).isSome = true := rfl
  obtain ⟨coercion, hcoercion⟩ := exists_lookup_merged o hcoercion
  obtain ⟨errors, herrors⟩ := exists_lookup_merged o herrors
  refine ⟨Module.exists_declareEngine_eq o, coercion, errors, hcoercion, herrors, ?_, ?_,
    fun d => Engine.build_eq_unsupported_iff,
    fun d e he key p hp v => Engine.check_of_build he hp v⟩
  · rw [coercesTypes_iff hcoercion, Json.ne_null_and_ne_false_iff]
  · rw [allErrors_iff herrors, Json.ne_false_iff]

/-- Without overrides nothing is coerced and all records are reported. The document
`Engine.bodyDocument` has an engine then, whose root reports all of its records about every
value. -/
theorem flags_in_force_default : default.coercesTypes = false ∧ default.allErrors = true ∧
    ∃ e p, Engine.build Engine.bodyDocument default = .ok e ∧ e.root? = some p ∧
      ∀ v, p.check v = (p.reporting true).check v := by
  obtain ⟨-, coercion, errors, hcoercion, herrors, hcoerces, hreports, -, hcheck⟩ :=
    flags_in_force default
  obtain rfl : Json.bool false = coercion := Option.some.inj hcoercion
  obtain rfl : Json.bool true = errors := Option.some.inj herrors
  have hall : default.allErrors = true := hreports.2 (.inl rfl)
  obtain ⟨e, he⟩ := Engine.exists_build_bodyDocument
  obtain ⟨p, -, hroot⟩ := (Engine.registers_of_build he).root
  have hnot : default.coercesTypes = false := by
    rw [Bool.eq_false_iff, ne_eq, hcoerces]
    simp [Json.truthy, Json.emptyValues]
  refine ⟨hnot, hall, e, p, he, hroot, fun v => ?_⟩
  rw [hcheck _ e he _ p hroot v, if_pos hall]

/-- Options that ask for coercion by a zero, which counts as false. -/
def zeroCoercion : EngineOptions := default.set coercionName (.number .zero)

/-- Options that ask for all errors by `null`, which counts as false. -/
def nullErrors : EngineOptions := default.set allErrorsName .null

/-- A schema that asks for two properties, so that an empty object breaks two rules. -/
def twoRequiredDocument : Document :=
  ⟨_, Json.canonical_ofList [
    ("$schema", .string "http://json-schema.org/draft-07/schema#"),
    ("required", .array [.string "a", .string "b"])]⟩

/-- A zero counts as false, and yet an engine takes it as a request to coerce and refuses every
build. `null` counts as false, and yet an engine reports two records under it, where the first one
alone would be reported if errors were not to be collected. -/
theorem flags_of_empty_values :
    ((∃ v, zeroCoercion.merged.lookup "coerceTypes" = some v ∧ v.truthy = false) ∧
      zeroCoercion.coercesTypes = true ∧
      ∀ d, Engine.build d zeroCoercion = .error (.unsupported "coerceTypes")) ∧
    (∃ v, nullErrors.merged.lookup "allErrors" = some v ∧ v.truthy = false) ∧
      nullErrors.allErrors = true ∧
      ∃ e p, Engine.build twoRequiredDocument nullErrors = .ok e ∧ e.root? = some p ∧
        (p.check (.object [])).length = 2 := by
  have hcoerces : zeroCoercion.coercesTypes = true := by decide
  have hbuild : (Engine.build twoRequiredDocument nullErrors).toOption.any (fun e =>
      e.root?.any fun p => (p.check (.object [])).length == 2) = true := by decide +kernel
  obtain ⟨e, he, hreports⟩ := exists_ok_of_any hbuild
  cases hp : e.root? with
  | none => rw [hp] at hreports; cases hreports
  | some p =>
      rw [hp] at hreports
      exact ⟨⟨⟨_, rfl, rfl⟩, hcoerces, fun d => Engine.build_of_coerces hcoerces⟩,
        ⟨_, rfl, rfl⟩, by decide, e, p, he, hp, beq_iff_eq.1 hreports⟩

end EngineOptions

end SchemaGate
