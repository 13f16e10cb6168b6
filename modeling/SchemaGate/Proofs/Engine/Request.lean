import SchemaGate.Engine.Request
import SchemaGate.Proofs.Engine.Dispatch
import SchemaGate.Proofs.Module.Requests

/-!
# `SchemaGate.Proofs.Engine.Request`: which request fields a guard checks

A guard looks its validators up under the keys of a type's request fields. There is one exactly if
the type declares the field or another type spells the key (`isSome_validator_iff`).

An emitted module reads the same declarations off the document. `guard_agrees_with_module` compares
the two for every type of a module: where no type spells the key of a field, the guard checks it
exactly if the module takes its type from the named type, and by the schema declared for it; where
one does, the guard checks the field by that type. `guard_spelledKey` is a document where the two
disagree for this reason.
-/

set_option autoImplicit false

namespace SchemaGate

namespace RequestGuard

open Engine (build Registers AnswersTo)

/-- A guard holds a validator for a field exactly if the type declares the field, or the key of the
field is spelled by a type. -/
theorem isSome_validator_iff {d : Document} {allErrors : Bool} {e : Engine}
    (h : Registers d allErrors e) (t : String) (f : RequestField) :
    ((forType e t).validator f).isSome = true ↔
      (t ∈ e.typeNames ∧ f ∈ d.requestFields t) ∨ t ++ "/properties/" ++ f.name ∈ e.typeNames := by
  show (e.predicate? (registryKey t (some f))).isSome = true ↔ _
  rw [h.keys, registryKey_field, Engine.mem_keys_iff_answersTo h, AnswersTo, String.append_assoc]
  constructor
  · rintro (hname | ⟨u, hu, g, hg, heq⟩)
    · exact .inr hname
    · -- Only one type and one field have this path.
      rw [String.append_assoc] at heq
      obtain ⟨rfl, rfl⟩ := append_path_inj.1 heq
      exact .inl ⟨hu, hg⟩
  · rintro (⟨ht, hf⟩ | hname)
    · exact .inr ⟨t, ht, f, hf, by rw [String.append_assoc]; rfl⟩
    · exact .inl hname

/-- If a module of several types is generated from a document, then each of its types is a type of
the document. -/
theorem mem_definitionNames_of_generate {d : Document} {o : GenerationOptions} {a : Artifact}
    (h : Module.generate d o = .ok a) (hshape : d.shape = .multi) {t : String}
    (ht : t ∈ a.typeNames) : t ∈ d.definitionNames := by
  obtain ⟨haccepts, rfl⟩ := Module.generate_eq_ok_iff.1 h
  exact Document.mem_definitionNames_iff.2 (haccepts.multi hshape t ht)

/-- The request fields that a module constrains and those that a guard checks:

- the module takes the type of a field from the named type exactly if that type declares the field;
- if no type spells the key of the field, the guard checks the field exactly if the module takes its
  type from the named type, and then by the schema that the type declares for it;
- if a type spells the key, the guard checks the field by that type, whatever the module says. -/
theorem guard_agrees_with_module {d : Document} {o : GenerationOptions} {a : Artifact}
    {oe : EngineOptions} {e : Engine} (ha : Module.generate d o = .ok a)
    (hshape : d.shape = .multi) (hhttp : o.emitsHttp = true) (he : build d oe = .ok e)
    {t : String} (ht : t ∈ a.typeNames) (f : RequestField) :
    (Module.typesField a.text t f = true ↔ f ∈ d.requestFields t) ∧
    (t ++ "/properties/" ++ f.name ∉ d.definitionNames →
      (Module.typesField a.text t f = true ↔ ((forType e t).validator f).isSome = true) ∧
      ∀ p, (forType e t).validator f = some p →
        Predicate.compile (d.partSchema (Document.typePointer t (some f))) oe.allErrors = .ok p) ∧
    (t ++ "/properties/" ++ f.name ∈ d.definitionNames →
      ∃ p, (forType e t).validator f = some p ∧ Predicate.compile (d.partSchema
        (Document.typePointer (t ++ "/properties/" ++ f.name) none)) oe.allErrors = .ok p) := by
  have hregisters := Engine.registers_of_build he
  have htypes : ∀ u, u ∈ e.typeNames ↔ u ∈ d.definitionNames := fun u =>
    hregisters.mem_typeNames.trans (and_iff_right hshape)
  have hdefined : t ∈ e.typeNames := (htypes t).2 (mem_definitionNames_of_generate ha hshape ht)
  have hdeclared := Module.typesField_iff ha hshape hhttp ht f
  refine ⟨hdeclared, fun hname => ?_, fun hname => ?_⟩
  · rw [← htypes] at hname
    have hsome : ((forType e t).validator f).isSome = true ↔ f ∈ d.requestFields t := by
      rw [isSome_validator_iff hregisters]
      simp [hdefined, hname]
    refine ⟨hdeclared.trans hsome.symm, fun p hp => ?_⟩
    -- The field is declared, so its registration is the last under its key.
    have hf : f ∈ d.requestFields t := hsome.1 (by rw [hp]; rfl)
    obtain ⟨q, hcompile, hfind⟩ := hregisters.fields t hdefined f hf hname
    have heq : p = q := Option.some.inj (hp.symm.trans hfind)
    rw [heq]
    exact hcompile
  · obtain ⟨p, hcompile, hfind⟩ := hregisters.types _ ((htypes _).2 hname)
    refine ⟨p, ?_, hcompile⟩
    show e.predicate? (registryKey t (some f)) = some p
    rw [registryKey_field, RequestField.path, ← String.append_assoc]
    exact hfind

/-- The options for a module of the type `A` alone, with the helpers for requests. -/
def exampleOptions : GenerationOptions :=
  { typeNames := ["A"], importPath := "./a", emitsHttp := true }

/-- A document with several types, one of which is called `A`, gives a module of this type with the
example options. -/
theorem exists_generate {d : Document} (hshape : d.shape = .multi)
    (hdefined : (d.definition? "A").isSome = true) :
    ∃ a, Module.generate d exampleOptions = .ok a ∧ a.typeNames = ["A"] := by
  have haccepts : Module.Accepts d exampleOptions :=
    ⟨by decide, by decide, by decide, by decide,
      fun h => absurd (hshape.symm.trans h) (by decide), fun _ => by
        intro name hname
        rw [List.mem_singleton.1 hname]
        exact hdefined⟩
  exact ⟨_, Module.generate_eq_ok_iff.2 ⟨haccepts, rfl⟩, rfl⟩

/-- For the type `A` with a body, the module takes the type of the body from `A` exactly if the
guard of `A` checks the body, and the type of the query exactly if the guard checks the query. -/
theorem guard_agrees_with_module_bodyDocument : ∃ a e,
    Module.generate Engine.bodyDocument exampleOptions = .ok a ∧
      build Engine.bodyDocument .default = .ok e ∧ "A" ∈ a.typeNames ∧
      (Module.typesField a.text "A" .body = true ↔
        ((forType e "A").validator .body).isSome = true) ∧
      (Module.typesField a.text "A" .query = true ↔
        ((forType e "A").validator .query).isSome = true) := by
  have hshape : Engine.bodyDocument.shape = .multi := by decide
  obtain ⟨a, ha, hnames⟩ := exists_generate hshape (by decide)
  obtain ⟨e, he⟩ := Engine.exists_build_bodyDocument
  have hmem : "A" ∈ a.typeNames := by rw [hnames]; exact List.mem_singleton.2 rfl
  have hagrees := guard_agrees_with_module ha hshape rfl he hmem
  exact ⟨a, e, ha, he, hmem, ((hagrees .body).2.1 (by decide)).1,
    ((hagrees .query).2.1 (by decide)).1⟩

/-- A document with two types: one that declares no body, and one whose name spells the path of the
body of the first. -/
def spelledDocument : Document :=
  ⟨_, Json.canonical_ofList [
    ("$schema", .string "http://json-schema.org/draft-07/schema#"),
    ("definitions", .object [("A", .object [("properties", .object [])]),
      ("A/properties/body", .object [("type", .string "string")])])]⟩

/-- A key spelled by a type misleads the guard. The module leaves the body of `A` open, because `A`
declares none, and yet the guard of `A` checks it by the other type. -/
theorem guard_spelledKey : ∃ a e, Module.generate spelledDocument exampleOptions = .ok a ∧
    build spelledDocument .default = .ok e ∧ "A" ∈ a.typeNames ∧
    Module.typesField a.text "A" .body = false ∧
    ((forType e "A").validator .body).isSome = true := by
  have hshape : spelledDocument.shape = .multi := by decide
  obtain ⟨a, ha, hnames⟩ := exists_generate hshape (by decide)
  have hmem : "A" ∈ a.typeNames := by rw [hnames]; exact List.mem_singleton.2 rfl
  have hbuild : (build spelledDocument .default).toOption.isSome = true := by decide +kernel
  obtain ⟨e, he⟩ := exists_ok_of_isSome hbuild
  have hregisters := Engine.registers_of_build he
  have hfield : Module.typesField a.text "A" .body = false := by
    rw [Bool.eq_false_iff, Ne, Module.typesField_iff ha hshape rfl hmem]
    decide
  have hspelled : ((forType e "A").validator .body).isSome = true := by
    rw [isSome_validator_iff hregisters]
    exact .inr (hregisters.mem_typeNames.2 ⟨hshape, by decide⟩)
  exact ⟨a, e, ha, he, hmem, hfield, hspelled⟩

end RequestGuard

end SchemaGate
