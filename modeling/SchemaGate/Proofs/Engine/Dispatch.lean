import SchemaGate.Engine.Dispatch
import SchemaGate.Proofs.Engine.Registration

/-!
# `SchemaGate.Proofs.Engine.Dispatch`: which names an engine answers to

A name is looked up under the key of a type of this name. The keys of types and of request fields
are concatenations of the same kind, so the path of a field that a type declares reads as one more
name. `mem_keys_iff_answersTo` reads the names off the keys of the registrations.

`dispatch_iff` is the outcome: an engine answers to the names of its types and to the paths of their
request fields, and to any other name there is no validator. `dispatch_fieldPath` is an engine that
answers to such a path, although no type has it as its name.
-/

set_option autoImplicit false

namespace SchemaGate

namespace Engine

/-- The names that an engine of a document answers to: its types, and the paths of the request
fields that they declare. -/
def AnswersTo (d : Document) (e : Engine) (name : String) : Prop :=
  name ∈ e.typeNames ∨
    ∃ t ∈ e.typeNames, ∃ f ∈ d.requestFields t, name = t ++ "/properties/" ++ f.name

/-- An engine has the types of a document if the document is one of several types, and otherwise it
has no types at all. -/
theorem Registers.mem_typeNames {d : Document} {allErrors : Bool} {e : Engine}
    (h : Registers d allErrors e) {t : String} :
    t ∈ e.typeNames ↔ d.shape = .multi ∧ t ∈ d.definitionNames := by
  rw [h.typeNames]
  cases d.shape <;> simp

/-- A name reads as the key of a registration exactly if the engine answers to it, that is if it is
the name of a type or the path of a request field that a type declares. -/
theorem mem_keys_iff_answersTo {d : Document} {allErrors : Bool} {e : Engine}
    (h : Registers d allErrors e) (name : String) :
    registryKey name none ∈ d.registrations.map (·.1) ↔ AnswersTo d e name := by
  have hroot : registryKey name none ≠ rootKey := registryKey_ne_rootKey name none
  have hnames := h.typeNames
  unfold AnswersTo Document.registrations
  cases hshape : d.shape with
  | single =>
      rw [hshape] at hnames
      simp [hnames, hroot]
  | multi =>
      rw [hshape] at hnames
      -- A key among those of a type `t` is the one of `t` or of a field that `t` declares.
      have hkeys : ∀ t, registryKey name none ∈ (d.typeRegistrations t).map (·.1) ↔
          name = t ∨ ∃ f ∈ d.requestFields t, name = t ++ "/properties/" ++ f.name := by
        intro t
        simp only [Document.mem_keys_typeRegistrations, registryKey_none_inj,
          registryKey_none_eq_field_iff, RequestField.path, String.append_assoc]
      rw [List.map_cons, List.mem_cons, List.map_flatMap, List.mem_flatMap, hnames]
      constructor
      · rintro (hkey | ⟨t, ht, hkey⟩)
        · exact absurd hkey hroot
        · rcases (hkeys t).1 hkey with rfl | hfield
          · exact .inl ht
          · exact .inr ⟨t, ht, hfield⟩
      · rintro (ht | ⟨t, ht, hfield⟩)
        · exact .inr ⟨name, ht, (hkeys name).2 (.inl rfl)⟩
        · exact .inr ⟨t, ht, (hkeys t).2 (.inr hfield)⟩

/-- A name is looked up under the key that it reads as without a field. If nothing is found, then
this key is what the refusal carries. -/
theorem typePredicate_eq (e : Engine) (name : String) :
    e.typePredicate name = match e.predicate? (registryKey name none) with
      | some p => .ok p
      | none => .error (.noValidator (registryKey name none)) := rfl

/-- In an engine of several types the validator for a name is found by looking the name up as the
name of a type. -/
theorem resolve_of_multi {e : Engine} (h : e.shape = .multi) (name : String) :
    SingleValidator.resolve e name = (e.typePredicate name).map (SingleValidator.mk name) := by
  rw [SingleValidator.resolve, h, SingleValidator.key, typePredicate_eq]
  cases e.predicate? (registryKey name none) <;> rfl

/-- A name has a predicate exactly if something is registered under the key that the name reads
as. -/
theorem exists_typePredicate_iff (e : Engine) (name : String) :
    (∃ p, e.typePredicate name = .ok p) ↔ (e.predicate? (registryKey name none)).isSome = true := by
  rw [typePredicate_eq]
  cases e.predicate? (registryKey name none) <;> simp

/-- The names that an engine answers to, each with what it finds:

- the lookup of a predicate, and of a validator among several types, succeeds exactly for the names
  of types and the paths of the request fields that they declare;
- the name of a type finds the predicate of this type, and a path that is no type's name the
  predicate of the field;
- for any other name the key is reported under which there is no validator, and no value is
  valid. -/
theorem dispatch_iff {d : Document} {o : EngineOptions} {e : Engine} (h : build d o = .ok e)
    (name : String) :
    ((∃ p, e.typePredicate name = .ok p) ↔ AnswersTo d e name) ∧
    (e.shape = .multi → ((∃ s, SingleValidator.resolve e name = .ok s) ↔ AnswersTo d e name)) ∧
    (name ∈ e.typeNames → ∃ p, e.typePredicate name = .ok p ∧
      Predicate.compile (d.partSchema (Document.typePointer name none)) o.allErrors = .ok p) ∧
    (name ∉ e.typeNames → ∀ t ∈ e.typeNames, ∀ f ∈ d.requestFields t,
      name = t ++ "/properties/" ++ f.name → ∃ p, e.typePredicate name = .ok p ∧
        Predicate.compile (d.partSchema (Document.typePointer t (some f))) o.allErrors = .ok p) ∧
    (¬ AnswersTo d e name →
      e.typePredicate name = .error (.noValidator ("Schema#/definitions/" ++ name)) ∧
      (e.shape = .multi → SingleValidator.resolve e name
        = .error (.noValidator ("Schema#/definitions/" ++ name))) ∧
      ∀ v, e.isValid name v = false ∧
        e.validate name v = .error (.noValidator ("Schema#/definitions/" ++ name))) := by
  have hregisters := registers_of_build h
  have hiff : (∃ p, e.typePredicate name = .ok p) ↔ AnswersTo d e name := by
    rw [exists_typePredicate_iff, hregisters.keys, mem_keys_iff_answersTo hregisters]
  refine ⟨hiff, fun hmulti => ?_, fun hname => ?_, fun hname t ht f hf hpath => ?_, fun hnot => ?_⟩
  · rw [← hiff, resolve_of_multi hmulti]
    cases e.typePredicate name <;> simp [Except.map]
  · obtain ⟨p, hcompile, hfind⟩ := hregisters.types name hname
    exact ⟨p, by rw [typePredicate_eq, hfind], hcompile⟩
  · obtain ⟨p, hcompile, hfind⟩ := hregisters.fields t ht f hf (hpath ▸ hname)
    -- The key of the field is the key of a type that has the path as its name.
    have hkey : registryKey t (some f) = registryKey name none := by
      rw [registryKey_field, hpath, RequestField.path, String.append_assoc]
    exact ⟨p, by rw [typePredicate_eq, ← hkey, hfind], hcompile⟩
  · have herror :
        e.typePredicate name = .error (.noValidator ("Schema#/definitions/" ++ name)) := by
      cases hp : e.typePredicate name with
      | ok p => exact absurd (hiff.1 ⟨p, hp⟩) hnot
      | error refusal =>
          -- The only refusal of a lookup names the key.
          rw [typePredicate_eq] at hp
          split at hp
          · cases hp
          · cases hp
            rfl
    refine ⟨herror, fun hmulti => by rw [resolve_of_multi hmulti, herror]; rfl, fun v => ?_⟩
    rw [isValid, validate, herror]
    exact ⟨rfl, rfl⟩

/-- The engine of the document with the one type `A` answers to the path of the field that this type
declares, and finds no predicate for the name `B`. -/
theorem dispatch_iff_bodyDocument : ∃ e, build bodyDocument .default = .ok e ∧
    ((∃ p, e.typePredicate "A/properties/body" = .ok p) ↔
      AnswersTo bodyDocument e "A/properties/body") ∧
    e.typePredicate "B" = .error (.noValidator "Schema#/definitions/B") := by
  obtain ⟨e, he⟩ := exists_build_bodyDocument
  have hnames : e.typeNames = ["A"] := (registers_of_build he).typeNames
  have hfields : bodyDocument.requestFields "A" = [.body] := by decide
  have hnot : ¬ AnswersTo bodyDocument e "B" := by
    simp only [AnswersTo, hnames, hfields, List.mem_singleton, exists_eq_left]
    decide
  exact ⟨e, he, (dispatch_iff he "A/properties/body").1, ((dispatch_iff he "B").2.2.2.2 hnot).1⟩

/-- A path that is no name of a type is answered. In the engine of the document with the one type
`A`, the text `A/properties/body` is not among the names of types, but there is a predicate and also
a validator for it. -/
theorem dispatch_fieldPath : ∃ e, build bodyDocument .default = .ok e ∧ e.shape = .multi ∧
    "A/properties/body" ∉ e.typeNames ∧ (∃ p, e.typePredicate "A/properties/body" = .ok p) ∧
    ∃ s, SingleValidator.resolve e "A/properties/body" = .ok s := by
  obtain ⟨e, he⟩ := exists_build_bodyDocument
  have hregisters := registers_of_build he
  have hshape : e.shape = .multi := hregisters.shape.trans (by decide)
  have hnames : e.typeNames = ["A"] := hregisters.typeNames
  have hfind : ∃ p, e.typePredicate "A/properties/body" = .ok p := by
    rw [exists_typePredicate_iff, hregisters.keys]
    decide
  refine ⟨e, he, hshape, by simp [hnames], hfind, ?_⟩
  obtain ⟨p, hp⟩ := hfind
  exact ⟨⟨_, p⟩, by rw [resolve_of_multi hshape, hp]; rfl⟩

end Engine

end SchemaGate
