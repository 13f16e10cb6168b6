import SchemaGate.Proofs.Engine.Dispatch
import SchemaGate.Proofs.Engine.SelfContained
import SchemaGate.Proofs.Predicate

/-!
# `SchemaGate.Proofs.Engine.RootConstraint`: what the root of several types asks for

The root of a document with several types has no keyword that makes it a type of its own. That does
not keep it from asking for something: a draft knows more keywords than those
(`overlookedKeywords`), and each of them can refuse a value by itself (`Draft.exists_refused`). All
others read as nothing at such a root (`keyword?_of_not_overlooked`), so a root without an
overlooked keyword accepts every value (`root_accepts_of_not_overlooked`).
-/

set_option autoImplicit false

namespace SchemaGate

namespace Draft

/-- The keywords by which a root can refuse a value in every draft although they do not make it a
type. -/
def commonOverlooked : List String :=
  ["additionalProperties", "dependencies", "maxItems", "maxLength", "maxProperties", "maximum",
    "minItems", "minLength", "minProperties", "minimum", "multipleOf", "not", "pattern",
    "patternProperties", "required", "uniqueItems"]

/-- The keywords by which a root can refuse a value in one draft or another although they do not
make it a type. -/
def furtherOverlooked : Draft → List String
  | .draft4 => ["format"]
  | .draft6 =>
    ["contains", "contentEncoding", "contentMediaType", "exclusiveMaximum", "exclusiveMinimum",
      "format", "propertyNames"]
  | .draft7 =>
    ["contains", "contentEncoding", "contentMediaType", "exclusiveMaximum", "exclusiveMinimum",
      "format", "if", "propertyNames"]
  | .draft2019 =>
    ["$recursiveRef", "contains", "dependentRequired", "dependentSchemas", "exclusiveMaximum",
      "exclusiveMinimum", "if", "propertyNames", "unevaluatedItems", "unevaluatedProperties"]
  | .draft2020 =>
    ["$dynamicRef", "contains", "dependentRequired", "dependentSchemas", "exclusiveMaximum",
      "exclusiveMinimum", "if", "prefixItems", "propertyNames", "unevaluatedItems",
      "unevaluatedProperties"]

/-- All the keywords by which a root can refuse a value in a draft although they do not make it a
type. -/
def overlookedKeywords (draft : Draft) : List String :=
  commonOverlooked ++ draft.furtherOverlooked

end Draft

/-! ### Roots that ask for nothing -/

/-- A member that is neither an overlooked keyword of the draft nor one that makes a root a type
reads as nothing. There must be no `items` beside it, since this is what gives `additionalItems` a
meaning. -/
theorem Vocabulary.keyword?_of_not_overlooked (r : Registry) {s : Site} {name : String} (v : Json)
    (htype : name ∉ Document.typeKeywords) (hname : name ∉ s.draft.overlookedKeywords)
    (hitems : s.contents.get? "items" = none) : keyword? r s name v = none := by
  obtain ⟨base, scope, draft, contents⟩ := s
  obtain ⟨hcommon, hfurther⟩ := not_or.1 (mt List.mem_append.2 hname)
  have hadditional : additionalItems ⟨base, scope, draft, contents⟩ v = none := by
    rw [additionalItems]
    simp only [hitems]
  have hformat : ¬ draft ≤ .draft7 →
      ((v.string?.bind (Format.ofName? draft)).bind fun f => rule (.format f)) = none := by
    intro hdraft
    cases v.string? with
    | none => rfl
    | some text => rw [Option.bind_some, Format.ofName?, if_neg hdraft, Option.bind_none]
  unfold keyword?
  dsimp only at hfurther ⊢
  -- Of the keywords that remain, some read as nothing in all drafts and some in a few.
  split
  all_goals first
    | exact absurd (by decide) htype
    | exact absurd (by decide) hcommon
    | cases draft <;> first
      | exact absurd (by decide) hfurther
      | exact hadditional
      | exact hformat (by decide)
      | rfl

/-- An object has a member of a certain name if such a member is listed in it. -/
theorem Members.has_of_mem {members : Members} {x : String × Json} (h : x ∈ members) :
    members.has x.1 = true := by
  rw [has]
  cases hlookup : members.lookup x.1 with
  | some v => rfl
  | none =>
      have hne := List.lookup_eq_none_iff.1 hlookup x h
      simp at hne

namespace Document

variable {d : Document}

/-- The root of a document with several types has none of the keywords that make a root a type,
because this is what tells the two shapes apart. -/
theorem has_typeKeyword (hshape : d.shape = .multi) {name : String} (hname : name ∈ typeKeywords) :
    d.members.has name = false := by
  have htype : d.describesType = false := by
    cases h : d.describesType with
    | false => rfl
    | true => simp [shape, h] at hshape
  exact Bool.eq_false_iff.2 (List.any_eq_false.1 htype name hname)

/-- Suppose that the root of a document with several types has no overlooked keyword of its draft.
Then none of its members reads as a keyword. -/
theorem keywords_root_of_not_overlooked (hshape : d.shape = .multi) (r : Registry) {s : Site}
    (hcontents : s.contents = d.root)
    (hfree : ∀ name ∈ s.draft.overlookedKeywords, d.members.has name = false) :
    r.keywords s = [] := by
  have hitems : s.contents.get? "items" = none := by
    have hhas : d.members.has "items" = false := has_typeKeyword hshape (by decide)
    rw [hcontents]
    exact Option.isNone_iff_eq_none.1 (Option.isSome_eq_false_iff.1 hhas)
  have hverdicts : Registry.verdicts s = [] := by
    rw [Registry.verdicts, hcontents]
    rfl
  rw [Registry.keywords_eq, hverdicts, List.nil_append, List.filterMap_eq_nil_iff]
  intro x hx
  have hmember : x ∈ d.members := by
    have hmem := Registry.mem_memberList_of_visible hx
    rw [hcontents] at hmem
    exact hmem
  have hhas : d.members.has x.1 = true := Members.has_of_mem hmember
  refine Vocabulary.keyword?_of_not_overlooked r x.2 (fun htype => ?_) (fun hname => ?_) hitems
  · rw [has_typeKeyword hshape htype] at hhas
    cases hhas
  · rw [hfree x.1 hname] at hhas
    cases hhas

end Document

/-- A schema that reads as nothing accepts every value, on whatever level of the evaluation it is
asked. -/
theorem Evaluator.accepts_levels_of_nil {σ : Type} {read : σ → List (Keyword σ)} {s : σ}
    (h : read s = []) (inside : Evaluator σ) (depth n : Nat) (v : Json) :
    (levels read inside lenient depth n).accepts s v = true := by
  cases n with
  | zero => rfl
  | succ n =>
      show (read s).all _ = true
      rw [h]
      rfl

/-- A schema whose root reads as nothing accepts every value, whatever else is inside it. -/
theorem Schema.accepts_of_keywords_eq_nil {s : Schema} (h : s.registry.keywords s.root = [])
    (v : Json) : s.accepts v = true := by
  have hreadable : s.registry.readable s.root = [] := by rw [Registry.readable, h]; rfl
  rw [accepts, evaluator, Registry.evaluator, Evaluator.full_accepts]
  exact Evaluator.accepts_levels_of_nil hreadable _ _ _ v

/-! ### Roots that refuse -/

/-- For each overlooked keyword, members by which a root refuses a value, and the value that it
refuses. -/
def refusedBy (keyword : String) : Members × Json :=
  let never := Json.object [("not", .object [])]
  let one := fun v => [(keyword, v)]
  let object := Json.object [("x", .null)]
  let array := Json.array [.null]
  match keyword with
  | "additionalProperties" | "propertyNames" | "unevaluatedProperties" => (one never, object)
  | "dependencies" | "dependentRequired" => (one (.object [("x", .array [.string "y"])]), object)
  | "dependentSchemas" | "patternProperties" => (one (.object [("x", never)]), object)
  | "maxItems" => (one (.ofNat 0), array)
  | "contains" | "unevaluatedItems" => (one never, array)
  | "prefixItems" => (one (.array [never]), array)
  | "uniqueItems" => (one (.bool true), .array [.null, .null])
  | "minItems" => (one (.ofNat 1), .array [])
  | "maxProperties" => (one (.ofNat 0), object)
  | "minProperties" => (one (.ofNat 1), .object [])
  | "required" => (one (.array [.string "x"]), .object [])
  | "maxLength" => (one (.ofNat 0), .string "x")
  | "minLength" => (one (.ofNat 1), .string "")
  | "pattern" => (one (.string "y"), .string "x")
  | "format" => (one (.string "ipv4"), .string "x")
  | "contentEncoding" => (one (.string "base64"), .string "x")
  | "contentMediaType" => (one (.string "application/json"), .string "x")
  | "maximum" | "exclusiveMaximum" => (one (.ofNat 0), .ofNat 1)
  | "minimum" | "exclusiveMinimum" => (one (.ofNat 1), .ofNat 0)
  | "multipleOf" => (one (.ofNat 2), .ofNat 1)
  | "if" => ([("if", .object []), ("then", never)], .null)
  | "$dynamicRef" | "$recursiveRef" => (one (.string "#/definitions/A"), .null)
  | _ => (one (.object []), .null)

/-- The document of a draft that has several types and whose root has, for an overlooked keyword,
the members by which it refuses a value. -/
def Draft.refusingDocument (draft : Draft) (keyword : String) : Document :=
  ⟨_, Json.canonical_ofList ([("$schema", .string draft.identifier),
    ("definitions", .object [("A", .object [("not", .object [])])])] ++ (refusedBy keyword).1)⟩

/-- Every overlooked keyword matters. For each overlooked keyword of a draft there is a document
with several types whose root refuses a value, although it has no other overlooked keyword. -/
theorem Draft.exists_refused (draft : Draft) : ∀ keyword ∈ draft.overlookedKeywords,
    ∃ (d : Document) (v : Json), d.shape = .multi ∧ Draft.detect d.root = .ok draft ∧
      (∀ name ∈ draft.overlookedKeywords, d.members.has name = true → name = keyword) ∧
      (d.alone draft).accepts v = false := by
  have hrefuses : ∀ keyword ∈ draft.overlookedKeywords,
      (draft.refusingDocument keyword).shape = .multi ∧
      (Draft.detect (draft.refusingDocument keyword).root).toOption = some draft ∧
      (∀ name ∈ draft.overlookedKeywords,
        (draft.refusingDocument keyword).members.has name = true → name = keyword) ∧
      ((draft.refusingDocument keyword).alone draft).accepts (refusedBy keyword).2 = false := by
    cases draft <;> decide +kernel
  intro keyword hkeyword
  obtain ⟨hshape, hdetect, honly, haccepts⟩ := hrefuses keyword hkeyword
  refine ⟨draft.refusingDocument keyword, (refusedBy keyword).2, hshape, ?_, honly, haccepts⟩
  cases hd : Draft.detect (draft.refusingDocument keyword).root with
  | error identifier => rw [hd] at hdetect; cases hdetect
  | ok found =>
      rw [hd] at hdetect
      exact congrArg Except.ok (Option.some.inj hdetect)

namespace Engine

variable {d : Document} {o : EngineOptions} {e : Engine}

/-- A root without overlooked keywords accepts everything. Take the engine of a document with
several types. The predicate of the root accepts every value, and reports nothing, unless the root
has one of the keywords that can refuse a value in its draft and that do not make it a type. -/
theorem root_accepts_of_not_overlooked (hshape : d.shape = .multi) (hbuild : build d o = .ok e) :
    ∃ p draft, e.root? = some p ∧ Draft.detect d.root = .ok draft ∧
      ((∀ name ∈ draft.overlookedKeywords, d.members.has name = false) →
        ∀ v, p.isValid v = true ∧ p.check v = []) := by
  obtain ⟨p, hcompile, hroot⟩ := (registers_of_build hbuild).root
  obtain ⟨whole, hwhole, hp⟩ := bind_eq_ok_iff.1 hcompile
  obtain ⟨draft, hdetect, hregistry, -⟩ := Schema.compile_eq_ok_iff.1 hwhole
  have hwholeRoot : whole.root = ⟨whole.root.base, [], draft, d.root⟩ :=
    Registry.root_of_ofSchema hregistry
  refine ⟨p, draft, hroot, hdetect, fun hfree v => ?_⟩
  obtain rfl : (⟨whole, o.allErrors⟩ : Predicate) = p := Except.ok.inj hp
  have hkeywords : whole.registry.keywords whole.root = [] :=
    Document.keywords_root_of_not_overlooked hshape _ (by rw [hwholeRoot]) (by
      rw [hwholeRoot]
      exact hfree)
  have hvalid : Predicate.isValid ⟨whole, o.allErrors⟩ v = true :=
    Schema.accepts_of_keywords_eq_nil hkeywords v
  refine ⟨hvalid, ?_⟩
  rw [← Predicate.isEmpty_check] at hvalid
  exact List.isEmpty_iff.1 hvalid

/-- The root of the document with a body asks for nothing, so its predicate accepts every value and
reports nothing. -/
theorem root_accepts_of_not_overlooked_bodyDocument : ∃ e p,
    build bodyDocument .default = .ok e ∧ e.root? = some p ∧
      ∀ v, p.isValid v = true ∧ p.check v = [] := by
  obtain ⟨e, he⟩ := exists_build_bodyDocument
  obtain ⟨p, draft, hroot, hdetect, haccepts⟩ := root_accepts_of_not_overlooked (by decide) he
  obtain rfl : Draft.draft7 = draft := Except.ok.inj hdetect
  exact ⟨e, p, he, hroot, haccepts (by decide)⟩

/-- A document with types under a root that has no keyword of a type but asks for a property. -/
def requiringDocument : Document :=
  ⟨_, Json.canonical_ofList [
    ("$schema", .string "http://json-schema.org/draft-07/schema#"),
    ("definitions", .object [("A", .object [])]),
    ("required", .array [.string "x"])]⟩

/-- A document can have several types and an engine although its root refuses a value: this root
refuses the object without members, and reports why. -/
theorem root_refuses : requiringDocument.shape = .multi ∧
    ∃ e p, build requiringDocument .default = .ok e ∧ e.root? = some p ∧
      p.isValid (.object []) = false ∧ p.check (.object []) ≠ [] := by
  have hbuild : (build requiringDocument .default).toOption.any (fun e =>
      e.root?.any fun p => !p.isValid (.object [])) = true := by decide +kernel
  obtain ⟨e, he, hrefuses⟩ := exists_ok_of_any hbuild
  cases hp : e.root? with
  | none => rw [hp] at hrefuses; cases hrefuses
  | some p =>
      rw [hp] at hrefuses
      have hvalid : p.isValid (.object []) = false := by simpa using hrefuses
      exact ⟨by decide, e, p, he, hp, hvalid, Predicate.check_ne_nil_iff.2 hvalid⟩

end Engine

end SchemaGate
