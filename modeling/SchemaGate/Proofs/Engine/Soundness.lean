import SchemaGate.Proofs.Engine.Part
import SchemaGate.Proofs.Engine.Registration

/-!
# `SchemaGate.Proofs.Engine.Soundness`: a part is checked as it stands in the document

The schema of a part is not the document: it keeps the definitions and drops all other keywords of
the root. If the types keep to the definitions (`Document.KeepsToDefinitions`), nothing that their
evaluation looks at is dropped. Then the predicate that an engine holds for a part answers as the
part does where it stands, with its references resolved in the whole document
(`Engine.predicate_agrees`).

Both evaluations count levels, and start from different budgets. They give the same answer because
both give the one of an evaluation that ends.
-/

set_option autoImplicit false

namespace SchemaGate

open Evaluator

/-! ### Parts in the whole document -/

namespace Document

/-- A part of a document stands at a certain place in the registry of the whole document, which is
the place that a reference to the part leads to from the root. -/
structure StandsAt (d : Document) (whole : Schema) (t : String) (field : Option RequestField)
    (s : Site) : Prop where
  /-- The pointer to the part, read as a reference in the root, leads to this place. -/
  resolved : ∃ address, whole.registry.resolve whole.root ("#" ++ (typePointer t field).fragment)
    = .ok (address, s)
  /-- The contents of this place are those of the part. -/
  contents : d.part? t field = some s.contents

/-- A document keeps to its definitions if it is read at the address of documents that have none, if
no schema inside takes this address from it, and if everything that the evaluation of a part comes
to is read there as well and refers to definitions only. -/
def KeepsToDefinitions (d : Document) : Prop :=
  ∀ whole, Schema.compile d.root = .ok whole →
    whole.root.base = Registry.defaultBase ∧ whole.root.KeepsAddress ∧
    ∀ t field part, d.StandsAt whole t field part →
      ∀ s, whole.registry.Reaches part s → s.KeepsToDefinitions

end Document

/-- The records that a predicate makes of the violations that were found, of all of them or of the
first one only. -/
def Predicate.report (allErrors : Bool) (violations : List Violation) : List ErrorRecord :=
  let records := violations.map Violation.record
  if allErrors then records else records.take 1

namespace Schema

/-- There are levels for more questions than a part of a document can be asked. Two more are left
for the way from the root of the schema of the part to the part itself. -/
theorem le_levels {contents definitions v : Json} (hsize : definitions.size ≤ contents.size)
    {count : Nat} (hcount : count ≤ Draft.all.length * definitions.size) :
    count * (v.size + 2) + 2 ≤ levels contents v := by
  have hmore : count + 1 ≤ Draft.all.length * (weight contents + 1) := by
    have hlength : Draft.all.length = 5 := rfl
    rw [hlength] at hcount ⊢
    rw [weight]
    omega
  have hmul := Nat.mul_le_mul_right (v.size + 2) hmore
  rw [Nat.add_mul, Nat.one_mul] at hmul
  rw [levels]
  omega

end Schema

/-! ### Two evaluations of a part -/

namespace Document

variable {d : Document} {whole own : Schema} {t : String} {field : Option RequestField}

/-- The pointer to a part starts with the definitions, so the reference to the part leads below
them. -/
theorem belowDefinitions_typePointer (t : String) (field : Option RequestField) :
    BelowDefinitions ("#" ++ (typePointer t field).fragment) := by
  have hfirst :
      Text.Percent.encode (Pointer.escape "definitions".toList) = "definitions".toList := by
    decide
  have hnames : ∃ more, typePointer t field = "definitions" :: t :: more := by
    cases field <;> exact ⟨_, rfl⟩
  obtain ⟨more, hmore⟩ := hnames
  rw [BelowDefinitions, hmore, String.toList_append, Pointer.toList_fragment, List.map_cons,
    List.flatMap_cons, hfirst, List.map_cons, List.flatMap_cons]
  exact ⟨_, rfl⟩

/-- A document that has some part has definitions, since this is where all the parts are. -/
theorem exists_definitions {contents : Json} (h : d.part? t field = some contents) :
    ∃ definitions, d.root.get? "definitions" = some definitions := by
  rw [← foldlM_get?_typePointer] at h
  obtain ⟨more, hmore⟩ := exists_typePointer t field
  rw [hmore, List.foldlM_cons] at h
  obtain ⟨definitions, hdefinitions, -⟩ := Option.bind_eq_some_iff.1 h
  exact ⟨definitions, hdefinitions⟩

/-- The whole document and the schema of a part have registries that hold the same definitions, by
the same draft. For this the document must keep its address, so that the reference in the schema of
the part has one as well. -/
theorem exists_defines (hwhole : Schema.compile d.root = .ok whole)
    (hbase : whole.root.base = Registry.defaultBase) (hkeeps : whole.root.KeepsAddress)
    {p : Pointer} (hown : Schema.compile (d.partSchema p) = .ok own) {definitions : Json}
    (hdefinitions : d.root.get? "definitions" = some definitions) :
    ∃ draft, whole.root = ⟨Registry.defaultBase, [], draft, d.root⟩ ∧
      own.root = ⟨Registry.defaultBase, [], draft, d.partSchema p⟩ ∧
      whole.registry.Defines draft definitions ∧ own.registry.Defines draft definitions := by
  obtain ⟨draft, hdetect, hregistry, -⟩ := Schema.compile_eq_ok_iff.1 hwhole
  obtain ⟨draft', hdetect', hregistry', -⟩ := Schema.compile_eq_ok_iff.1 hown
  rw [detect_partSchema, hdetect] at hdetect'
  cases hdetect'
  have hbase' := Registry.base_of_ofSchema hregistry' (d.address?_partSchema p draft)
  have hlookup : (d.partSchema p).get? "definitions" = some definitions := by
    rw [get?_partSchema, ← hdefinitions]
    simp [keptKeywords]
  obtain ⟨hroot, hdefines⟩ := Registry.defines_of_ofSchema hregistry hbase hkeeps hdefinitions
  have hkeeps' : own.root.KeepsAddress := by
    rw [Registry.root_of_ofSchema hregistry', hbase']
    exact keepsAddress_partSchema hdefinitions (hroot ▸ hkeeps)
  rw [partSchema_eq hdefinitions] at hregistry' hlookup ⊢
  obtain ⟨hroot', hdefines'⟩ := Registry.defines_of_ofSchema hregistry' hbase' hkeeps' hlookup
  exact ⟨draft, hroot, hroot', hdefines, hdefines'⟩

/-- Whether a document keeps to its definitions can be read off its text: it is enough that the text
refers to definitions only. -/
theorem keepsToDefinitions_of_root (h : d.root.RefersToDefinitions) : d.KeepsToDefinitions := by
  intro whole hwhole
  obtain ⟨draft, -, hregistry, -⟩ := Schema.compile_eq_ok_iff.1 hwhole
  have hbase := Registry.base_of_ofSchema hregistry (h.address _ d.root.self_mem_values draft)
  have hkeeps : whole.root.KeepsAddress := by
    rw [Registry.root_of_ofSchema hregistry]
    exact Registry.keepsAddress_of_encloses fun x hx =>
      h.address _ (Draft.mem_values_of_encloses hx.to_reflTransGen) _
  refine ⟨hbase, hkeeps, fun t field part hpart s hs => ?_⟩
  obtain ⟨definitions, hdefinitions⟩ := exists_definitions hpart.contents
  obtain ⟨hroot, hdefines⟩ := Registry.defines_of_ofSchema hregistry hbase hkeeps hdefinitions
  obtain ⟨address, hresolved⟩ := hpart.resolved
  have hplain := h.mono (Json.mem_values_of_get? hdefinitions)
  have hbelow := belowDefinitions_typePointer t field
  have hscope : Registry.InScope whole.root := .inl (by rw [hroot])
  exact (Registry.keepsToDefinitions_of_reaches hdefines hplain
    (Registry.isWithin_of_resolve hdefines hbase hscope hbelow hresolved)
    (Registry.base_of_resolve hdefines hplain hbase hscope hbelow hresolved) hs).2

/-- How the schema of a part is evaluated beside the whole document: on a closed set of schemas with
the part in it the two read alike, both have levels for every question to these, and the root of the
schema is two levels above the part. -/
structure Mirrors (whole own : Schema) (part : Site) (ss : List Site) : Prop where
  closed : Closed whole.registry.readable ss
  mem : part ∈ ss
  readable : ∀ s ∈ ss, own.registry.readable s = whole.registry.readable s
  wholeLevels : ∀ v, (Question.about ss v).length ≤ Schema.levels whole.root.contents v
  ownLevels : ∀ v, (Question.about ss v).length + 2 ≤ Schema.levels own.root.contents v
  root : ∃ inner address, own.registry.readable own.root = [.allOf [inner]] ∧
    own.registry.readable inner = [.reference address part]

/-- If a document keeps to its definitions, then the schema of a part mirrors it, on the schemas
that the part reaches. -/
theorem exists_mirrors (hkeeps : d.KeepsToDefinitions) (hwhole : Schema.compile d.root = .ok whole)
    (hown : Schema.compile (d.partSchema (typePointer t field)) = .ok own) {part : Site}
    (hpart : d.StandsAt whole t field part) : ∃ ss, Mirrors whole own part ss := by
  obtain ⟨hbase, hkeeps, hreached⟩ := hkeeps whole hwhole
  obtain ⟨definitions, hdefinitions⟩ := exists_definitions hpart.contents
  obtain ⟨draft, hroot, hroot', hdefines, hdefines'⟩ :=
    exists_defines hwhole hbase hkeeps hown hdefinitions
  obtain ⟨address, hresolved⟩ := hpart.resolved
  have hbelow := belowDefinitions_typePointer t field
  have hwithin : Registry.IsWithin definitions part :=
    Registry.isWithin_of_resolve hdefines hbase (.inl (by rw [hroot])) hbelow hresolved
  obtain ⟨ss, hmem, hclosed, hlocal, hlength⟩ :=
    Registry.exists_closed hdefines hwithin (hreached t field part hpart)
  have hlookup : (d.partSchema (typePointer t field)).get? "definitions" = some definitions := by
    rw [get?_partSchema, ← hdefinitions]
    simp [keptKeywords]
  have hlevels : ∀ contents : Json, contents.get? "definitions" = some definitions →
      ∀ v, (Question.about ss v).length + 2 ≤ Schema.levels contents v := by
    intro contents hcontents v
    have habout := Question.length_about ss v
    have hle := Schema.le_levels (v := v) (Json.size_le_of_get? hcontents) hlength
    omega
  -- The reference in the schema of the part leads where the pointer leads in the document.
  have hreference : own.registry.resolve
      ⟨Registry.defaultBase, [], draft, reference (typePointer t field)⟩
      ("#" ++ (typePointer t field).fragment) = .ok (address, part) := by
    rw [← hresolved]
    exact Registry.resolve_congr hdefines' hdefines rfl hbase (fun t _ => by rw [hroot]; rfl) hbelow
  refine ⟨ss, hclosed, hmem, fun s hs => Registry.readable_congr hdefines' hdefines (hlocal s hs),
    fun v => ?_, fun v => ?_, ⟨Registry.defaultBase, [], draft, reference (typePointer t field)⟩,
    address, ?_, readable_of_keywords (keywords_reference rfl hreference)⟩
  · rw [hroot]
    exact Nat.le_of_add_right_le (hlevels d.root hdefinitions v)
  · rw [hroot']
    exact hlevels _ hlookup v
  · rw [hroot']
    exact readable_of_keywords (keywords_partSchema own.registry hdefinitions [])

/-- Two levels below the root of the schema of a part, the part is asked. A question to it that ends
is answered there as in the whole document. -/
theorem Mirrors.exists_levels {part : Site} {ss : List Site} (h : Mirrors whole own part ss)
    {v : Json} {q : Question Site} (hq : q ∈ Question.ofSite v part)
    (hends : q.Ends whole.registry.readable) :
    ∃ n, Schema.levels own.root.contents v = n + 2 ∧
      (levels own.registry.readable (within own.registry.readable .lenient
        (Schema.levels own.root.contents) v.depth) .lenient v.depth n).SameAt whole.evaluator q := by
  obtain ⟨answers, hends⟩ := hends
  have habout : q ∈ Question.about ss v := List.mem_flatMap.2 ⟨part, h.mem, hq⟩
  have hlevels := h.ownLevels v
  obtain ⟨n, hn⟩ := Nat.exists_eq_add_of_le' (Nat.le_of_add_left_le hlevels)
  have hwhole : whole.evaluator.SameAt answers q :=
    full_sameAt h.closed (fun _ _ => rfl) h.wholeLevels habout hends
  have hown : (levels own.registry.readable (within own.registry.readable .lenient
      (Schema.levels own.root.contents) v.depth) .lenient v.depth n).SameAt answers q :=
    levels_sameAt h.closed h.readable (fun v => Nat.le_of_add_right_le (h.ownLevels v)) habout hends
      (by omega)
  exact ⟨n, hn, hown.trans hwhole.symm⟩

/-- The schema of a part accepts a value exactly if the part does where it stands in the document,
provided that this question ends. -/
theorem Mirrors.accepts_eq {part : Site} {ss : List Site} (h : Mirrors whole own part ss) {v : Json}
    (hends : Question.Ends whole.registry.readable (.accepts part v)) :
    own.accepts v = whole.evaluator.accepts part v := by
  obtain ⟨n, hn, hsame⟩ := h.exists_levels (Question.mem_ofSite.2 (.inl rfl)) hends
  obtain ⟨inner, address, hroot, hinner⟩ := h.root
  rw [Schema.accepts, Schema.evaluator, Registry.evaluator, full_accepts, hn,
    accepts_levels_through hroot hinner]
  exact hsame

/-- The schema of a part finds in a value the violations that the part has where it stands in the
document, provided that this question ends. -/
theorem Mirrors.violations_eq {part : Site} {ss : List Site} (h : Mirrors whole own part ss)
    {v : Json} (hends : Question.Ends whole.registry.readable (.violations part v)) :
    own.violations v = whole.evaluator.violations part v := by
  obtain ⟨n, hn, hsame⟩ := h.exists_levels (Question.mem_ofSite.2 (.inr (.inl rfl))) hends
  obtain ⟨inner, address, hroot, hinner⟩ := h.root
  rw [Schema.violations, Schema.evaluator, Registry.evaluator, full_violations, hn,
    violations_levels_through hroot hinner]
  exact hsame

/-- Every part of a document stands somewhere in it, if the registry finds the document at its own
address. -/
theorem exists_standsAt (hcontents : whole.root.contents = d.root)
    (hfind : whole.registry.resource? whole.root.base = some whole.root) {contents : Json}
    (hpart : d.part? t field = some contents) : ∃ part, d.StandsAt whole t field part := by
  have hsteps := d.foldlM_get?_typePointer t field
  rw [hpart, ← hcontents] at hsteps
  obtain ⟨more, hmore⟩ := exists_typePointer t field
  rw [hmore] at hsteps
  obtain ⟨address, part, hresolved, hfound⟩ := Registry.exists_resolve hfind hsteps
  exact ⟨part, ⟨address, hmore ▸ hresolved⟩, by rw [hpart, hfound]⟩

/-- Every part of a document that compiles stands somewhere in it, if no schema inside takes the
address of the document. -/
theorem exists_standsAt_of_compile (hwhole : Schema.compile d.root = .ok whole)
    (hkeeps : whole.root.KeepsAddress) {contents : Json}
    (hpart : d.part? t field = some contents) : ∃ part, d.StandsAt whole t field part := by
  obtain ⟨draft, -, hregistry, -⟩ := Schema.compile_eq_ok_iff.1 hwhole
  have hcontents := congrArg Site.contents (Registry.root_of_ofSchema hregistry)
  exact exists_standsAt hcontents (Registry.resource?_of_ofSchema hregistry hkeeps) hpart

end Document

namespace Engine

variable {d : Document} {o : EngineOptions} {e : Engine}

/-- If a document has an engine, then the document itself compiles, because it is registered under
the root key. -/
theorem exists_whole (h : build d o = .ok e) : ∃ whole, Schema.compile d.root = .ok whole := by
  obtain ⟨p, hp, -⟩ := (registers_of_build h).root
  obtain ⟨whole, hwhole, -⟩ := bind_eq_ok_iff.1 hp
  exact ⟨whole, hwhole⟩

/-- An engine holds under the key of a part the predicate of the schema that refers to the part. For
a request field the key must not spell the name of a type, which would come behind it. -/
theorem exists_predicate (hshape : d.shape = .multi) (h : build d o = .ok e) {t : String}
    (ht : t ∈ d.definitionNames) {field : Option RequestField}
    (hfield : ∀ f, field = some f →
      f ∈ d.requestFields t ∧ t ++ "/properties/" ++ f.name ∉ d.definitionNames) :
    ∃ own, Schema.compile (d.partSchema (Document.typePointer t field)) = .ok own ∧
      e.predicate? (registryKey t field) = some ⟨own, o.allErrors⟩ := by
  have hregisters := registers_of_build h
  have hnames : e.typeNames = d.definitionNames := by rw [hregisters.typeNames, hshape]
  have hholds : e.HoldsAt o.allErrors (registryKey t field)
      (d.partSchema (Document.typePointer t field)) := by
    cases field with
    | none => exact hregisters.types t (hnames ▸ ht)
    | some f =>
        obtain ⟨hf, hname⟩ := hfield f rfl
        exact hregisters.fields t (hnames ▸ ht) f hf (hnames ▸ hname)
  obtain ⟨p, hp, hkey⟩ := hholds
  obtain ⟨own, hown, heq⟩ := bind_eq_ok_iff.1 hp
  cases heq
  exact ⟨own, hown, hkey⟩

/-- The predicate that an engine holds for a part of a document answers as this part does where it
stands in the document, with its references resolved against the whole document: it accepts the same
values, and reports the same records in the same order. The part is a type, or a request field that
a type declares and whose key spells no type; the document keeps to its definitions, and the
evaluation at the value ends. No other keyword of the root matters. -/
theorem predicate_agrees (hshape : d.shape = .multi) (hkeeps : d.KeepsToDefinitions)
    (hbuild : build d o = .ok e) :
    ∃ whole, Schema.compile d.root = .ok whole ∧
      ∀ t ∈ d.definitionNames, ∀ field : Option RequestField,
        (∀ f, field = some f →
          f ∈ d.requestFields t ∧ t ++ "/properties/" ++ f.name ∉ d.definitionNames) →
        ∃ part p, d.StandsAt whole t field part ∧
          e.predicate? (registryKey t field) = some p ∧
          ∀ v,
            (Question.Ends whole.registry.readable (.accepts part v) →
              p.isValid v = whole.evaluator.accepts part v) ∧
            (Question.Ends whole.registry.readable (.violations part v) →
              p.check v
                = Predicate.report o.allErrors (whole.evaluator.violations part v)) := by
  obtain ⟨whole, hwhole⟩ := exists_whole hbuild
  refine ⟨whole, hwhole, fun t ht field hfield => ?_⟩
  obtain ⟨contents, hpart⟩ := d.exists_part ht fun f hf => (hfield f hf).1
  obtain ⟨part, hstands⟩ :=
    Document.exists_standsAt_of_compile hwhole (hkeeps whole hwhole).2.1 hpart
  obtain ⟨own, hown, hkey⟩ := exists_predicate hshape hbuild ht hfield
  obtain ⟨ss, hmirrors⟩ := Document.exists_mirrors hkeeps hwhole hown hstands
  refine ⟨part, ⟨own, o.allErrors⟩, hstands, hkey, fun v => ⟨fun hends => ?_, fun hends => ?_⟩⟩
  · exact hmirrors.accepts_eq hends
  · show Predicate.report o.allErrors (own.violations v) = _
    rw [hmirrors.violations_eq hends]

/-- A document with two types, one of which refers to the other, under a root that accepts only
empty objects. -/
def pairDocument : Document :=
  ⟨_, Json.canonical_ofList [
    ("$schema", .string "http://json-schema.org/draft-07/schema#"),
    ("definitions", .object [("A", .object [("type", .string "string")]),
      ("B", .object [("$ref", .string "#/definitions/A")])]),
    ("additionalProperties", .bool false)]⟩

/-- The text of the document with the pair refers to definitions only, as is seen from the few
values in it. -/
theorem refersToDefinitions_pairDocument : pairDocument.root.RefersToDefinitions where
  address u hu draft := by
    revert u
    cases draft <;> decide
  references := by decide

/-- The document with the pair can be built with the default options, which is decided by building
it. -/
theorem exists_build_pairDocument : ∃ e, build pairDocument .default = .ok e :=
  exists_ok_of_isSome (by decide +kernel)

/-- A schema that asks for strings and for nothing else asks no other schema. -/
theorem sites_of_type {r : Registry} {s : Site}
    (h : s.contents = .object [("type", .string "string")]) :
    (r.readable s).flatMap Keyword.sites = [] := by
  have hkeywords : r.keywords s
      = [.ok (.assertion (.type (s.draft = .draft4) [.string]))] := by
    rw [Registry.keywords, h]
    rfl
  rw [Registry.readable, hkeywords]
  rfl

/-- In the document with the pair, evaluation ends at every value: the second type asks the first
one, which asks nothing. -/
theorem ends_pairDocument {whole : Schema} (hwhole : Schema.compile pairDocument.root = .ok whole)
    {part : Site} (hpart : pairDocument.StandsAt whole "B" none part) {v : Json}
    {q : Question Site} (hq : q ∈ Question.ofSite v part) : q.Ends whole.registry.readable := by
  obtain ⟨hbase, hkeeps, hreached⟩ :=
    Document.keepsToDefinitions_of_root refersToDefinitions_pairDocument whole hwhole
  obtain ⟨draft, -, hregistry, -⟩ := Schema.compile_eq_ok_iff.1 hwhole
  have hfind := Registry.resource?_of_ofSchema hregistry hkeeps
  have hroot := Registry.root_of_ofSchema hregistry
  have hcontents : part.contents = Document.reference ["definitions", "A"] := by
    have hvalue : pairDocument.part? "B" none
        = some (Document.reference ["definitions", "A"]) := rfl
    exact (Option.some.inj (hvalue.symm.trans hpart.contents)).symm
  -- The reference of the second type leads to the first.
  have htype : ["definitions", "A"].foldlM Json.get? whole.root.contents
      = some (.object [("type", .string "string")]) := by
    rw [hroot]
    rfl
  have hpartBase : part.base = whole.root.base :=
    (hreached "B" none part hpart part .refl).base.trans hbase.symm
  obtain ⟨address, target, hresolve, htarget⟩ :=
    Registry.exists_resolve (hpartBase ▸ hfind) htype
  have hreadable := Document.readable_of_keywords (Document.keywords_reference hcontents hresolve)
  have hdescends : Evaluator.Descends whole.registry.readable (fun s => s = part ∨ s = target)
      fun s => ((s.contents.get? "$ref").map fun _ => 1).getD 0 := by
    rintro s (rfl | rfl) s' hs'
    · rw [hreadable] at hs'
      rw [List.mem_singleton.1 hs']
      refine ⟨.inr rfl, ?_⟩
      simp only [htarget, hcontents]
      decide
    · rw [sites_of_type htarget] at hs'
      cases hs'
  exact Evaluator.ends_of_descends hdescends (.inl rfl) hq

/-- In the engine of the document with the pair, the predicate of the second type answers as this
type does in the document, at every value. -/
theorem predicate_agrees_pairDocument : ∃ e whole part p,
    build pairDocument .default = .ok e ∧ Schema.compile pairDocument.root = .ok whole ∧
      pairDocument.StandsAt whole "B" none part ∧ e.predicate? (registryKey "B" none) = some p ∧
      ∀ v, p.isValid v = whole.evaluator.accepts part v ∧
        p.check v = Predicate.report true (whole.evaluator.violations part v) := by
  obtain ⟨e, he⟩ := exists_build_pairDocument
  have hkeeps := Document.keepsToDefinitions_of_root refersToDefinitions_pairDocument
  obtain ⟨whole, hwhole, hparts⟩ := predicate_agrees (by decide) hkeeps he
  obtain ⟨part, p, hstands, hkey, hagrees⟩ := hparts "B" (by decide) none (fun f hf => nomatch hf)
  refine ⟨e, whole, part, p, he, hwhole, hstands, hkey, fun v => ⟨?_, ?_⟩⟩
  · exact (hagrees v).1 (ends_pairDocument hwhole hstands (Question.mem_ofSite.2 (.inl rfl)))
  · exact (hagrees v).2 (ends_pairDocument hwhole hstands (Question.mem_ofSite.2 (.inr (.inl rfl))))

end Engine

end SchemaGate
