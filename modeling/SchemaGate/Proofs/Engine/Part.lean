import SchemaGate.Proofs.Engine.Reference
import SchemaGate.Proofs.Schema.Definitions

/-!
# `SchemaGate.Proofs.Engine.Part`: the schema of a part of a document

A part of a document is checked through a schema of its own: the definitions, the draft, and a
reference to the part. Such a schema reads as one reference in one `allOf`
(`Document.keywords_partSchema`), so its answers are those of the schema that the reference leads
to, two levels further down (`Evaluator.accepts_levels_through`).
-/

set_option autoImplicit false

namespace SchemaGate

/-! ### Compiling -/

namespace Schema

/-- A schema compiles exactly if its draft is known, its registry can be built, the schema of
schemas accepts it, and everything that its root reaches can be read. -/
theorem compile_eq_ok_iff {contents : Json} {s : Schema} : compile contents = .ok s ↔
    ∃ draft, Draft.detect contents = .ok draft ∧
      Registry.ofSchema draft contents = .ok (s.registry, s.root) ∧
      checkAgainstDraft draft contents = .ok () ∧
      ∃ seen, s.registry.visit ((weight contents + 1) * (weight contents + 1)) [] s.root
        = .ok seen := by
  unfold compile
  cases hdetect : Draft.detect contents with
  | error identifier =>
      refine ⟨fun h => ?_, fun ⟨draft, hdraft, _⟩ => ?_⟩
      · cases h
      · cases hdraft
  | ok draft =>
      constructor
      · intro h
        obtain ⟨_, ⟨⟩, h⟩ := bind_eq_ok_iff.1 h
        obtain ⟨⟨registry, root⟩, hregistry, h⟩ := bind_eq_ok_iff.1 h
        obtain ⟨u, hcheck, h⟩ := bind_eq_ok_iff.1 h
        obtain ⟨seen, hvisit, h⟩ := bind_eq_ok_iff.1 h
        cases h
        exact ⟨draft, rfl, hregistry, hcheck, seen, hvisit⟩
      · rintro ⟨draft', hdraft, hregistry, hcheck, seen, hvisit⟩
        cases hdraft
        exact bind_eq_ok_iff.2 ⟨draft, rfl, bind_eq_ok_iff.2 ⟨_, hregistry,
          bind_eq_ok_iff.2 ⟨(), hcheck, bind_eq_ok_iff.2 ⟨seen, hvisit, rfl⟩⟩⟩⟩

end Schema

namespace Registry

/-- A whole schema that gives itself no address stands at the address that all such schemas
share. -/
theorem base_of_ofSchema {draft : Draft} {schema : Json} {r : Registry} {root : Site}
    (h : ofSchema draft schema = .ok (r, root)) (haddress : Site.address? draft schema = none) :
    root.base = defaultBase := by
  obtain ⟨hroot, -⟩ := exists_collect_of_ofSchema h
  rw [rootSite, Site.innerBase, haddress] at hroot
  cases hroot
  rfl

/-- The registry of a whole schema without an address of its own finds the definitions of this
schema. No schema inside may take the address of such schemas, since a registry would then find that
one in its place. -/
theorem defines_of_ofSchema {draft : Draft} {members : Members} {r : Registry} {root : Site}
    {definitions : Json} (h : ofSchema draft (.object members) = .ok (r, root))
    (hbase : root.base = defaultBase) (hkeeps : root.KeepsAddress)
    (hlookup : members.lookup "definitions" = some definitions) :
    root = ⟨defaultBase, [], draft, .object members⟩ ∧ r.Defines draft definitions := by
  have hfind := resource?_of_ofSchema h hkeeps
  have hroot := root_of_ofSchema h
  rw [hbase] at hroot hfind
  exact ⟨hroot, members, hroot ▸ hfind, hlookup⟩

end Registry

/-! ### Two levels down -/

namespace Evaluator

variable {σ : Type} {read : σ → List (Keyword σ)} {outer inner target : σ} {address : Uri}

/-- Suppose that a schema is one `allOf` whose only branch is a reference. Then it accepts what the
target of the reference accepts, with two levels of the evaluation used up on the way. -/
theorem accepts_levels_through (houter : read outer = [.allOf [inner]])
    (hinner : read inner = [.reference address target]) (inside deeper : Evaluator σ) (v : Json)
    (n : Nat) : (levels read inside deeper v.depth (n + 2)).accepts outer v
      = (levels read inside deeper v.depth n).accepts target v := by
  simp [levels, step, byValue, houter, hinner, Keyword.accepts]

/-- Suppose that a schema is one `allOf` whose only branch is a reference. Then it has the
violations of the target of the reference, with two levels of the evaluation used up on the way. -/
theorem violations_levels_through (houter : read outer = [.allOf [inner]])
    (hinner : read inner = [.reference address target]) (inside deeper : Evaluator σ) (v : Json)
    (n : Nat) : (levels read inside deeper v.depth (n + 2)).violations outer v
      = (levels read inside deeper v.depth n).violations target v := by
  simp [levels, step, byValue, houter, hinner, Keyword.violations]

end Evaluator

/-! ### The schema of a part -/

namespace Document

variable {d : Document} {p : Pointer} {draft : Draft} {definitions : Json}

/-- The schema of a part is read by the draft of the document, because it takes over the member that
names the draft. -/
theorem detect_partSchema (d : Document) (p : Pointer) :
    Draft.detect (d.partSchema p) = Draft.detect d.root := by
  have hdeclared : (d.partSchema p).get? "$schema" = d.root.get? "$schema" := by
    rw [get?_partSchema]
    simp [keptKeywords]
  rw [Draft.detect, Draft.detect, Draft.declared?, Draft.declared?, hdeclared]

/-- The schema of a part written out: the draft if the document names one, a reference to the part
in one `allOf`, and the definitions of the document. -/
theorem partSchema_eq (h : d.root.get? "definitions" = some definitions) : d.partSchema p
    = .object (((d.root.get? "$schema").map fun v => ("$schema", v)).toList
      ++ [("allOf", .array [reference p]), ("definitions", definitions)]) := by
  have hdefinitions : d.members.lookup "definitions" = some definitions := h
  have hschema : d.root.get? "$schema" = d.members.lookup "$schema" := rfl
  rw [partSchema, hschema]
  cases hdeclared : d.members.lookup "$schema" with
  | none =>
      simp only [keptKeywords, List.filterMap_cons, hdeclared, hdefinitions]
      rfl
  | some v =>
      simp only [keptKeywords, List.filterMap_cons, hdeclared, hdefinitions]
      rfl

/-- Only two things stand directly inside the schema of a part: the reference to the part, and the
types that the document defines. -/
theorem mem_subschemas_partSchema (h : d.root.get? "definitions" = some definitions) {c : Json}
    (hc : c ∈ draft.subschemas (d.partSchema p)) :
    c = reference p ∨ c ∈ draft.subschemasOf "definitions" definitions := by
  obtain ⟨x, hx, hc⟩ := Draft.mem_subschemas_iff.1 hc
  rw [partSchema_eq h] at hx
  rcases List.mem_append.1 hx with hx | hx
  · -- No schema stands in `$schema`.
    obtain ⟨v, -, rfl⟩ := Option.map_eq_some_iff.1 (Option.mem_toList.1 hx)
    cases draft <;> cases hc
  · simp only [List.mem_cons, List.not_mem_nil, or_false] at hx
    rcases hx with rfl | rfl
    · left
      cases draft <;> exact List.mem_singleton.1 hc
    · exact .inr hc

/-- A schema that is nothing but a reference encloses no other schema, in any draft. -/
theorem not_encloses_reference {x : Draft × Json} : ¬ Draft.Encloses (draft, reference p) x := by
  intro h
  obtain ⟨y, hy, hc⟩ := Draft.mem_subschemas_iff.1 h.1
  rw [List.mem_singleton.1 hy] at hc
  cases draft <;> cases hc

/-- The schema of a part keeps its address if the document does. A registry finds the types in it
just as in the document, and the reference has neither an address nor anything inside. -/
theorem keepsAddress_partSchema (h : d.root.get? "definitions" = some definitions)
    (hkeeps : (Site.mk Registry.defaultBase [] draft d.root).KeepsAddress) :
    (Site.mk Registry.defaultBase [] draft (d.partSchema p)).KeepsAddress := by
  intro t ht haddress
  obtain ⟨first, ⟨c, hc, hinner⟩, hrest⟩ := Relation.TransGen.head'_iff.1 ht
  rcases mem_subschemas_partSchema h hc with rfl | htype
  · have hcontents := (Registry.draft_of_inner hinner).2
    rcases Relation.ReflTransGen.cases_head hrest with rfl | ⟨inside, hfinds, -⟩
    · rw [hcontents, address?_reference] at haddress
      cases haddress
    · have hencloses := Registry.encloses_of_finds hfinds
      rw [hcontents] at hencloses
      exact absurd hencloses not_encloses_reference
  · have hmember := Json.mem_memberList_of_get? h
    exact hkeeps t (Relation.TransGen.head'_iff.2
      ⟨first, ⟨c, Draft.mem_subschemas_iff.2 ⟨_, hmember, htype⟩, hinner⟩, hrest⟩) haddress

/-- The reference in the schema of a part stands at the address of the whole schema and has its
draft, so it is resolved against the whole schema. -/
theorem enter_reference (scope : List Uri) (contents : Json) :
    (Site.mk Registry.defaultBase scope draft contents).enter (reference p)
      = ⟨Registry.defaultBase, scope, draft, reference p⟩ := by
  rw [Site.enter, Site.innerBase, address?_reference]
  rfl

/-- The schema of a part reads as a single keyword, which is an `allOf` with the reference as its
only branch. The draft and the definitions are members that read as no keyword. -/
theorem keywords_partSchema (r : Registry) (h : d.root.get? "definitions" = some definitions)
    (scope : List Uri) : r.keywords ⟨Registry.defaultBase, scope, draft, d.partSchema p⟩
      = [.ok (.allOf [⟨Registry.defaultBase, scope, draft, reference p⟩])] := by
  have hother : ∀ s v, Vocabulary.keyword? r s "$schema" v = none ∧
      Vocabulary.keyword? r s "definitions" v = none := fun s v => ⟨rfl, rfl⟩
  have hallOf : ∀ s v, Vocabulary.keyword? r s "allOf" v
      = some (.ok (.allOf (Vocabulary.schemas s v))) := fun s v => rfl
  have hbranches : ∀ contents, Vocabulary.schemas ⟨Registry.defaultBase, scope, draft, contents⟩
      (.array [reference p]) = [⟨Registry.defaultBase, scope, draft, reference p⟩] := by
    intro contents
    rw [Vocabulary.schemas, List.map_singleton, enter_reference]
  rw [Registry.keywords, partSchema_eq h]
  cases d.root.get? "$schema" with
  | none =>
      show List.filterMap _ [("allOf", _), ("definitions", _)] = _
      simp only [List.filterMap_cons, List.filterMap_nil, hother, hallOf, hbranches]
  | some v =>
      show List.filterMap _ [("$schema", _), ("allOf", _), ("definitions", _)] = _
      simp only [List.filterMap_cons, List.filterMap_nil, hother, hallOf, hbranches]

/-- A schema that is nothing but a reference reads as a single keyword, the one that asks the schema
to which the reference leads. -/
theorem keywords_reference {r : Registry} {s target : Site} {address : Uri}
    (hcontents : s.contents = reference p)
    (h : r.resolve s ("#" ++ p.fragment) = .ok (address, target)) :
    r.keywords s = [.ok (.reference address target)] := by
  have hread : Vocabulary.reference r s (.string ("#" ++ p.fragment))
      = some (.ok (.reference address target)) := by
    rw [Vocabulary.reference]
    simp only [h]
    rfl
  have hfilter : [("$ref", Json.string ("#" ++ p.fragment))].filterMap (fun x =>
      Vocabulary.keyword? r s x.1 x.2) = [.ok (.reference address target)] :=
    List.filterMap_cons_some hread
  -- Whether or not the draft lets a reference hide what stands beside it: nothing does.
  rw [Registry.keywords, hcontents]
  show (if s.draft.refHidesSiblings then (Vocabulary.reference r _ _).toList else _) = _
  rw [hread]
  split
  · rfl
  · exact hfilter

/-- If a schema reads as a single keyword without a fault, then this keyword is the only one that
can be read. -/
theorem readable_of_keywords {r : Registry} {s : Site} {k : Keyword Site}
    (h : r.keywords s = [.ok k]) : r.readable s = [k] := by
  rw [Registry.readable, h]
  rfl

end Document

end SchemaGate
