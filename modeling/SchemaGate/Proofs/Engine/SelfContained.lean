import SchemaGate.Proofs.Engine.Soundness
import SchemaGate.Proofs.Schema.Conformance
import SchemaGate.Proofs.Schema.Usable

/-!
# `SchemaGate.Proofs.Engine.SelfContained`: documents whose parts all compile

That the root of a document compiles says nothing about its definitions: compiling reads only what
the root refers to. Even if all references of the definitions can be followed in the document, the
schema of a part may fail, because it keeps the definitions only (`Engine.sound_root_without_engine`
has a document for each reason).

It does not fail if the definitions refer to nothing else and can be read there
(`Document.SelfContained`): the schema of schemas accepts the schema of a part as it accepts the
document, its registry can be built, and whatever is read to compile it (`Document.Visits`) is read
as in the document. Then the document has an engine (`Engine.build_of_selfContained`).

None of the conditions can be left out (`Document.exists_failsFor`). A schema inside the definitions
can take the address of the document; its reference can be to an address that only a schema outside
has; a dynamic or a recursive reference can lead out of the definitions just as a plain one
(`Document.exists_failsFor_references`).
-/

set_option autoImplicit false

namespace SchemaGate

open Relation Registry

namespace Document

/-- A document by itself: its registry has nothing but the document, at the address of documents
that give themselves none. -/
def alone (d : Document) (draft : Draft) : Schema :=
  let root : Site := ⟨defaultBase, [], draft, d.root⟩
  ⟨⟨[(defaultBase, root)], []⟩, root⟩

/-- The definitions of a document as an object, which is empty if the document has none. -/
def definitionsObject (d : Document) : Json := .object (d.definitions?.getD [])

/-- A document holds its types and the schemas that stand inside them, each with the draft by which
it is read there. -/
def Holds (d : Document) (draft : Draft) (x : Draft × Json) : Prop :=
  ∃ t ∈ d.definitions?.getD [], ReflTransGen Draft.Encloses (draft.inner t.2, t.2) x

/-- Some part of a document reaches a certain schema by keywords and references, and this schema is
inside the definitions. -/
def Reaches (d : Document) (draft : Draft) (s : Site) : Prop :=
  ∃ t field part, d.StandsAt (d.alone draft) t field part ∧
    (d.alone draft).registry.Reaches part s ∧ IsWithin d.definitionsObject s

/-- Everything that the parts of a document need is inside its definitions. None of the four
conditions follows from the others, and a document can fail to have an engine for each of them alone
(`exists_failsFor`). -/
structure SelfContained (d : Document) (draft : Draft) : Prop where
  /-- No schema inside the definitions gives itself an address, which could be that of the whole. -/
  address : ∀ x, d.Holds draft x → Site.address? x.1 x.2 = none
  /-- The references of schemas inside the definitions are fragments. -/
  fragment : ∀ x, d.Holds draft x → ∀ text ∈ (x.2.get? "$ref").bind Json.string?,
    text.toList.head? = some '#'
  /-- What a part reaches refers to the definitions, or to the whole document. -/
  references : ∀ s, d.Reaches draft s → s.StaysLocal
  /-- What a part reaches can be read. -/
  readable : ∀ s, d.Reaches draft s → ∀ fault, .error fault ∉ (d.alone draft).registry.keywords s

variable {d : Document} {draft : Draft} {p : Pointer} {t : String} {field : Option RequestField}

/-- A document with several types has definitions, and these are the object that is found under
their name. -/
theorem get?_definitions (hshape : d.shape = .multi) :
    d.root.get? "definitions" = some d.definitionsObject := by
  have hnonempty : (d.definitions?.getD []).isEmpty = false := by
    cases hempty : (d.definitions?.getD []).isEmpty with
    | false => rfl
    | true => simp [shape, hempty] at hshape
  show d.members.lookup "definitions" = _
  unfold definitionsObject
  unfold definitions? at hnonempty ⊢
  cases hlookup : d.members.lookup "definitions" with
  | none => simp [hlookup] at hnonempty
  | some v =>
      cases v with
      | object types => rfl
      | _ => simp [hlookup, Json.members?] at hnonempty

/-- In the registry of a document by itself, the definitions of the document can be referred to by
their names. -/
theorem defines_alone (hshape : d.shape = .multi) :
    (d.alone draft).registry.Defines draft d.definitionsObject :=
  ⟨d.members, rfl, get?_definitions hshape⟩

/-! ### The schema of schemas -/

/-- The schema of a part takes over members of the document, and whatever it does not take over is
the reference that it adds. -/
theorem takesOver_partSchema {m : Members} (h : d.partSchema p = .object m) :
    TakesOver ("#" ++ p.fragment) d.members m where
  kept name hname x hx := by
    have hget : (d.partSchema p).get? name = some x := by rw [h]; exact hx
    rw [get?_partSchema, if_neg hname] at hget
    split at hget
    · exact hget
    · cases hget
  added x hx := by
    have hget : (d.partSchema p).get? "allOf" = some x := by rw [h]; exact hx
    rw [get?_partSchema, if_pos rfl] at hget
    exact (Option.some.inj hget).symm
  names name hname := by
    have hget : ((d.partSchema p).get? name).isSome = true := by rw [h]; exact hname
    rw [get?_partSchema] at hget
    split at hget
    · next heq => simp [heq]
    · split at hget
      · next hmem =>
        simp only [keptKeywords, List.mem_cons, List.not_mem_nil, or_false] at hmem ⊢
        exact hmem.imp_right .inr
      · cases hget

/-- The schema of schemas accepts the schema of a part if it accepts the document, since it accepts
the reference and requires none of the members that are left out. -/
theorem checkAgainstDraft_partSchema (h : Schema.checkAgainstDraft draft d.root = .ok ()) :
    Schema.checkAgainstDraft draft (d.partSchema p) = .ok () := by
  have htext : ("#" ++ p.fragment).toList = '#' :: p.fragment.toList := by
    rw [String.toList_append]
    rfl
  have hreference : Format.isUriReference ("#" ++ p.fragment) = true := by
    rw [Format.isUriReference, Uri.parse_fragment htext (Pointer.fragmentText_fragment p)]
    rfl
  exact Schema.checkAgainstDraft_of_takesOver hreference (takesOver_partSchema rfl) h

/-! ### The registry -/

/-- The schemas that stand directly inside the definitions of a document are the values of their
members, which are its types. -/
theorem mem_subschemasOf_definitions {c : Json} :
    c ∈ draft.subschemasOf "definitions" d.definitionsObject
      ↔ ∃ t ∈ d.definitions?.getD [], t.2 = c := by
  cases draft <;> exact List.mem_map

/-- The types of a document with several stand directly inside it, whatever other schemas do. -/
theorem mem_subschemas_root (hshape : d.shape = .multi) {t : String × Json}
    (ht : t ∈ d.definitions?.getD []) : t.2 ∈ draft.subschemas d.root :=
  Draft.mem_subschemas_iff.2 ⟨_, Json.mem_memberList_of_get? (get?_definitions hshape),
    mem_subschemasOf_definitions.2 ⟨t, ht, rfl⟩⟩

/-- A registry takes the reference to a part as it is, since it gives itself no address and is a
mere fragment. -/
theorem plain_reference : Plain (draft, reference p) where
  knows id hid := nomatch hid
  address := address?_reference p draft
  reference text htext := by
    cases htext
    rw [String.toList_append]
    rfl

/-- If a document is self-contained and its drafts are known, then a registry takes everything
inside the schema of a part as it is. This is the reference, or it is held by the document. -/
theorem plain_of_partSchema (hshape : d.shape = .multi) (hself : d.SelfContained draft)
    (hknows : ∀ x, TransGen Draft.Encloses (draft, d.root) x → Draft.Knows x.2) {x : Draft × Json}
    (hx : TransGen Draft.Encloses (draft, d.partSchema p) x) : Plain x := by
  obtain ⟨⟨inner, c⟩, ⟨hc, hinner⟩, hrest⟩ := TransGen.head'_iff.1 hx
  obtain rfl : inner = draft.inner c := hinner
  rcases mem_subschemas_partSchema (get?_definitions hshape) hc with rfl | htype
  · rcases ReflTransGen.cases_head hrest with rfl | ⟨y, hy, -⟩
    · exact plain_reference
    · exact absurd hy not_encloses_reference
  · obtain ⟨t, ht, rfl⟩ := mem_subschemasOf_definitions.1 htype
    have hholds : d.Holds draft x := ⟨t, ht, hrest⟩
    have hroot : Draft.Encloses (draft, d.root) (draft.inner t.2, t.2) :=
      ⟨mem_subschemas_root hshape ht, rfl⟩
    exact ⟨hknows x (TransGen.head'_iff.2 ⟨_, hroot, hrest⟩), hself.address x hholds,
      hself.fragment x hholds⟩

/-! ### Reading -/

/-- The schemas that are read to compile the schema of a part: the schema itself, the reference in
it, and what the part reaches. -/
inductive Visits (d : Document) (draft : Draft) (p : Pointer) : Site → Prop
  /-- The schema itself, also by a reference to the whole schema. -/
  | whole {scope : List Uri} (hscope : scope = [] ∨ scope = [defaultBase]) :
    Visits d draft p ⟨defaultBase, scope, draft, d.partSchema p⟩
  /-- The reference in it. -/
  | reference {scope : List Uri} (hscope : scope = [] ∨ scope = [defaultBase]) :
    Visits d draft p ⟨defaultBase, scope, draft, reference p⟩
  /-- What a part reaches. -/
  | part {s : Site} (hs : d.Reaches draft s) : Visits d draft p s

/-- If a schema is visited for a part, then all its keywords can be read, and the schemas that they
ask are visited as well. -/
theorem Visits.step (hshape : d.shape = .multi) (hself : d.SelfContained draft) {r : Registry}
    (hfind : r.resource? defaultBase
      = some ⟨defaultBase, [], draft, d.partSchema (typePointer t field)⟩)
    {contents : Json} (hpart : d.part? t field = some contents) {s : Site}
    (hs : d.Visits draft (typePointer t field) s) {reading : Except Fault (Keyword Site)}
    (hreading : reading ∈ r.keywords s) :
    ∃ k, reading = .ok k ∧ ∀ s' ∈ k.sites, d.Visits draft (typePointer t field) s' := by
  have hdefinitions := get?_definitions hshape
  have halone : (d.alone draft).registry.Defines draft d.definitionsObject :=
    defines_alone hshape
  have hlookup : (d.partSchema (typePointer t field)).get? "definitions"
      = some d.definitionsObject := by
    rw [get?_partSchema, ← hdefinitions]
    simp [keptKeywords]
  cases hs with
  | whole hscope =>
      rw [keywords_partSchema r hdefinitions] at hreading
      refine ⟨_, List.mem_singleton.1 hreading, fun s' hs' => ?_⟩
      rw [List.mem_singleton.1 hs']
      exact .reference hscope
  | @reference scope hscope =>
      -- It leads to the part, and to the same place as in the document by itself.
      obtain ⟨part, hstands⟩ : ∃ part, d.StandsAt (d.alone draft) t field part :=
        exists_standsAt rfl rfl hpart
      obtain ⟨address, hresolved⟩ := hstands.resolved
      have hbelow := belowDefinitions_typePointer t field
      have hin : InScope ⟨defaultBase, scope, draft, Document.reference (typePointer t field)⟩ :=
        hscope
      have hresolve : r.resolve
          ⟨defaultBase, scope, draft, Document.reference (typePointer t field)⟩
          ("#" ++ (typePointer t field).fragment) = .ok (address, part) := by
        rw [← hresolved]
        refine resolve_congr ⟨_, hfind, hlookup⟩ halone rfl rfl (fun u hu => ?_) hbelow
        rw [scope_follow rfl hin hu, scope_follow rfl (.inl rfl) hu]
      rw [keywords_reference rfl hresolve] at hreading
      refine ⟨_, List.mem_singleton.1 hreading, fun s' hs' => ?_⟩
      rw [List.mem_singleton.1 hs']
      exact .part ⟨t, field, part, hstands, .refl,
        isWithin_of_resolve halone rfl (.inl rfl) hbelow hresolved⟩
  | part hs =>
      have hs' := hs
      obtain ⟨t', field', part, hstands, hreaches, hwithin⟩ := hs'
      rcases keywords_cases halone hfind hlookup (hself.references _ hs) hwithin hreading with
        ⟨hmem, hsites⟩ | ⟨address, rfl⟩
      · cases reading with
        | error fault => exact absurd hmem (hself.readable _ hs fault)
        | ok k =>
            exact ⟨k, rfl, fun s' hs' => .part ⟨t', field', part, hstands,
              .step hreaches (mem_readable_iff.2 hmem) hs', hsites k rfl s' hs'⟩⟩
      · refine ⟨_, rfl, fun s' hs' => ?_⟩
        rw [List.mem_singleton.1 hs']
        exact .whole (.inr rfl)

/-- If a document is self-contained and compiles, then the schema of each of its parts compiles. The
registry takes everything inside the schema as it is, and everything that is visited can be read. -/
theorem exists_compile_partSchema (hshape : d.shape = .multi) {whole : Schema}
    (hwhole : Schema.compile d.root = .ok whole) (hdetect : Draft.detect d.root = .ok draft)
    (hself : d.SelfContained draft) {contents : Json} (hpart : d.part? t field = some contents) :
    ∃ own, Schema.compile (d.partSchema (typePointer t field)) = .ok own := by
  obtain ⟨draft', hdetect', hregistry, hcheck, -⟩ := Schema.compile_eq_ok_iff.1 hwhole
  rw [hdetect] at hdetect'
  cases hdetect'
  have hreference : (d.partSchema (typePointer t field)).get? "$ref" = none := by
    rw [get?_partSchema]
    rfl
  have hplain : ∀ x, TransGen Draft.Encloses (draft, d.partSchema (typePointer t field)) x →
      Plain x :=
    fun x hx => plain_of_partSchema hshape hself (fun y hy => knows_of_ofSchema hregistry hy) hx
  obtain ⟨r, hr⟩ := exists_ofSchema (d.address?_partSchema (typePointer t field) draft)
    (fun text htext => by rw [hreference] at htext; cases htext) hplain
  have hfind := resource?_of_ofSchema hr
    (keepsAddress_of_encloses fun x hx => (hplain x hx).address)
  obtain ⟨seen, hseen⟩ := exists_visit
    (fun _ hs _ hreading => Visits.step hshape hself hfind hpart hs hreading)
    ((Schema.weight (d.partSchema (typePointer t field)) + 1)
      * (Schema.weight (d.partSchema (typePointer t field)) + 1)) []
    (.whole (.inl rfl))
  exact ⟨⟨r, _⟩, Schema.compile_eq_ok_iff.2 ⟨draft, (d.detect_partSchema _).trans hdetect, hr,
    checkAgainstDraft_partSchema hcheck, seen, hseen⟩⟩

/-! ### Reading the conditions off a document -/

/-- The types of a document and the schemas inside them are values that stand inside its
definitions. -/
theorem mem_values_of_holds {x : Draft × Json} (h : d.Holds draft x) :
    x.2 ∈ d.definitionsObject.values := by
  obtain ⟨t, ht, hx⟩ := h
  exact Json.mem_values_trans (Draft.mem_values_of_encloses hx) _
    (Json.mem_values_of_member ht t.2.self_mem_values)

/-- Suppose that the text of a document refers to definitions only. Then everything that a part
reaches stands inside the definitions and refers to definitions only. -/
theorem keepsToDefinitions_of_standsAt (hshape : d.shape = .multi)
    (h : d.root.RefersToDefinitions) {part s : Site}
    (hstands : d.StandsAt (d.alone draft) t field part)
    (hs : (d.alone draft).registry.Reaches part s) :
    IsWithin d.definitionsObject s ∧ s.KeepsToDefinitions := by
  obtain ⟨address, hresolved⟩ := hstands.resolved
  have halone : (d.alone draft).registry.Defines draft d.definitionsObject :=
    defines_alone hshape
  have hplain := h.mono (Json.mem_values_of_get? (get?_definitions hshape))
  have hbelow := belowDefinitions_typePointer t field
  exact keepsToDefinitions_of_reaches halone hplain
    (isWithin_of_resolve halone rfl (.inl rfl) hbelow hresolved)
    (base_of_resolve halone hplain rfl (.inl rfl) hbelow hresolved) hs

/-- A document whose text refers to definitions only is self-contained, if everything that its parts
reach can be read. -/
theorem selfContained_of_root (hshape : d.shape = .multi) (h : d.root.RefersToDefinitions)
    (hreadable : ∀ s, d.Reaches draft s →
      ∀ fault, .error fault ∉ (d.alone draft).registry.keywords s) : d.SelfContained draft := by
  have hholds : ∀ x, d.Holds draft x → x.2 ∈ d.root.values := fun x hx =>
    Json.mem_values_trans (mem_values_of_holds hx) _
      (Json.mem_values_of_get? (get?_definitions hshape))
  refine ⟨fun x hx => h.address _ (hholds x hx) _, fun x hx text htext => ?_, fun s hs => ?_,
    hreadable⟩
  · obtain ⟨v, hv, htext⟩ := Option.bind_eq_some_iff.1 htext
    obtain ⟨-, rest, hrest⟩ := h.references _ (hholds x hx) _ (Json.mem_memberList_of_get? hv)
      List.mem_cons_self text htext
    rw [← hrest]
    rfl
  · obtain ⟨t, field, part, hstands, hreaches, -⟩ := hs
    have hkeeps := (keepsToDefinitions_of_standsAt hshape h hstands hreaches).2
    exact ⟨hkeeps.base, fun x hx hname text htext =>
      (hkeeps.references x hx hname text htext).imp_right .inr⟩

/-- The places where the parts of a document stand, if the document stands by itself: one for each
type, and one for each request field that a type declares. -/
def partSites (d : Document) (draft : Draft) : List Site :=
  d.definitionNames.flatMap fun t => (none :: (d.requestFields t).map some).filterMap fun field =>
    ((d.alone draft).registry.resolve (d.alone draft).root
      ("#" ++ (typePointer t field).fragment)).toOption.map (·.2)

/-- If a part of a document stands somewhere in it, then this place is in the list of those where
parts stand. -/
theorem mem_partSites {s : Site} (h : d.StandsAt (d.alone draft) t field s) :
    s ∈ d.partSites draft := by
  obtain ⟨address, hresolved⟩ := h.resolved
  obtain ⟨ht, hfield⟩ := declared_of_part h.contents
  refine List.mem_flatMap.2 ⟨t, ht, List.mem_filterMap.2 ⟨field, mem_fields hfield, ?_⟩⟩
  rw [hresolved]
  rfl

/-- A test of everything that the parts of a document reach can be decided. It is enough that a
search of bounded depth from the places of the parts settles it, which is found out by computing. -/
theorem check_of_reaches {check : Site → Bool} (n : Nat)
    (h : (d.partSites draft).all ((d.alone draft).registry.settled check n) = true) {s : Site}
    (hs : d.Reaches draft s) : check s = true := by
  obtain ⟨t, field, part, hstands, hreaches, -⟩ := hs
  exact check_of_settled (List.all_eq_true.1 h part (mem_partSites hstands)) hreaches

/-- Whether all the keywords of a schema can be read, as something that can be computed. -/
def isReadable (r : Registry) (s : Site) : Bool :=
  (r.keywords s).all fun reading => reading.toOption.isSome

/-- Everything that the parts of a document reach can be read if a search of bounded depth from the
places of the parts settles this. -/
theorem readable_of_settled (n : Nat) (h : (d.partSites draft).all
      ((d.alone draft).registry.settled (isReadable (d.alone draft).registry) n) = true) :
    ∀ s, d.Reaches draft s → ∀ fault, .error fault ∉ (d.alone draft).registry.keywords s := by
  intro s hs fault hfault
  have hread := List.all_eq_true.1 (check_of_reaches n h hs) _ hfault
  cases hread

end Document

namespace Engine

variable {d : Document} {o : EngineOptions}

/-- A self-contained document has an engine. It must have several types, its root must compile, and
coercion must not be asked for. -/
theorem build_of_selfContained (hshape : d.shape = .multi)
    (hroot : ∃ p, Predicate.compile d.root o.allErrors = .ok p)
    (hself : ∀ draft, Draft.detect d.root = .ok draft → d.SelfContained draft)
    (hoptions : o.coercesTypes = false) : ∃ e, build d o = .ok e := by
  obtain ⟨p, hp⟩ := hroot
  obtain ⟨whole, hwhole, -⟩ := bind_eq_ok_iff.1 hp
  obtain ⟨draft, hdetect, -⟩ := Schema.compile_eq_ok_iff.1 hwhole
  have hcompiles : ∀ r ∈ d.registrations, Compiles o.allErrors r := by
    intro r hr
    rw [Document.registrations, hshape] at hr
    rcases List.mem_cons.1 hr with rfl | hr
    · exact ⟨p, hp⟩
    · obtain ⟨t, ht, hr⟩ := List.mem_flatMap.1 hr
      obtain ⟨field, hfield, rfl⟩ := List.mem_map.1 hr
      have hdeclared : ∀ f, field = some f → f ∈ d.requestFields t := by
        rintro f rfl
        simpa using hfield
      obtain ⟨contents, hpart⟩ := d.exists_part ht hdeclared
      obtain ⟨own, hown⟩ :=
        Document.exists_compile_partSchema hshape hwhole hdetect (hself draft hdetect) hpart
      exact ⟨⟨own, o.allErrors⟩, bind_eq_ok_iff.2 ⟨own, hown, rfl⟩⟩
  exact exists_build_of_compiles hoptions hcompiles

/-- The document with two types, one of which refers to the other, is self-contained, and so it has
an engine. -/
theorem build_of_selfContained_pairDocument : pairDocument.shape = .multi ∧
    (∃ p, Predicate.compile pairDocument.root true = .ok p) ∧
    (∀ draft, Draft.detect pairDocument.root = .ok draft → pairDocument.SelfContained draft) ∧
    ∃ e, build pairDocument .default = .ok e := by
  have hshape : pairDocument.shape = .multi := by decide
  have hroot : ∃ p, Predicate.compile pairDocument.root true = .ok p :=
    exists_ok_of_isSome (by decide +kernel)
  have hself : ∀ draft, Draft.detect pairDocument.root = .ok draft →
      pairDocument.SelfContained draft := by
    intro draft hdraft
    obtain rfl : Draft.draft7 = draft := Except.ok.inj hdraft
    exact Document.selfContained_of_root hshape refersToDefinitions_pairDocument
      (Document.readable_of_settled 3 (by decide +kernel))
  exact ⟨hshape, hroot, hself, build_of_selfContained hshape hroot hself rfl⟩

/-- If a build fails at a key that is not that of the root, then the root compiles, because it comes
first. -/
theorem exists_compile_root {key : String} {fault : Fault} (hkey : key ≠ rootKey)
    (h : build d o = .error (.uncompilable key fault)) :
    ∃ p, Predicate.compile d.root o.allErrors = .ok p := by
  cases hc : o.coercesTypes with
  | true => rw [build_of_coerces hc] at h; cases h
  | false =>
      cases hp : Predicate.compile d.root o.allErrors with
      | ok p => exact ⟨p, rfl⟩
      | error fault' =>
          -- The root is registered first, so its fault would be the one of the build.
          obtain ⟨after, heq, -⟩ := d.root_registration
          have hfirst : d.registrations = [] ++ (rootKey, d.root) :: after := heq
          rw [build_of_first hc hfirst (fun r hr => absurd hr List.not_mem_nil) hp] at h
          cases h
          exact absurd rfl hkey

/-- A document with a type that refers to a schema of the root outside the definitions. -/
def sharedDocument : Document :=
  ⟨_, Json.canonical_ofList [
    ("$schema", .string "http://json-schema.org/draft-07/schema#"),
    ("additionalProperties", .object [("type", .string "string")]),
    ("definitions", .object [("A", .object [("$ref", .string "#/additionalProperties")])])]⟩

/-- A document with a type that nothing refers to, and in this type a text that is no pattern. -/
def patternDocument : Document :=
  ⟨_, Json.canonical_ofList [
    ("definitions", .object [("A", .object [("pattern", .string "[")])])]⟩

/-- The key at which the build of a document with the default options fails, if it fails at a
key. -/
def faultKey? (d : Document) : Option String :=
  match build d .default with
  | .error (.uncompilable key _) => some key
  | _ => none

/-- The document whose type refers to the outside fails at the key of this type, because the schema
of the type keeps the definitions only. -/
theorem faultKey?_sharedDocument : faultKey? sharedDocument = some "Schema#/definitions/A" := by
  decide +kernel

/-- The document with a text that is no pattern fails at the key of the type that has it. The root
does not come to this text, so the schema of the type is the first to read it. -/
theorem faultKey?_patternDocument : faultKey? patternDocument = some "Schema#/definitions/A" := by
  decide +kernel

/-- If a build fails at a key that is not that of the root, then it fails with a fault of this key
though the root compiles. -/
theorem compiles_root_of_faultKey? {key : String} (hkey : key ≠ rootKey)
    (h : faultKey? d = some key) : (∃ p, Predicate.compile d.root true = .ok p) ∧
      ∃ fault, build d .default = .error (.uncompilable key fault) := by
  rw [faultKey?] at h
  cases hbuild : build d .default with
  | ok e => rw [hbuild] at h; cases h
  | error fault =>
      cases fault with
      | unsupported option => rw [hbuild] at h; cases h
      | uncompilable key' fault =>
          rw [hbuild] at h
          cases h
          exact ⟨exists_compile_root hkey hbuild, fault, rfl⟩

/-- A root that compiles, with references that all lead to schemas inside it, is not enough for an
engine. A type may refer to a schema outside the definitions, or have a keyword that cannot be
read. -/
theorem sound_root_without_engine :
    (sharedDocument.shape = .multi ∧
      (∀ v ∈ sharedDocument.root.values, ∀ text ∈ (v.get? "$ref").bind Json.string?,
        ∃ (p : Pointer) (s : Json), text = "#" ++ p.fragment ∧
          p.foldlM Json.get? sharedDocument.root = some s ∧
          s ∈ Draft.draft7.subschemas sharedDocument.root) ∧
      (∃ p, Predicate.compile sharedDocument.root true = .ok p) ∧
      ∃ fault, build sharedDocument .default
        = .error (.uncompilable "Schema#/definitions/A" fault)) ∧
    patternDocument.shape = .multi ∧
      (∀ v ∈ patternDocument.root.values, (v.get? "$ref").bind Json.string? = none) ∧
      (∃ p, Predicate.compile patternDocument.root true = .ok p) ∧
      ∃ fault, build patternDocument .default
        = .error (.uncompilable "Schema#/definitions/A" fault) := by
  refine ⟨⟨by decide, fun v hv text htext => ?_,
      compiles_root_of_faultKey? (by decide) faultKey?_sharedDocument⟩,
    by decide, by decide, compiles_root_of_faultKey? (by decide) faultKey?_patternDocument⟩
  have htexts : ∀ v ∈ sharedDocument.root.values, ∀ text ∈ (v.get? "$ref").bind Json.string?,
      text = "#/additionalProperties" := by decide
  rw [htexts v hv text htext]
  exact ⟨["additionalProperties"], .object [("type", .string "string")], by decide, rfl,
    List.mem_cons_self⟩

end Engine

/-! ### Each condition is needed -/

namespace Document

variable {d : Document} {draft : Draft}

/-- The conditions that a self-contained document meets, named as the fields of
`Document.SelfContained`, so that something can be said of each of them. -/
inductive Condition
  | address
  | fragment
  | references
  | readable

/-- What each of the conditions asks for, word for word the field of `Document.SelfContained` that
has its name. -/
def Meets (d : Document) (draft : Draft) : Condition → Prop
  | .address => ∀ x, d.Holds draft x → Site.address? x.1 x.2 = none
  | .fragment => ∀ x, d.Holds draft x → ∀ text ∈ (x.2.get? "$ref").bind Json.string?,
    text.toList.head? = some '#'
  | .references => ∀ s, d.Reaches draft s → s.StaysLocal
  | .readable => ∀ s, d.Reaches draft s →
    ∀ fault, .error fault ∉ (d.alone draft).registry.keywords s

/-- A document is self-contained exactly if it meets all the conditions, so the list of them is
complete. -/
theorem selfContained_iff_meets : d.SelfContained draft ↔ ∀ c, d.Meets draft c :=
  ⟨fun h c => match c with
    | .address => h.address
    | .fragment => h.fragment
    | .references => h.references
    | .readable => h.readable,
    fun h => ⟨h .address, h .fragment, h .references, h .readable⟩⟩

/-- A document fails for a condition if it meets all the others, has several types and compiles as a
whole, but has no engine because one of its parts does not compile. -/
structure FailsFor (d : Document) (draft : Draft) (c : Condition) : Prop where
  shape : d.shape = .multi
  detect : Draft.detect d.root = .ok draft
  root : ∃ p, Predicate.compile d.root true = .ok p
  others : ∀ c', c' ≠ c → d.Meets draft c'
  fails : ∃ key fault, Engine.build d .default = .error (.uncompilable key fault)

/-- If a document meets all conditions but one, and its build fails at a key that is not that of the
root, then the document fails for this one condition. -/
theorem failsFor_of_faultKey? {c : Condition} {key : String} (hshape : d.shape = .multi)
    (hdetect : Draft.detect d.root = .ok draft) (hothers : ∀ c', c' ≠ c → d.Meets draft c')
    (hkey : key ≠ rootKey) (h : Engine.faultKey? d = some key) : d.FailsFor draft c :=
  have ⟨hroot, fault, hfails⟩ := Engine.compiles_root_of_faultKey? hkey h
  ⟨hshape, hdetect, hroot, hothers, key, fault, hfails⟩

/-- No schema inside the definitions has an address, if no value inside them would give itself one
as a schema of any draft. -/
theorem meets_address
    (h : ∀ draft ∈ Draft.all, ∀ v ∈ d.definitionsObject.values, Site.address? draft v = none) :
    d.Meets draft .address :=
  fun _ hx => h _ (Draft.mem_all _) _ (mem_values_of_holds hx)

/-- The references of the schemas inside the definitions are fragments, if every text inside the
definitions that could be a reference is one. -/
theorem meets_fragment (h : ∀ v ∈ d.definitionsObject.values,
      ∀ text ∈ (v.get? "$ref").bind Json.string?, text.toList.head? = some '#') :
    d.Meets draft .fragment :=
  fun _ hx => h _ (mem_values_of_holds hx)

/-- Everything that the parts of a document reach stays local, if a search of bounded depth from the
places of the parts settles this. -/
theorem meets_references (n : Nat) (h : (d.partSites draft).all
      ((d.alone draft).registry.settled (fun s => decide s.StaysLocal) n) = true) :
    d.Meets draft .references :=
  fun _ hs => of_decide_eq_true (check_of_reaches n h hs)

/-- A document with two types, one of which has a schema inside that takes the address of the
document. Nothing refers to this schema, but a reference to a type is then read in it. -/
def takenDocument : Document :=
  ⟨_, Json.canonical_ofList [
    ("$schema", .string "http://json-schema.org/draft-07/schema#"),
    ("definitions", .object [("A", .object [("type", .string "string")]),
      ("B", .object [("definitions", .object [
        ("C", .object [("$id", .string "json-schema:///")])])])])]⟩

/-- A document with a type that has a schema inside which refers to one outside the definitions by
its address. Nothing refers to the schema inside, but its reference has to be known to build a
registry. -/
def addressedDocument : Document :=
  ⟨_, Json.canonical_ofList [
    ("$schema", .string "http://json-schema.org/draft-07/schema#"),
    ("additionalProperties", .object [("$id", .string "urn:other")]),
    ("definitions", .object [("A", .object [("definitions", .object [
      ("C", .object [("$ref", .string "urn:other")])])])])]⟩

/-- A document of the draft with a certain identifier, with a type that refers to a schema outside
the definitions by a certain keyword. -/
def outsideDocument (identifier keyword : String) : Document :=
  ⟨_, Json.canonical_ofList [
    ("$schema", .string identifier),
    ("additionalProperties", .object [("type", .string "string")]),
    ("definitions", .object [("A", .object [(keyword, .string "#/additionalProperties")])])]⟩

/-- A document whose type refers to the outside fails for this one reference, as far as the other
conditions are met and its build fails at the key of the type. -/
theorem failsFor_outsideDocument {identifier keyword : String}
    (hdetect : Draft.detect (outsideDocument identifier keyword).root = .ok draft)
    (hshape : (outsideDocument identifier keyword).shape = .multi)
    (haddress : (outsideDocument identifier keyword).Meets draft .address)
    (hfragment : (outsideDocument identifier keyword).Meets draft .fragment)
    (hreadable : (outsideDocument identifier keyword).Meets draft .readable)
    (h : Engine.faultKey? (outsideDocument identifier keyword) = some "Schema#/definitions/A") :
    (outsideDocument identifier keyword).FailsFor draft .references := by
  refine failsFor_of_faultKey? hshape hdetect (fun c hc => ?_) (by decide) h
  cases c with
  | address => exact haddress
  | fragment => exact hfragment
  | references => exact absurd rfl hc
  | readable => exact hreadable

/-- Whatever keyword a reference stands under, it can lead out of the definitions, and then the type
that has it does not compile. For this reason `$ref` alone may refer, and only to places that a part
keeps. -/
theorem exists_failsFor_references {keyword : String} (h : keyword ∈ Vocabulary.referring) :
    ∃ identifier draft, (outsideDocument identifier keyword).FailsFor draft .references := by
  simp only [Vocabulary.referring, List.mem_cons, List.not_mem_nil, or_false] at h
  rcases h with rfl | rfl | rfl
  · -- A plain reference, which every draft follows.
    exact ⟨"http://json-schema.org/draft-07/schema#", .draft7, failsFor_outsideDocument rfl
      (by decide) (meets_address (by decide)) (meets_fragment (by decide))
      (readable_of_settled 3 (by decide +kernel)) Engine.faultKey?_sharedDocument⟩
  · -- A dynamic one, in the one draft that has them.
    exact ⟨"https://json-schema.org/draft/2020-12/schema", .draft2020, failsFor_outsideDocument rfl
      (by decide) (meets_address (by decide)) (meets_fragment (by decide))
      (readable_of_settled 3 (by decide +kernel)) (by decide +kernel)⟩
  · -- A recursive one, in the one draft that has them.
    exact ⟨"https://json-schema.org/draft/2019-09/schema", .draft2019, failsFor_outsideDocument rfl
      (by decide) (meets_address (by decide)) (meets_fragment (by decide))
      (readable_of_settled 3 (by decide +kernel)) (by decide +kernel)⟩

/-- No condition can be left out. For each of them there is a document that meets all the others and
whose root compiles, and that has no engine. -/
theorem exists_failsFor (c : Condition) : ∃ d draft, FailsFor d draft c := by
  cases c with
  | address =>
      have hfault : Engine.faultKey? takenDocument = some "Schema#/definitions/A" := by
        decide +kernel
      refine ⟨takenDocument, .draft7,
        failsFor_of_faultKey? (by decide) rfl (fun c hc => ?_) (by decide) hfault⟩
      cases c with
      | address => exact absurd rfl hc
      | fragment => exact meets_fragment (by decide)
      | references => exact meets_references 3 (by decide +kernel)
      | readable => exact readable_of_settled 3 (by decide +kernel)
  | fragment =>
      have hfault : Engine.faultKey? addressedDocument = some "Schema#/definitions/A" := by
        decide +kernel
      refine ⟨addressedDocument, .draft7,
        failsFor_of_faultKey? (by decide) rfl (fun c hc => ?_) (by decide) hfault⟩
      cases c with
      | address => exact meets_address (by decide)
      | fragment => exact absurd rfl hc
      | references => exact meets_references 3 (by decide +kernel)
      | readable => exact readable_of_settled 3 (by decide +kernel)
  | references =>
      obtain ⟨identifier, draft, hfails⟩ := exists_failsFor_references List.mem_cons_self
      exact ⟨_, draft, hfails⟩
  | readable =>
      refine ⟨Engine.patternDocument, .draft2020, failsFor_of_faultKey? (by decide) rfl
        (fun c hc => ?_) (by decide) Engine.faultKey?_patternDocument⟩
      cases c with
      | address => exact meets_address (by decide)
      | fragment => exact meets_fragment (by decide)
      | references => exact meets_references 3 (by decide +kernel)
      | readable => exact absurd rfl hc

end Document

end SchemaGate
