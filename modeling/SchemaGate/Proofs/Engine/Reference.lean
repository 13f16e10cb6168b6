import SchemaGate.Engine.Basic
import SchemaGate.Proofs.Pointer
import SchemaGate.Proofs.Schema.Usable

/-!
# `SchemaGate.Proofs.Engine.Reference`: where the references of an engine lead

A type is checked through a schema that refers to it by the fragment of a pointer. The fragment is a
well-formed URI reference whatever the type is called (`Site.absolute_fragment`), and a walk along
the pointer goes through the members of the names that the segments were written from
(`foldlM_step_escape`). The schema is its own document as long as no schema inside takes its address
(`resource?_of_ofSchema`). So the reference leads to the part of the document that it is meant for
(`refersTo_typePointer`).
-/

set_option autoImplicit false

namespace SchemaGate

open Text.Percent

/-! ### Fragments as references -/

namespace Uri

/-- Every character of the text of a fragment may stand in the fragment of a URI, and every percent
sign in it begins an octet, so the text passes the check of the parser. -/
theorem check_fragmentText {cs : List Char} (h : Pointer.FragmentText cs) (index : Nat) :
    check isQueryChar index cs = .ok () := by
  induction h generalizing index with
  | nil => rfl
  | @plain c cs hc _ ih =>
      -- The character starts no octet, and the fragment of a reference admits it.
      have hne : c ≠ '%' := by
        rintro rfl
        exact absurd hc (by decide)
      have hok : isQueryChar c = true := by
        rcases hc with hc | rfl
        · simp [isQueryChar, isSegmentChar, isNameChar, hc]
        · decide
      rw [check.eq_def]
      split
      · next heq => cases heq
      · next heq => exact absurd (List.cons.inj heq).1 hne
      · next heq =>
        obtain ⟨rfl, rfl⟩ := List.cons.inj heq
        rw [if_pos hok, ih]
  | @octet a b cs ha hb _ ih =>
      -- Both digits of the octet are hexadecimal, so the check goes on behind them.
      have digit : ∀ c : Char, IsUpperDigit c → (Text.hexValue? c).isSome = true := by
        intro c hc
        rw [Text.hexValue?]
        rcases hc with hc | hc
        · rw [if_pos hc]
          rfl
        · split
          · rfl
          · split
            · rfl
            · rfl
      rw [check, digit a ha, digit b hb]
      exact ih (index + 3)

/-- A reference that is written as a mere fragment is read as a URI with this fragment and no other
component. -/
theorem parse_fragment {text : String} {cs : List Char} (htext : text.toList = '#' :: cs)
    (h : Pointer.FragmentText cs) : parse text = .ok ⟨none, none, [], none, some cs⟩ := by
  have hcheck := check_fragmentText h 1
  simp [parse, htext, isScheme, byteCount, check, hcheck]
  rfl

end Uri

/-- A reference that is a mere fragment, read against a base, is this base with the fragment in
place of its own. -/
theorem Site.absolute_fragment (base : Uri) {text : String} {cs : List Char}
    (htext : text.toList = '#' :: cs) (h : Pointer.FragmentText cs) :
    absolute base text = .ok { base with fragment := some cs } := by
  rw [absolute, Uri.parse_fragment htext h]
  simp [htext]

/-! ### Walks -/

namespace Pointer

/-- A step along the written form of a name leads from an object to the value of the member with
this name. -/
theorem step_escape {v w : Json} {name : String} (h : v.get? name = some w) :
    step v (escape name.toList) = .ok w := by
  cases v with
  | object members =>
      have hl : members.lookup name = some w := h
      rw [step, unescape_escape, String.ofList_toList, hl]
  | _ => cases h

/-- Steps along the written forms of some names lead to the same value as looking the names up one
after another. -/
theorem foldlM_step_escape (p : Pointer) {v w : Json} (h : p.foldlM Json.get? v = some w) :
    (p.map fun s => escape s.toList).foldlM step v = .ok w := by
  induction p generalizing v with
  | nil =>
      cases h
      rfl
  | cons name p ih =>
      -- `u` is the member of the first name, and the walk goes on inside it.
      obtain ⟨u, hu, hp⟩ := Option.bind_eq_some_iff.1 h
      rw [List.map_cons, List.foldlM_cons, step_escape hu]
      exact ih hp

/-- The value that a fragment points at inside another one, if any: the fragment is decoded from
percent signs, cut at the slashes, and followed segment by segment. -/
def target? (value : Json) (fragment : List Char) : Option Json :=
  match (decode? fragment).map splitSegments with
  | some ([] :: segments) => (segments.foldlM step value).toOption
  | _ => none

/-- The fragment of a pointer points at the value that is found by looking up the segments of the
pointer one after another. -/
theorem target?_fragment (p : Pointer) {v w : Json} (h : p.foldlM Json.get? v = some w) :
    target? v p.fragment.toList = some w := by
  rw [target?, decode?_fragment, Option.map_some, splitSegments_write]
  show ((p.map fun s => escape s.toList).foldlM step v).toOption = some w
  rw [foldlM_step_escape p h]
  rfl

end Pointer

namespace Registry

/-- If the steps of a pointer lead to a value, then a walk along them ends at a schema whose
contents are this value, whatever addresses and drafts are changed on the way. -/
theorem exists_walk (pointer : String) (segments : List (List Char)) {s : Site} {w : Json}
    (h : segments.foldlM Pointer.step s.contents = .ok w) :
    ∃ found, walk pointer s segments = .ok found ∧ found.contents = w := by
  induction segments generalizing s with
  | nil =>
      cases h
      exact ⟨s, rfl, rfl⟩
  | cons segment segments ih =>
      rw [List.foldlM_cons] at h
      rw [walk]
      cases hstep : Pointer.step s.contents segment with
      | error fault => rw [hstep] at h; cases h
      | ok v =>
          rw [hstep] at h
          exact @ih (s.enter v) h

/-- Inside a schema the fragment of a pointer leads to the value that is found by looking up the
segments of the pointer. The pointer must have a segment, since the empty fragment leads to the
schema itself. -/
theorem exists_locate (r : Registry) (s : Site) {name : String} {p : Pointer} {w : Json}
    (h : (name :: p).foldlM Json.get? s.contents = some w) :
    ∃ found, r.locate s (Pointer.fragment (name :: p)).toList = .ok found ∧ found.contents = w := by
  have hsteps := Pointer.foldlM_step_escape (name :: p) h
  -- The fragment is not empty, so it is taken as a pointer and not as the whole schema.
  have hfragment : (Pointer.fragment (name :: p)).toList
      = '/' :: (encode (Pointer.escape name.toList) ++ p.fragment.toList) := by
    rw [Pointer.toList_fragment, Pointer.toList_fragment, List.map_cons, List.flatMap_cons,
      List.cons_append]
  rw [hfragment, locate, Pointer.decode?_encode_append_fragment]
  show ∃ found, walk _ s (Pointer.splitSegments _) = .ok found ∧ _
  rw [Pointer.splitSegments_escape_append_write]
  exact exists_walk _ _ hsteps

/-- A reference that is a mere fragment leads into the schema that is found at the base, and there
to the value that the segments of the pointer lead to. -/
theorem exists_resolve {r : Registry} {s target : Site} (hfind : r.resource? s.base = some target)
    {name : String} {p : Pointer} {w : Json}
    (h : (name :: p).foldlM Json.get? target.contents = some w) :
    ∃ address found, r.resolve s ("#" ++ Pointer.fragment (name :: p)) = .ok (address, found) ∧
      found.contents = w := by
  have htext : ("#" ++ Pointer.fragment (name :: p)).toList
      = '#' :: (Pointer.fragment (name :: p)).toList := by
    rw [String.toList_append]
    rfl
  have habsolute := Site.absolute_fragment s.base htext (Pointer.fragmentText_fragment (name :: p))
  have hsplit : splitReference s.base ("#" ++ Pointer.fragment (name :: p))
      = .ok (s.base, (Pointer.fragment (name :: p)).toList) := by
    rw [splitReference, habsolute, htext]
    rfl
  -- The base is the address of `target`, and the fragment is looked for inside it.
  obtain ⟨found, hfound, hcontents⟩ := r.exists_locate (s.follow target) h
  refine ⟨{ s.base with fragment := some (Pointer.fragment (name :: p)).toList }, found, ?_,
    hcontents⟩
  rw [resolve, hsplit]
  simp only [bind, Except.bind, hfind, hfound]
  rfl

end Registry

/-! ### The schema of a part of a document -/

namespace Document

/-- The part of a document that a registration is for. Without a field this is the schema of a type,
and with a field the schema that the type declares for it. -/
def part? (d : Document) (typeName : String) : Option RequestField → Option Json
  | none => d.definition? typeName
  | some f => d.requestField? typeName f

/-- The part of a document is found by looking up the names in its pointer one after another,
starting at the root. -/
theorem foldlM_get?_typePointer (d : Document) (t : String) (field : Option RequestField) :
    (typePointer t field).foldlM Json.get? d.root = d.part? t field := by
  have hmember : ∀ (v : Option Json) (name : String),
      (v.bind Json.members?).bind (fun m => m.lookup name) = v.bind fun v => v.get? name := by
    intro v name
    cases v with
    | none => rfl
    | some v => cases v <;> rfl
  cases field with
  | none =>
      show _ = ((d.root.get? "definitions").bind Json.members?).bind (fun m => m.lookup t)
      rw [hmember]
      simp [typePointer]
  | some f =>
      show _ = ((((((d.root.get? "definitions").bind Json.members?).bind
        fun m => m.lookup t).bind fun v => v.get? "properties").bind Json.members?).bind
          fun m => m.lookup f.name)
      rw [hmember, hmember]
      simp [typePointer, Option.bind_assoc]

/-- Of the members of some names, those that the document has are kept. Looking up one of these
names then finds what the document has, and looking up any other name finds nothing. -/
theorem lookup_kept (d : Document) (names : List String) (name : String) :
    (names.filterMap fun k => (d.members.lookup k).map fun v => (k, v)).reverse.lookup name
      = if name ∈ names then d.members.lookup name else none := by
  rw [← List.filterMap_reverse, Members.lookup_filterMap]
  simp only [List.mem_reverse]

/-- The schema of a part has the reference under `allOf`, and under the name of a kept keyword what
the document has there. It has no other members. -/
theorem get?_partSchema (d : Document) (p : Pointer) (name : String) :
    (d.partSchema p).get? name =
      if name = "allOf" then some (.array [reference p])
      else if name ∈ keptKeywords then d.root.get? name else none := by
  show (Members.ofList _).lookup name = _
  rw [Members.lookup_ofList, List.reverse_append, List.reverse_singleton, List.singleton_append,
    Members.lookup_cons_ite]
  split
  · rfl
  · exact d.lookup_kept keptKeywords name

/-- Inside the schema that refers to a part, the names in the pointer of this part lead to it, since
the definitions of the document are kept there. -/
theorem foldlM_get?_partSchema (d : Document) (t : String) (field : Option RequestField)
    (p : Pointer) : (typePointer t field).foldlM Json.get? (d.partSchema p) = d.part? t field := by
  have hdefinitions : (d.partSchema p).get? "definitions" = d.root.get? "definitions" := by
    rw [get?_partSchema]
    simp [keptKeywords]
  rw [← foldlM_get?_typePointer]
  cases field <;> rw [typePointer, List.foldlM_cons, List.foldlM_cons, hdefinitions]

/-- The schema of a part gives itself no address, in any draft, since no member for an address is
kept. -/
theorem address?_partSchema (d : Document) (p : Pointer) (draft : Draft) :
    Site.address? draft (d.partSchema p) = none := by
  have hid : (d.partSchema p).get? draft.idKeyword = none := by
    rw [get?_partSchema]
    cases draft <;> simp [Draft.idKeyword, keptKeywords]
  rw [Site.address?, hid]
  simp

/-- A schema that is nothing but a reference gives itself no address, in any draft. -/
theorem address?_reference (p : Pointer) (draft : Draft) :
    Site.address? draft (reference p) = none := by
  have hid : (reference p).get? draft.idKeyword = none := by
    show List.lookup draft.idKeyword [("$ref", _)] = none
    cases draft <;> simp [Draft.idKeyword, Members.lookup_cons_ite]
  rw [Site.address?, hid]
  simp

/-- What the reference in the schema of a part leads to, once read as a pointer into this schema,
and once followed as the engine follows it. -/
structure RefersTo (d : Document) (p : Pointer) (contents : Json) : Prop where
  /-- The schema consists of the reference, beside what it keeps of the document. -/
  written : (d.partSchema p).get? "allOf"
    = some (.array [.object [("$ref", .string ("#" ++ p.fragment))]])
  /-- The fragment points at the part, inside the schema. -/
  pointed : Pointer.target? (d.partSchema p) p.fragment.toList = some contents
  /-- Inside the schema the fragment leads to the part, in whatever registry it is looked up. -/
  located : ∀ (r : Registry) (s : Site), s.contents = d.partSchema p →
    ∃ found, r.locate s p.fragment.toList = .ok found ∧ found.contents = contents
  /-- In the registry of the schema the reference leads to the part, unless a schema inside takes
  the address of the whole. -/
  resolved : ∀ draft r root, Registry.ofSchema draft (d.partSchema p) = .ok (r, root) →
    root.KeepsAddress → ∃ address found,
      r.resolve (root.enter (reference p)) ("#" ++ p.fragment) = .ok (address, found) ∧
      found.contents = contents

/-- The pointer to a part has a first segment, whichever part it is for: it starts with the
definitions. -/
theorem exists_typePointer (t : String) (field : Option RequestField) :
    ∃ more, typePointer t field = "definitions" :: more := by
  cases field <;> exact ⟨_, rfl⟩

/-- The reference in the schema of a part leads to this part, if the document has it. -/
theorem refersTo_typePointer {d : Document} {t : String} {field : Option RequestField}
    {contents : Json} (h : d.part? t field = some contents) :
    d.RefersTo (typePointer t field) contents where
  written := get?_partSchema d (typePointer t field) "allOf"
  pointed := Pointer.target?_fragment _ ((d.foldlM_get?_partSchema t field _).trans h)
  located r s hs := by
    have hcontents := (d.foldlM_get?_partSchema t field (typePointer t field)).trans h
    rw [← hs] at hcontents
    obtain ⟨p, hp⟩ := exists_typePointer t field
    rw [hp] at hcontents ⊢
    exact r.exists_locate s hcontents
  resolved draft r root hr hkeeps := by
    obtain ⟨hroot, -⟩ := Registry.exists_collect_of_ofSchema hr
    have hfind := Registry.resource?_of_ofSchema hr hkeeps
    have hroot' : root = ⟨Registry.defaultBase, [], draft, d.partSchema (typePointer t field)⟩ := by
      rw [Registry.rootSite, Site.innerBase, address?_partSchema] at hroot
      cases hroot
      rfl
    subst hroot'
    -- The reference has no address of its own, so it is read against the one of the whole schema.
    have hbase : (Site.enter ⟨Registry.defaultBase, [], draft, d.partSchema (typePointer t field)⟩
        (reference (typePointer t field))).base = Registry.defaultBase := by
      rw [Site.enter, Site.innerBase, address?_reference]
      rfl
    have hcontents := (d.foldlM_get?_partSchema t field (typePointer t field)).trans h
    obtain ⟨p, hp⟩ := exists_typePointer t field
    rw [hp] at hfind hbase hcontents ⊢
    exact Registry.exists_resolve (by rw [hbase]; exact hfind) hcontents

/-- A document has the part that a registration is for, when the registration is of a type or of a
request field that the type declares. -/
theorem exists_part (d : Document) {t : String} (ht : t ∈ d.definitionNames)
    {field : Option RequestField} (hfield : ∀ f, field = some f → f ∈ d.requestFields t) :
    ∃ contents, d.part? t field = some contents := by
  refine Option.isSome_iff_exists.1 ?_
  cases field with
  | some f => exact (List.mem_filter.1 (hfield f rfl)).2
  | none => exact mem_definitionNames_iff.1 ht

/-- Every part of a document is the schema of one of its types, or of a request field that one of
its types declares. -/
theorem declared_of_part {d : Document} {t : String} {field : Option RequestField} {contents : Json}
    (h : d.part? t field = some contents) :
    t ∈ d.definitionNames ∧ ∀ f, field = some f → f ∈ d.requestFields t := by
  cases field with
  | none => exact ⟨mem_definitionNames_iff.2 (Option.isSome_iff_exists.2 ⟨_, h⟩), nofun⟩
  | some f =>
      obtain ⟨properties, hproperties, -⟩ := Option.bind_eq_some_iff.1 h
      obtain ⟨x, hx, -⟩ := Option.bind_eq_some_iff.1 hproperties
      obtain ⟨type, htype, -⟩ := Option.bind_eq_some_iff.1 hx
      refine ⟨mem_definitionNames_iff.2 (Option.isSome_iff_exists.2 ⟨_, htype⟩), ?_⟩
      rintro g ⟨⟩
      exact List.mem_filter.2 ⟨by cases f <;> decide, Option.isSome_iff_exists.2 ⟨_, h⟩⟩

/-- The parts of one type are the type itself and the request fields that it declares, in the form
in which the registrations list them. -/
theorem mem_fields {d : Document} {t : String} {field : Option RequestField}
    (hfield : ∀ f, field = some f → f ∈ d.requestFields t) :
    field ∈ none :: (d.requestFields t).map some := by
  cases field with
  | none => exact List.mem_cons_self
  | some f => exact List.mem_cons_of_mem _ (List.mem_map_of_mem (hfield f rfl))

/-- In a document with several types, each type and each request field that it declares has a
registration, whose schema refers to this part. -/
theorem mem_registrations {d : Document} (hshape : d.shape = .multi) {t : String}
    (ht : t ∈ d.definitionNames) {field : Option RequestField}
    (hfield : ∀ f, field = some f → f ∈ d.requestFields t) :
    (registryKey t field, d.partSchema (typePointer t field)) ∈ d.registrations := by
  rw [registrations, hshape]
  exact List.mem_cons_of_mem _
    (List.mem_flatMap.2 ⟨t, ht, List.mem_map.2 ⟨field, mem_fields hfield, rfl⟩⟩)

/-- Every reference that an engine writes leads to the part of the document that it is written for.
The fragment of any pointer consists of unreserved characters, slashes and octets, and gives back
the segments, whether it is split before or after it is percent-decoded. -/
theorem references_resolve :
    (∀ p : Pointer, Pointer.FragmentText p.fragment.toList ∧
      Pointer.decodeThenSplit p.fragment.toList = some p ∧
      Pointer.splitThenDecode p.fragment.toList = some p) ∧
    ∀ d : Document, d.shape = .multi → ∀ t ∈ d.definitionNames, ∀ field : Option RequestField,
      (∀ f, field = some f → f ∈ d.requestFields t) →
      (registryKey t field, d.partSchema (typePointer t field)) ∈ d.registrations ∧
      ∃ contents, d.part? t field = some contents ∧
        d.RefersTo (typePointer t field) contents := by
  refine ⟨fun p => ⟨Pointer.fragmentText_fragment p, Pointer.decodeThenSplit_fragment p,
    Pointer.splitThenDecode_fragment p⟩, fun d hshape t ht field hfield => ?_⟩
  obtain ⟨contents, hpart⟩ := d.exists_part ht hfield
  exact ⟨mem_registrations hshape ht hfield, contents, hpart, refersTo_typePointer hpart⟩

/-- A document with one type, whose name has characters that a pointer escapes and others that a
fragment has to encode. -/
def escapedDocument : Document :=
  ⟨_, Json.canonical_ofList [
    ("definitions", .object [("a/b~c %é", .object [("type", .string "string")])])]⟩

/-- The reference to the type with the unusual name is written as a URI has it. Read back it gives
the name again, and it leads to the schema of the type. -/
theorem references_resolve_escaped :
    Pointer.decodeThenSplit "/definitions/a~1b~0c%20%25%C3%A9".toList
        = some ["definitions", "a/b~c %é"] ∧
      escapedDocument.shape = .multi ∧ "a/b~c %é" ∈ escapedDocument.definitionNames ∧
      escapedDocument.RefersTo ["definitions", "a/b~c %é"]
        (.object [("type", .string "string")]) := by
  obtain ⟨hfragment, hrefers⟩ := references_resolve
  have htext : Pointer.fragment ["definitions", "a/b~c %é"]
      = "/definitions/a~1b~0c%20%25%C3%A9" := by decide +kernel
  have hshape : escapedDocument.shape = .multi := by decide
  have hmem : "a/b~c %é" ∈ escapedDocument.definitionNames := by decide
  obtain ⟨-, contents, hpart, hleads⟩ := hrefers escapedDocument hshape _ hmem none nofun
  obtain rfl : Json.object [("type", .string "string")] = contents := Option.some.inj hpart
  exact ⟨htext ▸ (hfragment ["definitions", "a/b~c %é"]).2.1, hshape, hmem, hleads⟩

end Document

end SchemaGate
