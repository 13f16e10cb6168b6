import SchemaGate.Engine.Basic
import SchemaGate.Proofs.Engine.RegistryKey
import SchemaGate.Proofs.Text.Utf8
import SchemaGate.Proofs.Traversal

/-!
# `SchemaGate.Proofs.Engine.Registration`: what an engine holds

`Engine.build` compiles the registrations of a document in order. `compileAll_eq_ok_iff` says that
it succeeds with one predicate for each registration, and `compileAll_eq_error` that it stops at the
first schema that cannot be used.

Of several predicates under one key a lookup finds the last. So a lookup is settled by a
registration that no later one has the key of (`predicate?_of_last`). The registration of a type is
such a one: the types come in order of their names, and the only other key that can coincide with
the key of a type is the key of a field of a type whose name is shorter, which therefore comes first
(`last_type_registration`). The registration of a request field is such a one unless a type has the
name that the key spells (`last_field_registration`).

`build_registers` puts this together: the outcome of a build, and on success the names, the keys and
the predicate under each of them.
-/

set_option autoImplicit false

namespace SchemaGate

/-! ### Compiling in order -/

namespace Engine

/-- The schema of a registration can be used: it compiles to a predicate, with as much reported as
is asked for. -/
def Compiles (allErrors : Bool) (r : String × Json) : Prop :=
  ∃ p, Predicate.compile r.2 allErrors = .ok p

/-- The entry of an engine for a registration: it has the key of the registration and the predicate
that its schema compiles to. -/
def IsPredicateOf (allErrors : Bool) (r : String × Json) (p : String × Predicate) : Prop :=
  p.1 = r.1 ∧ Predicate.compile r.2 allErrors = .ok p.2

/-- The first of several registrations is compiled before the others. If it cannot be, then its key
and its fault are reported and the others are not looked at. -/
theorem compileAll_cons (allErrors : Bool) (key : String) (schema : Json)
    (rest : List (String × Json)) :
    compileAll allErrors ((key, schema) :: rest) =
      match Predicate.compile schema allErrors with
      | .ok p => (compileAll allErrors rest).map ((key, p) :: ·)
      | .error fault => .error (.uncompilable key fault) := by
  unfold compileAll
  rw [List.mapM_cons]
  cases hs : Predicate.compile schema allErrors with
  | error fault =>
      simp only [hs]
      rfl
  | ok p =>
      simp only [hs]
      show (do
        let ps ← compileAll allErrors rest
        pure ((key, p) :: ps)) = (compileAll allErrors rest).map ((key, p) :: ·)
      cases compileAll allErrors rest <;> rfl

/-- Compiling one registration succeeds with a certain entry exactly if this is the entry for the
registration. -/
theorem compileAll_step {allErrors : Bool} {r : String × Json} {p : String × Predicate} :
    (match Predicate.compile r.2 allErrors with
      | .ok q => .ok (r.1, q)
      | .error fault => .error (.uncompilable r.1 fault) : Except EngineFault (String × Predicate))
      = .ok p ↔ IsPredicateOf allErrors r p := by
  obtain ⟨key, q⟩ := p
  unfold IsPredicateOf
  cases Predicate.compile r.2 allErrors with
  | error fault => simp
  | ok own => simp [eq_comm]

/-- Compiling a list of registrations succeeds with certain entries exactly if these are the entries
for the registrations, in the same order. -/
theorem compileAll_eq_ok_iff {allErrors : Bool} {rs : List (String × Json)}
    {ps : List (String × Predicate)} :
    compileAll allErrors rs = .ok ps ↔ List.Forall₂ (IsPredicateOf allErrors) rs ps := by
  unfold compileAll
  rw [mapM_eq_ok_iff]
  exact ⟨fun h => h.imp fun _ _ => compileAll_step.1, fun h => h.imp fun _ _ => compileAll_step.2⟩

/-- If a registration does not compile and all those before it do, then its key and its fault are
what is reported. -/
theorem compileAll_eq_error {allErrors : Bool} {schema : Json} {fault : Fault}
    (before : List (String × Json)) (key : String) (after : List (String × Json))
    (hbefore : ∀ r ∈ before, Compiles allErrors r)
    (hfault : Predicate.compile schema allErrors = .error fault) :
    compileAll allErrors (before ++ (key, schema) :: after) = .error (.uncompilable key fault) := by
  induction before with
  | nil => simp only [List.nil_append, compileAll_cons, hfault]
  | cons r rest ih =>
      -- `r` compiles, so the fault of the others is passed on as it is.
      obtain ⟨p, hp⟩ := hbefore r List.mem_cons_self
      have hrest := ih fun r' hr' => hbefore r' (List.mem_cons_of_mem _ hr')
      rw [List.cons_append, compileAll_cons, hp, hrest]
      rfl

/-- Either all the registrations of a list compile, or there is a first one that does not, with some
that do before it. -/
theorem forall_compiles_or_first (allErrors : Bool) (rs : List (String × Json)) :
    (∀ r ∈ rs, Compiles allErrors r) ∨
    ∃ before key schema after fault, rs = before ++ (key, schema) :: after ∧
      (∀ r ∈ before, Compiles allErrors r) ∧
      Predicate.compile schema allErrors = .error fault := by
  induction rs with
  | nil => exact .inl fun r hr => absurd hr List.not_mem_nil
  | cons r rest ih =>
      cases hr : Predicate.compile r.2 allErrors with
      | error fault => exact .inr ⟨[], r.1, r.2, rest, fault, rfl, by simp, hr⟩
      | ok p =>
          rcases ih with hall | ⟨before, key, schema, after, fault, heq, hbefore, hfault⟩
          · exact .inl (List.forall_mem_cons.2 ⟨⟨p, hr⟩, hall⟩)
          · exact .inr ⟨r :: before, key, schema, after, fault, by rw [heq, List.cons_append],
              List.forall_mem_cons.2 ⟨⟨p, hr⟩, hbefore⟩, hfault⟩

/-! ### Looking up the last -/

/-- The entries of an engine have the keys of the registrations, in the same order and as often. -/
theorem map_fst_eq {allErrors : Bool} {rs : List (String × Json)}
    {ps : List (String × Predicate)} (h : List.Forall₂ (IsPredicateOf allErrors) rs ps) :
    ps.map (·.1) = rs.map (·.1) := by
  induction h with
  | nil => rfl
  | cons hp _ ih => rw [List.map_cons, List.map_cons, ih, hp.1]

/-- Of several entries with the same key a lookup from behind finds the last one, whatever stands
before it. -/
theorem lookup_reverse_of_last {α : Type} {key : String} {v : α}
    {before after : List (String × α)} (h : key ∉ after.map (·.1)) :
    (before ++ (key, v) :: after).reverse.lookup key = some v := by
  refine List.lookup_eq_some_iff.2 ⟨after.reverse, before.reverse, by simp, fun x hx => ?_⟩
  have hne : x.1 ≠ key := fun he =>
    h (he ▸ List.mem_map.2 ⟨x, List.mem_reverse.1 hx, rfl⟩)
  simpa using Ne.symm hne

/-- The entry for a registration stands at the same position among the entries, so those behind it
are the entries for the registrations behind. -/
theorem split_predicates {allErrors : Bool} {r : String × Json}
    {before after : List (String × Json)} {ps : List (String × Predicate)}
    (h : List.Forall₂ (IsPredicateOf allErrors) (before ++ r :: after) ps) :
    ∃ qs p rest, ps = qs ++ p :: rest ∧ IsPredicateOf allErrors r p ∧
      List.Forall₂ (IsPredicateOf allErrors) after rest := by
  induction before generalizing ps with
  | nil =>
      cases h with
      | @cons _ p _ rest hp hrest => exact ⟨[], p, rest, rfl, hp, hrest⟩
  | cons b before ih =>
      cases h with
      | @cons _ q _ ps' _ hrest =>
          obtain ⟨qs, p, rest, heq, hp, hafter⟩ := ih hrest
          exact ⟨q :: qs, p, rest, by rw [heq, List.cons_append], hp, hafter⟩

/-- Under a key the engine finds the predicate that a certain schema compiles to. -/
def HoldsAt (e : Engine) (allErrors : Bool) (key : String) (schema : Json) : Prop :=
  ∃ p, Predicate.compile schema allErrors = .ok p ∧ e.predicate? key = some p

/-- Suppose that an engine has the entries for some registrations, and that no registration behind a
certain one has its key. Then the engine finds the predicate of this registration under the key. -/
theorem predicate?_of_last {allErrors : Bool} {e : Engine} {key : String} {schema : Json}
    (before : List (String × Json)) {after : List (String × Json)}
    (hp : List.Forall₂ (IsPredicateOf allErrors) (before ++ (key, schema) :: after) e.predicates)
    (hlast : key ∉ after.map (·.1)) : e.HoldsAt allErrors key schema := by
  -- The predicates behind `p` have the keys of the registrations behind its own.
  obtain ⟨qs, ⟨key', p⟩, rest, heq, ⟨hkey, hcompile⟩, hafter⟩ := split_predicates hp
  have hrest : key ∉ rest.map (·.1) := map_fst_eq hafter ▸ hlast
  refine ⟨p, hcompile, ?_⟩
  rw [predicate?, heq, show key' = key from hkey]
  exact lookup_reverse_of_last hrest

end Engine

/-! ### Which registration of a key is the last -/

namespace Document

/-- The types of a document come in the order of their names, each of them once, because the members
of an object do. -/
theorem pairwise_definitionNames (d : Document) : d.definitionNames.Pairwise (· < ·) :=
  List.pairwise_map.2 d.canonical_definitions.1

/-- No request field comes up twice among those that a type declares. -/
theorem nodup_requestFields (d : Document) (t : String) : (d.requestFields t).Nodup :=
  List.Pairwise.filter _ (by decide : RequestField.all.Nodup)

/-- The registration of a request field of a type: its key, and the schema that refers to the
field. -/
def fieldRegistration (d : Document) (t : String) (f : RequestField) : String × Json :=
  (registryKey t (some f), d.partSchema (typePointer t (some f)))

/-- The registrations of a type are its own and, behind it, those of the request fields that it
declares. -/
theorem typeRegistrations_eq (d : Document) (t : String) :
    d.typeRegistrations t = (registryKey t none, d.partSchema (typePointer t none))
      :: (d.requestFields t).map (d.fieldRegistration t) := by
  rw [typeRegistrations, List.map_cons, List.map_map]
  rfl

/-- The keys in the registrations of a type are its own key and those of the request fields that it
declares. -/
theorem mem_keys_typeRegistrations {d : Document} {t key : String} :
    key ∈ (d.typeRegistrations t).map (·.1) ↔
      key = registryKey t none ∨ ∃ f ∈ d.requestFields t, key = registryKey t (some f) := by
  rw [typeRegistrations_eq]
  simp [fieldRegistration, eq_comm]

/-- No type behind a certain one has a registration with the key of this one. The key of a request
field spells a name that lies behind the name of its own type, and so behind this one. -/
theorem typeKey_notMem_later {d : Document} {t : String} {later : List String}
    (h : ∀ u ∈ later, t < u) :
    registryKey t none ∉ (later.flatMap d.typeRegistrations).map (·.1) := by
  intro hmem
  rw [List.map_flatMap, List.mem_flatMap] at hmem
  obtain ⟨u, hu, hkey⟩ := hmem
  have htu : t < u := h u hu
  rcases mem_keys_typeRegistrations.1 hkey with hkey | ⟨f, -, hkey⟩
  · -- The key of the type `u` is that of `t` only if they are one type.
    exact String.lt_irrefl t (registryKey_none_inj.1 hkey ▸ htu)
  · -- The key of a field of `u` spells a name that is longer than `u`, so it lies behind `u`.
    have heq : t = u ++ f.path := registryKey_none_eq_field_iff.1 hkey
    exact String.lt_irrefl t (String.lt_trans htu (heq ▸ lt_fieldPath u f))

/-- Take a request field of a type. No type behind this one has a registration with the key of the
field, unless it has the very name that the key spells. -/
theorem fieldKey_notMem_later {d : Document} {t : String} {f : RequestField} {later : List String}
    (h : ∀ u ∈ later, t < u) (hname : t ++ f.path ∉ later) :
    registryKey t (some f) ∉ (later.flatMap d.typeRegistrations).map (·.1) := by
  intro hmem
  rw [List.map_flatMap, List.mem_flatMap] at hmem
  obtain ⟨u, hu, hkey⟩ := hmem
  rcases mem_keys_typeRegistrations.1 hkey with hkey | ⟨g, -, hkey⟩
  · -- The key of a type `u` is that of a field only if `u` spells the path, which is excluded.
    have heq : u = t ++ f.path := registryKey_none_eq_field_iff.1 hkey.symm
    exact hname (heq ▸ hu)
  · -- Keys of fields are equal only within one type.
    have heq : t = u := (registryKey_field_inj.1 hkey).1
    exact String.lt_irrefl t (heq ▸ h u hu)

/-- The registrations of a document with several types can be cut at any type into those before it,
its own, and those of the types with greater names. -/
theorem registrations_split {d : Document} {t : String} (hshape : d.shape = .multi)
    (ht : t ∈ d.definitionNames) :
    ∃ (before : List (String × Json)) (later : List String), d.registrations
        = before ++ d.typeRegistrations t ++ later.flatMap d.typeRegistrations ∧
      (∀ u ∈ later, t < u) ∧ ∀ u ∈ later, u ∈ d.definitionNames := by
  obtain ⟨earlier, later, hnames⟩ := List.append_of_mem ht
  have hsorted := d.pairwise_definitionNames
  rw [hnames] at hsorted
  refine ⟨(rootKey, d.root) :: earlier.flatMap d.typeRegistrations, later, ?_, ?_, ?_⟩
  · simp [registrations, hshape, hnames]
  · exact (List.pairwise_cons.1 (List.pairwise_append.1 hsorted).2.1).1
  · intro u hu
    simp [hnames, hu]

/-- Among all the registrations of a document, none behind that of a type has its key. -/
theorem last_type_registration {d : Document} {t : String} (hshape : d.shape = .multi)
    (ht : t ∈ d.definitionNames) :
    ∃ before after, d.registrations
        = before ++ (registryKey t none, d.partSchema (typePointer t none)) :: after ∧
      registryKey t none ∉ after.map (·.1) := by
  obtain ⟨before, later, hsplit, hlater, -⟩ := registrations_split hshape ht
  refine ⟨before, (d.requestFields t).map (d.fieldRegistration t)
    ++ later.flatMap d.typeRegistrations, ?_, ?_⟩
  · rw [hsplit, typeRegistrations_eq]
    simp
  · rw [List.map_append, List.mem_append, not_or]
    refine ⟨fun hmem => ?_, typeKey_notMem_later hlater⟩
    -- A field of the type itself has a longer key.
    obtain ⟨r, hr, hkey⟩ := List.mem_map.1 hmem
    obtain ⟨f, -, rfl⟩ := List.mem_map.1 hr
    have heq : t = t ++ f.path := registryKey_none_eq_field_iff.1 hkey.symm
    exact String.lt_irrefl t (lt_of_lt_of_eq (lt_fieldPath t f) heq.symm)

/-- Among all the registrations of a document, none behind that of a request field has its key,
provided that no type has the name that the key spells. -/
theorem last_field_registration {d : Document} {t : String} {f : RequestField}
    (hshape : d.shape = .multi) (ht : t ∈ d.definitionNames) (hf : f ∈ d.requestFields t)
    (hname : t ++ f.path ∉ d.definitionNames) :
    ∃ before after, d.registrations
        = before ++ (registryKey t (some f), d.partSchema (typePointer t (some f))) :: after ∧
      registryKey t (some f) ∉ after.map (·.1) := by
  obtain ⟨before, later, hsplit, hlater, hsub⟩ := registrations_split hshape ht
  obtain ⟨fs, gs, hfields⟩ := List.append_of_mem hf
  have hnodup := d.nodup_requestFields t
  refine ⟨before ++ (registryKey t none, d.partSchema (typePointer t none))
      :: fs.map (d.fieldRegistration t),
    gs.map (d.fieldRegistration t) ++ later.flatMap d.typeRegistrations, ?_, ?_⟩
  · rw [hsplit, typeRegistrations_eq, hfields]
    simp [fieldRegistration]
  · rw [List.map_append, List.mem_append, not_or]
    refine ⟨fun hmem => ?_, fieldKey_notMem_later hlater fun h => hname (hsub _ h)⟩
    obtain ⟨r, hr, hkey⟩ := List.mem_map.1 hmem
    obtain ⟨g, hg, rfl⟩ := List.mem_map.1 hr
    -- The fields behind `f` are other ones.
    have heq : g = f := (registryKey_field_inj.1 hkey).2
    rw [hfields] at hnodup
    exact (List.nodup_cons.1 (List.nodup_append.1 hnodup).2.1).1 (heq ▸ hg)

/-- The document itself is registered first, and no other registration has its key. -/
theorem root_registration (d : Document) :
    ∃ after, d.registrations = (rootKey, d.root) :: after ∧ rootKey ∉ after.map (·.1) := by
  refine ⟨_, rfl, fun hmem => ?_⟩
  cases hshape : d.shape with
  | single => simp [hshape] at hmem
  | multi =>
      simp only [hshape, List.map_flatMap, List.mem_flatMap] at hmem
      obtain ⟨t, -, hkey⟩ := hmem
      rcases mem_keys_typeRegistrations.1 hkey with hkey | ⟨f, -, hkey⟩
      · exact registryKey_ne_rootKey t none hkey.symm
      · exact registryKey_ne_rootKey t (some f) hkey.symm

end Document

/-! ### The outcome of a build -/

namespace Engine

/-- What an engine of a document holds:

- `typeNames`: the types are those of the document, if it has several;
- `byteOrder`: they come in the order of the bytes of their names;
- `keys`: there is a predicate exactly under the keys of the registrations;
- `root`: the root key has the predicate of the document itself;
- `types`: the key of every type has the predicate of this type, whatever its name is;
- `fields`: the key of every request field that a type declares has the predicate of this field,
  unless it spells the name of a type. -/
structure Registers (d : Document) (allErrors : Bool) (e : Engine) : Prop where
  shape : e.shape = d.shape
  typeNames : e.typeNames = match d.shape with
    | .single => []
    | .multi => d.definitionNames
  byteOrder : e.typeNames.Pairwise fun t u =>
    Text.Utf8.encode t.toList < Text.Utf8.encode u.toList
  keys : ∀ key, (e.predicate? key).isSome = true ↔ key ∈ d.registrations.map (·.1)
  root : ∃ p, Predicate.compile d.root allErrors = .ok p ∧ e.root? = some p
  types : ∀ t ∈ e.typeNames, e.HoldsAt allErrors (registryKey t none)
    (d.partSchema (Document.typePointer t none))
  fields : ∀ t ∈ e.typeNames, ∀ f ∈ d.requestFields t,
    t ++ "/properties/" ++ f.name ∉ e.typeNames →
    e.HoldsAt allErrors (registryKey t (some f)) (d.partSchema (Document.typePointer t (some f)))

/-- The engine of a document that has certain entries. It takes its shape and its types from the
document. -/
def ofPredicates (d : Document) (ps : List (String × Predicate)) : Engine :=
  ⟨d.shape, match d.shape with
    | .single => []
    | .multi => d.definitionNames, ps⟩

/-- Without coercion, a build compiles the registrations of the document and puts the entries into
an engine. -/
theorem build_of_not_coerces {d : Document} {o : EngineOptions} (h : o.coercesTypes = false) :
    build d o = (compileAll o.allErrors d.registrations).map (ofPredicates d) := by
  unfold build
  rw [h]
  cases compileAll o.allErrors d.registrations <;> rfl

/-- The engine of a document with several types has these types, and the engine of another document
has none. -/
theorem mem_typeNames_ofPredicates {d : Document} {ps : List (String × Predicate)} {t : String} :
    t ∈ (ofPredicates d ps).typeNames ↔ d.shape = .multi ∧ t ∈ d.definitionNames := by
  unfold ofPredicates
  cases d.shape <;> simp

/-- An engine of a document that has the entries for its registrations holds under each key what it
should. -/
theorem registers_ofPredicates {d : Document} {allErrors : Bool} {ps : List (String × Predicate)}
    (h : List.Forall₂ (IsPredicateOf allErrors) d.registrations ps) :
    Registers d allErrors (ofPredicates d ps) where
  shape := rfl
  typeNames := rfl
  byteOrder := by
    unfold ofPredicates
    cases d.shape with
    | single => exact .nil
    | multi =>
        exact d.pairwise_definitionNames.imp fun hlt =>
          Text.Utf8.encode_lt_encode (String.lt_iff.1 hlt)
  keys key := by
    rw [predicate?, Members.isSome_lookup_iff, List.map_reverse, List.mem_reverse, ← map_fst_eq h,
      ofPredicates]
  root := by
    obtain ⟨after, heq, hlast⟩ := d.root_registration
    exact predicate?_of_last [] (heq ▸ h) hlast
  types t ht := by
    obtain ⟨hshape, ht⟩ := mem_typeNames_ofPredicates.1 ht
    obtain ⟨before, after, heq, hlast⟩ := Document.last_type_registration hshape ht
    exact predicate?_of_last before (heq ▸ h) hlast
  fields t ht f hf hname := by
    obtain ⟨hshape, ht⟩ := mem_typeNames_ofPredicates.1 ht
    have hname' : t ++ f.path ∉ d.definitionNames := fun hmem => hname <| by
      rw [String.append_assoc]
      exact mem_typeNames_ofPredicates.2 ⟨hshape, hmem⟩
    obtain ⟨before, after, heq, hlast⟩ := Document.last_field_registration hshape ht hf hname'
    exact predicate?_of_last before (heq ▸ h) hlast

/-- A build with coercion is refused as unsupported, before any schema is looked at. -/
theorem build_of_coerces {d : Document} {o : EngineOptions} (h : o.coercesTypes = true) :
    build d o = .error (.unsupported "coerceTypes") := by
  unfold build
  rw [h]
  rfl

/-- If a build of a document succeeds, then the engine holds under each key what it should. -/
theorem registers_of_build {d : Document} {o : EngineOptions} {e : Engine}
    (h : build d o = .ok e) : Registers d o.allErrors e := by
  cases hc : o.coercesTypes with
  | true => rw [build_of_coerces hc] at h; cases h
  | false =>
      rw [build_of_not_coerces hc] at h
      cases hps : compileAll o.allErrors d.registrations with
      | error fault => rw [hps] at h; cases h
      | ok ps =>
          -- The engine is the one of the predicates that the registrations compile to.
          rw [hps] at h
          cases h
          exact registers_ofPredicates (compileAll_eq_ok_iff.1 hps)

/-- If all the registrations of a list compile, then there is an entry for each of them. -/
theorem exists_predicates {allErrors : Bool} {rs : List (String × Json)}
    (h : ∀ r ∈ rs, Compiles allErrors r) :
    ∃ ps, List.Forall₂ (IsPredicateOf allErrors) rs ps := by
  induction rs with
  | nil => exact ⟨[], .nil⟩
  | cons r rest ih =>
      obtain ⟨⟨p, hp⟩, hrest⟩ := List.forall_mem_cons.1 h
      obtain ⟨ps, hps⟩ := ih hrest
      exact ⟨(r.1, p) :: ps, .cons ⟨rfl, hp⟩ hps⟩

/-- Without coercion, a build succeeds if all the registrations of the document compile. -/
theorem exists_build_of_compiles {d : Document} {o : EngineOptions} (h : o.coercesTypes = false)
    (hall : ∀ r ∈ d.registrations, Compiles o.allErrors r) : ∃ e, build d o = .ok e := by
  obtain ⟨ps, hps⟩ := exists_predicates hall
  rw [build_of_not_coerces h, compileAll_eq_ok_iff.2 hps]
  exact ⟨_, rfl⟩

/-- Without coercion, a build fails at the first registration that does not compile, and reports its
key and its fault. -/
theorem build_of_first {d : Document} {o : EngineOptions} {before after : List (String × Json)}
    {key : String} {schema : Json} {fault : Fault} (h : o.coercesTypes = false)
    (heq : d.registrations = before ++ (key, schema) :: after)
    (hbefore : ∀ r ∈ before, Compiles o.allErrors r)
    (hfault : Predicate.compile schema o.allErrors = .error fault) :
    build d o = .error (.uncompilable key fault) := by
  rw [build_of_not_coerces h, heq, compileAll_eq_error before key after hbefore hfault]
  rfl

/-- A build is refused as unsupported exactly if its options ask for coercion. -/
theorem build_eq_unsupported_iff {d : Document} {o : EngineOptions} :
    build d o = .error (.unsupported "coerceTypes") ↔ o.coercesTypes = true := by
  refine ⟨fun h => ?_, build_of_coerces⟩
  cases hc : o.coercesTypes with
  | true => rfl
  | false =>
      -- Any other fault is that of a schema.
      rcases forall_compiles_or_first o.allErrors d.registrations with
        hall | ⟨before, key, schema, after, fault, heq, hbefore, hfault⟩
      · obtain ⟨e, he⟩ := exists_build_of_compiles hc hall
        rw [h] at he
        cases he
      · rw [build_of_first hc heq hbefore hfault] at h
        cases h

/-- The outcome of a build. Coercion is refused. Otherwise the build succeeds exactly if all
registrations of the document compile, fails with the key of the first that does not, and on success
the engine holds the predicates of the registrations. -/
theorem build_registers (d : Document) (o : EngineOptions) :
    (o.coercesTypes = true → build d o = .error (.unsupported "coerceTypes")) ∧
    (o.coercesTypes = false →
      ((∃ e, build d o = .ok e) ↔ ∀ r ∈ d.registrations, Compiles o.allErrors r) ∧
      ((¬ ∀ r ∈ d.registrations, Compiles o.allErrors r) →
        ∃ before key schema after fault, d.registrations = before ++ (key, schema) :: after ∧
          (∀ r ∈ before, Compiles o.allErrors r) ∧
          Predicate.compile schema o.allErrors = .error fault ∧
          build d o = .error (.uncompilable key fault))) ∧
    ∀ e, build d o = .ok e → Registers d o.allErrors e := by
  refine ⟨build_of_coerces, fun h => ?_, fun e he => registers_of_build he⟩
  rcases forall_compiles_or_first o.allErrors d.registrations with
    hall | ⟨before, key, schema, after, fault, heq, hbefore, hfault⟩
  · -- Everything compiles: the build succeeds, and there is no first fault to name.
    exact ⟨iff_of_true (exists_build_of_compiles h hall) hall, fun hnot => absurd hall hnot⟩
  · -- Something does not: the build stops at the first of these.
    have herror := build_of_first h heq hbefore hfault
    refine ⟨⟨fun ⟨e, he⟩ => ?_, fun hall => ?_⟩,
      fun _ => ⟨before, key, schema, after, fault, heq, hbefore, hfault, herror⟩⟩
    · rw [herror] at he
      cases he
    · obtain ⟨p, hp⟩ := hall (key, schema) (heq ▸ List.mem_append_right _ List.mem_cons_self)
      rw [hfault] at hp
      cases hp

/-- A document with one type, which declares a body that has to be a string. -/
def bodyDocument : Document :=
  ⟨_, Json.canonical_ofList [
    ("$schema", .string "http://json-schema.org/draft-07/schema#"),
    ("definitions", .object [("A", .object [("properties", .object
      [("body", .object [("type", .string "string")])])])])]⟩

/-- The document with a body can be built with the default options, which is decided by building
it. -/
theorem exists_build_bodyDocument : ∃ e, build bodyDocument .default = .ok e :=
  exists_ok_of_isSome (by decide +kernel)

/-- The document with a body has an engine, and under the key of the body this engine holds the
predicate of the body. -/
theorem build_registers_bodyDocument : ∃ e, build bodyDocument .default = .ok e ∧
    (∀ r ∈ bodyDocument.registrations, Compiles true r) ∧ Registers bodyDocument true e ∧
    e.HoldsAt true "Schema#/definitions/A/properties/body"
      (bodyDocument.partSchema ["definitions", "A", "properties", "body"]) := by
  obtain ⟨-, hcompiles, hregisters⟩ := build_registers bodyDocument .default
  obtain ⟨e, he⟩ := exists_build_bodyDocument
  have hholds := hregisters e he
  have hnames : e.typeNames = ["A"] := hholds.typeNames
  have hfield := hholds.fields "A" (by rw [hnames]; decide) .body (by decide)
    (by rw [hnames]; decide)
  exact ⟨e, he, (hcompiles rfl).1.1 ⟨e, he⟩, hholds, hfield⟩

end Engine

end SchemaGate
