import SchemaGate.Proofs.Json.Values
import SchemaGate.Proofs.Schema.Locality
import SchemaGate.Proofs.Traversal
import SchemaGate.Schema.Vocabulary

/-!
# `SchemaGate.Proofs.Schema.Inside`: where the sub-schemas of a schema come from

The keywords of a schema hold schemas of two kinds: those that references lead to, and those that
stand inside the schema (`Registry.mem_sites_of_readable`). The latter are found without a registry,
so two registries read a schema alike if its references lead to the same places
(`Registry.keywords_congr`).
-/

set_option autoImplicit false

namespace SchemaGate

/-! ### Values inside a value -/

namespace Json

/-- Whatever stands inside the value of a member of an object also stands inside the object, at
whatever depth the first one was found. -/
theorem mem_values_of_member {v u : Json} {x : String × Json} (hx : x ∈ v.memberList)
    (hu : u ∈ x.2.values) : u ∈ v.values := by
  cases v with
  | object members =>
      exact List.mem_cons_of_mem _ (mem_valuesOfMembers.2 ⟨x, hx, hu⟩)
  | _ => cases hx

/-- Whatever stands inside an item of an array also stands inside the array, at whatever depth the
first one was found. -/
theorem mem_values_of_item {v u x : Json} (hx : x ∈ v.itemList) (hu : u ∈ x.values) :
    u ∈ v.values := by
  cases v with
  | array items => exact List.mem_cons_of_mem _ (mem_valuesOfItems.2 ⟨x, hx, hu⟩)
  | _ => cases hx

/-- Looking up a name in an object returns the value of one of its members, and the member has
exactly that name. -/
theorem mem_memberList_of_get? {v w : Json} {name : String} (h : v.get? name = some w) :
    (name, w) ∈ v.memberList := by
  cases v with
  | object members => exact Members.mem_of_lookup h
  | _ => cases h

/-- The value found under a name stands inside the object it was looked up in, by the two lemmas on
members. -/
theorem mem_values_of_get? {v w : Json} {name : String} (h : v.get? name = some w) :
    w ∈ v.values :=
  mem_values_of_member (mem_memberList_of_get? h) w.self_mem_values

/-- The value found under a name is no larger than the object, which is what the recursion over a
document counts down on. -/
theorem size_le_of_get? {v w : Json} {name : String} (h : v.get? name = some w) :
    w.size ≤ v.size := by
  have hmember : ∀ members : Members, ∀ x ∈ members, x.2.size ≤ sizeMembers members := by
    intro members x hx
    induction members with
    | nil => cases hx
    | cons y rest ih =>
        obtain ⟨name, u⟩ := y
        rw [sizeMembers]
        rcases List.mem_cons.1 hx with rfl | hx
        · exact Nat.le_add_right _ _
        · exact Nat.le_trans (ih hx) (Nat.le_add_left _ _)
  cases v with
  | object members =>
      rw [size]
      exact Nat.le_trans (hmember members _ (Members.mem_of_lookup h)) (Nat.le_add_left _ _)
  | _ => cases h

/-- A step of a pointer goes from a value to a member or an item of it, so a successful one stays
inside the value. -/
theorem mem_values_of_step {v w : Json} {segment : List Char}
    (h : Pointer.step v segment = .ok w) : w ∈ v.values := by
  unfold Pointer.step at h
  split at h
  · next items =>
    split at h
    · cases h
    · split at h
      · next hitem =>
        cases h
        exact mem_values_of_item (v := .array items) (List.mem_of_getElem? hitem) w.self_mem_values
      · cases h
  · next members =>
    split at h
    · next hmember =>
      cases h
      exact mem_values_of_get? (v := .object members) hmember
    · cases h
  · cases h

end Json

/-! ### Sub-schemas of the keywords of a schema -/

namespace Vocabulary

/-- The schema `s'` stands inside `s`: its contents are found somewhere in those of `s`, and it has
the draft, the address and the scope that entering it from `s` gives. -/
def IsInside (s s' : Site) : Prop := ∃ c ∈ s.contents.values, s' = s.enter c

/-- When a member is read as a keyword, every schema that the keyword asks stands inside `s`. A
member that is no keyword, or that cannot be read, asks none and satisfies this. -/
def ReadsInside (s : Site) (reading : Reading) : Prop :=
  ∀ k, reading = some (.ok k) → ∀ s' ∈ k.sites, IsInside s s'

variable {s : Site} {v : Json}

/-- A member that is not read as a keyword asks no schema, so the condition holds for it whatever
the schema is. -/
theorem readsInside_none : ReadsInside s none := by
  intro k hk
  cases hk

/-- A member that is always readable as one keyword reads inside as soon as the schemas of this
keyword stand inside. -/
theorem readsInside_plain {k : Keyword Site} (h : ∀ s' ∈ k.sites, IsInside s s') :
    ReadsInside s (plain k) := by
  intro k' hk'
  cases hk'
  exact h

/-- A member that is read as an assertion about the value alone asks no schema, so there is nothing
to show. -/
theorem readsInside_rule (a : Assertion) : ReadsInside s (rule a) :=
  readsInside_plain (k := .assertion a) fun _ hs' => nomatch hs'

/-- Where the reading of a member depends on a test, such as the draft in force, both branches have
to read inside. -/
theorem readsInside_ite {c : Prop} [Decidable c] {x y : Reading} (hx : ReadsInside s x)
    (hy : ReadsInside s y) : ReadsInside s (if c then x else y) := by
  split
  · exact hx
  · exact hy

/-- Where a member has to have a certain form to be read, such as being a number, it is enough that
everything of this form reads inside. -/
theorem readsInside_bind {α : Type} {o : Option α} {f : α → Reading}
    (h : ∀ a, ReadsInside s (f a)) : ReadsInside s (o.bind f) := by
  cases o with
  | none => exact readsInside_none
  | some a => exact h a

/-- Entering a schema with contents taken from inside it leads to a schema that stands inside, by
definition. -/
theorem isInside_enter {c : Json} (hc : c ∈ s.contents.values) : IsInside s (s.enter c) :=
  ⟨c, hc, rfl⟩

/-- The members of a neighbouring value stand inside the schema even if there is no such value,
since `null` is taken in its place and has no members. -/
theorem mem_values_of_getD {name : String} {u : Json}
    (hu : u ∈ ((s.contents.get? name).getD .null).memberList.map (·.2)) :
    u ∈ s.contents.values := by
  cases hm : s.contents.get? name with
  | none =>
      rw [hm] at hu
      cases hu
  | some w =>
      rw [hm] at hu
      obtain ⟨x, hx, rfl⟩ := List.mem_map.1 hu
      exact Json.mem_values_trans (Json.mem_values_of_member hx x.2.self_mem_values) _
        (Json.mem_values_of_get? hm)

/-- The members of a value that stands inside the schema stand inside the schema as well, one level
further down. -/
theorem mem_values_of_members (hv : v ∈ s.contents.values) {u : Json}
    (hu : u ∈ v.memberList.map (·.2)) : u ∈ s.contents.values := by
  obtain ⟨x, hx, rfl⟩ := List.mem_map.1 hu
  exact Json.mem_values_trans (Json.mem_values_of_member hx x.2.self_mem_values) _ hv

/-- If a list of schemas is read off a value inside the schema, as for `allOf`, then each schema of
the list stands inside. -/
theorem isInside_of_mem_schemas (hv : v ∈ s.contents.values) {s' : Site} (h : s' ∈ schemas s v) :
    IsInside s s' := by
  cases v with
  | array items =>
      obtain ⟨c, hc, rfl⟩ := List.mem_map.1 h
      have hitem : c ∈ (Json.array items).values :=
        Json.mem_values_of_item (v := .array items) hc c.self_mem_values
      exact isInside_enter (Json.mem_values_trans hitem _ hv)
  | _ => cases h

/-- If schemas are read off the members of a value, as for `properties`, then each of them stands
inside the schema when these members do. -/
theorem isInside_of_mem_named (hv : ∀ u ∈ v.memberList.map (·.2), u ∈ s.contents.values)
    {s' : Site} (h : s' ∈ (named s v).map (·.2)) : IsInside s s' := by
  rw [named, List.map_map] at h
  obtain ⟨x, hx, rfl⟩ := List.mem_map.1 h
  exact isInside_enter (hv x.2 (List.mem_map.2 ⟨x, hx, rfl⟩))

/-- If schemas are read by pattern, as for `patternProperties`, then a successful reading gives
schemas that stand inside when the members of the value do. -/
theorem isInside_of_mem_patterned (hv : ∀ u ∈ v.memberList.map (·.2), u ∈ s.contents.values)
    {entries : List (Regex × Site)} (h : patterned s v = .ok entries) {s' : Site}
    (hs' : s' ∈ entries.map (·.2)) : IsInside s s' := by
  obtain ⟨entry, hentry, rfl⟩ := List.mem_map.1 hs'
  obtain ⟨x, hx, hf⟩ := exists_of_mem_mapM h hentry
  -- A text that is no pattern would have ended the loop.
  cases hparse : Regex.parse? x.1 with
  | none => simp only [hparse] at hf; cases hf
  | some regex =>
      simp only [hparse] at hf
      cases hf
      exact isInside_enter (hv x.2 (List.mem_map.2 ⟨x, hx, rfl⟩))

/-! ### Keywords with sub-schemas -/

/-- The schema for additional properties stands inside, and so do those of the two neighbours that
say which properties are additional. -/
theorem readsInside_additionalProperties (hv : v ∈ s.contents.values) :
    ReadsInside s (additionalProperties s v) := by
  have hnamed : ∀ s' ∈ (named s ((s.contents.get? "properties").getD .null)).map (·.2),
      IsInside s s' :=
    fun s' hs' => isInside_of_mem_named (fun u hu => mem_values_of_getD hu) hs'
  have hpatterned : ∀ entries,
      patterned s ((s.contents.get? "patternProperties").getD .null) = .ok entries →
      ∀ s' ∈ entries.map (·.2), IsInside s s' :=
    fun entries h s' hs' => isInside_of_mem_patterned (fun u hu => mem_values_of_getD hu) h hs'
  unfold additionalProperties
  split
  · exact readsInside_plain fun _ hs' => nomatch hs'
  · refine readsInside_ite (readsInside_plain fun _ hs' => nomatch hs') ?_
    intro k hk s' hs'
    cases hp : patterned s ((s.contents.get? "patternProperties").getD .null) with
    | error fault => simp only [hp] at hk; cases hk
    | ok patterns =>
        simp only [hp] at hk
        cases hk
        rcases List.mem_append.1 hs' with hs' | hs'
        · exact hpatterned patterns hp s' hs'
        · exact hnamed s' hs'
  · intro k hk s' hs'
    cases hp : patterned s ((s.contents.get? "patternProperties").getD .null) with
    | error fault => simp only [hp] at hk; cases hk
    | ok patterns =>
        simp only [hp] at hk
        cases hk
        rcases List.mem_append.1 hs' with hs' | hs'
        · rcases List.mem_append.1 hs' with hs' | hs'
          · exact hpatterned patterns hp s' hs'
          · exact hnamed s' hs'
        · rw [List.mem_singleton.1 hs']
          exact isInside_enter hv

/-- Under `items` there is one schema for all the items, or a list of schemas in the drafts that
allow one, and both are taken from the value of the member. -/
theorem readsInside_items (hv : v ∈ s.contents.values) : ReadsInside s (items s v) := by
  unfold items
  split
  · exact readsInside_plain fun _ hs' => nomatch hs'
  · exact readsInside_ite readsInside_none
      (readsInside_plain fun _ hs' => isInside_of_mem_schemas hv hs')
  · refine readsInside_plain fun s' hs' => ?_
    rw [List.mem_singleton.1 hs']
    exact isInside_enter hv

/-- The schema for additional items stands inside. The neighbour `items` is looked at for its length
alone. -/
theorem readsInside_additionalItems (hv : v ∈ s.contents.values) :
    ReadsInside s (additionalItems s v) := by
  unfold additionalItems
  split
  · split
    · exact readsInside_plain fun _ hs' => nomatch hs'
    · exact readsInside_plain fun _ hs' => nomatch hs'
    · refine readsInside_plain fun s' hs' => ?_
      rw [List.mem_singleton.1 hs']
      exact isInside_enter hv
  · exact readsInside_plain fun _ hs' => nomatch hs'
  · exact readsInside_none

/-- A keyword whose only schema is the value of the member itself asks a schema that stands
inside. -/
theorem isInside_of_mem_singleton (hv : v ∈ s.contents.values) {s' : Site}
    (h : s' ∈ [s.enter v]) : IsInside s s' := by
  rw [List.mem_singleton.1 h]
  exact isInside_enter hv

/-- The test of a conditional is the value of the member, its consequences are the values of two
neighbours, and all of them stand inside. -/
theorem readsInside_conditional (hv : v ∈ s.contents.values) :
    ReadsInside s (conditional s v) := by
  have hbeside : ∀ name, ∀ s' ∈ ((s.contents.get? name).map s.enter).toList, IsInside s s' := by
    intro name s' hs'
    cases hm : s.contents.get? name with
    | none =>
        rw [hm] at hs'
        cases hs'
    | some w =>
        rw [hm] at hs'
        rw [List.mem_singleton.1 hs']
        exact isInside_enter (Json.mem_values_of_get? hm)
  refine readsInside_plain fun s' hs' => ?_
  rcases List.mem_append.1 hs' with hs' | hs'
  · rcases List.mem_cons.1 hs' with rfl | hs'
    · exact isInside_enter hv
    · exact hbeside "then" s' hs'
  · exact hbeside "else" s' hs'

/-- Each entry of `dependencies` is a list of names or a schema, and the schemas among the entries
stand inside. -/
theorem readsInside_dependencies (hv : v ∈ s.contents.values) :
    ReadsInside s (dependencies s v) := by
  refine readsInside_plain fun s' hs' => ?_
  obtain ⟨⟨name, d⟩, hentry, hd⟩ := List.mem_filterMap.1 hs'
  obtain ⟨x, hx, hdep⟩ := List.mem_map.1 hentry
  cases d with
  | names names => cases hd
  | schema body =>
      cases hd
      -- The value is no list of names, so it is a schema.
      cases hnames : names? x.2 with
      | some names => simp [hnames] at hdep
      | none =>
          simp only [hnames] at hdep
          cases hdep
          exact isInside_enter (mem_values_of_members hv (List.mem_map.2 ⟨x, hx, rfl⟩))

/-- Under `propertyNames` the value is `false`, which asks nothing, or else the one schema that the
names are given to. -/
theorem readsInside_propertyNames (hv : v ∈ s.contents.values) : ReadsInside s
    (if isFalse v then plain .noNames else plain (.propertyNames (s.enter v))) :=
  readsInside_ite (readsInside_plain fun _ hs' => nomatch hs')
    (readsInside_plain fun _ hs' => isInside_of_mem_singleton hv hs')

/-- The schemas under `patternProperties` stand inside whenever all the patterns can be read.
Otherwise there is no keyword that could ask any. -/
theorem readsInside_patternProperties (hv : v ∈ s.contents.values) : ReadsInside s
    (some do return .patternProperties (← patterned s v)) := by
  intro k hk s' hs'
  cases hp : patterned s v with
  | error fault => simp only [hp] at hk; cases hk
  | ok patterns =>
      simp only [hp] at hk
      cases hk
      exact isInside_of_mem_patterned (fun u hu => mem_values_of_members hv hu) hp hs'

/-! ### Keywords without sub-schemas -/

/-- A limit on a length or on a number of members is an assertion, so it asks no schema, and a value
that is no count is not read. -/
theorem readsInside_countLimit (make : Nat → Assertion) : ReadsInside s (countLimit make v) :=
  readsInside_bind fun _ => readsInside_rule _

/-- A limit on a number is an assertion, so it asks no schema, also where a neighbour makes it
exclusive. -/
theorem readsInside_numberLimit (excluder : String) (openRule closedRule : Number → Assertion) :
    ReadsInside s (numberLimit s excluder openRule closedRule v) :=
  readsInside_bind fun _ => readsInside_rule _

/-- An exclusive limit that is itself a number is an assertion, so it asks no schema in any
draft. -/
theorem readsInside_openLimit (make : Number → Assertion) : ReadsInside s (openLimit s make v) :=
  readsInside_ite readsInside_none (readsInside_bind fun _ => readsInside_rule _)

/-- A pattern for strings asks no schema: it is read as an assertion, or it cannot be decided and
stops the reading. -/
theorem readsInside_pattern : ReadsInside s (pattern v) := by
  intro k hk s' hs'
  obtain ⟨text, -, hread⟩ := Option.map_eq_some_iff.1 hk
  split at hread
  · cases hread
    cases hs'
  · cases hread

/-- An encoding is read as an assertion about the text, or it is not read at all, so it asks no
schema. -/
theorem readsInside_contentEncoding : ReadsInside s (contentEncoding s v) :=
  readsInside_ite (readsInside_rule _) readsInside_none

/-- A media type asks no schema. Together with a neighbouring encoding it is still a single
assertion. -/
theorem readsInside_contentMediaType : ReadsInside s (contentMediaType s v) := by
  refine readsInside_ite readsInside_none ?_
  split
  · exact readsInside_rule _
  · exact readsInside_ite (readsInside_rule _) readsInside_none

/-- An entry of `dependentRequired` lists the names of other properties, so the keyword asks no
schema. -/
theorem readsInside_dependentRequired : ReadsInside s (dependentRequired v) := by
  refine readsInside_plain fun s' hs' => ?_
  obtain ⟨⟨name, d⟩, hentry, hd⟩ := List.mem_filterMap.1 hs'
  obtain ⟨x, -, hdep⟩ := List.mem_map.1 hentry
  cases hdep
  cases hd

/-- An enumeration compares the value with others and asks no schema, and a value that is no array
is not read. -/
theorem readsInside_enum : ReadsInside s (match v with
    | .array options => rule (.enum options)
    | _ => none) := by
  split
  · exact readsInside_rule _
  · exact readsInside_none

/-! ### Members of a schema -/

/-- The names of the members that refer to other schemas. These are the only ones whose reading
depends on the registry, and the only ones that lead out of a schema. -/
def referring : List String := ["$ref", "$dynamicRef", "$recursiveRef"]

/-- A member that refers to nothing asks only schemas inside, in every draft and with every
registry. There is one case for each keyword that is known, and an unknown name is not read at
all. -/
theorem readsInside_keyword? (r : Registry) (hv : v ∈ s.contents.values) {name : String}
    (hname : name ∉ referring) : ReadsInside s (keyword? r s name v) := by
  have hlist : ∀ k : Keyword Site, k.sites = schemas s v → ReadsInside s (plain k) :=
    fun k hk => readsInside_plain fun s' hs' => isInside_of_mem_schemas hv (hk ▸ hs')
  have hmap : ∀ k : Keyword Site, k.sites = (named s v).map (·.2) → ReadsInside s (plain k) :=
    fun k hk => readsInside_plain fun s' hs' =>
      isInside_of_mem_named (fun u hu => mem_values_of_members hv hu) (hk ▸ hs')
  have hone : ∀ k : Keyword Site, k.sites = [s.enter v] → ReadsInside s (plain k) :=
    fun k hk => readsInside_plain fun s' hs' => isInside_of_mem_singleton hv (hk ▸ hs')
  have hnone : ReadsInside s none := readsInside_none
  have hrule : ∀ a : Assertion, ReadsInside s (rule a) := readsInside_rule
  unfold keyword?
  dsimp only
  -- In the order of the keywords.
  split
  · exact absurd (by decide) hname
  · exact absurd (by decide) hname
  · exact absurd (by decide) hname
  · exact readsInside_ite hnone (readsInside_additionalItems hv)
  · exact readsInside_additionalProperties hv
  · exact hlist (.allOf _) rfl
  · exact hlist (.anyOf _) rfl
  · exact readsInside_ite (hrule _) hnone
  · exact readsInside_ite (hone (.contains _ _ _) rfl) hnone
  · exact readsInside_ite (readsInside_ite readsInside_contentEncoding hnone) hnone
  · exact readsInside_ite (readsInside_ite readsInside_contentMediaType hnone) hnone
  · exact readsInside_dependencies hv
  · exact readsInside_ite readsInside_dependentRequired hnone
  · exact readsInside_ite (hmap (.dependentSchemas _) rfl) hnone
  · exact readsInside_enum
  · exact readsInside_openLimit _
  · exact readsInside_openLimit _
  · exact readsInside_bind fun _ => hrule _
  · exact readsInside_ite (readsInside_conditional hv) hnone
  · exact readsInside_items hv
  · exact readsInside_countLimit _
  · exact readsInside_countLimit _
  · exact readsInside_countLimit _
  · exact readsInside_numberLimit _ _ _
  · exact readsInside_countLimit _
  · exact readsInside_countLimit _
  · exact readsInside_countLimit _
  · exact readsInside_numberLimit _ _ _
  · exact readsInside_bind fun _ => hrule _
  · exact hone (.not _ _) rfl
  · exact hlist (.oneOf _) rfl
  · exact readsInside_pattern
  · exact readsInside_ite hnone (readsInside_patternProperties hv)
  · exact readsInside_ite (hlist (.tuple _) rfl) hnone
  · exact readsInside_ite hnone (hmap (.properties _) rfl)
  · exact readsInside_ite (readsInside_propertyNames hv) hnone
  · exact readsInside_bind fun _ => hrule _
  · exact readsInside_bind fun _ => hrule _
  · exact readsInside_ite (hone (.unevaluatedItems _) rfl) hnone
  · exact readsInside_ite (hone (.unevaluatedProperties _) rfl) hnone
  · exact readsInside_ite (hrule _) hnone
  · exact hnone

/-- A member that refers to nothing reads the same in every registry: as the same keyword, with the
same fault, or not at all. -/
theorem keyword?_congr (r r' : Registry) {name : String} (hname : name ∉ referring) :
    keyword? r s name v = keyword? r' s name v := by
  unfold keyword?
  dsimp only
  split
  · exact absurd (by decide) hname
  · exact absurd (by decide) hname
  · exact absurd (by decide) hname
  all_goals rfl

end Vocabulary

/-! ### Schemas -/

namespace Registry

open Vocabulary

/-- The members of a schema that are read. In the drafts where a reference hides its neighbours this
is the reference alone, and otherwise it is all of them. -/
def visibleMembers (s : Site) : Members :=
  match s.contents with
  | .object members =>
    match members.lookup "$ref" with
    | some (.string ref) => if s.draft.refHidesSiblings then [("$ref", .string ref)] else members
    | _ => members
  | _ => []

/-- What a schema that is no object reads as: `true` asks nothing, `false` refuses every value, and
anything else is a fault. An object reads as nothing here, because its members speak for it. -/
def verdicts (s : Site) : List (Except Fault (Keyword Site)) :=
  match s.contents with
  | .bool true => []
  | .bool false => [.ok .never]
  | .object _ => []
  | v => [.error (.invalid (.notOfTypes v [.boolean, .object]))]

/-- A schema reads as its verdict followed by what its visible members read as, in their order. One
of the two lists is always empty. -/
theorem keywords_eq (r : Registry) (s : Site) : r.keywords s
    = verdicts s ++ (visibleMembers s).filterMap fun x => keyword? r s x.1 x.2 := by
  unfold keywords verdicts visibleMembers
  cases s.contents with
  | object members =>
      cases hlookup : members.lookup "$ref" with
      | none => simp only [hlookup, List.nil_append]
      | some v =>
          cases v with
          | string ref =>
              simp only [hlookup, List.nil_append]
              split
              · have hread : keyword? r s "$ref" (.string ref) = reference r s (.string ref) := rfl
                rw [List.filterMap_cons, List.filterMap_nil, hread]
                cases reference r s (.string ref) <;> rfl
              · rfl
          | _ => simp only [hlookup, List.nil_append]
  | bool b => cases b <;> rfl
  | _ => rfl

/-- A member that is read is one of the members of the schema, since hiding only leaves members
out. -/
theorem mem_memberList_of_visible {s : Site} {x : String × Json} (h : x ∈ visibleMembers s) :
    x ∈ s.contents.memberList := by
  unfold visibleMembers at h
  split at h
  · next members hcontents =>
    rw [hcontents]
    split at h
    · next ref hlookup =>
      split at h
      · rw [List.mem_singleton.1 h]
        exact Members.mem_of_lookup hlookup
      · exact h
    · exact h
  · cases h

/-- A reading of a schema comes from its verdict or from one of its visible members, and from
nowhere else. -/
theorem mem_keywords_iff {r : Registry} {s : Site} {reading : Except Fault (Keyword Site)} :
    reading ∈ r.keywords s ↔ reading ∈ verdicts s ∨
      ∃ x ∈ visibleMembers s, keyword? r s x.1 x.2 = some reading := by
  rw [keywords_eq, List.mem_append, List.mem_filterMap]

/-- The readable keywords of a schema are its readings without a fault, each of them in the form
that it was read in. -/
theorem mem_readable_iff {r : Registry} {s : Site} {k : Keyword Site} :
    k ∈ r.readable s ↔ .ok k ∈ r.keywords s := by
  rw [readable, List.mem_filterMap]
  constructor
  · rintro ⟨reading, hreading, hok⟩
    cases reading with
    | error fault => cases hok
    | ok k' =>
        cases hok
        exact hreading
  · intro h
    exact ⟨_, h, rfl⟩

/-- If a schema is no object, then the keyword that it reads as asks no schema. -/
theorem sites_of_verdicts {s : Site} {k : Keyword Site} (h : .ok k ∈ verdicts s) :
    k.sites = [] := by
  unfold verdicts at h
  split at h
  · cases h
  · cases List.mem_singleton.1 h
    rfl
  · cases h
  · cases List.mem_singleton.1 h

/-- Every schema that a readable keyword of `s` asks stands inside `s`, unless the keyword was read
off a visible member that refers to another schema. -/
theorem mem_sites_of_readable {r : Registry} {s s' : Site} {k : Keyword Site}
    (hk : k ∈ r.readable s) (hs' : s' ∈ k.sites) : IsInside s s' ∨
      ∃ x ∈ visibleMembers s, x.1 ∈ referring ∧ keyword? r s x.1 x.2 = some (.ok k) := by
  rcases mem_keywords_iff.1 (mem_readable_iff.1 hk) with hverdict | ⟨x, hx, hread⟩
  · rw [sites_of_verdicts hverdict] at hs'
    cases hs'
  · by_cases hname : x.1 ∈ referring
    · exact .inr ⟨x, hx, hname, hread⟩
    · have hvalue := Json.mem_values_of_member (mem_memberList_of_visible hx) x.2.self_mem_values
      exact .inl (readsInside_keyword? r hvalue hname k hread s' hs')

/-- Two registries read a schema alike, faults included, if they read alike those of its visible
members that refer to other schemas. -/
theorem keywords_congr {r r' : Registry} {s : Site}
    (h : ∀ x ∈ visibleMembers s, x.1 ∈ referring →
      keyword? r s x.1 x.2 = keyword? r' s x.1 x.2) : r.keywords s = r'.keywords s := by
  rw [keywords_eq, keywords_eq]
  congr 1
  refine List.filterMap_congr fun x hx => ?_
  by_cases hname : x.1 ∈ referring
  · exact h x hx hname
  · exact keyword?_congr r r' hname

end Registry

end SchemaGate
