import Mathlib.Data.List.Basic
import SchemaGate.Json.Ordered
import SchemaGate.Schema.Keyword

/-!
# `SchemaGate.Proofs.Schema.Locality`: what a level of evaluation looks at

A level of evaluation leaves questions to an inner evaluator, and only a few: it asks the
sub-schemas of the keywords at hand (`Keyword.sites`) about the value itself and about the parts
directly inside it (`Json.parts`), which are nested less deep (`Json.depth_lt_of_mem_parts`).

Two evaluators that agree on these questions (`Evaluator.AgreesOn`) therefore lead to the same
answers one level up. There is one lemma for each answer of a keyword, by cases on the keyword, and
one for the same answer of a whole level (`Evaluator.accepts_step_congr` and the others).
-/

set_option autoImplicit false

namespace SchemaGate

/-! ### Parts of a value -/

namespace Json

/-- The items of an array in their order, and no items for a value of another kind. A keyword for
items then needs no case for the other kinds. -/
def itemList : Json → List Json
  | .array items => items
  | _ => []

/-- The members of an object in their order, and no members for a value of another kind. A keyword
for properties then needs no case for the other kinds. -/
def memberList (v : Json) : Members := v.members?.getD []

/-- The values directly inside a value: the items of an array, and the members of an object. The
name of a member counts as a string, since `propertyNames` gives it to a schema. -/
def parts (v : Json) : List Json :=
  v.memberList.flatMap (fun (name, x) => [.string name, x]) ++ v.itemList

/-- The value of a member of an object is one of its parts, so a keyword for properties asks about
parts only. -/
theorem value_mem_parts {v : Json} {x : String × Json} (h : x ∈ v.memberList) : x.2 ∈ v.parts :=
  List.mem_append_left _ (List.mem_flatMap.2 ⟨x, h, List.mem_cons_of_mem _ List.mem_cons_self⟩)

/-- The name of a member of an object, taken as a string, is one of its parts. -/
theorem name_mem_parts {v : Json} {x : String × Json} (h : x ∈ v.memberList) :
    .string x.1 ∈ v.parts :=
  List.mem_append_left _ (List.mem_flatMap.2 ⟨x, h, List.mem_cons_self⟩)

/-- An item of an array is one of its parts, so a keyword for items asks about parts only. -/
theorem item_mem_parts {v x : Json} (h : x ∈ v.itemList) : x ∈ v.parts :=
  List.mem_append_right _ h

/-- The value of a member is nested no deeper than the deepest value among all the members. -/
theorem depth_le_depthMembers {members : Members} {x : String × Json} (h : x ∈ members) :
    x.2.depth ≤ depthMembers members := by
  induction members with
  | nil => cases h
  | cons y rest ih =>
      rw [depthMembers]
      rcases List.mem_cons.1 h with rfl | h
      · exact Nat.le_max_left _ _
      · exact Nat.le_trans (ih h) (Nat.le_max_right _ _)

/-- An item is nested no deeper than the deepest value among all the items. -/
theorem depth_le_depthItems {items : List Json} {x : Json} (h : x ∈ items) :
    x.depth ≤ depthItems items := by
  induction items with
  | nil => cases h
  | cons y rest ih =>
      rw [depthItems]
      rcases List.mem_cons.1 h with rfl | h
      · exact Nat.le_max_left _ _
      · exact Nat.le_trans (ih h) (Nat.le_max_right _ _)

/-- The parts of a value are nested less deep than the value itself, so there is an end to going
from a value to its parts. -/
theorem depth_lt_of_mem_parts {v w : Json} (h : w ∈ v.parts) : w.depth < v.depth := by
  cases v with
  | array items =>
      rw [depth]
      have := depth_le_depthItems (show w ∈ items from h)
      omega
  | object members =>
      rw [depth]
      rcases List.mem_append.1 h with h | h
      · obtain ⟨x, hx, hw⟩ := List.mem_flatMap.1 h
        have hdepth := depth_le_depthMembers (show x ∈ members from hx)
        rcases List.mem_cons.1 hw with rfl | hw
        · have hname : (Json.string x.1).depth = 0 := rfl
          omega
        · rw [List.mem_singleton.1 hw]
          omega
      · cases h
  | _ => cases h

end Json

/-! ### Sub-schemas of a keyword -/

namespace Keyword

variable {σ : Type}

/-- The schemas that a keyword asks. For a reference it is the schema that the reference leads to,
for a conditional the test with its consequences, and for any other keyword its sub-schemas. -/
def sites : Keyword σ → List σ
  | .reference _ target => [target]
  | .conditional test yes no => test :: yes.toList ++ no.toList
  | k => k.children

end Keyword

/-- Two evaluators agree on some schemas and a value if they give the same answers when one of these
schemas is asked about the value or about a part of it. A keyword asks nothing else, so this is all
that one level of the evaluation depends on. -/
structure Evaluator.AgreesOn {σ : Type} (ss : List σ) (v : Json) (e e' : Evaluator σ) : Prop where
  accepts : ∀ s ∈ ss, ∀ w ∈ v :: v.parts, e.accepts s w = e'.accepts s w
  violations : ∀ s ∈ ss, ∀ w ∈ v :: v.parts, e.violations s w = e'.violations s w
  coversProperty : ∀ s ∈ ss, ∀ x ∈ v.memberList,
    e.coversProperty s v x.1 x.2 = e'.coversProperty s v x.1 x.2
  coversItem : ∀ s ∈ ss, ∀ x ∈ v.itemList.zipIdx,
    e.coversItem s v x.2 x.1 = e'.coversItem s v x.2 x.1

namespace Evaluator.AgreesOn

variable {σ : Type} {ss ss' : List σ} {v : Json} {e e' : Evaluator σ}

/-- If two evaluators agree on some schemas, then they agree on any choice from among these. -/
theorem mono (h : AgreesOn ss v e e') (hss : ∀ s ∈ ss', s ∈ ss) : AgreesOn ss' v e e' where
  accepts s hs := h.accepts s (hss s hs)
  violations s hs := h.violations s (hss s hs)
  coversProperty s hs := h.coversProperty s (hss s hs)
  coversItem s hs := h.coversItem s (hss s hs)

/-- Two evaluators that agree on a schema and a value give the same verdict on the value. -/
theorem accepts_self (h : AgreesOn ss v e e') {s : σ} (hs : s ∈ ss) :
    e.accepts s v = e'.accepts s v :=
  h.accepts s hs v List.mem_cons_self

/-- Two evaluators that agree on a schema and a value find the same violations in the value, in the
same order. -/
theorem violations_self (h : AgreesOn ss v e e') {s : σ} (hs : s ∈ ss) :
    e.violations s v = e'.violations s v :=
  h.violations s hs v List.mem_cons_self

/-- Two evaluators that agree on a schema and a value give the same verdict on each part of the
value. -/
theorem accepts_part (h : AgreesOn ss v e e') {s : σ} (hs : s ∈ ss) {w : Json} (hw : w ∈ v.parts) :
    e.accepts s w = e'.accepts s w :=
  h.accepts s hs w (List.mem_cons_of_mem _ hw)

/-- Two evaluators that agree on a schema and a value find the same violations in each part of the
value, in the same order. -/
theorem violations_part (h : AgreesOn ss v e e') {s : σ} (hs : s ∈ ss) {w : Json}
    (hw : w ∈ v.parts) : e.violations s w = e'.violations s w :=
  h.violations s hs w (List.mem_cons_of_mem _ hw)

end Evaluator.AgreesOn

namespace Keyword

variable {σ : Type} {v : Json} {e e' : Evaluator σ}

/-! ### Checks of lists -/

/-- If two tests agree on every member of a list, then all the members pass the one if and only if
all of them pass the other. -/
theorem all_congr_mem {α : Type} {xs : List α} {p q : α → Bool} (h : ∀ x ∈ xs, p x = q x) :
    xs.all p = xs.all q := by
  induction xs with
  | nil => rfl
  | cons x rest ih =>
      obtain ⟨hx, hrest⟩ := List.forall_mem_cons.1 h
      rw [List.all_cons, List.all_cons, hx, ih hrest]

/-- If two tests agree on every member of a list, then some member passes the one if and only if
some member passes the other. -/
theorem any_congr_mem {α : Type} {xs : List α} {p q : α → Bool} (h : ∀ x ∈ xs, p x = q x) :
    xs.any p = xs.any q := by
  induction xs with
  | nil => rfl
  | cons x rest ih =>
      obtain ⟨hx, hrest⟩ := List.forall_mem_cons.1 h
      rw [List.any_cons, List.any_cons, hx, ih hrest]

/-- The schemas that apply to one property are found among those that are given by name and by
pattern, so they are schemas that the keyword asks. -/
theorem mem_of_mem_schemasFor {entries : List (String × σ)} {patterns : List (Regex × σ)}
    {name : String} {s : σ} (h : s ∈ schemasFor entries patterns name) :
    s ∈ patterns.map (·.2) ++ entries.map (·.2) := by
  rcases List.mem_append.1 h with h | h
  · have hentry := Members.mem_of_lookup (Option.mem_toList.1 h)
    exact List.mem_append_right _ (List.mem_map.2 ⟨_, hentry, rfl⟩)
  · obtain ⟨x, hx, rfl⟩ := List.mem_map.1 h
    exact List.mem_append_left _ (List.mem_map.2 ⟨x, (List.mem_filter.1 hx).1, rfl⟩)

/-- Two evaluators that agree on some branches and a value choose the same branch, if any, as the
only one that accepts the value. -/
theorem onlyAccepting?_congr {branches : List σ} (h : e.AgreesOn branches v e') :
    onlyAccepting? e branches v = onlyAccepting? e' branches v := by
  unfold onlyAccepting?
  rw [List.filter_congr fun s hs => h.accepts_self hs]

/-- The only branch that accepts a value is one of the branches that were tried. -/
theorem mem_of_onlyAccepting? {branches : List σ} {s : σ}
    (h : onlyAccepting? e branches v = some s) : s ∈ branches := by
  unfold onlyAccepting? at h
  split at h
  · next heq =>
    cases h
    have hmem : s ∈ branches.filter fun s => e.accepts s v := by
      rw [heq]
      exact List.mem_singleton.2 rfl
    exact (List.mem_filter.1 hmem).1
  · cases h

/-- Two evaluators that agree on some branches and a value agree on whether all the branches accept
the value. -/
theorem all_accepts_congr {branches : List σ} (h : e.AgreesOn branches v e') :
    (branches.all fun s => e.accepts s v) = branches.all fun s => e'.accepts s v :=
  all_congr_mem fun _ hs => h.accepts_self hs

/-- Two evaluators that agree on some branches and a value agree on whether at least one of the
branches accepts the value. -/
theorem any_accepts_congr {branches : List σ} (h : e.AgreesOn branches v e') :
    (branches.any fun s => e.accepts s v) = branches.any fun s => e'.accepts s v :=
  any_congr_mem fun _ hs => h.accepts_self hs

/-- A conditional asks its test, and also the consequence for a test that holds and the one for a
test that fails, if they are there. -/
theorem mem_sites_conditional (test : σ) (yes no : Option σ) :
    test ∈ (Keyword.conditional test yes no).sites ∧
    (∀ s ∈ yes, s ∈ (Keyword.conditional test yes no).sites) ∧
    ∀ s ∈ no, s ∈ (Keyword.conditional test yes no).sites :=
  ⟨List.mem_cons_self,
    fun _ hs => List.mem_append_left _ (List.mem_cons_of_mem _ (Option.mem_toList.2 hs)),
    fun _ hs => List.mem_append_right _ (Option.mem_toList.2 hs)⟩

/-- If two tests agree on the schema that may be there, then they agree on whether it is there and
passes. -/
theorem option_any_congr {o : Option σ} {p q : σ → Bool} (h : ∀ s ∈ o, p s = q s) :
    o.any p = o.any q := by
  cases o with
  | none => rfl
  | some s => exact h s rfl

/-- If two tests agree on the schema that may be there, then they agree on whether it is missing or
passes. -/
theorem option_all_congr {o : Option σ} {p q : σ → Bool} (h : ∀ s ∈ o, p s = q s) :
    o.all p = o.all q := by
  cases o with
  | none => rfl
  | some s => exact h s rfl

/-! ### Evaluated properties and items -/

/-- Whether a property has a schema under its own name that accepts its value is the same for two
evaluators that agree on these schemas. -/
theorem namedAccepts_congr {ss : List σ} (h : e.AgreesOn ss v e') (entries : List (String × σ))
    (hentries : ∀ s ∈ entries.map (·.2), s ∈ ss) {x : String × Json} (hx : x ∈ v.memberList) :
    namedAccepts e entries x.1 x.2 = namedAccepts e' entries x.1 x.2 := by
  refine any_congr_mem ?_
  rintro ⟨n, s⟩ hentry
  have hs : s ∈ ss := hentries s (List.mem_map.2 ⟨_, hentry, rfl⟩)
  simp only [h.accepts_part hs (Json.value_mem_parts hx)]

/-- Two evaluators that agree on the schemas of a keyword agree on which properties of an object the
keyword evaluates, which is what `unevaluatedProperties` has to know. -/
theorem coversProperty_congr {k : Keyword σ} (h : e.AgreesOn k.sites v e') {x : String × Json}
    (hx : x ∈ v.memberList) :
    coversProperty e v x.1 x.2 k = coversProperty e' v x.1 x.2 k := by
  have hpart := Json.value_mem_parts hx
  cases k with
  | reference _ target => exact h.coversProperty target List.mem_cons_self x hx
  | allOf branches =>
    replace h : e.AgreesOn branches v e' := h
    have hany : (branches.any fun s => e.coversProperty s v x.1 x.2)
        = branches.any fun s => e'.coversProperty s v x.1 x.2 :=
      any_congr_mem fun s hs => h.coversProperty s hs x hx
    simp only [coversProperty, all_accepts_congr h, hany]
  | anyOf branches =>
    refine any_congr_mem fun s hs => ?_
    rw [h.accepts_self hs, h.coversProperty s hs x hx]
  | oneOf branches =>
    replace h : e.AgreesOn branches v e' := h
    simp only [coversProperty, onlyAccepting?_congr h]
    exact option_any_congr fun s hs => h.coversProperty s (mem_of_onlyAccepting? hs) x hx
  | conditional test yes no =>
    obtain ⟨htest, hyes, hno⟩ := mem_sites_conditional test yes no
    have hcovers := fun s hs => h.coversProperty s hs x hx
    simp only [coversProperty, h.accepts_self htest, hcovers test htest,
      option_any_congr fun s hs => hcovers s (hyes s hs),
      option_any_congr fun s hs => hcovers s (hno s hs)]
  | properties entries => exact namedAccepts_congr h entries (fun _ hs => hs) hx
  | restProperties entries patterns rest =>
    have hnamed := namedAccepts_congr h entries
      (fun _ hs => List.mem_append_left _ (List.mem_append_right _ hs)) hx
    have hrest := h.accepts_part (List.mem_append_right _ (List.mem_singleton.2 rfl)) hpart
    simp only [coversProperty, hnamed, hrest]
  | noOtherProperties entries patterns =>
    have hnamed := namedAccepts_congr h entries
      (fun _ hs => List.mem_append_right _ hs) hx
    simp only [coversProperty, hnamed]
  | dependentSchemas entries =>
    refine any_congr_mem ?_
    rintro ⟨n, s⟩ hentry
    simp only [h.coversProperty s (List.mem_map.2 ⟨_, hentry, rfl⟩) x hx]
  | unevaluatedProperties body => exact h.accepts_part List.mem_cons_self hpart
  | _ => rfl

/-- Two evaluators that agree on the schemas of a keyword agree on which items of an array the
keyword evaluates, which is what `unevaluatedItems` has to know. -/
theorem coversItem_congr {k : Keyword σ} (h : e.AgreesOn k.sites v e') {x : Json × Nat}
    (hx : x ∈ v.itemList.zipIdx) : coversItem e v x.2 x.1 k = coversItem e' v x.2 x.1 k := by
  have hpart : x.1 ∈ v.parts := Json.item_mem_parts (List.fst_mem_of_mem_zipIdx hx)
  cases k with
  | reference _ target => exact h.coversItem target List.mem_cons_self x hx
  | allOf branches =>
    replace h : e.AgreesOn branches v e' := h
    have hany : (branches.any fun s => e.coversItem s v x.2 x.1)
        = branches.any fun s => e'.coversItem s v x.2 x.1 :=
      any_congr_mem fun s hs => h.coversItem s hs x hx
    simp only [coversItem, all_accepts_congr h, hany]
  | anyOf branches =>
    refine any_congr_mem fun s hs => ?_
    rw [h.accepts_self hs, h.coversItem s hs x hx]
  | oneOf branches =>
    replace h : e.AgreesOn branches v e' := h
    simp only [coversItem, onlyAccepting?_congr h]
    exact option_any_congr fun s hs => h.coversItem s (mem_of_onlyAccepting? hs) x hx
  | conditional test yes no =>
    obtain ⟨htest, hyes, hno⟩ := mem_sites_conditional test yes no
    have hcovers := fun s hs => h.coversItem s hs x hx
    simp only [coversItem, h.accepts_self htest, hcovers test htest,
      option_any_congr fun s hs => hcovers s (hyes s hs),
      option_any_congr fun s hs => hcovers s (hno s hs)]
  | contains _ _ body => exact h.accepts_part List.mem_cons_self hpart
  | unevaluatedItems body => exact h.accepts_part List.mem_cons_self hpart
  | _ => rfl

/-! ### Acceptance -/

/-- Two evaluators that agree on the schemas of all the keywords of a schema leave the same
properties of an object unevaluated, in the same order. -/
theorem uncoveredNames_congr {keywords : List (Keyword σ)} {members : Members}
    (h : e.AgreesOn (keywords.flatMap sites) (.object members) e') :
    uncoveredNames e keywords members = uncoveredNames e' keywords members := by
  unfold uncoveredNames
  rw [List.filter_congr fun x hx => ?_]
  have hany := any_congr_mem fun k (hk : k ∈ keywords) => coversProperty_congr (x := x)
    (h.mono fun s hs => List.mem_flatMap.2 ⟨k, hk, hs⟩) hx
  simp only [hany]

/-- Two evaluators that agree on the schemas of all the keywords of a schema leave the same items of
an array unevaluated, in the same order. -/
theorem uncoveredItems_congr {keywords : List (Keyword σ)} {items : List Json}
    (h : e.AgreesOn (keywords.flatMap sites) (.array items) e') :
    uncoveredItems e keywords items = uncoveredItems e' keywords items := by
  unfold uncoveredItems
  rw [List.filter_congr fun x hx => ?_]
  have hany := any_congr_mem fun k (hk : k ∈ keywords) => coversItem_congr (x := x)
    (h.mono fun s hs => List.mem_flatMap.2 ⟨k, hk, hs⟩) hx
  simp only [hany]

/-- Two evaluators that agree on the schemas of a keyword for properties agree on whether all the
schemas for one property accept its value. -/
theorem all_schemasFor_congr (entries : List (String × σ)) (patterns : List (Regex × σ))
    (h : e.AgreesOn (patterns.map (·.2) ++ entries.map (·.2)) v e') {x : String × Json}
    (hx : x ∈ v.memberList) (name : String) :
    ((schemasFor entries patterns name).all fun s => e.accepts s x.2)
      = (schemasFor entries patterns name).all fun s => e'.accepts s x.2 :=
  all_congr_mem fun _ hs => h.accepts_part (mem_of_mem_schemasFor hs) (Json.value_mem_parts hx)

/-- Two evaluators that agree on the schema of a dependency, if it has one, agree on whether an
object meets the dependency. -/
theorem meets_congr {ss : List σ} {members : Members} (h : e.AgreesOn ss (.object members) e')
    {d : Dependency σ} (hd : ∀ s, d = .schema s → s ∈ ss) :
    meets e members d = meets e' members d := by
  cases d with
  | names names => rfl
  | schema s => exact h.accepts_self (hd s rfl)

/-- A schema in an entry of a keyword for dependencies is one of the schemas that the keyword
asks. -/
theorem mem_sites_dependencies {entries : List (String × Dependency σ)} {n : String} {s : σ}
    (h : (n, Dependency.schema s) ∈ entries) : s ∈ (Keyword.dependencies entries).sites :=
  List.mem_filterMap.2 ⟨_, h, rfl⟩

/-- Two evaluators that agree on the schemas of all the keywords of a schema agree on whether one of
these keywords accepts the value. All the keywords are needed because `unevaluatedProperties` and
`unevaluatedItems` look at what the others have evaluated. -/
theorem accepts_congr {keywords : List (Keyword σ)}
    (h : e.AgreesOn (keywords.flatMap sites) v e') {k : Keyword σ} (hk : k ∈ keywords) :
    accepts e keywords v k = accepts e' keywords v k := by
  have hsites : e.AgreesOn k.sites v e' := h.mono fun s hs => List.mem_flatMap.2 ⟨k, hk, hs⟩
  cases k with
  | reference _ target => exact hsites.accepts_self List.mem_cons_self
  | allOf branches => exact all_accepts_congr hsites
  | anyOf branches => exact any_accepts_congr hsites
  | oneOf branches =>
    replace hsites : e.AgreesOn branches v e' := hsites
    simp only [accepts, onlyAccepting?_congr hsites]
  | not _ body => simp only [accepts, hsites.accepts_self List.mem_cons_self]
  | conditional test yes no =>
    obtain ⟨htest, hyes, hno⟩ := mem_sites_conditional test yes no
    simp only [accepts, hsites.accepts_self htest,
      option_all_congr fun s hs => hsites.accepts_self (hyes s hs),
      option_all_congr fun s hs => hsites.accepts_self (hno s hs)]
  | properties entries =>
    cases v with
    | object members =>
      refine all_congr_mem ?_
      rintro ⟨n, s⟩ hentry
      cases hx : members.lookup n with
      | none => simp only [hx, Option.all_none]
      | some x =>
        have hs : s ∈ (Keyword.properties entries).sites := List.mem_map.2 ⟨_, hentry, rfl⟩
        simp only [hx, Option.all_some,
          hsites.accepts_part hs (Json.value_mem_parts (Members.mem_of_lookup hx))]
    | _ => rfl
  | patternProperties entries =>
    cases v with
    | object members =>
      refine all_congr_mem ?_
      rintro ⟨r, s⟩ hentry
      refine all_congr_mem ?_
      rintro ⟨n, x⟩ hx
      have hs : s ∈ (Keyword.patternProperties entries).sites := List.mem_map.2 ⟨_, hentry, rfl⟩
      simp only [hsites.accepts_part hs (Json.value_mem_parts (v := .object members) hx)]
    | _ => rfl
  | restProperties entries patterns rest =>
    cases v with
    | object members =>
      refine all_congr_mem ?_
      rintro ⟨n, x⟩ hx
      have hall := all_schemasFor_congr entries patterns
        (hsites.mono fun _ hs => List.mem_append_left _ hs) (x := (n, x)) hx n
      have hrest := hsites.accepts_part (List.mem_append_right _ (List.mem_singleton.2 rfl))
        (Json.value_mem_parts (v := .object members) hx)
      dsimp only
      cases hss : schemasFor entries patterns n with
      | nil => exact hrest
      | cons s others =>
        rw [hss] at hall
        exact hall
    | _ => rfl
  | noOtherProperties entries patterns =>
    cases v with
    | object members =>
      refine all_congr_mem ?_
      rintro ⟨n, x⟩ hx
      have hall := all_schemasFor_congr entries patterns hsites
        (x := (n, x)) hx n
      dsimp only
      cases hss : schemasFor entries patterns n with
      | nil => rfl
      | cons s others =>
        rw [hss] at hall
        exact hall
    | _ => rfl
  | propertyNames body =>
    cases v with
    | object members =>
      exact all_congr_mem fun x hx =>
        hsites.accepts_part List.mem_cons_self (Json.name_mem_parts (v := .object members) hx)
    | _ => rfl
  | dependencies entries =>
    cases v with
    | object members =>
      refine all_congr_mem ?_
      rintro ⟨n, d⟩ hentry
      have hmeets := meets_congr (d := d) hsites fun s hs =>
        mem_sites_dependencies (n := n) (hs ▸ hentry)
      simp only [hmeets]
    | _ => rfl
  | dependentSchemas entries =>
    cases v with
    | object members =>
      refine all_congr_mem ?_
      rintro ⟨n, s⟩ hentry
      simp only [hsites.accepts_self (List.mem_map.2 ⟨_, hentry, rfl⟩)]
    | _ => rfl
  | tuple schemas =>
    cases v with
    | array items =>
      refine all_congr_mem ?_
      rintro ⟨s, x⟩ hpair
      exact hsites.accepts_part (List.of_mem_zip hpair).1
        (Json.item_mem_parts (v := .array items) (List.of_mem_zip hpair).2)
    | _ => rfl
  | itemsFrom start body =>
    cases v with
    | array items =>
      exact all_congr_mem fun x hx => hsites.accepts_part List.mem_cons_self
        (Json.item_mem_parts (v := .array items) (List.mem_of_mem_drop hx))
    | _ => rfl
  | contains least most body =>
    cases v with
    | array items =>
      have hcount : countAccepted e body items = countAccepted e' body items :=
        List.countP_congr fun x hx => by
          rw [hsites.accepts_part List.mem_cons_self
            (Json.item_mem_parts (v := .array items) hx)]
      simp only [accepts, hcount]
    | _ => rfl
  | unevaluatedProperties body =>
    cases v with
    | object members => simp only [accepts, uncoveredNames_congr h]
    | _ => rfl
  | unevaluatedItems body =>
    cases v with
    | array items => simp only [accepts, uncoveredItems_congr h]
    | _ => rfl
  | _ => rfl

/-! ### Violations -/

/-- Two evaluators that agree on some schemas and a value find the same violations when the schemas
are asked about the value one after another. -/
theorem flatMap_violations_congr {ss : List σ} (h : e.AgreesOn ss v e') :
    (ss.flatMap fun s => e.violations s v) = ss.flatMap fun s => e'.violations s v :=
  List.flatMap_congr fun _ hs => h.violations_self hs

/-- Two evaluators that agree on the schemas for a property find the same violations inside its
value, at the same places. -/
theorem propertyViolations_congr {ss schemas : List σ} (h : e.AgreesOn ss v e')
    (hs : ∀ s ∈ schemas, s ∈ ss) {x : Json} (hx : x ∈ v.parts) (name : String) :
    propertyViolations e schemas name x = propertyViolations e' schemas name x :=
  List.flatMap_congr fun s hmem => by rw [h.violations_part (hs s hmem) hx]

/-- Two evaluators that agree on the schema for an item find the same violations inside the item, at
the same places. -/
theorem itemViolations_congr {ss : List σ} (h : e.AgreesOn ss v e') {s : σ} (hs : s ∈ ss) {x : Json}
    (hx : x ∈ v.parts) (index : Nat) :
    itemViolations e s index x = itemViolations e' s index x := by
  unfold itemViolations
  rw [h.violations_part hs hx]

/-- Two evaluators that agree on the schema of a dependency, if it has one, find the same violations
where an object does not meet the dependency. -/
theorem unmet_congr {ss : List σ} {members : Members} (h : e.AgreesOn ss (.object members) e')
    {d : Dependency σ} (hd : ∀ s, d = .schema s → s ∈ ss) :
    unmet e members d = unmet e' members d := by
  cases d with
  | names names => rfl
  | schema s => exact h.violations_self (hd s rfl)

/-- Two evaluators that agree on the schemas of all the keywords of a schema find the same
violations of one of these keywords, in the same order. -/
theorem violations_congr {keywords : List (Keyword σ)}
    (h : e.AgreesOn (keywords.flatMap sites) v e') {k : Keyword σ} (hk : k ∈ keywords) :
    violations e keywords v k = violations e' keywords v k := by
  have hsites : e.AgreesOn k.sites v e' := h.mono fun s hs => List.mem_flatMap.2 ⟨k, hk, hs⟩
  -- A keyword that only checks reports the same if it accepts the same.
  have haccepts := accepts_congr h hk
  cases k with
  | reference _ target => exact hsites.violations_self List.mem_cons_self
  | allOf branches => exact flatMap_violations_congr hsites
  | anyOf branches =>
    replace hsites : e.AgreesOn branches v e' := hsites
    simp only [violations, any_accepts_congr hsites]
  | oneOf branches =>
    replace hsites : e.AgreesOn branches v e' := hsites
    simp only [violations, onlyAccepting?_congr hsites, any_accepts_congr hsites]
  | not _ body => simp only [violations, hsites.accepts_self List.mem_cons_self]
  | conditional test yes no =>
    obtain ⟨htest, hyes, hno⟩ := mem_sites_conditional test yes no
    have hyes' : e.AgreesOn yes.toList v e' :=
      hsites.mono fun s hs => hyes s (Option.mem_toList.1 hs)
    have hno' : e.AgreesOn no.toList v e' :=
      hsites.mono fun s hs => hno s (Option.mem_toList.1 hs)
    simp only [violations, hsites.accepts_self htest, flatMap_violations_congr hyes',
      flatMap_violations_congr hno']
  | properties entries =>
    cases v with
    | object members =>
      refine List.flatMap_congr ?_
      rintro ⟨n, s⟩ hentry
      refine List.flatMap_congr fun x hx => ?_
      have hs : s ∈ (Keyword.properties entries).sites := List.mem_map.2 ⟨_, hentry, rfl⟩
      exact propertyViolations_congr hsites (by simpa using hs)
        (Json.value_mem_parts (Members.mem_of_lookup (Option.mem_toList.1 hx))) n
    | _ => rfl
  | patternProperties entries =>
    cases v with
    | object members =>
      refine List.flatMap_congr ?_
      rintro ⟨r, s⟩ hentry
      refine List.flatMap_congr ?_
      rintro ⟨n, x⟩ hx
      have hs : s ∈ (Keyword.patternProperties entries).sites := List.mem_map.2 ⟨_, hentry, rfl⟩
      have hone : ∀ s' ∈ [s], s' ∈ (Keyword.patternProperties entries).sites := by simpa using hs
      have hviolations := propertyViolations_congr hsites hone
        (Json.value_mem_parts (v := .object members) hx) n
      simp only [hviolations]
    | _ => rfl
  | restProperties entries patterns rest =>
    cases v with
    | object members =>
      refine List.flatMap_congr ?_
      rintro ⟨n, x⟩ hx
      have hpart : x ∈ (Json.object members).parts :=
        Json.value_mem_parts (v := .object members) (x := (n, x)) hx
      dsimp only
      cases hss : schemasFor entries patterns n with
      | nil =>
        exact propertyViolations_congr hsites (fun s hs => List.mem_append_right _ hs) hpart n
      | cons s others =>
        exact propertyViolations_congr hsites (fun s' hs' =>
          List.mem_append_left _ (mem_of_mem_schemasFor (by rw [hss]; exact hs'))) hpart n
    | _ => rfl
  | noOtherProperties entries patterns =>
    cases v with
    | object members =>
      have hinside : (members.flatMap fun (n, x) =>
          propertyViolations e (schemasFor entries patterns n) n x) = members.flatMap fun (n, x) =>
            propertyViolations e' (schemasFor entries patterns n) n x :=
        List.flatMap_congr fun x hx => propertyViolations_congr hsites
          (fun s hs => mem_of_mem_schemasFor hs) (Json.value_mem_parts (v := .object members) hx) _
      simp only [violations, hinside]
    | _ => rfl
  | propertyNames body =>
    cases v with
    | object members =>
      refine List.flatMap_congr fun x hx => ?_
      simp only [hsites.violations_part List.mem_cons_self
        (Json.name_mem_parts (v := .object members) hx)]
    | _ => rfl
  | dependencies entries =>
    cases v with
    | object members =>
      refine List.flatMap_congr ?_
      rintro ⟨n, d⟩ hentry
      have hunmet := unmet_congr (d := d) hsites fun s hs =>
        mem_sites_dependencies (n := n) (hs ▸ hentry)
      simp only [hunmet]
    | _ => rfl
  | dependentSchemas entries =>
    cases v with
    | object members =>
      refine List.flatMap_congr ?_
      rintro ⟨n, s⟩ hentry
      simp only [hsites.violations_self (List.mem_map.2 ⟨_, hentry, rfl⟩)]
    | _ => rfl
  | tuple schemas =>
    cases v with
    | array items =>
      refine List.flatMap_congr ?_
      rintro ⟨⟨s, x⟩, i⟩ hpair
      have hzip := List.of_mem_zip (List.fst_mem_of_mem_zipIdx hpair)
      exact itemViolations_congr hsites hzip.1 (Json.item_mem_parts (v := .array items) hzip.2) i
    | _ => rfl
  | itemsFrom start body =>
    cases v with
    | array items =>
      refine List.flatMap_congr ?_
      rintro ⟨x, i⟩ hx
      have hitem : x ∈ items := List.mem_of_mem_drop (List.fst_mem_of_mem_zipIdx hx)
      exact itemViolations_congr hsites List.mem_cons_self
        (Json.item_mem_parts (v := .array items) hitem) i
    | _ => rfl
  | contains least most body =>
    cases v with
    | array items =>
      simp only [violations]
      rw [show withinBounds least most (countAccepted e body items)
        = withinBounds least most (countAccepted e' body items) from haccepts]
    | _ => rfl
  | unevaluatedProperties body =>
    cases v with
    | object members => simp only [violations, uncoveredNames_congr h]
    | _ => rfl
  | unevaluatedItems body =>
    cases v with
    | array items => simp only [violations, uncoveredItems_congr h]
    | _ => rfl
  | _ => rfl

end Keyword

/-! ### A level of evaluation -/

namespace Evaluator

variable {σ : Type} {read : σ → List (Keyword σ)} {e e' : Evaluator σ} {s : σ} {v : Json}

/-- One level of the evaluation gives the same verdict on a value over two evaluators that agree on
the schemas that the keywords of the level ask. -/
theorem accepts_step_congr (h : e.AgreesOn ((read s).flatMap Keyword.sites) v e') :
    (step read e).accepts s v = (step read e').accepts s v :=
  Keyword.all_congr_mem fun _ hk => Keyword.accepts_congr h hk

/-- One level of the evaluation finds the same violations in a value over two evaluators that agree
on the schemas that the keywords of the level ask. -/
theorem violations_step_congr (h : e.AgreesOn ((read s).flatMap Keyword.sites) v e') :
    (step read e).violations s v = (step read e').violations s v :=
  List.flatMap_congr fun _ hk => Keyword.violations_congr h hk

/-- One level of the evaluation evaluates the same properties of an object over two evaluators that
agree on the schemas that the keywords of the level ask. -/
theorem coversProperty_step_congr (h : e.AgreesOn ((read s).flatMap Keyword.sites) v e')
    {x : String × Json} (hx : x ∈ v.memberList) :
    (step read e).coversProperty s v x.1 x.2 = (step read e').coversProperty s v x.1 x.2 :=
  Keyword.any_congr_mem fun k hk => Keyword.coversProperty_congr
    (h.mono fun _ hs => List.mem_flatMap.2 ⟨k, hk, hs⟩) hx

/-- One level of the evaluation evaluates the same items of an array over two evaluators that agree
on the schemas that the keywords of the level ask. -/
theorem coversItem_step_congr (h : e.AgreesOn ((read s).flatMap Keyword.sites) v e')
    {x : Json × Nat} (hx : x ∈ v.itemList.zipIdx) :
    (step read e).coversItem s v x.2 x.1 = (step read e').coversItem s v x.2 x.1 :=
  Keyword.any_congr_mem fun k hk => Keyword.coversItem_congr
    (h.mono fun _ hs => List.mem_flatMap.2 ⟨k, hk, hs⟩) hx

end Evaluator

end SchemaGate
