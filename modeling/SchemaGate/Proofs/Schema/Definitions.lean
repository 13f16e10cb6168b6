import SchemaGate.Proofs.Pointer
import SchemaGate.Proofs.Schema.Ending
import SchemaGate.Proofs.Schema.Inside

/-!
# `SchemaGate.Proofs.Schema.Definitions`: schemas that refer to definitions only

A reference below `#/definitions/` looks at nothing of the whole schema but its address, its draft
and its member `definitions`, so in two registries whose whole schemas agree on these it leads to
the same place (`Registry.resolve_congr`). Hence the two read alike every schema whose references
are of this kind (`Registry.readable_congr`).

The schemas that are reached through such references stand inside the definitions, so there are
finitely many of them (`Registry.exists_closed`): a number that does not depend on anything else in
the whole schema.
-/

set_option autoImplicit false

namespace SchemaGate

open Text.Percent Vocabulary

/-! ### References below the definitions -/

/-- A reference leads below the definitions of the whole schema that it is read in: its text starts
with `#/definitions/`. -/
def BelowDefinitions (reference : String) : Prop :=
  "#/definitions/".toList <+: reference.toList

instance (reference : String) : Decidable (BelowDefinitions reference) :=
  inferInstanceAs (Decidable (_ <+: _))

/-- A schema keeps to the definitions: it is read at the address of schemas that have none, and its
references lead below the definitions. They all stand under `$ref`, so they cannot be redirected by
outer schemas. -/
structure Site.KeepsToDefinitions (s : Site) : Prop where
  base : s.base = Registry.defaultBase
  references : ∀ x ∈ s.contents.memberList, x.1 ∈ referring → ∀ text ∈ x.2.string?,
    x.1 = "$ref" ∧ BelowDefinitions text

/-- Nothing inside a value gives itself an address, whatever the draft, and every text that refers
to another schema is a plain reference to a definition. This can be read off the text of a document,
without following any reference. -/
structure Json.RefersToDefinitions (v : Json) : Prop where
  address : ∀ u ∈ v.values, ∀ draft, Site.address? draft u = none
  references : ∀ u ∈ v.values, ∀ x ∈ u.memberList, x.1 ∈ referring → ∀ text ∈ x.2.string?,
    x.1 = "$ref" ∧ BelowDefinitions text

/-- A schema stays local: it is read at the address of schemas that have none, and its references
lead to the whole schema that it is read in or below the definitions. They all stand under `$ref`,
so they cannot be redirected by outer schemas. -/
structure Site.StaysLocal (s : Site) : Prop where
  base : s.base = Registry.defaultBase
  references : ∀ x ∈ s.contents.memberList, x.1 ∈ referring → ∀ text ∈ x.2.string?,
    x.1 = "$ref" ∧ (text = "#" ∨ BelowDefinitions text)

instance (s : Site) : Decidable s.StaysLocal :=
  decidable_of_iff (s.base = Registry.defaultBase ∧
    ∀ x ∈ s.contents.memberList, x.1 ∈ referring → ∀ text ∈ x.2.string?,
      x.1 = "$ref" ∧ (text = "#" ∨ BelowDefinitions text))
    ⟨fun h => ⟨h.1, h.2⟩, fun h => ⟨h.base, h.references⟩⟩

/-- If nothing inside a value has an address and all its references are to definitions, the same
holds of everything that stands inside the value. -/
theorem Json.RefersToDefinitions.mono {v w : Json} (h : v.RefersToDefinitions)
    (hw : w ∈ v.values) : w.RefersToDefinitions where
  address u hu := h.address u (mem_values_trans hu v hw)
  references u hu := h.references u (mem_values_trans hu v hw)

/-- Every draft is in the list of them, so what is asked of each draft can be decided by going
through the list. -/
theorem Draft.mem_all (draft : Draft) : draft ∈ Draft.all := by
  cases draft <;> decide

/-- The fragment of a reference below the definitions is a pointer, and its first segment is
fixed. -/
theorem BelowDefinitions.exists_rest {reference : String} (h : BelowDefinitions reference) :
    ∃ rest, reference.toList = '#' :: '/' :: ("definitions/".toList ++ rest) := by
  obtain ⟨rest, hrest⟩ := h
  exact ⟨rest, hrest.symm⟩

/-- A pointer below the definitions splits into `definitions` and further segments. Decoding does
not touch the first segment, which has no octets. -/
theorem Pointer.splitSegments_definitions {rest cs : List Char}
    (h : decode? ("definitions/".toList ++ rest) = some cs) :
    ∃ more, splitSegments cs = "definitions".toList :: more := by
  obtain ⟨more, rfl⟩ := exists_append_of_decode? (by decide) h
  refine ⟨splitSegments more, ?_⟩
  have hcut : "definitions/".toList ++ more = "definitions".toList ++ '/' :: more := rfl
  rw [hcut, splitSegments, List.splitOn_append_cons_self_of_not_mem (by decide)]
  rfl

/-- The first step of a walk below the definitions leads from a whole schema to the value of its
member `definitions`. -/
theorem Pointer.step_definitions {members : Members} {definitions : Json}
    (h : members.lookup "definitions" = some definitions) :
    step (.object members) "definitions".toList = .ok definitions := by
  have hname : String.ofList (unescape "definitions".toList) = "definitions" := by decide
  rw [step, hname, h]

namespace Registry

variable {r r' : Registry} {draft : Draft} {definitions : Json} {s s' : Site} {text : String}

/-- What a registry has at the address of schemas without one: a whole schema, the draft by which it
is read, and its definitions. Of the other members of this schema nothing is said. -/
def Defines (r : Registry) (draft : Draft) (definitions : Json) : Prop :=
  ∃ members, r.resource? defaultBase = some ⟨defaultBase, [], draft, .object members⟩ ∧
    members.lookup "definitions" = some definitions

/-! ### Walks -/

/-- A walk stays inside the value that it starts from, and passes the scope on without a change. -/
theorem inside_of_walk {pointer : String} {segments : List (List Char)} {s found : Site}
    (h : walk pointer s segments = .ok found) :
    found.contents ∈ s.contents.values ∧ found.scope = s.scope := by
  induction segments generalizing s with
  | nil =>
      cases h
      exact ⟨Json.self_mem_values _, rfl⟩
  | cons segment rest ih =>
      rw [walk] at h
      cases hstep : Pointer.step s.contents segment with
      | error fault => rw [hstep] at h; cases fault <;> cases h
      | ok v =>
          rw [hstep] at h
          obtain ⟨hvalues, hscope⟩ := ih (s := s.enter v) h
          exact ⟨Json.mem_values_trans hvalues _ (Json.mem_values_of_step hstep), hscope⟩

/-- A walk does not change the address against which references are read, if nothing that it could
come across gives itself one. -/
theorem base_of_walk {pointer : String} {segments : List (List Char)} {s found : Site}
    (h : walk pointer s segments = .ok found)
    (haddress : ∀ v ∈ s.contents.values, ∀ draft, Site.address? draft v = none) :
    found.base = s.base := by
  induction segments generalizing s with
  | nil =>
      cases h
      rfl
  | cons segment rest ih =>
      rw [walk] at h
      cases hstep : Pointer.step s.contents segment with
      | error fault => rw [hstep] at h; cases fault <;> cases h
      | ok v =>
          rw [hstep] at h
          have hv := Json.mem_values_of_step hstep
          have hbase : (s.enter v).base = s.base := by
            rw [Site.enter, Site.innerBase, haddress v hv]
            rfl
          rw [← hbase]
          exact ih h fun u hu => haddress u (Json.mem_values_trans hu _ hv)

/-- A walk depends on the value that it starts from only by its first step. Two starts with the same
place, scope and draft lead to the same end if the first steps do. -/
theorem walk_congr (pointer : String) {segment : List Char} (rest : List (List Char)) {s s' : Site}
    (hbase : s.base = s'.base) (hscope : s.scope = s'.scope) (hdraft : s.draft = s'.draft)
    (hstep : Pointer.step s.contents segment = Pointer.step s'.contents segment) :
    walk pointer s (segment :: rest) = walk pointer s' (segment :: rest) := by
  have henter : ∀ v, s.enter v = s'.enter v := fun v => by
    rw [Site.enter, Site.enter, hbase, hscope, hdraft]
  rw [walk, walk, hstep]
  cases Pointer.step s'.contents segment with
  | ok v => simp only [henter]
  | error fault => cases fault <;> rfl

/-! ### Following references -/

/-- The schema that a fragment names which is a pointer, given without its first slash. The text of
a fault shows the fragment as it is written. -/
def point (s : Site) (rest : List Char) : Except Fault Site :=
  match decode? rest with
  | some cs => walk (String.ofList ('/' :: rest)) s (Pointer.splitSegments cs)
  | none => .error (.undecodablePointer (String.ofList ('/' :: rest)))

/-- A reference that is a pointer is followed from the schema whose address is the base. All that
can go wrong before is that its text is no URI reference. -/
theorem resolve_pointer {r : Registry} {s target : Site} (hfind : r.resource? s.base = some target)
    {text : String} {rest : List Char} (htext : text.toList = '#' :: '/' :: rest) :
    r.resolve s text = (do
      let _ ← Site.absolute s.base text
      let found ← point (s.follow target) rest
      return ({ s.base with fragment := some ('/' :: rest) }, found)) := by
  have hlocate : r.locate (s.follow target) ('/' :: rest) = point (s.follow target) rest := rfl
  rw [resolve, splitReference, htext]
  cases Site.absolute s.base text with
  | error fault => rfl
  | ok address => simp only [bind, Except.bind, pure, Except.pure, hfind, hlocate]

/-- A pointer below the definitions depends on nothing else in the schema that it starts from. -/
theorem point_congr {rest : List Char} (hbase : s.base = s'.base) (hscope : s.scope = s'.scope)
    (hdraft : s.draft = s'.draft)
    (hstep : Pointer.step s.contents "definitions".toList
      = Pointer.step s'.contents "definitions".toList) :
    point s ("definitions/".toList ++ rest) = point s' ("definitions/".toList ++ rest) := by
  unfold point
  cases hdecode : decode? ("definitions/".toList ++ rest) with
  | none => rfl
  | some cs =>
      obtain ⟨more, hmore⟩ := Pointer.splitSegments_definitions hdecode
      simp only [hmore]
      exact walk_congr _ more hbase hscope hdraft hstep

/-- What a pointer below the definitions names is the end of a walk that starts at the
definitions. -/
theorem walk_of_point {rest : List Char} {found : Site}
    (h : point s ("definitions/".toList ++ rest) = .ok found)
    (hstep : Pointer.step s.contents "definitions".toList = .ok definitions) :
    ∃ pointer segments, walk pointer (s.enter definitions) segments = .ok found := by
  unfold point at h
  cases hdecode : decode? ("definitions/".toList ++ rest) with
  | none => rw [hdecode] at h; cases h
  | some cs =>
      obtain ⟨more, hmore⟩ := Pointer.splitSegments_definitions hdecode
      simp only [hdecode, hmore, walk, hstep] at h
      exact ⟨_, more, h⟩

/-- A reference below the definitions leads to the same place in two registries with the same
definitions. The two schemas that it stands in may differ, as long as following it gives the same
scope. -/
theorem resolve_congr (h : r.Defines draft definitions) (h' : r'.Defines draft definitions)
    (hbase : s.base = defaultBase) (hbase' : s'.base = defaultBase)
    (hfollow : ∀ t : Site, t.base = defaultBase → (s.follow t).scope = (s'.follow t).scope)
    (htext : BelowDefinitions text) : r.resolve s text = r'.resolve s' text := by
  obtain ⟨members, hfind, hlookup⟩ := h
  obtain ⟨members', hfind', hlookup'⟩ := h'
  obtain ⟨rest, hrest⟩ := htext.exists_rest
  have hstep : Pointer.step (.object members) "definitions".toList
      = Pointer.step (.object members') "definitions".toList := by
    rw [Pointer.step_definitions hlookup, Pointer.step_definitions hlookup']
  have hpoint : point (s.follow ⟨defaultBase, [], draft, .object members⟩)
        ("definitions/".toList ++ rest)
      = point (s'.follow ⟨defaultBase, [], draft, .object members'⟩)
        ("definitions/".toList ++ rest) := by
    refine point_congr rfl ?_ rfl hstep
    exact (hfollow _ rfl).trans rfl
  rw [resolve_pointer (hbase ▸ hfind) hrest, resolve_pointer (hbase' ▸ hfind') hrest, hbase, hbase',
    hpoint]

/-- The scopes that come up if no schema gives itself an address: none before the first reference,
and the one address of all schemas from there on. -/
def InScope (s : Site) : Prop := s.scope = [] ∨ s.scope = [defaultBase]

/-- If no schema gives itself an address, then a reference leads into the scope with the one address
of all schemas. So after the first reference the scope does not change any more. -/
theorem scope_follow (hbase : s.base = defaultBase) (hscope : InScope s) {t : Site}
    (ht : t.base = defaultBase) : (s.follow t).scope = [defaultBase] := by
  rcases hscope with hnil | hone
  · simp [Site.follow, hnil, hbase]
  · simp [Site.follow, hone, hbase, ht]

/-- A reference to a definition leads to the end of a walk that starts at the definitions. The place
where the walk starts is the same for all such references. -/
theorem walk_of_resolve (h : r.Defines draft definitions) (hbase : s.base = defaultBase)
    (hscope : InScope s) (htext : BelowDefinitions text) {address : Uri} {found : Site}
    (hok : r.resolve s text = .ok (address, found)) :
    ∃ pointer segments contents,
      walk pointer ((Site.mk defaultBase [defaultBase] draft contents).enter definitions) segments
        = .ok found := by
  obtain ⟨members, hfind, hlookup⟩ := h
  obtain ⟨rest, hrest⟩ := htext.exists_rest
  rw [← hbase] at hfind
  rw [resolve_pointer hfind hrest] at hok
  have hfollow : s.follow ⟨s.base, [], draft, .object members⟩
      = ⟨defaultBase, [defaultBase], draft, .object members⟩ := by
    rw [Site.mk.injEq]
    exact ⟨hbase, scope_follow hbase hscope hbase, rfl, rfl⟩
  have hstep := Pointer.step_definitions hlookup
  rw [hfollow] at hok
  cases habsolute : Site.absolute s.base text with
  | error fault => rw [habsolute] at hok; cases hok
  | ok whole =>
      cases hpoint : point ⟨defaultBase, [defaultBase], draft, .object members⟩
          ("definitions/".toList ++ rest) with
      | error fault => rw [habsolute, hpoint] at hok; cases hok
      | ok site =>
          rw [habsolute, hpoint] at hok
          cases hok
          obtain ⟨pointer, segments, hwalk⟩ := walk_of_point hpoint hstep
          exact ⟨pointer, segments, _, hwalk⟩

/-! ### Which schemas are reached -/

/-- A schema is reached from another one: keywords that can be read ask it, directly or through
others. Keywords that cannot be read ask nothing. -/
inductive Reaches (r : Registry) (start : Site) : Site → Prop
  /-- A schema reaches itself. -/
  | refl : Reaches r start start
  /-- What a keyword of a schema that is reached asks is reached. -/
  | step {s s' : Site} {k : Keyword Site} (before : Reaches r start s) (hk : k ∈ r.readable s)
      (hs' : s' ∈ k.sites) : Reaches r start s'

/-- Whether a check holds of a schema and of all that it reaches, if what it reaches is found in
fewer steps than the number given. If the number is too small the answer is no, so a yes can be
relied on. -/
def settled (r : Registry) (check : Site → Bool) : Nat → Site → Bool
  | 0, _ => false
  | n + 1, s => check s && (r.readable s).all fun k => k.sites.all (settled r check n)

/-- A check that is settled for a schema holds of everything that the schema reaches. For a closed
schema the hypothesis can be computed, while the reached schemas are not listed anywhere. -/
theorem check_of_settled {check : Site → Bool} {n : Nat} {start s : Site}
    (h : r.settled check n start = true) (hs : r.Reaches start s) : check s = true := by
  -- One step further on the way there is one step fewer left, but the check is still settled.
  have hsettled : ∃ m, r.settled check m s = true := by
    induction hs with
    | refl => exact ⟨n, h⟩
    | @step s s' k before hk hs' ih =>
        obtain ⟨m, hm⟩ := ih
        cases m with
        | zero => cases hm
        | succ m =>
            have hall := List.all_eq_true.1 (Bool.and_eq_true_iff.1 hm).2 k hk
            exact ⟨m, List.all_eq_true.1 hall s' hs'⟩
  obtain ⟨m, hm⟩ := hsettled
  cases m with
  | zero => cases hm
  | succ m => exact (Bool.and_eq_true_iff.1 hm).1

/-- A member that should refer to another schema but is no text gives nothing to follow: under
`$ref` it is a fault, and under the other two keywords it is passed over. -/
theorem keyword?_of_noText {name : String} {v : Json} (hname : name ∈ referring)
    (hv : v.string? = none) : keyword? r s name v
      = if name = "$ref" then some (.error (.invalid (.notOfType v .string))) else none := by
  simp only [referring, List.mem_cons, List.not_mem_nil, or_false] at hname
  rcases hname with rfl | rfl | rfl
  · show reference r s v = some _
    cases v with
    | string text => cases hv
    | _ => rfl
  · show (if s.draft = .draft2020 then v.string?.map _ else none) = none
    rw [hv]
    exact ite_self none
  · show (if s.draft = .draft2019 then v.string?.map _ else none) = none
    rw [hv]
    exact ite_self none

/-- A member `$ref` with a text is read by following the reference. -/
theorem keyword?_reference (r : Registry) (s : Site) (text : String) :
    keyword? r s "$ref" (.string text) = some (do
      let (address, target) ← r.resolve s text
      return .reference address target) :=
  rfl

/-- Take a member that refers to another schema, in a schema that keeps to the definitions. If it
can be read, it is a reference below the definitions, and the keyword that it is read as has what
the reference leads to. -/
theorem resolve_of_keyword? {k : Keyword Site} (hkeeps : s.KeepsToDefinitions) {x : String × Json}
    (hx : x ∈ visibleMembers s) (hname : x.1 ∈ referring)
    (hk : keyword? r s x.1 x.2 = some (.ok k)) :
    ∃ text address target, BelowDefinitions text ∧ r.resolve s text = .ok (address, target) ∧
      k = .reference address target := by
  obtain ⟨name, v⟩ := x
  cases hv : v.string? with
  | none =>
      rw [keyword?_of_noText hname hv] at hk
      split at hk <;> cases hk
  | some text =>
      obtain ⟨rfl, hbelow⟩ := hkeeps.references _ (mem_memberList_of_visible hx) hname text hv
      cases v with
      | string text' =>
          cases hv
          rw [keyword?_reference] at hk
          obtain ⟨⟨address, target⟩, hresolve, heq⟩ := bind_eq_ok_iff.1 (Option.some.inj hk)
          cases heq
          exact ⟨text, address, target, hbelow, hresolve, rfl⟩
      | _ => cases hv

/-- A schema that keeps to the definitions reads alike in two registries with the same definitions.
Only its references could make a difference, and they lead to the same places. -/
theorem readable_congr (h : r.Defines draft definitions) (h' : r'.Defines draft definitions)
    (hkeeps : s.KeepsToDefinitions) : r.readable s = r'.readable s := by
  unfold readable
  congr 1
  refine keywords_congr fun x hx hname => ?_
  obtain ⟨name, v⟩ := x
  cases hv : v.string? with
  | none => rw [keyword?_of_noText hname hv, keyword?_of_noText hname hv]
  | some text =>
      obtain ⟨rfl, hbelow⟩ := hkeeps.references _ (mem_memberList_of_visible hx) hname text hv
      cases v with
      | string text' =>
          cases hv
          have hresolve := resolve_congr h h' hkeeps.base hkeeps.base (fun _ _ => rfl) hbelow
          rw [keyword?_reference, keyword?_reference, hresolve]
      | _ => cases hv

/-- All schemas that could be reached inside the definitions: every value there, at the address of
schemas without one and by the rules of any draft. -/
def candidates (definitions : Json) : List Site :=
  Draft.all.flatMap fun draft =>
    definitions.values.map fun v => ⟨defaultBase, [defaultBase], draft, v⟩

/-- There are as many candidates as there are values inside the definitions, once for each draft.
The number depends on nothing outside the definitions. -/
theorem length_candidates (definitions : Json) :
    (candidates definitions).length = Draft.all.length * definitions.size := by
  simp [candidates, Draft.all, Json.length_values]
  omega

/-- A schema is a candidate if it stands inside the definitions, at the address of schemas without
one and in the scope that references lead to. -/
theorem mem_candidates (hbase : s.base = defaultBase) (hscope : s.scope = [defaultBase])
    (hcontents : s.contents ∈ definitions.values) : s ∈ candidates definitions := by
  refine List.mem_flatMap.2 ⟨s.draft, s.draft.mem_all, List.mem_map.2 ⟨s.contents, hcontents, ?_⟩⟩
  obtain ⟨base, scope, draft, contents⟩ := s
  cases hbase
  cases hscope
  rfl

/-- A schema stands inside the definitions, and was reached by a reference. -/
def IsWithin (definitions : Json) (s : Site) : Prop :=
  s.contents ∈ definitions.values ∧ s.scope = [defaultBase]

/-- A reference below the definitions leads to a schema that stands inside them. -/
theorem isWithin_of_resolve (h : r.Defines draft definitions) (hbase : s.base = defaultBase)
    (hscope : InScope s) (htext : BelowDefinitions text) {address : Uri} {found : Site}
    (hok : r.resolve s text = .ok (address, found)) : IsWithin definitions found := by
  obtain ⟨pointer, segments, contents, hwalk⟩ := walk_of_resolve h hbase hscope htext hok
  exact inside_of_walk hwalk

/-- What a schema inside the definitions asks stands inside them as well, if the schema keeps to
them: it is a schema inside this one, or a reference leads to it. -/
theorem isWithin_of_sites (h : r.Defines draft definitions) (hkeeps : s.KeepsToDefinitions)
    (hs : IsWithin definitions s) {k : Keyword Site} (hk : k ∈ r.readable s)
    (hs' : s' ∈ k.sites) : IsWithin definitions s' := by
  rcases mem_sites_of_readable hk hs' with ⟨c, hc, rfl⟩ | ⟨x, hx, hname, hread⟩
  · exact ⟨Json.mem_values_trans hc _ hs.1, hs.2⟩
  · obtain ⟨text, address, target, hbelow, hresolve, rfl⟩ :=
      resolve_of_keyword? hkeeps hx hname hread
    rw [List.mem_singleton.1 hs']
    exact isWithin_of_resolve h hkeeps.base (.inr hs.2) hbelow hresolve

/-- Everything that is reached from a schema inside the definitions stands inside them, if all of it
keeps to them. -/
theorem isWithin_of_reaches (h : r.Defines draft definitions) {start : Site}
    (hstart : IsWithin definitions start)
    (hkeeps : ∀ s, r.Reaches start s → s.KeepsToDefinitions) (hs : r.Reaches start s) :
    IsWithin definitions s := by
  induction hs with
  | refl => exact hstart
  | step before hk hs' ih => exact isWithin_of_sites h (hkeeps _ before) ih hk hs'

open Classical in
/-- If all that is reached from a schema keeps to the definitions, it is a closed set of schemas,
and there are no more of them than values inside the definitions for each draft. This is why one
budget of levels is enough for the document and for every part of it. -/
theorem exists_closed (h : r.Defines draft definitions) {start : Site}
    (hstart : IsWithin definitions start)
    (hkeeps : ∀ s, r.Reaches start s → s.KeepsToDefinitions) :
    ∃ ss : List Site, start ∈ ss ∧ Evaluator.Closed r.readable ss ∧
      (∀ s ∈ ss, s.KeepsToDefinitions) ∧ ss.length ≤ Draft.all.length * definitions.size := by
  have hmem : ∀ s, r.Reaches start s →
      s ∈ (candidates definitions).filter fun s => decide (r.Reaches start s) := by
    intro s hs
    obtain ⟨hcontents, hscope⟩ := isWithin_of_reaches h hstart hkeeps hs
    exact List.mem_filter.2
      ⟨mem_candidates (hkeeps s hs).base hscope hcontents, decide_eq_true hs⟩
  have hreaches : ∀ s ∈ (candidates definitions).filter fun s => decide (r.Reaches start s),
      r.Reaches start s := fun s hs => of_decide_eq_true (List.mem_filter.1 hs).2
  refine ⟨_, hmem start .refl, fun s hs s' hs' => ?_, fun s hs => hkeeps s (hreaches s hs), ?_⟩
  · obtain ⟨k, hk, hs'⟩ := List.mem_flatMap.1 hs'
    exact hmem s' (.step (hreaches s hs) hk hs')
  · rw [← length_candidates]
    exact List.length_filter_le _ _

/-! ### What can be read off the text -/

/-- A reference below the definitions leads to a schema at the same address, if nothing inside the
definitions gives itself another one. -/
theorem base_of_resolve (h : r.Defines draft definitions) (hplain : definitions.RefersToDefinitions)
    (hbase : s.base = defaultBase) (hscope : InScope s) (htext : BelowDefinitions text)
    {address : Uri} {found : Site} (hok : r.resolve s text = .ok (address, found)) :
    found.base = defaultBase := by
  obtain ⟨pointer, segments, contents, hwalk⟩ := walk_of_resolve h hbase hscope htext hok
  rw [base_of_walk hwalk hplain.address, Site.enter, Site.innerBase,
    hplain.address _ definitions.self_mem_values]
  rfl

/-- Whatever is reached from a schema inside the definitions stands inside them and keeps to them,
if their text does. So a condition on text is enough, and no reference has to be followed to check
it. -/
theorem keepsToDefinitions_of_reaches (h : r.Defines draft definitions)
    (hplain : definitions.RefersToDefinitions) {start : Site} (hstart : IsWithin definitions start)
    (hbase : start.base = defaultBase) (hs : r.Reaches start s) :
    IsWithin definitions s ∧ s.KeepsToDefinitions := by
  have hkeeps : ∀ s : Site, s.base = defaultBase → IsWithin definitions s →
      s.KeepsToDefinitions := fun s hbase hs => ⟨hbase, hplain.references s.contents hs.1⟩
  induction hs with
  | refl => exact ⟨hstart, hkeeps _ hbase hstart⟩
  | @step s s' k before hk hs' ih =>
      obtain ⟨hwithin, hs⟩ := ih
      have hwithin' := isWithin_of_sites h hs hwithin hk hs'
      refine ⟨hwithin', hkeeps _ ?_ hwithin'⟩
      rcases mem_sites_of_readable hk hs' with ⟨c, hc, rfl⟩ | ⟨x, hx, hname, hread⟩
      · -- A schema inside passes its address on, as the inner one has none.
        rw [Site.enter, Site.innerBase,
          hplain.address c (Json.mem_values_trans hc _ hwithin.1)]
        exact hs.base
      · obtain ⟨text, address, target, hbelow, hresolve, rfl⟩ :=
          resolve_of_keyword? hs hx hname hread
        rw [List.mem_singleton.1 hs']
        exact base_of_resolve h hplain hs.base (.inr hwithin.2) hbelow hresolve

/-! ### References to the whole schema -/

/-- The reference `#` leads to the whole schema that stands at the address of schemas without
one. -/
theorem resolve_whole {contents : Json} (hbase : s.base = defaultBase) (hscope : InScope s)
    (hfind : r.resource? defaultBase = some ⟨defaultBase, [], draft, contents⟩) :
    r.resolve s "#" = .ok ({ defaultBase with fragment := some [] },
      ⟨defaultBase, [defaultBase], draft, contents⟩) := by
  have hfollow : s.follow ⟨defaultBase, [], draft, contents⟩
      = ⟨defaultBase, [defaultBase], draft, contents⟩ := by
    rw [Site.mk.injEq]
    exact ⟨rfl, scope_follow hbase hscope rfl, rfl, rfl⟩
  have hsplit : splitReference s.base "#" = .ok (defaultBase, []) := by
    rw [hbase]
    rfl
  rw [resolve, hsplit]
  simp only [bind, Except.bind, hfind, hfollow]
  rfl

/-- Take a schema inside the definitions that refers to the definitions or to the whole schema only.
Each of its keywords is read as in another registry with the same definitions, or is a reference to
the whole schema, which may be another one there. -/
theorem keywords_cases (h : r.Defines draft definitions) {members : Members}
    (h' : r'.resource? defaultBase = some ⟨defaultBase, [], draft, .object members⟩)
    (hlookup : members.lookup "definitions" = some definitions) (hlocal : s.StaysLocal)
    (hs : IsWithin definitions s) {reading : Except Fault (Keyword Site)}
    (hreading : reading ∈ r'.keywords s) :
    (reading ∈ r.keywords s ∧ ∀ k, reading = .ok k → ∀ s' ∈ k.sites, IsWithin definitions s') ∨
      ∃ address, reading
        = .ok (.reference address ⟨defaultBase, [defaultBase], draft, .object members⟩) := by
  rcases mem_keywords_iff.1 hreading with hverdict | ⟨⟨name, v⟩, hx, hread⟩
  · refine .inl ⟨mem_keywords_iff.2 (.inl hverdict), ?_⟩
    rintro k rfl s' hs'
    rw [sites_of_verdicts hverdict] at hs'
    cases hs'
  · by_cases hname : name ∈ referring
    · cases hv : v.string? with
      | none =>
          have hsame : keyword? r s name v = some reading := by
            rw [← hread, keyword?_of_noText hname hv, keyword?_of_noText hname hv]
          refine .inl ⟨mem_keywords_iff.2 (.inr ⟨_, hx, hsame⟩), ?_⟩
          rintro k rfl
          rw [keyword?_of_noText hname hv] at hsame
          split at hsame <;> cases hsame
      | some text =>
          obtain ⟨rfl, htext⟩ := hlocal.references _ (mem_memberList_of_visible hx) hname text hv
          cases v with
          | string text' =>
              cases hv
              rw [keyword?_reference] at hread
              rcases htext with rfl | hbelow
              · -- The whole schema: this is where the registries differ.
                rw [resolve_whole hlocal.base (.inr hs.2) h'] at hread
                exact .inr ⟨_, (Option.some.inj hread).symm⟩
              · have hsame : r.resolve s text = r'.resolve s text :=
                  resolve_congr h ⟨members, h', hlookup⟩ hlocal.base hlocal.base (fun _ _ => rfl)
                    hbelow
                refine .inl ⟨mem_keywords_iff.2 (.inr ⟨_, hx, ?_⟩), ?_⟩
                · rw [keyword?_reference, hsame]
                  exact hread
                · rintro k rfl s' hs'
                  rw [← hsame] at hread
                  obtain ⟨⟨address, target⟩, hresolve, hk⟩ := bind_eq_ok_iff.1 (Option.some.inj hread)
                  cases hk
                  rw [List.mem_singleton.1 hs']
                  exact isWithin_of_resolve h hlocal.base (.inr hs.2) hbelow hresolve
          | _ => cases hv
    · refine .inl ⟨mem_keywords_iff.2 (.inr ⟨_, hx, (keyword?_congr r r' hname).trans hread⟩), ?_⟩
      rintro k rfl s' hs'
      have hvalue := Json.mem_values_of_member (mem_memberList_of_visible hx) v.self_mem_values
      obtain ⟨c, hc, rfl⟩ := readsInside_keyword? r' hvalue hname k hread s' hs'
      exact ⟨Json.mem_values_trans hc _ hs.1, hs.2⟩

end Registry

end SchemaGate
