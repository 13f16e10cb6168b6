import Mathlib.Logic.Relation
import SchemaGate.Proofs.Schema.Inside
import SchemaGate.Schema.Basic

/-!
# `SchemaGate.Proofs.Schema.Usable`: when a schema can be used

A registry is built level by level, by the positions of schemas inside each other
(`Draft.Encloses`). Nothing is refused if every schema inside names a known draft, has no address of
its own and refers by fragments only (`Registry.exists_ofSchema`); that the drafts are known can be
read off any registry that was built (`Registry.knows_of_ofSchema`).

A registry finds the whole schema at its own address unless a schema inside takes this address,
because the schema that was found last counts (`Registry.resource?_of_ofSchema`).

Then all keywords are read that can be reached. Nothing is refused if this never leaves a set of
schemas whose keywords can all be read (`Registry.exists_visit`).
-/

set_option autoImplicit false

namespace SchemaGate

open Relation

/-! ### Schemas inside each other -/

namespace Draft

/-- A schema stands directly inside another one, at a position where its draft has schemas. Each of
the two comes with the draft that reads it, since a schema can change the draft for what is
inside. -/
def Encloses (outer inner : Draft × Json) : Prop :=
  inner.2 ∈ outer.1.subschemas outer.2 ∧ inner.1 = outer.1.inner inner.2

variable {d : Draft} {v c : Json}

/-- A schema in the value of a keyword is this value itself, one of its items or the value of one of
its members. -/
theorem mem_subschemasOf {keyword : String} (h : c ∈ d.subschemasOf keyword v) :
    c = v ∨ c ∈ v.itemList ∨ ∃ x ∈ v.memberList, x.2 = c := by
  unfold subschemasOf at h
  split at h
  · split at h
    · exact .inl (List.mem_singleton.1 h)
    · cases h
  split at h
  · split at h
    · exact .inr (.inl h)
    · cases h
  split at h
  · split at h
    · exact .inr (.inr (List.mem_map.1 h))
    · cases h
  split at h
  · split at h
    · exact .inr (.inl h)
    · exact .inl (List.mem_singleton.1 h)
  split at h
  · split at h
    · exact .inr (.inr (List.mem_map.1 (List.mem_filter.1 h).1))
    · cases h
  · cases h

/-- The schemas directly inside a schema are those in the values of its members, each by the keyword
it stands under. -/
theorem mem_subschemas_iff :
    c ∈ d.subschemas v ↔ ∃ x ∈ v.memberList, c ∈ d.subschemasOf x.1 x.2 := by
  cases v with
  | object members => exact List.mem_flatMap
  | _ => exact ⟨fun h => (nomatch h), fun ⟨_, hx, _⟩ => (nomatch hx)⟩

/-- A schema directly inside another one is less deep than this one. -/
theorem depth_lt_of_mem_subschemas (h : c ∈ d.subschemas v) : c.depth < v.depth := by
  obtain ⟨x, hx, hc⟩ := mem_subschemas_iff.1 h
  have hvalue := Json.depth_lt_of_mem_parts (Json.value_mem_parts hx)
  rcases mem_subschemasOf hc with rfl | hitem | ⟨y, hy, rfl⟩
  · exact hvalue
  · exact Nat.lt_trans (Json.depth_lt_of_mem_parts (Json.item_mem_parts hitem)) hvalue
  · exact Nat.lt_trans (Json.depth_lt_of_mem_parts (Json.value_mem_parts hy)) hvalue

/-- A schema directly inside another one is one of the values inside it. -/
theorem mem_values_of_mem_subschemas (h : c ∈ d.subschemas v) : c ∈ v.values := by
  obtain ⟨x, hx, hc⟩ := mem_subschemas_iff.1 h
  refine Json.mem_values_of_member hx ?_
  rcases mem_subschemasOf hc with hself | hitem | ⟨y, hy, rfl⟩
  · rw [hself]
    exact x.2.self_mem_values
  · exact Json.mem_values_of_item hitem c.self_mem_values
  · exact Json.mem_values_of_member hy y.2.self_mem_values

/-- A schema inside another one, however many schemas are in between, is one of the values inside
it. -/
theorem mem_values_of_encloses {s t : Draft × Json} (h : ReflTransGen Encloses s t) :
    t.2 ∈ s.2.values := by
  induction h with
  | refl => exact s.2.self_mem_values
  | tail _ hlast ih => exact Json.mem_values_trans (mem_values_of_mem_subschemas hlast.1) _ ih

/-- A schema declares no draft, or one that is known. -/
def Knows (schema : Json) : Prop :=
  ∀ id, declared? schema = some id → (ofIdentifier? id).isSome = true

end Draft

/-! ### Building a registry -/

namespace Registry

variable {outer s : Site} {c : Json}

/-- A schema that a registry finds inside another one declares no unknown draft, because an unknown
one is refused there. -/
theorem knows_of_inner (h : inner outer c = .ok s) : Draft.Knows c := by
  intro id hid
  unfold inner at h
  cases hknown : Draft.ofIdentifier? id with
  | some d => rfl
  | none =>
      simp only [hid, hknown] at h
      cases h

/-- If the draft that it declares is known, only the address that a schema gives itself can keep a
registry from finding it. -/
theorem inner_of_knows (h : Draft.Knows c) : inner outer c = (do
    let base ← Site.innerBase outer.base (outer.draft.inner c) c
    return ⟨base, [], outer.draft.inner c, c⟩) := by
  unfold inner Draft.inner
  cases hdeclared : Draft.declared? c with
  | none => rfl
  | some id =>
      obtain ⟨d, hd⟩ := Option.isSome_iff_exists.1 (h id hdeclared)
      simp only [hd]
      rfl

/-- A schema that a registry finds inside another one is read by the draft that it has inside, and
its contents are what was found. -/
theorem draft_of_inner (h : inner outer c = .ok s) :
    s.draft = outer.draft.inner c ∧ s.contents = c := by
  rw [inner_of_knows (knows_of_inner h)] at h
  obtain ⟨base, -, hsite⟩ := bind_eq_ok_iff.1 h
  cases hsite
  exact ⟨rfl, rfl⟩

/-- The schemas directly inside a schema in their places, with the addresses of other documents that
they refer to. -/
def expand (s : Site) : Except Fault (List Site × List Uri) := do
  let children ← (s.draft.subschemas s.contents).mapM (inner s)
  let external ← children.mapM externalAddress?
  return (children, external.filterMap id)

/-- A level is collected in front of the level below it: first the schemas directly inside those of
the level, then what is collected below these. -/
theorem collect_succ (n : Nat) (s : Site) (rest : List Site) : collect (n + 1) (s :: rest) = (do
    let found ← (s :: rest).mapM expand
    let (deeper, external) ← collect n (found.flatMap (·.1))
    return (((found.flatMap (·.1)).map fun c =>
        ofSite (Site.address? c.draft c.contents).isSome c).foldr append deeper,
      found.flatMap (·.2) ++ external)) := rfl

/-- The schemas that are found directly inside a schema are the results of finding each of them by
itself. -/
theorem inner_of_expand {found : List Site × List Uri} (h : expand s = .ok found) :
    (s.draft.subschemas s.contents).mapM (inner s) = .ok found.1 := by
  obtain ⟨children, hchildren, h⟩ := bind_eq_ok_iff.1 h
  obtain ⟨external, -, h⟩ := bind_eq_ok_iff.1 h
  cases h
  exact hchildren

/-- What is found directly inside the schemas of a level is less deep than the level. So a number of
levels that is enough for a level is enough, less one, for the next. -/
theorem depth_le_of_expand {level : List Site} {found : List (List Site × List Uri)}
    (h : level.mapM expand = .ok found) {n : Nat} (hdepth : ∀ s ∈ level, s.contents.depth ≤ n + 1)
    (hs : s ∈ found.flatMap (·.1)) : s.contents.depth ≤ n := by
  obtain ⟨x, hx, hs⟩ := List.mem_flatMap.1 hs
  obtain ⟨outer, houter, hexpand⟩ := exists_of_mem_mapM h hx
  obtain ⟨c, hc, hinner⟩ := exists_of_mem_mapM (inner_of_expand hexpand) hs
  have hlt := Draft.depth_lt_of_mem_subschemas hc
  have hle := hdepth outer houter
  rw [(draft_of_inner hinner).2]
  omega

/-- If a level can be collected, the drafts of all schemas inside are known, however deep they
stand. The number of levels has to be enough for their depth, as collecting stops silently when it
is used up. -/
theorem knows_of_collect {n : Nat} {level : List Site} {result : Registry × List Uri}
    (h : collect n level = .ok result) (hdepth : ∀ s ∈ level, s.contents.depth ≤ n)
    (hs : s ∈ level) {x : Draft × Json}
    (hx : TransGen Draft.Encloses (s.draft, s.contents) x) : Draft.Knows x.2 := by
  induction n generalizing level result s with
  | zero =>
      obtain ⟨y, hy, -⟩ := TransGen.head'_iff.1 hx
      have hlt := Draft.depth_lt_of_mem_subschemas hy.1
      exact absurd hlt (Nat.not_lt.2 (Nat.le_trans (hdepth s hs) (Nat.zero_le _)))
  | succ n ih =>
      cases level with
      | nil => cases hs
      | cons first others =>
          rw [collect_succ] at h
          obtain ⟨found, hfound, h⟩ := bind_eq_ok_iff.1 h
          obtain ⟨below, hbelow, -⟩ := bind_eq_ok_iff.1 h
          -- The first schema on the way is on the level below.
          obtain ⟨⟨d, c⟩, ⟨hc, hd⟩, hrest⟩ := TransGen.head'_iff.1 hx
          obtain ⟨children, hmem, hexpand⟩ := exists_of_mapM hfound hs
          obtain ⟨child, hchild, hinner⟩ := exists_of_mapM (inner_of_expand hexpand) hc
          obtain ⟨hdraft, hcontents⟩ := draft_of_inner hinner
          have hpair : (d, c) = (child.draft, child.contents) := by
            rw [hdraft, hcontents]
            exact congrArg (·, c) hd
          rcases reflTransGen_iff_eq_or_transGen.1 hrest with rfl | hdeeper
          · exact knows_of_inner hinner
          · exact ih hbelow (fun s' hs' => depth_le_of_expand hfound hdepth hs')
              (List.mem_flatMap.2 ⟨children, hmem, hchild⟩) (hpair ▸ hdeeper)

/-- A schema stands directly inside another one, in the place where a registry finds it. Other than
`Draft.Encloses` this includes the address that the schema gets. -/
def Finds (outer s : Site) : Prop :=
  ∃ c ∈ outer.draft.subschemas outer.contents, inner outer c = .ok s

/-- What a registry finds directly inside a schema stands directly inside it. -/
theorem encloses_of_finds (h : Finds outer s) :
    Draft.Encloses (outer.draft, outer.contents) (s.draft, s.contents) := by
  obtain ⟨c, hc, hinner⟩ := h
  obtain ⟨hdraft, rfl⟩ := draft_of_inner hinner
  exact ⟨hc, hdraft⟩

/-- An entry of several registries put together is an entry of one of them. -/
theorem mem_resources_foldr_append {rs : List Registry} {r : Registry} {x : Uri × Site} :
    x ∈ (rs.foldr append r).resources ↔ (∃ a ∈ rs, x ∈ a.resources) ∨ x ∈ r.resources := by
  induction rs with
  | nil => simp
  | cons a rs ih =>
      show x ∈ a.resources ++ (rs.foldr append r).resources ↔ _
      rw [List.mem_append, ih, List.exists_mem_cons_iff, or_assoc]

/-- What is collected below a level stands inside a schema of the level, and has given itself the
address at which it is held. A schema without an address of its own is held by anchors only. -/
theorem finds_of_collect {n : Nat} {level : List Site} {result : Registry × List Uri}
    (h : collect n level = .ok result) {x : Uri × Site} (hx : x ∈ result.1.resources) :
    x.1 = x.2.base ∧ (Site.address? x.2.draft x.2.contents).isSome ∧
      ∃ s ∈ level, TransGen Finds s x.2 := by
  induction n generalizing level result with
  | zero =>
      cases h
      cases hx
  | succ n ih =>
      cases level with
      | nil =>
          cases h
          cases hx
      | cons first others =>
          rw [collect_succ] at h
          obtain ⟨found, hfound, h⟩ := bind_eq_ok_iff.1 h
          obtain ⟨below, hbelow, h⟩ := bind_eq_ok_iff.1 h
          cases h
          -- A schema of the next level stands directly inside one of this level.
          have hnext : ∀ c ∈ found.flatMap (·.1), ∃ s ∈ first :: others, Finds s c := by
            intro c hc
            obtain ⟨children, hmem, hc⟩ := List.mem_flatMap.1 hc
            obtain ⟨s, hs, hexpand⟩ := exists_of_mem_mapM hfound hmem
            exact ⟨s, hs, exists_of_mem_mapM (inner_of_expand hexpand) hc⟩
          rcases mem_resources_foldr_append.1 hx with ⟨a, ha, hx⟩ | hx
          · obtain ⟨c, hc, rfl⟩ := List.mem_map.1 ha
            obtain ⟨s, hs, hfinds⟩ := hnext c hc
            cases haddress : (Site.address? c.draft c.contents).isSome with
            | false =>
                rw [haddress] at hx
                cases hx
            | true =>
                rw [haddress] at hx
                obtain rfl : x = (c.base, c) := List.mem_singleton.1 hx
                exact ⟨rfl, haddress, s, hs, .single hfinds⟩
          · obtain ⟨hbase, haddress, c, hc, hfinds⟩ := ih hbelow hx
            obtain ⟨s, hs, hfirst⟩ := hnext c hc
            exact ⟨hbase, haddress, s, hs, .head hfirst hfinds⟩

end Registry

/-- A schema keeps its address: no schema inside it gives itself the same one. Otherwise a registry
would find the one inside at this address, because it was found later. -/
def Site.KeepsAddress (s : Site) : Prop :=
  ∀ t, TransGen Registry.Finds s t → (Site.address? t.draft t.contents).isSome → t.base ≠ s.base

namespace Registry

variable {outer s : Site}

/-- A schema keeps its address if nothing inside it gives itself any address. -/
theorem keepsAddress_of_encloses
    (h : ∀ x, TransGen Draft.Encloses (s.draft, s.contents) x → Site.address? x.1 x.2 = none) :
    s.KeepsAddress := by
  intro t ht haddress
  have hencloses : TransGen Draft.Encloses (s.draft, s.contents) (t.draft, t.contents) :=
    TransGen.lift (fun s : Site => (s.draft, s.contents)) (fun _ _ => encloses_of_finds) _ _ ht
  rw [h _ hencloses] at haddress
  cases haddress

/-- A schema that a registry finds without trouble wherever it stands: its draft is known, it has no
address of its own, and it refers by a fragment. -/
structure Plain (x : Draft × Json) : Prop where
  knows : Draft.Knows x.2
  address : Site.address? x.1 x.2 = none
  reference : ∀ text ∈ (x.2.get? "$ref").bind Json.string?, text.toList.head? = some '#'

/-- A schema whose reference is a fragment, or that has none, refers to no other document. -/
theorem externalAddress?_of_fragment
    (h : ∀ text ∈ (s.contents.get? "$ref").bind Json.string?, text.toList.head? = some '#') :
    externalAddress? s = .ok none := by
  unfold externalAddress?
  cases href : (s.contents.get? "$ref").bind Json.string? with
  | none => rfl
  | some text =>
      have hfirst := h text href
      simp [hfirst]

/-- If everything directly inside a schema is plain, all of it is found, at the address of the
schema, and nothing refers to another document. -/
theorem expand_of_plain
    (h : ∀ x, Draft.Encloses (s.draft, s.contents) x → Plain x) :
    expand s = .ok ((s.draft.subschemas s.contents).map fun c =>
      ⟨s.base, [], s.draft.inner c, c⟩, []) := by
  have hplain : ∀ c ∈ s.draft.subschemas s.contents, Plain (s.draft.inner c, c) :=
    fun c hc => h _ ⟨hc, rfl⟩
  have hinner : (s.draft.subschemas s.contents).mapM (inner s)
      = .ok ((s.draft.subschemas s.contents).map fun c => ⟨s.base, [], s.draft.inner c, c⟩) := by
    refine mapM_eq_ok_map fun c hc => ?_
    rw [inner_of_knows (hplain c hc).knows, Site.innerBase, (hplain c hc).address]
    rfl
  have hexternal : ((s.draft.subschemas s.contents).map fun c =>
      Site.mk s.base [] (s.draft.inner c) c).mapM externalAddress?
      = .ok (((s.draft.subschemas s.contents).map fun c =>
          Site.mk s.base [] (s.draft.inner c) c).map fun _ => none) := by
    refine mapM_eq_ok_map fun child hchild => ?_
    obtain ⟨c, hc, rfl⟩ := List.mem_map.1 hchild
    exact externalAddress?_of_fragment (hplain c hc).reference
  rw [expand, hinner]
  simp only [bind, Except.bind, hexternal]
  simp [pure, Except.pure]

/-- A level can be collected if everything inside its schemas is plain, and then nothing inside
refers to another document. -/
theorem exists_collect {level : List Site} (n : Nat)
    (h : ∀ s ∈ level, ∀ x, TransGen Draft.Encloses (s.draft, s.contents) x → Plain x) :
    ∃ r, collect n level = .ok (r, []) := by
  induction n generalizing level with
  | zero => exact ⟨empty, rfl⟩
  | succ n ih =>
      cases level with
      | nil => exact ⟨empty, rfl⟩
      | cons first others =>
          have hfound : (first :: others).mapM expand
              = .ok ((first :: others).map fun s => ((s.draft.subschemas s.contents).map fun c =>
                ⟨s.base, [], s.draft.inner c, c⟩, [])) :=
            mapM_eq_ok_map fun s hs => expand_of_plain fun x hx => h s hs x (.single hx)
          obtain ⟨below, hbelow⟩ : ∃ r, collect n (((first :: others).map fun s =>
              ((s.draft.subschemas s.contents).map fun c => Site.mk s.base [] (s.draft.inner c) c,
                ([] : List Uri))).flatMap (·.1)) = .ok (r, []) := by
            refine ih fun s' hs' x hx => ?_
            obtain ⟨found, hmem, hs'⟩ := List.mem_flatMap.1 hs'
            obtain ⟨s, hs, rfl⟩ := List.mem_map.1 hmem
            obtain ⟨c, hc, rfl⟩ := List.mem_map.1 hs'
            exact h s hs x (.head ⟨hc, rfl⟩ hx)
          rw [collect_succ, hfound]
          simp only [bind, Except.bind, hbelow]
          refine ⟨_, congrArg Except.ok (Prod.ext rfl ?_)⟩
          simp

variable {draft : Draft} {schema : Json}

/-- A registry of a whole schema holds the schemas of schemas, then the whole schema, then what is
collected below it. This order decides which of two schemas with one address counts. -/
theorem exists_collect_of_ofSchema {r : Registry} {root : Site}
    (h : ofSchema draft schema = .ok (r, root)) :
    rootSite defaultBase draft schema = .ok root ∧
      ∃ below, collect schema.size [root] = .ok below ∧
        r = metaSchemas.append ((ofSite true root).append below.1) := by
  obtain ⟨site, hroot, h⟩ := bind_eq_ok_iff.1 h
  obtain ⟨direct, -, h⟩ := bind_eq_ok_iff.1 h
  obtain ⟨below, hcollect, h⟩ := bind_eq_ok_iff.1 h
  simp only at h
  split at h
  · cases h
  · cases h
    exact ⟨hroot, below, hcollect, rfl⟩

/-- A whole schema is read by its draft, and its scope is empty, because no reference has led to
it. -/
theorem root_of_ofSchema {r : Registry} {root : Site} (h : ofSchema draft schema = .ok (r, root)) :
    root = ⟨root.base, [], draft, schema⟩ := by
  obtain ⟨hroot, -⟩ := exists_collect_of_ofSchema h
  obtain ⟨base, -, hsite⟩ := bind_eq_ok_iff.1 hroot
  cases hsite
  rfl

/-- If the registry of a whole schema can be built, the drafts of all schemas inside are known,
however deep they stand. -/
theorem knows_of_ofSchema {r : Registry} {root : Site} (h : ofSchema draft schema = .ok (r, root))
    {x : Draft × Json} (hx : TransGen Draft.Encloses (draft, schema) x) : Draft.Knows x.2 := by
  obtain ⟨-, below, hcollect, -⟩ := exists_collect_of_ofSchema h
  have hroot := root_of_ofSchema h
  refine knows_of_collect hcollect (fun s hs => ?_) (List.mem_singleton.2 rfl) ?_
  · rw [List.mem_singleton.1 hs, hroot]
    exact schema.depth_le_size
  · rw [hroot]
    exact hx

/-- The registry of a whole schema finds this schema at its own address, if no schema inside takes
the address: what was found last counts, and only what stands inside was found later. -/
theorem resource?_of_ofSchema {r : Registry} {root : Site}
    (h : ofSchema draft schema = .ok (r, root)) (hkeeps : root.KeepsAddress) :
    r.resource? root.base = some root := by
  obtain ⟨-, below, hcollect, rfl⟩ := exists_collect_of_ofSchema h
  have hbelow : below.1.resources.reverse.lookup root.base = none := by
    refine List.lookup_eq_none_iff.2 fun x hx => ?_
    obtain ⟨hbase, haddress, s, hs, hfinds⟩ := finds_of_collect hcollect (List.mem_reverse.1 hx)
    rw [List.mem_singleton.1 hs] at hfinds
    rw [hbase]
    exact bne_iff_ne.2 (hkeeps x.2 hfinds haddress).symm
  show (metaSchemas.resources ++ ((root.base, root) :: below.1.resources)).reverse.lookup root.base
    = some root
  rw [List.reverse_append, List.reverse_cons, List.append_assoc, List.lookup_append, hbelow]
  simp

/-- The registry of a whole schema can be built if the schema has no address, refers to no other
document, and everything inside it is plain. The whole schema then stands at the address of schemas
without one. -/
theorem exists_ofSchema (haddress : Site.address? draft schema = none)
    (hreference : ∀ text ∈ (schema.get? "$ref").bind Json.string?, text.toList.head? = some '#')
    (h : ∀ x, TransGen Draft.Encloses (draft, schema) x → Plain x) :
    ∃ r, ofSchema draft schema = .ok (r, ⟨defaultBase, [], draft, schema⟩) := by
  have hroot : rootSite defaultBase draft schema = .ok ⟨defaultBase, [], draft, schema⟩ := by
    rw [rootSite, Site.innerBase, haddress]
    rfl
  obtain ⟨below, hbelow⟩ : ∃ r, collect schema.size [⟨defaultBase, [], draft, schema⟩]
      = .ok (r, []) := by
    refine exists_collect schema.size fun s hs => ?_
    rw [List.mem_singleton.1 hs]
    exact h
  have hdirect : externalAddress? ⟨defaultBase, [], draft, schema⟩ = .ok none :=
    externalAddress?_of_fragment hreference
  rw [ofSchema, hroot]
  simp only [bind, Except.bind, hdirect, hbelow]
  exact ⟨_, rfl⟩

end Registry

/-! ### Reading what can be reached -/

/-- The schemas inside a keyword are among those that it asks. Only a reference asks a schema that
stands elsewhere. -/
theorem Keyword.mem_sites_of_mem_children {σ : Type} {k : Keyword σ} {s : σ} (h : s ∈ k.children) :
    s ∈ k.sites := by
  cases k with
  | reference => cases h
  | conditional test yes no =>
      cases yes <;> cases no
      · cases h
      all_goals exact h
  | _ => exact h

namespace Registry

variable {r : Registry}

/-- All that can be reached from a schema is read without a fault, if this never leaves a set of
schemas whose keywords can all be read. The bound on the number of steps does not matter, since
running out of steps is no fault. -/
theorem exists_visit {P : Site → Prop}
    (h : ∀ s, P s → ∀ reading ∈ r.keywords s, ∃ k, reading = .ok k ∧ ∀ s' ∈ k.sites, P s')
    (n : Nat) (seen : List Uri) {s : Site} (hs : P s) : ∃ seen', r.visit n seen s = .ok seen' := by
  induction n generalizing seen s with
  | zero => exact ⟨seen, rfl⟩
  | succ n ih =>
      refine exists_foldlM (fun reading hreading seen => ?_) seen
      obtain ⟨k, rfl, hnext⟩ := h s hs reading hreading
      have hchildren : ∃ seen', k.children.foldlM (r.visit n) seen = .ok seen' :=
        exists_foldlM (fun s' hs' seen =>
          ih seen (hnext s' (Keyword.mem_sites_of_mem_children hs'))) seen
      cases k with
      | reference address target =>
          by_cases hseen : seen.contains address = true
          · exact ⟨seen, by simp only [bind, Except.bind, hseen, if_true]; rfl⟩
          · obtain ⟨seen', hseen'⟩ := ih (address :: seen) (hnext target (List.mem_singleton.2 rfl))
            refine ⟨seen', ?_⟩
            simp only [bind, Except.bind]
            rw [if_neg hseen]
            exact hseen'
      | _ => exact hchildren

end Registry

end SchemaGate
