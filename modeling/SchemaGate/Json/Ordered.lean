import SchemaGate.Json.Basic

/-!
# `SchemaGate.Json.Ordered`: members in order of their names

`Members.insert` and `Members.ofList` keep members in strictly increasing order of their names, so a
name comes up at most once and two collections with the same values under the same names are equal
(`Members.eq_of_lookup_eq`).

A value is *canonical* if all objects inside it are ordered. `Json.sortKeys` gives every value that
form (`canonical_sortKeys`) and leaves a canonical value as it is (`sortKeys_of_canonical`), so
canonical values are equal as values exactly if they are the same.
-/

set_option autoImplicit false

namespace SchemaGate.Members

/-- The names increase from member to member. -/
def Ordered (members : Members) : Prop := members.Pairwise fun a b => a.1 < b.1

instance (members : Members) : Decidable members.Ordered :=
  inferInstanceAs (Decidable (members.Pairwise _))

/-- A member after an insertion is the new one or was there before. -/
theorem mem_insert {name : String} {value : Json} {m : Members} {x : String × Json}
    (h : x ∈ insert name value m) : x = (name, value) ∨ x ∈ m := by
  induction m with
  | nil => simpa [insert] using h
  | cons a rest ih =>
      obtain ⟨n, v⟩ := a
      unfold insert at h
      split at h
      · rcases List.mem_cons.1 h with h | h
        · exact .inl h
        · exact .inr (List.mem_cons_of_mem _ h)
      · split at h
        · exact List.mem_cons.1 h
        · rcases List.mem_cons.1 h with h | h
          · exact .inr (h ▸ List.mem_cons_self)
          · exact (ih h).imp id (List.mem_cons_of_mem _)

/-- An insertion keeps the order. -/
theorem ordered_insert (name : String) (value : Json) {m : Members} (h : m.Ordered) :
    (insert name value m).Ordered := by
  induction m with
  | nil => exact List.pairwise_singleton _ _
  | cons a rest ih =>
      obtain ⟨n, v⟩ := a
      obtain ⟨hn, hrest⟩ := List.pairwise_cons.1 h
      unfold insert
      split
      · next hEq => subst hEq; exact List.pairwise_cons.2 ⟨hn, hrest⟩
      · next hNe =>
        split
        · next hLt =>
          refine List.pairwise_cons.2 ⟨fun x hx => ?_, h⟩
          rcases List.mem_cons.1 hx with rfl | hx
          · exact hLt
          · exact String.lt_trans hLt (hn x hx)
        · next hNotLt =>
          -- Names are totally ordered, so the new one lies behind.
          have hLt : n < name := Std.lt_of_le_of_ne (String.not_lt.1 hNotLt) (Ne.symm hNe)
          refine List.pairwise_cons.2 ⟨fun x hx => ?_, ih hrest⟩
          rcases mem_insert hx with rfl | hx
          · exact hLt
          · exact hn x hx

/-- Insertions one after another keep the order. -/
theorem ordered_foldl_insert (new : Members) {m : Members} (h : m.Ordered) :
    (new.foldl (fun acc (name, value) => insert name value acc) m).Ordered := by
  induction new generalizing m with
  | nil => exact h
  | cons x rest ih => exact ih (ordered_insert x.1 x.2 h)

/-- Members put in order are in order. -/
theorem ordered_ofList (members : Members) : (ofList members).Ordered :=
  ordered_foldl_insert members List.Pairwise.nil

/-- A member after insertions one after another is one of the new or was there before. -/
theorem mem_foldl_insert (new : Members) {m : Members} {x : String × Json}
    (h : x ∈ new.foldl (fun acc (name, value) => insert name value acc) m) :
    x ∈ new ∨ x ∈ m := by
  induction new generalizing m with
  | nil => exact .inr h
  | cons y rest ih =>
      rcases ih h with h | h
      · exact .inl (List.mem_cons_of_mem _ h)
      · rcases mem_insert h with rfl | h
        · exact .inl List.mem_cons_self
        · exact .inr h

/-- Putting members in order adds none. -/
theorem mem_of_mem_ofList {members : Members} {x : String × Json} (h : x ∈ ofList members) :
    x ∈ members := by
  rcases mem_foldl_insert members h with h | h
  · exact h
  · exact absurd h List.not_mem_nil

/-- A name behind all others goes to the end. -/
theorem insert_of_forall_lt (name : String) (value : Json) {m : Members}
    (h : ∀ x ∈ m, x.1 < name) : insert name value m = m ++ [(name, value)] := by
  induction m with
  | nil => rfl
  | cons a rest ih =>
      obtain ⟨n, v⟩ := a
      have hn : n < name := h (n, v) List.mem_cons_self
      have hne : name ≠ n := fun he => String.lt_irrefl n (he ▸ hn)
      have hnot : ¬ name < n := fun hlt => String.lt_irrefl n (String.lt_trans hn hlt)
      rw [insert, if_neg hne, if_neg hnot, ih fun x hx => h x (List.mem_cons_of_mem _ hx)]
      rfl

/-- Members that are in order already stay where they are. -/
theorem ofList_of_ordered {members : Members} (h : members.Ordered) : ofList members = members := by
  -- The members read so far are in front of all that follow.
  have key : ∀ (rest done : Members), (done ++ rest).Ordered →
      rest.foldl (fun acc (name, value) => insert name value acc) done = done ++ rest := by
    intro rest
    induction rest with
    | nil => intro done _; simp
    | cons x rest ih =>
        obtain ⟨name, value⟩ := x
        intro done hord
        have hlt : ∀ y ∈ done, y.1 < name := fun y hy =>
          (List.pairwise_append.1 hord).2.2 y hy (name, value) List.mem_cons_self
        rw [List.foldl_cons]
        show rest.foldl _ (insert name value done) = _
        rw [insert_of_forall_lt name value hlt, ih (done ++ [(name, value)]) (by simpa using hord)]
        simp
  exact key members [] h

/-- A lookup looks at the first member and then at the others. -/
theorem lookup_cons_ite {α : Type} (n k : String) (v : α) (rest : List (String × α)) :
    List.lookup k ((n, v) :: rest) = if k = n then some v else rest.lookup k := by
  rw [List.lookup_cons]
  by_cases h : k = n
  · rw [if_pos h, beq_iff_eq.2 h]
  · rw [if_neg h, beq_eq_false_iff_ne.2 h]

/-- What a lookup finds is the value of a member. -/
theorem mem_of_lookup {α : Type} {xs : List (String × α)} {name : String} {x : α}
    (h : xs.lookup name = some x) : (name, x) ∈ xs := by
  obtain ⟨before, after, heq, -⟩ := List.lookup_eq_some_iff.1 h
  rw [heq]
  simp

/-- A lookup finds something exactly under the names of the list. -/
theorem isSome_lookup_iff {α : Type} {xs : List (String × α)} {name : String} :
    (xs.lookup name).isSome = true ↔ name ∈ xs.map (·.1) := by
  induction xs with
  | nil => simp
  | cons x rest ih =>
      obtain ⟨n, v⟩ := x
      rw [lookup_cons_ite, List.map_cons, List.mem_cons, ← ih]
      by_cases hname : name = n
      · simp [hname]
      · simp [hname]

/-- A name is one of those of the members exactly if a lookup finds something under it. -/
theorem mem_names_iff {m : Members} {name : String} :
    name ∈ m.names ↔ (m.lookup name).isSome = true :=
  isSome_lookup_iff.symm

/-- After an insertion the new value is under its name, and all others are where they were. -/
theorem lookup_insert (name : String) (value : Json) (m : Members) (k : String) :
    (insert name value m).lookup k = if k = name then some value else m.lookup k := by
  induction m with
  | nil =>
      show List.lookup k [(name, value)] = _
      rw [lookup_cons_ite]
  | cons a rest ih =>
      obtain ⟨n, v⟩ := a
      unfold insert
      split
      · next hEq =>
        subst hEq
        rw [lookup_cons_ite, lookup_cons_ite]
        split <;> rfl
      · next hNe =>
        split
        · rw [lookup_cons_ite]
        · -- The first member stays in front, and its name is another one.
          rw [lookup_cons_ite, lookup_cons_ite, ih]
          by_cases hn : k = n
          · rw [if_pos hn, if_pos hn, if_neg fun hk : k = name => hNe (hk.symm.trans hn)]
          · rw [if_neg hn, if_neg hn]

/-- After insertions one after another the last value of a name is under it, and what was there
before under the others. -/
theorem lookup_foldl_insert (new m : Members) (k : String) :
    (new.foldl (fun acc (name, value) => insert name value acc) m).lookup k
      = (new.reverse.lookup k).or (m.lookup k) := by
  induction new generalizing m with
  | nil => rfl
  | cons x rest ih =>
      obtain ⟨name, value⟩ := x
      rw [List.foldl_cons, ih, List.reverse_cons, List.lookup_append, Option.or_assoc,
        lookup_insert, lookup_cons_ite]
      by_cases hk : k = name
      · rw [if_pos hk, if_pos hk, Option.some_or]
      · rw [if_neg hk, if_neg hk, List.lookup_nil, Option.none_or]

/-- Putting members in order keeps under every name its last value. -/
theorem lookup_ofList (members : Members) (k : String) :
    (ofList members).lookup k = members.reverse.lookup k :=
  (lookup_foldl_insert members [] k).trans Option.or_none

/-- Members that are in order can be looked up from the end. -/
theorem lookup_reverse_of_ordered {members : Members} (h : members.Ordered) (k : String) :
    members.reverse.lookup k = members.lookup k := by
  rw [← lookup_ofList, ofList_of_ordered h]

/-- A lookup among changed values finds the changed value. -/
theorem lookup_map {α β : Type} (f : α → β) (m : List (String × α)) (k : String) :
    (m.map fun x => (x.1, f x.2)).lookup k = (m.lookup k).map f := by
  induction m with
  | nil => rfl
  | cons x rest ih =>
      rw [List.map_cons, List.lookup_cons, List.lookup_cons]
      cases k == x.1
      · exact ih
      · rfl

/-- A lookup among members that are looked up by some names finds what is under one of them. -/
theorem lookup_filterMap (names : List String) (members : Members) (k : String) :
    (names.filterMap fun n => (members.lookup n).map (n, ·)).lookup k
      = if k ∈ names then members.lookup k else none := by
  induction names with
  | nil => rfl
  | cons n rest ih =>
      rw [List.filterMap_cons]
      cases hn : members.lookup n with
      | none =>
          by_cases hk : k = n
          · subst hk
            simp [ih, hn]
          · simp [ih, hk]
      | some v =>
          by_cases hk : k = n
          · subst hk
            simp [hn]
          · simpa [lookup_cons_ite, hk] using ih

/-- The order of members of different names makes no difference to a lookup. -/
theorem lookup_perm {m m' : Members} (h : m.Perm m') (hnodup : m.names.Nodup) (k : String) :
    m.lookup k = m'.lookup k := by
  induction h with
  | nil => rfl
  | cons x _ ih =>
      obtain ⟨n, v⟩ := x
      rw [lookup_cons_ite, lookup_cons_ite, ih (List.nodup_cons.1 hnodup).2]
  | swap x y rest =>
      obtain ⟨n, v⟩ := x
      obtain ⟨n', v'⟩ := y
      have hne : n' ≠ n := fun heq => (List.nodup_cons.1 hnodup).1 (heq ▸ List.mem_cons_self)
      rw [lookup_cons_ite, lookup_cons_ite, lookup_cons_ite, lookup_cons_ite]
      by_cases hk : k = n
      · rw [if_neg fun hk' : k = n' => hne (hk'.symm.trans hk), if_pos hk, if_pos hk]
      · rw [if_neg hk, if_neg hk]
  | trans hfirst _ ih ih' =>
      rw [ih hnodup, ih' ((hfirst.map Prod.fst).nodup_iff.1 hnodup)]

/-- A name that is less than all others is none of them. -/
theorem lookup_eq_none_of_forall_lt {m : Members} {k : String} (h : ∀ x ∈ m, k < x.1) :
    m.lookup k = none := by
  induction m with
  | nil => rfl
  | cons x rest ih =>
      obtain ⟨n, v⟩ := x
      obtain ⟨hn, hrest⟩ := List.forall_mem_cons.1 h
      have hne : k ≠ n := fun heq => String.lt_irrefl n (heq ▸ hn)
      rw [lookup_cons_ite, if_neg hne, ih hrest]

/-- Of two collections in order with the same values under the same names, the first names are the
same. -/
theorem not_lt_of_lookup_eq {n n' : String} {v v' : Json} {rest rest' : Members}
    (h' : Ordered ((n', v') :: rest'))
    (heq : ∀ k, List.lookup k ((n, v) :: rest) = List.lookup k ((n', v') :: rest')) : ¬ n < n' := by
  intro hlt
  -- A name in front of `n'` would not be found.
  have hnone : List.lookup n ((n', v') :: rest') = none :=
    lookup_eq_none_of_forall_lt <| List.forall_mem_cons.2
      ⟨hlt, fun x hx => String.lt_trans hlt ((List.pairwise_cons.1 h').1 x hx)⟩
  rw [← heq n, lookup_cons_ite, if_pos rfl] at hnone
  cases hnone

/-- Members in order with the same values under the same names are the same. -/
theorem eq_of_lookup_eq {m m' : Members} (h : m.Ordered) (h' : m'.Ordered)
    (heq : ∀ k, m.lookup k = m'.lookup k) : m = m' := by
  induction m generalizing m' with
  | nil =>
      cases m' with
      | nil => rfl
      | cons x' rest' =>
          obtain ⟨n', v'⟩ := x'
          have hfirst := heq n'
          rw [lookup_cons_ite, if_pos rfl] at hfirst
          cases hfirst
  | cons x rest ih =>
      obtain ⟨n, v⟩ := x
      cases m' with
      | nil =>
          have hfirst := heq n
          rw [lookup_cons_ite, if_pos rfl] at hfirst
          cases hfirst
      | cons x' rest' =>
          obtain ⟨n', v'⟩ := x'
          have hname : n = n' := Std.le_antisymm
            (String.not_lt.1 (not_lt_of_lookup_eq h fun k => (heq k).symm))
            (String.not_lt.1 (not_lt_of_lookup_eq h' heq))
          subst hname
          obtain ⟨hfront, hrest⟩ := List.pairwise_cons.1 h
          obtain ⟨hfront', hrest'⟩ := List.pairwise_cons.1 h'
          have hvalue := heq n
          rw [lookup_cons_ite, lookup_cons_ite, if_pos rfl, if_pos rfl] at hvalue
          cases hvalue
          rw [ih hrest hrest' fun k => ?_]
          by_cases hk : k = n
          · rw [hk, lookup_eq_none_of_forall_lt hfront, lookup_eq_none_of_forall_lt hfront']
          · have hlater := heq k
            rwa [lookup_cons_ite, lookup_cons_ite, if_neg hk, if_neg hk] at hlater

end SchemaGate.Members

namespace SchemaGate.Json

/-! ### Canonical values -/

mutual

/-- Every object inside the value has its members in order of their names. -/
def Canonical : Json → Prop
  | .array items => CanonicalItems items
  | .object members => Members.Ordered members ∧ CanonicalMembers members
  | _ => True

/-- Every item is canonical. -/
def CanonicalItems : List Json → Prop
  | [] => True
  | v :: rest => v.Canonical ∧ CanonicalItems rest

/-- Every member's value is canonical. -/
def CanonicalMembers : List (String × Json) → Prop
  | [] => True
  | (_, v) :: rest => v.Canonical ∧ CanonicalMembers rest

end

/-- Items are canonical exactly if each of them is. -/
theorem canonicalItems_iff (items : List Json) :
    CanonicalItems items ↔ ∀ v ∈ items, v.Canonical := by
  induction items with
  | nil => simp [CanonicalItems]
  | cons v rest ih => simp [CanonicalItems, ih]

/-- Members are canonical exactly if all their values are. -/
theorem canonicalMembers_iff (members : Members) :
    CanonicalMembers members ↔ ∀ x ∈ members, x.2.Canonical := by
  induction members with
  | nil => simp [CanonicalMembers]
  | cons x rest ih =>
      obtain ⟨name, v⟩ := x
      simp [CanonicalMembers, ih]

/-- The value of a member is canonical if all are. -/
theorem canonical_of_lookup {members : Members} {name : String} {v : Json}
    (h : CanonicalMembers members) (hl : members.lookup name = some v) : v.Canonical :=
  (canonicalMembers_iff members).1 h _ (Members.mem_of_lookup hl)

mutual

/-- Sorting makes a value canonical. -/
theorem canonical_sortKeys : (v : Json) → v.sortKeys.Canonical
  | .null => trivial
  | .bool _ => trivial
  | .number _ => trivial
  | .string _ => trivial
  | .array items => canonicalItems_sortItems items
  | .object members => by
      refine ⟨Members.ordered_ofList _, (canonicalMembers_iff _).2 fun x hx => ?_⟩
      exact (canonicalMembers_iff _).1 (canonicalMembers_sortMembers members) x
        (Members.mem_of_mem_ofList hx)

/-- Sorting makes the items of an array canonical. -/
theorem canonicalItems_sortItems : (items : List Json) → CanonicalItems (sortItems items)
  | [] => trivial
  | v :: rest => ⟨canonical_sortKeys v, canonicalItems_sortItems rest⟩

/-- Sorting makes the values of members canonical. -/
theorem canonicalMembers_sortMembers :
    (members : List (String × Json)) → CanonicalMembers (sortMembers members)
  | [] => trivial
  | (_, v) :: rest => ⟨canonical_sortKeys v, canonicalMembers_sortMembers rest⟩

end

mutual

/-- Sorting leaves a canonical value as it is. -/
theorem sortKeys_of_canonical : (v : Json) → v.Canonical → v.sortKeys = v
  | .null, _ => rfl
  | .bool _, _ => rfl
  | .number _, _ => rfl
  | .string _, _ => rfl
  | .array items, h => by
      rw [sortKeys, sortItems_of_canonical items h]
  | .object members, h => by
      rw [sortKeys, sortMembers_of_canonical members h.2, Members.ofList_of_ordered h.1]

/-- Sorting leaves canonical items as they are. -/
theorem sortItems_of_canonical :
    (items : List Json) → CanonicalItems items → sortItems items = items
  | [], _ => rfl
  | v :: rest, h => by
      rw [sortItems, sortKeys_of_canonical v h.1, sortItems_of_canonical rest h.2]

/-- Sorting leaves canonical members as they are. -/
theorem sortMembers_of_canonical :
    (members : List (String × Json)) → CanonicalMembers members →
      sortMembers members = members
  | [], _ => rfl
  | (_, v) :: rest, h => by
      rw [sortMembers, sortKeys_of_canonical v h.1, sortMembers_of_canonical rest h.2]

end

/-- The object without members is canonical. -/
theorem canonical_nil : (Json.object []).Canonical := ⟨.nil, trivial⟩

/-- Members that are sorted inside and then put in order are canonical. -/
theorem canonical_ofList (members : Members) :
    (Json.object (Members.ofList (sortMembers members))).Canonical :=
  canonical_sortKeys (.object members)

/-- Inserting a canonical value keeps members canonical. -/
theorem canonical_insert (name : String) {value : Json} {m : Members} (hv : value.Canonical)
    (h : (Json.object m).Canonical) : (Json.object (Members.insert name value m)).Canonical := by
  refine ⟨Members.ordered_insert name value h.1, (canonicalMembers_iff _).2 fun x hx => ?_⟩
  rcases Members.mem_insert hx with rfl | hx
  · exact hv
  · exact (canonicalMembers_iff m).1 h.2 x hx

end SchemaGate.Json
