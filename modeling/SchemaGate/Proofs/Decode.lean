import SchemaGate.Decode.Basic
import SchemaGate.Json.Ordered
import SchemaGate.Proofs.Traversal

/-!
# `SchemaGate.Proofs.Decode`: records in objects

A record is read from the members of an object that have the names of its fields
(`Decode.record_object`); other members play no role (`Decode.record_filter`). If the members are in
order, the fields are looked up one after the other in the order of their names
(`Decode.record_of_ordered`).

A list that is written item by item is read back if every item is (`Decode.list_map`).
-/

set_option autoImplicit false

namespace SchemaGate

/-- Members are in order if the list of their names is. The two say the same of neighbours, once
about pairs and once about names. -/
theorem Members.ordered_of_names {members : Members} (h : members.names.Pairwise (· < ·)) :
    members.Ordered :=
  List.pairwise_map.1 h

/-- A lookup among the members with names of one kind finds what all the members have under a name
of this kind, and nothing under any other name. -/
theorem Members.lookup_filter (keep : String → Bool) (members : Members) (k : String) :
    (members.filter fun m => keep m.1).lookup k = if keep k then members.lookup k else none := by
  induction members with
  | nil => simp
  | cons x rest ih =>
      obtain ⟨n, v⟩ := x
      rw [List.filter_cons, lookup_cons_ite]
      by_cases hk : k = n
      · subst hk
        cases hkeep : keep k with
        | true => simp
        | false => simpa [hkeep] using ih
      · cases hn : keep n with
        | true => simpa [lookup_cons_ite, hk] using ih
        | false => simpa [hk] using ih

/-- Take an object whose members are in order, and names that are in order too. The members that
have these names are those that are found by looking the names up one after the other: both lists
follow the order of the names. -/
theorem Members.filter_eq_filterMap {members : Members} (h : members.Ordered) {names : List String}
    (hnames : names.Pairwise (· < ·)) :
    members.filter (fun m => names.contains m.1)
      = names.filterMap fun n => (members.lookup n).map (n, ·) := by
  have hordered : Ordered (names.filterMap fun n => (members.lookup n).map (n, ·)) := by
    refine hnames.filterMap _ fun n n' hlt x hx x' hx' => ?_
    obtain ⟨v, -, rfl⟩ := Option.map_eq_some_iff.1 hx
    obtain ⟨v', -, rfl⟩ := Option.map_eq_some_iff.1 hx'
    exact hlt
  refine eq_of_lookup_eq (h.filter _) hordered fun k => ?_
  rw [lookup_filter, lookup_filterMap]
  simp

namespace Decode

variable {σ : Type} {name : String} {fields : List String}
  {read : String → Json → σ → Except DecodeFault σ} {start : σ}

/-- A record is read from an object by going through those members only that have the name of a
field. Members of other names leave what was read so far as it is. -/
theorem record_object (members : Members) :
    record name fields read start (.object members)
      = (members.filter fun m => fields.contains m.1).foldlM (fun r (field, v) => read field v r)
          start := by
  show members.foldlM _ start = _
  rw [List.foldlM_filter]
  rfl

/-- Members whose names are no field of a record play no role in reading it: the object without them
is read with the same result, or the same fault. -/
theorem record_filter (members : Members) :
    record name fields read start (.object (members.filter fun m => fields.contains m.1))
      = record name fields read start (.object members) := by
  rw [record_object, record_object, List.filter_filter]
  simp only [Bool.and_self]

/-- From an object in order the fields of a record are read in the order of their names, each by
looking it up. The list `names` is the list of fields put in order; a field that is missing leaves
its default in place. -/
theorem record_of_ordered {members : Members} (h : members.Ordered) {names : List String}
    (hnames : names.Pairwise (· < ·)) (hfields : fields.Perm names) :
    record name fields read start (.object members) = names.foldlM (fun r field =>
      match members.lookup field with
      | some v => read field v r
      | none => .ok r) start := by
  rw [record_object]
  simp only [hfields.contains_eq]
  rw [Members.filter_eq_filterMap h hnames, List.foldlM_filterMap]
  congr 1
  funext r field
  cases members.lookup field <;> rfl

/-- A list is read back from what is written for its items if every single item is. This lifts a
round trip of items to one of lists. -/
theorem list_map {α : Type} {item : Decoder α} {write : α → Json}
    (h : ∀ x, item (write x) = .ok x) (xs : List α) :
    list item (.array (xs.map write)) = .ok xs := by
  have hread : xs.mapM (item ∘ write) = .ok (xs.map id) := mapM_eq_ok_map fun x _ => h x
  show (xs.map write).mapM item = _
  rw [List.mapM_map, hread, List.map_id]

end Decode

end SchemaGate
