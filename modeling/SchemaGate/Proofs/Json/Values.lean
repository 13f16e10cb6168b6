import Mathlib.Data.List.Basic
import SchemaGate.Json.Basic

/-!
# `SchemaGate.Proofs.Json.Values`: the values inside a value

`Json.values` lists a value and all values inside it. `Json.inductionOn` is the induction that goes
with it: what holds of an array if it holds of all items, and of an object if it holds of the values
of all members, holds of every value. The number of these values (`length_values`) bounds how deep
they are nested (`depth_le_size`).
-/

set_option autoImplicit false

namespace SchemaGate.Json

/-- Induction over a value by way of the values directly inside it. What holds of a container if it
holds of everything directly inside, and of the values that are no containers, holds of every
value. -/
@[elab_as_elim]
theorem inductionOn {motive : Json → Prop} (v : Json) (null : motive .null)
    (bool : ∀ b, motive (.bool b)) (number : ∀ n, motive (.number n))
    (string : ∀ s, motive (.string s))
    (array : ∀ items, (∀ v ∈ items, motive v) → motive (.array items))
    (object : ∀ members : Members, (∀ x ∈ members, motive x.2) → motive (.object members)) :
    motive v :=
  @Json.rec motive (fun items => ∀ v ∈ items, motive v) (fun members => ∀ x ∈ members, motive x.2)
    (fun x => motive x.2) null bool number string array object
    (List.forall_mem_nil _) (fun _ _ hv hrest => List.forall_mem_cons.2 ⟨hv, hrest⟩)
    (List.forall_mem_nil _) (fun _ _ hx hrest => List.forall_mem_cons.2 ⟨hx, hrest⟩)
    (fun _ _ hv => hv) v

mutual

/-- All values inside a value, the value itself first. A value that stands at several places is
listed once for each of them. -/
def values : Json → List Json
  | .array items => .array items :: valuesOfItems items
  | .object members => .object members :: valuesOfMembers members
  | v => [v]

/-- All values inside the items of an array, item by item. -/
def valuesOfItems : List Json → List Json
  | [] => []
  | v :: rest => v.values ++ valuesOfItems rest

/-- All values inside the members of an object, member by member. Names are no values and do not
count. -/
def valuesOfMembers : List (String × Json) → List Json
  | [] => []
  | (_, v) :: rest => v.values ++ valuesOfMembers rest

end

mutual

/-- There are as many values inside a value as its size says, so size bounds what a traversal of the
value can meet. -/
theorem length_values : (v : Json) → v.values.length = v.size
  | .null => rfl
  | .bool _ => rfl
  | .number _ => rfl
  | .string _ => rfl
  | .array items => by
      rw [values, size, List.length_cons, length_valuesOfItems items]
      omega
  | .object members => by
      rw [values, size, List.length_cons, length_valuesOfMembers members]
      omega

/-- There are as many values inside the items of an array as their common size says. -/
theorem length_valuesOfItems : (items : List Json) →
    (valuesOfItems items).length = sizeItems items
  | [] => rfl
  | v :: rest => by
      rw [valuesOfItems, sizeItems, List.length_append, length_values v,
        length_valuesOfItems rest]

/-- There are as many values inside the members of an object as their common size says. -/
theorem length_valuesOfMembers : (members : List (String × Json)) →
    (valuesOfMembers members).length = sizeMembers members
  | [] => rfl
  | (_, v) :: rest => by
      rw [valuesOfMembers, sizeMembers, List.length_append, length_values v,
        length_valuesOfMembers rest]

end

mutual

/-- A value is nested no deeper than there are values inside it. A bound on the size is therefore
also one on the depth. -/
theorem depth_le_size : (v : Json) → v.depth ≤ v.size
  | .null | .bool _ | .number _ | .string _ => Nat.zero_le _
  | .array items => Nat.add_le_add_left (depthItems_le_sizeItems items) 1
  | .object members => Nat.add_le_add_left (depthMembers_le_sizeMembers members) 1

/-- The items of an array are nested no deeper than there are values inside them. -/
theorem depthItems_le_sizeItems : (items : List Json) → depthItems items ≤ sizeItems items
  | [] => Nat.le_refl 0
  | v :: rest => by
      have hv := depth_le_size v
      have hrest := depthItems_le_sizeItems rest
      rw [depthItems, sizeItems]
      omega

/-- The members of an object are nested no deeper than there are values inside them. -/
theorem depthMembers_le_sizeMembers : (members : List (String × Json)) →
    depthMembers members ≤ sizeMembers members
  | [] => Nat.le_refl 0
  | (_, v) :: rest => by
      have hv := depth_le_size v
      have hrest := depthMembers_le_sizeMembers rest
      rw [depthMembers, sizeMembers]
      omega

end

/-- Every value is one of the values inside itself. -/
theorem self_mem_values (v : Json) : v ∈ v.values := by
  cases v <;> simp [values]

/-- A value is inside the items of an array exactly if it is inside one of them. -/
theorem mem_valuesOfItems {items : List Json} {u : Json} :
    u ∈ valuesOfItems items ↔ ∃ v ∈ items, u ∈ v.values := by
  induction items with
  | nil => simp [valuesOfItems]
  | cons v rest ih => simp [valuesOfItems, ih]

/-- A value is inside the members of an object exactly if it is inside the value of one of them. -/
theorem mem_valuesOfMembers {members : Members} {u : Json} :
    u ∈ valuesOfMembers members ↔ ∃ x ∈ members, u ∈ x.2.values := by
  induction members with
  | nil => simp [valuesOfMembers]
  | cons x rest ih =>
      obtain ⟨name, v⟩ := x
      simp [valuesOfMembers, ih]

/-- What is inside a value that is itself inside another one is inside this other one too. A walk
from value to value thus never leaves the one it starts from. -/
theorem mem_values_trans {u w : Json} (hu : u ∈ w.values) (v : Json) (hw : w ∈ v.values) :
    u ∈ v.values := by
  induction v using inductionOn with
  | null => rw [List.mem_singleton.1 hw] at hu; exact hu
  | bool b => rw [List.mem_singleton.1 hw] at hu; exact hu
  | number n => rw [List.mem_singleton.1 hw] at hu; exact hu
  | string s => rw [List.mem_singleton.1 hw] at hu; exact hu
  | array items ih =>
      rcases List.mem_cons.1 hw with rfl | hw
      · exact hu
      · obtain ⟨v, hv, hw⟩ := mem_valuesOfItems.1 hw
        exact List.mem_cons_of_mem _ (mem_valuesOfItems.2 ⟨v, hv, ih v hv hw⟩)
  | object members ih =>
      rcases List.mem_cons.1 hw with rfl | hw
      · exact hu
      · obtain ⟨x, hx, hw⟩ := mem_valuesOfMembers.1 hw
        exact List.mem_cons_of_mem _ (mem_valuesOfMembers.2 ⟨x, hx, ih x hx hw⟩)

end SchemaGate.Json
