import SchemaGate.Document

/-!
# `SchemaGate.Proofs.Engine.RegistryKey`: which keys coincide

A registry key is a plain concatenation, so two of them can be the same text. The lemmas read an
equation of keys from its right-hand end: no field name ends another after a slash, so two keys of
request fields are equal only for one type and one field (`registryKey_field_inj`), and the key of a
field can only coincide with the key of a type whose name ends in that field's path
(`registryKey_none_eq_field_iff`). Such a type lies behind the type of the field in the order of
names (`lt_fieldPath`). No key is the key of the root (`registryKey_ne_rootKey`).

`registryKey_eq_iff` has all coincidences of two keys. One of the two names spells a path then, so
names without a slash are safe.
-/

set_option autoImplicit false

namespace SchemaGate

/-- The text that the key of a request field has behind the key of its type. -/
def RequestField.path (f : RequestField) : String := "/properties/" ++ f.name

/-- The key of a request field is the key that a type would have if it were called like the type of
the field with the path of the field behind it. -/
theorem registryKey_field (t : String) (f : RequestField) :
    registryKey t (some f) = registryKey (t ++ f.path) none := by
  simp only [registryKey, RequestField.path, String.append_assoc]

/-- The keys of two types are equal exactly if the types have the same name. -/
theorem registryKey_none_inj {t u : String} :
    registryKey t none = registryKey u none ↔ t = u :=
  String.append_right_inj _

/-- A name with the path of a field behind it determines both: the last letters tell the fields
apart, and behind one field the names are what is left. -/
theorem append_path_inj {t u : String} {f g : RequestField} :
    t ++ f.path = u ++ g.path ↔ t = u ∧ f = g := by
  constructor
  · intro h
    -- Read from the end, two different fields part before their slash.
    have hr : (t ++ f.path).toList.reverse = (u ++ g.path).toList.reverse :=
      congrArg (fun s : String => s.toList.reverse) h
    cases f <;> cases g <;>
      simp [RequestField.path, RequestField.name, String.toList_inj] at hr ⊢
    all_goals exact hr
  · rintro ⟨rfl, rfl⟩
    rfl

/-- The keys of two request fields are equal exactly if the fields are the same and their types have
the same name. -/
theorem registryKey_field_inj {t u : String} {f g : RequestField} :
    registryKey t (some f) = registryKey u (some g) ↔ t = u ∧ f = g := by
  rw [registryKey_field, registryKey_field, registryKey_none_inj, append_path_inj]

/-- The key of a type is the key of a request field exactly if the name of the type spells the path
of that field. -/
theorem registryKey_none_eq_field_iff {t u : String} {f : RequestField} :
    registryKey u none = registryKey t (some f) ↔ u = t ++ f.path := by
  rw [registryKey_field, registryKey_none_inj]

/-- Keys coincide if they are of the same type or field, or if one is of a field and the other of a
type whose name spells the path of that field. -/
theorem registryKey_inj_or_path {t u : String} {f g : Option RequestField} :
    registryKey t f = registryKey u g ↔
      t = u ∧ f = g ∨
      (∃ g', f = none ∧ g = some g' ∧ t = u ++ g'.path) ∨
      (∃ f', f = some f' ∧ g = none ∧ u = t ++ f'.path) := by
  cases f with
  | none =>
      cases g with
      | none => simp [registryKey_none_inj]
      | some g => simp [registryKey_none_eq_field_iff]
  | some f =>
      cases g with
      | none =>
          rw [eq_comm (a := registryKey t (some f))]
          simp [registryKey_none_eq_field_iff]
      | some g => simp [registryKey_field_inj]

/-- No key of a type or a field is the key of the root. -/
theorem registryKey_ne_rootKey (t : String) (f : Option RequestField) :
    registryKey t f ≠ rootKey := by
  have hne : ∀ u : String, registryKey u none ≠ rootKey := by
    intro u h
    -- The key of a type is longer than the root's by more than the path to the types.
    have hl := congrArg String.length h
    simp only [registryKey, String.length_append] at hl
    have : "#/definitions/".length = 14 := by decide
    omega
  cases f with
  | none => exact hne t
  | some f => rw [registryKey_field]; exact hne _

/-- A name lies in front of the same name with the path of a field behind it, because the former
begins the latter. -/
theorem lt_fieldPath (t : String) (f : RequestField) : t < t ++ f.path := by
  have hne : [] < f.path.toList := by cases f <;> decide
  have h : t.toList ++ [] < t.toList ++ f.path.toList := List.append_left_lt hne
  rw [String.lt_iff, String.toList_append]
  simpa using h

/-- A name with the path of a field behind it has a slash, so names without a slash spell no such
path. -/
theorem slash_mem_fieldPath (t : String) (f : RequestField) : '/' ∈ (t ++ f.path).toList := by
  rw [String.toList_append, RequestField.path, String.toList_append]
  exact List.mem_append_right _ List.mem_cons_self

/-- If the names of two types have no slash, then neither spells the path of a field, and equal keys
are of the same type and the same field. -/
theorem registryKey_inj_of_notMem {t u : String} {f g : Option RequestField}
    (ht : '/' ∉ t.toList) (hu : '/' ∉ u.toList) (h : registryKey t f = registryKey u g) :
    t = u ∧ f = g := by
  rcases registryKey_inj_or_path.1 h with h | ⟨g', -, -, rfl⟩ | ⟨f', -, -, rfl⟩
  · exact h
  · exact absurd (slash_mem_fieldPath u g') ht
  · exact absurd (slash_mem_fieldPath t f') hu

/-- Which keys coincide, for all names of types and with or without a field:

- two keys are the same text exactly if they are of the same type and field, or if one is of a
  field and the other of a type called like the type of the field with `/properties/` and the name
  of the field behind it;
- no key is that of the root;
- keys of names without a slash are the same only for the same type and field;
- keys of two fields are the same only for the same type and field, whatever their types are
  called. -/
theorem registryKey_eq_iff (t u : String) (f g : Option RequestField) :
    (registryKey t f = registryKey u g ↔
      t = u ∧ f = g ∨
      (∃ g', f = none ∧ g = some g' ∧ t = u ++ "/properties/" ++ g'.name) ∨
      (∃ f', f = some f' ∧ g = none ∧ u = t ++ "/properties/" ++ f'.name)) ∧
    registryKey t f ≠ "Schema" ∧
    ('/' ∉ t.toList → '/' ∉ u.toList → registryKey t f = registryKey u g → t = u ∧ f = g) ∧
    ∀ f' g', registryKey t (some f') = registryKey u (some g') → t = u ∧ f' = g' := by
  refine ⟨?_, registryKey_ne_rootKey t f, registryKey_inj_of_notMem,
    fun f' g' => registryKey_field_inj.1⟩
  simp only [registryKey_inj_or_path, RequestField.path, String.append_assoc]

/-- A name that spells two paths has the key of the last field only, and names without a slash have
keys of their own. -/
theorem registryKey_eq_iff_twoPaths :
    registryKey "A/properties/body/properties/query" none
      = registryKey "A/properties/body" (some .query) ∧
    registryKey "A/properties/body/properties/query" none ≠ registryKey "A" (some .body) ∧
    ('/' ∉ "A".toList ∧ '/' ∉ "B".toList ∧
      registryKey "A" (some .body) ≠ registryKey "B" none) := by
  have hA : '/' ∉ "A".toList := by decide
  have hB : '/' ∉ "B".toList := by decide
  obtain ⟨hiff, -⟩ := registryKey_eq_iff "A/properties/body/properties/query" "A/properties/body"
    none (some .query)
  obtain ⟨hother, -⟩ := registryKey_eq_iff "A/properties/body/properties/query" "A" none
    (some .body)
  obtain ⟨-, -, hplain, -⟩ := registryKey_eq_iff "A" "B" (some .body) none
  refine ⟨hiff.2 (.inr (.inl ⟨.query, rfl, rfl, by decide⟩)), fun h => ?_, hA, hB, fun h => ?_⟩
  · rcases hother.1 h with ⟨-, hfield⟩ | ⟨g', -, hfield, hname⟩ | ⟨f', hfield, -, -⟩
    · cases hfield
    · cases hfield
      exact absurd hname (by decide)
    · cases hfield
  · exact absurd (hplain hA hB h).1 (by decide)

end SchemaGate
