import Mathlib.Data.List.Basic
import SchemaGate.Module.Basic

/-!
# `SchemaGate.Proofs.Module.Checks`: when a module is generated

A request can have several faults at once. `findings` lists what every check finds by itself, in the
order of precedence, and says it of the names as they were asked for; `checkedTypeNames_eq` says
that the checks stop at the first fault of this list. So `generate` succeeds exactly if the document
and the options pass all checks (`Accepts`), and then the module has the types that were asked for
and the text of its parts (`generate_eq_ok_iff`).

What the checks promise to the parts is that no name and no path can be mistaken for the text around
it: identifiers consist of characters that no punctuation has (`notMem_of_isIdentifier`), and the
path has neither a quote nor a line break.
-/

set_option autoImplicit false

namespace SchemaGate

/-! ### Types to validate -/

namespace GenerationOptions

/-- A name is kept exactly if it is on the list and not among the names that were seen before the
list. -/
theorem mem_distinct_iff {seen names : List String} {name : String} :
    name ∈ distinct seen names ↔ name ∈ names ∧ name ∉ seen := by
  induction names generalizing seen with
  | nil => simp [distinct]
  | cons first rest ih =>
      rw [distinct]
      split
      · next hseen =>
        have hmem : first ∈ seen := by simpa using hseen
        rw [ih, List.mem_cons]
        constructor
        · rintro ⟨hrest, hnot⟩
          exact ⟨.inr hrest, hnot⟩
        · rintro ⟨rfl | hrest, hnot⟩
          · exact absurd hmem hnot
          · exact ⟨hrest, hnot⟩
      · next hnew =>
        have hnot : first ∉ seen := by simpa using hnew
        rw [List.mem_cons, ih, List.mem_cons, List.mem_cons, not_or]
        constructor
        · rintro (rfl | ⟨hrest, -, hname⟩)
          · exact ⟨.inl rfl, hnot⟩
          · exact ⟨.inr hrest, hname⟩
        · rintro ⟨rfl | hrest, hname⟩
          · exact .inl rfl
          · by_cases heq : name = first
            · exact .inl heq
            · exact .inr ⟨hrest, heq, hname⟩

/-- No name is kept twice, whichever names were seen before the list. -/
theorem nodup_distinct (seen names : List String) : (distinct seen names).Nodup := by
  induction names generalizing seen with
  | nil => exact .nil
  | cons first rest ih =>
      rw [distinct]
      split
      · exact ih seen
      · -- What is kept behind the first name is another one.
        exact List.nodup_cons.2
          ⟨fun hmem => (mem_distinct_iff.1 hmem).2 List.mem_cons_self, ih (first :: seen)⟩

/-- No type has two validators in a module, even if it was asked for several times. -/
theorem nodup_uniqueTypeNames (o : GenerationOptions) : o.uniqueTypeNames.Nodup :=
  nodup_distinct [] o.typeNames

/-- The types that a module has validators for are exactly those that were asked for. -/
theorem mem_uniqueTypeNames_iff {o : GenerationOptions} {name : String} :
    name ∈ o.uniqueTypeNames ↔ name ∈ o.typeNames := by
  rw [uniqueTypeNames, mem_distinct_iff]
  simp

/-- Names are kept in the order in which they first come up on the list. -/
theorem pairwise_idxOf_distinct (seen names : List String) :
    (distinct seen names).Pairwise fun a b => names.idxOf a < names.idxOf b := by
  -- Behind the first name, places count one more.
  have hlater : ∀ {first : String} {rest kept : List String}, first ∉ kept →
      kept.Pairwise (fun a b => rest.idxOf a < rest.idxOf b) →
      kept.Pairwise fun a b => (first :: rest).idxOf a < (first :: rest).idxOf b := by
    intro first rest kept hfirst hkept
    refine hkept.imp_of_mem fun {a b} ha hb hlt => ?_
    rw [List.idxOf_cons_ne _ fun heq : first = a => hfirst (heq ▸ ha),
      List.idxOf_cons_ne _ fun heq : first = b => hfirst (heq ▸ hb)]
    exact Nat.succ_lt_succ hlt
  induction names generalizing seen with
  | nil => exact .nil
  | cons first rest ih =>
      rw [distinct]
      split
      · next hseen =>
        exact hlater (fun hmem => (mem_distinct_iff.1 hmem).2 (by simpa using hseen)) (ih seen)
      · have hfirst : first ∉ distinct (first :: seen) rest := fun hmem =>
          (mem_distinct_iff.1 hmem).2 List.mem_cons_self
        refine List.pairwise_cons.2 ⟨fun b hb => ?_, hlater hfirst (ih (first :: seen))⟩
        rw [List.idxOf_cons_self, List.idxOf_cons_ne _ fun heq : first = b => hfirst (heq ▸ hb)]
        exact Nat.succ_pos _

/-- The first name of the list with a property is also the first one kept with it, provided that no
name seen before has the property. -/
theorem find?_distinct {p : String → Bool} {seen : List String} (names : List String)
    (h : ∀ name ∈ seen, p name = false) : (distinct seen names).find? p = names.find? p := by
  induction names generalizing seen with
  | nil => rfl
  | cons first rest ih =>
      rw [distinct]
      split
      · next hseen =>
        rw [ih h, List.find?_cons_of_neg (by simp [h first (by simpa using hseen)])]
      · cases hp : p first with
        | true => rw [List.find?_cons_of_pos hp, List.find?_cons_of_pos hp]
        | false =>
            rw [List.find?_cons_of_neg (by simp [hp]), List.find?_cons_of_neg (by simp [hp])]
            exact ih (List.forall_mem_cons.2 ⟨hp, h⟩)

/-- There is no type to validate exactly if none was asked for. -/
theorem isEmpty_uniqueTypeNames_iff {o : GenerationOptions} :
    o.uniqueTypeNames.isEmpty = true ↔ o.typeNames = [] := by
  rw [List.isEmpty_iff, List.eq_nil_iff_forall_not_mem, List.eq_nil_iff_forall_not_mem]
  simp only [mem_uniqueTypeNames_iff]

/-- There are several types to validate exactly if two different ones were asked for, so asking
twice for one type is not enough. -/
theorem one_lt_length_uniqueTypeNames_iff {o : GenerationOptions} :
    o.uniqueTypeNames.length > 1 ↔ ∃ a ∈ o.typeNames, ∃ b ∈ o.typeNames, a ≠ b := by
  simp only [← mem_uniqueTypeNames_iff]
  have hnodup := o.nodup_uniqueTypeNames
  match o.uniqueTypeNames, hnodup with
  | [], _ => simp
  | [name], _ => simp
  | a :: b :: rest, hnodup =>
      have hne : a ≠ b := fun heq => (List.nodup_cons.1 hnodup).1 (heq ▸ List.mem_cons_self)
      exact iff_of_true (by simp) ⟨a, by simp, b, by simp, hne⟩

end GenerationOptions

namespace Module

/-! ### Faults in order -/

/-- What each check of a request for a module finds, in the order of precedence, whatever the others
find. -/
def findings (d : Document) (o : GenerationOptions) : List (Option GenerationFault) :=
  [if o.typeNames = [] then some .missingTypeNames else none,
    if o.importPath.toList.all Text.isBlank then some .missingImportPath else none,
    if o.importPath.toList.any ['\'', '\\', '\n', '\r'].contains then
      some (.invalidImportPath o.importPath)
    else none,
    (o.typeNames.find? fun name => !isIdentifier name).map .invalidTypeName,
    if d.shape = .single ∧ ∃ a ∈ o.typeNames, ∃ b ∈ o.typeNames, a ≠ b then
      some (.ambiguousSingleType o.uniqueTypeNames)
    else none,
    if d.shape = .single ∧ o.emitsHttp = true then some .httpRequiresDefinitions else none,
    if d.shape = .multi then
      (o.typeNames.find? fun name => (d.definition? name).isNone).map
        (.unknownType · d.definitionNames)
    else none]

/-- The characters that cannot stand between quotes are the quote itself, the backslash, and the two
that break a line. -/
theorem breaksQuotes_eq : breaksQuotes = ['\'', '\\', '\n', '\r'].contains := by
  funext c
  simp only [breaksQuotes, List.contains_cons, List.contains_nil, Bool.or_false, Bool.or_assoc]

/-- The checks of a request stop at the first one that finds a fault. If none does, they hand back
the names to validate. -/
theorem checkedTypeNames_eq (d : Document) (o : GenerationOptions) :
    checkedTypeNames d o = match (findings d o).findSome? id with
      | none => .ok o.uniqueTypeNames
      | some fault => .error fault := by
  have hidentifiers : o.uniqueTypeNames.find? (fun name => !isIdentifier name)
      = o.typeNames.find? fun name => !isIdentifier name :=
    GenerationOptions.find?_distinct _ (List.forall_mem_nil _)
  have hdefined : o.uniqueTypeNames.find? (fun name => (d.definition? name).isNone)
      = o.typeNames.find? fun name => (d.definition? name).isNone :=
    GenerationOptions.find?_distinct _ (List.forall_mem_nil _)
  simp only [checkedTypeNames, findings, bind, Except.bind, pure, Except.pure, throw, throwThe,
    MonadExceptOf.throw, GenerationOptions.isEmpty_uniqueTypeNames_iff, Text.allBlank,
    breaksQuotes_eq, GenerationOptions.one_lt_length_uniqueTypeNames_iff, hidentifiers, hdefined]
  -- One check after the other either ends both sides or drops out of them.
  by_cases hnamed : o.typeNames = []
  · rw [if_pos hnamed, if_pos hnamed]
    rfl
  rw [if_neg hnamed, if_neg hnamed]
  by_cases hblank : o.importPath.toList.all Text.isBlank = true
  · rw [if_pos hblank, if_pos hblank]
    rfl
  rw [if_neg hblank, if_neg hblank]
  by_cases hquotes : o.importPath.toList.any ['\'', '\\', '\n', '\r'].contains = true
  · rw [if_pos hquotes, if_pos hquotes]
    rfl
  rw [if_neg hquotes, if_neg hquotes]
  cases o.typeNames.find? fun name => !isIdentifier name with
  | some name => rfl
  | none =>
      cases hshape : d.shape with
      | single =>
          by_cases hdifferent : ∃ a ∈ o.typeNames, ∃ b ∈ o.typeNames, a ≠ b
          · simp [hdifferent]
          · cases hhttp : o.emitsHttp <;> simp [hdifferent]
      | multi =>
          cases o.typeNames.find? fun name => (d.definition? name).isNone <;> rfl

/-- What a generation requires of a document and of the options, in the order in which it is
checked. The fields speak of the names to validate, so each name counts once. -/
structure Accepts (d : Document) (o : GenerationOptions) : Prop where
  /-- There is at least one type to validate. -/
  named : o.uniqueTypeNames ≠ []
  /-- There is a path to import the types from, and it is not blank. -/
  pathGiven : Text.allBlank o.importPath = false
  /-- The path fits between single quotes as it is written. -/
  pathFits : o.importPath.toList.any breaksQuotes = false
  /-- All types have identifiers as their names. -/
  identifiers : ∀ name ∈ o.uniqueTypeNames, isIdentifier name = true
  /-- A document for one type validates one type, and has no helpers for requests. -/
  single : d.shape = .single → (∃ name, o.uniqueTypeNames = [name]) ∧ o.emitsHttp = false
  /-- A document for several types defines all those to validate. -/
  multi : d.shape = .multi → ∀ name ∈ o.uniqueTypeNames, (d.definition? name).isSome = true

/-- That no check finds anything, written out for the names as they were asked for, in the order of
the checks. -/
theorem findSome?_findings_eq_none_iff {d : Document} {o : GenerationOptions} :
    (findings d o).findSome? id = none ↔ o.typeNames ≠ [] ∧ Text.allBlank o.importPath = false ∧
      o.importPath.toList.any breaksQuotes = false ∧
      (∀ name ∈ o.typeNames, isIdentifier name = true) ∧
      ¬ (d.shape = .single ∧ ∃ a ∈ o.typeNames, ∃ b ∈ o.typeNames, a ≠ b) ∧
      ¬ (d.shape = .single ∧ o.emitsHttp = true) ∧
      (d.shape = .multi → ∀ name ∈ o.typeNames, (d.definition? name).isSome = true) := by
  rw [List.findSome?_eq_none_iff, findings]
  simp only [← breaksQuotes_eq, Text.allBlank, List.forall_mem_cons, List.not_mem_nil,
    IsEmpty.forall_iff, implies_true, and_true, id, ite_eq_right_iff, reduceCtorEq, imp_false,
    Option.map_eq_none_iff, List.find?_eq_none, Bool.not_eq_true, Bool.not_eq_true',
    Bool.not_eq_false, Option.isNone_eq_false_iff, ne_eq]

/-- A document and options meet all the requirements of a generation exactly if no check finds
anything. -/
theorem accepts_iff {d : Document} {o : GenerationOptions} :
    Accepts d o ↔ (findings d o).findSome? id = none := by
  have hnamed : o.uniqueTypeNames ≠ [] ↔ o.typeNames ≠ [] := by
    refine not_congr ?_
    rw [← List.isEmpty_iff, GenerationOptions.isEmpty_uniqueTypeNames_iff]
  -- Some names, and no different ones among them, are a single name.
  have hone (hne : o.uniqueTypeNames ≠ []) : (∃ name, o.uniqueTypeNames = [name]) ↔
      ¬ ∃ a ∈ o.typeNames, ∃ b ∈ o.typeNames, a ≠ b := by
    have hpos := List.length_pos_iff.2 hne
    rw [← List.length_eq_one_iff, ← GenerationOptions.one_lt_length_uniqueTypeNames_iff]
    omega
  rw [findSome?_findings_eq_none_iff, ← hnamed]
  simp only [← GenerationOptions.mem_uniqueTypeNames_iff (o := o)] at hone ⊢
  constructor
  · intro h
    exact ⟨h.named, h.pathGiven, h.pathFits, h.identifiers,
      fun ⟨hshape, hdifferent⟩ => (hone h.named).1 (h.single hshape).1 hdifferent,
      fun ⟨hshape, hhttp⟩ => Bool.eq_false_iff.1 (h.single hshape).2 hhttp, h.multi⟩
  · rintro ⟨hne, hgiven, hfits, hidentifiers, hdifferent, hhttp, hdefined⟩
    exact ⟨hne, hgiven, hfits, hidentifiers, fun hshape =>
      ⟨(hone hne).2 fun h => hdifferent ⟨hshape, h⟩,
        Bool.eq_false_iff.2 fun h => hhttp ⟨hshape, h⟩⟩, hdefined⟩

/-- The checks pass exactly if all the requirements are met, and they hand back the names to
validate. -/
theorem checkedTypeNames_eq_ok_iff {d : Document} {o : GenerationOptions} {names : List String} :
    checkedTypeNames d o = .ok names ↔ Accepts d o ∧ names = o.uniqueTypeNames := by
  rw [checkedTypeNames_eq, accepts_iff]
  cases (findings d o).findSome? id with
  | none => simp [eq_comm]
  | some fault => simp

/-- A module is generated exactly if all the requirements are met. It has the shape of the document,
the names to validate, and the text that is put together from the parts. -/
theorem generate_eq_ok_iff {d : Document} {o : GenerationOptions} {a : Artifact} :
    generate d o = .ok a ↔ Accepts d o ∧
      a = ⟨d.shape, o.uniqueTypeNames, lines (parts d o o.uniqueTypeNames) ++ "\n"⟩ := by
  unfold generate
  constructor
  · intro h
    cases hnames : checkedTypeNames d o with
    | error fault => rw [hnames] at h; cases h
    | ok names =>
        rw [hnames] at h
        cases h
        obtain ⟨haccepts, rfl⟩ := checkedTypeNames_eq_ok_iff.1 hnames
        exact ⟨haccepts, rfl⟩
  · rintro ⟨h, rfl⟩
    rw [checkedTypeNames_eq_ok_iff.2 ⟨h, rfl⟩]
    rfl

/-- A generation is refused with a certain fault exactly if this is the first one that the checks
find. -/
theorem generate_eq_error_iff {d : Document} {o : GenerationOptions} {fault : GenerationFault} :
    generate d o = .error fault ↔ (findings d o).findSome? id = some fault := by
  rw [generate, checkedTypeNames_eq]
  cases (findings d o).findSome? id with
  | none => exact ⟨fun h => (by cases h), fun h => (by cases h)⟩
  | some other =>
      show Except.error other = .error fault ↔ _
      rw [Except.error.injEq, Option.some.injEq]

/-- A module is generated exactly if no check finds anything, so nothing else can go wrong. -/
theorem exists_generate_iff {d : Document} {o : GenerationOptions} :
    (∃ a, generate d o = .ok a) ↔ (findings d o).findSome? id = none := by
  rw [← accepts_iff]
  refine ⟨fun ⟨a, ha⟩ => (generate_eq_ok_iff.1 ha).1, fun h => ⟨_, generate_eq_ok_iff.2 ⟨h, rfl⟩⟩⟩

/-! ### Characters that no name has -/

/-- Every character of an identifier is one that may continue an identifier, the first one as
well. -/
theorem continuesIdentifier_of_mem {name : String} (h : isIdentifier name = true) {c : Char}
    (hc : c ∈ name.toList) : continuesIdentifier c = true := by
  unfold isIdentifier at h
  split at h
  · cases h
  · next first rest heq =>
    obtain ⟨hfirst, hrest⟩ := Bool.and_eq_true_iff.1 h
    rw [heq] at hc
    rcases List.mem_cons.1 hc with rfl | hc
    · -- What may start an identifier may also continue one.
      rw [continuesIdentifier, hfirst, Bool.true_or]
    · exact List.all_eq_true.1 hrest c hc

/-- The punctuation that the text of a module puts around names: where a name is read back from the
text, one of these ends it. -/
def punctuation : List Char := [' ', ',', '\'', '\n', '\x7b', '\x7d', '<', '(']

/-- None of the punctuation is a character that may continue an identifier. -/
theorem continuesIdentifier_punctuation : punctuation.any continuesIdentifier = false := by
  decide +kernel

/-- No punctuation is in an identifier, so the name of a type that passed the checks can be read
back from the text. -/
theorem notMem_of_isIdentifier {name : String} (h : isIdentifier name = true) {c : Char}
    (hc : c ∈ punctuation) : c ∉ name.toList := by
  intro hmem
  have hcontinues := continuesIdentifier_of_mem h hmem
  exact List.any_eq_false.1 continuesIdentifier_punctuation c hc hcontinues

end Module

end SchemaGate
