import SchemaGate.Predicate
import SchemaGate.Proofs.Report
import SchemaGate.Schema.Agreement

/-!
# `SchemaGate.Proofs.Predicate`: what a predicate reports

A predicate reports records exactly against the values that it does not accept
(`Predicate.isEmpty_check`), and reporting the first one only means the first of them all
(`Predicate.check_reporting_false`).

The keyword of a record is the one that its cause names by its kind, or else the last segment of a
path through the schema. Such a path goes through names that the author of the schema chose, and may
end in any of them, `if` too. It never does so where it counts: two kinds of causes name no keyword,
and their paths are known (`Cause.keywordAt_eq`). So no record has the keyword of conditionals
(`Cause.keyword_ne_conditional`), and leaving out those that have it leaves out nothing
(`Predicate.withoutConditional_check`).
-/

set_option autoImplicit false

namespace SchemaGate

/-! ### Keywords -/

namespace Cause

/-- A cause that names a keyword by its kind has this keyword wherever the schema with the rule
stands, whatever the path to the rule ends in. -/
theorem keywordAt_of_kindKeyword? {c : Cause} {k : String} (h : c.kindKeyword? = some k)
    (place : Pointer) : c.keywordAt place = k := by
  rw [keywordAt, h]
  rfl

/-- The keyword of a cause does not depend on where the schema with the rule stands. Most kinds of
causes name it; the path to an undecided pattern ends at its keyword, and the one to content that is
no text is empty. -/
theorem keywordAt_eq (place : Pointer) (c : Cause) : c.keywordAt place = c.keyword := by
  cases hkind : c.kindKeyword? with
  | some k =>
      rw [keyword, keywordAt_of_kindKeyword? hkind, keywordAt_of_kindKeyword? hkind]
  | none =>
      cases c with
      | undecidedPattern =>
          have hlast : ∀ p : Pointer, keywordAt p .undecidedPattern
              = String.ofList (Pointer.escape "pattern".toList) :=
            fun p => Pointer.lastSegment_write p "pattern"
          exact (hlast place).trans (hlast []).symm
      | notText fault => rfl
      | _ => cases hkind

/-- No cause names the keyword of conditionals by its kind: choosing a branch is no rule, so there
is no kind of cause for it. -/
theorem kindKeyword?_ne_conditional (c : Cause) :
    c.kindKeyword? ≠ some Report.conditionalKeyword := by
  cases c <;> simp [kindKeyword?, Report.conditionalKeyword]

/-- No cause has the keyword of conditionals, neither by its kind nor by the path to the rule. The
two kinds without a keyword of their own are looked at one by one, because a path could end in any
text. -/
theorem keyword_ne_conditional (c : Cause) : c.keyword ≠ Report.conditionalKeyword := by
  intro h
  cases hkind : c.kindKeyword? with
  | some k =>
      rw [keyword, keywordAt_of_kindKeyword? hkind] at h
      exact c.kindKeyword?_ne_conditional (hkind.trans (congrArg some h))
  | none =>
      -- What is left is read off the path to the rule.
      cases c with
      | undecidedPattern => exact absurd h (by decide)
      | notText fault =>
          have hlast : Pointer.lastSegment "" = Report.conditionalKeyword := h
          exact absurd hlast (by decide)
      | _ => cases hkind

end Cause

/-! ### Records -/

/-- A schema accepts a value exactly if it finds no violation in it. The two answers come from two
traversals of the schema, which agree keyword by keyword (`Evaluator.agrees_full`). -/
theorem Schema.isEmpty_violations (s : Schema) (v : Json) :
    (s.violations v).isEmpty = s.accepts v :=
  Evaluator.agrees_full _ Evaluator.agrees_lenient _ _ _

namespace Predicate

/-- A predicate accepts a value exactly if there are no records against it, whether it reports all
violations or the first one only. -/
theorem isEmpty_check (p : Predicate) (v : Json) : (p.check v).isEmpty = p.isValid v := by
  rw [isValid, ← p.schema.isEmpty_violations v, check]
  cases p.allErrors <;> cases p.schema.violations v <;> rfl

/-- There are records against a value exactly if the predicate does not accept it, so every refusal
has something to show. -/
theorem check_ne_nil_iff {p : Predicate} {v : Json} :
    p.check v ≠ [] ↔ p.isValid v = false := by
  rw [← p.isEmpty_check v]
  cases p.check v <;> simp

/-- Every record that a predicate reports is the record of a violation that its schema finds, also
if only the first one is reported. -/
theorem exists_violation_of_mem_check {p : Predicate} {v : Json} {r : ErrorRecord}
    (h : r ∈ p.check v) : ∃ x ∈ p.schema.violations v, x.record = r := by
  have hmem : r ∈ (p.schema.violations v).map Violation.record := by
    rw [check] at h
    split at h
    · exact h
    · exact List.mem_of_mem_take h
  exact List.mem_map.1 hmem

/-- No record that a predicate reports has the keyword of conditionals, because no cause has it. -/
theorem keyword_ne_conditional {p : Predicate} {v : Json} {r : ErrorRecord} (h : r ∈ p.check v) :
    r.keyword ≠ Report.conditionalKeyword := by
  obtain ⟨x, -, rfl⟩ := exists_violation_of_mem_check h
  exact x.cause.keyword_ne_conditional

/-- Leaving out the records of conditionals leaves out none of the records that a predicate reports.
So the text of a refusal is made of all of them. -/
theorem withoutConditional_check (p : Predicate) (v : Json) :
    Report.withoutConditional (p.check v) = p.check v :=
  List.filter_eq_self.2 fun _ hr => bne_iff_ne.2 (keyword_ne_conditional hr)

/-- The predicate of the same schema with another decision how much is reported: every violation, or
the first one only. -/
def reporting (p : Predicate) (allErrors : Bool) : Predicate := { p with allErrors }

/-- A predicate that reports the first violation only reports the first record of those it would
report if it reported all of them, and nothing if there are none. -/
theorem check_reporting_false (p : Predicate) (v : Json) :
    (p.reporting false).check v = ((p.reporting true).check v).take 1 := rfl

end Predicate

end SchemaGate
