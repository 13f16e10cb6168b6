import SchemaGate.Json.Ordered
import SchemaGate.Proofs.Predicate
import SchemaGate.Proofs.Schema.Ending

/-!
# `SchemaGate.Proofs.Schema.Conformance`: what the schemas of schemas accept

A schema that is put together from parts of another one has to be accepted by the schema of schemas
again. Evaluating the schema of schemas on it would not help, because the parts are not known; but
much of what it asks can be read off its keywords.

`Registry.surely` runs through the keywords that are asked about a value of which only the outline
is known, a reference or a list with one: if it succeeds, every such value is accepted
(`Registry.accepts_of_surely`). `Registry.keeps` runs through the keywords that are asked about an
object: if it succeeds, they accept an object that takes some members over from one that they accept
and has a list with one reference besides (`Registry.accepts_of_keeps`). Both succeed on the schema
of schemas of every draft (`Schema.keeps_ofDraft`).
-/

set_option autoImplicit false

namespace SchemaGate

/-! ### Values inside, at any bound -/

namespace Evaluator

variable {σ : Type} {read : σ → List (Keyword σ)} {deeper : Evaluator σ} {budget : Json → Nat}

/-- The levels at a value ask the evaluator of the values inside about parts of this value only. So
two such evaluators with the same answers about the parts lead to the same answers about the
value. -/
theorem levels_congr {inside inside' : Evaluator σ} {v : Json}
    (h : ∀ w ∈ v.parts, ∀ s, inside.accepts s w = inside'.accepts s w ∧
      inside.violations s w = inside'.violations s w) (n : Nat) {s : σ} {q : Question σ}
    (hq : q ∈ Question.ofSite v s) :
    (levels read inside deeper v.depth n).SameAt (levels read inside' deeper v.depth n) q := by
  induction n generalizing s q with
  | zero => cases q <;> rfl
  | succ n ih =>
      have hpart : ∀ w ∈ v.parts, w.depth < v.depth := fun w hw => Json.depth_lt_of_mem_parts hw
      have hself : ¬ v.depth < v.depth := Nat.lt_irrefl _
      refine step_sameAt_of_agreesOn ?_ hq
      constructor
      case accepts =>
        intro s hs w hw
        simp only [byValue]
        rcases List.mem_cons.1 hw with rfl | hw
        · rw [if_neg hself, if_neg hself]
          exact ih (Question.mem_ofSite.2 (.inl rfl))
        · rw [if_pos (hpart w hw), if_pos (hpart w hw)]
          exact (h w hw s).1
      case violations =>
        intro s hs w hw
        simp only [byValue]
        rcases List.mem_cons.1 hw with rfl | hw
        · rw [if_neg hself, if_neg hself]
          exact ih (Question.mem_ofSite.2 (.inr (.inl rfl)))
        · rw [if_pos (hpart w hw), if_pos (hpart w hw)]
          exact (h w hw s).2
      case coversProperty =>
        intro s hs x hx
        simp only [byValue]
        rw [if_neg hself, if_neg hself]
        exact ih (Question.mem_ofSite.2 (.inr (.inr (.inl ⟨x, hx, rfl⟩))))
      case coversItem =>
        intro s hs x hx
        simp only [byValue]
        rw [if_neg hself, if_neg hself]
        exact ih (Question.mem_ofSite.2 (.inr (.inr (.inr ⟨x, hx, rfl⟩))))

/-- The bound on the depth of values does not matter as long as it exceeds the depth of the value:
the answers with one bound are those with any other. -/
theorem within_eq (b b' : Nat) {v : Json} (hb : v.depth < b) (hb' : v.depth < b') (s : σ) :
    (within read deeper budget b).accepts s v = (within read deeper budget b').accepts s v ∧
      (within read deeper budget b).violations s v
        = (within read deeper budget b').violations s v := by
  induction b generalizing b' v s with
  | zero => exact absurd hb (Nat.not_lt_zero _)
  | succ b ih =>
      cases b' with
      | zero => exact absurd hb' (Nat.not_lt_zero _)
      | succ b' =>
          have hparts : ∀ w ∈ v.parts, ∀ s,
              (within read deeper budget b).accepts s w
                = (within read deeper budget b').accepts s w ∧
              (within read deeper budget b).violations s w
                = (within read deeper budget b').violations s w := by
            intro w hw s
            have hdepth := Json.depth_lt_of_mem_parts hw
            exact ih b' (by omega) (by omega) s
          exact ⟨levels_congr hparts (budget v) (Question.mem_ofSite.2 (.inl rfl)),
            levels_congr hparts (budget v) (Question.mem_ofSite.2 (.inr (.inl rfl)))⟩

end Evaluator

/-! ### Values known in outline -/

/-- What is known of a value when the schema of schemas meets it: it is a text, a schema that
consists of one reference, or a list with one such schema. The text itself is left open. -/
inductive Outline
  | text
  | reference
  | references

namespace Outline

/-- The value of an outline for a text, which is the reference. -/
def value (reference : String) : Outline → Json
  | .text => .string reference
  | .reference => .object [("$ref", .string reference)]
  | .references => .array [.object [("$ref", .string reference)]]

/-- Whether a rule holds of every value of an outline whose text is a URI reference. It says so only
for the rules that the schemas of schemas have at such places, and no for all others. -/
def admits : Outline → Assertion → Bool
  | .text, .type _ types => types.contains .string
  | .text, .format f => f == .uriReference
  | .reference, .type _ types => types.contains .object
  | .references, .type _ types => types.contains .array
  | .references, .minItems n => n ≤ 1
  | _, _ => false

/-- A rule that an outline admits holds of all of its values, if the text in them is a URI
reference. -/
theorem holds_of_admits {o : Outline} {a : Assertion} (h : o.admits a = true) {text : String}
    (htext : Format.isUriReference text = true) : a.holds (o.value text) = true := by
  have htype : ∀ (strict : Bool) (types : List JsonType) (t : JsonType) (v : Json),
      types.contains t = true → v.hasType strict t = true →
      (Assertion.type strict types).holds v = true := by
    intro strict types t v hcontains hv
    exact List.any_eq_true.2 ⟨t, List.contains_iff_mem.1 hcontains, hv⟩
  cases o with
  | text =>
      cases a with
      | type strict types => exact htype strict types .string _ h rfl
      | format f =>
          rw [eq_of_beq (show (f == .uriReference) = true from h)]
          exact htext
      | _ => cases h
  | reference =>
      cases a with
      | type strict types => exact htype strict types .object _ h rfl
      | _ => cases h
  | references =>
      cases a with
      | type strict types => exact htype strict types .array _ h rfl
      | minItems n => exact h
      | _ => cases h

end Outline

namespace Registry

/-- Whether it can be seen from the keywords of a schema that they accept every value of an outline.
References and branches are followed, through as many schemas in a row as the number says; what is
not understood counts as refusing. -/
def surely (r : Registry) : Nat → Outline → Site → Bool
  | 0, _, _ => false
  | n + 1, o, s => (r.readable s).all fun k =>
    match k with
    | .assertion a => o.admits a
    | .reference _ target => surely r n o target
    | .allOf branches => branches.all (surely r n o)
    | .properties entries =>
      match o with
      | .reference => entries.all fun (name, t) => name != "$ref" || surely r n .text t
      | _ => true
    | .dependencies entries =>
      match o with
      | .reference => entries.all fun (name, _) => name != "$ref"
      | _ => true
    | .itemsFrom _ body =>
      match o with
      | .references => surely r n .reference body
      | _ => true
    | _ => false

variable {r : Registry} {budget : Json → Nat} {text : String}

/-- The evaluator of values that stand inside another one, up to a bound on their depth. Two of
these with different bounds are compared here. -/
def insideOf (r : Registry) (budget : Json → Nat) (bound : Nat) : Evaluator Site :=
  Evaluator.within r.readable .lenient budget bound

/-- A number of levels at a value, over the evaluator of the values inside it. -/
def levelsAt (r : Registry) (budget : Json → Nat) (bound : Nat) (v : Json) (m : Nat) :
    Evaluator Site :=
  Evaluator.levels r.readable (insideOf r budget bound) .lenient v.depth m

/-- What is accepted at its own levels, whatever the bound and the number of levels are, is accepted
by the evaluator of values inside. -/
theorem accepts_insideOf {s : Site} {v : Json}
    (h : ∀ bound m, (levelsAt r budget bound v m).accepts s v = true) (bound : Nat) :
    (insideOf r budget bound).accepts s v = true := by
  cases bound with
  | zero => rfl
  | succ bound => exact h bound (budget v)

/-- The evaluator that the keywords of one level ask. It leaves the value itself to the levels
below, and all other values to the evaluator of the values inside. -/
def askedAt (r : Registry) (budget : Json → Nat) (bound : Nat) (v : Json) (m : Nat) :
    Evaluator Site :=
  Evaluator.byValue fun w =>
    if w.depth < v.depth then insideOf r budget bound else levelsAt r budget bound v m

/-- A question of a keyword about the value itself is left to the levels below. -/
theorem accepts_askedAt_self {bound m : Nat} (s : Site) (v : Json) :
    (askedAt r budget bound v m).accepts s v = (levelsAt r budget bound v m).accepts s v := by
  simp only [askedAt, Evaluator.byValue, if_neg (Nat.lt_irrefl _)]

/-- A question of a keyword about a part of the value, which is less deep, is left to the evaluator
of the values inside. -/
theorem accepts_askedAt_of_lt {bound m : Nat} (s : Site) {v w : Json} (h : w.depth < v.depth) :
    (askedAt r budget bound v m).accepts s w = (insideOf r budget bound).accepts s w := by
  simp only [askedAt, Evaluator.byValue, if_pos h]

/-- A level accepts a value exactly if each keyword of the schema does, asking the levels below and
the evaluator of the values inside. -/
theorem accepts_levelsAt_succ {bound m : Nat} {s : Site} {v : Json} :
    (levelsAt r budget bound v (m + 1)).accepts s v = true ↔
      ∀ k ∈ r.readable s,
        Keyword.accepts (askedAt r budget bound v m) (r.readable s) v k = true :=
  List.all_eq_true

/-- The step for one keyword. It accepts every value of an outline if this can be seen from it, as
long as the evaluator that it asks accepts the value itself and the values inside wherever the same
can be seen. -/
theorem accepts_keyword_of_surely (htext : Format.isUriReference text = true) {n : Nat}
    {o : Outline} {s : Site} (h : r.surely (n + 1) o s = true) {k : Keyword Site}
    (hk : k ∈ r.readable s) {e : Evaluator Site}
    (hsame : ∀ t, r.surely n o t = true → e.accepts t (o.value text) = true)
    (hinside : ∀ o' t, r.surely n o' t = true → (o'.value text).depth < (o.value text).depth →
      e.accepts t (o'.value text) = true) :
    Keyword.accepts e (r.readable s) (o.value text) k = true := by
  have hkeyword := List.all_eq_true.1 h k hk
  cases k with
  | assertion a => exact Outline.holds_of_admits hkeyword htext
  | reference _ target => exact hsame target hkeyword
  | allOf branches =>
      exact List.all_eq_true.2 fun t ht => hsame t (List.all_eq_true.1 hkeyword t ht)
  | properties entries =>
      cases o with
      | reference =>
          refine List.all_eq_true.2 ?_
          rintro ⟨name, t⟩ hentry
          have hname := List.all_eq_true.1 hkeyword _ hentry
          dsimp only
          rw [Members.lookup_cons_ite]
          by_cases heq : name = "$ref"
          · rw [if_pos heq]
            have ht : r.surely n .text t = true := by simpa [heq] using hname
            exact hinside .text t ht (Nat.zero_lt_one)
          · rw [if_neg heq]
            rfl
      | _ => rfl
  | dependencies entries =>
      cases o with
      | reference =>
          refine List.all_eq_true.2 ?_
          rintro ⟨name, d⟩ hentry
          have hname := List.all_eq_true.1 hkeyword _ hentry
          have heq : name ≠ "$ref" := by simpa using hname
          have hhas : Members.has [("$ref", Json.string text)] name = false := by
            rw [Members.has, Members.lookup_cons_ite, if_neg heq]
            rfl
          simp only [hhas, Bool.not_false, Bool.true_or]
      | _ => rfl
  | itemsFrom start body =>
      cases o with
      | references =>
          refine List.all_eq_true.2 fun x hx => ?_
          rw [List.mem_singleton.1 (List.mem_of_mem_drop hx)]
          exact hinside .reference body hkeyword (Nat.lt_succ_self 1)
      | _ => rfl
  | _ => cases hkeyword

/-- Every value of an outline is accepted, at any number of levels, if this can be seen from the
keywords. The induction is on the number of schemas in a row. -/
theorem accepts_of_surely (htext : Format.isUriReference text = true) (n : Nat) {o : Outline}
    {s : Site} (h : r.surely n o s = true) (bound m : Nat) :
    (levelsAt r budget bound (o.value text) m).accepts s (o.value text) = true := by
  induction n generalizing o s bound m with
  | zero => cases h
  | succ n ih =>
      cases m with
      | zero => rfl
      | succ m =>
          rw [accepts_levelsAt_succ]
          intro k hk
          refine accepts_keyword_of_surely htext h hk (fun t ht => ?_) fun o' t ht hdepth => ?_
          · rw [accepts_askedAt_self]
            exact ih ht bound m
          · rw [accepts_askedAt_of_lt t hdepth]
            exact accepts_insideOf (fun bound m => ih ht bound m) bound

/-! ### Objects that take members over -/

/-- What an object takes over from another one: any of a few members, with the same values. Besides,
it has a list with one reference under `allOf`, and nothing else. -/
structure TakesOver (text : String) (m m' : Members) : Prop where
  kept : ∀ name, name ≠ "allOf" → ∀ x, m'.lookup name = some x → m.lookup name = some x
  added : ∀ x, m'.lookup "allOf" = some x → x = Outline.references.value text
  names : ∀ name, Members.has m' name = true → name ∈ ["$schema", "allOf", "definitions"]

/-- Whether it can be seen from the keywords of a schema that it accepts every object that takes
members over from an object that it accepts. References and branches are followed, through as many
schemas in a row as the number says. -/
def keeps (r : Registry) : Nat → Site → Bool
  | 0, _ => false
  | n + 1, s => (r.readable s).all fun k =>
    match k with
    | .assertion (.type _ _) => true
    | .reference _ target => keeps r n target
    | .allOf branches => branches.all (keeps r n)
    | .properties entries =>
      entries.all fun (name, t) => name != "allOf" || surely r 8 .references t
    | .dependencies entries =>
      entries.all fun (name, _) => !(["$schema", "allOf", "definitions"].contains name)
    | _ => false

/-- The value of a member is less deep than the object that has the member. -/
theorem depth_lt_of_lookup {m : Members} {name : String} {x : Json}
    (h : m.lookup name = some x) : x.depth < (Json.object m).depth :=
  Json.depth_lt_of_mem_parts (Json.value_mem_parts (x := (name, x)) (Members.mem_of_lookup h))

/-- A member that was taken over is accepted as it was in the other object, although it is asked
about at another depth. The new member is accepted for its outline. -/
theorem accepts_member_of_takesOver (htext : Format.isUriReference text = true) {m m' : Members}
    (htakes : TakesOver text m m') {bound : Nat} (hbound : (Json.object m).depth ≤ bound)
    {bound' : Nat} (hbound' : (Json.object m').depth ≤ bound') {name : String} {t : Site}
    (hnew : name = "allOf" → r.surely 8 .references t = true) {i j : Nat}
    (hbefore : ∀ x, m.lookup name = some x →
      (askedAt r budget bound (.object m) i).accepts t x = true)
    {x : Json} (hx : m'.lookup name = some x) :
    (askedAt r budget bound' (.object m') j).accepts t x = true := by
  have hdepth := depth_lt_of_lookup hx
  rw [accepts_askedAt_of_lt t hdepth]
  by_cases hname : name = "allOf"
  · subst hname
    rw [htakes.added x hx]
    exact accepts_insideOf (fun bound j => accepts_of_surely htext 8 (hnew rfl) bound j) bound'
  · have hx' := htakes.kept name hname x hx
    have hdepth' := depth_lt_of_lookup hx'
    have hold := hbefore x hx'
    rw [accepts_askedAt_of_lt t hdepth'] at hold
    -- Both look at the member with levels enough for its depth.
    have hsame : (insideOf r budget bound).accepts t x = (insideOf r budget bound').accepts t x :=
      (Evaluator.within_eq bound bound' (by omega) (by omega) t).1
    exact hsame.symm.trans hold

/-- The step for one keyword. It accepts an object that takes members over from one that it accepts
if this can be seen from it, as long as the two evaluators that are asked accept the objects
themselves and their members alike wherever the same can be seen. -/
theorem accepts_keyword_of_keeps {m m' : Members} (htakes : TakesOver text m m') {n : Nat}
    {s : Site} (h : r.keeps (n + 1) s = true) {k : Keyword Site} (hk : k ∈ r.readable s)
    {e e' : Evaluator Site}
    (hsame : ∀ t, r.keeps n t = true → e.accepts t (.object m) = true →
      e'.accepts t (.object m') = true)
    (hmember : ∀ name t, (name = "allOf" → r.surely 8 .references t = true) →
      (∀ x, m.lookup name = some x → e.accepts t x = true) →
      ∀ x, m'.lookup name = some x → e'.accepts t x = true)
    (haccepts : Keyword.accepts e (r.readable s) (.object m) k = true) :
    Keyword.accepts e' (r.readable s) (.object m') k = true := by
  have hkeyword := List.all_eq_true.1 h k hk
  cases k with
  | assertion a =>
      cases a with
      | type strict types =>
          have htype : (Json.object m).hasType strict = (Json.object m').hasType strict := by
            funext t
            cases t <;> rfl
          show types.any ((Json.object m').hasType strict) = true
          rw [← htype]
          exact haccepts
      | _ => cases hkeyword
  | reference _ target => exact hsame target hkeyword haccepts
  | allOf branches =>
      refine List.all_eq_true.2 fun t ht => ?_
      exact hsame t (List.all_eq_true.1 hkeyword t ht) (List.all_eq_true.1 haccepts t ht)
  | properties entries =>
      refine List.all_eq_true.2 ?_
      rintro ⟨name, t⟩ hentry
      cases hx : m'.lookup name with
      | none => simp only [hx, Option.all_none]
      | some x =>
          have hnew : name = "allOf" → r.surely 8 .references t = true := by
            rintro rfl
            simpa using List.all_eq_true.1 hkeyword _ hentry
          have hbefore : ∀ x, m.lookup name = some x → e.accepts t x = true := by
            intro x hx
            have hold := List.all_eq_true.1 haccepts _ hentry
            simpa only [hx, Option.all_some] using hold
          simp only [hx, Option.all_some]
          exact hmember name t hnew hbefore x hx
  | dependencies entries =>
      refine List.all_eq_true.2 ?_
      rintro ⟨name, d⟩ hentry
      have hname : name ∉ ["$schema", "allOf", "definitions"] := by
        simpa using List.all_eq_true.1 hkeyword _ hentry
      have hhas : Members.has m' name = false := by
        rw [Bool.eq_false_iff]
        exact fun hhas => hname (htakes.names name hhas)
      simp only [hhas, Bool.not_false, Bool.true_or]
  | _ => cases hkeyword

/-- An object that takes members over from an accepted one is accepted, if this can be seen from the
keywords. The other object has to be accepted with at least as many levels as schemas were followed
in a row. -/
theorem accepts_of_keeps (htext : Format.isUriReference text = true) {m m' : Members}
    (htakes : TakesOver text m m') (n : Nat) {s : Site} (h : r.keeps n s = true)
    {bound : Nat} (hbound : (Json.object m).depth ≤ bound) {i : Nat} (hi : n ≤ i)
    (haccepts : (levelsAt r budget bound (.object m) i).accepts s (.object m) = true)
    {bound' : Nat} (hbound' : (Json.object m').depth ≤ bound') (j : Nat) :
    (levelsAt r budget bound' (.object m') j).accepts s (.object m') = true := by
  induction n generalizing s i j with
  | zero => cases h
  | succ n ih =>
      cases j with
      | zero => rfl
      | succ j =>
          obtain ⟨i, rfl⟩ : ∃ i', i = i' + 1 := ⟨i - 1, by omega⟩
          rw [accepts_levelsAt_succ] at haccepts ⊢
          intro k hk
          refine accepts_keyword_of_keeps htakes h hk (fun t ht hacc => ?_)
            (fun name t hnew hbefore x hx => ?_) (haccepts k hk)
          · -- In the row, both objects are asked about as a whole.
            rw [accepts_askedAt_self] at hacc ⊢
            exact ih ht (by omega) hacc j
          · exact accepts_member_of_takesOver htext htakes hbound hbound' hnew hbefore hx

/-- An object that takes members over from one that a whole evaluation accepts is accepted by a
whole evaluation as well. Both evaluations have levels enough, by the bound on the budget. -/
theorem accepts_evaluator_of_keeps (htext : Format.isUriReference text = true) {m m' : Members}
    (htakes : TakesOver text m m') {n : Nat} {s : Site} (h : r.keeps n s = true)
    {budget : Json → Nat} (hbudget : ∀ v, n ≤ budget v)
    (haccepts : (r.evaluator .lenient budget).accepts s (.object m) = true) :
    (r.evaluator .lenient budget).accepts s (.object m') = true := by
  rw [evaluator, Evaluator.full_accepts] at haccepts ⊢
  exact accepts_of_keeps htext htakes n h (Nat.le_refl _) (hbudget _) haccepts (Nat.le_refl _) _

end Registry

/-! ### The schemas of schemas -/

namespace Schema

/-- It can be seen from the schema of schemas of every draft that it accepts objects that take
members over. At most four schemas are followed in a row, and each draft is computed. -/
theorem keeps_ofDraft (d : Draft) :
    (ofDraft d).registry.keeps 4 (ofDraft d).root = true := by
  cases d <;> decide +kernel

/-- A schema is found in order exactly if the schema of schemas of its draft accepts it. The cause
that is reported otherwise comes from a violation, and there is one whenever the schema is not
accepted. -/
theorem checkAgainstDraft_eq_ok_iff {d : Draft} {contents : Json} :
    checkAgainstDraft d contents = .ok () ↔ (ofDraft d).accepts contents = true := by
  have hagrees := (ofDraft d).isEmpty_violations contents
  rw [checkAgainstDraft]
  cases haccepts : (ofDraft d).accepts contents with
  | true => simp
  | false =>
      rw [haccepts] at hagrees
      cases hviolations : (ofDraft d).violations contents with
      | nil => rw [hviolations] at hagrees; cases hagrees
      | cons v rest => simp

/-- An evaluation always has levels for four schemas in a row, since its budget counts the schemas
of schemas too. -/
theorem four_le_levels (contents v : Json) : 4 ≤ levels contents v := by
  have hlength : Draft.all.length = 5 := rfl
  have hweight : 5 ≤ Draft.all.length * (weight contents + 1) := by
    rw [hlength]
    omega
  have hmul := Nat.mul_le_mul hweight (Nat.le_add_left 2 v.size)
  rw [levels]
  omega

/-- An object that takes members over from one that is in order is in order itself. This is how the
schema of a part is found in order because the document is. -/
theorem checkAgainstDraft_of_takesOver {d : Draft} {text : String}
    (htext : Format.isUriReference text = true) {m m' : Members}
    (htakes : Registry.TakesOver text m m') (h : checkAgainstDraft d (.object m) = .ok ()) :
    checkAgainstDraft d (.object m') = .ok () := by
  rw [checkAgainstDraft_eq_ok_iff, accepts, evaluator] at h ⊢
  exact Registry.accepts_evaluator_of_keeps htext htakes (keeps_ofDraft d) (four_le_levels _) h

end Schema

end SchemaGate
