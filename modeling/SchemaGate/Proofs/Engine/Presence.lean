import SchemaGate.Proofs.Decode
import SchemaGate.Proofs.Engine.Guard

/-!
# `SchemaGate.Proofs.Engine.Presence`: requests that are loaded and requests that are built

A request can be loaded from an object, or be built from the members of the object one by one. A
built request has every part that is there (`RequestData.get?_built`), but a loaded one has no part
that is `null` (`RequestData.exists_ofJson_object`): on the way in, `null` is taken for absent.

The guard of a type looks at `null` as at any other value, and skips an absent part. So the two
requests fare the same only if no part is `null`, or if a part that is not is the first to fail for
both (`RequestGuard.guard_loaded`). Otherwise the loaded request is let through without the part, or
rejected for a later one, whatever the type asks of the part (`RequestGuard.guard_loaded_null`).
-/

set_option autoImplicit false

namespace SchemaGate

/-! ### Parts of a request in an object -/

namespace RequestData

/-- What an object has for a part of a request, be it `null` or not. The parameters and the query
are members of the object, and the body is a member of its payload. -/
def sent? (members : Members) : RequestField → Option Json
  | .params => members.lookup "params"
  | .query => members.lookup "query"
  | .body => (members.lookup "request").bind (·.get? "body")

/-- The request built from an object: starting from a request without parts, every part that the
object has is set, one after another. -/
def built (members : Members) : RequestData :=
  RequestField.all.foldl (fun r field =>
    match sent? members field with
    | some v => r.set field v
    | none => r) {}

/-- A value as it is when `null` is taken for absent: nothing for `null`, and otherwise the value
itself. -/
def nonNull : Json → Option Json
  | .null => none
  | v => some v

/-- A built request has exactly the parts that the object has, with the values that they have
there. -/
theorem get?_built (members : Members) (field : RequestField) :
    (built members).get? field = sent? members field := by
  have hall : built members
      = ⟨sent? members .params, sent? members .query, sent? members .body⟩ := by
    unfold built RequestField.all
    simp only [List.foldl_cons, List.foldl_nil]
    cases sent? members .params <;> cases sent? members .query <;> cases sent? members .body <;>
      rfl
  rw [hall]
  cases field <;> rfl

/-- Two requests are the same if they have the same parts with the same values. -/
theorem ext_get? {r r' : RequestData} (h : ∀ field, r.get? field = r'.get? field) : r = r' := by
  obtain ⟨params, query, body⟩ := r
  obtain ⟨params', query', body'⟩ := r'
  have hparams : params = params' := h .params
  have hquery : query = query' := h .query
  have hbody : body = body' := h .body
  rw [hparams, hquery, hbody]

/-- If a value is left when `null` is taken for absent, then it is the value itself and not
`null`. -/
theorem nonNull_eq_some_iff {v w : Json} : nonNull v = some w ↔ v = w ∧ v ≠ .null := by
  cases v <;> simp [nonNull]

/-- A part that may be missing and may be anything is read as absent if it is `null`, and as the
value itself otherwise. -/
theorem optional_anything (v : Json) : Decode.optional anything v = .ok (nonNull v) := by
  cases v <;> rfl

/-- From an object in order the payload is read as the body that it has, unless this is `null` or
missing. -/
theorem payload_object {members : Members} (h : members.Ordered) :
    payload (.object members) = .ok ((members.lookup "body").bind nonNull) := by
  have hsorted : ["body"].Pairwise (· < ·) := List.pairwise_singleton _ _
  rw [payload, Decode.record_of_ordered h hsorted (.refl _), List.foldlM_cons]
  cases members.lookup "body" with
  | none => rfl
  | some v =>
      show (Decode.optional anything v >>= fun body => .ok body) = _
      rw [optional_anything]
      rfl

/-- A payload that may be missing is read from an object in order as being there, also when it has
no body. -/
theorem optional_payload {v : Json} (hv : v.isObject = true) (hcanonical : v.Canonical) :
    Decode.optional payload v = .ok (some ((v.get? "body").bind nonNull)) := by
  cases v with
  | object members =>
      show (payload (.object members) >>= fun body => .ok (some body)) = _
      rw [payload_object hcanonical.1]
      rfl
  | _ => cases hv

/-- A request can be loaded from an object whose payload, if there is one, is an object. The request
then has the parts that the object has, except those that are `null`. -/
theorem exists_ofJson_object {members : Members} (hcanonical : (Json.object members).Canonical)
    (hrequest : ∀ v, members.lookup "request" = some v → v.isObject = true) :
    ∃ r, ofJson (.object members) = .ok r ∧
      ∀ field, r.get? field = (sent? members field).bind nonNull := by
  have hsorted : ["params", "query", "request"].Pairwise (· < ·) := by decide
  have hfields : ["request", "params", "query"].Perm ["params", "query", "request"] := by decide
  refine ⟨⟨(members.lookup "params").bind nonNull, (members.lookup "query").bind nonNull,
    (sent? members .body).bind nonNull⟩, ?_, fun field => by cases field <;> rfl⟩
  rw [ofJson, Decode.record_of_ordered hcanonical.1 hsorted hfields]
  simp only [List.foldlM_cons, List.foldlM_nil, readField, sent?]
  cases hpayload : members.lookup "request" with
  | none =>
      cases members.lookup "params" <;> cases members.lookup "query" <;>
        simp [optional_anything, bind, Except.bind, pure, Except.pure]
  | some v =>
      have hv := optional_payload (hrequest v hpayload)
        (Json.canonical_of_lookup hcanonical.2 hpayload)
      cases members.lookup "params" <;> cases members.lookup "query" <;>
        simp [optional_anything, hv, bind, Except.bind, pure, Except.pure]

end RequestData

/-! ### The guard of a type for both requests -/

namespace RequestGuard

open RequestData (sent? built nonNull nonNull_eq_some_iff get?_built exists_ofJson_object)

variable {g : RequestGuard} {r r' : RequestData} {field : RequestField}

/-- The text that lists some records begins with the name of what was checked, if there is a record
at all. -/
theorem exists_recordTexts_eq {records : List ErrorRecord} (h : records ≠ []) (name : String) :
    ∃ rest, ", ".intercalate (records.map (Report.recordText name)) = name ++ rest := by
  obtain ⟨record, records, rfl⟩ := List.exists_cons_of_ne_nil h
  rw [List.map_cons]
  cases records.map (Report.recordText name) with
  | nil =>
      rw [String.intercalate_singleton, Report.recordText, String.append_assoc,
        String.append_assoc]
      exact ⟨_, rfl⟩
  | cons text texts =>
      rw [String.intercalate_cons_cons, Report.recordText]
      simp only [String.append_assoc]
      exact ⟨_, rfl⟩

/-- The message of a rejection names the part that fails first, right behind words that are always
the same. -/
theorem exists_message_eq {rejection : Rejection} (h : g.guard r = .error rejection) :
    ∃ field rest, g.FailsFirst r field ∧
      rejection.message = "Invalid request: " ++ field.name ++ rest := by
  obtain ⟨field, p, v, hfirst, -, -, hvalid, rfl⟩ := guard_eq_error h
  obtain ⟨rest, hrest⟩ := exists_recordTexts_eq (Predicate.check_ne_nil_iff.2 hvalid) field.name
  refine ⟨field, rest ++ ("\n\n" ++ Report.inspect r.toJson),
    firstFailing?_eq_some_iff.1 hfirst, ?_⟩
  rw [hrest]
  simp only [String.append_assoc]

/-- Two messages can only be the same if they name the same part, whatever follows the names. -/
theorem field_eq_of_message_eq {field field' : RequestField} {rest rest' : String}
    (h : "Invalid request: " ++ field.name ++ rest = "Invalid request: " ++ field'.name ++ rest') :
    field = field' := by
  rw [String.append_assoc, String.append_assoc, String.append_right_inj] at h
  -- The names begin with different letters.
  have hhead := congrArg (fun text : String => text.toList.head?) h
  cases field <;> cases field' <;> simp [RequestField.name] at hhead ⊢

section WithoutNulls

-- From here on `r` is `r'` without the parts that are `null`.
variable (h : ∀ field, r.get? field = (r'.get? field).bind nonNull)
include h

/-- A request is dumped like the smaller one without the parts that are `null`, because the dump
shows an absent part as `null`. -/
theorem dump_eq_of_nonNull : dump r = dump r' := by
  have hshown : ∀ field, (r.get? field).getD .null = (r'.get? field).getD .null := by
    intro field
    rw [h field]
    cases r'.get? field with
    | none => rfl
    | some v => cases v <;> rfl
  have hparams : r.params.getD .null = r'.params.getD .null := hshown .params
  have hquery : r.query.getD .null = r'.query.getD .null := hshown .query
  have hbody : r.body.getD .null = r'.body.getD .null := hshown .body
  rw [dump, dump, hparams, hquery, hbody]

/-- A guard answers alike to a request and to the smaller one without the parts that are `null`
exactly if there are no such parts, or if the same part fails first in both. -/
theorem guard_eq_guard_iff :
    g.guard r = g.guard r' ↔ (∀ field, r'.get? field ≠ some .null) ∨
      ∃ field, g.FailsFirst r field ∧ g.FailsFirst r' field := by
  constructor
  · intro heq
    cases hguard : g.guard r with
    | ok passed =>
        -- Both requests are what is let through.
        have hr := (guard_eq_ok_iff.1 hguard).1
        have hr' := (guard_eq_ok_iff.1 (heq.symm.trans hguard)).1
        refine .inl fun field hnull => ?_
        have hnone := h field
        rw [← hr, hr', hnull] at hnone
        cases hnone
    | error rejection =>
        obtain ⟨field, rest, hfails, hmessage⟩ := exists_message_eq hguard
        obtain ⟨field', rest', hfails', hmessage'⟩ := exists_message_eq (heq.symm.trans hguard)
        obtain rfl := field_eq_of_message_eq (hmessage.symm.trans hmessage')
        exact .inr ⟨field, hfails, hfails'⟩
  · rintro (hnull | ⟨field, hfails, hfails'⟩)
    · have hsame : r = r' := RequestData.ext_get? fun field => by
        rw [h field]
        cases hv : r'.get? field with
        | none => rfl
        | some v =>
            have hne : v ≠ .null := by
              rintro rfl
              exact hnull field hv
            exact nonNull_eq_some_iff.2 ⟨rfl, hne⟩
      rw [hsame]
    · obtain ⟨p, v, hp, hv, hguard⟩ := guard_of_failsFirst hfails
      obtain ⟨p', v', hp', hv', hguard'⟩ := guard_of_failsFirst hfails'
      obtain rfl : p = p' := Option.some.inj (hp.symm.trans hp')
      -- What fails in the smaller request is not `null`, and so the same in the other one.
      rw [h field, hv', Option.bind_some, nonNull_eq_some_iff] at hv
      obtain ⟨rfl, -⟩ := hv
      rw [hguard, hguard', dump_eq_of_nonNull h]

/-- A part passes exactly if it passes in the smaller request and, where it is `null`, its validator
has no records against that. -/
theorem passes_iff_of_nonNull :
    g.Passes r' field ↔ g.Passes r field ∧
      ∀ p, r'.get? field = some .null → g.validator field = some p → p.check .null = [] := by
  unfold Passes
  rw [h field]
  cases r'.get? field with
  | none => simp
  | some v =>
      by_cases hnull : v = .null
      · subst hnull
        cases g.validator field <;> simp [nonNull]
      · have hv : nonNull v = some v := nonNull_eq_some_iff.2 ⟨rfl, hnull⟩
        simp [hv, hnull]

/-- A request is let through exactly if the smaller one is and the validators of the parts that are
`null` have no records against that. -/
theorem exists_guard_eq_ok_iff :
    (∃ passed, g.guard r' = .ok passed) ↔ (∃ passed, g.guard r = .ok passed) ∧
      ∀ field p, r'.get? field = some .null → g.validator field = some p → p.check .null = [] := by
  simp only [guard_eq_ok_iff, exists_eq_left]
  rw [← forall_and]
  exact forall_congr' fun _ => passes_iff_of_nonNull h

end WithoutNulls

/-- What the guard of a type makes of a request that is loaded from an object, compared with the
request that is built from its members, where the payload is an object if there is one:

- the object can be loaded, and what is loaded has its parts except those that are `null`;
- the guard answers alike to both exactly if no part is `null`, or the same part fails first;
- it lets the built request through exactly if it lets the loaded one through and the predicates of
  the parts that are `null` have no records against that. -/
theorem guard_loaded {members : Members} (hcanonical : (Json.object members).Canonical)
    (hrequest : ∀ v, members.lookup "request" = some v → v.isObject = true) :
    ∃ r, RequestData.ofJson (.object members) = .ok r ∧
      (∀ field v, r.get? field = some v ↔ sent? members field = some v ∧ v ≠ .null) ∧
      ∀ e t,
        ((forType e t).guard r = (forType e t).guard (built members) ↔
          (∀ field, sent? members field ≠ some .null) ∨
            ∃ field, (forType e t).FailsFirst r field ∧
              (forType e t).FailsFirst (built members) field) ∧
        ((∃ passed, (forType e t).guard (built members) = .ok passed) ↔
          (∃ passed, (forType e t).guard r = .ok passed) ∧
            ∀ field p, sent? members field = some .null →
              e.predicate? (registryKey t (some field)) = some p → p.check .null = []) := by
  obtain ⟨r, hr, hparts⟩ := exists_ofJson_object hcanonical hrequest
  have hbuilt : ∀ field, r.get? field = ((built members).get? field).bind nonNull := fun field => by
    rw [hparts, get?_built]
  refine ⟨r, hr, fun field v => ?_, fun e t => ⟨?_, ?_⟩⟩
  · rw [hparts, Option.bind_eq_some_iff]
    constructor
    · rintro ⟨w, hw, hv⟩
      obtain ⟨rfl, hne⟩ := nonNull_eq_some_iff.1 hv
      exact ⟨hw, hne⟩
    · rintro ⟨hv, hne⟩
      exact ⟨v, hv, nonNull_eq_some_iff.2 ⟨rfl, hne⟩⟩
  · simp only [guard_eq_guard_iff hbuilt, get?_built]
  · simp only [exists_guard_eq_ok_iff hbuilt, get?_built]
    rfl

/-- In a request with wrong parameters and a body that is `null`, the parameters fail first, so the
guard answers alike whether the request was loaded or built. -/
theorem guard_loaded_wrongParams : ∃ e r, Engine.build partsDocument .default = .ok e ∧
    RequestData.ofJson (.object [("params", .bool true),
      ("request", .object [("body", .null)])]) = .ok r ∧
    (forType e "A").guard r = (forType e "A").guard (built [("params", .bool true),
      ("request", .object [("body", .null)])]) := by
  have hcanonical : (Json.object [("params", .bool true),
      ("request", .object [("body", .null)])]).Canonical :=
    Json.canonical_ofList [("params", .bool true), ("request", .object [("body", .null)])]
  have hrequest : ∀ v, List.lookup "request" [("params", Json.bool true),
      ("request", .object [("body", .null)])] = some v → v.isObject = true := by
    rintro v ⟨⟩
    rfl
  have hbuild : (Engine.build partsDocument .default).toOption.any (fun e =>
      (forType e "A").firstFailing? { params := some (.bool true) } RequestField.all == some .params
        && (forType e "A").firstFailing? { params := some (.bool true), body := some .null }
          RequestField.all == some .params) = true := by
    decide +kernel
  obtain ⟨e, he, hfails⟩ := exists_ok_of_any hbuild
  simp only [Bool.and_eq_true, beq_iff_eq] at hfails
  obtain ⟨hloaded, hgiven⟩ := hfails
  obtain ⟨r, hr, hparts, hguard⟩ := guard_loaded hcanonical hrequest
  have hr' : RequestData.ofJson (.object [("params", .bool true),
      ("request", .object [("body", .null)])]) = .ok { params := some (.bool true) } := rfl
  obtain rfl : r = { params := some (.bool true) } := Except.ok.inj (hr.symm.trans hr')
  exact ⟨e, _, he, hr, (hguard e "A").1.2
    (.inr ⟨.params, firstFailing?_eq_some_iff.1 hloaded, firstFailing?_eq_some_iff.1 hgiven⟩)⟩

/-- A part that is `null` is not checked once it was loaded. Parameters that have to be an object
and are `null` are let through when the request is loaded, and rejected when it is built. -/
theorem guard_loaded_null : ∃ e r rejection, Engine.build partsDocument .default = .ok e ∧
    RequestData.ofJson (.object [("params", .null)]) = .ok r ∧
    (forType e "A").guard r = .ok r ∧
    (forType e "A").guard (built [("params", .null)]) = .error rejection := by
  have hbuild : (Engine.build partsDocument .default).toOption.any (fun e =>
      (forType e "A").firstFailing? {} RequestField.all == none
        && (forType e "A").firstFailing? (built [("params", .null)]) RequestField.all
          == some .params) = true := by
    decide +kernel
  obtain ⟨e, he, hfails⟩ := exists_ok_of_any hbuild
  simp only [Bool.and_eq_true, beq_iff_eq] at hfails
  obtain ⟨hloaded, hgiven⟩ := hfails
  obtain ⟨p, v, -, -, hrejected⟩ := guard_of_failsFirst (firstFailing?_eq_some_iff.1 hgiven)
  exact ⟨e, {}, _, he, rfl, guard_eq_ok_iff.2 ⟨rfl, firstFailing?_eq_none_iff.1 hloaded⟩, hrejected⟩

end RequestGuard

end SchemaGate
