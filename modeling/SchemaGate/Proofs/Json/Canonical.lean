import SchemaGate.Document
import SchemaGate.Proofs.Json.RoundTrip
import SchemaGate.Proofs.Json.Values
import SchemaGate.Proofs.Text.Utf8
import SchemaGate.Report

/-!
# `SchemaGate.Proofs.Json.Canonical`: equal values have one text

An object is a finite map, so values are equal (`Same`) if their objects have equal values under the
same names at every depth, in whatever order the members were put in. Sorting picks one form of all
equal values (`same_iff`), and this form is the one that is written and that the reader gives back.
So the stable texts, compact or pretty, are the same exactly if the values are equal, and either one
is read as the sorted value. `stable_encoding` says so.

The reader gives sorted values only (`canonical_of_parse?`), and for such a value nothing changes
at all: it is its own sorted form. So a document that was read from a text has the value of that
text as its root (`Document.root_of_parse?`).
-/

set_option autoImplicit false

namespace SchemaGate.Json

open SchemaGate.Text

/-! ### Whatever is read -/

/-- An object is canonical if it is made from members with canonical values: putting the members in
order leaves one of each name. -/
theorem canonical_ofMembers {members : Members} (h : CanonicalMembers members) :
    (ofMembers members).Canonical :=
  ⟨Members.ordered_ofList members, (canonicalMembers_iff _).2 fun x hx =>
    (canonicalMembers_iff members).1 h x (Members.mem_of_mem_ofList hx)⟩

/-- With so many steps the reader gives canonical values, items and members only. The three go
together, because each of the three readers calls the others. -/
structure ReadsCanonical (fuel : ℕ) : Prop where
  value : ∀ {levels text v rest}, readValue fuel levels text = some (v, rest) → v.Canonical
  items : ∀ {levels text items rest}, readItems fuel levels text = some (items, rest) →
    CanonicalItems items
  members : ∀ {levels text members rest}, readMembers fuel levels text = some (members, rest) →
    CanonicalMembers members

/-- With one step more the reader gives canonical values only. It enters an array or an object,
whose inside is canonical by the hypothesis, or gives a value that has nothing inside. -/
theorem canonical_readValue_succ {fuel : ℕ} (ih : ReadsCanonical fuel) {levels : ℕ}
    {text rest : List Char} {v : Json} (h : readValue (fuel + 1) levels text = some (v, rest)) :
    v.Canonical := by
  -- Anything but a container is canonical by itself.
  have hplain : ∀ {α : Type} {o : Option α} {f : α → Json × List Char},
      o.map f = some (v, rest) → (∀ a, (f a).1.Canonical) → v.Canonical := by
    intro α o f heq hf
    obtain ⟨a, -, ha⟩ := Option.map_eq_some_iff.1 heq
    have hv := hf a
    rwa [ha] at hv
  rw [readValue] at h
  split at h
  -- The words and a string come first, then the containers, and a number is what is left.
  · exact hplain h fun _ => trivial
  · exact hplain h fun _ => trivial
  · exact hplain h fun _ => trivial
  · exact hplain h fun _ => trivial
  · cases levels with
    | zero => cases h
    | succ levels =>
        dsimp only at h
        split at h
        · cases h
          trivial
        · obtain ⟨⟨items, rest'⟩, hread, heq⟩ := Option.map_eq_some_iff.1 h
          cases heq
          exact ih.items hread
  · cases levels with
    | zero => cases h
    | succ levels =>
        dsimp only at h
        split at h
        · cases h
          exact canonical_nil
        · obtain ⟨⟨members, rest'⟩, hread, heq⟩ := Option.map_eq_some_iff.1 h
          cases heq
          exact canonical_ofMembers (ih.members hread)
  · exact hplain h fun _ => trivial

/-- With one step more the reader gives canonical items only: the first one and the others are read
with the steps that are left. -/
theorem canonical_readItems_succ {fuel : ℕ} (ih : ReadsCanonical fuel) {levels : ℕ}
    {text rest : List Char} {items : List Json}
    (h : readItems (fuel + 1) levels text = some (items, rest)) : CanonicalItems items := by
  rw [readItems] at h
  obtain ⟨⟨v, rest'⟩, hv, h⟩ := Option.bind_eq_some_iff.1 h
  dsimp only at h
  split at h
  · obtain ⟨⟨items', rest''⟩, hitems, h⟩ := Option.bind_eq_some_iff.1 h
    cases h
    exact ⟨ih.value hv, ih.items hitems⟩
  · cases h
    exact ⟨ih.value hv, trivial⟩
  · cases h

/-- With one step more the reader gives members with canonical values only: the first one and the
others are read with the steps that are left. -/
theorem canonical_readMembers_succ {fuel : ℕ} (ih : ReadsCanonical fuel) {levels : ℕ}
    {text rest : List Char} {members : Members}
    (h : readMembers (fuel + 1) levels text = some (members, rest)) :
    CanonicalMembers members := by
  rw [readMembers] at h
  split at h
  · obtain ⟨⟨name, rest'⟩, -, h⟩ := Option.bind_eq_some_iff.1 h
    dsimp only at h
    split at h
    · obtain ⟨⟨v, rest''⟩, hv, h⟩ := Option.bind_eq_some_iff.1 h
      dsimp only at h
      split at h
      · obtain ⟨⟨members', last⟩, hmembers, h⟩ := Option.bind_eq_some_iff.1 h
        cases h
        exact ⟨ih.value hv, ih.members hmembers⟩
      · cases h
        exact ⟨ih.value hv, trivial⟩
      · cases h
    · cases h
  · cases h

/-- The reader gives canonical values, items and members only, however many steps it is allowed. -/
theorem readsCanonical (fuel : ℕ) : ReadsCanonical fuel := by
  induction fuel with
  | zero => exact ⟨fun h => (nomatch h), fun h => (nomatch h), fun h => (nomatch h)⟩
  | succ fuel ih =>
      exact ⟨canonical_readValue_succ ih, canonical_readItems_succ ih,
        canonical_readMembers_succ ih⟩

/-- Whatever is read from a text is canonical, also if the text has names out of order or several
times. -/
theorem canonical_of_parse? {text : String} {v : Json} (h : parse? text = some v) :
    v.Canonical := by
  rw [parse?, parseWithin?] at h
  obtain ⟨⟨w, rest⟩, hread, h⟩ := Option.bind_eq_some_iff.1 h
  dsimp only at h
  split at h
  · cases h
    exact (readsCanonical _).value hread
  · cases h

/-! ### Sorting -/

/-- Sorting the items of an array sorts each of them and leaves their order as it is. -/
theorem sortItems_eq_map (items : List Json) : sortItems items = items.map sortKeys := by
  induction items with
  | nil => rfl
  | cons v rest ih => rw [sortItems, ih, List.map_cons]

/-- Sorting the values of members sorts each of them and leaves the members in their order. Only the
object around puts them in another one. -/
theorem sortMembers_eq_map (members : Members) :
    sortMembers members = members.map fun x => (x.1, x.2.sortKeys) := by
  induction members with
  | nil => rfl
  | cons x rest ih =>
      obtain ⟨name, v⟩ := x
      rw [sortMembers, ih, List.map_cons]

/-- A sorted object has, under every name, the last value of this name in the original object,
sorted. Of several members of one name the last counts, as when a map is filled. -/
theorem lookup_sorted (members : Members) (name : String) :
    (Members.ofList (sortMembers members)).lookup name
      = (members.reverse.lookup name).map sortKeys := by
  rw [Members.lookup_ofList, sortMembers_eq_map, ← List.map_reverse, Members.lookup_map sortKeys]

/-! ### Equality as values -/

/-- Equality of values whose objects are finite maps: under every name there are equal values, or
there is none. Members are put into a map in order, so that of several of one name the last counts.
Numbers are equal if their representations are. -/
inductive Same : Json → Json → Prop
  | null : Same .null .null
  | bool (b : Bool) : Same (.bool b) (.bool b)
  | number (n : Number) : Same (.number n) (.number n)
  | string (s : String) : Same (.string s) (.string s)
  | array {items items' : List Json} (h : List.Forall₂ Same items items') :
    Same (.array items) (.array items')
  | object {members members' : Members}
    (h : ∀ name, Option.Rel Same (members.reverse.lookup name) (members'.reverse.lookup name)) :
    Same (.object members) (.object members')

/-- What is found last under a name is the value of one of the members. -/
theorem mem_of_lookup_reverse {members : Members} {name : String} {v : Json}
    (h : members.reverse.lookup name = some v) : (name, v) ∈ members :=
  List.mem_reverse.1 (Members.mem_of_lookup h)

/-- Equal values have the same sorted form. Two objects in order with the same lookups are the same
list of members. -/
theorem sortKeys_eq_of_same {v w : Json} (h : Same v w) : v.sortKeys = w.sortKeys := by
  induction v using inductionOn generalizing w with
  | null => cases h; rfl
  | bool b => cases h; rfl
  | number n => cases h; rfl
  | string s => cases h; rfl
  | array items ih =>
      obtain _ | _ | _ | _ | h | _ := h
      rw [sortKeys, sortKeys, sortItems_eq_map, sortItems_eq_map]
      congr 1
      induction h with
      | nil => rfl
      | cons hv _ hrest =>
          rw [List.map_cons, List.map_cons, ih _ List.mem_cons_self hv,
            hrest fun u hu => ih u (List.mem_cons_of_mem _ hu)]
  | object members ih =>
      obtain _ | _ | _ | _ | _ | @⟨_, members', h⟩ := h
      rw [sortKeys, sortKeys]
      congr 1
      refine Members.eq_of_lookup_eq (Members.ordered_ofList _) (Members.ordered_ofList _)
        fun name => ?_
      rw [lookup_sorted, lookup_sorted]
      have hname := h name
      generalize hv : members.reverse.lookup name = o at hname
      generalize members'.reverse.lookup name = o' at hname
      cases hname with
      | none => rfl
      | some hsame => exact congrArg some (ih _ (mem_of_lookup_reverse hv) hsame)

/-- Values with the same sorted form are equal, because sorting changes no lookup. -/
theorem same_of_sortKeys_eq {v w : Json} (h : v.sortKeys = w.sortKeys) : Same v w := by
  induction v using inductionOn generalizing w with
  | null => cases w <;> simp only [sortKeys, reduceCtorEq] at h; exact .null
  | bool b => cases w <;> simp only [sortKeys, reduceCtorEq, bool.injEq] at h; exact h ▸ .bool b
  | number n =>
      cases w <;> simp only [sortKeys, reduceCtorEq, number.injEq] at h; exact h ▸ .number n
  | string s =>
      cases w <;> simp only [sortKeys, reduceCtorEq, string.injEq] at h; exact h ▸ .string s
  | array items ih =>
      cases w <;> simp only [sortKeys, reduceCtorEq, array.injEq] at h
      next items' =>
        rw [sortItems_eq_map, sortItems_eq_map] at h
        refine .array (List.forall₂_iff_get.2 ⟨by simpa using congrArg List.length h, ?_⟩)
        intro i hi hi'
        refine ih _ (List.get_mem _ _) ?_
        have hget := congrArg (fun l => l[i]?) h
        simpa [hi, hi'] using hget
  | object members ih =>
      cases w <;> simp only [sortKeys, reduceCtorEq, object.injEq] at h
      next members' =>
        refine .object fun name => ?_
        have hname := congrArg (List.lookup name) h
        rw [lookup_sorted, lookup_sorted] at hname
        cases hv : members.reverse.lookup name with
        | none =>
            rw [hv] at hname
            rw [Option.map_eq_none_iff.1 hname.symm]
            exact .none
        | some v =>
            rw [hv] at hname
            obtain ⟨w, hw, heq⟩ := Option.map_eq_some_iff.1 hname.symm
            rw [hw]
            exact .some (ih _ (mem_of_lookup_reverse hv) heq.symm)

/-- Values are equal exactly if they have the same sorted form. So sorting picks one value of all
that are equal to it. -/
theorem same_iff {v w : Json} : Same v w ↔ v.sortKeys = w.sortKeys :=
  ⟨sortKeys_eq_of_same, same_of_sortKeys_eq⟩

/-- Canonical values are equal exactly if they are the same, since each of them is its own sorted
form. -/
theorem same_iff_of_canonical {v w : Json} (hv : v.Canonical) (hw : w.Canonical) :
    Same v w ↔ v = w := by
  rw [same_iff, sortKeys_of_canonical v hv, sortKeys_of_canonical w hw]

/-- A sorted value does not change when it is sorted again. -/
theorem sortKeys_sortKeys (v : Json) : v.sortKeys.sortKeys = v.sortKeys :=
  sortKeys_of_canonical _ (canonical_sortKeys v)

/-- Sorting changes nothing about a value: under every name there are the same values as before. -/
theorem same_sortKeys (v : Json) : Same v.sortKeys v :=
  same_iff.2 (sortKeys_sortKeys v)

/-- Objects are equal if one has the members of the other in a different order and no name occurs
twice. If one did, the order would decide which of its values counts. -/
theorem same_of_perm {members members' : Members} (h : members.Perm members')
    (hnodup : members.names.Nodup) : Same (.object members) (.object members') := by
  have hperm : members.reverse.Perm members'.reverse :=
    (members.reverse_perm.trans h).trans members'.reverse_perm.symm
  have hnames : Members.names members.reverse = members.names.reverse := List.map_reverse
  rw [same_iff, sortKeys, sortKeys]
  congr 1
  refine Members.eq_of_lookup_eq (Members.ordered_ofList _) (Members.ordered_ofList _)
    fun name => ?_
  rw [lookup_sorted, lookup_sorted,
    Members.lookup_perm hperm (hnames ▸ List.nodup_reverse.2 hnodup)]

/-- Numbers are equal exactly if their representations are. An integer is never equal to a float,
even if both stand for the same number. -/
theorem same_number_iff {a b : Number} : Same (.number a) (.number b) ↔ a = b := by
  rw [same_iff_of_canonical (v := .number a) (w := .number b) trivial trivial, number.injEq]

/-! ### The texts -/

/-- Every object inside a canonical value, at whatever depth, has its members in order. -/
theorem ordered_of_mem_values {v : Json} (h : v.Canonical) {members : Members}
    (hmem : .object members ∈ v.values) : members.Ordered := by
  induction v using inductionOn with
  | null | bool | number | string => simp [values] at hmem
  | array items ih =>
      rcases List.mem_cons.1 hmem with heq | hmem
      · cases heq
      · obtain ⟨v, hv, hmem⟩ := mem_valuesOfItems.1 hmem
        exact ih v hv ((canonicalItems_iff items).1 h v hv) hmem
  | object members' ih =>
      rcases List.mem_cons.1 hmem with heq | hmem
      · cases heq
        exact h.1
      · obtain ⟨x, hx, hmem⟩ := mem_valuesOfMembers.1 hmem
        exact ih x hx ((canonicalMembers_iff members').1 h.2 x hx) hmem

/-- Members in the order of their names are in the order of the bytes of their names, since texts
are ordered as their bytes are. -/
theorem bytes_lt_of_ordered {members : Members} (h : members.Ordered) :
    members.Pairwise fun a b => Utf8.encode a.1.toList < Utf8.encode b.1.toList :=
  h.imp fun hlt => Utf8.encode_lt_encode_iff.2 (String.lt_iff.1 hlt)

/-- The compact stable text of a value is read as the sorted value. -/
theorem parse?_stableCompact (v : Json) : parse? v.stableCompact = some v.sortKeys := by
  rw [stableCompact, compact, compactChars_eq 0]
  exact parse?_render .compact (canonical_sortKeys v)

/-- The pretty stable text of a value is read as the sorted value. -/
theorem parse?_stablePretty (v : Json) : parse? v.stablePretty = some v.sortKeys := by
  rw [stablePretty, pretty, prettyChars_eq]
  exact parse?_render .pretty (canonical_sortKeys v)

/-- Take a form of text in which every sorted value is read back. The texts of two sorted values are
the same exactly if the values themselves are equal. -/
theorem text_sortKeys_inj (text : Json → String)
    (hread : ∀ u : Json, parse? (text u.sortKeys) = some u.sortKeys) {v w : Json} :
    text v.sortKeys = text w.sortKeys ↔ Same v w := by
  rw [same_iff]
  refine ⟨fun h => ?_, congrArg text⟩
  -- Both sorted values are read from the one text.
  have hv := hread v
  rw [h, hread w] at hv
  exact (Option.some.inj hv).symm

/-- The compact stable texts of two values are the same exactly if the values are equal. -/
theorem stableCompact_inj {v w : Json} : v.stableCompact = w.stableCompact ↔ Same v w :=
  text_sortKeys_inj compact parse?_stableCompact

/-- The pretty stable texts of two values are the same exactly if the values are equal. -/
theorem stablePretty_inj {v w : Json} : v.stablePretty = w.stablePretty ↔ Same v w :=
  text_sortKeys_inj pretty parse?_stablePretty

/-- Equality of values is decided by comparing their compact stable texts. -/
instance (v w : Json) : Decidable (Same v w) := decidable_of_iff _ stableCompact_inj

/-- The stable texts are a canonical encoding of values. Either text is read as the sorted value,
with as many levels allowed as that has or with no bound on them. The compact texts of two values
are the same exactly if the values are equal, and so are the pretty ones. Sorting gives an equal
value whose objects are in the order of the bytes of their names, and sorting again changes nothing.

Equality does not depend on the order in which members were put in. It tells numbers apart by their
representation, so that no integer is a float and no float is its own negative, zero included. A
value with its members in order is its own sorted form, and its text for people is the pretty
one. -/
theorem stable_encoding (v w : Json) :
    (∀ levels, v.sortKeys.depth ≤ levels →
      parseWithin? levels v.stableCompact = some v.sortKeys ∧
      parseWithin? levels v.stablePretty = some v.sortKeys) ∧
    parse? v.stableCompact = some v.sortKeys ∧ parse? v.stablePretty = some v.sortKeys ∧
    (v.stableCompact = w.stableCompact ↔ Same v w) ∧
    (v.stablePretty = w.stablePretty ↔ Same v w) ∧
    Same v.sortKeys v ∧ v.sortKeys.sortKeys = v.sortKeys ∧
    (∀ members, .object members ∈ v.sortKeys.values →
      members.Pairwise fun a b => Utf8.encode a.1.toList < Utf8.encode b.1.toList) ∧
    (∀ members members' : Members, members.Perm members' → members.names.Nodup →
      Same (.object members) (.object members')) ∧
    (∀ a b : Number, Same (.number a) (.number b) ↔ a = b) ∧
    (∀ n hn x, ¬ Same (.number (.integer n hn)) (.number (.float x))) ∧
    (∀ rank hrank, ¬ Same (.number (.float ⟨false, rank, hrank⟩))
      (.number (.float ⟨true, rank, hrank⟩))) ∧
    (v.Canonical → v.sortKeys = v ∧ Report.inspect v = v.stablePretty) := by
  refine ⟨fun levels hlevels => ⟨?_, ?_⟩, parse?_stableCompact v, parse?_stablePretty v,
    stableCompact_inj, stablePretty_inj, same_sortKeys v, sortKeys_sortKeys v,
    fun members hmem => bytes_lt_of_ordered (ordered_of_mem_values (canonical_sortKeys v) hmem),
    fun members members' hperm hnodup => same_of_perm hperm hnodup,
    fun a b => same_number_iff, fun n hn x hsame => ?_, fun rank hrank hsame => ?_,
    fun hv => ?_⟩
  · rw [stableCompact, compact, compactChars_eq 0]
    exact parseWithin?_render .compact (canonical_sortKeys v) hlevels
  · rw [stablePretty, pretty, prettyChars_eq]
    exact parseWithin?_render .pretty (canonical_sortKeys v) hlevels
  · cases same_number_iff.1 hsame
  · cases same_number_iff.1 hsame
  · have hsorted := sortKeys_of_canonical v hv
    exact ⟨hsorted, by rw [Report.inspect, stablePretty, hsorted]⟩

/-- An object whose members were put in out of order, one of them under a name beyond the basic
letters. -/
def outOfOrder : Json := .object [("é", .array [.null]), ("z", .object [])]

/-- The object `outOfOrder` with its members in order. -/
def inOrder : Json := .object [("z", .object []), ("é", .array [.null])]

/-- The objects `outOfOrder` and `inOrder` are equal. The text of the former is read as the latter
within two levels, and the latter is written for people as it stands. -/
theorem stable_encoding_outOfOrder :
    Same outOfOrder inOrder ∧ parseWithin? 2 outOfOrder.stableCompact = some inOrder ∧
      Utf8.encode "z".toList < Utf8.encode "é".toList ∧
      inOrder.sortKeys = inOrder ∧ Report.inspect inOrder = inOrder.stablePretty := by
  have hsorted : outOfOrder.sortKeys = inOrder := rfl
  have hcanonical : inOrder.Canonical := hsorted ▸ canonical_sortKeys outOfOrder
  obtain ⟨hread, -, -, -, -, -, -, hbytes, hsame, -⟩ := stable_encoding outOfOrder inOrder
  obtain ⟨-, -, -, -, -, -, -, -, -, -, -, -, hself⟩ := stable_encoding inOrder inOrder
  refine ⟨hsame _ _ (List.Perm.swap _ _ []) (by decide), (hread 2 (by decide)).1, ?_,
    hself hcanonical⟩
  exact List.rel_of_pairwise_cons (hbytes _ List.mem_cons_self) List.mem_cons_self

-- Bytes put `é` behind every ASCII name, and the compact text has no blanks.
example : (Json.object [("é", .array [.null]), ("z", .object [])]).stableCompact
    = "\x7b\"z\":\x7b\x7d,\"é\":[null]\x7d" := rfl

end SchemaGate.Json

namespace SchemaGate.Document

/-- The root of a document that was read from a text is the value of the text as it stands: the
value is canonical, so making a document of it changes nothing. -/
theorem root_of_parse? {text : String} {v : Json} {d : Document} (h : Json.parse? text = some v)
    (hd : ofJson? v = some d) : d.root = v :=
  root_of_ofJson? (Json.canonical_of_parse? h) hd

/-- The root of a document is read back from its pretty stable text, with every member and every
number as it was. -/
theorem parse?_root (d : Document) : Json.parse? d.root.stablePretty = some d.root :=
  (Json.parse?_stablePretty d.root).trans (congrArg some (Json.sortKeys_of_canonical _ d.canonical))

end SchemaGate.Document
