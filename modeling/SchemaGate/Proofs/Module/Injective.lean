import SchemaGate.Proofs.Json.RoundTrip
import SchemaGate.Proofs.Module.Parts
import SchemaGate.Proofs.Text.Run

/-!
# `SchemaGate.Proofs.Module.Injective`: the text of a module loses nothing

The text of a module is put together from lines around what the caller gives: names, a path, the
options of the engine as compact JSON and the document as pretty JSON. None of these has a length in
front of it, so each boundary has to be found by what follows:

- a name ends at the first character that no identifier has, and the path at its closing quote;
- a JSON text ends where its reader stops.

Reading the text from its start, `generate_injective` recovers one part after the other.
-/

set_option autoImplicit false

namespace SchemaGate

/-- The options in force, as members of an object, are in order and can be read back from their
text. -/
theorem EngineOptions.canonical_merged (o : EngineOptions) : (Json.object o.merged).Canonical := by
  -- By induction on the overrides, with any canonical members to put them into.
  have key : ∀ (new done : Members), Json.CanonicalMembers new → (Json.object done).Canonical →
      (Json.object (new.foldl (fun acc x => Members.insert x.1 x.2 acc) done)).Canonical := by
    intro new
    induction new with
    | nil => exact fun _ _ h => h
    | cons x rest ih =>
        exact fun done hnew hdone => ih _ hnew.2 (Json.canonical_insert x.1 hnew.1 hdone)
  exact key o.overrides defaults o.canonical.2 ⟨by decide, trivial, trivial, trivial⟩

namespace Module

open Text (append_cons_inj)

/-! ### Lines -/

/-- The characters of some parts, each of which is followed by a line break. -/
def lineChars (texts : List String) : List Char := texts.flatMap fun t => t.toList ++ ['\n']

/-- The text of a module has the characters of its parts, with a line break behind each of them. -/
theorem toList_lines_append {texts : List String} (h : texts ≠ []) :
    (lines texts ++ "\n").toList = lineChars texts := by
  induction texts with
  | nil => exact absurd rfl h
  | cons t rest ih =>
      cases rest with
      | nil =>
          show ("\n".intercalate [t] ++ "\n").toList = _
          rw [String.intercalate_singleton, String.toList_append]
          simp [lineChars]
      | cons u rest =>
          have hrest := ih (List.cons_ne_nil u rest)
          show ("\n".intercalate (t :: u :: rest) ++ "\n").toList = _
          rw [String.intercalate_cons_cons, String.append_assoc, String.append_assoc,
            String.toList_append, String.toList_append]
          show t.toList ++ ("\n".toList ++ (lines (u :: rest) ++ "\n").toList) = _
          rw [hrest]
          simp [lineChars]

/-! ### Names -/

/-- Two lists of identifiers are the same if they are written the same with commas in between. A
comma cannot be part of an identifier. -/
theorem intercalate_inj {names names' : List String} (hne : names ≠ []) (hne' : names' ≠ [])
    (h : ∀ name ∈ names, isIdentifier name = true) (h' : ∀ name ∈ names', isIdentifier name = true)
    (heq : ", ".intercalate names = ", ".intercalate names') : names = names' := by
  induction names generalizing names' with
  | nil => exact absurd rfl hne
  | cons name rest ih =>
      -- Both lists start with the name up to the first comma, or to the end.
      obtain ⟨name', rest', rfl⟩ := List.exists_cons_of_ne_nil hne'
      obtain ⟨hname, hrest⟩ := List.forall_mem_cons.1 h
      obtain ⟨hname', hrest'⟩ := List.forall_mem_cons.1 h'
      have hcomma : ',' ∉ name.toList := notMem_of_isIdentifier hname (by decide)
      have hcomma' : ',' ∉ name'.toList := notMem_of_isIdentifier hname' (by decide)
      have hchars := congrArg String.toList heq
      -- A comma behind the first name says that there is another one.
      cases rest with
      | nil =>
          cases rest' with
          | nil =>
              rw [String.intercalate_singleton, String.intercalate_singleton] at heq
              rw [heq]
          | cons next' rest' =>
              rw [String.intercalate_singleton, toList_intercalate_cons] at hchars
              exact absurd (hchars ▸ List.mem_append_right _ List.mem_cons_self) hcomma
      | cons next rest =>
          cases rest' with
          | nil =>
              rw [String.intercalate_singleton, toList_intercalate_cons] at hchars
              exact absurd (hchars ▸ List.mem_append_right _ List.mem_cons_self) hcomma'
          | cons next' rest' =>
              rw [toList_intercalate_cons, toList_intercalate_cons] at hchars
              obtain ⟨hfirst, htail⟩ := append_cons_inj hcomma hcomma' hchars
              have hothers := String.toList_inj.1 (List.cons.inj htail).2
              rw [String.toList_inj.1 hfirst, ih (List.cons_ne_nil _ _) (List.cons_ne_nil _ _)
                hrest hrest' hothers]

/-! ### The line of the imported types -/

/-- A single identifier is never written like names between braces, since a brace cannot be part of
it. -/
theorem bracedNames_ne {name : String} (h : isIdentifier name = true) (names : List String) :
    bracedNames names ≠ name := by
  -- The opening brace is in no identifier.
  rintro rfl
  refine notMem_of_isIdentifier h (c := '\x7b') (by decide) ?_
  rw [toList_bracedNames]
  exact List.mem_cons_self

/-- Two modules have the same types if the lists of these between braces are written the same. -/
theorem bracedNames_inj {d d' : Document} {o o' : GenerationOptions} (h : Accepts d o)
    (h' : Accepts d' o') (heq : bracedNames o.uniqueTypeNames = bracedNames o'.uniqueTypeNames) :
    o.uniqueTypeNames = o'.uniqueTypeNames := by
  have hchars := congrArg String.toList heq
  rw [toList_bracedNames, toList_bracedNames] at hchars
  have hinner := List.append_cancel_right (List.cons.inj hchars).2
  exact intercalate_inj h.named h'.named h.identifiers h'.identifiers (String.toList_inj.1 hinner)

/-- The line of the imported types names either the types between braces, or a single type that is
not a named export. -/
theorem importTarget_cases {d : Document} {o : GenerationOptions} (h : Accepts d o) :
    (importTarget d o = bracedNames o.uniqueTypeNames ∧ (d.shape = .single → o.namedExport = true)) ∨
      ∃ name, importTarget d o = name ∧ o.uniqueTypeNames = [name] ∧ isIdentifier name = true ∧
        o.namedExport = false := by
  unfold importTarget
  cases hshape : d.shape with
  | multi => exact .inl ⟨rfl, fun hsingle => by cases hsingle⟩
  | single =>
      obtain ⟨name, hname⟩ := (h.single hshape).1
      cases hexport : o.namedExport with
      | true => exact .inl ⟨rfl, fun _ => rfl⟩
      | false =>
          refine .inr ⟨name, ?_, hname, h.identifiers name (by simp [hname]), rfl⟩
          rw [hname]
          rfl

/-- The types of a module can be told from the names in the line that imports them. For documents of
one type it can also be told whether this type is a named export. -/
theorem importTarget_inj {d d' : Document} {o o' : GenerationOptions} (h : Accepts d o)
    (h' : Accepts d' o') (heq : importTarget d o = importTarget d' o') :
    o.uniqueTypeNames = o'.uniqueTypeNames ∧
      (d.shape = .single → d'.shape = .single → o.namedExport = o'.namedExport) := by
  rcases importTarget_cases h with ⟨ht, hexport⟩ | ⟨name, ht, hnames, hname, hexport⟩
  · rcases importTarget_cases h' with ⟨ht', hexport'⟩ | ⟨name', ht', hnames', hname', hexport'⟩
    · rw [ht, ht'] at heq
      exact ⟨bracedNames_inj h h' heq, fun hs hs' => (hexport hs).trans (hexport' hs').symm⟩
    · rw [ht, ht'] at heq
      exact absurd heq (bracedNames_ne hname' _)
  · rcases importTarget_cases h' with ⟨ht', hexport'⟩ | ⟨name', ht', hnames', hname', hexport'⟩
    · rw [ht, ht'] at heq
      exact absurd heq.symm (bracedNames_ne hname _)
    · rw [ht, ht'] at heq
      exact ⟨by rw [hnames, hnames', heq], fun _ _ => hexport.trans hexport'.symm⟩

/-- The names in the line of the imported types and the path behind them can be told from this
line. -/
theorem importLine_inj {d d' : Document} {o o' : GenerationOptions} (h : Accepts d o)
    (h' : Accepts d' o') (heq : importLine d o = importLine d' o') :
    importTarget d o = importTarget d' o' ∧ o.importPath = o'.importPath := by
  have hchars := congrArg String.toList heq
  rw [toList_importLine, toList_importLine] at hchars
  -- The first quote is the one that opens the path, and the next one closes it.
  have hfront : ∀ {d : Document} {o : GenerationOptions}, Accepts d o →
      '\'' ∉ (importTarget d o).toList ++ " from ".toList := by
    intro d o h
    rw [List.mem_append]
    rintro (hmem | hmem)
    · exact notMem_importTarget h (by decide) (by decide) hmem
    · exact absurd hmem (by decide)
  obtain ⟨htarget, hpath⟩ := append_cons_inj (hfront h) (hfront h') (List.append_cancel_left hchars)
  obtain ⟨hpath, -⟩ := append_cons_inj (notMem_importPath h (by decide))
    (notMem_importPath h' (by decide)) hpath
  exact ⟨String.toList_inj.1 (List.append_cancel_right htarget), String.toList_inj.1 hpath⟩

/-! ### Reading the text from its start -/

/-- The characters of several parts are those of the first one, a line break, and those of the
others. -/
theorem lineChars_cons (t : String) (rest : List String) :
    lineChars (t :: rest) = t.toList ++ '\n' :: lineChars rest := by
  simp [lineChars]

/-- If two texts of parts start with the same part, then the other parts have the same
characters. -/
theorem lineChars_cons_inj {t : String} {rest rest' : List String}
    (h : lineChars (t :: rest) = lineChars (t :: rest')) : lineChars rest = lineChars rest' := by
  rw [lineChars_cons, lineChars_cons] at h
  exact (List.cons.inj (List.append_cancel_left h)).2

/-- If two texts of parts are the same and each starts with a part of one line, then the first parts
are the same and so are the characters of the others. -/
theorem lineChars_inj {t t' : String} {rest rest' : List String} (ht : '\n' ∉ t.toList)
    (ht' : '\n' ∉ t'.toList) (h : lineChars (t :: rest) = lineChars (t' :: rest')) :
    t = t' ∧ lineChars rest = lineChars rest' := by
  rw [lineChars_cons, lineChars_cons] at h
  obtain ⟨hfirst, hrest⟩ := append_cons_inj ht ht' h
  exact ⟨String.toList_inj.1 hfirst, hrest⟩

/-- The way in which the engine is imported can be told from the line that imports it. -/
theorem importEngine_inj {s s' : ImportStyle} (h : importEngine s = importEngine s') : s = s' := by
  cases s <;> cases s' <;> first | rfl | exact absurd h (by decide)

/-- What the part with the engine has behind the options, up to the end of its last line. -/
def engineEnd : List Char :=
  ")".toList ++ ";\n\najv.addMetaSchema(require('ajv/lib/refs/json-schema-draft-06.json'));".toList

/-- The characters of the part with the engine, cut where the options start and where they end. The
first cut is behind the character by which this part differs from the helpers for requests. -/
theorem toList_declareEngine (o : EngineOptions) :
    (declareEngine o).toList = "export c".toList ++ ("onst ajv = new Ajv(".toList
      ++ ((Json.object o.merged).compactChars ++ engineEnd)) := by
  -- Sorting the keys changes nothing, since they are in order.
  have hcompact : (Json.object o.merged).stableCompact.toList
      = (Json.object o.merged).compactChars := by
    rw [Json.stableCompact, Json.sortKeys_of_canonical _ o.canonical_merged, Json.compact,
      String.toList_ofList]
  unfold declareEngine lines
  rw [String.intercalate_cons_cons, String.intercalate_cons_cons, String.intercalate_singleton]
  simp only [String.toList_append, hcompact, engineEnd]
  simp

/-- The characters of the part with the schema, cut around the name of its constant and in front of
the schema. -/
theorem toList_declareSchema (name : String) {v : Json} (hv : v.Canonical) :
    (declareSchema name v).toList = "export const ".toList ++ (name.toList
      ++ ' ' :: ("= ".toList ++ (v.prettyChars 0 ++ [';']))) := by
  unfold declareSchema
  rw [Json.stablePretty, Json.sortKeys_of_canonical v hv, Json.pretty]
  simp

/-- The helpers for requests start with other characters than the engine does, so whether there are
any can be told from the text. -/
theorem contextParts_inj {o o' : GenerationOptions} {rest rest' : List String}
    (h : lineChars (contextParts o ++ declareEngine o.engine :: rest)
      = lineChars (contextParts o' ++ declareEngine o'.engine :: rest')) :
    o.emitsHttp = o'.emitsHttp ∧ lineChars (declareEngine o.engine :: rest)
      = lineChars (declareEngine o'.engine :: rest') := by
  have hengine : ∀ (e : EngineOptions) (rest : List String), ∃ cs,
      lineChars (declareEngine e :: rest) = "export c".toList ++ cs := fun e rest =>
    ⟨_, by rw [lineChars_cons, toList_declareEngine, List.append_assoc]⟩
  have hcontext : ∀ rest : List String, ∃ cs,
      lineChars (declareRequestContext :: rest) = "export i".toList ++ cs := by
    intro rest
    have hfirst : "export interface KoaContext \x7b"
        = "export i" ++ "nterface KoaContext \x7b" := by decide
    unfold declareRequestContext lines
    rw [lineChars_cons, String.intercalate_cons_cons, hfirst, String.toList_append,
      String.toList_append, String.toList_append, List.append_assoc, List.append_assoc,
      List.append_assoc]
    exact ⟨_, rfl⟩
  -- The eighth character tells the two parts apart.
  have hne : ∀ cs cs' : List Char, "export c".toList ++ cs ≠ "export i".toList ++ cs' := by
    intro cs cs' heq
    have hfront := congrArg (List.take 8) heq
    rw [List.take_left' (by decide), List.take_left' (by decide)] at hfront
    exact absurd hfront (by decide)
  unfold contextParts at h
  -- One text has the helpers and the other has not only if an interface reads as a constant.
  cases hhttp : o.emitsHttp <;> cases hhttp' : o'.emitsHttp <;> rw [hhttp, hhttp'] at h
  · exact ⟨rfl, h⟩
  · obtain ⟨cs, hcs⟩ := hengine o.engine rest
    obtain ⟨cs', hcs'⟩ := hcontext (declareEngine o'.engine :: rest')
    exact absurd (hcs.symm.trans (h.trans hcs')) (hne cs cs')
  · obtain ⟨cs, hcs⟩ := hengine o'.engine rest'
    obtain ⟨cs', hcs'⟩ := hcontext (declareEngine o.engine :: rest)
    exact absurd (hcs.symm.trans (h.symm.trans hcs')) (hne cs cs')
  · exact ⟨rfl, lineChars_cons_inj h⟩

/-- The options in force can be told from a text that starts with the part of the engine, because
the text of an object shows where it ends. -/
theorem declareEngine_inj {e e' : EngineOptions} {rest rest' : List String}
    (h : lineChars (declareEngine e :: rest) = lineChars (declareEngine e' :: rest')) :
    e.merged = e'.merged ∧ lineChars rest = lineChars rest' := by
  rw [lineChars_cons, lineChars_cons, toList_declareEngine, toList_declareEngine] at h
  simp only [List.append_assoc] at h
  -- A bracket ends the options, so that a number at their end cannot go on.
  have hjson := List.append_cancel_left (List.append_cancel_left h)
  have hends : ∀ cs : List Char, Json.EndsNumber (engineEnd ++ cs) := fun cs =>
    Json.endsNumber_cons (by decide) _
  obtain ⟨hmerged, hrest⟩ := Json.compactChars_append_inj e.canonical_merged e'.canonical_merged
    (hends _) (hends _) hjson
  exact ⟨Json.object.inj hmerged, (List.cons.inj (List.append_cancel_left hrest)).2⟩

/-- The schema can be told from a text that starts with the part of the schema, whatever the
constants are called. -/
theorem declareSchema_inj {name name' : String} {v v' : Json} {rest rest' : List String}
    (hname : ' ' ∉ name.toList) (hname' : ' ' ∉ name'.toList) (hv : v.Canonical)
    (hv' : v'.Canonical)
    (h : lineChars (declareSchema name v :: rest) = lineChars (declareSchema name' v' :: rest')) :
    v = v' := by
  rw [lineChars_cons, lineChars_cons, toList_declareSchema name hv, toList_declareSchema name' hv']
    at h
  simp only [List.append_assoc, List.cons_append] at h
  -- The name ends at the first blank, and the schema where its reader stops.
  obtain ⟨-, hvalue⟩ := append_cons_inj hname hname' (List.append_cancel_left h)
  have hends : ∀ cs : List Char, Json.EndsNumber ([';'] ++ cs) := fun cs =>
    Json.endsNumber_cons (by decide) _
  exact (Json.prettyChars_append_inj hv hv' (hends _) (hends _) (List.append_cancel_left hvalue)).1

/-- A module determines what it was generated from. Modules with the same text are of the same
document, with the same types, path, options of the engine, import of the engine, and helpers for
requests; and for a document of one type, that type is imported in the same way. -/
theorem generate_injective {d d' : Document} {o o' : GenerationOptions} {a a' : Artifact}
    (h : generate d o = .ok a) (h' : generate d' o' = .ok a') (htext : a.text = a'.text) :
    d.root = d'.root ∧ d.shape = d'.shape ∧ o.uniqueTypeNames = o'.uniqueTypeNames ∧
      o.importPath = o'.importPath ∧ o.engine.merged = o'.engine.merged ∧
      o.compiler.importStyle = o'.compiler.importStyle ∧ o.emitsHttp = o'.emitsHttp ∧
      (d.shape = .single → o.namedExport = o'.namedExport) := by
  obtain ⟨haccepts, rfl⟩ := generate_eq_ok_iff.1 h
  obtain ⟨haccepts', rfl⟩ := generate_eq_ok_iff.1 h'
  have hchars := congrArg String.toList htext
  simp only [parts_eq haccepts, parts_eq haccepts'] at hchars
  rw [toList_lines_append (List.cons_ne_nil _ _), toList_lines_append (List.cons_ne_nil _ _)]
    at hchars
  -- The first three lines are always the same.
  have hhead := lineChars_cons_inj (lineChars_cons_inj (lineChars_cons_inj hchars))
  obtain ⟨hengine, himport⟩ := lineChars_inj (newline_notMem_importEngine _)
    (newline_notMem_importEngine _) hhead
  have hstyle := importEngine_inj hengine
  -- The line of the types gives the names and the path.
  obtain ⟨hline, hbody⟩ := lineChars_inj (newline_notMem_importLine haccepts)
    (newline_notMem_importLine haccepts') himport
  obtain ⟨htarget, hpath⟩ := importLine_inj haccepts haccepts' hline
  obtain ⟨hnames, hexport⟩ := importTarget_inj haccepts haccepts' htarget
  -- Behind it stand the helpers if any, the engine, the exported names and the schema.
  obtain ⟨hhttp, hoptions⟩ := contextParts_inj hbody
  obtain ⟨hmerged, hschema⟩ := declareEngine_inj hoptions
  rw [hnames] at hschema
  have hroot := declareSchema_inj (notMem_schemaName haccepts (by decide))
    (notMem_schemaName haccepts' (by decide)) d.canonical d'.canonical (lineChars_cons_inj hschema)
  -- The shape is read off the document.
  have hd : d = d' := Document.ext_root hroot
  subst hd
  exact ⟨rfl, rfl, hnames, hpath, hmerged, hstyle, hhttp, fun hs => hexport hs hs⟩

/-- Two generations give the same module although they differ in what is ignored: a name given
twice, an option of the engine set to its default, and a module system. -/
theorem generate_injective_repeated_name : ∃ (o o' : GenerationOptions) (a a' : Artifact),
    o.typeNames = ["A"] ∧ o'.typeNames = ["A", "A"] ∧ o.engine.overrides = [] ∧
      o'.engine.overrides = [("allErrors", .bool true)] ∧ o.compiler.moduleSystem = none ∧
      o'.compiler.moduleSystem = some "commonjs" ∧ generate default o = .ok a ∧
      generate default o' = .ok a' ∧ a.text = a'.text ∧ o.uniqueTypeNames = o'.uniqueTypeNames ∧
      o.importPath = o'.importPath ∧ o.engine.merged = o'.engine.merged ∧
      o.compiler.importStyle = o'.compiler.importStyle ∧ o.emitsHttp = o'.emitsHttp ∧
      ((default : Document).shape = .single → o.namedExport = o'.namedExport) := by
  let o : GenerationOptions := { typeNames := ["A"], importPath := "./a" }
  let o' : GenerationOptions :=
    { typeNames := ["A", "A"], importPath := "./a",
      engine := EngineOptions.default.set "allErrors" (.bool true),
      compiler := { moduleSystem := some "commonjs" } }
  have haccepts : Accepts default o :=
    ⟨by decide, by decide +kernel, by decide, by decide +kernel, fun _ => ⟨⟨"A", rfl⟩, rfl⟩,
      fun h => absurd h (by decide)⟩
  have haccepts' : Accepts default o' :=
    ⟨by decide, by decide +kernel, by decide, by decide +kernel, fun _ => ⟨⟨"A", rfl⟩, rfl⟩,
      fun h => absurd h (by decide)⟩
  have hstyle : o'.compiler.importStyle = o.compiler.importStyle := by decide +kernel
  have htext : lines (parts default o o.uniqueTypeNames) ++ "\n"
      = lines (parts default o' o'.uniqueTypeNames) ++ "\n" := by
    rw [parts, parts, head, head, hstyle]
    rfl
  have hok := generate_eq_ok_iff.2 ⟨haccepts, rfl⟩
  have hok' := generate_eq_ok_iff.2 ⟨haccepts', rfl⟩
  obtain ⟨-, -, hsame⟩ := generate_injective hok hok' htext
  exact ⟨o, o', _, _, rfl, rfl, rfl, rfl, rfl, rfl, hok, hok', htext, hsame⟩

end Module

end SchemaGate
