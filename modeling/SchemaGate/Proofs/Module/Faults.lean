import SchemaGate.Proofs.Engine.Registration
import SchemaGate.Proofs.Json.Canonical
import SchemaGate.Proofs.Module.Bindings
import SchemaGate.Proofs.Module.Injective
import SchemaGate.Proofs.Module.Requests

/-!
# `SchemaGate.Proofs.Module.Faults`: which fault a request is refused for

A request is refused for the first of the `findings` of its checks. A request without faults gives a
module that needs no further check: there is a first type, and the predicates look up types that the
emitted schema defines (`lookedUpKeys_eq`). `generate_first_fault` puts both together.
-/

set_option autoImplicit false

namespace SchemaGate.Module

/-! ### Keys that predicates look up -/

/-- The key under which the constant on a line is looked up in the engine, if the line declares a
constant that is. -/
def lookedUpKey? (line : String) : Option String := do
  let named ← after? "export const " line.toList
  let call ← after? " = ajv.getSchema('" (named.dropWhile (· != ' '))
  return String.ofList (call.takeWhile (· != '\''))

/-- The keys under which a module looks up its constants, in the order of their declarations. -/
def lookedUpKeys (text : String) : List String := (declarations text).filterMap lookedUpKey?

/-- If a line starts with a text, then what follows this start is the rest of the line. -/
theorem after?_append {start : String} (cs : List Char) :
    after? start (start.toList ++ cs) = some cs := by
  rw [after?, if_pos (List.isPrefixOf_iff_prefix.2 (List.prefix_append _ _)), List.drop_left]

/-- A line does not start with a text if it starts with another one, and neither of these two texts
begins the other. -/
theorem after?_eq_none {start other line : String} (hline : StartsWith other line)
    (h : ¬ other.toList <+: start.toList) (h' : ¬ start.toList <+: other.toList) :
    after? start line.toList = none := by
  refine if_neg fun hstart => ?_
  rcases List.prefix_or_prefix_of_prefix hline (List.isPrefixOf_iff_prefix.1 hstart) with
    hprefix | hprefix
  · exact h hprefix
  · exact h' hprefix

/-- On a line that declares no constant nothing is looked up, as is seen from how the line
starts. -/
theorem lookedUpKey?_of_startsWith {start line : String} (hline : StartsWith start line)
    (h : ¬ start.toList <+: "export const ".toList)
    (h' : ¬ "export const ".toList <+: start.toList) : lookedUpKey? line = none := by
  rw [lookedUpKey?, after?_eq_none hline h h']
  rfl

/-- The constant on a line is looked up exactly if the call follows its name, and then under the key
between the quotes of the call. -/
theorem lookedUpKey?_constant {name next : String} (hname : ' ' ∉ name.toList)
    (hnext : next.toList.head? = some ' ') :
    lookedUpKey? ("export const " ++ (name ++ next))
      = (after? " = ajv.getSchema('" next.toList).map fun call =>
        String.ofList (call.takeWhile (· != '\'')) := by
  have hdrop : (name.toList ++ next.toList).dropWhile (· != ' ') = next.toList := by
    obtain ⟨cs, hcs⟩ := List.head?_eq_some_iff.1 hnext
    have hfree : ∀ c ∈ name.toList, (c != ' ') = true := by
      intro c hc
      refine bne_iff_ne.2 ?_
      rintro rfl
      exact hname hc
    rw [List.dropWhile_append_of_pos hfree, hcs, List.dropWhile_cons_of_neg (by simp)]
  rw [lookedUpKey?, String.toList_append, String.toList_append, after?_append]
  show (after? _ ((name.toList ++ next.toList).dropWhile (· != ' '))).bind _ = _
  rw [hdrop]
  cases after? " = ajv.getSchema('" next.toList <;> rfl

/-- There is no blank in the name of a predicate, because there is none in the name of its type. -/
theorem blank_notMem_predicate {name : String} (h : isIdentifier name = true) :
    ' ' ∉ ("is" ++ name).toList :=
  notMem_append_iff.2 ⟨by decide, notMem_of_isIdentifier h (by decide)⟩

/-- The predicate of one of several types is looked up under the key of this type. -/
theorem lookedUpKey?_predicateLine {name : String} (h : isIdentifier name = true) :
    lookedUpKey? (predicateLine name) = some (registryKey name none) := by
  have hquote : ∀ c ∈ "Schema#/definitions/".toList ++ name.toList, (c != '\'') = true := by
    intro c hc
    refine bne_iff_ne.2 ?_
    rintro rfl
    rcases List.mem_append.1 hc with hc | hc
    · exact absurd hc (by decide)
    · exact notMem_of_isIdentifier h (by decide) hc
  have hline : predicateLine name = "export const " ++ (("is" ++ name)
      ++ (" = ajv.getSchema('" ++ ("Schema#/definitions/" ++ name
        ++ ("')! as ValidateFunction<" ++ name ++ ">;")))) := by
    have hstart : "export const is" = "export const " ++ "is" := by decide
    have hcall : " = ajv.getSchema('Schema#/definitions/"
        = " = ajv.getSchema('" ++ "Schema#/definitions/" := by decide
    unfold predicateLine
    rw [hstart, hcall]
    simp only [String.append_assoc]
  rw [hline, lookedUpKey?_constant (blank_notMem_predicate h) (by rw [String.toList_append]; rfl),
    String.toList_append, after?_append, String.toList_append, String.toList_append]
  have hend : ("')! as ValidateFunction<" ++ name ++ ">;").toList
      = '\'' :: (")! as ValidateFunction<" ++ name ++ ">;").toList := by
    simp only [String.toList_append]
    rfl
  rw [hend, Option.map_some, List.takeWhile_append_of_pos hquote,
    List.takeWhile_cons_of_neg (by simp), List.append_nil]
  have hkey : registryKey name none = "Schema#/definitions/" ++ name := rfl
  rw [hkey, ← String.toList_append, String.ofList_toList]

/-- A constant whose name is followed by something other than the call is not looked up. -/
theorem lookedUpKey?_of_constant {name next : String} (hname : ' ' ∉ name.toList)
    (hnext : next.toList.head? = some ' ')
    (h : after? " = ajv.getSchema('" next.toList = none) :
    lookedUpKey? ("export const " ++ (name ++ next)) = none := by
  rw [lookedUpKey?_constant hname hnext, h]
  rfl

/-- The constant of the engine is created on its line and not looked up. -/
theorem lookedUpKey?_engineLine (e : EngineOptions) : lookedUpKey? (engineLine e) = none := by
  have hstart : "export const ajv = new Ajv(" = "export const " ++ ("ajv" ++ " = new Ajv(") := by
    decide
  unfold engineLine
  rw [hstart]
  simp only [String.append_assoc]
  refine lookedUpKey?_of_constant (by decide) (by rw [String.toList_append]; rfl) ?_
  exact after?_eq_none (StartsWith.refl _).append (by decide) (by decide)

/-- The constant of the schema is written out on its line and not looked up. -/
theorem lookedUpKey?_schemaLine {d : Document} {o : GenerationOptions} (h : Accepts d o)
    (members : Members) : lookedUpKey? (schemaLine (schemaName d o) members) = none := by
  unfold schemaLine
  simp only [String.append_assoc]
  refine lookedUpKey?_of_constant (notMem_schemaName h (by decide))
    (by rw [String.toList_append]; rfl) ?_
  split <;> decide

/-- The predicate of the only type of a document is compiled on its line and not looked up. -/
theorem lookedUpKey?_singleLine {name : String} (h : isIdentifier name = true) :
    lookedUpKey? (singleLine name) = none := by
  have hstart : "export const is" = "export const " ++ "is" := by decide
  have hregroup : ∀ a b c d : String, a ++ (b ++ (c ++ d)) = a ++ (b ++ c ++ d) := by
    simp only [String.append_assoc, implies_true]
  unfold singleLine
  rw [hstart]
  simp only [String.append_assoc]
  rw [hregroup]
  refine lookedUpKey?_of_constant (blank_notMem_predicate h) (by rw [String.toList_append]; rfl) ?_
  exact after?_eq_none (StartsWith.refl _).append (by decide) (by decide)

/-- Among the validators of a module, the predicates of several types are looked up in order, and
nothing else is. -/
theorem filterMap_validatorDeclarations {d : Document} {o : GenerationOptions}
    (h : Accepts d o) :
    (validatorDeclarations d o).filterMap lookedUpKey? = match d.shape with
      | .single => []
      | .multi => o.uniqueTypeNames.map (registryKey · none) := by
  -- The lines behind the predicates are those of functions.
  have hfunctions : ∀ {names : List String} {line : String → String} {start : String},
      (∀ name, StartsWith start (line name)) → ¬ start.toList <+: "export const ".toList →
      ¬ "export const ".toList <+: start.toList → (names.map line).filterMap lookedUpKey? = [] := by
    intro names line start hline h h'
    refine List.filterMap_eq_nil_iff.2 (List.forall_mem_map.2 fun name _ => ?_)
    exact lookedUpKey?_of_startsWith (hline name) h h'
  have hvalidate : lookedUpKey?
      "export function validate(typeName: string): (value: unknown) => any \x7b" = none := by
    decide
  have hrequest : lookedUpKey?
      "export function validateKoaRequest(typeName: string): (ctx: KoaContext) => \x7b"
        = none := by
    decide
  have hoverloads : (o.uniqueTypeNames.map validateOverload).filterMap lookedUpKey? = [] :=
    hfunctions (fun _ => (StartsWith.refl _).append.append.append.append) (by decide) (by decide)
  have hrequests : (if o.emitsHttp then requestDeclarations d o.uniqueTypeNames else []).filterMap
      lookedUpKey? = [] := by
    have hsignatures : (o.uniqueTypeNames.map requestLine).filterMap lookedUpKey? = [] :=
      hfunctions (fun _ => (StartsWith.refl _).append.append) (by decide) (by decide)
    unfold requestDeclarations
    split
    · split <;> simp [hsignatures, hrequest]
    · rfl
  unfold validatorDeclarations
  cases hshape : d.shape with
  | single =>
      obtain ⟨name, hname⟩ := (h.single hshape).1
      have hdefault : lookedUpKey? (defaultLine name) = none :=
        lookedUpKey?_of_startsWith (StartsWith.refl _).append.append (by decide) (by decide)
      have hsingle := lookedUpKey?_singleLine (h.identifiers name (by simp [hname]))
      simp [hname, hsingle, hdefault]
  | multi =>
      have hpredicates : (o.uniqueTypeNames.map predicateLine).filterMap lookedUpKey?
          = o.uniqueTypeNames.map (registryKey · none) := by
        rw [List.filterMap_map, ← List.filterMap_eq_map]
        exact List.filterMap_congr fun name hname =>
          lookedUpKey?_predicateLine (h.identifiers name hname)
      simp only [List.filterMap_append, List.filterMap_cons, List.filterMap_nil, hpredicates,
        hoverloads, hvalidate, hrequests, List.append_nil]

/-- A module looks up the predicate of each of its types if the document has several, and looks up
nothing if it has one. -/
theorem lookedUpKeys_eq {d : Document} {o : GenerationOptions} (h : Accepts d o) :
    lookedUpKeys (lines (parts d o o.uniqueTypeNames) ++ "\n") = match d.shape with
      | .single => []
      | .multi => o.uniqueTypeNames.map (registryKey · none) := by
  have hinspect : lookedUpKey? "import inspect from 'util-inspect';" = none := by decide
  have hengine : lookedUpKey? (importEngine o.compiler.importStyle) = none := by
    cases o.compiler.importStyle <;> decide
  have himport : lookedUpKey? (importLine d o) = none :=
    lookedUpKey?_of_startsWith (StartsWith.refl _).append.append.append.append (by decide)
      (by decide)
  have hcontext : (if o.emitsHttp then ["export interface KoaContext \x7b"] else []).filterMap
      lookedUpKey? = [] := by
    cases o.emitsHttp <;> decide
  have hexport : lookedUpKey? (exportNames o.uniqueTypeNames) = none := by
    have hline : StartsWith "export \x7b" (exportNames o.uniqueTypeNames) := by
      rw [StartsWith, exportNames, String.toList_append, String.toList_append, toList_bracedNames]
      exact ⟨_, rfl⟩
    exact lookedUpKey?_of_startsWith hline (by decide) (by decide)
  have halias : lookedUpKey? declareValidateFunction = none := by decide
  rw [lookedUpKeys, declarations_text h, moduleDeclarations]
  simp only [List.filterMap_append, List.filterMap_cons, List.filterMap_nil, hinspect, hengine,
    himport, hcontext, lookedUpKey?_engineLine, hexport, lookedUpKey?_schemaLine h, halias,
    List.nil_append]
  exact filterMap_validatorDeclarations h

/-! ### The schema that they are looked up in -/

/-- A text declares a constant with a certain value, on lines of its own. -/
def DeclaresConstant (text name value : String) : Prop :=
  ∃ before after, text = before ++ ("\nexport const " ++ name ++ " = " ++ value ++ ";\n") ++ after

/-- A module declares the constant of the schema, and the value of this constant is the text of the
document. -/
theorem declaresConstant_schema {d : Document} {o : GenerationOptions} (h : Accepts d o) :
    DeclaresConstant (lines (parts d o o.uniqueTypeNames) ++ "\n") (schemaName d o)
      d.root.stablePretty := by
  -- The schema stands behind the line that exports the types.
  obtain ⟨front, back, hparts⟩ : ∃ front back, parts d o o.uniqueTypeNames
      = front ++ [exportNames o.uniqueTypeNames]
        ++ declareSchema (schemaName d o) d.root :: back :=
    ⟨lintMarker :: generatedMarker :: importInspect :: importEngine o.compiler.importStyle
        :: importLine d o :: (contextParts o ++ [declareEngine o.engine]),
      validatorParts d o, by rw [parts_eq h]; simp⟩
  have hne : parts d o o.uniqueTypeNames ≠ [] := by simp [hparts]
  have hchars := toList_lines_append hne
  refine ⟨String.ofList (lineChars front) ++ exportNames o.uniqueTypeNames,
    String.ofList (lineChars back), String.toList_inj.1 ?_⟩
  rw [hchars, hparts, declareSchema]
  simp [lineChars]

/-- A type of a document is what is found in its root under the definitions and then under the
name. -/
theorem definition?_eq_get? (d : Document) (name : String) :
    d.definition? name = (d.root.get? "definitions").bind (·.get? name) := by
  show ((d.members.lookup "definitions").bind Json.members?).bind _
    = (d.members.lookup "definitions").bind _
  cases d.members.lookup "definitions" with
  | none => rfl
  | some v => cases v <;> rfl

/-- The names of the types come in the order of their bytes, which is the order of their characters
as well. -/
theorem pairwise_bytes_definitionNames (d : Document) : d.definitionNames.Pairwise fun a b =>
    Text.Utf8.encode a.toList < Text.Utf8.encode b.toList :=
  List.pairwise_map.2 (Json.bytes_lt_of_ordered d.canonical_definitions.1)

/-- The outcome of a generation, for all documents and options:

- it fails with what the first check finds that finds something, and otherwise it succeeds;
- the names that a refusal offers for an unknown type are those of all types, in the order of
  their bytes;
- a module has the types that were asked for, each once and in the order in which they first come
  up, and at least one, which is the one that a document for a single type is emitted for;
- the predicates of several types, and nothing else, are looked up in the engine, each under the
  key of its type; and the constant `Schema` of the module is read back as a document that defines
  this type. -/
theorem generate_first_fault (d : Document) (o : GenerationOptions) :
    (∀ fault, generate d o = .error fault ↔ ∃ before after,
      findings d o = before ++ some fault :: after ∧ ∀ found ∈ before, found = none) ∧
    ((∃ a, generate d o = .ok a) ↔ ∀ found ∈ findings d o, found = none) ∧
    (∀ name, name ∈ d.definitionNames ↔ (d.definition? name).isSome = true) ∧
    (d.definitionNames.Pairwise fun a b => Text.Utf8.encode a.toList < Text.Utf8.encode b.toList) ∧
    ∀ a, generate d o = .ok a →
      a.typeNames.Nodup ∧ (∀ name, name ∈ a.typeNames ↔ name ∈ o.typeNames) ∧
      (a.typeNames.Pairwise fun x y => o.typeNames.idxOf x < o.typeNames.idxOf y) ∧
      (∃ first rest, a.typeNames = first :: rest ∧ (d.shape = .single →
        rest = [] ∧ a.text = lines (head o ++ singleParts d o first) ++ "\n")) ∧
      lookedUpKeys a.text = (match d.shape with
        | .single => []
        | .multi => a.typeNames.map (registryKey · none)) ∧
      ∀ key ∈ lookedUpKeys a.text, ∃ name value root schema, key = registryKey name none ∧
        DeclaresConstant a.text rootKey value ∧ Json.parse? value = some root ∧
        (root.get? "definitions").bind (·.get? name) = some schema := by
  refine ⟨fun fault => ?_, ?_, fun name => Document.mem_definitionNames_iff,
    pairwise_bytes_definitionNames d, fun a h => ?_⟩
  · rw [generate_eq_error_iff, List.findSome?_eq_some_iff]
    constructor
    · rintro ⟨before, found, after, heq, rfl, hbefore⟩
      exact ⟨before, after, heq, hbefore⟩
    · rintro ⟨before, after, heq, hbefore⟩
      exact ⟨before, some fault, after, heq, rfl, hbefore⟩
  · rw [exists_generate_iff, List.findSome?_eq_none_iff]
    rfl
  · obtain ⟨haccepts, rfl⟩ := generate_eq_ok_iff.1 h
    have hkeys := lookedUpKeys_eq haccepts
    refine ⟨o.nodup_uniqueTypeNames, fun name => GenerationOptions.mem_uniqueTypeNames_iff,
      GenerationOptions.pairwise_idxOf_distinct [] o.typeNames, ?_, hkeys, fun key hkey => ?_⟩
    · obtain ⟨first, rest, hnames⟩ := List.exists_cons_of_ne_nil haccepts.named
      refine ⟨first, rest, hnames, fun hshape => ?_⟩
      obtain ⟨name, hname⟩ := (haccepts.single hshape).1
      obtain ⟨rfl, rfl⟩ := List.cons.inj (hname.symm.trans hnames)
      refine ⟨rfl, ?_⟩
      show lines (parts d o o.uniqueTypeNames) ++ "\n" = _
      rw [parts, hshape, hnames]
      rfl
    · -- Only a document of several types has keys looked up, and the checks found them there.
      change key ∈ lookedUpKeys (lines (parts d o o.uniqueTypeNames) ++ "\n") at hkey
      rw [hkeys] at hkey
      cases hshape : d.shape with
      | single => rw [hshape] at hkey; cases hkey
      | multi =>
          rw [hshape] at hkey
          obtain ⟨name, hname, rfl⟩ := List.mem_map.1 hkey
          obtain ⟨schema, hschema⟩ := Option.isSome_iff_exists.1 (haccepts.multi hshape name hname)
          have hconstant := declaresConstant_schema haccepts
          rw [schemaName, hshape] at hconstant
          refine ⟨name, d.root.stablePretty, d.root, schema, rfl, hconstant, ?_, ?_⟩
          · exact d.parse?_root
          · rw [← definition?_eq_get?, hschema]

/-- Requests for types of a document: one with two faults, one with an unknown type, and one in
which a type comes up twice, whose predicates find what they look up. -/
theorem generate_first_fault_predicateDocument :
    generate predicateDocument (predicateOptions ["C", "b c"] true)
        = .error (.invalidTypeName "b c") ∧
      generate predicateDocument (predicateOptions ["isA", "C", "B"] true)
        = .error (.unknownType "C" ["A", "isA"]) ∧
      ∃ a, generate predicateDocument (predicateOptions ["isA", "A", "isA"] true) = .ok a ∧
        a.typeNames = ["isA", "A"] ∧
        lookedUpKeys a.text = ["Schema#/definitions/isA", "Schema#/definitions/A"] ∧
        ∃ value root schema, DeclaresConstant a.text "Schema" value ∧
          Json.parse? value = some root ∧
          (root.get? "definitions").bind (·.get? "isA") = some schema := by
  obtain ⟨hidentifier, -⟩ :=
    generate_first_fault predicateDocument (predicateOptions ["C", "b c"] true)
  obtain ⟨hunknown, -⟩ :=
    generate_first_fault predicateDocument (predicateOptions ["isA", "C", "B"] true)
  obtain ⟨-, hok, -, -, hmodule⟩ :=
    generate_first_fault predicateDocument (predicateOptions ["isA", "A", "isA"] true)
  refine ⟨(hidentifier _).2 ⟨[none, none, none],
      [none, none, some (.unknownType "C" ["A", "isA"])], by decide +kernel, by simp⟩,
    (hunknown _).2 ⟨[none, none, none, none, none, none], [], by decide +kernel, by simp⟩, ?_⟩
  obtain ⟨a, ha⟩ := hok.2 (by decide +kernel)
  obtain ⟨-, -, -, -, hkeys, hfound⟩ := hmodule a ha
  have hnames : a.typeNames = ["isA", "A"] := by
    rw [(generate_eq_ok_iff.1 ha).2]
    decide
  have hkeys : lookedUpKeys a.text = ["Schema#/definitions/isA", "Schema#/definitions/A"] := by
    rw [hkeys, hnames]
    decide
  obtain ⟨name, value, root, schema, hkey, hconstant, hparse, hschema⟩ :=
    hfound "Schema#/definitions/isA" (by rw [hkeys]; decide)
  obtain rfl : "isA" = name := registryKey_none_inj.1 hkey
  exact ⟨a, ha, hnames, hkeys, value, root, schema, hconstant, hparse, hschema⟩

end SchemaGate.Module
