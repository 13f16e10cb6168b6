import SchemaGate.Proofs.Json.Lines
import SchemaGate.Proofs.Module.Parts

/-!
# `SchemaGate.Proofs.Module.Declarations`: the declarations of a module

A module is loaded with all its declarations or not at all, so what a caller gives must not add one,
take one away or move one. A declaration of an emitted module starts on a line of its own with
`import` or `export`; `generate_declarations` lists these lines for every module.

The lines of a text made of parts are the lines of the parts (`declarations_lines`), so each part is
looked at by itself. Most are known but for a name inside one line; the schema is the only one with
as many lines as the caller likes, and all of these but the first start with a blank or a bracket.
-/

set_option autoImplicit false

namespace SchemaGate.Module

/-! ### Lines that start a declaration -/

/-- Whether a line starts an import or an export. Only the start is looked at, so this can be told
of every line of any text. -/
def isDeclaration (line : List Char) : Bool :=
  "import ".toList.isPrefixOf line || "export ".toList.isPrefixOf line

/-- The lines of a text that start an import or an export, in the order in which they stand
there. -/
def declarations (text : String) : List String :=
  ((text.toList.splitOn '\n').filter isDeclaration).map String.ofList

/-- If a text starts an import or an export, then it still does so with more text behind it. -/
theorem isDeclaration_append {cs : List Char} (h : isDeclaration cs = true) (rest : List Char) :
    isDeclaration (cs ++ rest) = true := by
  -- A text that starts a line also starts a longer one.
  have hstarts : ∀ start : List Char, start.isPrefixOf cs = true →
      start.isPrefixOf (cs ++ rest) = true := by
    intro start hstart
    rw [List.isPrefixOf_iff_prefix] at hstart ⊢
    exact hstart.trans (List.prefix_append _ _)
  rw [isDeclaration, Bool.or_eq_true] at h ⊢
  exact h.imp (hstarts _) (hstarts _)

/-- A line that starts with a blank or a closing bracket starts neither an import nor an export. -/
theorem isDeclaration_cons {c : Char} (hc : c ∈ [' ', ']', '\x7d']) (rest : List Char) :
    isDeclaration (c :: rest) = false := by
  -- Neither word starts with such a character.
  have hfirst : ∀ c ∈ [' ', ']', '\x7d'], 'i' ≠ c ∧ 'e' ≠ c := by simp
  obtain ⟨hi, he⟩ := hfirst c hc
  show (('i' :: "mport ".toList).isPrefixOf (c :: rest)
    || ('e' :: "xport ".toList).isPrefixOf (c :: rest)) = false
  simp [List.isPrefixOf, hi, he]

/-- If two texts are put together with a line break in between, then the declarations of the first
are followed by those of the second. -/
theorem declarations_append (s t : String) :
    declarations (s ++ "\n" ++ t) = declarations s ++ declarations t := by
  have htext : (s ++ "\n" ++ t).toList = s.toList ++ '\n' :: t.toList := by
    rw [String.toList_append, String.toList_append, List.append_assoc]
    rfl
  rw [declarations, htext, List.splitOn_append_cons_self, List.filter_append, List.map_append]
  rfl

/-- If a text is made of parts, one below the other, then its declarations are those of the parts in
order. There must be a part. -/
theorem declarations_lines {texts : List String} (h : texts ≠ []) :
    declarations (lines texts) = texts.flatMap declarations := by
  induction texts with
  | nil => exact absurd rfl h
  | cons t rest ih =>
      cases rest with
      | nil =>
          show declarations ("\n".intercalate [t]) = _
          rw [String.intercalate_singleton, List.flatMap_singleton]
      | cons u rest =>
          show declarations ("\n".intercalate (t :: u :: rest)) = _
          rw [String.intercalate_cons_cons, declarations_append, List.flatMap_cons]
          exact congrArg _ (ih (List.cons_ne_nil u rest))

/-- A character is missing from two texts put together exactly if it is missing from each of
them. -/
theorem notMem_append_iff {c : Char} {s t : String} :
    c ∉ (s ++ t).toList ↔ c ∉ s.toList ∧ c ∉ t.toList := by
  rw [String.toList_append, List.mem_append, not_or]

/-- A single line whose beginning starts an import or an export is one declaration, namely the whole
line. -/
theorem declarations_of_isDeclaration {s t : String} (hs : isDeclaration s.toList = true)
    (hline : '\n' ∉ (s ++ t).toList) : declarations (s ++ t) = [s ++ t] := by
  have hdeclares : isDeclaration (s ++ t).toList = true := by
    rw [String.toList_append]
    exact isDeclaration_append hs t.toList
  rw [declarations, List.splitOn_eq_singleton hline, List.filter_cons_of_pos hdeclares,
    List.filter_nil, List.map_singleton, String.ofList_toList]

/-- A single line that starts with a blank has no declaration in it, whatever it goes on with. -/
theorem declarations_of_blank {s t : String} {cs : List Char} (hs : s.toList = ' ' :: cs)
    (hline : '\n' ∉ (s ++ t).toList) : declarations (s ++ t) = [] := by
  have hdeclares : ¬ isDeclaration (s ++ t).toList = true := by
    rw [String.toList_append, hs, List.cons_append, isDeclaration_cons (by decide)]
    decide
  rw [declarations, List.splitOn_eq_singleton hline, List.filter_cons_of_neg hdeclares,
    List.filter_nil, List.map_nil]

/-- If the first character of a text is no line break, then it is also the first character of the
first line. -/
theorem exists_splitOn_eq_cons {c : Char} (hc : c ≠ '\n') (cs : List Char) :
    ∃ line rest, (c :: cs).splitOn '\n' = (c :: line) :: rest := by
  obtain ⟨line, rest, hlines⟩ := List.exists_cons_of_ne_nil (List.splitOn_ne_nil '\n' cs)
  refine ⟨line, rest, ?_⟩
  rw [List.splitOn_cons_eq_if_modifyHead, hlines, if_neg (by simpa using hc)]
  rfl

/-- In an indented text, no line after the first one starts an import or an export. -/
theorem isDeclaration_of_indented {cs : List Char} (h : Json.Indented cs) :
    ∀ line ∈ (cs.splitOn '\n').tail, isDeclaration line = false := by
  induction cs with
  | nil =>
      intro line hline
      cases hline
  | cons c cs ih =>
      intro line hline
      obtain ⟨first, rest, hlines⟩ := List.exists_cons_of_ne_nil (List.splitOn_ne_nil '\n' cs)
      rw [List.splitOn_cons_eq_if_modifyHead, hlines] at hline
      rw [hlines] at ih
      by_cases hc : c = '\n'
      · -- The line behind this break starts with the character that has to stand here.
        rw [if_pos (by simpa using hc)] at hline
        rcases List.mem_cons.1 hline with rfl | hline
        · obtain ⟨d, hd, hhead⟩ := h.1 hc
          obtain ⟨cs', rfl⟩ := List.head?_eq_some_iff.1 hhead
          have hbreak : d ≠ '\n' := (by simp : ∀ d ∈ [' ', ']', '\x7d'], d ≠ '\n') d hd
          obtain ⟨line', rest', hfirst⟩ := exists_splitOn_eq_cons hbreak cs'
          rw [hfirst] at hlines
          rw [← (List.cons.inj hlines).1]
          exact isDeclaration_cons hd line'
        · exact ih h.2 line hline
      · rw [if_neg (by simpa using hc)] at hline
        exact ih h.2 line hline

/-- If a declaration goes on in indented lines, then the text has this one declaration, which is its
first line. -/
theorem declarations_of_indented {t first : String} {body : List Char}
    (hfirst : isDeclaration first.toList = true) (hline : '\n' ∉ first.toList)
    (hbody : Json.Indented ('\n' :: body)) (ht : t.toList = first.toList ++ '\n' :: body) :
    declarations t = [first] := by
  -- The lines of the body are those behind the first break of the indented text.
  have hrest : (body.splitOn '\n').filter isDeclaration = [] := by
    refine List.filter_eq_nil_iff.2 fun line hmem => Bool.eq_false_iff.1 ?_
    refine isDeclaration_of_indented hbody line ?_
    rw [List.splitOn_cons_eq_if_modifyHead, if_pos (by decide)]
    exact hmem
  rw [declarations, ht, List.splitOn_append_cons_self_of_not_mem hline,
    List.filter_cons_of_pos hfirst, hrest, List.map_singleton, String.ofList_toList]

/-! ### Literals

Text that stands in the templates is looked at as a list of characters. -/

/-- A character is missing from a literal if it is missing from the list of its characters, which
can be decided. -/
theorem notMem_ofList {c : Char} {cs : List Char} (h : c ∉ cs) : c ∉ (String.ofList cs).toList := by
  rwa [String.toList_ofList]

/-- A literal starts an import or an export if the list of its characters does, which can be
decided. -/
theorem isDeclaration_ofList {cs : List Char} (h : isDeclaration cs = true) :
    isDeclaration (String.ofList cs).toList = true := by
  rwa [String.toList_ofList]

/-- The declarations of a literal are found by cutting the list of its characters into lines, which
can be computed. -/
theorem declarations_ofList (cs : List Char) : declarations (String.ofList cs)
    = ((cs.splitOn '\n').filter isDeclaration).map String.ofList := by
  rw [declarations, String.toList_ofList]

/-! ### Parts -/

/-- If the first of some parts is one declaration and the others have none, then all of them
together are this one declaration. -/
theorem declarations_lines_cons {first declared : String} {rest : List String}
    (hfirst : declarations first = [declared]) (hrest : ∀ t ∈ rest, declarations t = []) :
    declarations (lines (first :: rest)) = [declared] := by
  rw [declarations_lines (List.cons_ne_nil _ _), List.flatMap_cons, hfirst,
    List.flatMap_eq_nil_iff.2 hrest, List.append_nil]

/-- If each part of a family is one declaration, then the family has one declaration for each name,
in order. -/
theorem flatMap_declarations_map {names : List String} {part declared : String → String}
    (h : ∀ name ∈ names, declarations (part name) = [declared name]) :
    (names.map part).flatMap declarations = names.map declared := by
  induction names with
  | nil => rfl
  | cons name rest ih =>
      obtain ⟨hname, hrest⟩ := List.forall_mem_cons.1 h
      rw [List.map_cons, List.flatMap_cons, hname, ih hrest, List.map_cons, List.singleton_append]

/-- The line that imports the types is one declaration, because neither the names nor the path can
break it. -/
theorem declarations_importLine {d : Document} {o : GenerationOptions} (h : Accepts d o) :
    declarations (importLine d o) = [importLine d o] := by
  have hline := newline_notMem_importLine h
  unfold importLine at hline ⊢
  simp only [String.append_assoc] at hline ⊢
  exact declarations_of_isDeclaration (isDeclaration_ofList rfl) hline

/-- The line that creates the engine, with the options written on it. -/
def engineLine (o : EngineOptions) : String :=
  "export const ajv = new Ajv(" ++ (Json.object o.merged).stableCompact ++ ");"

/-- Creating the engine is one declaration. The options stand on its line, and they are written
without a line break whatever is in them. -/
theorem declarations_declareEngine (o : EngineOptions) :
    declarations (declareEngine o) = [engineLine o] := by
  have hoptions : '\n' ∉ (Json.object o.merged).stableCompact.toList :=
    notMem_ofList (Json.newline_notMem_compactChars _)
  have hfirst : declarations (engineLine o) = [engineLine o] := by
    unfold engineLine
    rw [String.append_assoc]
    refine declarations_of_isDeclaration (isDeclaration_ofList rfl) ?_
    simp only [notMem_append_iff]
    exact ⟨notMem_ofList (by decide), hoptions, notMem_ofList (by decide)⟩
  unfold declareEngine
  refine declarations_lines_cons hfirst ?_
  simp only [List.forall_mem_cons]
  refine ⟨?_, ?_, List.forall_mem_nil _⟩ <;> exact declarations_ofList _

/-- The line that exports the types again is one declaration, if none of the names breaks it. -/
theorem declarations_exportNames {names : List String}
    (h : ∀ name ∈ names, '\n' ∉ name.toList) :
    declarations (exportNames names) = [exportNames names] := by
  have hnames := notMem_bracedNames h (by decide)
  unfold exportNames
  rw [String.append_assoc]
  refine declarations_of_isDeclaration (isDeclaration_ofList rfl) ?_
  simp only [notMem_append_iff]
  exact ⟨notMem_ofList (by decide), hnames, notMem_ofList (by decide)⟩

/-- The line that opens a schema constant. If the schema has no members, then the constant is closed
on this line as well. -/
def schemaLine (name : String) (members : Members) : String :=
  "export const " ++ name ++ " = " ++ if members.isEmpty then "\x7b\x7d;" else "\x7b"

/-- A schema constant is one declaration, whatever the schema has in it, because all its further
lines are indented or close a bracket. -/
theorem declarations_declareSchema {name : String} (hname : '\n' ∉ name.toList)
    {members : Members} (h : (Json.object members).Canonical) :
    declarations (declareSchema name (.object members)) = [schemaLine name members] := by
  have hstart : isDeclaration ("export const " ++ name ++ " = ").toList = true := by
    rw [String.append_assoc, String.toList_append]
    exact isDeclaration_append (isDeclaration_ofList rfl) _
  have hline : '\n' ∉ ("export const " ++ name ++ " = ").toList := by
    simp only [notMem_append_iff]
    exact ⟨⟨notMem_ofList (by decide), hname⟩, notMem_ofList (by decide)⟩
  unfold declareSchema schemaLine
  rw [Json.stablePretty, Json.sortKeys_of_canonical _ h, Json.pretty, String.append_assoc]
  generalize "export const " ++ name ++ " = " = start at *
  cases members with
  | nil =>
      -- The text of an empty schema is on the line that opens it.
      exact declarations_of_isDeclaration hstart (notMem_append_iff.2 ⟨hline, by decide⟩)
  | cons m rest =>
      obtain ⟨key, v⟩ := m
      -- The text of the schema is its brace, a line break, and indented lines.
      have hindented := (Json.indented_prettyChars 0 (.object ((key, v) :: rest))).append
        (Json.Indented.line (by decide : '\n' ∉ ";".toList))
      obtain ⟨body, hbody⟩ : ∃ body, Json.prettyChars 0 (.object ((key, v) :: rest)) ++ ";".toList
          = '\x7b' :: '\n' :: body := ⟨_, rfl⟩
      rw [hbody] at hindented
      have hopening : isDeclaration (start ++ "\x7b").toList = true := by
        rw [String.toList_append]
        exact isDeclaration_append hstart _
      show _ = [start ++ "\x7b"]
      refine declarations_of_indented hopening
        (notMem_append_iff.2 ⟨hline, notMem_ofList (by decide)⟩) hindented.2 ?_
      rw [String.toList_append, String.toList_append, String.toList_ofList, hbody,
        String.toList_append, List.append_assoc]
      rfl

/-- The line that declares the predicate of the only type of a document. -/
def singleLine (typeName : String) : String :=
  "export const is" ++ typeName ++ " = ajv.compile(" ++ typeName ++ "Schema) as ValidateFunction<"
    ++ typeName ++ ">;"

/-- The line for the predicate of the only type is what the template puts together. -/
theorem singleLine_eq (typeName : String) :
    "export const is" ++ typeName ++ " = " ++ compileSchema (typeName ++ "Schema") typeName ++ ";"
      = singleLine typeName := by
  -- The template puts the line together from shorter literals.
  have hcompile : " = ajv.compile(" = " = " ++ "ajv.compile(" := by decide
  have hcast : "Schema) as ValidateFunction<" = "Schema" ++ ") as " ++ "ValidateFunction<" := by
    decide
  have hend : ">;" = ">" ++ ";" := by decide
  unfold singleLine compileSchema validateFunctionOf
  rw [hcompile, hcast, hend]
  simp only [String.append_assoc]

/-- The line for the predicate of the only type is one declaration, if the name of the type does not
break it. -/
theorem declarations_singleLine {typeName : String} (h : '\n' ∉ typeName.toList) :
    declarations (singleLine typeName) = [singleLine typeName] := by
  unfold singleLine
  simp only [String.append_assoc]
  refine declarations_of_isDeclaration (isDeclaration_ofList rfl) ?_
  simp only [notMem_append_iff]
  exact ⟨notMem_ofList (by decide), h, notMem_ofList (by decide), h, notMem_ofList (by decide), h,
    notMem_ofList (by decide)⟩

/-- The line that opens the function that throws, for the only type of a document. -/
def defaultLine (typeName : String) : String :=
  "export default function validate(value: unknown): " ++ typeName ++ " \x7b"

/-- The line that opens the function that throws is one declaration, if the name of the type does
not break it. -/
theorem declarations_defaultLine {typeName : String} (h : '\n' ∉ typeName.toList) :
    declarations (defaultLine typeName) = [defaultLine typeName] := by
  unfold defaultLine
  rw [String.append_assoc]
  refine declarations_of_isDeclaration (isDeclaration_ofList rfl) ?_
  simp only [notMem_append_iff]
  exact ⟨notMem_ofList (by decide), h, notMem_ofList (by decide)⟩

/-- The filter of the errors is written without a line break, so the line that it stands on is not
cut. -/
theorem newline_notMem_dropConditional : '\n' ∉ dropConditional.toList := notMem_ofList (by decide)

/-- Putting a text between braces adds no line break to it. -/
theorem newline_notMem_braced {text : String} (h : '\n' ∉ text.toList) :
    '\n' ∉ (braced text).toList := by
  unfold braced
  simp only [notMem_append_iff]
  exact ⟨⟨notMem_ofList (by decide), h⟩, notMem_ofList (by decide)⟩

/-- The validators of a module for one type are two declarations: the predicate, and the function
that throws. -/
theorem declarations_singleValidator {typeName : String} (h : '\n' ∉ typeName.toList) :
    declarations (singleValidator typeName (typeName ++ "Schema"))
      = [singleLine typeName, defaultLine typeName] := by
  have htest : declarations ("  if (is" ++ typeName ++ "(value)) \x7b") = [] := by
    rw [String.append_assoc]
    refine declarations_of_blank String.toList_ofList ?_
    simp only [notMem_append_iff]
    exact ⟨notMem_ofList (by decide), h, notMem_ofList (by decide)⟩
  have herrors : declarations ("      ajv.errorsText(is" ++ typeName ++ ".errors!" ++ dropConditional
      ++ ", " ++ braced ("dataVar: '" ++ typeName ++ "'") ++ ") +") = [] := by
    have hname : '\n' ∉ ("dataVar: '" ++ typeName ++ "'").toList :=
      notMem_append_iff.2 ⟨notMem_append_iff.2 ⟨notMem_ofList (by decide), h⟩,
        notMem_ofList (by decide)⟩
    have hbraced := newline_notMem_braced hname
    generalize braced ("dataVar: '" ++ typeName ++ "'") = options at hbraced ⊢
    simp only [String.append_assoc]
    refine declarations_of_blank String.toList_ofList ?_
    simp only [notMem_append_iff]
    exact ⟨notMem_ofList (by decide), h, notMem_ofList (by decide), newline_notMem_dropConditional,
      notMem_ofList (by decide), hbraced, notMem_ofList (by decide)⟩
  unfold singleValidator
  rw [declarations_lines (List.cons_ne_nil _ _), List.flatMap_cons, singleLine_eq,
    declarations_singleLine h, List.singleton_append, ← declarations_lines (List.cons_ne_nil _ _)]
  refine congrArg (singleLine typeName :: ·) ?_
  refine declarations_lines_cons (declarations_defaultLine h) ?_
  simp only [List.forall_mem_cons]
  refine ⟨htest, ?_, ?_, ?_, herrors, ?_, ?_, ?_, ?_, ?_, List.forall_mem_nil _⟩ <;>
    exact declarations_ofList _

/-- The line that opens the predicate of one of several types. -/
def predicateLine (typeName : String) : String :=
  "export const is" ++ typeName ++ " = ajv.getSchema('Schema#/definitions/" ++ typeName
    ++ "')! as ValidateFunction<" ++ typeName ++ ">;"

/-- The predicate of one of several types is one declaration, because its further lines are indented
or close a bracket. -/
theorem declarations_lookupPredicate {typeName : String} (h : '\n' ∉ typeName.toList) :
    declarations (lookupPredicate typeName) = [predicateLine typeName] := by
  have hpart : lookupPredicate typeName = predicateLine typeName := by
    have hkey : " = ajv.getSchema('Schema#/definitions/"
        = " = ajv.getSchema('" ++ "Schema" ++ "#/definitions/" := by decide
    have hcast : "')! as ValidateFunction<" = "')! as " ++ "ValidateFunction<" := by
      decide
    have hend : ">;" = ">" ++ ";" := by decide
    unfold lookupPredicate predicateLine registryKey validateFunctionOf rootKey
    rw [hkey, hcast, hend]
    simp only [String.append_assoc]
  rw [hpart]
  unfold predicateLine
  simp only [String.append_assoc]
  refine declarations_of_isDeclaration (isDeclaration_ofList rfl) ?_
  simp only [notMem_append_iff]
  exact ⟨notMem_ofList (by decide), h, notMem_ofList (by decide), h, notMem_ofList (by decide), h,
    notMem_ofList (by decide)⟩

/-- The signature of `validate` for one of several types is one declaration, if the name of the type
does not break it. -/
theorem declarations_validateOverload {typeName : String} (h : '\n' ∉ typeName.toList) :
    declarations (validateOverload typeName) = [validateOverload typeName] := by
  unfold validateOverload
  simp only [String.append_assoc]
  refine declarations_of_isDeclaration (isDeclaration_ofList rfl) ?_
  simp only [notMem_append_iff]
  exact ⟨notMem_ofList (by decide), h, notMem_ofList (by decide), h, notMem_ofList (by decide)⟩

/-- A key is written into the code without a line break, if what is put behind the name of the type
has none. -/
theorem newline_notMem_keyTemplate {rest : String} (h : '\n' ∉ rest.toList) :
    '\n' ∉ (keyTemplate rest).toList := by
  unfold keyTemplate registryKey rootKey
  simp only [notMem_append_iff]
  exact ⟨⟨⟨notMem_ofList (by decide), ⟨notMem_ofList (by decide), notMem_ofList (by decide)⟩,
    notMem_ofList (by decide), newline_notMem_braced (notMem_ofList (by decide))⟩, h⟩,
    notMem_ofList (by decide)⟩

/-- The body of `validate` is one declaration, which is the line that opens it. -/
theorem declarations_validateImplementation : declarations validateImplementation
    = ["export function validate(typeName: string): (value: unknown) => any \x7b"] := by
  have hlookup : declarations
      ("  const validator: any = ajv.getSchema(" ++ keyTemplate "" ++ ");") = [] := by
    rw [String.append_assoc]
    refine declarations_of_blank String.toList_ofList ?_
    simp only [notMem_append_iff]
    exact ⟨notMem_ofList (by decide), newline_notMem_keyTemplate (by decide),
      notMem_ofList (by decide)⟩
  have hmissing : declarations ("      throw new Error(\x60No validator defined for "
      ++ registryKey ("$" ++ braced "typeName") none ++ "\x60);") = [] := by
    rw [String.append_assoc]
    refine declarations_of_blank String.toList_ofList ?_
    simp only [notMem_append_iff]
    exact ⟨notMem_ofList (by decide), by decide, notMem_ofList (by decide)⟩
  have hinvalid : declarations
      ("        'Invalid ' + typeName + ': ' + ajv.errorsText(validator.errors!" ++ dropConditional
        ++ ", " ++ braced "dataVar: typeName" ++ "),") = [] := by
    simp only [String.append_assoc]
    refine declarations_of_blank String.toList_ofList ?_
    simp only [notMem_append_iff]
    exact ⟨notMem_ofList (by decide), newline_notMem_dropConditional, notMem_ofList (by decide),
      newline_notMem_braced (notMem_ofList (by decide)), notMem_ofList (by decide)⟩
  unfold validateImplementation
  refine declarations_lines_cons (declarations_ofList _) ?_
  simp only [List.forall_mem_cons]
  refine ⟨hlookup, ?_, ?_, hmissing, ?_, ?_, ?_, ?_, ?_, ?_, hinvalid, ?_, ?_, ?_, ?_, ?_, ?_,
    List.forall_mem_nil _⟩ <;> exact declarations_ofList _

/-! ### Parts for requests -/

/-- The type for the context of a request is one declaration, which is the line that opens it. -/
theorem declarations_declareRequestContext :
    declarations declareRequestContext = ["export interface KoaContext \x7b"] := by
  have hrequest : declarations ("  readonly request?: unknown; // " ++ braced "body?: unknown")
      = [] := by
    refine declarations_of_blank String.toList_ofList ?_
    exact notMem_append_iff.2
      ⟨notMem_ofList (by decide), newline_notMem_braced (notMem_ofList (by decide))⟩
  unfold declareRequestContext
  refine declarations_lines_cons (declarations_ofList _) ?_
  simp only [List.forall_mem_cons]
  refine ⟨hrequest, ?_, ?_, ?_, ?_, List.forall_mem_nil _⟩ <;> exact declarations_ofList _

/-- The line that opens the signature of the request check for one type. -/
def requestLine (typeName : String) : String :=
  "export function validateKoaRequest(typeName: '" ++ typeName ++ "'): (ctx: KoaContext) => \x7b"

/-- The name of a request field has no line break, whichever field it is. -/
theorem newline_notMem_field (f : RequestField) : '\n' ∉ f.name.toList := by
  cases f <;> exact notMem_ofList (by decide)

/-- The signature of the request check for one type is one declaration, whichever fields the type
declares. -/
theorem declarations_requestOverload {typeName : String} (h : '\n' ∉ typeName.toList)
    (declared : List RequestField) :
    declarations (requestOverload typeName declared) = [requestLine typeName] := by
  have hfirst : declarations (requestLine typeName) = [requestLine typeName] := by
    unfold requestLine
    rw [String.append_assoc]
    refine declarations_of_isDeclaration (isDeclaration_ofList rfl) ?_
    simp only [notMem_append_iff]
    exact ⟨notMem_ofList (by decide), h, notMem_ofList (by decide)⟩
  -- The lines of the fields are indented.
  have hfield : ∀ f ∈ RequestField.all, declarations
      ("  " ++ f.name ++ ": " ++ requestFieldType typeName declared f ++ ",") = [] := by
    intro f _
    have htype : '\n' ∉ (requestFieldType typeName declared f).toList := by
      unfold requestFieldType
      split
      · simp only [notMem_append_iff]
        exact ⟨⟨⟨h, notMem_ofList (by decide)⟩, newline_notMem_field f⟩, notMem_ofList (by decide)⟩
      · exact notMem_ofList (by decide)
    simp only [String.append_assoc]
    refine declarations_of_blank String.toList_ofList ?_
    simp only [notMem_append_iff]
    exact ⟨notMem_ofList (by decide), newline_notMem_field f, notMem_ofList (by decide), htype,
      notMem_ofList (by decide)⟩
  unfold requestOverload requestLine at *
  refine declarations_lines_cons hfirst ?_
  exact List.forall_mem_append.2 ⟨List.forall_mem_map.2 hfield,
    List.forall_mem_singleton.2 (declarations_ofList _)⟩

/-- The signature of the request check for a type of any name is one declaration, which is the line
that opens it. -/
theorem declarations_requestFallback : declarations requestFallback
    = ["export function validateKoaRequest(typeName: string): (ctx: KoaContext) => \x7b"] := by
  unfold requestFallback
  refine declarations_lines_cons (declarations_ofList _) ?_
  simp only [List.forall_mem_cons]
  refine ⟨?_, ?_, ?_, ?_, List.forall_mem_nil _⟩ <;> exact declarations_ofList _

/-- The line that looks up the validator for a field stands inside the request check, so it is no
declaration. -/
theorem declarations_lookupField (f : RequestField) : declarations
    ("  const " ++ f.name ++ " = ajv.getSchema(" ++ keyTemplate ("/properties/" ++ f.name) ++ ");")
      = [] := by
  have hpath : '\n' ∉ ("/properties/" ++ f.name).toList :=
    notMem_append_iff.2 ⟨notMem_ofList (by decide), newline_notMem_field f⟩
  simp only [String.append_assoc]
  refine declarations_of_blank String.toList_ofList ?_
  simp only [notMem_append_iff]
  exact ⟨notMem_ofList (by decide), newline_notMem_field f, notMem_ofList (by decide),
    newline_notMem_keyTemplate hpath, notMem_ofList (by decide)⟩

/-- The line that checks a field stands inside the request check, so it is no declaration. -/
theorem declarations_checkField (f : RequestField) : declarations
    ("      " ++ f.name ++ ": validateProperty('" ++ f.name ++ "', " ++ f.name ++ ", ctx),")
      = [] := by
  have hname := newline_notMem_field f
  simp only [String.append_assoc]
  refine declarations_of_blank String.toList_ofList ?_
  simp only [notMem_append_iff]
  exact ⟨notMem_ofList (by decide), hname, notMem_ofList (by decide), hname,
    notMem_ofList (by decide), hname, notMem_ofList (by decide)⟩

/-- The body of the request check is one declaration, which is the line that opens it. -/
theorem declarations_requestImplementation : declarations requestImplementation
    = ["export function validateKoaRequest(typeName: string): (ctx: KoaContext) => \x7b"] := by
  have hdata : declarations
      ("    const data = prop === 'body' ? ctx.request && (ctx.request as any).body : "
        ++ "(ctx as any)[prop];") = [] := by
    refine declarations_of_blank String.toList_ofList ?_
    simp only [notMem_append_iff]
    exact ⟨notMem_ofList (by decide), notMem_ofList (by decide)⟩
  have hinvalid : declarations
      ("          'Invalid request: ' + ajv.errorsText(validator.errors!" ++ dropConditional ++ ", "
        ++ braced "dataVar: prop" ++ ") + '\\n\\n' + inspect("
        ++ braced "params: ctx.params, query: ctx.query, body: ctx.request && (ctx.request as any).body"
        ++ "),") = [] := by
    simp only [String.append_assoc]
    refine declarations_of_blank String.toList_ofList ?_
    simp only [notMem_append_iff]
    exact ⟨notMem_ofList (by decide), newline_notMem_dropConditional, notMem_ofList (by decide),
      newline_notMem_braced (notMem_ofList (by decide)), notMem_ofList (by decide),
      newline_notMem_braced (notMem_ofList (by decide)), notMem_ofList (by decide)⟩
  unfold requestImplementation
  rw [declarations_lines (by simp)]
  -- The lines of the fields stand in two blocks of their own.
  simp only [List.flatMap_append,
    List.flatMap_eq_nil_iff.2 (List.forall_mem_map.2 fun f _ => declarations_lookupField f),
    List.flatMap_eq_nil_iff.2 (List.forall_mem_map.2 fun f _ => declarations_checkField f),
    List.append_nil]
  -- Only the first of the other blocks has a declaration.
  have hblocks : ∀ {xs ys zs : List String} {first : String}, xs = [first] → ys = [] → zs = [] →
      xs ++ ys ++ zs = [first] := by
    rintro xs ys zs first rfl rfl rfl
    rfl
  refine hblocks ?_ ?_ ?_
  · rw [← declarations_lines (List.cons_ne_nil _ _)]
    refine declarations_lines_cons (declarations_ofList _) ?_
    simp only [List.forall_mem_cons]
    refine ⟨?_, ?_, ?_, ?_, List.forall_mem_nil _⟩ <;> exact declarations_ofList _
  · refine List.flatMap_eq_nil_iff.2 ?_
    simp only [List.forall_mem_cons]
    refine ⟨?_, ?_, ?_, ?_, ?_, hdata, ?_, ?_, ?_, ?_, ?_, ?_, hinvalid, ?_, ?_, ?_, ?_, ?_, ?_, ?_,
      List.forall_mem_nil _⟩ <;> exact declarations_ofList _
  · refine List.flatMap_eq_nil_iff.2 ?_
    simp only [List.forall_mem_cons]
    refine ⟨?_, ?_, ?_, List.forall_mem_nil _⟩ <;> exact declarations_ofList _

/-! ### Modules -/

/-- The declarations of the request check: for each type by its name if at least one of them
declares properties, then for any name, and the body. -/
def requestDeclarations (d : Document) (names : List String) : List String :=
  (if names.any d.hasProperties then names.map requestLine else [])
    ++ ["export function validateKoaRequest(typeName: string): (ctx: KoaContext) => \x7b",
      "export function validateKoaRequest(typeName: string): (ctx: KoaContext) => \x7b"]

/-- The declarations of the validators, which come last in a module: the predicates and `validate`
in the form for its shape, and the request check if it has one. -/
def validatorDeclarations (d : Document) (o : GenerationOptions) : List String :=
  match d.shape with
  | .single =>
    let typeName := o.uniqueTypeNames.headD ""
    [singleLine typeName, defaultLine typeName]
  | .multi =>
    o.uniqueTypeNames.map predicateLine
      ++ o.uniqueTypeNames.map validateOverload
      ++ ["export function validate(typeName: string): (value: unknown) => any \x7b"]
      ++ if o.emitsHttp then requestDeclarations d o.uniqueTypeNames else []

/-- The declarations that a module is expected to have, from the first import to the last export, in
the order of its text. -/
def moduleDeclarations (d : Document) (o : GenerationOptions) : List String :=
  ["import inspect from 'util-inspect';", importEngine o.compiler.importStyle, importLine d o]
    ++ (if o.emitsHttp then ["export interface KoaContext \x7b"] else [])
    ++ [engineLine o.engine, exportNames o.uniqueTypeNames, schemaLine (schemaName d o) d.members,
      declareValidateFunction]
    ++ validatorDeclarations d o

/-- The parts at the top of a module are two comments and two imports, so they have two
declarations. -/
theorem flatMap_declarations_head (s : ImportStyle) :
    [lintMarker, generatedMarker, importInspect, importEngine s].flatMap declarations
      = ["import inspect from 'util-inspect';", importEngine s] := by
  have hlint : declarations lintMarker = [] := declarations_ofList _
  have hgenerated : declarations generatedMarker = [] := declarations_ofList _
  have hinspect : declarations importInspect = ["import inspect from 'util-inspect';"] :=
    declarations_ofList _
  have hengine : declarations (importEngine s) = [importEngine s] := by
    cases s <;> exact declarations_ofList _
  simp only [List.flatMap_cons, List.flatMap_nil, hlint, hgenerated, hinspect, hengine]
  rfl

/-- No type that a module was asked for has a line break in its name, because the checks let
identifiers through only. -/
theorem newline_notMem_name {d : Document} {o : GenerationOptions} (h : Accepts d o) :
    ∀ name ∈ o.uniqueTypeNames, '\n' ∉ name.toList := fun name hname =>
  notMem_of_isIdentifier (h.identifiers name hname) (by decide)

/-- The alias for the type of predicates is one declaration on a line of its own. -/
theorem declarations_declareValidateFunction :
    declarations declareValidateFunction = [declareValidateFunction] := by
  unfold declareValidateFunction
  refine declarations_of_isDeclaration (isDeclaration_ofList rfl) ?_
  exact notMem_append_iff.2 ⟨notMem_ofList (by decide), notMem_ofList (by decide)⟩

/-- The parts of the request check have the declarations that are expected of it, if none of the
names breaks a line. -/
theorem flatMap_declarations_requestParts (d : Document) {names : List String}
    (h : ∀ name ∈ names, '\n' ∉ name.toList) :
    (requestParts d names).flatMap declarations = requestDeclarations d names := by
  unfold requestParts requestDeclarations
  rw [List.flatMap_append]
  refine congrArg₂ (· ++ ·) ?_ ?_
  · split
    · exact flatMap_declarations_map fun name hname => declarations_requestOverload (h name hname) _
    · rfl
  · simp only [List.flatMap_cons, List.flatMap_nil, declarations_requestFallback,
      declarations_requestImplementation]
    rfl

/-- The parts behind the schema are the alias for predicates and the validators, and they have the
declarations that are expected of these, for all that the checks accept. -/
theorem flatMap_declarations_validatorParts {d : Document} {o : GenerationOptions}
    (h : Accepts d o) :
    (validatorParts d o).flatMap declarations
      = declareValidateFunction :: validatorDeclarations d o := by
  have hnames := newline_notMem_name h
  unfold validatorParts validatorDeclarations
  cases hshape : d.shape with
  | single =>
      obtain ⟨name, hname⟩ := (h.single hshape).1
      have hline : '\n' ∉ name.toList := hnames name (by simp [hname])
      simp only [hname, List.headD_cons, List.flatMap_cons, List.flatMap_nil,
        declarations_declareValidateFunction, declarations_singleValidator hline]
      rfl
  | multi =>
      have hadd : declarations (addSchema rootKey) = [] := by decide
      have hpredicates := flatMap_declarations_map fun name hname =>
        declarations_lookupPredicate (hnames name hname)
      have hoverloads := flatMap_declarations_map fun name hname =>
        declarations_validateOverload (hnames name hname)
      have hrequests : (if o.emitsHttp then requestParts d o.uniqueTypeNames else []).flatMap
          declarations = if o.emitsHttp then requestDeclarations d o.uniqueTypeNames else [] := by
        split
        · exact flatMap_declarations_requestParts d hnames
        · rfl
      simp only [List.flatMap_append, List.flatMap_cons, List.flatMap_nil, hadd, hpredicates,
        hoverloads, hrequests, declarations_declareValidateFunction,
        declarations_validateImplementation]
      simp

/-- The lines of the text of a module that start an import or an export are the expected ones, for
all that the checks accept. -/
theorem declarations_text {d : Document} {o : GenerationOptions} (haccepts : Accepts d o) :
    declarations (lines (parts d o o.uniqueTypeNames) ++ "\n") = moduleDeclarations d o := by
  have hnames := newline_notMem_name haccepts
  have hcontext : (contextParts o).flatMap declarations
      = if o.emitsHttp then ["export interface KoaContext \x7b"] else [] := by
    unfold contextParts
    split
    · rw [List.flatMap_singleton, declarations_declareRequestContext]
    · rfl
  have hschema : declarations (declareSchema (schemaName d o) d.root)
      = [schemaLine (schemaName d o) d.members] :=
    declarations_declareSchema (notMem_schemaName haccepts (by decide)) d.canonical
  -- The line break at the end opens one more line, which is empty.
  have hlast : declarations (lines (parts d o o.uniqueTypeNames) ++ "\n")
      = (parts d o o.uniqueTypeNames).flatMap declarations := by
    have hne : parts d o o.uniqueTypeNames ≠ [] := by
      rw [parts_eq haccepts]
      exact List.cons_ne_nil _ _
    have happend := declarations_append (lines (parts d o o.uniqueTypeNames)) ""
    rw [String.append_empty] at happend
    rw [happend, declarations_lines hne, show declarations "" = [] from rfl, List.append_nil]
  -- Part by part, in the order that both shapes have in common.
  rw [hlast, parts_eq haccepts]
  show ([lintMarker, generatedMarker, importInspect, importEngine o.compiler.importStyle]
    ++ _).flatMap declarations = _
  rw [List.flatMap_append, flatMap_declarations_head, moduleDeclarations]
  simp only [List.flatMap_cons, List.flatMap_append, hcontext, hschema,
    declarations_importLine haccepts, declarations_declareEngine, declarations_exportNames hnames,
    flatMap_declarations_validatorParts haccepts, List.append_assoc, List.cons_append,
    List.nil_append]

/-- The lines of a generated module that start an import or an export are those of its declarations,
in order, whatever is in the document and the options. -/
theorem generate_declarations {d : Document} {o : GenerationOptions} {a : Artifact}
    (h : generate d o = .ok a) : declarations a.text = moduleDeclarations d o := by
  obtain ⟨haccepts, rfl⟩ := generate_eq_ok_iff.1 h
  exact declarations_text haccepts

/-- A module with helpers for requests has its own declarations and no others, although the names
and texts in its schema and options contain line breaks followed by imports and exports. -/
theorem generate_declarations_hostile : ∃ (d : Document) (o : GenerationOptions) (a : Artifact),
    d.root = .object [("definitions", .object [("A", .object [("properties", .object
      [("\nexport const a = 1;", .string "\nimport b from 'b';")])])])] ∧
      o.engine.overrides = [("\nexport c", .bool true)] ∧ o.emitsHttp = true ∧
      generate d o = .ok a ∧ declarations a.text = moduleDeclarations d o ∧
      (moduleDeclarations d o).length = 14 := by
  let d : Document := ⟨_, Json.canonical_ofList [("definitions", .object [("A", .object
    [("properties", .object [("\nexport const a = 1;", .string "\nimport b from 'b';")])])])]⟩
  let o : GenerationOptions :=
    { typeNames := ["A"], importPath := "./a", emitsHttp := true,
      engine := EngineOptions.default.set "\nexport c" (.bool true) }
  have hshape : d.shape = .multi := by decide +kernel
  have haccepts : Accepts d o :=
    ⟨by decide, by decide +kernel, by decide, by decide +kernel,
      fun h => absurd (hshape.symm.trans h) (by decide), fun _ => by decide +kernel⟩
  have hok := generate_eq_ok_iff.2 ⟨haccepts, rfl⟩
  exact ⟨d, o, _, rfl, rfl, rfl, hok, generate_declarations hok, by decide +kernel⟩

end SchemaGate.Module
