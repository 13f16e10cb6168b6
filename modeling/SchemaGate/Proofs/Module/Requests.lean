import SchemaGate.Proofs.Module.Declarations

/-!
# `SchemaGate.Proofs.Module.Requests`: which request fields a module constrains

A module with helpers for requests has a signature of the request check for each type. The signature
gives every request field a type: the member of the named type, or `unknown`. `typesField` reads
this off the text of a module.

The signature of a type is found by its first line. No part in front of the signatures has such a
line (`requestLine_notMem_leadingDeclarations`), and the signatures of two types start differently,
so what follows the line is the signature that was written for the type. `typesField_iff` concludes
that a module takes the type of a field from the named type exactly if that type declares the field.
-/

set_option autoImplicit false

namespace SchemaGate.Module

/-! ### Reading the text -/

/-- The lines of a text, without the line breaks between them. A text that ends in a line break has
an empty line at its end. -/
def linesOf (text : String) : List String := (text.toList.splitOn '\n').map String.ofList

/-- The line that closes the signature of the request check for a type. -/
def closingLine : String := "\x7d;"

/-- The lines inside the signature of the request check for a type, in order. There are none if the
text has no such signature. -/
def requestSignature (text typeName : String) : List String :=
  (((linesOf text).dropWhile (· != requestLine typeName)).drop 1).takeWhile (· != closingLine)

/-- The line that a signature has for a request field with a certain type. -/
def fieldLine (field : RequestField) (type : String) : String :=
  "  " ++ field.name ++ ": " ++ type ++ ","

/-- The type that is written for a request field if it is taken from a named type, as the member of
this name. -/
def memberType (typeName : String) (field : RequestField) : String :=
  typeName ++ "['" ++ field.name ++ "']"

/-- Whether the text of a module takes the type of a request field from a named type: the signature
for this type has a line that says so. -/
def typesField (text typeName : String) (field : RequestField) : Bool :=
  (requestSignature text typeName).contains (fieldLine field (memberType typeName field))

/-! ### Lines -/

/-- A text without a line break has one line, which is the text itself. -/
theorem linesOf_singleton {t : String} (h : '\n' ∉ t.toList) : linesOf t = [t] := by
  rw [linesOf, List.splitOn_eq_singleton h, List.map_singleton, String.ofList_toList]

/-- If two texts are put together with a line break in between, then the lines of the first are
followed by those of the second. -/
theorem linesOf_append (s t : String) : linesOf (s ++ "\n" ++ t) = linesOf s ++ linesOf t := by
  have htext : (s ++ "\n" ++ t).toList = s.toList ++ '\n' :: t.toList := by
    rw [String.toList_append, String.toList_append, List.append_assoc]
    rfl
  rw [linesOf, htext, List.splitOn_append_cons_self, List.map_append]
  rfl

/-- If a text is made of parts, one below the other, then its lines are those of the parts in order.
There must be a part. -/
theorem linesOf_lines {texts : List String} (h : texts ≠ []) :
    linesOf (lines texts) = texts.flatMap linesOf := by
  induction texts with
  | nil => exact absurd rfl h
  | cons t rest ih =>
      cases rest with
      | nil =>
          show linesOf ("\n".intercalate [t]) = _
          rw [String.intercalate_singleton, List.flatMap_singleton]
      | cons u rest =>
          show linesOf ("\n".intercalate (t :: u :: rest)) = _
          rw [String.intercalate_cons_cons, linesOf_append, List.flatMap_cons]
          exact congrArg _ (ih (List.cons_ne_nil u rest))

/-- If a text is made of parts and ends in a line break, then its lines are those of the parts, with
an empty one at the end. -/
theorem linesOf_lines_append {texts : List String} (h : texts ≠ []) :
    linesOf (lines texts ++ "\n") = texts.flatMap linesOf ++ [""] := by
  have happend := linesOf_append (lines texts) ""
  rw [String.append_empty] at happend
  rw [happend, linesOf_lines h]
  rfl

/-- Parts of one line each are themselves the lines of the text that is made of them. -/
theorem flatMap_linesOf {texts : List String} (h : ∀ t ∈ texts, '\n' ∉ t.toList) :
    texts.flatMap linesOf = texts := by
  induction texts with
  | nil => rfl
  | cons t rest ih =>
      obtain ⟨ht, hrest⟩ := List.forall_mem_cons.1 h
      rw [List.flatMap_cons, linesOf_singleton ht, ih hrest, List.singleton_append]

/-- A line that starts an import or an export is among the lines of a text exactly if it is among
the declarations. -/
theorem mem_linesOf_iff {line : String} (h : isDeclaration line.toList = true) (text : String) :
    line ∈ linesOf text ↔ line ∈ declarations text := by
  unfold linesOf declarations
  constructor
  · intro hmem
    obtain ⟨cs, hcs, rfl⟩ := List.mem_map.1 hmem
    rw [String.toList_ofList] at h
    exact List.mem_map.2 ⟨cs, List.mem_filter.2 ⟨hcs, h⟩, rfl⟩
  · intro hmem
    obtain ⟨cs, hcs, rfl⟩ := List.mem_map.1 hmem
    exact List.mem_map.2 ⟨cs, (List.mem_filter.1 hcs).1, rfl⟩

/-! ### The line that opens a signature -/

/-- What the first line of a signature has in front of the name of the type. -/
def requestStart : String := "export function validateKoaRequest(typeName: '"

/-- The first line of a signature starts an export, whatever its type is called. -/
theorem isDeclaration_requestLine (typeName : String) :
    isDeclaration (requestLine typeName).toList = true := by
  unfold requestLine
  rw [String.append_assoc, String.toList_append]
  exact isDeclaration_append (isDeclaration_ofList rfl) _

/-- The first lines of two signatures are the same exactly if the two types have the same name. -/
theorem requestLine_inj {t u : String} : requestLine t = requestLine u ↔ t = u := by
  unfold requestLine
  rw [String.append_left_inj, String.append_right_inj]

/-- A line starts with a certain text, which is how the lines of a module are told apart. -/
def StartsWith (start line : String) : Prop := start.toList <+: line.toList

/-- Every line starts with itself. With `StartsWith.append` this gives the starts of lines that are
put together from texts. -/
theorem StartsWith.refl (line : String) : StartsWith line line := List.prefix_refl _

/-- If a line starts with a text, then it still does so with more text behind it. -/
theorem StartsWith.append {start line rest : String} (h : StartsWith start line) :
    StartsWith start (line ++ rest) := by
  rw [StartsWith, String.toList_append]
  exact h.trans (List.prefix_append _ _)

/-- If a line starts with a text that differs from the start of every signature, then it opens the
signature of no type. -/
theorem requestLine_ne {start line : String} (hline : StartsWith start line)
    (h : ¬ start.toList <+: requestStart.toList) (h' : ¬ requestStart.toList <+: start.toList)
    (typeName : String) : requestLine typeName ≠ line := by
  intro heq
  -- Both texts would be beginnings of one line.
  have hrequest : StartsWith requestStart line := by
    rw [← heq]
    exact (StartsWith.refl requestStart).append.append
  rcases List.prefix_or_prefix_of_prefix hrequest hline with hprefix | hprefix
  · exact h' hprefix
  · exact h hprefix

/-! ### Parts in front of the signatures -/

/-- The parts of a module for several types that stand in front of the helpers for requests. -/
def leadingParts (d : Document) (o : GenerationOptions) : List String :=
  [lintMarker, generatedMarker, importInspect, importEngine o.compiler.importStyle]
    ++ importLine d o :: (contextParts o
      ++ [declareEngine o.engine, exportNames o.uniqueTypeNames, declareSchema rootKey d.root,
        addSchema rootKey, declareValidateFunction]
      ++ o.uniqueTypeNames.map lookupPredicate
      ++ o.uniqueTypeNames.map validateOverload
      ++ [validateImplementation])

/-- The parts of a module with helpers for requests are those in front of the helpers, followed by
the helpers. -/
theorem parts_of_emitsHttp {d : Document} {o : GenerationOptions} (h : Accepts d o)
    (hshape : d.shape = .multi) (hhttp : o.emitsHttp = true) :
    parts d o o.uniqueTypeNames = leadingParts d o ++ requestParts d o.uniqueTypeNames := by
  rw [parts_eq h, leadingParts, validatorParts, schemaName]
  simp [hshape, hhttp]

/-- The declarations of the parts that stand in front of the helpers for requests, in order. -/
def leadingDeclarations (d : Document) (o : GenerationOptions) : List String :=
  ["import inspect from 'util-inspect';", importEngine o.compiler.importStyle, importLine d o]
    ++ (if o.emitsHttp then ["export interface KoaContext \x7b"] else [])
    ++ [engineLine o.engine, exportNames o.uniqueTypeNames, schemaLine rootKey d.members,
      declareValidateFunction]
    ++ o.uniqueTypeNames.map predicateLine
    ++ o.uniqueTypeNames.map validateOverload
    ++ ["export function validate(typeName: string): (value: unknown) => any \x7b"]

/-- None of the declarations in front of the helpers for requests opens the signature of a type. -/
theorem requestLine_notMem_leadingDeclarations (d : Document) (o : GenerationOptions)
    (typeName : String) : requestLine typeName ∉ leadingDeclarations d o := by
  have hinspect : requestLine typeName ≠ "import inspect from 'util-inspect';" :=
    requestLine_ne (.refl _) (by decide) (by decide) typeName
  have hengine : ∀ s, requestLine typeName ≠ importEngine s := by
    intro s
    cases s <;> exact requestLine_ne (.refl _) (by decide) (by decide) typeName
  have himport : requestLine typeName ≠ importLine d o :=
    requestLine_ne (StartsWith.refl _).append.append.append.append (by decide)
      (by decide) typeName
  have hcontext : requestLine typeName ∉
      if o.emitsHttp then ["export interface KoaContext \x7b"] else [] := by
    split
    · rw [List.mem_singleton]
      exact requestLine_ne (.refl _) (by decide) (by decide) typeName
    · exact List.not_mem_nil
  have hajv : requestLine typeName ≠ engineLine o.engine :=
    requestLine_ne (StartsWith.refl _).append.append (by decide) (by decide)
      typeName
  have hexport : requestLine typeName ≠ exportNames o.uniqueTypeNames := by
    have hline : StartsWith "export \x7b" (exportNames o.uniqueTypeNames) := by
      rw [StartsWith, exportNames, String.toList_append, String.toList_append, toList_bracedNames]
      exact ⟨_, rfl⟩
    exact requestLine_ne hline (by decide) (by decide) typeName
  have hschema : requestLine typeName ≠ schemaLine rootKey d.members :=
    requestLine_ne (StartsWith.refl _).append.append.append (by decide)
      (by decide) typeName
  have hfunction : requestLine typeName ≠ declareValidateFunction :=
    requestLine_ne (StartsWith.refl _).append (by decide) (by decide) typeName
  have hpredicate : ∀ name, requestLine typeName ≠ predicateLine name := fun name =>
    requestLine_ne (StartsWith.refl _).append.append.append.append.append.append
      (by decide) (by decide) typeName
  have hoverload : ∀ name, requestLine typeName ≠ validateOverload name := fun name =>
    requestLine_ne (StartsWith.refl _).append.append.append.append (by decide)
      (by decide) typeName
  have hvalidate : requestLine typeName ≠
      "export function validate(typeName: string): (value: unknown) => any \x7b" :=
    requestLine_ne (.refl _) (by decide) (by decide) typeName
  unfold leadingDeclarations
  simp only [List.mem_append, List.mem_cons, List.mem_map, List.not_mem_nil, or_false, not_or,
    not_exists, not_and]
  refine ⟨⟨⟨⟨⟨⟨hinspect, hengine _, himport⟩, hcontext⟩, hajv, hexport, hschema, hfunction⟩,
    fun name _ => (hpredicate name).symm⟩, fun name _ => (hoverload name).symm⟩, hvalidate⟩

/-- The parts in front of the helpers for requests have the declarations that are expected of
them. -/
theorem flatMap_declarations_leadingParts {d : Document} {o : GenerationOptions}
    (h : Accepts d o) : (leadingParts d o).flatMap declarations = leadingDeclarations d o := by
  have hnames := newline_notMem_name h
  have hcontext : (contextParts o).flatMap declarations
      = if o.emitsHttp then ["export interface KoaContext \x7b"] else [] := by
    unfold contextParts
    split
    · rw [List.flatMap_singleton, declarations_declareRequestContext]
    · rfl
  have hschema : declarations (declareSchema rootKey d.root) = [schemaLine rootKey d.members] :=
    declarations_declareSchema (by decide) d.canonical
  have hadd : declarations (addSchema rootKey) = [] := by decide
  have hpredicates := flatMap_declarations_map fun name hname =>
    declarations_lookupPredicate (hnames name hname)
  have hoverloads := flatMap_declarations_map fun name hname =>
    declarations_validateOverload (hnames name hname)
  unfold leadingParts leadingDeclarations
  rw [List.flatMap_append, flatMap_declarations_head]
  simp only [List.flatMap_append, List.flatMap_cons, List.flatMap_nil, hcontext, hschema, hadd,
    hpredicates, hoverloads, declarations_importLine h, declarations_declareEngine,
    declarations_exportNames hnames, declarations_declareValidateFunction,
    declarations_validateImplementation]
  simp

/-! ### The signature of a type -/

/-- The lines inside the signature of a type that declares certain request fields: one line for each
field, declared or not. -/
def fieldLines (typeName : String) (declared : List RequestField) : List String :=
  RequestField.all.map fun f => fieldLine f (requestFieldType typeName declared f)

/-- A signature by its lines: the one that opens it, one for each request field, and the one that
closes it. -/
theorem linesOf_requestOverload {typeName : String} (h : '\n' ∉ typeName.toList)
    (declared : List RequestField) : linesOf (requestOverload typeName declared)
      = requestLine typeName :: fieldLines typeName declared ++ [closingLine] := by
  have hopening : '\n' ∉ (requestLine typeName).toList := by
    unfold requestLine
    simp only [notMem_append_iff]
    exact ⟨⟨notMem_ofList (by decide), h⟩, notMem_ofList (by decide)⟩
  have hfield : ∀ line ∈ fieldLines typeName declared, '\n' ∉ line.toList := by
    intro line hline
    obtain ⟨f, -, rfl⟩ := List.mem_map.1 hline
    have htype : '\n' ∉ (requestFieldType typeName declared f).toList := by
      unfold requestFieldType
      split
      · simp only [notMem_append_iff]
        exact ⟨⟨⟨h, notMem_ofList (by decide)⟩, newline_notMem_field f⟩, notMem_ofList (by decide)⟩
      · exact notMem_ofList (by decide)
    unfold fieldLine
    simp only [notMem_append_iff]
    exact ⟨⟨⟨⟨notMem_ofList (by decide), newline_notMem_field f⟩, notMem_ofList (by decide)⟩,
      htype⟩, notMem_ofList (by decide)⟩
  have hclosing : '\n' ∉ closingLine.toList := by decide
  -- Each of the lines is one line.
  show linesOf (lines (requestLine typeName :: fieldLines typeName declared ++ [closingLine])) = _
  rw [linesOf_lines (by simp), flatMap_linesOf]
  intro line hline
  rw [List.cons_append, List.mem_cons, List.mem_append, List.mem_singleton] at hline
  rcases hline with rfl | hline | rfl
  · exact hopening
  · exact hfield line hline
  · exact hclosing

/-- No line for a request field closes the signature that it stands in, so all of these lines are
read. -/
theorem fieldLine_ne_closingLine (f : RequestField) (type : String) :
    fieldLine f type ≠ closingLine := by
  intro h
  have hfirst := congrArg (fun line : String => line.toList.head?) h
  simp [fieldLine, closingLine] at hfirst

/-- The lines for two request fields are the same exactly if the fields are the same and have the
same type. -/
theorem fieldLine_inj {f g : RequestField} {t u : String} :
    fieldLine f t = fieldLine g u ↔ f = g ∧ t = u := by
  constructor
  · intro h
    have hchars := congrArg String.toList h
    cases f <;> cases g <;>
      simp [fieldLine, RequestField.name, String.toList_inj] at hchars ⊢
    all_goals exact hchars
  · rintro ⟨rfl, rfl⟩
    rfl

/-- The type that is written for a member of a named type is never `unknown`, because it ends in a
bracket. -/
theorem memberType_ne_unknown (typeName : String) (f : RequestField) :
    memberType typeName f ≠ "unknown" := by
  intro h
  -- The one ends in a bracket, the other in a letter.
  have hlast := congrArg (fun type : String => type.toList.reverse.head?) h
  simp [memberType] at hlast

/-- The signature of a type takes the type of a request field from the named type exactly if this
type declares the field. -/
theorem mem_fieldLines_iff (typeName : String) (declared : List RequestField) (f : RequestField) :
    fieldLine f (memberType typeName f) ∈ fieldLines typeName declared ↔ f ∈ declared := by
  have hall : f ∈ RequestField.all := by cases f <;> decide
  unfold fieldLines
  rw [List.mem_map]
  constructor
  · rintro ⟨g, -, hline⟩
    obtain ⟨rfl, htype⟩ := fieldLine_inj.1 hline
    -- An undeclared field would have the type `unknown`.
    by_contra hnot
    rw [requestFieldType, if_neg (by simpa using hnot)] at htype
    exact memberType_ne_unknown typeName g htype.symm
  · intro hmem
    exact ⟨f, hall, by rw [requestFieldType, if_pos (by simpa using hmem)]; rfl⟩

/-! ### Finding the signature -/

/-- When the first line of a signature is searched for, all the lines in front of it are passed
over. -/
theorem dropWhile_of_notMem {line : String} {before : List String} (h : line ∉ before)
    (rest : List String) :
    (before ++ rest).dropWhile (· != line) = rest.dropWhile (· != line) := by
  refine List.dropWhile_append_of_pos fun l hl => ?_
  simpa using fun heq : l = line => h (heq ▸ hl)

/-- The signature that is read for a type is the one that was written for it, if no part in front of
it opens a signature of the type. -/
theorem requestSignature_of_split {typeName : String} (hname : '\n' ∉ typeName.toList)
    {before after : List String} {declared : List RequestField}
    (h : requestLine typeName ∉ before.flatMap declarations) :
    requestSignature (lines (before ++ requestOverload typeName declared :: after) ++ "\n") typeName
      = fieldLines typeName declared := by
  have hbefore : requestLine typeName ∉ before.flatMap linesOf := by
    intro hmem
    obtain ⟨part, hpart, hline⟩ := List.mem_flatMap.1 hmem
    rw [mem_linesOf_iff (isDeclaration_requestLine typeName)] at hline
    exact h (List.mem_flatMap.2 ⟨part, hpart, hline⟩)
  have hfields : ∀ line ∈ fieldLines typeName declared, (line != closingLine) = true := by
    intro line hline
    obtain ⟨f, -, rfl⟩ := List.mem_map.1 hline
    simpa using fieldLine_ne_closingLine f _
  rw [requestSignature, linesOf_lines_append (by simp), List.flatMap_append, List.flatMap_cons,
    linesOf_requestOverload hname, List.append_assoc, dropWhile_of_notMem hbefore]
  simp only [List.cons_append, List.append_assoc]
  rw [List.dropWhile_cons_of_neg (by simp), List.drop_one, List.tail_cons,
    List.takeWhile_append_of_pos hfields, List.takeWhile_cons_of_neg (by simp), List.append_nil]

/-- If none of the parts of a text opens the signature of a type, then no signature is read for this
type. -/
theorem requestSignature_of_notMem {typeName : String} {texts : List String} (hne : texts ≠ [])
    (h : requestLine typeName ∉ texts.flatMap declarations) :
    requestSignature (lines texts ++ "\n") typeName = [] := by
  have hline : requestLine typeName ∉ linesOf (lines texts ++ "\n") := by
    rw [linesOf_lines_append hne, List.mem_append, List.mem_singleton, not_or]
    refine ⟨fun hmem => ?_, fun heq => ?_⟩
    · obtain ⟨part, hpart, hline⟩ := List.mem_flatMap.1 hmem
      rw [mem_linesOf_iff (isDeclaration_requestLine typeName)] at hline
      exact h (List.mem_flatMap.2 ⟨part, hpart, hline⟩)
    · -- The last line is empty and declares nothing.
      have hdeclares := isDeclaration_requestLine typeName
      rw [heq] at hdeclares
      cases hdeclares
  have hnone := dropWhile_of_notMem hline []
  rw [List.append_nil, List.dropWhile_nil] at hnone
  rw [requestSignature, hnone]
  rfl

/-! ### The fields of a type -/

/-- If none of some types declares any properties, then none of them declares a request field. -/
theorem requestFields_eq_nil {d : Document} {names : List String}
    (h : ¬ names.any d.hasProperties = true) {typeName : String} (hmem : typeName ∈ names) :
    d.requestFields typeName = [] := by
  have hnone : d.properties? typeName = none := by
    have hany := List.any_eq_false.1 (Bool.eq_false_iff.2 h) typeName hmem
    simpa [Document.hasProperties] using hany
  refine List.filter_eq_nil_iff.2 fun f _ => ?_
  simp [Document.requestField?, hnone]

/-- In the signature of a type, a module has the lines for the request fields that the type
declares. There is no signature at all if none of the types declares any properties. -/
theorem requestSignature_eq {d : Document} {o : GenerationOptions} {a : Artifact}
    (h : generate d o = .ok a) (hshape : d.shape = .multi) (hhttp : o.emitsHttp = true)
    {typeName : String} (hmem : typeName ∈ a.typeNames) :
    requestSignature a.text typeName = if a.typeNames.any d.hasProperties then
      fieldLines typeName (d.requestFields typeName) else [] := by
  obtain ⟨haccepts, rfl⟩ := generate_eq_ok_iff.1 h
  have hnames := newline_notMem_name haccepts
  have hleading : requestLine typeName ∉ (leadingParts d o).flatMap declarations := by
    rw [flatMap_declarations_leadingParts haccepts]
    exact requestLine_notMem_leadingDeclarations d o typeName
  change typeName ∈ o.uniqueTypeNames at hmem
  show requestSignature (lines (parts d o o.uniqueTypeNames) ++ "\n") typeName
    = if o.uniqueTypeNames.any d.hasProperties then _ else _
  rw [parts_of_emitsHttp haccepts hshape hhttp]
  split
  · next hany =>
    -- The signatures of the types in front of this one open with other lines.
    obtain ⟨earlier, later, hsplit, hearlier⟩ := List.eq_append_cons_of_mem hmem
    have hoverloads : (earlier.map fun name => requestOverload name (d.requestFields name)).flatMap
        declarations = earlier.map requestLine :=
      flatMap_declarations_map fun name hname =>
        declarations_requestOverload (hnames name (by rw [hsplit]; simp [hname])) _
    have hbefore : requestLine typeName ∉ (leadingParts d o
        ++ earlier.map fun name => requestOverload name (d.requestFields name)).flatMap
          declarations := by
      rw [List.flatMap_append, hoverloads, List.mem_append, not_or]
      refine ⟨hleading, fun hline => ?_⟩
      obtain ⟨name, hname, heq⟩ := List.mem_map.1 hline
      exact hearlier (requestLine_inj.1 heq ▸ hname)
    have hparts : requestParts d o.uniqueTypeNames
        = (earlier.map fun name => requestOverload name (d.requestFields name))
          ++ requestOverload typeName (d.requestFields typeName)
            :: ((later.map fun name => requestOverload name (d.requestFields name))
              ++ [requestFallback, requestImplementation]) := by
      rw [requestParts, if_pos hany, hsplit]
      simp
    rw [hparts, ← List.append_assoc]
    exact requestSignature_of_split (hnames typeName hmem) hbefore
  · next hany =>
    refine requestSignature_of_notMem (by simp [leadingParts]) ?_
    rw [List.flatMap_append, flatMap_declarations_requestParts d hnames, requestDeclarations,
      if_neg hany, List.nil_append, List.mem_append, not_or]
    refine ⟨hleading, ?_⟩
    have hfallback : requestLine typeName ≠
        "export function validateKoaRequest(typeName: string): (ctx: KoaContext) => \x7b" :=
      requestLine_ne (.refl _) (by decide) (by decide) typeName
    simpa using hfallback

/-- A module with helpers for requests takes the type of a request field from the named type exactly
if that type declares the field. -/
theorem typesField_iff {d : Document} {o : GenerationOptions} {a : Artifact}
    (h : generate d o = .ok a) (hshape : d.shape = .multi) (hhttp : o.emitsHttp = true)
    {typeName : String} (hmem : typeName ∈ a.typeNames) (field : RequestField) :
    typesField a.text typeName field = true ↔ field ∈ d.requestFields typeName := by
  rw [typesField, List.contains_iff_mem, requestSignature_eq h hshape hhttp hmem]
  split
  · exact mem_fieldLines_iff typeName _ field
  · next hany => simp [requestFields_eq_nil hany hmem]

end SchemaGate.Module
