import SchemaGate.Proofs.Module.Checks

/-!
# `SchemaGate.Proofs.Module.Parts`: the parts of a module in either shape

Modules of both shapes start with the same parts up to the schema, and differ in the names that
these parts mention and in what follows (`parts_eq`).

The parts that name something are single lines of text that the caller does not have in hand: what
the checks say about names and the path keeps line breaks out of them.
-/

set_option autoImplicit false

namespace SchemaGate.Module

/-! ### Names between braces -/

/-- Several names with commas in between are written as the first one, a comma with a blank, and the
others in the same way. -/
theorem toList_intercalate_cons (name next : String) (rest : List String) :
    (", ".intercalate (name :: next :: rest)).toList
      = name.toList ++ ',' :: ' ' :: (", ".intercalate (next :: rest)).toList := by
  rw [String.intercalate_cons_cons, String.toList_append, String.toList_append, List.append_assoc]
  rfl

/-- Names between braces are written as an opening brace, the names with commas in between, and a
closing brace. -/
theorem toList_bracedNames (names : List String) :
    (bracedNames names).toList = '\x7b' :: (", ".intercalate names).toList ++ ['\x7d'] := by
  rw [bracedNames, braced, String.toList_append, String.toList_append]
  rfl

/-- A character that is in none of some names and that does not separate them is not in the list of
them either. -/
theorem notMem_intercalate {names : List String} {c : Char}
    (h : ∀ name ∈ names, c ∉ name.toList) (hcomma : c ≠ ',') (hblank : c ≠ ' ') :
    c ∉ (", ".intercalate names).toList := by
  -- By induction on the names, each with the separator that follows it.
  induction names with
  | nil => simp
  | cons name rest ih =>
      obtain ⟨hname, hrest⟩ := List.forall_mem_cons.1 h
      cases rest with
      | nil =>
          rw [String.intercalate_singleton]
          exact hname
      | cons next rest =>
          rw [toList_intercalate_cons, List.mem_append, List.mem_cons, List.mem_cons]
          rintro (hmem | rfl | rfl | hmem)
          · exact hname hmem
          · exact hcomma rfl
          · exact hblank rfl
          · exact ih hrest hmem

/-- A character that is in none of some names, and that neither separates nor encloses them, is not
in the list of them between braces either. -/
theorem notMem_bracedNames {names : List String} {c : Char}
    (h : ∀ name ∈ names, c ∉ name.toList) (hc : c ∉ [',', ' ', '\x7b', '\x7d']) :
    c ∉ (bracedNames names).toList := by
  simp only [List.mem_cons, List.not_mem_nil, or_false, not_or] at hc
  obtain ⟨hcomma, hblank, hopen, hclose⟩ := hc
  have hnames := notMem_intercalate h hcomma hblank
  rw [toList_bracedNames, List.mem_append, List.mem_cons, List.mem_singleton]
  rintro ((rfl | hmem) | rfl)
  · exact hopen rfl
  · exact hnames hmem
  · exact hclose rfl

/-! ### The line of the imported types -/

/-- What the line that imports the types names: the types between braces, or the only one as it is
if it is exported by default. -/
def importTarget (d : Document) (o : GenerationOptions) : String :=
  match d.shape with
  | .single => if o.namedExport then bracedNames o.uniqueTypeNames else o.uniqueTypeNames.headD ""
  | .multi => bracedNames o.uniqueTypeNames

/-- A character of punctuation that neither separates nor encloses names is not among the characters
of the imported names. -/
theorem notMem_importTarget {d : Document} {o : GenerationOptions} (h : Accepts d o) {c : Char}
    (hc : c ∈ punctuation) (hsep : c ∉ [',', ' ', '\x7b', '\x7d']) :
    c ∉ (importTarget d o).toList := by
  have hnames : ∀ name ∈ o.uniqueTypeNames, c ∉ name.toList := fun name hname =>
    notMem_of_isIdentifier (h.identifiers name hname) hc
  unfold importTarget
  cases hshape : d.shape with
  | multi => exact notMem_bracedNames hnames hsep
  | single =>
      -- The one name stands alone, unless the type is a named export.
      obtain ⟨name, hname⟩ := (h.single hshape).1
      simp only
      split
      · exact notMem_bracedNames hnames hsep
      · rw [hname]
        exact hnames name (by simp [hname])

/-- The line that imports the types from the path that was given. -/
def importLine (d : Document) (o : GenerationOptions) : String :=
  "import " ++ importTarget d o ++ " from '" ++ o.importPath ++ "';"

/-- The characters of the line that imports the types, cut at the quotes around the path. -/
theorem toList_importLine (d : Document) (o : GenerationOptions) :
    (importLine d o).toList = "import ".toList ++ (((importTarget d o).toList ++ " from ".toList)
      ++ '\'' :: (o.importPath.toList ++ '\'' :: [';'])) := by
  simp [importLine]

/-- The path has no quote, no backslash and no line break in it, since it passed the check for
these. -/
theorem notMem_importPath {d : Document} {o : GenerationOptions} (h : Accepts d o) {c : Char}
    (hc : breaksQuotes c = true) : c ∉ o.importPath.toList := fun hmem =>
  List.any_eq_false.1 h.pathFits c hmem hc

/-- The line that imports the types is a single one: neither the names nor the path has a line break
in it. -/
theorem newline_notMem_importLine {d : Document} {o : GenerationOptions} (h : Accepts d o) :
    '\n' ∉ (importLine d o).toList := by
  have htarget : '\n' ∉ (importTarget d o).toList := notMem_importTarget h (by decide) (by decide)
  have hpath : '\n' ∉ o.importPath.toList := notMem_importPath h (by decide)
  rw [toList_importLine]
  simp [htarget, hpath]

/-! ### The parts -/

/-- What a module has in front of the engine if it has helpers for requests: the type of the context
that they are given. -/
def contextParts (o : GenerationOptions) : List String :=
  if o.emitsHttp then [declareRequestContext] else []

/-- The name of the schema constant: the same for all documents of several types, and called after
the type for a document of one. -/
def schemaName (d : Document) (o : GenerationOptions) : String :=
  match d.shape with
  | .single => o.uniqueTypeNames.headD "" ++ "Schema"
  | .multi => rootKey

/-- What follows the schema in a module: its registration if there are several types, the alias for
predicates, and the validators in the form for the shape of the document. -/
def validatorParts (d : Document) (o : GenerationOptions) : List String :=
  match d.shape with
  | .single =>
    let typeName := o.uniqueTypeNames.headD ""
    [declareValidateFunction, singleValidator typeName (typeName ++ "Schema")]
  | .multi =>
    [addSchema rootKey, declareValidateFunction]
      ++ o.uniqueTypeNames.map lookupPredicate
      ++ o.uniqueTypeNames.map validateOverload
      ++ [validateImplementation]
      ++ if o.emitsHttp then requestParts d o.uniqueTypeNames else []

/-- The parts of a module, in an order that is the same for both shapes. For this, what the shapes
have in different forms is named. -/
theorem parts_eq {d : Document} {o : GenerationOptions} (h : Accepts d o) :
    parts d o o.uniqueTypeNames = lintMarker :: generatedMarker :: importInspect
      :: importEngine o.compiler.importStyle :: importLine d o :: (contextParts o
        ++ declareEngine o.engine :: exportNames o.uniqueTypeNames
          :: declareSchema (schemaName d o) d.root :: validatorParts d o) := by
  unfold parts importLine importTarget contextParts schemaName validatorParts
  cases hshape : d.shape with
  | single =>
      -- The checks leave one name and no helpers for requests.
      obtain ⟨⟨name, hname⟩, hhttp⟩ := h.single hshape
      rw [hname, hhttp]
      cases hexport : o.namedExport <;>
        simp [head, singleParts, importType, importNames, importDefault, hexport]
  | multi => simp [head, multiParts, importNames]

/-- The line that imports the engine is a single one, in either way of importing it. -/
theorem newline_notMem_importEngine (s : ImportStyle) : '\n' ∉ (importEngine s).toList := by
  cases s <;> decide

/-- No punctuation is in the name of the schema constant, because there is none in the names of
types. -/
theorem notMem_schemaName {d : Document} {o : GenerationOptions} (h : Accepts d o) {c : Char}
    (hc : c ∈ punctuation) : c ∉ (schemaName d o).toList := by
  -- The constant of several types is called by an identifier, and so is the ending for one type.
  have hroot : c ∉ rootKey.toList :=
    notMem_of_isIdentifier (by decide : isIdentifier rootKey = true) hc
  unfold schemaName
  cases hshape : d.shape with
  | multi => exact hroot
  | single =>
      obtain ⟨name, hname⟩ := (h.single hshape).1
      rw [hname, String.toList_append, List.mem_append]
      rintro (hmem | hmem)
      · exact notMem_of_isIdentifier (h.identifiers name (by simp [hname])) hc hmem
      · exact hroot hmem

end SchemaGate.Module
