import SchemaGate.Proofs.Module.Declarations

/-!
# `SchemaGate.Proofs.Module.Bindings`: the names that a module binds

A module that binds a name twice is refused as a whole, unless the bindings are the signatures of
one function. `bindings` reads the names off the lines that start a declaration, and `bindings_text`
lists them for every module: the module's own names, the types that were asked for, and a predicate
for each of these.

The checks see to it that no type is asked for twice, and to nothing else. So a name is bound twice
exactly if a type is called like one of the module's own names, or like the predicate of another
type (`generate_bindings`).
-/

set_option autoImplicit false

namespace SchemaGate.Module

/-! ### Reading names -/

/-- A name that a declaration binds, together with the one thing that decides whether it may be
bound again. -/
structure Binding where
  /-- The name that is bound. -/
  name : String
  /-- Whether the declaration is a signature or the body of a function. -/
  isFunction : Bool
  deriving DecidableEq

/-- What follows the start of a line, if the line has this start, and nothing if it has another
one. -/
def after? (start : String) (line : List Char) : Option (List Char) :=
  if start.toList.isPrefixOf line then some (line.drop start.toList.length) else none

/-- The name in front of the first punctuation, or all of the text if there is no punctuation in
it. -/
def frontName (cs : List Char) : String :=
  String.ofList (cs.takeWhile fun c => !punctuation.contains c)

/-- A piece between commas without the blanks in front of it, which a list of names has behind each
comma. -/
def trimmed (piece : List Char) : String := String.ofList (piece.dropWhile (· == ' '))

/-- The names of an import. These are the ones between braces, or else the single one in front. -/
def importedNames : List Char → List String
  | '\x7b' :: cs => ((cs.takeWhile (· != '\x7d')).splitOn ',').map trimmed
  | cs => [frontName cs]

/-- The starts of declarations that bind the name behind them, each with whether this is a function.
Exporting names again binds none. -/
def starts : List (String × Bool) :=
  [("export const ", false), ("export type ", false), ("export interface ", false),
    ("export function ", true), ("export default function ", true)]

/-- The names that the declaration on a line binds: those of an import, or the one behind another
start. -/
def lineBindings (line : String) : List Binding :=
  match after? "import " line.toList with
  | some cs => (importedNames cs).map fun name => ⟨name, false⟩
  | none => starts.filterMap fun start =>
    (after? start.1 line.toList).map fun cs => ⟨frontName cs, start.2⟩

/-- The names of bindings, in order. The signatures of a function in a row, with its body, are one
binding. -/
def mergeOverloads : List Binding → List String
  | [] => []
  | b :: rest =>
    if b.isFunction && rest.head? == some b then mergeOverloads rest
    else b.name :: mergeOverloads rest

/-- The names that a module binds at its top level, in the order of their declarations. -/
def bindings (text : String) : List String :=
  mergeOverloads ((declarations text).flatMap lineBindings)

/-! ### Overloads -/

/-- The binding of a name to anything but a function, such as a constant or a type. -/
def variableOf (name : String) : Binding := ⟨name, false⟩

/-- The binding of a name to a function, by one of its signatures or by its body. -/
def functionOf (name : String) : Binding := ⟨name, true⟩

/-- Names that are bound to something other than functions are kept one by one, even if one of them
comes twice. -/
theorem mergeOverloads_variables (names : List String) (rest : List Binding) :
    mergeOverloads (names.map variableOf ++ rest) = names ++ mergeOverloads rest := by
  induction names with
  | nil => rfl
  | cons name names ih =>
      show name :: mergeOverloads (names.map variableOf ++ rest) = _
      rw [ih]
      rfl

/-- Any number of signatures of a function and the body behind them are one binding, if no more of
this function follows. -/
theorem mergeOverloads_functions (name : String) (n : Nat) {rest : List Binding}
    (hrest : rest.head? ≠ some (functionOf name)) :
    mergeOverloads (List.replicate n (functionOf name) ++ functionOf name :: rest)
      = name :: mergeOverloads rest := by
  induction n with
  | zero =>
      rw [List.replicate_zero, List.nil_append, mergeOverloads, if_neg (by simp [hrest])]
      rfl
  | succ n ih =>
      rw [List.replicate_succ, List.cons_append, mergeOverloads, if_pos ?_, ih]
      cases n <;> simp [functionOf, List.replicate_succ]

/-! ### Names on lines -/

/-- A name without punctuation is read back from a text in which punctuation follows it. -/
theorem frontName_append {name : String} (h : ∀ c ∈ punctuation, c ∉ name.toList) {c : Char}
    (hc : c ∈ punctuation) (rest : List Char) : frontName (name.toList ++ c :: rest) = name := by
  have hname : ∀ x ∈ name.toList, (!punctuation.contains x) = true := by
    intro x hx
    have hnot : x ∉ punctuation := fun hpunctuation => h x hpunctuation hx
    simpa using hnot
  rw [frontName, List.takeWhile_append_of_pos hname, List.takeWhile_cons_of_neg (by simpa using hc),
    List.append_nil, String.ofList_toList]

/-- A name without blanks is left as it is when the blanks in front of it are dropped. -/
theorem trimmed_toList {name : String} (h : ' ' ∉ name.toList) : trimmed name.toList = name := by
  have hdrop : name.toList.dropWhile (· == ' ') = name.toList := by
    cases hcs : name.toList with
    | nil => rfl
    | cons c cs =>
        rw [hcs] at h
        refine List.dropWhile_cons_of_neg ?_
        simpa using Ne.symm (List.ne_of_not_mem_cons h)
  rw [trimmed, hdrop, String.ofList_toList]

/-- A blank in front of a text makes no difference to the pieces between its commas, once the blanks
in front of these are dropped. -/
theorem map_trimmed_splitOn_blank (cs : List Char) :
    ((' ' :: cs).splitOn ',').map trimmed = (cs.splitOn ',').map trimmed := by
  obtain ⟨piece, pieces, hpieces⟩ := List.exists_cons_of_ne_nil (List.splitOn_ne_nil ',' cs)
  rw [List.splitOn_cons_eq_if_modifyHead, if_neg (by decide), hpieces]
  rfl

/-- Names without punctuation are read back from a list of them with commas and blanks in
between. -/
theorem map_trimmed_splitOn_intercalate {names : List String} (hne : names ≠ [])
    (h : ∀ name ∈ names, ∀ c ∈ punctuation, c ∉ name.toList) :
    (((", ".intercalate names).toList).splitOn ',').map trimmed = names := by
  induction names with
  | nil => exact absurd rfl hne
  | cons name names ih =>
      obtain ⟨hname, hrest⟩ := List.forall_mem_cons.1 h
      have hcomma := hname ',' (by decide)
      have hfirst := trimmed_toList (hname ' ' (by decide))
      cases names with
      | nil =>
          rw [String.intercalate_singleton, List.splitOn_eq_singleton hcomma, List.map_singleton,
            hfirst]
      | cons next names =>
          -- The name goes with its comma, the blank behind it with the names that follow.
          rw [toList_intercalate_cons, List.splitOn_append_cons_self_of_not_mem hcomma,
            List.map_cons, hfirst, map_trimmed_splitOn_blank, ih (List.cons_ne_nil _ _) hrest]

/-- Names without punctuation are read back from a list of them between braces, whatever follows the
braces. -/
theorem importedNames_bracedNames {names : List String} (hne : names ≠ [])
    (h : ∀ name ∈ names, ∀ c ∈ punctuation, c ∉ name.toList) (rest : List Char) :
    importedNames ((bracedNames names).toList ++ rest) = names := by
  have hbrace : ∀ c ∈ (", ".intercalate names).toList, (c != '\x7d') = true := by
    intro c hc
    refine bne_iff_ne.2 ?_
    rintro rfl
    have hfree := fun name hname => h name hname '\x7d' (by decide)
    exact notMem_intercalate hfree (by decide) (by decide) hc
  rw [toList_bracedNames]
  show ((((", ".intercalate names).toList ++ ['\x7d'] ++ rest).takeWhile (· != '\x7d')).splitOn
    ',').map trimmed = _
  rw [List.append_assoc, List.takeWhile_append_of_pos hbrace]
  simpa using map_trimmed_splitOn_intercalate hne h

/-- A line that starts like a declaration binds the name behind this start and nothing else, since
no start begins another one. -/
theorem lineBindings_of_start {start : String} {isFunction : Bool}
    (hstart : (start, isFunction) ∈ starts) {cs : List Char} {line : String}
    (hline : line.toList = start.toList ++ cs) :
    lineBindings line = [⟨frontName cs, isFunction⟩] := by
  rw [lineBindings, hline]
  simp only [starts, List.mem_cons, Prod.mk.injEq, List.not_mem_nil, or_false] at hstart
  rcases hstart with ⟨rfl, rfl⟩ | ⟨rfl, rfl⟩ | ⟨rfl, rfl⟩ | ⟨rfl, rfl⟩ | ⟨rfl, rfl⟩ <;> rfl

/-- Suppose that a line starts like a declaration, goes on with a name without punctuation, and then
with a text that starts with punctuation. Then it binds this name. -/
theorem lineBindings_of_name {start name next : String} {isFunction : Bool}
    (hstart : (start, isFunction) ∈ starts) (h : ∀ c ∈ punctuation, c ∉ name.toList)
    (hnext : next.toList.head?.any punctuation.contains = true) (rest : String) :
    lineBindings (start ++ (name ++ next) ++ rest) = [⟨name, isFunction⟩] := by
  cases hcs : next.toList with
  | nil => rw [hcs] at hnext; cases hnext
  | cons c cs =>
      rw [hcs] at hnext
      have hc : c ∈ punctuation := by simpa using hnext
      have hline : (start ++ (name ++ next) ++ rest).toList
          = start.toList ++ (name.toList ++ c :: (cs ++ rest.toList)) := by
        simp only [String.toList_append, hcs, List.cons_append, List.append_assoc]
      rw [lineBindings_of_start hstart hline, frontName_append h hc]

/-- A line that exports names again binds none of them, since they are bound elsewhere. -/
theorem lineBindings_exportNames (names : List String) : lineBindings (exportNames names) = [] := by
  have hline : (exportNames names).toList
      = "export ".toList ++ '\x7b' :: ((", ".intercalate names).toList ++ ['\x7d', ';']) := by
    rw [exportNames, String.toList_append, String.toList_append, toList_bracedNames]
    simp
  rw [lineBindings, hline]
  rfl

section Accepted

variable {d : Document} {o : GenerationOptions}

/-- The types that a module was asked for have no punctuation in their names, because the checks let
identifiers through only. -/
theorem punctuation_notMem_name (h : Accepts d o) :
    ∀ name ∈ o.uniqueTypeNames, ∀ c ∈ punctuation, c ∉ name.toList :=
  fun name hname _ hc => notMem_of_isIdentifier (h.identifiers name hname) hc

/-- The line that imports the types binds every one of them, in the order in which they were asked
for. -/
theorem lineBindings_importLine (h : Accepts d o) :
    lineBindings (importLine d o) = o.uniqueTypeNames.map variableOf := by
  have hnames := punctuation_notMem_name h
  have hline : ∃ rest, (importLine d o).toList
      = "import ".toList ++ ((importTarget d o).toList ++ ' ' :: rest) := by
    rw [toList_importLine]
    simp
  obtain ⟨rest, hline⟩ := hline
  have himported : importedNames ((importTarget d o).toList ++ ' ' :: rest)
      = o.uniqueTypeNames := by
    unfold importTarget
    cases hshape : d.shape with
    | multi => exact importedNames_bracedNames h.named hnames _
    | single =>
        simp only
        split
        · exact importedNames_bracedNames h.named hnames _
        · obtain ⟨name, hname⟩ := (h.single hshape).1
          have hfree := hnames name (by simp [hname])
          rw [hname, List.headD_cons]
          unfold importedNames
          split
          · next cs heq =>
            -- No name starts with a brace.
            cases hcs : name.toList with
            | nil => rw [hcs] at heq; cases heq
            | cons c cs' =>
                rw [hcs] at heq
                obtain ⟨rfl, -⟩ := List.cons.inj heq
                exact absurd (hcs ▸ List.mem_cons_self) (hfree '\x7b' (by decide))
          · rw [frontName_append hfree (by decide)]
  rw [lineBindings, hline]
  show (importedNames ((importTarget d o).toList ++ ' ' :: rest)).map variableOf = _
  rw [himported]

/-- The line that creates the engine binds the engine, whatever its options are. -/
theorem lineBindings_engineLine (e : EngineOptions) :
    lineBindings (engineLine e) = [variableOf "ajv"] := by
  have hstart : "export const ajv = new Ajv(" = "export const " ++ ("ajv" ++ " = new Ajv(") := by
    decide
  unfold engineLine
  rw [String.append_assoc, hstart]
  exact lineBindings_of_name (by decide) (fun _ => notMem_of_isIdentifier (by decide)) (by decide) _

/-- The line that opens the schema binds the constant that the schema is kept in, whatever the
schema has in it. -/
theorem lineBindings_schemaLine (h : Accepts d o) (members : Members) :
    lineBindings (schemaLine (schemaName d o) members) = [variableOf (schemaName d o)] := by
  have hgroup : ∀ a b c e : String, a ++ b ++ c ++ e = a ++ (b ++ c) ++ e := by
    simp only [String.append_assoc, implies_true]
  unfold schemaLine
  rw [hgroup]
  exact lineBindings_of_name (by decide) (fun c hc => notMem_schemaName h hc) (by decide) _

/-- The name of a predicate has no punctuation if the name of its type has none. -/
theorem punctuation_notMem_predicate {name : String} (h : ∀ c ∈ punctuation, c ∉ name.toList) :
    ∀ c ∈ punctuation, c ∉ ("is" ++ name).toList := fun c hc =>
  notMem_append_iff.2 ⟨notMem_of_isIdentifier (by decide) hc, h c hc⟩

/-- A line that starts like the one of a predicate binds the predicate, if punctuation follows the
name of the type. -/
theorem lineBindings_predicate {name next : String} (h : ∀ c ∈ punctuation, c ∉ name.toList)
    (hnext : next.toList.head?.any punctuation.contains = true) (rest : String) :
    lineBindings ("export const is" ++ (name ++ (next ++ rest))) = [variableOf ("is" ++ name)] := by
  have hstart : "export const is" = "export const " ++ "is" := by decide
  have hregroup : ∀ a b c d e : String, a ++ b ++ (c ++ (d ++ e)) = a ++ (b ++ c ++ d) ++ e := by
    simp only [String.append_assoc, implies_true]
  rw [hstart, hregroup]
  exact lineBindings_of_name (by decide) (punctuation_notMem_predicate h) hnext rest

/-- The predicate of one of several types is bound on the line that looks it up. -/
theorem lineBindings_predicateLine {name : String} (h : ∀ c ∈ punctuation, c ∉ name.toList) :
    lineBindings (predicateLine name) = [variableOf ("is" ++ name)] := by
  unfold predicateLine
  simp only [String.append_assoc]
  exact lineBindings_predicate h (by decide) _

/-- The predicate of the only type is bound on the line that compiles the schema. -/
theorem lineBindings_singleLine {name : String} (h : ∀ c ∈ punctuation, c ∉ name.toList) :
    lineBindings (singleLine name) = [variableOf ("is" ++ name)] := by
  unfold singleLine
  simp only [String.append_assoc]
  exact lineBindings_predicate h (by decide) _

/-- The function that throws is bound as `validate` on the line that opens it, since it is exported
by default under this name. -/
theorem lineBindings_defaultLine (name : String) :
    lineBindings (defaultLine name) = [functionOf "validate"] := by
  have hstart : "export default function validate(value: unknown): "
      = "export default function " ++ ("validate" ++ "(value: unknown): ") := by decide
  unfold defaultLine
  rw [String.append_assoc, hstart]
  exact lineBindings_of_name (by decide) (fun _ => notMem_of_isIdentifier (by decide)) (by decide) _

/-- Every signature of `validate` binds this one name, whichever type it is for. -/
theorem lineBindings_validateOverload (name : String) :
    lineBindings (validateOverload name) = [functionOf "validate"] := by
  have hstart : "export function validate(typeName: '"
      = "export function " ++ ("validate" ++ "(typeName: '") := by decide
  unfold validateOverload
  simp only [String.append_assoc]
  rw [hstart]
  exact lineBindings_of_name (by decide) (fun _ => notMem_of_isIdentifier (by decide)) (by decide) _

/-- Every signature of the request check binds this one name, whichever type it is for. -/
theorem lineBindings_requestLine (name : String) :
    lineBindings (requestLine name) = [functionOf "validateKoaRequest"] := by
  have hstart : "export function validateKoaRequest(typeName: '"
      = "export function " ++ ("validateKoaRequest" ++ "(typeName: '") := by decide
  unfold requestLine
  rw [String.append_assoc, hstart]
  exact lineBindings_of_name (by decide) (fun _ => notMem_of_isIdentifier (by decide)) (by decide) _

/-! ### Modules -/

/-- If each part of a family gives one result, then the family gives one result for each member, in
order. -/
theorem flatMap_map_singleton {α β γ : Type} {xs : List α} {part : α → β} {f : β → List γ}
    {g : α → γ} (h : ∀ x ∈ xs, f (part x) = [g x]) : (xs.map part).flatMap f = xs.map g := by
  rw [List.flatMap_map, List.map_eq_flatMap]
  exact List.flatMap_congr h

/-- The names that a module with helpers for requests binds besides the others. There are none in a
module without them. -/
def requestNames (o : GenerationOptions) (names : List String) : List String :=
  if o.emitsHttp then names else []

/-- The names that a module is expected to bind, in the order in which its text has them. -/
def moduleBindings (d : Document) (o : GenerationOptions) : List String :=
  ["inspect", "Ajv"] ++ o.uniqueTypeNames ++ requestNames o ["KoaContext"]
    ++ ["ajv", schemaName d o, "ValidateFunction"] ++ o.uniqueTypeNames.map ("is" ++ ·)
    ++ ["validate"] ++ requestNames o ["validateKoaRequest"]

/-- The request check is bound by each of its signatures and then by its body, with nothing in
between. -/
theorem exists_requestBindings (d : Document) (names : List String) :
    ∃ n, (requestDeclarations d names).flatMap lineBindings
      = List.replicate n (functionOf "validateKoaRequest")
        ++ [functionOf "validateKoaRequest"] := by
  have hlast : [("export function validateKoaRequest(typeName: string): (ctx: KoaContext) => \x7b"),
      "export function validateKoaRequest(typeName: string): (ctx: KoaContext) => \x7b"].flatMap
        lineBindings = List.replicate 1 (functionOf "validateKoaRequest")
          ++ [functionOf "validateKoaRequest"] := by decide
  unfold requestDeclarations
  rw [List.flatMap_append, hlast, ← List.append_assoc]
  split
  · refine ⟨names.length + 1, ?_⟩
    rw [flatMap_map_singleton fun name _ => lineBindings_requestLine name, List.map_const',
      List.replicate_append_replicate]
  · exact ⟨1, rfl⟩

/-- Behind the schema a module binds the predicates of its types, then `validate` by its signatures
and its body, and then the request check if it has one. -/
theorem exists_validatorBindings (h : Accepts d o) :
    ∃ n rest, (validatorDeclarations d o).flatMap lineBindings
        = (o.uniqueTypeNames.map ("is" ++ ·)).map variableOf
          ++ (List.replicate n (functionOf "validate") ++ functionOf "validate" :: rest) ∧
      rest.head? ≠ some (functionOf "validate") ∧
      mergeOverloads rest = requestNames o ["validateKoaRequest"] := by
  have hnames := punctuation_notMem_name h
  unfold validatorDeclarations requestNames
  cases hshape : d.shape with
  | single =>
      obtain ⟨⟨name, hname⟩, hhttp⟩ := h.single hshape
      have hfree := hnames name (by simp [hname])
      refine ⟨0, [], ?_, by simp, by rw [hhttp]; rfl⟩
      simp only [hname, List.headD_cons, List.flatMap_cons, List.flatMap_nil,
        lineBindings_singleLine hfree, lineBindings_defaultLine]
      rfl
  | multi =>
      have hvalidate : lineBindings
          "export function validate(typeName: string): (value: unknown) => any \x7b"
            = [functionOf "validate"] := by decide
      have hpredicates : (o.uniqueTypeNames.map predicateLine).flatMap lineBindings
          = (o.uniqueTypeNames.map ("is" ++ ·)).map variableOf := by
        rw [flatMap_map_singleton fun name hname => lineBindings_predicateLine (hnames name hname),
          List.map_map]
        rfl
      have hoverloads : (o.uniqueTypeNames.map validateOverload).flatMap lineBindings
          = List.replicate o.uniqueTypeNames.length (functionOf "validate") := by
        rw [flatMap_map_singleton fun name _ => lineBindings_validateOverload name, List.map_const']
      simp only [List.flatMap_append, hpredicates, hoverloads, List.flatMap_singleton, hvalidate]
      cases o.emitsHttp with
      | false =>
          refine ⟨o.uniqueTypeNames.length, [], ?_, by simp, rfl⟩
          simp
      | true =>
          obtain ⟨n, hrequests⟩ := exists_requestBindings d o.uniqueTypeNames
          refine ⟨o.uniqueTypeNames.length, List.replicate n (functionOf "validateKoaRequest")
            ++ [functionOf "validateKoaRequest"], ?_, ?_, ?_⟩
          · simp [hrequests]
          · cases n <;> simp [List.replicate_succ, functionOf]
          · exact mergeOverloads_functions "validateKoaRequest" n (by simp)

/-- The names read off the text of a module are the ones that it is expected to bind, for all that
the checks accept. -/
theorem bindings_text (h : Accepts d o) :
    bindings (lines (parts d o o.uniqueTypeNames) ++ "\n") = moduleBindings d o := by
  have hinspect : lineBindings "import inspect from 'util-inspect';" = [variableOf "inspect"] := by
    decide
  have hengine : lineBindings (importEngine o.compiler.importStyle) = [variableOf "Ajv"] := by
    cases o.compiler.importStyle <;> decide
  have hcontext : (if o.emitsHttp then ["export interface KoaContext \x7b"] else []).flatMap
      lineBindings = (requestNames o ["KoaContext"]).map variableOf := by
    unfold requestNames
    cases o.emitsHttp <;> decide
  have halias : lineBindings declareValidateFunction = [variableOf "ValidateFunction"] := by decide
  obtain ⟨n, rest, hvalidators, hrest, hrequests⟩ := exists_validatorBindings h
  -- All that is bound in front of `validate` is bound once by what binds it.
  have hvariables : (moduleDeclarations d o).flatMap lineBindings
      = (["inspect", "Ajv"] ++ o.uniqueTypeNames ++ requestNames o ["KoaContext"]
          ++ ["ajv", schemaName d o, "ValidateFunction"]
          ++ o.uniqueTypeNames.map ("is" ++ ·)).map variableOf
        ++ (List.replicate n (functionOf "validate") ++ functionOf "validate" :: rest) := by
    unfold moduleDeclarations
    simp only [List.flatMap_append, List.flatMap_cons, List.flatMap_nil, hinspect, hengine,
      lineBindings_importLine h, hcontext, lineBindings_engineLine, lineBindings_exportNames,
      lineBindings_schemaLine h, halias, hvalidators, List.map_append, List.map_cons, List.map_nil]
    simp
  rw [bindings, declarations_text h, hvariables, mergeOverloads_variables,
    mergeOverloads_functions _ _ hrest, hrequests, moduleBindings]
  simp

/-! ### Names that are bound twice -/

/-- The names that a module binds whatever its types are called. If there is only one type, then the
constant of the schema is called after it. -/
def ownNames (d : Document) (o : GenerationOptions) : List String :=
  ["inspect", "Ajv"] ++ requestNames o ["KoaContext"] ++ ["ajv", schemaName d o, "ValidateFunction"]
    ++ ["validate"] ++ requestNames o ["validateKoaRequest"]

/-- The bindings of a module are its own names, its types and the predicates of these, in another
order. -/
theorem moduleBindings_perm (d : Document) (o : GenerationOptions) : (moduleBindings d o).Perm
    (ownNames d o ++ (o.uniqueTypeNames ++ o.uniqueTypeNames.map ("is" ++ ·))) := by
  refine List.perm_iff_count.2 fun name => ?_
  simp only [moduleBindings, ownNames, List.count_append]
  omega

/-- The own names of a module other than the constant of the schema, which do not depend on
anything. -/
def fixedNames : List String :=
  ["inspect", "Ajv", "KoaContext", "ajv", "ValidateFunction", "validate", "validateKoaRequest"]

/-- Every own name of a module is the constant of the schema or one of the fixed names, and none of
these is used twice. -/
theorem ownNames_subperm (d : Document) (o : GenerationOptions) :
    (ownNames d o).Subperm (schemaName d o :: fixedNames) := by
  have hrequest : ∀ names, (requestNames o names).Sublist names := by
    intro names
    unfold requestNames
    split
    · exact .refl _
    · exact List.nil_sublist _
  have hsublist : (ownNames d o).Sublist (["inspect", "Ajv"] ++ ["KoaContext"]
      ++ ["ajv", schemaName d o, "ValidateFunction"] ++ ["validate"] ++ ["validateKoaRequest"]) :=
    ((((List.Sublist.refl _).append (hrequest _)).append (.refl _)).append (.refl _)).append
      (hrequest _)
  refine hsublist.subperm.trans (List.Perm.subperm ?_)
  show (["inspect", "Ajv", "KoaContext", "ajv"] ++ schemaName d o
    :: ["ValidateFunction", "validate", "validateKoaRequest"]).Perm _
  exact List.perm_middle

/-- The constant of the schema is called like none of the fixed names, because it ends in a letter
that none of these ends in. -/
theorem schemaName_notMem_fixedNames (d : Document) (o : GenerationOptions) :
    schemaName d o ∉ fixedNames := by
  have hfixed : ∀ name ∈ fixedNames, name.toList.getLast? ≠ some 'a' := by decide
  have hschema : (schemaName d o).toList.getLast? = some 'a' := by
    unfold schemaName
    cases d.shape with
    | multi => exact (by decide : rootKey.toList.getLast? = some 'a')
    | single =>
        show (o.uniqueTypeNames.headD "" ++ "Schema").toList.getLast? = _
        rw [String.toList_append, List.getLast?_append]
        rfl
  exact fun hmem => hfixed _ hmem hschema

/-- A module binds none of its own names twice, whatever its types are called. -/
theorem nodup_ownNames (d : Document) (o : GenerationOptions) : (ownNames d o).Nodup := by
  have hfixed : fixedNames.Nodup := by decide
  obtain ⟨names, hperm, hsublist⟩ := ownNames_subperm d o
  refine hperm.nodup_iff.1 (hsublist.nodup ?_)
  exact List.nodup_cons.2 ⟨schemaName_notMem_fixedNames d o, hfixed⟩

/-- No own name of a module is that of a predicate in it. The fixed names start otherwise, and the
constant of the schema is longer than the predicate of the only type. -/
theorem ownNames_ne_predicate (h : Accepts d o) {own name : String} (hown : own ∈ ownNames d o)
    (hname : name ∈ o.uniqueTypeNames) : own ≠ "is" ++ name := by
  -- The own names start otherwise, but for the constant of the schema of one type.
  have hstart : ∀ other : String, other.toList.take 2 ≠ ['i', 's'] → other ≠ "is" ++ name := by
    rintro other hother rfl
    refine hother ?_
    rw [String.toList_append]
    rfl
  rcases List.mem_cons.1 ((ownNames_subperm d o).subset hown) with rfl | hfixed
  · unfold schemaName
    cases hshape : d.shape with
    | multi => exact hstart rootKey (by decide)
    | single =>
        -- The constant is longer than the predicate of that type.
        obtain ⟨⟨single, hsingle⟩, -⟩ := h.single hshape
        rw [hsingle, List.mem_singleton] at hname
        show o.uniqueTypeNames.headD "" ++ "Schema" ≠ "is" ++ name
        rw [hsingle, hname, List.headD_cons]
        intro heq
        have hlength := congrArg String.length heq
        have hends : "Schema".length = 6 ∧ "is".length = 2 := by decide
        rw [String.length_append, String.length_append] at hlength
        omega
  · have htake : ∀ other ∈ fixedNames, other.toList.take 2 ≠ ['i', 's'] := by decide
    exact hstart own (htake own hfixed)

/-- The predicates of different types are called differently, and every type is asked for once. -/
theorem nodup_predicates (o : GenerationOptions) :
    (o.uniqueTypeNames.map ("is" ++ ·)).Nodup :=
  o.nodup_uniqueTypeNames.map fun _ _ => (String.append_right_inj "is").1

/-- A module binds no name twice exactly if none of its types is called like an own name of it, or
like the predicate of one of its types. -/
theorem nodup_moduleBindings_iff (h : Accepts d o) : (moduleBindings d o).Nodup ↔
    (∀ name ∈ o.uniqueTypeNames, name ∉ ownNames d o) ∧
      ∀ name ∈ o.uniqueTypeNames, "is" ++ name ∉ o.uniqueTypeNames := by
  rw [(moduleBindings_perm d o).nodup_iff]
  simp only [List.nodup_append, List.mem_append, List.mem_map]
  constructor
  · rintro ⟨-, ⟨-, -, hpredicates⟩, hown⟩
    refine ⟨fun name hname hmem => hown name hmem name (.inl hname) rfl, fun name hname hmem => ?_⟩
    exact hpredicates _ hmem _ ⟨name, hname, rfl⟩ rfl
  · rintro ⟨hown, hpredicates⟩
    refine ⟨nodup_ownNames d o, ⟨o.nodup_uniqueTypeNames, nodup_predicates o, ?_⟩, ?_⟩
    · rintro other hother _ ⟨name, hname, rfl⟩ rfl
      exact hpredicates name hname hother
    · rintro own hmem other (hother | ⟨name, hname, rfl⟩)
      · rintro rfl
        exact hown _ hother hmem
      · exact ownNames_ne_predicate h hmem hname

end Accepted

/-- The names that a generated module binds at its top level, in order, and when one of them is
bound twice. They are the module's own names, the types that were asked for, each once, and a
predicate for each type. No name is bound twice exactly if no type has one of the own names, and no
type is called like the predicate of a type. -/
theorem generate_bindings {d : Document} {o : GenerationOptions} {a : Artifact}
    (h : generate d o = .ok a) : bindings a.text = moduleBindings d o ∧
      ((bindings a.text).Nodup ↔ (∀ name ∈ a.typeNames, name ∉ ownNames d o) ∧
        ∀ name ∈ a.typeNames, "is" ++ name ∉ a.typeNames) := by
  obtain ⟨haccepts, rfl⟩ := generate_eq_ok_iff.1 h
  have hbindings := bindings_text haccepts
  refine ⟨hbindings, ?_⟩
  rw [show bindings _ = moduleBindings d o from hbindings]
  exact nodup_moduleBindings_iff haccepts

/-- A document of two types, one of which is called like the predicate of the other. -/
def predicateDocument : Document :=
  ⟨_, Json.canonical_ofList [("definitions", .object [("A", .object []), ("isA", .object [])])]⟩

/-- The options that ask for certain types of the document with a type called like a predicate, with
helpers for requests or without. -/
def predicateOptions (typeNames : List String) (emitsHttp : Bool) : GenerationOptions :=
  { typeNames, importPath := "./a", emitsHttp }

/-- The document with a type called like a predicate is accepted, be it asked for both types or for
the other one only. -/
theorem accepts_predicateDocument {typeNames : List String} (emitsHttp : Bool)
    (h : typeNames = ["A"] ∨ typeNames = ["A", "isA"]) :
    Accepts predicateDocument (predicateOptions typeNames emitsHttp) := by
  have hshape : predicateDocument.shape = .multi := by decide
  have hsingle : predicateDocument.shape ≠ .single := by rw [hshape]; decide
  cases emitsHttp <;> rcases h with rfl | rfl <;>
    exact ⟨by decide, by decide, by decide, by decide, fun h => absurd h hsingle,
      fun _ => by decide⟩

/-- A module for the type that is not called like a predicate binds every name once, also with
helpers for requests. -/
theorem generate_bindings_requests : ∃ a,
    generate predicateDocument (predicateOptions ["A"] true) = .ok a ∧
      bindings a.text = ["inspect", "Ajv", "A", "KoaContext", "ajv", "Schema", "ValidateFunction",
        "isA", "validate", "validateKoaRequest"] ∧ (bindings a.text).Nodup := by
  have hok := generate_eq_ok_iff.2 ⟨accepts_predicateDocument true (.inl rfl), rfl⟩
  obtain ⟨hbindings, hnodup⟩ := generate_bindings hok
  exact ⟨_, hok, hbindings.trans (by decide), hnodup.2 (by decide)⟩

/-- A module can bind a name twice. If both types are asked for, then one and the same name is bound
to the predicate of the one type and to the other type. -/
theorem generate_binds_twice : ∃ a,
    generate predicateDocument (predicateOptions ["A", "isA"] false) = .ok a ∧
      bindings a.text = ["inspect", "Ajv", "A", "isA", "ajv", "Schema", "ValidateFunction", "isA",
        "isisA", "validate"] ∧ ¬ (bindings a.text).Nodup := by
  have haccepts := accepts_predicateDocument false (.inr rfl)
  have hbindings := (bindings_text haccepts).trans (by decide : _ = ["inspect", "Ajv", "A", "isA",
    "ajv", "Schema", "ValidateFunction", "isA", "isisA", "validate"])
  refine ⟨_, generate_eq_ok_iff.2 ⟨haccepts, rfl⟩, hbindings, ?_⟩
  rw [show bindings _ = _ from hbindings]
  decide

end SchemaGate.Module
