import SchemaGate.Proofs.Options.Flags
import SchemaGate.Proofs.Options.Saved

/-!
# `SchemaGate.Proofs.Options.Overrides`: options set one after another

Options are built by settings, each of which puts one override in the place of what was there. One
setting changes the lookup of its own name only (`EngineOptions.lookup_set`), so by induction a
sequence of settings leaves the last value of every name (`EngineOptions.lookup_setAll`). Lookups
determine the options, so nothing else of the sequence is left in them.

Once overrides and defaults are merged, a default and an override of the same value are the same
too: the same is emitted for two options exactly if they have the same values in force
(`EngineOptions.emitsAlike_iff`). `EngineOptions.last_setting_wins` puts both together.
-/

set_option autoImplicit false

namespace SchemaGate

namespace EngineOptions

/-! ### Settings -/

/-- The options after some settings, made one after another. Each puts a value in the place of
whatever the option had before. -/
def setAll (o : EngineOptions) (settings : Members) : EngineOptions :=
  settings.foldl (fun o (name, value) => o.set name value) o

/-- The last value that some settings give to an option, in canonical form, if they set it at
all. -/
def lastSetting? (settings : Members) (name : String) : Option Json :=
  (settings.reverse.lookup name).map Json.sortKeys

/-- A setting overrides the option of its name with the value in canonical form, and leaves all
other options as they are. -/
theorem lookup_set (o : EngineOptions) (name : String) (value : Json) (k : String) :
    (o.set name value).overrides.lookup k
      = if k = name then some value.sortKeys else o.overrides.lookup k :=
  Members.lookup_insert name value.sortKeys o.overrides k

/-- Of some settings the first one counts for its name only if none of the others is of this name.
This is the step of the induction over a sequence of settings. -/
theorem lastSetting?_cons (name : String) (value : Json) (rest : Members) (k : String) :
    lastSetting? ((name, value) :: rest) k
      = (lastSetting? rest k).or (if k = name then some value.sortKeys else none) := by
  rw [lastSetting?, lastSetting?, List.reverse_cons, List.lookup_append, Option.map_or,
    Members.lookup_cons_ite]
  by_cases hk : k = name
  · rw [if_pos hk, if_pos hk, Option.map_some]
  · rw [if_neg hk, if_neg hk, List.lookup_nil, Option.map_none]

/-- A value that is canonical is set as it is: for settings with canonical values the last setting
is the last value that was given. -/
theorem lastSetting?_of_canonical {settings : Members} (h : Json.CanonicalMembers settings)
    (name : String) : lastSetting? settings name = settings.reverse.lookup name := by
  rw [lastSetting?, ← Json.lookup_sorted, Json.sortMembers_of_canonical settings h,
    Members.lookup_ofList]

/-- An option is set to something exactly if one of the settings is of its name. -/
theorem isSome_lastSetting?_iff {settings : Members} {name : String} :
    (lastSetting? settings name).isSome = true ↔ name ∈ settings.names := by
  rw [lastSetting?, Option.isSome_map, Members.isSome_lookup_iff, List.map_reverse,
    List.mem_reverse]
  rfl

/-- After some settings an option is overridden by its last setting. If there was none, it is as it
was before. Earlier settings of the same option leave no trace. -/
theorem lookup_setAll (o : EngineOptions) (settings : Members) (k : String) :
    (o.setAll settings).overrides.lookup k
      = (lastSetting? settings k).or (o.overrides.lookup k) := by
  induction settings generalizing o with
  | nil => rfl
  | cons setting rest ih =>
      obtain ⟨name, value⟩ := setting
      show ((o.set name value).setAll rest).overrides.lookup k = _
      rw [ih, lookup_set, lastSetting?_cons, Option.or_assoc]
      by_cases hk : k = name
      · rw [if_pos hk, if_pos hk, Option.some_or]
      · rw [if_neg hk, if_neg hk, Option.none_or]

/-- Options with the same overrides under all names are the same, because overrides are kept in the
order of their names. -/
theorem eq_of_lookup_eq {o o' : EngineOptions}
    (h : ∀ name, o.overrides.lookup name = o'.overrides.lookup name) : o = o' :=
  ext_overrides (Members.eq_of_lookup_eq o.canonical.1 o'.canonical.1 h)

/-- Two sequences of settings that give the same last value to each option lead from the same
options to the same options. What else the sequences contain does not matter. -/
theorem setAll_congr (o : EngineOptions) {settings settings' : Members}
    (h : ∀ name, lastSetting? settings name = lastSetting? settings' name) :
    o.setAll settings = o.setAll settings' := by
  apply eq_of_lookup_eq
  intro name
  rw [lookup_setAll, lookup_setAll, h]

/-- If no option is set twice, the order of the settings does not matter: in every order each option
gets the one value that is given to it. -/
theorem lastSetting?_perm {settings settings' : Members} (h : settings.Perm settings')
    (hnodup : settings.names.Nodup) (name : String) :
    lastSetting? settings name = lastSetting? settings' name := by
  -- Last values are what an object of the settings has after sorting.
  have hsorted := Json.same_iff.1 (Json.same_of_perm h hnodup)
  rw [lastSetting?, lastSetting?, ← Json.lookup_sorted, ← Json.lookup_sorted,
    Json.object.inj hsorted]

/-! ### Values in force -/

/-- After some settings the value in force of an option is its last setting, or else what was in
force before: an override, or else the default. -/
theorem lookup_merged_setAll (o : EngineOptions) (settings : Members) (name : String) :
    (o.setAll settings).merged.lookup name
      = (lastSetting? settings name).or
          ((o.overrides.lookup name).or (defaults.lookup name)) := by
  rw [lookup_merged, lookup_setAll, Option.or_assoc]

/-- After some settings the options that have a value in force are those that were set, those that
were overridden before and those with a default. -/
theorem mem_names_merged_setAll (o : EngineOptions) (settings : Members) (name : String) :
    name ∈ (o.setAll settings).merged.names ↔
      name ∈ settings.names ∨ name ∈ o.overrides.names ∨ name ∈ defaults.names := by
  rw [Members.mem_names_iff, lookup_merged_setAll, Option.isSome_or, Option.isSome_or,
    Bool.or_eq_true, Bool.or_eq_true, isSome_lastSetting?_iff, ← Members.mem_names_iff,
    ← Members.mem_names_iff]

/-- Two options have the same values in force under all names exactly if their merged members are
the same, because these are kept in the order of their names. -/
theorem merged_eq_iff {o o' : EngineOptions} :
    o.merged = o'.merged ↔ ∀ name, o.get? name = o'.get? name := by
  constructor
  · intro h name
    rw [get?, get?, h]
  · exact Members.eq_of_lookup_eq o.canonical_merged.1 o'.canonical_merged.1

/-! ### What is emitted -/

/-- The same text is emitted for two options of the engine: for the declaration of the engine alone,
and for every document with every choice of the other options. -/
def EmitsAlike (o o' : EngineOptions) : Prop :=
  Module.declareEngine o = Module.declareEngine o' ∧
  ∀ (d : Document) (g : GenerationOptions),
    Module.generate d { g with engine := o } = Module.generate d { g with engine := o' }

/-- If two options of the engine have the same declaration of the engine, the same module is
generated for both. Nothing else in a module depends on them. -/
theorem generate_congr {o o' : EngineOptions} (h : Module.declareEngine o = Module.declareEngine o')
    (d : Document) (g : GenerationOptions) :
    Module.generate d { g with engine := o } = Module.generate d { g with engine := o' } := by
  have hparts : ∀ names, Module.parts d { g with engine := o } names
      = Module.parts d { g with engine := o' } names := by
    intro names
    unfold Module.parts Module.singleParts Module.multiParts
    simp only [h]
    rfl
  simp only [Module.generate, hparts]
  rfl

/-- The same text is emitted for two options exactly if they have the same values in force. One
direction reads the values back from the declaration of the engine. -/
theorem emitsAlike_iff {o o' : EngineOptions} :
    EmitsAlike o o' ↔ ∀ name, o.get? name = o'.get? name := by
  rw [← merged_eq_iff]
  constructor
  · rintro ⟨hengine, -⟩
    -- The members in force can be told from the declaration.
    have hlines := congrArg (fun text => Module.lineChars [text]) hengine
    exact (Module.declareEngine_inj hlines).1
  · intro h
    have hengine : Module.declareEngine o = Module.declareEngine o' := by
      rw [Module.declareEngine, Module.declareEngine, h]
    exact ⟨hengine, generate_congr hengine⟩

/-- The last setting of an option counts, whatever the order of the settings:

- the value in force of an option is its last setting, or else its override at the start, or else
  its default;
- the last setting is the value that was given last, as it is if it was canonical;
- each option has one value in force at most, and only those have one that were set, were
  overridden at the start or have a default;
- asking for an option gives the value in force;
- the saved options have the last settings and the overrides at the start, but no defaults, and
  they are read back;
- settings that give the same last value to each option make the same options, for which the same
  is emitted;
- settings of different options do so in any order;
- what is emitted depends on the values in force alone, and tells them. -/
theorem last_setting_wins (start : EngineOptions) (settings : Members) :
    (∀ name, (start.setAll settings).merged.lookup name
      = (lastSetting? settings name).or ((start.overrides.lookup name).or
          (List.lookup name [("allErrors", .bool true), ("coerceTypes", .bool false)]))) ∧
    (Json.CanonicalMembers settings →
      ∀ name, lastSetting? settings name = settings.reverse.lookup name) ∧
    (start.setAll settings).merged.Ordered ∧
    (∀ name, name ∈ (start.setAll settings).merged.names ↔
      name ∈ settings.names ∨ name ∈ start.overrides.names ∨
        name ∈ ["allErrors", "coerceTypes"]) ∧
    (∀ name, (start.setAll settings).get? name = (start.setAll settings).merged.lookup name) ∧
    (∃ saved : Members, (start.setAll settings).toJson = .object saved ∧ saved.Ordered ∧
      ∀ name, saved.lookup name
        = (lastSetting? settings name).or (start.overrides.lookup name)) ∧
    ofJson (start.setAll settings).toJson = .ok (start.setAll settings) ∧
    (∀ settings', (∀ name, lastSetting? settings name = lastSetting? settings' name) →
      start.setAll settings = start.setAll settings' ∧
        EmitsAlike (start.setAll settings) (start.setAll settings')) ∧
    (∀ settings', settings.Perm settings' → settings.names.Nodup →
      ∀ name, lastSetting? settings name = lastSetting? settings' name) ∧
    ∀ o, EmitsAlike (start.setAll settings) o ↔
      ∀ name, (start.setAll settings).get? name = o.get? name := by
  refine ⟨lookup_merged_setAll start settings, lastSetting?_of_canonical, (canonical_merged _).1,
    mem_names_merged_setAll start settings, fun _ => rfl,
    ⟨_, rfl, (start.setAll settings).canonical.1, lookup_setAll start settings⟩,
    ofJson_toJson _, fun settings' h => ?_, fun _ => lastSetting?_perm, fun _ => emitsAlike_iff⟩
  have hsame := setAll_congr start h
  exact ⟨hsame, emitsAlike_iff.2 fun name => by rw [hsame]⟩

/-- Settings of which the last one takes the first one back. -/
def undoneSettings : Members :=
  [("allErrors", .bool false), ("nullable", .bool true), ("allErrors", .bool true)]

/-- The last one of the settings `undoneSettings` for each option. -/
def settledSettings : Members := [("allErrors", .bool true), ("nullable", .bool true)]

/-- A setting that is taken back is lost, and the order of the others makes no difference. A setting
of the default value is an override of its own and keeps the options apart, but it makes no
difference to what is emitted. -/
theorem last_setting_wins_undone :
    default.setAll undoneSettings = default.setAll settledSettings.reverse ∧
    EmitsAlike (default.setAll undoneSettings) (default.set "nullable" (.bool true)) ∧
    default.setAll undoneSettings ≠ default.set "nullable" (.bool true) := by
  obtain ⟨-, -, -, -, -, -, -, hsame, -, hemits⟩ := last_setting_wins default undoneSettings
  obtain ⟨-, -, -, -, -, -, -, -, hperm, -⟩ := last_setting_wins default settledSettings
  have hreversed := hperm settledSettings.reverse settledSettings.reverse_perm.symm (by decide)
  -- Of the option that is set twice only the second value is left.
  have hlast : ∀ name, lastSetting? undoneSettings name = lastSetting? settledSettings name := by
    intro name
    by_cases hname : name = "allErrors"
    · simp [undoneSettings, settledSettings, lastSetting?_cons, hname]
    · simp [undoneSettings, settledSettings, lastSetting?_cons, hname]
  have hmerged : (default.setAll undoneSettings).merged
      = (default.set "nullable" (.bool true)).merged := rfl
  refine ⟨(hsame _ fun name => (hlast name).trans (hreversed name)).1,
    (hemits _).2 (merged_eq_iff.1 hmerged), fun h => ?_⟩
  have hlength := congrArg (fun o : EngineOptions => o.overrides.length) h
  exact absurd hlength (by decide)

end EngineOptions

end SchemaGate
