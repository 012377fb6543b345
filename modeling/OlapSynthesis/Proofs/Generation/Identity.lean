import OlapSynthesis.Proofs.Generation.Independence

namespace OlapSynthesis

open Generation

/-- The lists of a model are aligned: some primary stores come first and then some reference stores,
all of them with different names. Each primary store has its catalog and its schema at its own
position and is found under its name, as is its schema; no reference store has a cube. -/
structure Model.Identifies (model : Model) (primaries references : List String) : Prop where
  distinct : (primaries ++ references).Nodup
  stores : model.datastore.stores.map (·.name) = primaries ++ references
  sources : model.sources.map (·.store) = primaries ++ references
  catalogs : model.manager.catalogs = primaries.map fun store => ⟨store ++ "_CATALOG", [store]⟩
  schemas : model.manager.schemas.length = primaries.length
  schemaAt : ∀ (i : Nat) store, primaries[i]? = some store →
    ∃ schema cube, model.manager.schemas[i]? = some schema ∧
      schema.name = store ++ "_SCHEMA" ∧ schema.selection.baseStore = store ∧
      schema.cubes = [cube] ∧ cube.name = store ∧
      model.manager.schema? (store ++ "_SCHEMA") = some schema ∧
      model.manager.cube? store = some cube
  managerNames :
    (model.manager.catalogs.map (·.name) ++ model.manager.schemas.map (·.name)).Nodup
  noCube : ∀ store ∈ references, model.manager.cube? store = none

/-- The files that are found for the reference groups, each with its group. -/
def Configuration.referenceFiles (survey : Survey) (configuration : Configuration) :
    List (String × SourceLayout) :=
  configuration.references.entries.flatMap fun group =>
    (layoutsOf survey group).map fun layout => (group.1, layout)

/-- The files of a reference group are found, and all of them can be stores. -/
def Generation.GroupFound (survey : Survey) (group : String × ReferenceSettings) : Prop :=
  ∃ layouts, survey.reference group.1 group.2 = .found layouts ∧ ∀ layout ∈ layouts, ∃ spec,
    StoreSpec.ofLayout layout.sourceName layout group.2.policy = .ok spec

/-- Every search finds something, and everything that is found can be a store. -/
structure Configuration.AllFound (survey : Survey) (configuration : Configuration) : Prop where
  sources : ∀ entry ∈ configuration.sources.entries, ∃ layout spec,
    survey.primary entry.1 entry.2 = .found layout ∧
      StoreSpec.ofLayout entry.1 layout entry.2.policy = .ok spec
  references : ∀ group ∈ configuration.references.entries, GroupFound survey group

namespace Generation

/-- The schema of a part in a model where the stores have certain cubes. -/
def schemaOf (cube : String → Cube) (part : StorePart) : CubeSchema :=
  CubeSchema.ofStore part.binding.store part.outcome.selection (cube part.binding.store)

section

variable {cube : String → Cube} {parts : List StorePart} {part : StorePart} {manager : Manager}

theorem names_schemas (cube : String → Cube) (parts : List StorePart) :
    (parts.map (schemaOf cube)).map (·.name) =
      (parts.map (·.binding.store)).map (· ++ "_SCHEMA") := by
  rw [List.map_map, List.map_map]
  rfl

theorem nodup_map_append {stores : List String} (h : stores.Nodup) (suffix : String) :
    (stores.map (· ++ suffix)).Nodup := by
  apply h.map_on
  intro store _ other _ heq
  simpa using heq

theorem schema?_of_mem (hschemas : manager.schemas = parts.map (schemaOf cube))
    (hdistinct : (parts.map (·.binding.store)).Nodup) (hpart : part ∈ parts) :
    manager.schema? (part.binding.store ++ "_SCHEMA") = some (schemaOf cube part) := by
  have hnames : ((parts.map (schemaOf cube)).map (·.name)).Nodup := by
    rw [names_schemas]
    exact nodup_map_append hdistinct "_SCHEMA"
  rw [Manager.schema?, hschemas]
  exact Dictionary.find?_eq_some_of_nodup hnames (List.mem_map_of_mem hpart)

theorem cubes_schemas (cube : String → Cube) (parts : List StorePart) :
    (parts.map (schemaOf cube)).flatMap (·.cubes) = parts.map fun part => cube part.binding.store := by
  induction parts with
  | nil => rfl
  | cons part parts ih =>
    rw [List.map_cons, List.flatMap_cons, ih]
    rfl

theorem cube?_of_mem (hschemas : manager.schemas = parts.map (schemaOf cube))
    (hcube : ∀ store, (cube store).name = store)
    (hdistinct : (parts.map (·.binding.store)).Nodup) (hpart : part ∈ parts) :
    manager.cube? part.binding.store = some (cube part.binding.store) := by
  have hnames : ((parts.map fun part => cube part.binding.store).map (·.name)).Nodup := by
    rw [List.map_map]
    simpa only [Function.comp_def, hcube] using hdistinct
  have hfound := Dictionary.find?_eq_some_of_nodup hnames (List.mem_map_of_mem hpart)
  rw [Manager.cube?, hschemas, cubes_schemas]
  rwa [hcube] at hfound

theorem cube?_of_notMem (hschemas : manager.schemas = parts.map (schemaOf cube))
    (hcube : ∀ store, (cube store).name = store) {store : String}
    (hstore : store ∉ parts.map (·.binding.store)) : manager.cube? store = none := by
  rw [Manager.cube?, hschemas, cubes_schemas, List.find?_eq_none]
  intro found hfound hname
  obtain ⟨part, hpart, rfl⟩ := List.mem_map.mp hfound
  apply hstore
  rw [← eq_of_beq hname, hcube]
  exact List.mem_map_of_mem hpart

end

theorem catalogName_ne_schemaName (store other : String) :
    store ++ "_CATALOG" ≠ other ++ "_SCHEMA" := by
  intro h
  have hlast := congrArg (·.toList.getLast?) h
  simp [String.toList_append] at hlast

/-- What is put together of parts with different names is aligned. -/
theorem identifies_assemble (warnings : List Warning) {primaries references : List StorePart}
    {cubes : Dictionary Cube} (hlabelled : ∀ part ∈ primaries ++ references, part.Labelled)
    (hcubes : ∀ store cube, cubes.get? store = some cube → cube.name = store)
    (hdistinct : (primaries.map (·.binding.store) ++ references.map (·.binding.store)).Nodup) :
    (assemble warnings primaries references cubes).Identifies (primaries.map (·.binding.store))
      (references.map (·.binding.store)) := by
  let cube (store : String) : Cube := (cubes.get? store).getD (Cube.ofStore store)
  have hcube (store : String) : (cube store).name = store := by
    cases hget : cubes.get? store with
    | none => simp [cube, hget, Cube.ofStore]
    | some found => simpa [cube, hget] using hcubes store found hget
  have hschemas : (assemble warnings primaries references cubes).manager.schemas =
      primaries.map (schemaOf cube) := rfl
  have hprimaries : (primaries.map (·.binding.store)).Nodup := (List.nodup_append'.mp hdistinct).1
  exact
    { distinct := hdistinct
      stores := by
        rw [← List.map_append, assemble, List.map_map]
        apply List.map_congr_left
        intro part hpart
        exact (hlabelled part hpart).layout
      sources := by
        rw [← List.map_append, assemble, List.map_map]
        rfl
      catalogs := by
        rw [assemble, List.map_map]
        rfl
      schemas := by rw [hschemas, List.length_map, List.length_map]
      schemaAt := by
        intro i store hstore
        rw [List.getElem?_map] at hstore
        obtain ⟨part, hpart, rfl⟩ := Option.map_eq_some_iff.mp hstore
        have hmem : part ∈ primaries := List.mem_of_getElem? hpart
        refine ⟨schemaOf cube part, cube part.binding.store, ?_, rfl, rfl, rfl, hcube _, ?_, ?_⟩
        · rw [hschemas, List.getElem?_map, hpart]
          rfl
        · exact schema?_of_mem hschemas hprimaries hmem
        · exact cube?_of_mem hschemas hcube hprimaries hmem
      managerNames := by
        have hcatalogs : (assemble warnings primaries references cubes).manager.catalogs.map
            (·.name) = (primaries.map (·.binding.store)).map (· ++ "_CATALOG") := by
          rw [assemble, List.map_map, List.map_map]
          rfl
        rw [hcatalogs, hschemas, names_schemas, List.nodup_append']
        refine ⟨nodup_map_append hprimaries _, nodup_map_append hprimaries _, ?_⟩
        intro name hcatalog hschema
        obtain ⟨store, -, rfl⟩ := List.mem_map.mp hcatalog
        obtain ⟨other, -, hname⟩ := List.mem_map.mp hschema
        exact catalogName_ne_schemaName store other hname.symm
      noCube := by
        intro store hreference
        apply cube?_of_notMem hschemas hcube
        intro hprimary
        exact List.disjoint_of_nodup_append hdistinct hprimary hreference }

theorem sound_customizeAll {registry : Registry} (sound : registry.Sound)
    (customizations : List CurrencyCustomization) (stores : List String) :
    (stores.foldl (customize customizations) registry).Sound := by
  have hone (registry : Registry) (sound : registry.Sound) (store : String) :
      (customize customizations registry store).Sound := by
    rw [customize]
    induction customizations generalizing registry with
    | nil => exact sound
    | cons customization customizations ih =>
      rw [List.foldl_cons]
      apply ih
      split
      · exact sound.updateStore store CurrencyCustomization.keepsName_extend
      · exact sound
  induction stores generalizing registry with
  | nil => exact sound
  | cons store stores ih => exact ih (hone registry sound store)

end Generation

/-- What a configuration comes to is aligned, if nothing is wrong with it. -/
theorem Configuration.identifies_modelOf (customizations : List CurrencyCustomization)
    {survey : Survey} (processors : UInt64) {configuration : Configuration}
    (h : configuration.failures survey = []) :
    (modelOf customizations survey processors configuration).Identifies configuration.sources.keys
      ((configuration.referenceFiles survey).map (·.2.sourceName)) := by
  obtain ⟨hprimaries, hreferences⟩ := List.append_eq_nil_iff.mp h
  let shared := sharedOf processors configuration
  let found := foundIn survey configuration.sources.entries
  let parts := found.map fun found => partOf shared found.1 found.2
  have hkeys : parts.map (·.binding.store) = configuration.sources.keys := by
    rw [List.map_map]
    exact names_foundIn hprimaries
  obtain ⟨hfiles, hnodup⟩ := stores_of_referenceFailures shared hreferences
  have hnames : (configuration.referenceFiles survey).map (·.2.sourceName) =
      (configuration.references.entries.flatMap (layoutsOf survey)).map (·.sourceName) := by
    rw [referenceFiles, List.map_flatMap, List.map_flatMap]
    simp only [List.map_map, Function.comp_def]
  have hdistinct : (parts.map (·.binding.store) ++ (referenceParts survey shared
      configuration.references.entries).map (·.binding.store)).Nodup := by
    rw [hkeys, hfiles, List.nodup_append_comm]
    have hreversed := hnodup configuration.sources.nodup_keys
    exact ((List.reverse_perm _).append_right _).nodup_iff.mp hreversed
  have hlabelled : ∀ part ∈ parts ++ referenceParts survey shared configuration.references.entries,
      part.Labelled := by
    intro part hpart
    rcases List.mem_append.mp hpart with hprimary | hreference
    · obtain ⟨source, -, rfl⟩ := List.mem_map.mp hprimary
      exact labelled_partOf _ _ _
    · exact labelled_referenceParts part hreference
  -- a customization may add what it likes to a cube, but the cube keeps the name of its store
  let registry := (found.map (·.2.name)).foldl (customize customizations)
    (Registry.empty.registerAll (found.map (·.2)))
  have sound : registry.Sound :=
    sound_customizeAll (Registry.Sound.empty.registerAll _) customizations _
  have hcubes : ∀ store cube, (registry.freeze fun _ => false).1.get? store = some cube →
      cube.name = store := by
    intro store cube hcube
    rw [sound.get?_freeze] at hcube
    exact sound.name_of_cube? hcube
  have haligned := identifies_assemble
    (Charset.resolve configuration.general.charset).2.toList hlabelled hcubes hdistinct
  rw [hkeys, hfiles, ← hnames] at haligned
  exact haligned

namespace Generation

/-- What is wrong with some files that can all be stores. -/
def repeats : List String → List (String × SourceLayout) → List GenerationError
  | _, [] => []
  | taken, (group, layout) :: files =>
    (if taken.contains layout.sourceName then [.duplicateStore layout.sourceName group] else []) ++
      repeats (layout.sourceName :: taken) files

theorem repeats_append (taken : List String) (files more : List (String × SourceLayout)) :
    repeats taken (files ++ more) =
      repeats taken files ++ repeats ((files.map (·.2.sourceName)).reverse ++ taken) more := by
  induction files generalizing taken with
  | nil => rfl
  | cons file files ih =>
    rw [List.cons_append, repeats, ih, repeats, List.append_assoc, List.map_cons,
      List.reverse_cons, List.append_assoc]
    rfl

theorem layoutsFailures_eq_repeats {group : String} {policy : StorePolicy} {taken : List String}
    {layouts : List SourceLayout} (h : ∀ layout ∈ layouts, ∃ spec,
      StoreSpec.ofLayout layout.sourceName layout policy = .ok spec) :
    layoutsFailures group policy taken layouts =
      repeats taken (layouts.map fun layout => (group, layout)) := by
  induction layouts generalizing taken with
  | nil => rfl
  | cons layout layouts ih =>
    obtain ⟨⟨spec, hspec⟩, hlayouts⟩ := List.forall_mem_cons.mp h
    rw [layoutsFailures, layoutFailures, hspec, ih hlayouts, List.append_nil, List.map_cons,
      repeats]

theorem referenceFailures_eq_repeats {survey : Survey} {taken : List String}
    {groups : List (String × ReferenceSettings)} (h : ∀ group ∈ groups, GroupFound survey group) :
    referenceFailures survey taken groups = repeats taken
      (groups.flatMap fun group => (layoutsOf survey group).map fun layout => (group.1, layout)) := by
  induction groups generalizing taken with
  | nil => rfl
  | cons group groups ih =>
    obtain ⟨⟨layouts, hfound, hlayouts⟩, hgroups⟩ := List.forall_mem_cons.mp h
    have hof : layoutsOf survey group = layouts := by
      rw [layoutsOf, hfound]
    rw [List.flatMap_cons, hof, repeats_append, List.map_map, referenceFailures, ih hgroups, hof,
      hfound]
    exact congrArg (· ++ _) (layoutsFailures_eq_repeats hlayouts)

/-- Where names repeat, the first file that repeats one is the first thing that is wrong. -/
theorem exists_first_repeat {taken : List String} {files : List (String × SourceLayout)}
    (htaken : taken.Nodup) (h : ¬ (taken ++ files.map (·.2.sourceName)).Nodup) :
    ∃ before group layout after, files = before ++ (group, layout) :: after ∧
      (taken ++ before.map (·.2.sourceName)).Nodup ∧
      layout.sourceName ∈ taken ++ before.map (·.2.sourceName) ∧
      (repeats taken files).head? = some (.duplicateStore layout.sourceName group) := by
  -- each file takes its name from the later ones, so the names taken grow along the induction
  induction files generalizing taken with
  | nil => exact absurd (by simpa using htaken) h
  | cons file files ih =>
    obtain ⟨group, layout⟩ := file
    by_cases hmem : layout.sourceName ∈ taken
    · refine ⟨[], group, layout, files, rfl, by simpa using htaken, by simpa using hmem, ?_⟩
      rw [repeats, if_pos (List.contains_iff_mem.mpr hmem)]
      rfl
    · have hlater : ¬ ((layout.sourceName :: taken) ++ files.map (·.2.sourceName)).Nodup := by
        rwa [List.cons_append, ← List.nodup_middle]
      obtain ⟨before, other, repeated, after, hfiles, hdistinct, hrepeated, hhead⟩ :=
        ih (List.nodup_cons.mpr ⟨hmem, htaken⟩) hlater
      refine ⟨(group, layout) :: before, other, repeated, after, ?_, ?_, ?_, ?_⟩
      · rw [hfiles, List.cons_append]
      · rwa [List.map_cons, List.nodup_middle]
      · rw [List.map_cons, List.perm_middle.mem_iff]
        exact hrepeated
      · rw [repeats, if_neg (by simpa using hmem), List.nil_append]
        exact hhead

end Generation

namespace Configuration

variable {survey : Survey} {configuration : Configuration}

theorem AllFound.search (h : configuration.AllFound survey) {entry : String × SourceSettings}
    (hentry : entry ∈ configuration.sources.entries) :
    ∃ layout spec, Search.of survey entry = .found layout spec := by
  obtain ⟨layout, spec, hfound, hspec⟩ := h.sources entry hentry
  refine ⟨layout, spec, ?_⟩
  rw [Search.of, hfound]
  simp only [hspec]

theorem AllFound.crashesUnawaited (h : configuration.AllFound survey) :
    crashesUnawaited survey configuration.sources.entries = false := by
  rw [Bool.eq_false_iff]
  intro hcrashes
  obtain ⟨entry, hentry, hcrash⟩ := List.any_eq_true.mp (any_crashes_of_crashesUnawaited hcrashes)
  obtain ⟨layout, spec, hsearch⟩ := h.search hentry
  rw [crashes, hsearch] at hcrash
  cases hcrash

/-- Where everything is found, nothing can be wrong but repeated names. -/
theorem AllFound.failures (h : configuration.AllFound survey) :
    configuration.failures survey =
      repeats configuration.sources.keys (configuration.referenceFiles survey) := by
  have hprimaries : configuration.sources.entries.filterMap (failure? survey) = [] := by
    rw [List.filterMap_eq_nil_iff]
    intro entry hentry
    obtain ⟨layout, spec, hsearch⟩ := h.search hentry
    rw [failure?, hsearch]
    rfl
  rw [Configuration.failures, hprimaries, referenceFailures_eq_repeats h.references]
  rfl

/-- The lists of a model are aligned, and its names lead to the entries of one store. If everything
is found but two stores would share a name, then there is no model: the answer names the first file
that repeats a name, with its group. -/
theorem generateWith_identifies (customizations : List CurrencyCustomization) (survey : Survey)
    (processors : UInt64) (configuration : Configuration) :
    let primaries := configuration.sources.keys
    let files := configuration.referenceFiles survey
    (∀ model, configuration.generateWith customizations survey processors = .ok model →
      model.Identifies primaries (files.map (·.2.sourceName))) ∧
    (configuration.AllFound survey → ¬ (primaries ++ files.map (·.2.sourceName)).Nodup →
      ∃ before group layout after, files = before ++ (group, layout) :: after ∧
        (primaries ++ before.map (·.2.sourceName)).Nodup ∧
        layout.sourceName ∈ primaries ++ before.map (·.2.sourceName) ∧
        configuration.generateWith customizations survey processors =
          .error (.duplicateStore layout.sourceName group)) := by
  intro primaries files
  constructor
  · intro model hmodel
    obtain ⟨-, hfailures, rfl⟩ := generateWith_eq_ok_iff.mp hmodel
    exact identifies_modelOf customizations processors hfailures
  · intro hfound hrepeat
    obtain ⟨before, group, layout, after, hfiles, hdistinct, hmem, hhead⟩ :=
      exists_first_repeat configuration.sources.nodup_keys hrepeat
    refine ⟨before, group, layout, after, hfiles, hdistinct, hmem, ?_⟩
    rw [generateWith_eq, hfound.crashesUnawaited, if_neg Bool.false_ne_true, unlessFailed,
      hfound.failures, hhead]

/-- A primary store and a reference store; and a second reference group that has the same file. -/
theorem generateWith_identifies_shared_file :
    let layout (store : String) : SourceLayout := ⟨store, ';', [⟨"price", .double⟩], none⟩
    let survey : Survey :=
      ⟨fun store _ => .found (layout store), fun _ _ => .found [layout "rates"]⟩
    let one : Configuration :=
      { Configuration.default with
        sources := .ofList [("trades", .default)], references := .ofList [("g1", .default)] }
    let two : Configuration :=
      { one with references := .ofList [("g1", .default), ("g2", .default)] }
    (∃ model, one.generate survey 8 = .ok model ∧ model.Identifies ["trades"] ["rates"]) ∧
      two.AllFound survey ∧ two.generate survey 8 = .error (.duplicateStore "rates" "g2") := by
  intro layout survey one two
  have hone : ∃ model, one.generate survey 8 = .ok model := by
    rw [generate, generateWith_eq]
    exact ⟨_, rfl⟩
  have hfound : two.AllFound survey :=
    { sources := by
        intro entry hentry
        obtain rfl := List.mem_singleton.mp hentry
        exact ⟨layout "trades", _, rfl, rfl⟩
      references := by
        intro group _
        refine ⟨[layout "rates"], rfl, ?_⟩
        intro file hfile
        obtain rfl := List.mem_singleton.mp hfile
        exact ⟨_, rfl⟩ }
  refine ⟨?_, hfound, ?_⟩
  · obtain ⟨model, hmodel⟩ := hone
    exact ⟨model, hmodel, (generateWith_identifies one.customizations survey 8 one).1 model hmodel⟩
  · obtain ⟨before, group, file, after, hfiles, -, hmem, herror⟩ :=
      (generateWith_identifies two.customizations survey 8 two).2 hfound (by decide)
    have hall : two.referenceFiles survey = [("g1", layout "rates"), ("g2", layout "rates")] := rfl
    rw [hall] at hfiles
    -- the first file does not repeat the name of the primary store, so it is the second that is named
    rcases before with _ | ⟨first, _ | ⟨second, before⟩⟩
    · obtain ⟨hfile, -⟩ := List.cons.inj hfiles
      obtain ⟨-, rfl⟩ := Prod.mk.inj hfile
      exact absurd hmem (by decide)
    · obtain ⟨hfile, -⟩ := List.cons.inj (List.cons.inj hfiles).2
      obtain ⟨rfl, rfl⟩ := Prod.mk.inj hfile
      exact herror
    · simp at hfiles

end Configuration

end OlapSynthesis
