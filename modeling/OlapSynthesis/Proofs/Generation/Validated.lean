import OlapSynthesis.Proofs.Generation.Inspection
import OlapSynthesis.Proofs.Settings.Validation

namespace OlapSynthesis

open Generation

namespace Discovery

variable {discovery : Discovery} {name : String} {cause : ConfigurationError}

theorem read_ne_configuration (path : String) :
    discovery.read path ≠ .error (.configuration cause) := by
  unfold read
  dsimp only
  split
  · simp
  · split
    · simp
    · split <;> simp

theorem matching_ne_configuration (directory pattern : String) :
    discovery.matching directory pattern ≠ .error (.configuration cause) := by
  unfold matching
  split
  · simp
  · split
    · simp
    · dsimp only
      split <;> simp

/-- Only a source without a location is answered with a complaint about the configuration. -/
theorem location_of_layout {source : SourceSettings}
    (h : discovery.layout name source = .error (.configuration cause)) :
    source.location name = .error cause := by
  unfold layout template at h
  cases hlocation : source.location name with
  | error found =>
    rw [hlocation] at h
    cases h
    rfl
  | ok location =>
    rw [hlocation] at h
    cases location with
    | file path => exact absurd h (read_ne_configuration path)
    | directory path glob =>
      simp only [Except.mapError, ok_bind] at h
      cases hmatching : discovery.matching path glob with
      | error found =>
        rw [hmatching] at h
        cases h
        exact absurd hmatching (matching_ne_configuration path glob)
      | ok paths =>
        rw [hmatching, ok_bind] at h
        cases paths with
        | nil => cases h
        | cons first rest => exact absurd h (read_ne_configuration first)

theorem location_of_layouts {group : ReferenceSettings}
    (h : discovery.layouts name group = .error (.configuration cause)) :
    group.location name = .error cause := by
  unfold layouts members at h
  cases hlocation : group.location name with
  | error found =>
    rw [hlocation] at h
    cases h
    rfl
  | ok location =>
    obtain ⟨path, glob⟩ := location
    rw [hlocation] at h
    simp only [Except.mapError, ok_bind] at h
    cases hmatching : discovery.matching path glob with
    | error found =>
      rw [hmatching] at h
      cases h
      exact absurd hmatching (matching_ne_configuration path glob)
    | ok paths =>
      rw [hmatching, ok_bind] at h
      obtain ⟨found, -, hread⟩ := exists_of_mapM_eq_error h
      exact absurd hread (read_ne_configuration found)

end Discovery

theorem Finding.of_eq_failed {α : Type} {x : Except DiscoveryError α} {cause : DiscoveryError}
    (h : Finding.of x = .failed cause) : x = .error cause := by
  unfold Finding.of at h
  split at h <;> cases h
  rfl

namespace Generation

variable {survey : Survey} {name : String} {cause : DiscoveryError}

theorem discovery_notMem_layoutsFailures {group : String} {policy : StorePolicy}
    {taken : List String} {layouts : List SourceLayout} :
    .discovery name cause ∉ layoutsFailures group policy taken layouts := by
  induction layouts generalizing taken with
  | nil => exact List.not_mem_nil
  | cons layout layouts ih =>
    rw [layoutsFailures, List.mem_append, not_or]
    refine ⟨?_, ih⟩
    unfold layoutFailures
    split <;> split <;> simp

theorem exists_group_of_discovery_mem {taken : List String}
    {groups : List (String × ReferenceSettings)}
    (h : .discovery name cause ∈ referenceFailures survey taken groups) :
    ∃ group, (name, group) ∈ groups ∧ survey.reference name group = .failed cause := by
  induction groups generalizing taken with
  | nil => cases h
  | cons entry groups ih =>
    obtain ⟨store, group⟩ := entry
    rw [referenceFailures, List.mem_append] at h
    rcases h with hhere | hlater
    · cases hfound : survey.reference store group with
      | crashed => simp [hfound] at hhere
      | failed found =>
        simp only [hfound, List.mem_singleton, GenerationError.discovery.injEq] at hhere
        obtain ⟨rfl, rfl⟩ := hhere
        exact ⟨group, List.mem_cons_self, hfound⟩
      | found layouts =>
        simp only [hfound] at hhere
        exact absurd hhere discovery_notMem_layoutsFailures
    · obtain ⟨later, hmem, hfailed⟩ := ih hlater
      exact ⟨later, List.mem_cons_of_mem _ hmem, hfailed⟩

theorem primary_of_failure? {entry : String × SourceSettings}
    (h : failure? survey entry = some (.discovery name cause)) :
    entry.1 = name ∧ survey.primary entry.1 entry.2 = .failed cause := by
  unfold failure? Search.of at h
  cases hprimary : survey.primary entry.1 entry.2 with
  | crashed => simp [hprimary, Search.failure?] at h
  | failed found =>
    simp only [hprimary, Search.failure?, Option.some.injEq, GenerationError.discovery.injEq] at h
    exact ⟨h.1, congrArg Finding.failed h.2⟩
  | found layout =>
    simp only [hprimary] at h
    split at h <;> simp [Search.failure?] at h

end Generation

namespace Configuration

variable {survey : Survey} {processors : UInt64} {configuration : Configuration} {model : Model}

/-- A run that fails answers with something that is wrong, or it was brought down. -/
theorem mem_failures_of_generate {cause : GenerationError}
    (h : configuration.generate survey processors = .error cause) :
    cause = .aborted ∨ cause ∈ configuration.failures survey := by
  rw [generate, generateWith_eq] at h
  split at h
  · cases h
    exact .inl rfl
  · unfold unlessFailed at h
    split at h
    next first hfirst =>
      cases h
      exact .inr (List.mem_of_head? hfirst)
    · cases h

/-- Every cube is that of the spec of a source. -/
theorem exists_source_of_cube (h : configuration.generate survey processors = .ok model)
    {schema : CubeSchema} (hschema : schema ∈ model.manager.schemas) {cube : Cube}
    (hcube : cube ∈ schema.cubes) :
    ∃ name source layout spec, configuration.sources.get? name = some source ∧
      StoreSpec.ofLayout name layout source.policy = .ok spec ∧
      cube = withCurrency configuration.currencyStore spec.name spec.cube := by
  obtain ⟨-, hfailures, rfl⟩ := generate_eq_ok_iff.mp h
  obtain ⟨hprimaries, -⟩ := List.append_eq_nil_iff.mp hfailures
  rw [modelOf_eq processors hprimaries] at hschema
  obtain ⟨primary, hprimary, rfl⟩ := List.mem_map.mp hschema
  obtain rfl := List.mem_singleton.mp hcube
  obtain ⟨⟨layout, spec⟩, hfound, rfl⟩ := List.mem_map.mp hprimary
  obtain ⟨⟨name, source⟩, hentry, hsearch⟩ := List.mem_filterMap.mp hfound
  have hof : Search.of survey (name, source) = .found layout spec := by
    unfold Search.found? at hsearch
    split at hsearch <;> cases hsearch
    assumption
  exact ⟨name, source, layout, spec, Dictionary.get?_eq_some_iff.mpr hentry,
    (Search.of_eq_found_iff.mp hof).2, rfl⟩

/-- Every store has the layout that some spec is described by. -/
theorem exists_spec_of_store (h : configuration.generate survey processors = .ok model)
    {layout : StoreLayout} (hlayout : layout ∈ model.datastore.stores) :
    ∃ spec : StoreSpec, layout =
      (spec.outcome (configuration.general.effectiveParallelism processors)).layout := by
  obtain ⟨-, hfailures, rfl⟩ := generate_eq_ok_iff.mp h
  obtain ⟨hprimaries, -⟩ := List.append_eq_nil_iff.mp hfailures
  rw [modelOf_eq processors hprimaries] at hlayout
  obtain ⟨part, hpart, rfl⟩ := List.mem_map.mp hlayout
  rcases List.mem_append.mp hpart with hprimary | hreference
  · obtain ⟨primary, hmem, rfl⟩ := List.mem_map.mp hprimary
    obtain ⟨found, -, rfl⟩ := List.mem_map.mp hmem
    exact ⟨found.2, rfl⟩
  · obtain ⟨group, -, hgroup⟩ := List.mem_flatMap.mp hreference
    obtain ⟨found, -, hfound⟩ := List.mem_filterMap.mp hgroup
    obtain ⟨spec, -, rfl⟩ := Option.map_eq_some_iff.mp hfound
    exact ⟨spec, rfl⟩

theorem generate_ne_configuration (valid : configuration.offences = []) (discovery : Discovery)
    (processors : UInt64) (name : String) (cause : ConfigurationError) :
    configuration.generate discovery.survey processors ≠
      .error (.discovery name (.configuration cause)) := by
  intro h
  obtain ⟨-, hsources, hreferences⟩ := offences_eq_nil_iff.mp valid
  rcases mem_failures_of_generate h with habort | hmem
  · cases habort
  · rcases List.mem_append.mp hmem with hprimary | hreference
    · obtain ⟨⟨store, source⟩, hentry, hfailure⟩ := List.mem_filterMap.mp hprimary
      obtain ⟨-, hfailed⟩ := primary_of_failure? hfailure
      have hlocation := Discovery.location_of_layout (Finding.of_eq_failed hfailed)
      obtain ⟨⟨hfile, hdirectory⟩, -⟩ := SourceSettings.location_eq_error_iff.mp hlocation
      obtain ⟨hplaced, -⟩ := hsources store source (Dictionary.get?_eq_some_iff.mpr hentry)
      exact hplaced.elim (· hfile) (· hdirectory)
    · obtain ⟨group, hentry, hfailed⟩ := exists_group_of_discovery_mem hreference
      have hlocation := Discovery.location_of_layouts (Finding.of_eq_failed hfailed)
      exact hreferences name group (Dictionary.get?_eq_some_iff.mpr hentry)
        (ReferenceSettings.location_eq_error_iff.mp hlocation).1

theorem cache_of_withCurrency (currencyStore store : String) (cube : Cube) :
    (withCurrency currencyStore store cube).name = cube.name ∧
      (withCurrency currencyStore store cube).cache = cube.cache := by
  unfold withCurrency
  split <;> exact ⟨rfl, rfl⟩

/-- A configuration is valid exactly if the parallelism is not zero, every source has a file or a
directory and no empty cache, and every group has a directory; otherwise the first thing that is
wrong is told. A run of a valid configuration never misses a location, whatever files there are.
Each of its cubes has the cache of its source, which is none or holds something, and what is
partitioned has two partitions at least. -/
theorem validated_runs (configuration : Configuration) :
    (configuration.validate = .ok () ↔
      configuration.general.parallelism ≠ some 0 ∧
      (∀ name source, configuration.sources.get? name = some source →
        (source.file ≠ none ∨ source.directory ≠ none) ∧ source.cacheSize ≠ some 0) ∧
      ∀ name group, configuration.references.get? name = some group → group.directory ≠ none) ∧
    (∀ cause, configuration.validate = .error cause ↔
      configuration.offences.head? = some cause) ∧
    (configuration.validate = .ok () → ∀ (discovery : Discovery) (processors : UInt64),
      (∀ name cause, configuration.generate discovery.survey processors ≠
        .error (.discovery name (.configuration cause))) ∧
      ∀ model, configuration.generate discovery.survey processors = .ok model →
        (∀ schema ∈ model.manager.schemas, ∀ cube ∈ schema.cubes, ∃ source,
          configuration.sources.get? cube.name = some source ∧
            cube.cache = source.cacheSize.map AggregatesCache.mk ∧
            ∀ cache, cube.cache = some cache → 1 ≤ cache.size) ∧
        ∀ layout ∈ model.datastore.stores, ∀ partitioning,
          layout.partitioning = some partitioning → 2 ≤ partitioning.count) := by
  rw [validate_eq]
  refine ⟨refuseFirst_eq_ok_iff.trans offences_eq_nil_iff, fun _ => refuseFirst_eq_error_iff, ?_⟩
  intro hvalid discovery processors
  have valid := refuseFirst_eq_ok_iff.mp hvalid
  refine ⟨generate_ne_configuration valid discovery processors, ?_⟩
  intro model hmodel
  constructor
  · intro schema hschema cube hcube
    obtain ⟨name, source, layout, spec, hsource, hspec, rfl⟩ :=
      exists_source_of_cube hmodel hschema hcube
    obtain ⟨-, hname, -, hpolicy⟩ := StoreSpec.ofLayout_builds_iff.mp hspec
    obtain ⟨hcubeName, hcache⟩ :=
      cache_of_withCurrency configuration.currencyStore spec.name spec.cube
    have hsize : spec.cacheSize = source.cacheSize := congrArg StorePolicy.cacheSize hpolicy
    have hstore : spec.cube.name = name := hname
    rw [hcache, StoreSpec.cube_cache, hsize, hcubeName, hstore]
    refine ⟨source, hsource, rfl, ?_⟩
    intro cache hsome
    obtain ⟨size, hset, rfl⟩ := Option.map_eq_some_iff.mp hsome
    obtain ⟨-, hnonzero⟩ := (offences_eq_nil_iff.mp valid).2.1 name source hsource
    have hne : size ≠ 0 := fun hzero => hnonzero (hzero ▸ hset)
    rw [UInt32.le_iff_toNat_le]
    exact Nat.pos_of_ne_zero fun hzero => hne (UInt32.toNat_inj.mp hzero)
  · intro layout hlayout partitioning hpartitioning
    obtain ⟨spec, rfl⟩ := exists_spec_of_store hmodel hlayout
    exact (StoreSpec.column_of_partitioning hpartitioning).1

/-- A source with a cache. -/
theorem validated_runs_with_cache :
    let text := "\x7b\"columns\":[\x7b\"name\":\"ccy\",\"type\":\"string\"\x7d]\x7d"
    let tree : FileTree := .directory [("trades.json", .file text.toUTF8)]
    let discovery : Discovery := ⟨tree.files "/", none⟩
    let source : SourceSettings :=
      { SourceSettings.default with file := some "/trades.json", cacheSize := some 7 }
    let configuration : Configuration :=
      { Configuration.default with sources := .ofList [("trades", source)] }
    configuration.validate = .ok () ∧ ∃ model,
      configuration.generate discovery.survey 8 = .ok model ∧ model.manager.schemas ≠ [] ∧
        ∀ schema ∈ model.manager.schemas, ∀ cube ∈ schema.cubes, cube.cache = some ⟨7⟩ := by
  intro text tree discovery source configuration
  have readable : discovery.files.readText? "/trades.json" = some text := by decide +kernel
  have hmanifest : Manifest.ofText? text = some ⟨',', [("ccy", "string")]⟩ := by decide +kernel
  have listed : discovery.Lists "trades" source [("ccy", "string")] :=
    ⟨"/trades.json", text, _, rfl, readable, hmanifest, rfl⟩
  have hvalid : configuration.validate = .ok () := rfl
  obtain ⟨-, -, hruns⟩ := configuration.validated_runs
  have hmodel : ∃ model, configuration.generate discovery.survey 8 = .ok model ∧
      model.manager.schemas ≠ [] := by
    obtain ⟨layout, hlayout, hcolumns⟩ := listed.exists_layout_iff.mpr (.cons rfl .nil)
    let spec : StoreSpec :=
      ⟨"trades", none, [⟨"ccy", .string⟩], some 7, .justInTime, by simp, by decide⟩
    have hspec : StoreSpec.ofLayout "trades" layout source.policy = .ok spec :=
      StoreSpec.ofLayout_builds_iff.mpr ⟨hcolumns ▸ by decide, rfl, hcolumns.symm, rfl⟩
    have hsearch : Search.of discovery.survey ("trades", source) = .found layout spec :=
      Search.of_eq_found_iff.mpr ⟨Finding.of_eq_found_iff.mpr hlayout, hspec⟩
    exact ⟨_, (generate_single_eq_ok_iff rfl rfl).mpr ⟨layout, spec, hsearch, rfl⟩,
      List.cons_ne_nil _ _⟩
  obtain ⟨model, hmodel, hschemas⟩ := hmodel
  refine ⟨hvalid, model, hmodel, hschemas, ?_⟩
  intro schema hschema cube hcube
  obtain ⟨-, hcubes⟩ := hruns hvalid discovery 8
  obtain ⟨found, hfound, hcache, -⟩ := (hcubes model hmodel).1 schema hschema cube hcube
  obtain ⟨-, rfl⟩ : cube.name = "trades" ∧ found = source := by
    simpa using List.mem_singleton.mp (Dictionary.get?_eq_some_iff.mp hfound)
  exact hcache

end Configuration

end OlapSynthesis
