import OlapSynthesis.Proofs.Generation.Failure
import OlapSynthesis.Proofs.Registry.Freezing

namespace OlapSynthesis

structure PrimaryEntry where
  part : StorePart
  cube : Cube

def Model.ofEntries (warnings : List Warning) (primaries : List PrimaryEntry)
    (references : List StorePart) : Model :=
  let parts := primaries.map (·.part) ++ references
  { datastore := ⟨parts.map (·.outcome.layout)⟩
    manager := ⟨primaries.map fun entry => Catalog.ofStore entry.part.binding.store,
      primaries.map fun entry =>
        CubeSchema.ofStore entry.part.binding.store entry.part.outcome.selection entry.cube⟩
    sources := parts.map (·.binding)
    warnings := warnings ++ parts.flatMap (·.outcome.warnings) }

namespace Generation

/-- The cube of a store with the currency customization, if the customization is for the store. -/
def withCurrency (currencyStore store : String) (cube : Cube) : Cube :=
  if Text.trim currencyStore ≠ "" ∧ Text.trim currencyStore = store then
    (cube.addDimension CurrencyCustomization.analysisDimension).addMeasures
      [.aggregated CurrencyCustomization.pnlMeasure, .derived CurrencyCustomization.fxMeasure,
        .derived CurrencyCustomization.groupMeasure]
  else cube

end Generation

open Generation

namespace Generation

variable {survey : Survey} {shared : Shared}

/-- The primary stores of a run in which no source fails. -/
def primaryEntries (survey : Survey) (shared : Shared) (currencyStore : String)
    (entries : List (String × SourceSettings)) : List PrimaryEntry :=
  (foundIn survey entries).map fun found =>
    ⟨partOf shared found.1 found.2, withCurrency currencyStore found.2.name found.2.cube⟩

/-- The registry has for each of some specs for different stores the cube that it describes. -/
theorem cube?_registerAll {specs : List StoreSpec} (distinct : (specs.map (·.name)).Nodup)
    {spec : StoreSpec} (hspec : spec ∈ specs) :
    (Registry.empty.registerAll specs).cube? spec.name = some spec.cube := by
  have hchanges : History.changesOf
      (specs.flatMap fun spec => History.ofChanges spec.name spec.changes) spec.name =
      spec.changes := by
    rw [History.changesOf_flatMap, Dictionary.filter_eq_singleton distinct hspec rfl,
      List.flatMap_singleton]
  have hne : spec.changes ≠ [] := by simp [StoreSpec.changes]
  have follows := Registry.Follows.empty.registerAll specs
  rw [List.nil_append] at follows
  rw [follows.cubes, History.cube?, hchanges, if_neg hne, spec.replay_changes]

theorem customize_eq (store? : Option String) (registry : Registry) (store : String) :
    customize (store?.toList.map CurrencyCustomization.mk) registry store =
      if store? = some store then registry.updateStore store CurrencyCustomization.extend
      else registry := by
  cases store? with
  | none => rfl
  | some chosen =>
    simp only [customize, Option.toList_some, List.map_cons, List.map_nil, List.foldl_cons,
      List.foldl_nil, CurrencyCustomization.appliesTo, beq_iff_eq, Option.some.injEq]

theorem customizeAll_of_not_mem {store? : Option String} {stores : List String}
    (h : ∀ store ∈ stores, store? ≠ some store) (registry : Registry) :
    stores.foldl (customize (store?.toList.map CurrencyCustomization.mk)) registry = registry := by
  induction stores with
  | nil => rfl
  | cons store stores ih =>
    obtain ⟨hstore, hstores⟩ := List.forall_mem_cons.mp h
    rw [List.foldl_cons, customize_eq, if_neg hstore, ih hstores]

theorem customizeAll_of_mem {chosen : String} {stores : List String} (distinct : stores.Nodup)
    (h : chosen ∈ stores) (registry : Registry) :
    stores.foldl (customize ((some chosen).toList.map CurrencyCustomization.mk)) registry =
      registry.updateStore chosen CurrencyCustomization.extend := by
  induction stores with
  | nil => cases h
  | cons store stores ih =>
    obtain ⟨hstore, hstores⟩ := List.nodup_cons.mp distinct
    rw [List.foldl_cons, customize_eq]
    -- once the chosen store was met, no other has its name
    by_cases hchosen : chosen = store
    · rw [if_pos (congrArg some hchosen), customizeAll_of_not_mem, hchosen]
      intro other hother heq
      apply hstore
      rwa [← hchosen, Option.some.inj heq]
    · rw [if_neg fun heq => hchosen (Option.some.inj heq)]
      exact ih hstores (List.mem_of_ne_of_mem hchosen h)

/-- Customizing the cubes of different stores extends the one that the customization is for. -/
theorem cube?_customizeAll {registry : Registry} (separate : registry.Separate)
    (store? : Option String) {stores : List String} (distinct : stores.Nodup) {store : String}
    (hstore : store ∈ stores) {cube : Cube} (hcube : registry.cube? store = some cube) :
    let customized := stores.foldl (customize (store?.toList.map CurrencyCustomization.mk)) registry
    customized.Separate ∧ customized.cube? store =
      some (if store? = some store then CurrencyCustomization.extend cube else cube) := by
  by_cases hchosen : ∃ chosen ∈ stores, store? = some chosen
  · obtain ⟨chosen, hmem, rfl⟩ := hchosen
    rw [customizeAll_of_mem distinct hmem]
    refine ⟨separate.updateStore chosen _, ?_⟩
    rw [separate.cube?_updateStore]
    by_cases heq : store = chosen
    · rw [if_pos heq, if_pos (congrArg some heq.symm), ← heq, hcube]
      rfl
    · rw [if_neg heq, if_neg fun hsome => heq (Option.some.inj hsome).symm, hcube]
  · have hnot : ∀ other ∈ stores, store? ≠ some other := fun other hother heq =>
      hchosen ⟨other, hother, heq⟩
    rw [customizeAll_of_not_mem hnot, if_neg (hnot store hstore)]
    exact ⟨separate, hcube⟩

theorem withCurrency_eq (configuration : Configuration) (store : String) (cube : Cube) :
    withCurrency configuration.currencyStore store cube =
      if configuration.customizedStore? = some store then CurrencyCustomization.extend cube
      else cube := by
  have hiff : configuration.customizedStore? = some store ↔
      Text.trim configuration.currencyStore ≠ "" ∧
        Text.trim configuration.currencyStore = store := by
    rw [Configuration.customizedStore?, Option.filter_eq_some_iff, Option.some.injEq,
      decide_eq_true_eq, and_comm]
    constructor
    · rintro ⟨hne, rfl⟩
      exact ⟨hne, rfl⟩
    · rintro ⟨hne, rfl⟩
      exact ⟨hne, rfl⟩
  simp only [withCurrency, hiff]
  rfl

/-- When the run is over, the cube of each primary store is the one that the store gives alone. -/
theorem get?_freeze_of_found {configuration : Configuration}
    (distinct : ((foundIn survey configuration.sources.entries).map (·.2.name)).Nodup)
    {found : SourceLayout × StoreSpec} (hfound : found ∈ foundIn survey configuration.sources.entries) :
    let names := (foundIn survey configuration.sources.entries).map (·.2.name)
    let registry := names.foldl (customize configuration.customizations)
      (Registry.empty.registerAll ((foundIn survey configuration.sources.entries).map (·.2)))
    (registry.freeze fun _ => false).1.get? found.2.name =
      some (withCurrency configuration.currencyStore found.2.name found.2.cube) := by
  intro names registry
  let specs := (foundIn survey configuration.sources.entries).map (·.2)
  have hspecs : specs.map (·.name) = names := List.map_map
  have hspec : found.2 ∈ specs := List.mem_map_of_mem hfound
  have follows := Registry.Follows.empty.registerAll specs
  obtain ⟨separate, hcube⟩ := cube?_customizeAll follows.separate
    configuration.customizedStore? distinct (List.mem_map_of_mem hfound)
    (cube?_registerAll (hspecs ▸ distinct) hspec)
  rw [withCurrency_eq]
  exact (separate.get?_freeze _ _).trans hcube

end Generation

theorem Generation.assemble_eq_ofEntries (warnings : List Warning) {entries : List PrimaryEntry}
    (references : List StorePart) {cubes : Dictionary Cube}
    (h : ∀ entry ∈ entries, cubes.get? entry.part.binding.store = some entry.cube) :
    assemble warnings (entries.map (·.part)) references cubes =
      .ofEntries warnings entries references := by
  have hschemas : (entries.map (·.part)).map (fun part =>
        CubeSchema.ofStore part.binding.store part.outcome.selection
          ((cubes.get? part.binding.store).getD (Cube.ofStore part.binding.store))) =
      entries.map fun entry =>
        CubeSchema.ofStore entry.part.binding.store entry.part.outcome.selection entry.cube := by
    rw [List.map_map]
    apply List.map_congr_left
    intro entry hentry
    rw [Function.comp_apply, h entry hentry, Option.getD_some]
  rw [assemble, Model.ofEntries]
  simp only [hschemas, List.map_map, Function.comp_def]

theorem Configuration.modelOf_eq {survey : Survey} {configuration : Configuration}
    (processors : UInt64)
    (h : configuration.sources.entries.filterMap (failure? survey) = []) :
    modelOf configuration.customizations survey processors configuration =
      .ofEntries (Charset.resolve configuration.general.charset).2.toList
        (primaryEntries survey (sharedOf processors configuration) configuration.currencyStore
          configuration.sources.entries)
        (referenceParts survey (sharedOf processors configuration)
          configuration.references.entries) := by
  have distinct : ((foundIn survey configuration.sources.entries).map (·.2.name)).Nodup := by
    rw [names_foundIn h]
    exact configuration.sources.nodup_keys
  have hparts : (foundIn survey configuration.sources.entries).map (fun found =>
        partOf (sharedOf processors configuration) found.1 found.2) =
      (primaryEntries survey (sharedOf processors configuration) configuration.currencyStore
        configuration.sources.entries).map (·.part) := by
    rw [primaryEntries, List.map_map]
    rfl
  rw [modelOf]
  simp only [hparts]
  apply assemble_eq_ofEntries
  intro entry hentry
  obtain ⟨found, hfound, rfl⟩ := List.mem_map.mp hentry
  have hstore : (partOf (sharedOf processors configuration) found.1 found.2).binding.store =
      found.2.name := rfl
  dsimp only
  rw [hstore]
  exact get?_freeze_of_found distinct hfound

theorem Configuration.generateWith_eq_ok_iff {customizations : List CurrencyCustomization}
    {survey : Survey} {processors : UInt64} {configuration : Configuration} {model : Model} :
    configuration.generateWith customizations survey processors = .ok model ↔
      crashesUnawaited survey configuration.sources.entries = false ∧
        configuration.failures survey = [] ∧
        modelOf customizations survey processors configuration = model := by
  rw [generateWith_eq]
  cases crashesUnawaited survey configuration.sources.entries with
  | true => simp
  | false => simp [unlessFailed_eq_ok_iff]

theorem Configuration.generate_eq_ok_iff {survey : Survey} {processors : UInt64}
    {configuration : Configuration} {model : Model} :
    configuration.generate survey processors = .ok model ↔
      crashesUnawaited survey configuration.sources.entries = false ∧
        configuration.failures survey = [] ∧
        modelOf configuration.customizations survey processors configuration = model :=
  generateWith_eq_ok_iff

end OlapSynthesis
