import OlapSynthesis.Proofs.Generation.Work
import OlapSynthesis.Proofs.Synthesis.Interleaving

namespace OlapSynthesis

open Generation

namespace Registry

/-- In both registries, a store has the same cube or none. -/
structure Alike (registry other : Registry) : Prop where
  left : registry.Separate
  right : other.Separate
  cubes : ∀ store, registry.cube? store = other.cube? store

variable {registry other : Registry}

theorem Alike.updateStore (alike : registry.Alike other) (store : String) (change : Cube → Cube) :
    (registry.updateStore store change).Alike (other.updateStore store change) where
  left := alike.left.updateStore store change
  right := alike.right.updateStore store change
  cubes asked := by
    rw [alike.left.cube?_updateStore, alike.right.cube?_updateStore, alike.cubes, alike.cubes]

theorem Alike.customize (alike : registry.Alike other)
    (customizations : List CurrencyCustomization) (store : String) :
    (Generation.customize customizations registry store).Alike
      (Generation.customize customizations other store) := by
  unfold Generation.customize
  induction customizations generalizing registry other with
  | nil => exact alike
  | cons customization customizations ih =>
    rw [List.foldl_cons, List.foldl_cons]
    apply ih
    cases customization.appliesTo store with
    | true => exact alike.updateStore store CurrencyCustomization.extend
    | false => exact alike

theorem Alike.customizeAll (alike : registry.Alike other)
    (customizations : List CurrencyCustomization) (stores : List String) :
    (stores.foldl (Generation.customize customizations) registry).Alike
      (stores.foldl (Generation.customize customizations) other) := by
  induction stores generalizing registry other with
  | nil => exact alike
  | cons store stores ih => exact ih (alike.customize customizations store)

theorem Alike.freeze_eq (alike : registry.Alike other) (inUse inUse' : Handle → Bool) :
    (registry.freeze inUse).1 = (other.freeze inUse').1 := by
  apply Dictionary.ext_get?
  intro store
  rw [alike.left.get?_freeze, alike.right.get?_freeze, alike.cubes]

end Registry

namespace Generation

variable {survey : Survey}

/-- The stores that the workers synthesize. -/
def specsOf (survey : Survey) (configuration : Configuration) : List StoreSpec :=
  (foundIn survey configuration.sources.entries).map (·.2)

theorem sublist_foundIn (entries : List (String × SourceSettings)) :
    ((foundIn survey entries).map (·.2.name)).Sublist (entries.map (·.1)) := by
  unfold foundIn
  induction entries with
  | nil => exact .slnil
  | cons entry entries ih =>
    rw [List.filterMap_cons]
    cases hsearch : Search.of survey entry with
    | found layout spec =>
      have hname : spec.name = entry.1 := name_of_found hsearch
      simp only [Search.found?, List.map_cons, hname]
      exact ih.cons_cons entry.1
    | failed cause => exact ih.cons entry.1
    | crashed => exact ih.cons entry.1

theorem nodup_specsOf (survey : Survey) (configuration : Configuration) :
    ((specsOf survey configuration).map (·.name)).Nodup := by
  rw [specsOf, List.map_map]
  exact (sublist_foundIn _).nodup configuration.sources.nodup_keys

end Generation

/-- What a run makes of its sources if the workers have left a certain registry. -/
def Configuration.generateFrom (registry : Registry) (customizations : List CurrencyCustomization)
    (survey : Survey) (processors : UInt64) (configuration : Configuration) :
    Except GenerationError Model := do
  let (charset, warning) := Charset.resolve configuration.general.charset
  let shared : Shared := ⟨charset, configuration.general.effectiveParallelism processors⟩
  let primaries ← await (results survey shared configuration.sources.entries)
  let names := primaries.map (·.binding.store)
  let stores ← configuration.references.entries.foldlM (layOutGroup survey shared) ⟨names, []⟩
  let registry := names.foldl (customize customizations) registry
  let (cubes, _) := registry.freeze fun _ => false
  return assemble warning.toList primaries stores.references cubes

variable {registry other : Registry} {customizations : List CurrencyCustomization} {survey : Survey}
  {processors : UInt64} {configuration : Configuration}

theorem Configuration.generateWith_eq_generateFrom :
    configuration.generateWith customizations survey processors =
      configuration.generateFrom (Registry.empty.registerAll (specsOf survey configuration))
        customizations survey processors := by
  simp only [generateWith, generateFrom, workAll_eq, specsOf]

theorem Configuration.generateFrom_congr (alike : registry.Alike other) :
    configuration.generateFrom registry customizations survey processors =
      configuration.generateFrom other customizations survey processors := by
  have hcubes (names : List String) :=
    (alike.customizeAll customizations names).freeze_eq (fun _ => false) fun _ => false
  simp only [generateFrom, hcubes]

open Synthesis in
/-- In whatever order the workers of a run write to the registry, the run comes to the same. -/
theorem Configuration.generateWith_eq_of_run {state : State}
    (run : Relation.ReflTransGen Step (.start (specsOf survey configuration)) state)
    (finished : state.Finished) :
    configuration.generateWith customizations survey processors =
      configuration.generateFrom state.registry customizations survey processors := by
  rw [generateWith_eq_generateFrom]
  apply generateFrom_congr
  let specs := specsOf survey configuration
  obtain ⟨calls, hcalls, run'⟩ := run_registerAll specs .empty []
  obtain ⟨-, history, follows⟩ := ready_of_run run
  exact {
    left := (Registry.Follows.empty.registerAll specs).separate
    right := follows.separate
    cubes := cube?_eq_of_runs run' hcalls run finished (nodup_specsOf survey configuration) }

end OlapSynthesis
