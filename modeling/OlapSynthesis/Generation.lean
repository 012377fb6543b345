import OlapSynthesis.Customization
import OlapSynthesis.Discovery
import OlapSynthesis.Synthesis

namespace OlapSynthesis

inductive Finding (α : Type)
  | found (layouts : α)
  | failed (cause : DiscoveryError)
  /-- The search broke down. -/
  | crashed
deriving DecidableEq

def Finding.of : Except DiscoveryError α → Finding α
  | .ok layouts => .found layouts
  | .error (.tooDeep _) => .crashed
  | .error cause => .failed cause

structure Survey where
  primary : String → SourceSettings → Finding SourceLayout
  reference : String → ReferenceSettings → Finding (List SourceLayout)

def Discovery.survey (discovery : Discovery) : Survey where
  primary name source := .of (discovery.layout name source)
  reference name group := .of (discovery.layouts name group)

inductive GenerationError
  | store (cause : StoreError)
  | discovery (name : String) (cause : DiscoveryError)
  /-- A file of the group has the name of a store that is there already. -/
  | duplicateStore (name group : String)
  /-- The search for the layout of the source broke down. -/
  | brokenWorker (source : String)
  /-- The search for some layout broke down outside the work that is waited for: in a reference
  group, or in a source after another failure had ended the run. -/
  | aborted
deriving DecidableEq

def GenerationError.message : GenerationError → String
  | .store cause => cause.message
  | .discovery name cause => "discovery failed for source '" ++ name ++ "': " ++ cause.message
  | .duplicateStore name group =>
    "store '" ++ name ++ "' from reference group '" ++ group ++ "' is already defined"
  | .brokenWorker source => "synthesis worker for source '" ++ source ++ "' panicked"
  | .aborted => "a scoped thread panicked"

/-- What a run contributes to the model for one store. -/
structure StorePart where
  binding : SourceBinding
  outcome : StoreOutcome
deriving DecidableEq

def SourceLayout.binding (layout : SourceLayout) (store charset : String) : SourceBinding :=
  ⟨store, layout.separator, charset, layout.origin⟩

namespace Generation

structure Shared where
  charset : String
  parallelism : UInt64
deriving DecidableEq

inductive Work
  | done (part : StorePart)
  | failed (cause : GenerationError)
  | crashed
deriving DecidableEq

def Work.isCrashed : Work → Bool
  | .crashed => true
  | _ => false

def synthesize (shared : Shared) (store : String) (source : SourceSettings)
    (layout : SourceLayout) (registry : Registry) :
    Except GenerationError (StorePart × Registry) := do
  let spec ← (StoreSpec.ofLayout store layout source.policy).mapError .store
  let (outcome, registry) ← (spec.synthesize shared.parallelism registry).mapError fun e =>
    .store (.column e)
  return (⟨layout.binding store shared.charset, outcome⟩, registry)

def work (survey : Survey) (shared : Shared) (store : String) (source : SourceSettings)
    (registry : Registry) : Work × Registry :=
  match survey.primary store source with
  | .crashed => (.crashed, registry)
  | .failed cause => (.failed (.discovery store cause), registry)
  | .found layout =>
    match synthesize shared store source layout registry with
    | .ok (part, registry) => (.done part, registry)
    | .error cause => (.failed cause, registry)

/-- Works on all primary sources, whatever comes of the others. -/
def workAll (survey : Survey) (shared : Shared) :
    List (String × SourceSettings) → Registry → List (String × Work) × Registry
  | [], registry => ([], registry)
  | (store, source) :: rest, registry =>
    let (result, registry) := work survey shared store source registry
    let (results, registry) := workAll survey shared rest registry
    ((store, result) :: results, registry)

/-- A failure ends the run; work that broke down and is not waited for brings it down. -/
def failWith (cause : GenerationError) (unawaited : List (String × Work)) :
    Except GenerationError α :=
  if unawaited.any (·.2.isCrashed) then .error .aborted else .error cause

/-- Waits for the work on the sources in order. The first failure ends the run. -/
def await : List (String × Work) → Except GenerationError (List StorePart)
  | [] => .ok []
  | (_, .done part) :: rest => (await rest).map (part :: ·)
  | (_, .failed cause) :: rest => failWith cause rest
  | (store, .crashed) :: rest => failWith (.brokenWorker store) rest

/-- The stores of a run so far: their names, and what the reference stores contribute. -/
structure Stores where
  names : List String
  references : List StorePart
deriving DecidableEq

def layOut (shared : Shared) (group : String) (policy : StorePolicy) (stores : Stores)
    (layout : SourceLayout) : Except GenerationError Stores := do
  let name := layout.sourceName
  if stores.names.contains name then .error (.duplicateStore name group)
  let spec ← (StoreSpec.ofLayout name layout policy).mapError .store
  let outcome ← (spec.describe shared.parallelism).mapError fun e => .store (.column e)
  return ⟨name :: stores.names,
    stores.references ++ [⟨layout.binding name shared.charset, outcome⟩]⟩

def layOutGroup (survey : Survey) (shared : Shared) (stores : Stores)
    (group : String × ReferenceSettings) : Except GenerationError Stores := do
  match survey.reference group.1 group.2 with
  | .crashed => .error .aborted
  | .failed cause => .error (.discovery group.1 cause)
  | .found layouts => layouts.foldlM (layOut shared group.1 group.2.policy) stores

def customize (customizations : List CurrencyCustomization) (registry : Registry)
    (store : String) : Registry :=
  customizations.foldl (fun registry customization =>
    if customization.appliesTo store then registry.updateStore store CurrencyCustomization.extend
    else registry) registry

def assemble (warnings : List Warning) (primaries references : List StorePart)
    (cubes : Dictionary Cube) : Model :=
  let parts := primaries ++ references
  let cube (store : String) := (cubes.get? store).getD (Cube.ofStore store)
  { datastore := ⟨parts.map (·.outcome.layout)⟩
    manager := ⟨primaries.map fun part => Catalog.ofStore part.binding.store,
      primaries.map fun part =>
        CubeSchema.ofStore part.binding.store part.outcome.selection (cube part.binding.store)⟩
    sources := parts.map (·.binding)
    warnings := warnings ++ parts.flatMap (·.outcome.warnings) }

end Generation

open Generation

/-- The model of a configuration, with some customizations, on a machine with some processors. Every
primary source writes its cube into one registry; then the reference stores are laid out, which have
no cube; then the cubes are customized; and at last the registry is frozen and everything is put
together in the order of the configuration. -/
def Configuration.generateWith (customizations : List CurrencyCustomization) (survey : Survey)
    (processors : UInt64) (configuration : Configuration) : Except GenerationError Model := do
  let (charset, warning) := Charset.resolve configuration.general.charset
  let shared : Shared := ⟨charset, configuration.general.effectiveParallelism processors⟩
  let (results, registry) := workAll survey shared configuration.sources.entries .empty
  let primaries ← await results
  let names := primaries.map (·.binding.store)
  let stores ← configuration.references.entries.foldlM (layOutGroup survey shared) ⟨names, []⟩
  let registry := names.foldl (customize customizations) registry
  let (cubes, _) := registry.freeze fun _ => false
  return assemble warning.toList primaries stores.references cubes

def Configuration.customizations (configuration : Configuration) : List CurrencyCustomization :=
  configuration.customizedStore?.toList.map CurrencyCustomization.mk

def Configuration.generate (survey : Survey) (processors : UInt64)
    (configuration : Configuration) : Except GenerationError Model :=
  configuration.generateWith configuration.customizations survey processors

end OlapSynthesis
