import OlapSynthesis.Registry
import OlapSynthesis.Synthesis.Dimensions
import OlapSynthesis.Synthesis.Layout
import OlapSynthesis.Synthesis.Measures
import OlapSynthesis.Synthesis.Partitioning

namespace OlapSynthesis

structure StoreOutcome where
  layout : StoreLayout
  /-- The fields that the cube of the store sees. -/
  selection : List String
  warnings : List Warning
deriving DecidableEq

namespace StoreSpec

def describe (spec : StoreSpec) (parallelism : UInt64) : Except ColumnError StoreOutcome := do
  let choice := spec.choosePartitioning parallelism
  let layout ← spec.layout choice.partitioning
  return ⟨layout, Selection.ofColumns spec.columns, choice.warning.toList⟩

/-- Writes the cube of a store into the registry. What the cube already has stays, and so does
its cache unless the spec has a size for it. -/
def register (spec : StoreSpec) (registry : Registry) : Registry :=
  let (handle, registry) := registry.getOrCreate spec.name
  let registry := registry.setAggregateMode spec.name spec.aggregateMode
  let registry := registry.update handle (·.addDimensions (Dimension.ofColumns spec.columns))
  let registry := registry.update handle (·.addMeasures (Measure.ofColumns spec.columns))
  registry.setCacheSize spec.name spec.cacheSize

def synthesize (spec : StoreSpec) (parallelism : UInt64) (registry : Registry) :
    Except ColumnError (StoreOutcome × Registry) := do
  let outcome ← spec.describe parallelism
  return (outcome, spec.register registry)

end StoreSpec

end OlapSynthesis
