import OlapSynthesis.Codec.Model
import OlapSynthesis.Settings
import OlapSynthesis.Synthesis

namespace OlapSynthesis

structure Inspection where
  store : String
  columns : List (String × String)
  policy : StorePolicy
  /-- How many tasks the engine runs at once, if that is not left to the machine. -/
  parallelism : Option UInt64
deriving DecidableEq, Repr

structure InspectionReport where
  outcome : StoreOutcome
  cube : Cube
deriving DecidableEq

inductive InspectionError
  | column (name tag : String) (cause : ColumnError)
  | store (cause : StoreError)
  | synthesis (store : String) (cause : ColumnError)
  /-- No cube was synthesized for the store. -/
  | noCube (store : String)
deriving DecidableEq, Repr

namespace Inspection

/-- The name and the tag of a column that is written with a colon between them. Both are trimmed
and neither is blank; the tag may hold more colons. -/
def column? (text : String) : Option (String × String) := do
  let (name, tag) ← Text.cut? ':' text
  if Text.isBlank name || Text.isBlank tag then none
  else some (Text.trim name, Text.trim tag)

def addColumn (builder : StoreSpec.Builder) (column : String × String) :
    Except InspectionError StoreSpec.Builder :=
  (builder.addTagged column.1 column.2).mapError (.column column.1 column.2)

def blankSpec (inspection : Inspection) : StoreSpec.Builder :=
  let builder := ((StoreSpec.builder inspection.store).withCacheSize
    inspection.policy.cacheSize).withAggregateMode inspection.policy.aggregateMode
  match inspection.policy.partitionField with
  | some field => builder.withPartitionField field
  | none => builder

def spec (inspection : Inspection) : Except InspectionError StoreSpec := do
  let builder ← inspection.columns.foldlM addColumn inspection.blankSpec
  builder.build.mapError .store

def effectiveParallelism (inspection : Inspection) (processors : UInt64) : UInt64 :=
  { GeneralSettings.default with
    parallelism := inspection.parallelism }.effectiveParallelism processors

def report (inspection : Inspection) (processors : UInt64) :
    Except InspectionError InspectionReport := do
  let spec ← inspection.spec
  let (outcome, registry) ←
    (spec.synthesize (inspection.effectiveParallelism processors) .empty).mapError
      (.synthesis spec.name)
  match registry.cube? spec.name with
  | some cube => return ⟨outcome, cube⟩
  | none => .error (.noCube spec.name)

end Inspection

def InspectionReport.encode (report : InspectionReport) : Json :=
  .object ([
    ("store", report.outcome.layout.encode),
    ("selection", .texts report.outcome.selection),
    ("cube", report.cube.encode)] ++
    Codec.whenFilled "warnings" Warning.encode report.outcome.warnings)

end OlapSynthesis
