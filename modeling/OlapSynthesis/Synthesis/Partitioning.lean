import OlapSynthesis.Model

namespace OlapSynthesis

structure PartitionChoice where
  partitioning : Option Partitioning
  warning : Option Warning
deriving DecidableEq, Repr

/-- Half the parallelism, as far as a count goes. -/
def Partitioning.countFor (parallelism : UInt64) : UInt32 :=
  UInt32.ofNat (min (parallelism.toNat / 2) (UInt32.size - 1))

namespace StoreSpec

def defaultPartitioning (spec : StoreSpec) (count : UInt32) : Option Partitioning :=
  (spec.columns.find? (·.type.isPartitionCandidate)).map fun column => ⟨column.name, count⟩

/-- The partitioning of a store that runs with some parallelism. A store that would have one
partition has none, whatever was asked for. -/
def choosePartitioning (spec : StoreSpec) (parallelism : UInt64) : PartitionChoice :=
  let count := Partitioning.countFor parallelism
  if count ≤ 1 then ⟨none, none⟩
  else
    match spec.partitionOverride with
    | none => ⟨spec.defaultPartitioning count, none⟩
    | some field =>
      match spec.findColumn? field with
      | some column => ⟨some ⟨column.name, count⟩, none⟩
      | none => ⟨spec.defaultPartitioning count, some (.unknownPartitionField spec.name field)⟩

end StoreSpec

end OlapSynthesis
