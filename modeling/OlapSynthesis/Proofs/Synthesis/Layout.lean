import OlapSynthesis.Synthesis

namespace OlapSynthesis

/-- All the fields that a column stands for, the synthetic ones first. -/
def Column.allFields (column : Column) : List Field :=
  column.partFields ++ [Field.ofColumn column]

theorem Column.fields_of_named {column : Column} (named : Text.isBlank column.name = false) :
    column.fields = .ok column.allFields := by
  simp only [Column.fields, Column.checkName, named]
  rfl

theorem Field.ofColumns_of_named {columns : List Column}
    (named : ∀ column ∈ columns, Text.isBlank column.name = false) :
    Field.ofColumns columns = .ok (columns.flatMap Column.allFields) := by
  have hmapM : columns.mapM Column.fields = .ok (columns.map Column.allFields) := by
    induction columns with
    | nil => rfl
    | cons column columns ih =>
      rw [List.mapM_cons, Column.fields_of_named (named column List.mem_cons_self),
        ih fun c hc => named c (List.mem_cons_of_mem _ hc)]
      rfl
  rw [Field.ofColumns, hmapM, List.flatMap_def]
  rfl

namespace StoreSpec

/-- What a store is described by: the fields of its columns and the partitioning that is chosen. -/
def outcome (spec : StoreSpec) (parallelism : UInt64) : StoreOutcome :=
  let choice := spec.choosePartitioning parallelism
  ⟨⟨spec.name, spec.columns.flatMap Column.allFields, choice.partitioning⟩,
    Selection.ofColumns spec.columns, choice.warning.toList⟩

theorem layout_eq (spec : StoreSpec) (partitioning : Option Partitioning) :
    spec.layout partitioning =
      .ok ⟨spec.name, spec.columns.flatMap Column.allFields, partitioning⟩ := by
  rw [layout, Field.ofColumns_of_named spec.named]
  rfl

theorem describe_eq (spec : StoreSpec) (parallelism : UInt64) :
    spec.describe parallelism = .ok (spec.outcome parallelism) := by
  rw [describe, layout_eq]
  rfl

theorem synthesize_eq (spec : StoreSpec) (parallelism : UInt64) (registry : Registry) :
    spec.synthesize parallelism registry =
      .ok (spec.outcome parallelism, spec.register registry) := by
  rw [synthesize, describe_eq]
  rfl

end StoreSpec

end OlapSynthesis
