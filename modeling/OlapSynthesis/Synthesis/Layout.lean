import OlapSynthesis.Model

namespace OlapSynthesis

namespace Column

def partFields (column : Column) : List Field :=
  if column.type.isDate then DatePart.all.map (Field.ofDatePart column.name) else []

def fields (column : Column) : Except ColumnError (List Field) := do
  column.checkName
  return column.partFields ++ [Field.ofColumn column]

/-- The names under which a cube sees a column. -/
def selected (column : Column) : List String :=
  column.name ::
    (if column.type.isDate then DatePart.all.map (·.fieldName column.name) else [])

end Column

/-- The fields of a store with some columns; the first column without a name is the error. -/
def Field.ofColumns (columns : List Column) : Except ColumnError (List Field) :=
  (columns.mapM Column.fields).map List.flatten

def Selection.ofColumns (columns : List Column) : List String :=
  columns.flatMap Column.selected

def StoreSpec.layout (spec : StoreSpec) (partitioning : Option Partitioning) :
    Except ColumnError StoreLayout := do
  return ⟨spec.name, ← Field.ofColumns spec.columns, partitioning⟩

end OlapSynthesis
