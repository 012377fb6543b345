import OlapSynthesis.Cube

namespace OlapSynthesis

namespace Hierarchy

/-- The values of a column, one member each. -/
def ofColumn (name : String) : Hierarchy :=
  ofLevels name [Level.named name]

/-- The days of a date column, one member each. -/
def ofDays (name : String) : Hierarchy :=
  (ofLevels name [{ Level.named name with formatter := some dateFormat, type := .time }]).asDefault

/-- The years of a date column, the months in a year and the days in a month. -/
def ofDateParts (name : String) : Hierarchy :=
  ofLevels (name ++ "_YMD")
    (DatePart.all.map fun part => Level.bound part.levelName (part.fieldName name))

end Hierarchy

namespace Dimension

def ofColumn? (column : Column) : Option Dimension :=
  if !column.isDimensionCandidate then none
  else if column.type.isDate then
    some ⟨column.name, .time,
      [Hierarchy.ofDays column.name, Hierarchy.ofDateParts column.name], ∅⟩
  else some ⟨column.name, .standard, [Hierarchy.ofColumn column.name], ∅⟩

def ofColumns (columns : List Column) : List Dimension :=
  columns.filterMap ofColumn?

end Dimension

end OlapSynthesis
