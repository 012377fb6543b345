import OlapSynthesis.Cube

namespace OlapSynthesis

def aggregatedValue (measure : String) : String :=
  "aggregatedValue[" ++ measure ++ "]"

def distinctCountFolder : String :=
  "Distinct Count"

namespace Measure

/-- The measures that every cube starts with: how many records there are, and, hidden, when they
last changed. -/
def natives : List Measure :=
  [.native ⟨.count, some "Count", some integerFormat, true⟩,
    .native ⟨.lastUpdate, none, none, false⟩]

def ofAggregation (column : Column) (aggregation : Aggregation) (visible : Bool) : Measure :=
  .aggregated { AggregatedMeasure.ofField column.name aggregation with
    folder := some column.name
    formatter := some column.type.numberFormat
    visible }

def ofFormula (column : Column) (suffix expression : String) : Measure :=
  .derived { DerivedMeasure.ofFormula (column.name ++ suffix) expression with
    folder := some column.name
    formatter := some decimalFormat }

def countOperand : String :=
  aggregatedValue NativeKind.count.id

def meanExpression (column : String) : String :=
  aggregatedValue (Aggregation.sum.measureName column) ++ ", " ++ countOperand ++ ", /"

def deviationExpression (column : String) : String :=
  let mean := aggregatedValue (column ++ ".avg")
  "(" ++ aggregatedValue (Aggregation.squareSum.measureName column) ++ ", " ++ countOperand ++
    ", /), (" ++ mean ++ ", " ++ mean ++ ", *), -, SQRT"

/-- The aggregates of a number. Only a decimal has a standard deviation, and with it the hidden
sum of squares that it is computed from. -/
def ofNumber (column : Column) : List Measure :=
  if !column.isMeasureCandidate then []
  else
    [ofAggregation column .sum true, ofAggregation column .min true,
      ofAggregation column .max true, ofFormula column ".avg" (meanExpression column.name)] ++
    if column.type.isDecimal then
      [ofAggregation column .squareSum false,
        ofFormula column ".STD" (deviationExpression column.name)]
    else []

def distinctCount? (column : Column) : Option Measure :=
  if !column.isDimensionCandidate then none
  else
    some (.derived {
      DerivedMeasure.ofCalculation (column.name ++ ".COUNT")
        (.leafCount [column.name ++ "@" ++ column.name]) with
      folder := some distinctCountFolder })

def ofColumns (columns : List Column) : List Measure :=
  natives ++ columns.flatMap ofNumber ++ columns.filterMap distinctCount?

end Measure

end OlapSynthesis
