import OlapSynthesis.Proofs.Formula.Engine
import OlapSynthesis.Proofs.Formula.Resolution
import Mathlib.Algebra.Order.BigOperators.Group.List
import Mathlib.Tactic.FieldSimp
import Mathlib.Tactic.Ring

namespace OlapSynthesis

def mean (values : List ℚ) : ℚ :=
  values.sum / values.length

/-- The variance of a whole population: the mean of the squared deviations from the mean. -/
def variance (values : List ℚ) : ℚ :=
  mean (values.map fun value => (value - mean values) ^ 2)

theorem sum_squared_deviations (values : List ℚ) (center : ℚ) :
    (values.map fun value => (value - center) ^ 2).sum =
      (values.map (· ^ 2)).sum - 2 * center * values.sum + values.length * center ^ 2 := by
  induction values with
  | nil => simp
  | cons value values ih =>
    simp only [List.map_cons, List.sum_cons, List.length_cons, Nat.cast_add, Nat.cast_one, ih]
    ring

theorem variance_eq {values : List ℚ} (h : values ≠ []) :
    variance values =
      (values.map (· ^ 2)).sum / values.length - mean values * mean values := by
  have hlength : (values.length : ℚ) ≠ 0 := by
    simpa using h
  rw [variance, mean, List.length_map, sum_squared_deviations, mean]
  field_simp
  ring

theorem variance_nonneg (values : List ℚ) : 0 ≤ variance values := by
  have hsum : 0 ≤ (values.map fun value => (value - mean values) ^ 2).sum := by
    apply List.sum_nonneg
    intro deviation hdeviation
    obtain ⟨value, -, rfl⟩ := List.mem_map.mp hdeviation
    exact sq_nonneg (value - mean values)
  exact div_nonneg hsum (Nat.cast_nonneg _)

namespace Formula

variable {resolve : String → Option Quantity} {column : String}

theorem notMem_measureName (hcolumn : ']' ∉ column.toList) (aggregation : Aggregation)
    (hkey : ']' ∉ aggregation.key.toList) : ']' ∉ (aggregation.measureName column).toList := by
  simpa [Aggregation.measureName, String.toList_append, hcolumn] using hkey

theorem read_countOperand (rest : List Char) :
    read .gap (Measure.countOperand.toList ++ rest) =
      (read .gap rest).map (.operand NativeKind.count.id :: ·) :=
  read_aggregatedValue (by decide) rest

theorem read_comma (rest : List Char) : read .gap (", ".toList ++ rest) = read .gap rest := rfl

theorem read_meanExpression (hcolumn : ']' ∉ column.toList) :
    read .gap (Measure.meanExpression column).toList =
      some [.operand (Aggregation.sum.measureName column), .operand NativeKind.count.id,
        .quotient] := by
  have hsum := notMem_measureName hcolumn .sum (by decide)
  have hend : read .gap ", /".toList = some [.quotient] := rfl
  rw [Measure.meanExpression]
  simp only [String.toList_append, List.append_assoc]
  rw [read_aggregatedValue hsum, read_comma, read_countOperand, hend]
  rfl

theorem read_deviationExpression (hcolumn : ']' ∉ column.toList) :
    read .gap (Measure.deviationExpression column).toList =
      some [.operand (Aggregation.squareSum.measureName column), .operand NativeKind.count.id,
        .quotient, .operand (column ++ ".avg"), .operand (column ++ ".avg"), .product,
        .difference, .root] := by
  have hsquares := notMem_measureName hcolumn .squareSum (by decide)
  have hmean : ']' ∉ (column ++ ".avg").toList := by
    simpa [String.toList_append] using hcolumn
  have hopen (rest : List Char) : read .gap ("(".toList ++ rest) = read .gap rest := rfl
  have hgroup (rest : List Char) :
      read .gap (", /), (".toList ++ rest) = (read .gap rest).map (.quotient :: ·) := rfl
  have hend : read .gap ", *), -, SQRT".toList = some [.product, .difference, .root] := rfl
  rw [Measure.deviationExpression]
  simp only [String.toList_append, List.append_assoc]
  rw [hopen, read_aggregatedValue hsquares, read_comma, read_countOperand, hgroup,
    read_aggregatedValue hmean, read_comma, read_aggregatedValue hmean, hend]
  rfl

/-- A ratio of two operands is left on whatever the stack holds. -/
theorem run_ratio {dividend divisor : String} {a b : ℚ}
    (hdividend : resolve dividend = some (.number a))
    (hdivisor : resolve divisor = some (.number b)) (hne : b ≠ 0) (stack : List Quantity) :
    run resolve [.operand dividend, .operand divisor, .quotient] stack =
      some (.number (a / b) :: stack) := by
  simp [Token.apply, hdividend, hdivisor, hne]

theorem run_square {factor : String} {a : ℚ} (hfactor : resolve factor = some (.number a))
    (stack : List Quantity) :
    run resolve [.operand factor, .operand factor, .product] stack =
      some (.number (a * a) :: stack) := by
  simp [Token.apply, hfactor]

theorem evaluate_meanExpression (hcolumn : ']' ∉ column.toList) {sum count : ℚ}
    (hsum : resolve (Aggregation.sum.measureName column) = some (.number sum))
    (hcount : resolve NativeKind.count.id = some (.number count)) (hne : count ≠ 0) :
    evaluate resolve (Measure.meanExpression column) = some (.number (sum / count)) :=
  evaluate_of_run (read_meanExpression hcolumn) (run_ratio hsum hcount hne [])

theorem evaluate_deviationExpression (hcolumn : ']' ∉ column.toList) {squares count average : ℚ}
    (hsquares : resolve (Aggregation.squareSum.measureName column) = some (.number squares))
    (hcount : resolve NativeKind.count.id = some (.number count)) (hne : count ≠ 0)
    (haverage : resolve (column ++ ".avg") = some (.number average)) :
    evaluate resolve (Measure.deviationExpression column) =
      some (.root (squares / count - average * average)) := by
  apply evaluate_of_run (read_deviationExpression hcolumn)
  -- each group leaves one number, so that the difference finds the two of them
  calc run resolve ([.operand (Aggregation.squareSum.measureName column),
        .operand NativeKind.count.id, .quotient] ++ ([.operand (column ++ ".avg"),
        .operand (column ++ ".avg"), .product] ++ [.difference, .root])) []
      = run resolve [.difference, .root]
          [.number (average * average), .number (squares / count)] := by
        rw [run_append, run_ratio hsquares hcount hne, Option.bind_some, run_append,
          run_square haverage, Option.bind_some]
    _ = some [.root (squares / count - average * average)] := rfl

end Formula

namespace Cube

variable {cube : Cube} {columns : List Column} {column : Column} {leaves : List (String → ℚ)}

theorem value?_of_formula? {name text : String} (h : cube.formula? name = some text)
    (depth : ℕ) : cube.value? leaves (depth + 1) name =
      Formula.evaluate (cube.value? leaves depth) text := by
  obtain ⟨measure, hmeasure, htext⟩ := Option.bind_eq_some_iff.mp h
  obtain ⟨derived, hderived, hexpression⟩ := Option.bind_eq_some_iff.mp htext
  cases measure with
  | derived measure =>
    obtain rfl := Option.some.inj hderived
    rw [value?, hmeasure]
    simp only [hexpression, Option.bind_some]
  | aggregated => cases hderived
  | native => cases hderived

theorem value?_of_aggregated {name : String} {measure : AggregatedMeasure}
    (h : cube.measure? name = some (.aggregated measure)) (depth : ℕ) :
    cube.value? leaves depth name = measure.value? leaves := by
  cases depth <;> rw [value?, h]

theorem value?_of_native {name : String} {measure : NativeMeasure}
    (h : cube.measure? name = some (.native measure)) (depth : ℕ) :
    cube.value? leaves depth name = measure.value? leaves := by
  cases depth <;> rw [value?, h]

section

variable (hmeasures : cube.measures = Measure.ofColumns columns)
  (hcolumns : (columns.map (·.name)).Nodup) (hcolumn : column ∈ columns)
  (hcandidate : column.isMeasureCandidate = true)

include hmeasures hcolumns

theorem value?_count (depth : ℕ) :
    cube.value? leaves depth NativeKind.count.id = some (.number leaves.length) := by
  have hnative : cube.measure? NativeKind.count.id = Measure.natives.head? :=
    measure?_of_mem hmeasures hcolumns (List.mem_append_left _ List.mem_cons_self)
  exact value?_of_native hnative depth

include hcolumn

theorem measure?_of_mem_ofNumber {measure : Measure} (h : measure ∈ Measure.ofNumber column) :
    cube.measure? measure.name = some measure :=
  measure?_of_mem hmeasures hcolumns
    (List.mem_append_right _ (List.mem_flatMap.mpr ⟨column, hcolumn, h⟩))

include hcandidate

theorem value?_sum (depth : ℕ) :
    cube.value? leaves depth (Aggregation.sum.measureName column.name) =
      some (.number (leafValues leaves column.name).sum) := by
  have hmem : Measure.ofAggregation column .sum true ∈ Measure.ofNumber column := by
    simp [Measure.ofNumber, hcandidate]
  exact value?_of_aggregated (measure?_of_mem_ofNumber hmeasures hcolumns hcolumn hmem) depth

theorem formula?_mean :
    cube.formula? (column.name ++ ".avg") = some (Measure.meanExpression column.name) := by
  have hmem : Measure.ofFormula column ".avg" (Measure.meanExpression column.name) ∈
      Measure.ofNumber column := by
    simp [Measure.ofNumber, hcandidate]
  exact Option.bind_eq_some_iff.mpr
    ⟨_, measure?_of_mem_ofNumber hmeasures hcolumns hcolumn hmem, rfl⟩

theorem value?_squareSum (hdecimal : column.type.isDecimal = true) (depth : ℕ) :
    cube.value? leaves depth (Aggregation.squareSum.measureName column.name) =
      some (.number ((leafValues leaves column.name).map (· ^ 2)).sum) := by
  have hmem : Measure.ofAggregation column .squareSum false ∈ Measure.ofNumber column := by
    simp [Measure.ofNumber, hcandidate, hdecimal]
  exact value?_of_aggregated (measure?_of_mem_ofNumber hmeasures hcolumns hcolumn hmem) depth

theorem formula?_deviation (hdecimal : column.type.isDecimal = true) :
    cube.formula? (column.name ++ ".STD") = some (Measure.deviationExpression column.name) := by
  have hmem : Measure.ofFormula column ".STD" (Measure.deviationExpression column.name) ∈
      Measure.ofNumber column := by
    simp [Measure.ofNumber, hcandidate, hdecimal]
  exact Option.bind_eq_some_iff.mpr
    ⟨_, measure?_of_mem_ofNumber hmeasures hcolumns hcolumn hmem, rfl⟩

variable (hname : ']' ∉ column.name.toList) (hleaves : leaves ≠ [])

include hname hleaves

theorem evaluate_mean (depth : ℕ) :
    Formula.evaluate (cube.value? leaves depth) (Measure.meanExpression column.name) =
      some (.number (mean (leafValues leaves column.name))) := by
  have hcount : (leaves.length : ℚ) ≠ 0 := by
    simpa using hleaves
  rw [Formula.evaluate_meanExpression hname
    (value?_sum hmeasures hcolumns hcolumn hcandidate depth)
    (value?_count hmeasures hcolumns depth) hcount, mean, leafValues, List.length_map]

theorem evaluate_deviation (hdecimal : column.type.isDecimal = true) (depth : ℕ) :
    Formula.evaluate (cube.value? leaves (depth + 1)) (Measure.deviationExpression column.name) =
      some (.root (variance (leafValues leaves column.name))) := by
  have hcount : (leaves.length : ℚ) ≠ 0 := by
    simpa using hleaves
  have hvalues : leafValues leaves column.name ≠ [] := by
    simpa [leafValues] using hleaves
  have haverage := (value?_of_formula? (formula?_mean hmeasures hcolumns hcolumn hcandidate)
    depth).trans (evaluate_mean hmeasures hcolumns hcolumn hcandidate hname hleaves depth)
  rw [Formula.evaluate_deviationExpression hname
    (value?_squareSum hmeasures hcolumns hcolumn hcandidate hdecimal (depth + 1))
    (value?_count hmeasures hcolumns (depth + 1)) hcount haverage, variance_eq hvalues]
  simp only [leafValues, List.length_map]

end

/-- In a cube over columns with different names, the formulas of a number give the mean of its
values in the leaves, and, for a decimal, the root of their variance. -/
theorem formulas_give_mean_and_deviation (hmeasures : cube.measures = Measure.ofColumns columns)
    (hcolumns : (columns.map (·.name)).Nodup)
    (hnames : ∀ column ∈ columns, ']' ∉ column.name.toList) (hcolumn : column ∈ columns)
    (hcandidate : column.isMeasureCandidate = true) (hleaves : leaves ≠ []) (depth : ℕ) :
    (∃ text, cube.formula? (column.name ++ ".avg") = some text ∧
      Formula.evaluate (cube.value? leaves depth) text =
        some (.number (mean (leafValues leaves column.name)))) ∧
    (column.type.isDecimal = true →
      (∃ text, cube.formula? (column.name ++ ".STD") = some text ∧
        Formula.evaluate (cube.value? leaves (depth + 1)) text =
          some (.root (variance (leafValues leaves column.name)))) ∧
      0 ≤ variance (leafValues leaves column.name)) := by
  have hname := hnames column hcolumn
  constructor
  · exact ⟨_, formula?_mean hmeasures hcolumns hcolumn hcandidate,
      evaluate_mean hmeasures hcolumns hcolumn hcandidate hname hleaves depth⟩
  · intro hdecimal
    refine ⟨⟨_, formula?_deviation hmeasures hcolumns hcolumn hcandidate hdecimal, ?_⟩,
      variance_nonneg _⟩
    exact evaluate_deviation hmeasures hcolumns hcolumn hcandidate hname hleaves hdecimal depth

/-- The number of records is meant by its native measure also beside a column whose distinct count
has the same name. -/
theorem formulas_give_mean_and_deviation_beside_contributors :
    let columns : List Column := [⟨"contributors", .int⟩, ⟨"price", .double⟩]
    let column : Column := ⟨"price", .double⟩
    let cube := (Cube.ofStore "trades").addMeasures (Measure.ofColumns columns)
    let leaves : List (String → ℚ) := [fun _ => 1, fun _ => 3]
    cube.measures = Measure.ofColumns columns ∧ (columns.map (·.name)).Nodup ∧
      (∀ column ∈ columns, ']' ∉ column.name.toList) ∧ column ∈ columns ∧
      column.isMeasureCandidate = true ∧ column.type.isDecimal = true ∧ leaves ≠ [] ∧
      (∃ text, cube.formula? "price.avg" = some text ∧
        Formula.evaluate (cube.value? leaves 1) text = some (.number 2)) ∧
      ∃ text, cube.formula? "price.STD" = some text ∧
        Formula.evaluate (cube.value? leaves 2) text = some (.root 1) := by
  intro columns column cube leaves
  have hmeasures : cube.measures = Measure.ofColumns columns := rfl
  have hcolumns : (columns.map (·.name)).Nodup := by decide
  have hnames : ∀ column ∈ columns, ']' ∉ column.name.toList := by decide
  have hcolumn : column ∈ columns := by decide
  have hcandidate : column.isMeasureCandidate = true := by decide
  have hleaves : leaves ≠ [] := List.cons_ne_nil _ _
  have hmean : mean (leafValues leaves column.name) = 2 := by
    norm_num [mean, leafValues, leaves]
  have hvariance : variance (leafValues leaves column.name) = 1 := by
    rw [variance, hmean]
    norm_num [mean, leafValues, leaves]
  have hformulas :=
    formulas_give_mean_and_deviation hmeasures hcolumns hnames hcolumn hcandidate hleaves 1
  rw [hmean, hvariance] at hformulas
  exact ⟨hmeasures, hcolumns, hnames, hcolumn, hcandidate, rfl, hleaves, hformulas.1,
    (hformulas.2 rfl).1⟩

end Cube

end OlapSynthesis
