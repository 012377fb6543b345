import OlapSynthesis.Proofs.Synthesis.Closure
import OlapSynthesis.Proofs.Synthesis.MeasureNames
import OlapSynthesis.Proofs.Text

namespace OlapSynthesis

namespace Column

variable {column : Column}

/-- The name ends in `id`, whatever the case. -/
def EndsInId (column : Column) : Prop :=
  ∃ front ending, column.name = front ++ ending ∧ Text.sameIgnoringCase ending "id" = true

theorem isIdentifier_iff : column.isIdentifier = true ↔ column.EndsInId :=
  Text.endsIgnoringCase_iff

instance : DecidablePred EndsInId := fun _ => decidable_of_iff _ isIdentifier_iff

def IsWhole (column : Column) : Prop :=
  column.type ∈ [.int, .long] ∧ ¬ column.EndsInId
deriving Decidable

def IsDecimal (column : Column) : Prop :=
  column.type ∈ [.float, .double] ∧ ¬ column.EndsInId
deriving Decidable

def IsAxis (column : Column) : Prop :=
  column.type = .string ∨ column.type.isDate = true ∨ column.type = .int ∧ ¬ column.EndsInId
deriving Decidable

def IsKey (column : Column) : Prop :=
  column.type ∈ [.int, .long, .float, .double] ∧ column.EndsInId

theorem isDimensionCandidate_iff : column.isDimensionCandidate = true ↔ column.IsAxis := by
  obtain ⟨name, type⟩ := column
  unfold isDimensionCandidate isNumericIdentifier IsAxis
  rw [← isIdentifier_iff]
  cases type <;> simp [ColumnType.isPureNumeric, ColumnType.isNumeric, ColumnType.isDate]

theorem isKey_iff :
    column.IsKey ↔ column.isDimensionCandidate = false ∧ column.isMeasureCandidate = false := by
  obtain ⟨name, type⟩ := column
  unfold isDimensionCandidate isNumericIdentifier isMeasureCandidate IsKey
  rw [← isIdentifier_iff]
  cases type <;> simp [ColumnType.isPureNumeric, ColumnType.isNumeric]

end Column

section

-- a pass over the columns that keeps what may be a dimension
variable {β : Type v} {f : Column → Option β}
  (h : ∀ column, (f column).isSome = column.isDimensionCandidate)

include h

theorem eq_none_iff_of_candidates {column : Column} :
    f column = none ↔ column.isDimensionCandidate = false := by
  rw [← h, Option.isSome_eq_false_iff, Option.isNone_iff_eq_none]

theorem forall₂_axes (columns : List Column) :
    List.Forall₂ (fun column item => f column = some item) (columns.filter (·.IsAxis))
      (columns.filterMap f) := by
  induction columns with
  | nil => exact .nil
  | cons column columns ih =>
    have haxis : decide column.IsAxis = (f column).isSome := by
      rw [h, Bool.eq_iff_iff, decide_eq_true_iff, Column.isDimensionCandidate_iff]
    rw [List.filter_cons, List.filterMap_cons, haxis]
    cases hf : f column with
    | none => exact ih
    | some item => exact .cons hf ih

theorem length_axes (columns : List Column) :
    (columns.filterMap f).length = columns.countP (·.IsAxis) := by
  rw [List.countP_eq_length_filter, (forall₂_axes h columns).length_eq]

end

namespace Dimension

theorem isSome_ofColumn? (column : Column) :
    (ofColumn? column).isSome = column.isDimensionCandidate := by
  rw [ofColumn?]
  cases column.isDimensionCandidate with
  | false => rfl
  | true => cases column.type.isDate <;> rfl

theorem name_of_ofColumn? {column : Column} {dimension : Dimension}
    (h : ofColumn? column = some dimension) : dimension.name = column.name := by
  obtain ⟨-, hdimension⟩ := Option.ite_none_left_eq_some.mp h
  split at hdimension
  · cases hdimension
    rfl
  · cases hdimension
    rfl

end Dimension

namespace Measure

variable {column : Column} {measure : Measure}

theorem isSome_distinctCount? (column : Column) :
    (distinctCount? column).isSome = column.isDimensionCandidate := by
  rw [distinctCount?]
  cases column.isDimensionCandidate <;> rfl

theorem length_ofNumber (column : Column) :
    (ofNumber column).length =
      (if column.IsWhole then 4 else 0) + if column.IsDecimal then 6 else 0 := by
  obtain ⟨name, type⟩ := column
  simp only [Column.IsWhole, Column.IsDecimal, ← Column.isIdentifier_iff, ofNumber,
    Column.isMeasureCandidate]
  cases Column.isIdentifier ⟨name, type⟩ <;> cases type <;>
    simp [ColumnType.isNumeric, ColumnType.isDecimal]

theorem length_ofNumbers (columns : List Column) :
    (columns.flatMap ofNumber).length =
      4 * columns.countP (·.IsWhole) + 6 * columns.countP (·.IsDecimal) := by
  induction columns with
  | nil => rfl
  | cons column columns ih =>
    rw [List.flatMap_cons, List.length_append, ih, length_ofNumber, List.countP_cons,
      List.countP_cons]
    simp only [decide_eq_true_eq]
    split <;> split <;> omega

theorem ofNumber_eq_nil_iff : ofNumber column = [] ↔ column.isMeasureCandidate = false := by
  rw [ofNumber]
  cases column.isMeasureCandidate <;> simp

def leafLevels? : Measure → Option (List String)
  | .derived ⟨_, .leafCount levels, _, _, _⟩ => some levels
  | _ => none

theorem leafLevels?_of_distinctCount? (h : distinctCount? column = some measure) :
    measure.leafLevels? = some [column.name ++ "@" ++ column.name] := by
  obtain ⟨-, hderived⟩ := Option.ite_none_left_eq_some.mp h
  obtain rfl := Option.some.inj hderived
  rfl

theorem leafLevels?_of_mem_ofNumber (h : measure ∈ ofNumber column) :
    measure.leafLevels? = none := by
  obtain ⟨-, ⟨aggregation, visible, rfl⟩ | ⟨suffix, expression, rfl⟩⟩ := of_mem_ofNumber h
  · rfl
  · rfl

/-- The measures that count leaves are the distinct counts. -/
theorem filter_leafLevels? (columns : List Column) :
    (ofColumns columns).filter (·.leafLevels?.isSome) = columns.filterMap distinctCount? := by
  have hnumbers : (columns.flatMap ofNumber).filter (·.leafLevels?.isSome) = [] := by
    rw [List.filter_eq_nil_iff]
    intro measure hmeasure
    obtain ⟨column, -, hcolumn⟩ := List.mem_flatMap.mp hmeasure
    rw [leafLevels?_of_mem_ofNumber hcolumn]
    exact Bool.false_ne_true
  have hcounts : (columns.filterMap distinctCount?).filter (·.leafLevels?.isSome) =
      columns.filterMap distinctCount? := by
    rw [List.filter_eq_self]
    intro measure hmeasure
    obtain ⟨column, -, hcolumn⟩ := List.mem_filterMap.mp hmeasure
    rw [leafLevels?_of_distinctCount? hcolumn]
    rfl
  rw [ofColumns, List.filter_append, List.filter_append, hnumbers, hcounts]
  rfl

end Measure

/-- The levels of a name, if that is also the name of the hierarchy. -/
def Hierarchy.levelsAt (hierarchy : Hierarchy) (name : String) : List Level :=
  hierarchy.levels.filter fun level => hierarchy.name = name ∧ level.name = name

theorem Hierarchy.levelsAt_of_single {hierarchy : Hierarchy} {level : Level}
    (hlevels : hierarchy.levels = [level]) (hname : level.name = hierarchy.name) (name : String) :
    hierarchy.levelsAt name = if hierarchy.name = name then [level] else [] := by
  rw [levelsAt, hlevels, List.filter_singleton, hname]
  by_cases h : hierarchy.name = name <;> simp [h]

/-- No part of a date has the name of the hierarchy of the parts. -/
theorem Hierarchy.levelsAt_ofDateParts (column name : String) :
    (ofDateParts column).levelsAt name = [] := by
  apply List.filter_eq_nil_iff.mpr
  intro level hlevel hnamed
  obtain ⟨hhierarchyName, hlevelName⟩ := of_decide_eq_true hnamed
  obtain ⟨part, -, rfl⟩ := List.mem_map.mp hlevel
  exact part.levelName_ne column (hlevelName.trans hhierarchyName.symm)

namespace Dimension

def levelsAt (dimension : Dimension) (name : String) : List (Hierarchy × Level) :=
  dimension.hierarchies.flatMap fun hierarchy => (hierarchy.levelsAt name).map (hierarchy, ·)

variable {column : Column} {dimension : Dimension}

theorem levelsAt_of_ofColumn? (h : ofColumn? column = some dimension) :
    ∃ hierarchy level, level.field = column.name ∧ ∀ name, dimension.levelsAt name =
      if column.name = name then [(hierarchy, level)] else [] := by
  obtain ⟨-, hdimension⟩ := Option.ite_none_left_eq_some.mp h
  cases hdate : column.type.isDate with
  | false =>
    rw [hdate] at hdimension
    cases hdimension
    refine ⟨Hierarchy.ofColumn column.name, Level.named column.name, rfl, ?_⟩
    intro name
    rw [levelsAt, List.flatMap_singleton, Hierarchy.levelsAt_of_single rfl rfl]
    exact apply_ite _ _ _ _
  | true =>
    rw [hdate] at hdimension
    cases hdimension
    refine ⟨Hierarchy.ofDays column.name,
      { Level.named column.name with formatter := some dateFormat, type := .time }, rfl, ?_⟩
    intro name
    rw [levelsAt, List.flatMap_cons, List.flatMap_singleton, Hierarchy.levelsAt_ofDateParts,
      Hierarchy.levelsAt_of_single rfl rfl, List.map_nil, List.append_nil]
    exact apply_ite _ _ _ _

/-- The levels of a name that stand in a hierarchy of the same name, each with its dimension. -/
def allLevelsAt (dimensions : List Dimension) (name : String) :
    List (Dimension × Hierarchy × Level) :=
  dimensions.flatMap fun dimension => (dimension.levelsAt name).map (dimension, ·)

variable {columns : List Column} {name : String}

theorem allLevelsAt_cons_of_ne (hne : column.name ≠ name) (columns : List Column) :
    allLevelsAt (ofColumns (column :: columns)) name = allLevelsAt (ofColumns columns) name := by
  rw [ofColumns, List.filterMap_cons]
  cases h : ofColumn? column with
  | none => rfl
  | some dimension =>
    obtain ⟨_, _, -, hlevels⟩ := levelsAt_of_ofColumn? h
    rw [allLevelsAt, List.flatMap_cons, hlevels, if_neg hne]
    rfl

theorem allLevelsAt_of_notMem (h : name ∉ columns.map (·.name)) :
    allLevelsAt (ofColumns columns) name = [] := by
  induction columns with
  | nil => rfl
  | cons column columns ih =>
    rw [List.map_cons, List.mem_cons, not_or] at h
    obtain ⟨hne, hrest⟩ := h
    rw [allLevelsAt_cons_of_ne (Ne.symm hne)]
    exact ih hrest

/-- Among columns with different names only the column of a name has such a level. -/
theorem allLevelsAt_name (hnames : (columns.map (·.name)).Nodup) (hcolumn : column ∈ columns)
    (h : ofColumn? column = some dimension) :
    ∃ hierarchy level,
      allLevelsAt (ofColumns columns) column.name = [(dimension, hierarchy, level)] ∧
        level.field = column.name := by
  induction columns with
  | nil => cases hcolumn
  | cons first columns ih =>
    obtain ⟨hfresh, hrest⟩ := List.nodup_cons.mp hnames
    rcases List.mem_cons.mp hcolumn with rfl | hlater
    · obtain ⟨hierarchy, level, hfield, hown⟩ := levelsAt_of_ofColumn? h
      have hothers := allLevelsAt_of_notMem hfresh
      rw [allLevelsAt, ofColumns] at hothers
      rw [allLevelsAt, ofColumns, List.filterMap_cons, h, List.flatMap_cons, hown, if_pos rfl,
        hothers]
      exact ⟨hierarchy, level, rfl, hfield⟩
    · have hne : first.name ≠ column.name := by
        intro hsame
        exact hfresh (List.mem_map.mpr ⟨column, hlater, hsame.symm⟩)
      rw [allLevelsAt_cons_of_ne hne]
      exact ih hrest hlater

end Dimension

namespace Cube

variable {cube : Cube} {columns : List Column} {column : Column}

/-- The measures that count the leaves below some levels. -/
def leafCounts (cube : Cube) : List Measure :=
  cube.measures.filter (·.leafLevels?.isSome)

/-- What a cube has of each of its columns. The dimensions and the leaf counts both follow the axes,
in the order of the columns. -/
structure Covers (cube : Cube) (columns : List Column) : Prop where
  measures : cube.measures.length =
    2 + 4 * columns.countP (·.IsWhole) + 6 * columns.countP (·.IsDecimal) +
      columns.countP (·.IsAxis)
  dimensions : cube.dimensions.length = columns.countP (·.IsAxis)
  fromColumns : List.Forall₂ (fun column dimension =>
      Dimension.ofColumn? column = some dimension ∧ dimension.name = column.name)
    (columns.filter (·.IsAxis)) cube.dimensions
  counted : List.Forall₂ (fun column measure =>
      Measure.distinctCount? column = some measure ∧
        measure.leafLevels? = some [column.name ++ "@" ++ column.name])
    (columns.filter (·.IsAxis)) cube.leafCounts
  leavesNothing : ∀ before column after, columns = before ++ column :: after →
    (cube.dimensions = Dimension.ofColumns (before ++ after) ∧
      cube.measures = Measure.ofColumns (before ++ after) ↔ column.IsKey)
  found : (columns.map (·.name)).Nodup → ∀ measure ∈ cube.measures,
    ∀ levels, measure.leafLevels? = some levels →
      ∃ name, levels = [name ++ "@" ++ name] ∧
        ∃ dimension hierarchy level,
          Dimension.allLevelsAt cube.dimensions name = [(dimension, hierarchy, level)] ∧
            level.field = name

/-- A column can be left out of a cube if and only if it is a key. -/
theorem leavesNothing_iff {before after : List Column} :
    Dimension.ofColumns (before ++ column :: after) = Dimension.ofColumns (before ++ after) ∧
      Measure.ofColumns (before ++ column :: after) = Measure.ofColumns (before ++ after) ↔
        column.IsKey := by
  have hof : Dimension.ofColumn? column = none ↔ column.isDimensionCandidate = false :=
    eq_none_iff_of_candidates Dimension.isSome_ofColumn?
  have hcount : Measure.distinctCount? column = none ↔ column.isDimensionCandidate = false :=
    eq_none_iff_of_candidates Measure.isSome_distinctCount?
  rw [Column.isKey_iff]
  constructor
  · rintro ⟨hdimensions, hmeasures⟩
    have hnone : Dimension.ofColumn? column = none := by
      cases hmade : Dimension.ofColumn? column with
      | none => rfl
      | some dimension => simp [Dimension.ofColumns, hmade] at hdimensions
    have hnil : Measure.ofNumber column = [] := by
      simpa [Measure.ofColumns, hcount.mpr (hof.mp hnone)] using hmeasures
    exact ⟨hof.mp hnone, Measure.ofNumber_eq_nil_iff.mp hnil⟩
  · rintro ⟨candidate, measured⟩
    have hnil := Measure.ofNumber_eq_nil_iff.mpr measured
    simp [Dimension.ofColumns, Measure.ofColumns, hof.mpr candidate, hcount.mpr candidate, hnil]

/-- A cube has of its columns what it must have, whatever the columns are. -/
theorem covers_columns (hdimensions : cube.dimensions = Dimension.ofColumns columns)
    (hmeasures : cube.measures = Measure.ofColumns columns) : cube.Covers columns where
  dimensions := by
    rw [hdimensions]
    exact length_axes Dimension.isSome_ofColumn? columns
  measures := by
    rw [hmeasures, Measure.ofColumns, List.length_append, List.length_append,
      Measure.length_ofNumbers, length_axes Measure.isSome_distinctCount?,
      ← Nat.add_assoc]
    rfl
  fromColumns := by
    rw [hdimensions]
    apply (forall₂_axes Dimension.isSome_ofColumn? columns).imp
    intro column dimension h
    exact ⟨h, Dimension.name_of_ofColumn? h⟩
  counted := by
    rw [leafCounts, hmeasures, Measure.filter_leafLevels?]
    apply (forall₂_axes Measure.isSome_distinctCount? columns).imp
    intro column measure h
    exact ⟨h, Measure.leafLevels?_of_distinctCount? h⟩
  leavesNothing before column after hcolumns := by
    rw [hdimensions, hmeasures, hcolumns]
    exact leavesNothing_iff
  found hnames measure hmeasure levels hlevels := by
    have hcount : measure ∈ columns.filterMap Measure.distinctCount? := by
      rw [← Measure.filter_leafLevels?, ← hmeasures]
      exact List.mem_filter.mpr ⟨hmeasure, Option.isSome_of_eq_some hlevels⟩
    obtain ⟨column, hcolumn, hof⟩ := List.mem_filterMap.mp hcount
    have candidate := (Measure.of_distinctCount? hof).1
    rw [← Dimension.isSome_ofColumn?] at candidate
    obtain ⟨dimension, hdimension⟩ := Option.isSome_iff_exists.mp candidate
    rw [Measure.leafLevels?_of_distinctCount? hof] at hlevels
    rw [hdimensions]
    exact ⟨column.name, (Option.some.inj hlevels).symm, dimension,
      Dimension.allLevelsAt_name hnames hcolumn hdimension⟩

/-- Columns that are called like the hierarchy of a date and like one of its levels, a key, and a
text that is called like a key. -/
theorem covers_columns_called_like_dates :
    let columns : List Column :=
      [⟨"booked_YMD", .int⟩, ⟨"booked", .date "date[yyyy-MM-dd]"⟩, ⟨"Year", .string⟩,
        ⟨"tradeId", .long⟩, ⟨"price", .double⟩, ⟨"clientID", .string⟩]
    let cube := ((Cube.ofStore "trades").addDimensions (Dimension.ofColumns columns)).addMeasures
      (Measure.ofColumns columns)
    cube.dimensions = Dimension.ofColumns columns ∧ cube.measures = Measure.ofColumns columns ∧
      cube.Covers columns ∧ cube.measures.length = 16 ∧ cube.dimensions.length = 4 ∧
      (columns.map (·.name)).Nodup ∧
      (Dimension.allLevelsAt cube.dimensions "booked_YMD").map (fun (_, _, level) => level.field) =
        ["booked_YMD"] := by
  intro columns cube
  have hcovers : cube.Covers columns := covers_columns rfl rfl
  exact ⟨rfl, rfl, hcovers, hcovers.measures, hcovers.dimensions, by decide, by decide⟩

end Cube

end OlapSynthesis
