import OlapSynthesis.Proofs.Formula.Resolution
import OlapSynthesis.Proofs.Registry.History
import OlapSynthesis.Proofs.Synthesis.Layout
import OlapSynthesis.Proofs.Synthesis.PartitionKey

namespace OlapSynthesis

theorem Column.ofColumn_mem_allFields (column : Column) :
    Field.ofColumn column ∈ column.allFields :=
  List.mem_append_right _ (List.mem_singleton_self _)

theorem Column.ofDatePart_mem_allFields {column : Column} (h : column.type.isDate = true)
    (part : DatePart) : Field.ofDatePart column.name part ∈ column.allFields := by
  refine List.mem_append_left _ ?_
  rw [partFields, if_pos h]
  exact List.mem_map_of_mem (by cases part <;> simp [DatePart.all])

theorem Column.name_mem_selected (column : Column) : column.name ∈ column.selected :=
  List.mem_cons_self

theorem Column.fieldName_mem_selected {column : Column} (h : column.type.isDate = true)
    (part : DatePart) : part.fieldName column.name ∈ column.selected := by
  refine List.mem_cons_of_mem _ ?_
  rw [if_pos h]
  exact List.mem_map_of_mem (by cases part <;> simp [DatePart.all])

/-- What can be a dimension is indexed. -/
theorem Column.isIndexed_of_isDimensionCandidate {column : Column}
    (h : column.isDimensionCandidate = true) : column.type.isIndexed = true := by
  obtain ⟨name, type⟩ := column
  cases type <;> simp_all [isDimensionCandidate, ColumnType.isPureNumeric, ColumnType.isIndexed]

/-- What can be measured is a number. -/
theorem Column.isNumeric_of_isMeasureCandidate {column : Column}
    (h : column.isMeasureCandidate = true) : column.type.isNumeric = true :=
  (Bool.and_eq_true _ _ ▸ h).1

/-- A level of the dimension of a column is over the column itself, and then has the name of its
hierarchy, or it is over a part of the date in the column. -/
inductive Level.Of (column : Column) (hierarchy : String) (level : Level) : Prop
  | column (candidate : column.isDimensionCandidate = true) (field : level.field = column.name)
      (name : level.name = hierarchy)
  | part (part : DatePart) (date : column.type.isDate = true)
      (field : level.field = part.fieldName column.name) (name : level.name = part.levelName)
      (hierarchy : hierarchy = column.name ++ "_YMD")

theorem Dimension.level_of {column : Column} {dimension : Dimension} {hierarchy : Hierarchy}
    {level : Level} (hdimension : ofColumn? column = some dimension)
    (hhierarchy : hierarchy ∈ dimension.hierarchies) (hlevel : level ∈ hierarchy.levels) :
    Level.Of column hierarchy.name level := by
  rw [ofColumn?] at hdimension
  cases hcandidate : column.isDimensionCandidate with
  | false => simp [hcandidate] at hdimension
  | true =>
    cases hdate : column.type.isDate with
    | false =>
      simp only [hcandidate, hdate, Bool.not_true, Bool.false_eq_true, if_false,
        Option.some.injEq] at hdimension
      subst hdimension
      obtain rfl := List.mem_singleton.mp hhierarchy
      obtain rfl := List.mem_singleton.mp hlevel
      exact .column hcandidate rfl rfl
    | true =>
      simp only [hcandidate, hdate, Bool.not_true, Bool.false_eq_true, if_false, if_true,
        Option.some.injEq] at hdimension
      subst hdimension
      rcases List.mem_pair.mp hhierarchy with rfl | rfl
      · obtain rfl := List.mem_singleton.mp hlevel
        exact .column hcandidate rfl rfl
      · obtain ⟨part, -, rfl⟩ := List.mem_map.mp hlevel
        exact .part part hdate rfl rfl rfl

theorem DatePart.levelName_injective {part other : DatePart}
    (h : part.levelName = other.levelName) : part = other := by
  cases part <;> cases other <;> simp_all [levelName]

/-- The hierarchy of the parts of a date is not named like one of its levels. -/
theorem DatePart.levelName_ne (part : DatePart) (column : String) :
    part.levelName ≠ column ++ "_YMD" := by
  intro h
  have hlast := congrArg (·.toList.getLast?) h
  cases part <;> simp [levelName, String.toList_append] at hlast

theorem Measure.aggregated_of {column : Column} {measure : AggregatedMeasure}
    (h : Measure.aggregated measure ∈ ofNumber column) :
    column.isMeasureCandidate = true ∧ measure.field = column.name := by
  obtain ⟨hcandidate, ⟨aggregation, visible, h⟩ | ⟨suffix, expression, h⟩⟩ := of_mem_ofNumber h
  · cases h
    exact ⟨hcandidate, rfl⟩
  · cases h

/-- An aggregate is over a column that is measured. -/
theorem Measure.column_of_aggregated {columns : List Column} {measure : AggregatedMeasure}
    (h : Measure.aggregated measure ∈ ofColumns columns) :
    ∃ column ∈ columns, column.isMeasureCandidate = true ∧ measure.field = column.name := by
  rw [ofColumns, List.mem_append, List.mem_append] at h
  rcases h with (hnative | hnumber) | hcount
  · simp [natives] at hnative
  · obtain ⟨column, hcolumn, hmeasure⟩ := List.mem_flatMap.mp hnumber
    exact ⟨column, hcolumn, aggregated_of hmeasure⟩
  · obtain ⟨column, -, hmeasure⟩ := List.mem_filterMap.mp hcount
    obtain ⟨-, hderived⟩ := Option.ite_none_left_eq_some.mp hmeasure
    cases hderived

/-- The store has what its cube names: the fields of the levels, which are indexed, and for the
levels of a date the parts of that date; the fields of the aggregates, which are numbers; all of
them are selected. The field to partition on is one of the source. -/
structure StoreOutcome.Supports (outcome : StoreOutcome) (cube : Cube) : Prop where
  levels : ∀ dimension ∈ cube.dimensions, ∀ hierarchy ∈ dimension.hierarchies,
    ∀ level ∈ hierarchy.levels, level.field ∈ outcome.selection ∧
      ∃ field ∈ outcome.layout.fields, field.name = level.field ∧ field.indexed = true
  dateLevels : ∀ dimension ∈ cube.dimensions, ∀ hierarchy ∈ dimension.hierarchies,
    ∀ level ∈ hierarchy.levels, ∀ column part, hierarchy.name = column ++ "_YMD" →
      level.name = part.levelName →
      ∃ field ∈ outcome.layout.fields, field.name = level.field ∧ field.indexed = true ∧
        field.derived = some ⟨column, part⟩ ∧ field.type = part.fieldType
  measures : ∀ measure, Measure.aggregated measure ∈ cube.measures →
    measure.field ∈ outcome.selection ∧
      ∃ field ∈ outcome.layout.fields, field.name = measure.field ∧
        field.isSynthetic = false ∧ field.type.isNumeric = true
  partitioning : ∀ partitioning, outcome.layout.partitioning = some partitioning →
    2 ≤ partitioning.count ∧
      ∃ field ∈ outcome.layout.fields, field.name = partitioning.field ∧ field.isSynthetic = false

namespace StoreSpec

variable {spec : StoreSpec} {column : Column}

theorem mem_fields_outcome (hcolumn : column ∈ spec.columns) {field : Field}
    (hfield : field ∈ column.allFields) (parallelism : UInt64) :
    field ∈ (spec.outcome parallelism).layout.fields :=
  List.mem_flatMap.mpr ⟨column, hcolumn, hfield⟩

theorem mem_selection_outcome (hcolumn : column ∈ spec.columns) {name : String}
    (hname : name ∈ column.selected) (parallelism : UInt64) :
    name ∈ (spec.outcome parallelism).selection :=
  List.mem_flatMap.mpr ⟨column, hcolumn, hname⟩

theorem column_of_partitioning {parallelism : UInt64} {partitioning : Partitioning}
    (h : (spec.choosePartitioning parallelism).partitioning = some partitioning) :
    2 ≤ partitioning.count ∧ ∃ column ∈ spec.columns, column.name = partitioning.field := by
  obtain ⟨many, hcount, hcolumn⟩ :=
    (spec.choosePartitioning_chooses parallelism).column_of_partitioning h
  have htwo : (2 : UInt32).toNat = 2 := rfl
  rw [hcount, UInt32.le_iff_toNat_le, Partitioning.toNat_countFor, htwo]
  exact ⟨by omega, hcolumn⟩

theorem outcome_supports (spec : StoreSpec) (parallelism : UInt64) :
    (spec.outcome parallelism).Supports spec.cube where
  levels dimension hdimension hierarchy hhierarchy level hlevel := by
    rw [cube_dimensions] at hdimension
    obtain ⟨column, hcolumn, hof⟩ := List.mem_filterMap.mp hdimension
    cases Dimension.level_of hof hhierarchy hlevel with
    | column candidate field name =>
      rw [field]
      exact ⟨mem_selection_outcome hcolumn column.name_mem_selected parallelism, _,
        mem_fields_outcome hcolumn column.ofColumn_mem_allFields parallelism, rfl,
        Column.isIndexed_of_isDimensionCandidate candidate⟩
    | part part date field name hierarchy =>
      rw [field]
      exact ⟨mem_selection_outcome hcolumn (Column.fieldName_mem_selected date part) parallelism, _,
        mem_fields_outcome hcolumn (Column.ofDatePart_mem_allFields date part) parallelism, rfl,
        rfl⟩
  dateLevels dimension hdimension hierarchy hhierarchy level hlevel name part hname hpart := by
    rw [cube_dimensions] at hdimension
    obtain ⟨column, hcolumn, hof⟩ := List.mem_filterMap.mp hdimension
    cases Dimension.level_of hof hhierarchy hlevel with
    | column _ _ hlevelName =>
      exact absurd (hpart.symm.trans (hlevelName.trans hname)) (part.levelName_ne name)
    | part part' date field hlevelName hhierarchyName =>
      obtain rfl : part = part' := DatePart.levelName_injective (hpart.symm.trans hlevelName)
      obtain rfl : name = column.name := by
        have hsuffix : name ++ "_YMD" = column.name ++ "_YMD" := hname.symm.trans hhierarchyName
        simpa using hsuffix
      exact ⟨_, mem_fields_outcome hcolumn (Column.ofDatePart_mem_allFields date part) parallelism,
        field.symm, rfl, rfl, rfl⟩
  measures measure hmeasure := by
    rw [cube_measures] at hmeasure
    obtain ⟨column, hcolumn, candidate, hfield⟩ := Measure.column_of_aggregated hmeasure
    rw [hfield]
    exact ⟨mem_selection_outcome hcolumn column.name_mem_selected parallelism, _,
      mem_fields_outcome hcolumn column.ofColumn_mem_allFields parallelism, rfl, rfl,
      Column.isNumeric_of_isMeasureCandidate candidate⟩
  partitioning partitioning hpartitioning := by
    obtain ⟨hcount, column, hcolumn, hname⟩ := column_of_partitioning hpartitioning
    exact ⟨hcount, _, mem_fields_outcome hcolumn column.ofColumn_mem_allFields parallelism, hname,
      rfl⟩

/-- After a store was synthesized into a registry that had no cube for it, its cube names nothing
that the store does not have. -/
theorem synthesize_supports (spec : StoreSpec) (parallelism : UInt64) {registry : Registry}
    (absent : registry.get? spec.name = none) :
    ∃ outcome next cube, spec.synthesize parallelism registry = .ok (outcome, next) ∧
      next.cube? spec.name = some cube ∧ outcome.Supports cube :=
  ⟨_, _, _, synthesize_eq spec parallelism registry, Registry.cube?_register_of_none absent,
    spec.outcome_supports parallelism⟩

/-- A registry that has a cube for another store. -/
theorem synthesize_supports_beside_other :
    let spec : StoreSpec := ⟨"trades", none, [⟨"price", .double⟩, ⟨"booked", .date "date"⟩], none,
      .bitmap, by simp, by decide⟩
    let registry := (Registry.empty.getOrCreate "risks").2
    registry.get? spec.name = none ∧
      ∃ outcome next cube, spec.synthesize 4 registry = .ok (outcome, next) ∧
        next.cube? spec.name = some cube ∧ outcome.Supports cube := by
  intro spec registry
  have absent : registry.get? spec.name = none := by decide
  exact ⟨absent, spec.synthesize_supports 4 absent⟩

end StoreSpec

end OlapSynthesis
