import OlapSynthesis.Proofs.Formula.Resolution
import OlapSynthesis.Proofs.Synthesis.Closure

namespace OlapSynthesis

theorem DatePart.fieldName_injective {part other : DatePart} {column otherColumn : String}
    (h : part.fieldName column = other.fieldName otherColumn) :
    column = otherColumn ∧ part = other := by
  have hdot (part : DatePart) : '.' ∉ part.suffix.toList := by
    cases part <;> decide
  obtain ⟨hcolumn, hsuffix⟩ := Measure.name_split (hdot part) (hdot other) h
  refine ⟨hcolumn, ?_⟩
  cases part <;> cases other <;> simp_all [suffix]

theorem DatePart.fieldName_ne (part : DatePart) (column : String) :
    part.fieldName column ≠ column := by
  intro h
  have hlength := congrArg (·.toList.length) h
  cases part <;> simp [fieldName, suffix, String.toList_append] at hlength

namespace Column

variable {column other : Column} {field : Field}

theorem mem_allFields_iff :
    field ∈ column.allFields ↔
      field = Field.ofColumn column ∨
        column.type.isDate = true ∧ ∃ part, field = Field.ofDatePart column.name part := by
  constructor
  · intro h
    rcases List.mem_append.mp h with hpart | hcolumn
    · rw [partFields] at hpart
      cases hdate : column.type.isDate with
      | false => simp [hdate] at hpart
      | true =>
        rw [hdate, if_pos rfl] at hpart
        obtain ⟨part, -, rfl⟩ := List.mem_map.mp hpart
        exact .inr ⟨rfl, part, rfl⟩
    · exact .inl (List.mem_singleton.mp hcolumn)
  · rintro (rfl | ⟨hdate, part, rfl⟩)
    · exact column.ofColumn_mem_allFields
    · exact ofDatePart_mem_allFields hdate part

theorem nodup_names_allFields (column : Column) : (column.allFields.map (·.name)).Nodup := by
  have hparts : (DatePart.all.map (·.fieldName column.name)).Nodup := by
    refine List.Nodup.map_on ?_ (by decide)
    intro part _ other _ h
    exact (DatePart.fieldName_injective h).2
  rw [allFields, List.map_append, List.nodup_append', partFields]
  split
  · refine ⟨by rwa [List.map_map], List.nodup_singleton _, ?_⟩
    intro name hpart hcolumn
    obtain ⟨field, hfield, rfl⟩ := List.mem_map.mp hpart
    obtain ⟨part, -, rfl⟩ := List.mem_map.mp hfield
    exact part.fieldName_ne column.name (List.mem_singleton.mp hcolumn)
  · exact ⟨List.nodup_nil, List.nodup_singleton _, List.disjoint_nil_left _⟩

/-- Fields of columns with different names have different names, unless one of the columns is called
like a part of the other. -/
theorem name_ne_of_mem_allFields (hne : column.name ≠ other.name)
    (hpart : column.type.isDate = true → ∀ part : DatePart, other.name ≠ part.fieldName column.name)
    (hotherPart : other.type.isDate = true →
      ∀ part : DatePart, column.name ≠ part.fieldName other.name)
    {otherField : Field} (hfield : field ∈ column.allFields)
    (hotherField : otherField ∈ other.allFields) : field.name ≠ otherField.name := by
  rcases mem_allFields_iff.mp hfield with rfl | ⟨hdate, part, rfl⟩
  · rcases mem_allFields_iff.mp hotherField with rfl | ⟨hotherDate, otherPart, rfl⟩
    · exact hne
    · exact hotherPart hotherDate otherPart
  · rcases mem_allFields_iff.mp hotherField with rfl | ⟨-, otherPart, rfl⟩
    · exact (hpart hdate part).symm
    · intro h
      exact hne (DatePart.fieldName_injective h).1

variable {columns : List Column} {source : String}

theorem ofDatePart_notMem (hother : ∀ column ∈ columns, column.name ≠ source) (part : DatePart) :
    Field.ofDatePart source part ∉ columns.flatMap allFields := by
  intro hmem
  obtain ⟨column, hcolumn, hfield⟩ := List.mem_flatMap.mp hmem
  rcases mem_allFields_iff.mp hfield with heq | ⟨-, otherPart, heq⟩
  · cases congrArg Field.derived heq
  · exact hother column hcolumn (DatePart.fieldName_injective (congrArg Field.name heq)).1.symm

/-- Where the date itself is missing, only a column can have the name of one of its parts. -/
theorem find?_part_eq_none_iff (hother : ∀ column ∈ columns, column.name ≠ source)
    (part : DatePart) :
    (columns.flatMap allFields).find? (·.name == part.fieldName source) = none ↔
      ∀ column ∈ columns, column.name ≠ part.fieldName source := by
  rw [List.find?_eq_none]
  constructor
  · intro hnone column hcolumn hname
    exact hnone (Field.ofColumn column)
      (List.mem_flatMap.mpr ⟨column, hcolumn, column.ofColumn_mem_allFields⟩)
      (beq_iff_eq.mpr hname)
  · intro hnone field hmem hname
    obtain ⟨column, hcolumn, hfield⟩ := List.mem_flatMap.mp hmem
    rcases mem_allFields_iff.mp hfield with rfl | ⟨-, otherPart, rfl⟩
    · exact hnone column hcolumn (beq_iff_eq.mp hname)
    · exact hother column hcolumn (DatePart.fieldName_injective (beq_iff_eq.mp hname)).1

end Column

namespace StoreSpec

variable {spec : StoreSpec}

/-- No column is called like a part of a date. -/
def PartsApart (spec : StoreSpec) : Prop :=
  ∀ date ∈ spec.columns, date.type.isDate = true → ∀ part : DatePart,
    ∀ column ∈ spec.columns, column.name ≠ part.fieldName date.name

theorem nodup_field_names (hcolumns : (spec.columns.map (·.name)).Nodup)
    (hapart : spec.PartsApart) :
    ((spec.columns.flatMap Column.allFields).map (·.name)).Nodup := by
  rw [List.map_flatMap, List.nodup_flatMap]
  refine ⟨fun column _ => column.nodup_names_allFields, ?_⟩
  refine (List.pairwise_map.mp hcolumns).imp_of_mem ?_
  intro column other hcolumn hother hne name hname hotherName
  obtain ⟨field, hfield, rfl⟩ := List.mem_map.mp hname
  obtain ⟨otherField, hotherField, heq⟩ := List.mem_map.mp hotherName
  exact Column.name_ne_of_mem_allFields hne
    (fun hdate part => hapart column hcolumn hdate part other hother)
    (fun hdate part => hapart other hother hdate part column hcolumn) hfield hotherField heq.symm

/-- A part and a column of one name are two fields. -/
theorem partsApart_of_name_injective
    (h : ∀ field ∈ spec.columns.flatMap Column.allFields,
      ∀ other ∈ spec.columns.flatMap Column.allFields, field.name = other.name → field = other) :
    spec.PartsApart := by
  intro date hdateMem hdate part column hcolumn hname
  have hsame : Field.ofColumn column = Field.ofDatePart date.name part :=
    h _ (List.mem_flatMap.mpr ⟨column, hcolumn, column.ofColumn_mem_allFields⟩)
      _ (List.mem_flatMap.mpr ⟨date, hdateMem, Column.ofDatePart_mem_allFields hdate part⟩) hname
  cases congrArg Field.derived hsame

/-- The part of a date is found under its name if and only if no column before the date has that
name. -/
theorem find?_part_iff (hcolumns : (spec.columns.map (·.name)).Nodup)
    {before after : List Column} {date : Column} (hspec : spec.columns = before ++ date :: after)
    (hdate : date.type.isDate = true) (part : DatePart) :
    (spec.columns.flatMap Column.allFields).find? (·.name == part.fieldName date.name) =
        some (Field.ofDatePart date.name part) ↔
      ∀ column ∈ before, column.name ≠ part.fieldName date.name := by
  have hbefore : ∀ column ∈ before, column.name ≠ date.name := by
    rw [hspec, List.map_append, List.nodup_append'] at hcolumns
    obtain ⟨-, -, hdisjoint⟩ := hcolumns
    intro column hcolumn hname
    exact hdisjoint (List.mem_map_of_mem hcolumn) (hname ▸ List.mem_cons_self)
  have hown : date.allFields.find? (·.name == part.fieldName date.name) =
      some (Field.ofDatePart date.name part) :=
    Dictionary.find?_eq_some_of_nodup date.nodup_names_allFields
      (Column.ofDatePart_mem_allFields hdate part)
  rw [hspec, List.flatMap_append, List.flatMap_cons, List.find?_append, List.find?_append, hown,
    Option.some_or, ← Column.find?_part_eq_none_iff hbefore]
  -- what an earlier column has under this name hides the part, and is not the part itself
  cases hfirst : (before.flatMap Column.allFields).find? (·.name == part.fieldName date.name) with
  | none => simp
  | some field =>
    have hne : field ≠ Field.ofDatePart date.name part := by
      rintro rfl
      exact Column.ofDatePart_notMem hbefore part (List.mem_of_find?_eq_some hfirst)
    simp [hne]

/-- The fields of a store have different names, and each of them is found under its name, if and
only if no column is called like a part of a date. A level over a part of a date finds that part if
and only if no column before the date has its name. -/
theorem field_names_identify (spec : StoreSpec) (partitioning : Option Partitioning)
    (hcolumns : (spec.columns.map (·.name)).Nodup) :
    ∃ layout, spec.layout partitioning = .ok layout ∧
      ((layout.fields.map (·.name)).Nodup ↔ spec.PartsApart) ∧
      ((∀ field ∈ layout.fields, layout.field? field.name = some field) ↔ spec.PartsApart) ∧
      ∀ before date after, spec.columns = before ++ date :: after →
        ∀ dimension, Dimension.ofColumn? date = some dimension →
          ∀ hierarchy ∈ dimension.hierarchies, hierarchy.name = date.name ++ "_YMD" →
            ∀ level ∈ hierarchy.levels, ∀ part, level.name = part.levelName →
              (layout.field? level.field = some (Field.ofDatePart date.name part) ↔
                ∀ column ∈ before, column.name ≠ level.field) := by
  refine ⟨_, spec.layout_eq partitioning, ⟨?_, nodup_field_names hcolumns⟩, ⟨?_, ?_⟩, ?_⟩
  · intro hnodup
    apply partsApart_of_name_injective
    intro field hfield other hother
    exact List.inj_on_of_nodup_map hnodup hfield hother
  · intro hfound
    apply partsApart_of_name_injective
    intro field hfield other hother hname
    exact Option.some.inj ((hfound field hfield).symm.trans (hname ▸ hfound other hother))
  · intro hapart field hfield
    exact Dictionary.find?_eq_some_of_nodup (nodup_field_names hcolumns hapart) hfield
  · intro before date after hspec dimension hdimension hierarchy hhierarchy hname level hlevel part
      hpart
    cases Dimension.level_of hdimension hhierarchy hlevel with
    | column _ _ hlevelName =>
      exact absurd (hpart.symm.trans (hlevelName.trans hname)) (part.levelName_ne date.name)
    | part other hdate field hlevelName _ =>
      obtain rfl : part = other := DatePart.levelName_injective (hpart.symm.trans hlevelName)
      rw [field]
      exact find?_part_iff hcolumns hspec hdate part

/-- A column after the date that is called like its year: the names are not distinct, but the levels
of the date still find its parts. -/
theorem field_names_identify_column_after_date :
    let date : Column := ⟨"booked", .date "date"⟩
    let spec : StoreSpec := ⟨"trades", none, [date, ⟨"booked.YEAR", .int⟩], none, .bitmap, by simp,
      by decide⟩
    (spec.columns.map (·.name)).Nodup ∧
      ∃ layout, spec.layout none = .ok layout ∧ ¬ (layout.fields.map (·.name)).Nodup ∧
        ∀ part, layout.field? (part.fieldName date.name) =
          some (Field.ofDatePart date.name part) := by
  intro date spec
  have hcolumns : (spec.columns.map (·.name)).Nodup := by decide
  obtain ⟨layout, hlayout, hdistinct, -, hlevels⟩ := field_names_identify spec none hcolumns
  refine ⟨hcolumns, layout, hlayout, ?_, ?_⟩
  · rw [hdistinct]
    intro hapart
    exact hapart date (by decide) rfl .year ⟨"booked.YEAR", .int⟩ (by decide) rfl
  · intro part
    have hlevel := hlevels [] date [⟨"booked.YEAR", .int⟩] rfl _ rfl
      (Hierarchy.ofDateParts date.name) (by decide) rfl
      (Level.bound part.levelName (part.fieldName date.name)) (by cases part <;> decide) part rfl
    exact hlevel.mpr (by simp)

/-- A column before the date that is called like its year: the level of the years finds that
column. -/
theorem level_finds_column_before_date :
    let column : Column := ⟨"booked.YEAR", .int⟩
    let spec : StoreSpec := ⟨"trades", none, [column, ⟨"booked", .date "date"⟩], none, .bitmap,
      by simp, by decide⟩
    (spec.columns.map (·.name)).Nodup ∧
      ∃ layout, spec.layout none = .ok layout ∧ ¬ (layout.fields.map (·.name)).Nodup ∧
        (∃ field ∈ layout.fields, layout.field? field.name ≠ some field) ∧
        ∃ dimension ∈ spec.cube.dimensions, ∃ hierarchy ∈ dimension.hierarchies,
          ∃ level ∈ hierarchy.levels, level.name = DatePart.year.levelName ∧
            layout.field? level.field = some (Field.ofColumn column) := by
  intro column spec
  exact ⟨by decide, _, spec.layout_eq none, by decide, by decide, by decide⟩

end StoreSpec

end OlapSynthesis
