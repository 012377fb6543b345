import OlapSynthesis.Proofs.Formula.Resolution

namespace OlapSynthesis

namespace Measure

variable {column : Column} {columns : List Column} {measure : Measure} {folder : String}

theorem folder_of_mem_ofNumber (h : measure ∈ ofNumber column) :
    measure.folder = some column.name := by
  obtain ⟨-, ⟨aggregation, visible, rfl⟩ | ⟨suffix, expression, rfl⟩⟩ := of_mem_ofNumber h
  · rfl
  · rfl

theorem folder_of_distinctCount? (h : distinctCount? column = some measure) :
    measure.folder = some distinctCountFolder := by
  obtain ⟨-, hderived⟩ := Option.ite_none_left_eq_some.mp h
  obtain rfl := Option.some.inj hderived
  rfl

theorem filter_ofNumber_self (column : Column) :
    (ofNumber column).filter (·.folder == some column.name) = ofNumber column := by
  apply List.filter_eq_self.mpr
  intro measure hmeasure
  rw [folder_of_mem_ofNumber hmeasure]
  exact beq_self_eq_true _

theorem filter_ofNumber_of_ne (h : column.name ≠ folder) :
    (ofNumber column).filter (·.folder == some folder) = [] := by
  apply List.filter_eq_nil_iff.mpr
  intro measure hmeasure hfolder
  rw [folder_of_mem_ofNumber hmeasure] at hfolder
  exact h (Option.some.inj (eq_of_beq hfolder))

/-- No number is called like the folder, so no aggregate is in it. -/
theorem filter_ofNumbers_of_notMem (h : ∀ column ∈ columns, column.isMeasureCandidate = true →
    column.name ≠ folder) : (columns.flatMap ofNumber).filter (·.folder == some folder) = [] := by
  rw [List.filter_flatMap, List.flatMap_eq_nil_iff]
  intro column hcolumn
  cases hcandidate : column.isMeasureCandidate with
  | false =>
    rw [ofNumber, hcandidate]
    rfl
  | true => exact filter_ofNumber_of_ne (h column hcolumn hcandidate)

theorem filter_ofNumbers (hnames : (columns.map (·.name)).Nodup) (hcolumn : column ∈ columns) :
    (columns.flatMap ofNumber).filter (·.folder == some column.name) = ofNumber column := by
  induction columns with
  | nil => cases hcolumn
  | cons first columns ih =>
    obtain ⟨hfresh, hrest⟩ := List.nodup_cons.mp hnames
    rw [List.flatMap_cons, List.filter_append]
    rcases List.mem_cons.mp hcolumn with rfl | hlater
    · have hothers : (columns.flatMap ofNumber).filter (·.folder == some column.name) = [] := by
        apply filter_ofNumbers_of_notMem
        intro other hother _ hname
        exact hfresh (List.mem_map.mpr ⟨other, hother, hname⟩)
      rw [filter_ofNumber_self, hothers, List.append_nil]
    · have hne : first.name ≠ column.name := by
        intro hname
        exact hfresh (List.mem_map.mpr ⟨column, hlater, hname.symm⟩)
      rw [filter_ofNumber_of_ne hne, ih hrest hlater, List.nil_append]

theorem filter_distinctCounts (columns : List Column) (folder : String) :
    (columns.filterMap distinctCount?).filter (·.folder == some folder) =
      if folder = distinctCountFolder then columns.filterMap distinctCount? else [] := by
  have hfolder : ∀ measure ∈ columns.filterMap distinctCount?,
      measure.folder = some distinctCountFolder := by
    intro measure hmeasure
    obtain ⟨column, -, hcolumn⟩ := List.mem_filterMap.mp hmeasure
    exact folder_of_distinctCount? hcolumn
  split
  next heq =>
    apply List.filter_eq_self.mpr
    intro measure hmeasure
    rw [hfolder measure hmeasure, heq]
    exact beq_self_eq_true _
  next hne =>
    apply List.filter_eq_nil_iff.mpr
    intro measure hmeasure hsame
    rw [hfolder measure hmeasure] at hsame
    exact hne (Option.some.inj (eq_of_beq hsame)).symm

end Measure

namespace Cube

variable {cube : Cube} {columns : List Column} {column : Column}

/-- The folder of a number holds its aggregates, and that of the distinct counts all of these, each
in order and nothing else. -/
def GroupsFamilies (cube : Cube) (columns : List Column) : Prop :=
  (∀ column ∈ columns, column.isMeasureCandidate = true →
    cube.measuresIn column.name = Measure.ofNumber column) ∧
  cube.measuresIn distinctCountFolder = columns.filterMap Measure.distinctCount?

theorem measuresIn_eq (hmeasures : cube.measures = Measure.ofColumns columns) (folder : String) :
    cube.measuresIn folder =
      (columns.flatMap Measure.ofNumber).filter (·.folder == some folder) ++
        if folder = distinctCountFolder then columns.filterMap Measure.distinctCount? else [] := by
  rw [measuresIn, hmeasures, Measure.ofColumns, List.filter_append, List.filter_append,
    Measure.filter_distinctCounts]
  rfl

/-- A folder that is called like a number holds the aggregates of that number, followed by the
distinct counts if it is theirs as well. So the folders keep the families apart if and only if no
number is called like the folder of the distinct counts. -/
theorem folders_group_families (hmeasures : cube.measures = Measure.ofColumns columns)
    (hnames : (columns.map (·.name)).Nodup) :
    (∀ column ∈ columns, cube.measuresIn column.name = Measure.ofNumber column ++
      if column.name = distinctCountFolder then columns.filterMap Measure.distinctCount? else []) ∧
    (cube.GroupsFamilies columns ↔
      ∀ column ∈ columns, column.isMeasureCandidate = true → column.name ≠ distinctCountFolder) := by
  have hfolder : ∀ column ∈ columns, cube.measuresIn column.name = Measure.ofNumber column ++
      if column.name = distinctCountFolder then columns.filterMap Measure.distinctCount?
      else [] := by
    intro column hcolumn
    rw [measuresIn_eq hmeasures, Measure.filter_ofNumbers hnames hcolumn]
  refine ⟨hfolder, ?_, ?_⟩
  · rintro ⟨-, hcounts⟩ column hcolumn hcandidate hname
    have hshared := hfolder column hcolumn
    rw [if_pos hname, hname, hcounts, List.self_eq_append_left] at hshared
    rw [Measure.ofNumber, hcandidate] at hshared
    cases hshared
  · intro hapart
    constructor
    · intro column hcolumn hcandidate
      rw [hfolder column hcolumn, if_neg (hapart column hcolumn hcandidate), List.append_nil]
    · rw [measuresIn_eq hmeasures, Measure.filter_ofNumbers_of_notMem hapart, if_pos rfl,
        List.nil_append]

/-- A text that is called like the folder of the distinct counts does no harm. -/
theorem folders_group_families_beside_text :
    let columns : List Column :=
      [⟨distinctCountFolder, .string⟩, ⟨"price", .double⟩, ⟨"booked", .date "date"⟩, ⟨"lots", .int⟩]
    let cube := (Cube.ofStore "trades").addMeasures (Measure.ofColumns columns)
    cube.measures = Measure.ofColumns columns ∧ (columns.map (·.name)).Nodup ∧
      cube.GroupsFamilies columns ∧ cube.measuresIn "lots" = Measure.ofNumber ⟨"lots", .int⟩ := by
  intro columns cube
  have hmeasures : cube.measures = Measure.ofColumns columns := rfl
  have hnames : (columns.map (·.name)).Nodup := by decide
  obtain ⟨hfolder, hgroups⟩ := folders_group_families hmeasures hnames
  exact ⟨hmeasures, hnames, hgroups.mpr (by decide), hfolder ⟨"lots", .int⟩ (by decide)⟩

/-- A number that is called like the folder of the distinct counts: the folder holds its aggregates
and the count of another column. -/
theorem not_groupsFamilies_distinctCountFolder :
    let number : Column := ⟨"Distinct Count", .double⟩
    let columns : List Column := [number, ⟨"ccy", .string⟩]
    let cube := (Cube.ofStore "trades").addMeasures (Measure.ofColumns columns)
    (columns.map (·.name)).Nodup ∧ (∀ column ∈ columns, Text.isBlank column.name = false) ∧
      number.isMeasureCandidate = true ∧
      (cube.measuresIn "Distinct Count").map (·.name) =
        ["Distinct Count.SUM", "Distinct Count.min", "Distinct Count.max", "Distinct Count.avg",
          "Distinct Count.SQ_SUM", "Distinct Count.STD", "ccy.COUNT"] ∧
      cube.measuresIn number.name ≠ Measure.ofNumber number ∧
      cube.measuresIn distinctCountFolder ≠ columns.filterMap Measure.distinctCount? ∧
      ¬ cube.GroupsFamilies columns := by
  intro number columns cube
  have hcounts : cube.measuresIn distinctCountFolder ≠ columns.filterMap Measure.distinctCount? := by
    decide
  have hnumber : cube.measuresIn number.name ≠ Measure.ofNumber number := by decide +kernel
  exact ⟨by decide, by decide, by decide, by decide, hnumber, hcounts, fun h => hcounts h.2⟩

end Cube

end OlapSynthesis
