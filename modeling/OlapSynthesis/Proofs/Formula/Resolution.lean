import OlapSynthesis.Proofs.Dictionary
import OlapSynthesis.Synthesis.Measures

namespace OlapSynthesis

namespace Measure

variable {column : Column} {columns : List Column} {measure : Measure}

theorem of_mem_ofNumber (h : measure ∈ ofNumber column) :
    column.isMeasureCandidate = true ∧
      ((∃ aggregation visible, measure = ofAggregation column aggregation visible) ∨
        ∃ suffix expression, measure = ofFormula column suffix expression) := by
  rw [ofNumber] at h
  cases hcandidate : column.isMeasureCandidate with
  | false => simp [hcandidate] at h
  | true =>
    refine ⟨rfl, ?_⟩
    simp only [hcandidate, Bool.not_true, Bool.false_eq_true, if_false, List.mem_append] at h
    rcases h with h | h
    · simp only [List.mem_cons, List.not_mem_nil, or_false] at h
      rcases h with rfl | rfl | rfl | rfl
      · exact .inl ⟨_, _, rfl⟩
      · exact .inl ⟨_, _, rfl⟩
      · exact .inl ⟨_, _, rfl⟩
      · exact .inr ⟨_, _, rfl⟩
    · cases hdecimal : column.type.isDecimal with
      | false => simp [hdecimal] at h
      | true =>
        simp only [hdecimal, if_true, List.mem_cons, List.not_mem_nil, or_false] at h
        rcases h with rfl | rfl
        · exact .inl ⟨_, _, rfl⟩
        · exact .inr ⟨_, _, rfl⟩

/-- The last dot of a name stands before its key. -/
theorem name_split {field other key otherKey : String} (hkey : '.' ∉ key.toList)
    (hother : '.' ∉ otherKey.toList) (h : field ++ "." ++ key = other ++ "." ++ otherKey) :
    field = other ∧ key = otherKey := by
  have hlist : field.toList ++ '.' :: key.toList = other.toList ++ '.' :: otherKey.toList := by
    have htext := congrArg String.toList h
    simpa [String.toList_append] using htext
  rw [← String.toList_inj, ← String.toList_inj]
  rcases List.append_eq_append_iff.mp hlist with
    ⟨between, hfield, hsplit⟩ | ⟨between, hfield, hsplit⟩
  -- between the two splits there is nothing, or else one of the keys has the dot of the other name
  all_goals
    cases between with
    | nil => simp_all
    | cons c between =>
      obtain ⟨-, hbetween⟩ := List.cons.inj hsplit
      simp [hbetween] at hkey hother

def numberKeys : List String :=
  ["SUM", "min", "max", "avg", "SQ_SUM", "STD"]

theorem dot_notMem_of_mem_numberKeys {key : String} (h : key ∈ numberKeys) :
    '.' ∉ key.toList := by
  revert key
  decide

theorem map_name_ofNumber (column : Column) :
    ∃ keys : List String, keys.Sublist numberKeys ∧
      (ofNumber column).map name = keys.map (column.name ++ "." ++ ·) := by
  rw [ofNumber]
  cases column.isMeasureCandidate with
  | false => exact ⟨[], by decide, rfl⟩
  | true =>
    cases column.type.isDecimal with
    | false =>
      refine ⟨["SUM", "min", "max", "avg"], by decide, ?_⟩
      simp [ofAggregation, ofFormula, AggregatedMeasure.ofField, DerivedMeasure.ofFormula,
        DerivedMeasure.ofCalculation, name, Aggregation.measureName, Aggregation.key,
        String.append_assoc]
    | true =>
      refine ⟨numberKeys, by decide, ?_⟩
      simp [ofAggregation, ofFormula, AggregatedMeasure.ofField, DerivedMeasure.ofFormula,
        DerivedMeasure.ofCalculation, name, Aggregation.measureName, Aggregation.key,
        String.append_assoc, numberKeys]

theorem key_of_mem_ofNumber {text : String} (h : text ∈ (ofNumber column).map name) :
    ∃ key ∈ numberKeys, text = column.name ++ "." ++ key := by
  obtain ⟨keys, hkeys, hnames⟩ := map_name_ofNumber column
  rw [hnames] at h
  obtain ⟨key, hkey, rfl⟩ := List.mem_map.mp h
  exact ⟨key, hkeys.subset hkey, rfl⟩

theorem nodup_names_ofNumber (column : Column) : ((ofNumber column).map name).Nodup := by
  obtain ⟨keys, hkeys, hnames⟩ := map_name_ofNumber column
  rw [hnames]
  have hnodup : keys.Nodup := hkeys.nodup (by decide)
  apply hnodup.map_on
  intro key hkey other hother h
  exact (name_split (dot_notMem_of_mem_numberKeys (hkeys.subset hkey))
    (dot_notMem_of_mem_numberKeys (hkeys.subset hother)) h).2

theorem disjoint_names_ofNumber {other : Column} (h : column.name ≠ other.name) :
    ((ofNumber column).map name).Disjoint ((ofNumber other).map name) := by
  intro text htext hother
  obtain ⟨key, hkey, rfl⟩ := key_of_mem_ofNumber htext
  obtain ⟨otherKey, hotherKey, hsplit⟩ := key_of_mem_ofNumber hother
  exact h (name_split (dot_notMem_of_mem_numberKeys hkey)
    (dot_notMem_of_mem_numberKeys hotherKey) hsplit).1

theorem id_split (kind : NativeKind) : ∃ field key : String,
    kind.id = field ++ "." ++ key ∧ '.' ∉ key.toList ∧ key ∉ numberKeys := by
  cases kind with
  | count => exact ⟨"contributors", "COUNT", by decide, by decide, by decide⟩
  | lastUpdate => exact ⟨"update", "TIMESTAMP", by decide, by decide, by decide⟩

theorem id_notMem_ofNumber (kind : NativeKind) (column : Column) :
    kind.id ∉ (ofNumber column).map name := by
  intro h
  obtain ⟨key, hkey, hname⟩ := key_of_mem_ofNumber h
  obtain ⟨field, nativeKey, hid, hdot, hnative⟩ := id_split kind
  have hsplit := name_split hdot (dot_notMem_of_mem_numberKeys hkey) (hid.symm.trans hname)
  exact hnative (hsplit.2 ▸ hkey)

/-- Before the distinct counts, no two measures have one name. -/
theorem nodup_names (h : (columns.map (·.name)).Nodup) :
    ((natives ++ columns.flatMap ofNumber).map name).Nodup := by
  rw [List.map_append, List.map_flatMap]
  apply List.nodup_append'.mpr
  refine ⟨by decide, ?_, ?_⟩
  · apply List.nodup_flatMap.mpr
    exact ⟨fun column _ => nodup_names_ofNumber column,
      (List.pairwise_map.mp h).imp disjoint_names_ofNumber⟩
  · intro text hnative hnumber
    obtain ⟨column, -, hcolumn⟩ := List.mem_flatMap.mp hnumber
    simp only [natives, List.map_cons, List.map_nil, List.mem_pair] at hnative
    rcases hnative with rfl | rfl
    · exact id_notMem_ofNumber .count column hcolumn
    · exact id_notMem_ofNumber .lastUpdate column hcolumn

end Measure

/-- What is looked up under the name of a measure is that measure. -/
theorem Cube.measure?_of_mem {cube : Cube} {columns : List Column}
    (hmeasures : cube.measures = Measure.ofColumns columns)
    (hcolumns : (columns.map (·.name)).Nodup) {measure : Measure}
    (hmeasure : measure ∈ Measure.natives ++ columns.flatMap Measure.ofNumber) :
    cube.measure? measure.name = some measure := by
  have hfirst : (Measure.natives ++ columns.flatMap Measure.ofNumber).find?
      (·.name == measure.name) = some measure :=
    Dictionary.find?_eq_some_of_nodup (Measure.nodup_names hcolumns) hmeasure
  rw [measure?, hmeasures, Measure.ofColumns, List.find?_append, hfirst, Option.some_or]

end OlapSynthesis
