import OlapSynthesis.Proofs.Formula.Resolution

namespace OlapSynthesis.Measure

variable {column other : Column} {columns : List Column} {measure : Measure}

theorem of_distinctCount? (h : distinctCount? column = some measure) :
    column.isDimensionCandidate = true ∧ measure.name = column.name ++ "." ++ "COUNT" := by
  obtain ⟨hcandidate, hderived⟩ := Option.ite_none_left_eq_some.mp h
  obtain rfl := Option.some.inj hderived
  have hname : column.name ++ "." ++ "COUNT" = column.name ++ ".COUNT" := by
    rw [String.append_assoc]
    rfl
  exact ⟨by simpa using hcandidate, hname.symm⟩

theorem exists_distinctCount (h : column.isDimensionCandidate = true) :
    ∃ measure, distinctCount? column = some measure := by
  rw [distinctCount?, h]
  exact ⟨_, rfl⟩

/-- Distinct counts of different columns have different names. -/
theorem nodup_names_distinctCounts (h : (columns.map (·.name)).Nodup) :
    ((columns.filterMap distinctCount?).map name).Nodup := by
  rw [List.Nodup, List.pairwise_map, List.pairwise_filterMap]
  refine (List.pairwise_map.mp h).imp ?_
  intro column other hne measure hmeasure otherMeasure hother heq
  rw [(of_distinctCount? hmeasure).2, (of_distinctCount? hother).2] at heq
  exact hne (name_split (by decide) (by decide) heq).1

theorem name_distinctCount_notMem_ofNumber (h : distinctCount? column = some measure)
    (other : Column) : measure.name ∉ (ofNumber other).map name := by
  rw [(of_distinctCount? h).2]
  intro hmem
  obtain ⟨key, hkey, hname⟩ := key_of_mem_ofNumber hmem
  obtain ⟨-, rfl⟩ := name_split (by decide) (dot_notMem_of_mem_numberKeys hkey) hname
  exact absurd hkey (by decide)

/-- Of the native measures a distinct count can only have the name of the number of records. -/
theorem name_distinctCount_eq_id_iff (h : distinctCount? column = some measure)
    (kind : NativeKind) :
    measure.name = kind.id ↔ kind = .count ∧ column.name = "contributors" := by
  rw [(of_distinctCount? h).2]
  constructor
  · intro hname
    cases kind with
    | count =>
      have hid : NativeKind.count.id = "contributors" ++ "." ++ "COUNT" := by decide
      exact ⟨rfl, (name_split (by decide) (by decide) (hname.trans hid)).1⟩
    | lastUpdate =>
      have hid : NativeKind.lastUpdate.id = "update" ++ "." ++ "TIMESTAMP" := by decide
      have hkey := (name_split (by decide) (by decide) (hname.trans hid)).2
      exact absurd hkey (by decide)
  · rintro ⟨rfl, hname⟩
    rw [hname]
    decide

/-- The name of a distinct count is that of a measure before the distinct counts only if its column
is called `contributors`. -/
theorem name_distinctCount_mem_iff (h : distinctCount? column = some measure)
    (columns : List Column) :
    measure.name ∈ (natives ++ columns.flatMap ofNumber).map name ↔
      column.name = "contributors" := by
  have hnatives : natives.map name = [NativeKind.count.id, NativeKind.lastUpdate.id] := rfl
  rw [List.map_append, List.mem_append, hnatives, List.mem_pair,
    name_distinctCount_eq_id_iff h, name_distinctCount_eq_id_iff h, List.map_flatMap]
  constructor
  · rintro ((⟨-, hname⟩ | ⟨hkind, -⟩) | hnumber)
    · exact hname
    · cases hkind
    · obtain ⟨other, -, hother⟩ := List.mem_flatMap.mp hnumber
      exact absurd hother (name_distinctCount_notMem_ofNumber h other)
  · intro hname
    exact .inl (.inl ⟨rfl, hname⟩)

theorem nodup_names_ofColumns_iff (hcolumns : (columns.map (·.name)).Nodup) :
    ((ofColumns columns).map name).Nodup ↔
      ∀ column ∈ columns, column.isDimensionCandidate = true → column.name ≠ "contributors" := by
  rw [ofColumns, List.map_append, List.nodup_append']
  constructor
  · rintro ⟨-, -, hdisjoint⟩ column hcolumn hcandidate hname
    obtain ⟨measure, hmeasure⟩ := exists_distinctCount hcandidate
    apply hdisjoint ((name_distinctCount_mem_iff hmeasure columns).mpr hname)
    exact List.mem_map_of_mem (List.mem_filterMap.mpr ⟨column, hcolumn, hmeasure⟩)
  · intro hnone
    refine ⟨nodup_names hcolumns, nodup_names_distinctCounts hcolumns, ?_⟩
    intro text hearlier hcount
    obtain ⟨measure, hmem, rfl⟩ := List.mem_map.mp hcount
    obtain ⟨column, hcolumn, hmeasure⟩ := List.mem_filterMap.mp hmem
    exact hnone column hcolumn (of_distinctCount? hmeasure).1
      ((name_distinctCount_mem_iff hmeasure columns).mp hearlier)

/-- A measure is found under its name unless it is the distinct count of a column called
`contributors`. -/
theorem measure?_name_iff {cube : Cube} (hmeasures : cube.measures = ofColumns columns)
    (hcolumns : (columns.map (·.name)).Nodup) (hmeasure : measure ∈ ofColumns columns) :
    cube.measure? measure.name = some measure ↔
      ¬ ∃ column ∈ columns, column.name = "contributors" ∧ distinctCount? column = some measure := by
  constructor
  · rintro hfound ⟨column, -, hname, hcount⟩
    have hnative : cube.measure? NativeKind.count.id = natives.head? :=
      Cube.measure?_of_mem hmeasures hcolumns (List.mem_append_left _ List.mem_cons_self)
    rw [(name_distinctCount_eq_id_iff hcount .count).mpr ⟨rfl, hname⟩, hnative] at hfound
    obtain rfl := Option.some.inj hfound
    obtain ⟨-, hderived⟩ := Option.ite_none_left_eq_some.mp hcount
    cases hderived
  · intro hnone
    rw [ofColumns, List.mem_append] at hmeasure
    rcases hmeasure with hearlier | hmem
    · exact Cube.measure?_of_mem hmeasures hcolumns hearlier
    · obtain ⟨column, hcolumn, hcount⟩ := List.mem_filterMap.mp hmem
      have hearlier : (natives ++ columns.flatMap ofNumber).find? (·.name == measure.name) = none := by
        rw [List.find?_eq_none]
        intro other hother heq
        apply hnone
        refine ⟨column, hcolumn, ?_, hcount⟩
        rw [← name_distinctCount_mem_iff hcount columns]
        exact List.mem_map.mpr ⟨other, hother, eq_of_beq heq⟩
      rw [Cube.measure?, hmeasures, ofColumns, List.find?_append, hearlier, Option.none_or]
      exact Dictionary.find?_eq_some_of_nodup (nodup_names_distinctCounts hcolumns) hmem

/-- The measures over columns with different names have different names, unless a column called
`contributors` has a distinct count; and apart from that count each measure is found under its
name. -/
theorem names_identify (hcolumns : (columns.map (·.name)).Nodup) :
    (((ofColumns columns).map name).Nodup ↔
      ∀ column ∈ columns, column.isDimensionCandidate = true → column.name ≠ "contributors") ∧
    ∀ cube : Cube, cube.measures = ofColumns columns → ∀ measure ∈ cube.measures,
      (cube.measure? measure.name = some measure ↔
        ¬ ∃ column ∈ columns,
          column.name = "contributors" ∧ distinctCount? column = some measure) := by
  refine ⟨nodup_names_ofColumns_iff hcolumns, ?_⟩
  intro cube hmeasures measure hmeasure
  exact measure?_name_iff hmeasures hcolumns (hmeasures ▸ hmeasure)

/-- A number called `contributors` has no distinct count; and a column may be called like the
distinct count of another. -/
theorem names_identify_despite_contributors :
    let columns : List Column :=
      [⟨"contributors", .double⟩, ⟨"desk", .string⟩, ⟨"desk.COUNT", .int⟩]
    let cube := (Cube.ofStore "trades").addMeasures (ofColumns columns)
    (columns.map (·.name)).Nodup ∧ (cube.measures.map name).Nodup ∧
      ∀ measure ∈ cube.measures, cube.measure? measure.name = some measure := by
  intro columns cube
  have hcolumns : (columns.map (·.name)).Nodup := by decide
  have hnumber : ∀ column ∈ columns, column.isDimensionCandidate = true →
      column.name ≠ "contributors" := by decide
  obtain ⟨hdistinct, hfound⟩ := names_identify hcolumns
  refine ⟨hcolumns, hdistinct.mpr hnumber, ?_⟩
  intro measure hmeasure
  rw [hfound cube rfl measure hmeasure]
  rintro ⟨column, hcolumn, hname, hcount⟩
  exact hnumber column hcolumn (of_distinctCount? hcount).1 hname

/-- The distinct count of a column called `contributors` has the name of the number of records, and
under that name the number of records is found. -/
theorem names_identify_fails_for_contributors :
    let columns : List Column := [⟨"contributors", .string⟩]
    let cube := (Cube.ofStore "trades").addMeasures (ofColumns columns)
    (columns.map (·.name)).Nodup ∧
      (∀ column ∈ columns, Text.isBlank column.name = false) ∧
      ¬ (cube.measures.map name).Nodup ∧
      ∃ measure ∈ cube.measures, cube.measure? measure.name ≠ some measure := by
  intro columns cube
  exact ⟨by decide, by decide, by decide, by decide⟩

end OlapSynthesis.Measure
