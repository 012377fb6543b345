import OlapSynthesis.Proofs.Generation.Identity
import OlapSynthesis.Proofs.Synthesis.FieldNames
import OlapSynthesis.Proofs.Synthesis.MeasureNames

namespace OlapSynthesis

/-- The measures that a plugin reads for a measure. -/
def Measure.underlying : Measure → List String
  | .derived ⟨_, .external plugin, _, _, _⟩ => plugin.underlying
  | _ => []

namespace Cube

/-- Every aggregate is over a field of the layout. -/
def FieldsIn (cube : Cube) (layout : StoreLayout) : Prop :=
  ∀ measure, .aggregated measure ∈ cube.measures →
    ∃ field ∈ layout.fields, field.name = measure.field

/-- What a plugin reads for a measure stands before that measure. -/
def PluginsReferBack (cube : Cube) : Prop :=
  ∀ (place : Nat) measure, cube.measures[place]? = some measure →
    ∀ name ∈ measure.underlying, ∃ earlier ∈ cube.measures.take place, earlier.name = name

end Cube

namespace Measure

variable {column : Column} {columns : List Column} {measure : Measure}

theorem underlying_of_mem_ofNumber (h : measure ∈ ofNumber column) : measure.underlying = [] := by
  obtain ⟨-, ⟨aggregation, visible, rfl⟩ | ⟨suffix, expression, rfl⟩⟩ := of_mem_ofNumber h
  · rfl
  · rfl

/-- No plugin is synthesized. -/
theorem underlying_of_mem_ofColumns (h : measure ∈ ofColumns columns) :
    measure.underlying = [] := by
  rw [ofColumns, List.mem_append, List.mem_append] at h
  rcases h with (hnative | hnumber) | hcount
  · rcases List.mem_pair.mp hnative with rfl | rfl <;> rfl
  · obtain ⟨column, -, hcolumn⟩ := List.mem_flatMap.mp hnumber
    exact underlying_of_mem_ofNumber hcolumn
  · obtain ⟨column, -, hcolumn⟩ := List.mem_filterMap.mp hcount
    obtain ⟨-, hderived⟩ := Option.ite_none_left_eq_some.mp hcolumn
    obtain rfl := Option.some.inj hderived
    rfl

theorem sum_mem_names_ofNumber (h : column.isMeasureCandidate = true) :
    Aggregation.sum.measureName column.name ∈ (ofNumber column).map name := by
  rw [ofNumber, h]
  exact List.mem_cons_self

/-- Only a column that is measured has a sum. -/
theorem sum_mem_names_iff (field : String) :
    Aggregation.sum.measureName field ∈ (ofColumns columns).map name ↔
      ∃ column ∈ columns, column.name = field ∧ column.isMeasureCandidate = true := by
  constructor
  · intro h
    obtain ⟨measure, hmeasure, hname⟩ := List.mem_map.mp h
    have hdot : '.' ∉ "SUM".toList := by decide
    rw [ofColumns, List.mem_append, List.mem_append] at hmeasure
    rcases hmeasure with (hnative | hnumber) | hcount
    · have hid : ∃ kind : NativeKind, measure.name = kind.id := by
        rcases List.mem_pair.mp hnative with rfl | rfl
        · exact ⟨.count, rfl⟩
        · exact ⟨.lastUpdate, rfl⟩
      obtain ⟨kind, hkind⟩ := hid
      obtain ⟨other, key, hsplit, hkey, hnot⟩ := id_split kind
      obtain ⟨-, rfl⟩ := name_split hkey hdot (hsplit.symm.trans (hkind.symm.trans hname))
      exact absurd (by decide) hnot
    · obtain ⟨column, hcolumn, hmem⟩ := List.mem_flatMap.mp hnumber
      obtain ⟨key, hkey, hsplit⟩ := key_of_mem_ofNumber (List.mem_map_of_mem hmem)
      obtain ⟨hfield, -⟩ :=
        name_split (dot_notMem_of_mem_numberKeys hkey) hdot (hsplit.symm.trans hname)
      refine ⟨column, hcolumn, hfield, ?_⟩
      cases hcandidate : column.isMeasureCandidate with
      | true => rfl
      | false => simp [ofNumber, hcandidate] at hmem
    · obtain ⟨column, -, hcolumn⟩ := List.mem_filterMap.mp hcount
      obtain ⟨-, hkey⟩ :=
        name_split (by decide) hdot ((of_distinctCount? hcolumn).2.symm.trans hname)
      exact absurd hkey (by decide)
  · rintro ⟨column, hcolumn, rfl, hcandidate⟩
    rw [ofColumns, List.map_append, List.map_append, List.map_flatMap]
    apply List.mem_append_left
    apply List.mem_append_right
    exact List.mem_flatMap.mpr ⟨column, hcolumn, sum_mem_names_ofNumber hcandidate⟩

end Measure

namespace StoreSpec

variable {spec : StoreSpec} {parallelism : UInt64} {name : String}

/-- A field whose name has no dot is that of a column. -/
theorem field_iff_column (hdot : '.' ∉ name.toList) (holds : ColumnType → Prop) :
    (∃ field ∈ (spec.outcome parallelism).layout.fields, field.name = name ∧ holds field.type) ↔
      ∃ column ∈ spec.columns, column.name = name ∧ holds column.type := by
  constructor
  · rintro ⟨field, hfield, rfl, htype⟩
    obtain ⟨column, hcolumn, hmem⟩ := List.mem_flatMap.mp hfield
    rcases Column.mem_allFields_iff.mp hmem with rfl | ⟨-, part, rfl⟩
    · exact ⟨column, hcolumn, rfl, htype⟩
    · refine absurd ?_ hdot
      simp [Field.ofDatePart, DatePart.fieldName, String.toList_append]
  · rintro ⟨column, hcolumn, rfl, htype⟩
    exact ⟨Field.ofColumn column, mem_fields_outcome hcolumn column.ofColumn_mem_allFields _, rfl,
      htype⟩

theorem fieldsIn_cube (spec : StoreSpec) (parallelism : UInt64) :
    spec.cube.FieldsIn (spec.outcome parallelism).layout := by
  intro measure hmeasure
  obtain ⟨-, field, hfield, hname, -⟩ := (spec.outcome_supports parallelism).measures measure hmeasure
  exact ⟨field, hfield, hname⟩

theorem pluginsReferBack_cube (spec : StoreSpec) : spec.cube.PluginsReferBack := by
  intro place measure hmeasure name hname
  have hmem : measure ∈ Measure.ofColumns spec.columns :=
    spec.cube_measures ▸ List.mem_of_getElem? hmeasure
  rw [Measure.underlying_of_mem_ofColumns hmem] at hname
  cases hname

/-- The sum of `pnl` is measured if and only if there is a field of that name and it is a number: the
name marks no identifier. -/
theorem pnlSum_mem_iff (spec : StoreSpec) (parallelism : UInt64) :
    "pnl.SUM" ∈ spec.cube.measures.map Measure.name ↔
      ∃ field ∈ (spec.outcome parallelism).layout.fields,
        field.name = "pnl" ∧ field.type.isNumeric = true := by
  have hmeasured : "pnl.SUM" ∈ spec.cube.measures.map Measure.name ↔
      ∃ column ∈ spec.columns, column.name = "pnl" ∧ column.isMeasureCandidate = true := by
    rw [spec.cube_measures]
    exact Measure.sum_mem_names_iff "pnl"
  have hnumber (column : Column) (hname : column.name = "pnl") :
      column.isMeasureCandidate = column.type.isNumeric := by
    have hidentifier : column.isIdentifier = false := by
      rw [Column.isIdentifier, hname]
      decide
    rw [Column.isMeasureCandidate, hidentifier, Bool.not_false, Bool.and_true]
  rw [hmeasured, field_iff_column (by decide) fun type => type.isNumeric = true]
  constructor
  · rintro ⟨column, hcolumn, hname, hcandidate⟩
    exact ⟨column, hcolumn, hname, (hnumber column hname).symm.trans hcandidate⟩
  · rintro ⟨column, hcolumn, hname, hnumeric⟩
    exact ⟨column, hcolumn, hname, (hnumber column hname).trans hnumeric⟩

end StoreSpec

namespace CurrencyCustomization

variable {cube : Cube} {layout : StoreLayout}

theorem measures_extend (cube : Cube) : (extend cube).measures =
    cube.measures ++ [.aggregated pnlMeasure, .derived fxMeasure, .derived groupMeasure] := rfl

theorem extend_ne (cube : Cube) : extend cube ≠ cube := by
  intro h
  have hmeasures := congrArg Cube.measures h
  rw [measures_extend, List.append_right_eq_self] at hmeasures
  cases hmeasures

/-- The only aggregate that is added is over `pnl`. -/
theorem fieldsIn_extend_iff (h : cube.FieldsIn layout) :
    (extend cube).FieldsIn layout ↔ ∃ field ∈ layout.fields, field.name = "pnl" := by
  constructor
  · intro hall
    exact hall pnlMeasure (List.mem_append_right _ List.mem_cons_self)
  · intro hpnl measure hmeasure
    rw [measures_extend, List.mem_append] at hmeasure
    rcases hmeasure with hmeasure | hadded
    · exact h measure hmeasure
    · obtain rfl : measure = pnlMeasure := by simpa using hadded
      exact hpnl

/-- The plugins that are added read `pnl.SUM` only. -/
theorem pluginsReferBack_extend_iff (h : cube.PluginsReferBack) :
    (extend cube).PluginsReferBack ↔ "pnl.SUM" ∈ cube.measures.map Measure.name := by
  have hpnl : Measure.name (.aggregated pnlMeasure) ≠ "pnl.SUM" := by decide
  constructor
  · intro hall
    have hfx : (extend cube).measures[cube.measures.length + 1]? = some (.derived fxMeasure) := by
      rw [measures_extend, List.getElem?_append_right (Nat.le_add_right _ 1), Nat.add_sub_cancel_left]
      rfl
    obtain ⟨earlier, hearlier, hname⟩ := hall _ _ hfx "pnl.SUM" List.mem_cons_self
    rw [measures_extend, List.take_length_add_append, List.mem_append] at hearlier
    rcases hearlier with hmem | hadded
    · exact hname ▸ List.mem_map_of_mem hmem
    · obtain rfl := List.mem_singleton.mp hadded
      exact absurd hname hpnl
  · intro hsum place measure hmeasure name hname
    rw [measures_extend] at hmeasure ⊢
    rcases Nat.lt_or_ge place cube.measures.length with hlt | hle
    · rw [List.getElem?_append_left hlt] at hmeasure
      obtain ⟨earlier, hearlier, hfound⟩ := h place measure hmeasure name hname
      exact ⟨earlier, by rwa [List.take_append_of_le_length (Nat.le_of_lt hlt)], hfound⟩
    · rw [List.getElem?_append_right hle] at hmeasure
      have hread : name = "pnl.SUM" := by
        have hadded := List.mem_of_getElem? hmeasure
        simp only [List.mem_cons, List.not_mem_nil, or_false] at hadded
        rcases hadded with rfl | rfl | rfl
        · cases hname
        · exact List.mem_singleton.mp hname
        · exact List.mem_singleton.mp hname
      obtain ⟨earlier, hearlier, hfound⟩ := List.mem_map.mp hsum
      refine ⟨earlier, ?_, hfound.trans hread.symm⟩
      rw [List.take_append, List.take_of_length_le hle]
      exact List.mem_append_left _ hearlier

end CurrencyCustomization

namespace Configuration

open Generation

variable {survey : Survey} {processors : UInt64} {configuration : Configuration} {model : Model}

/-- Every cube of a model is that of a spec, and the store of its name has the layout of that spec. -/
theorem exists_spec_of_cube (h : configuration.generate survey processors = .ok model)
    {schema : CubeSchema} (hschema : schema ∈ model.manager.schemas) {cube : Cube}
    (hcube : cube ∈ schema.cubes) :
    ∃ spec : StoreSpec, cube = withCurrency configuration.currencyStore spec.name spec.cube ∧
      model.datastore.store? spec.name =
        some (spec.outcome (configuration.general.effectiveParallelism processors)).layout := by
  obtain ⟨-, hfailures, rfl⟩ := generate_eq_ok_iff.mp h
  obtain ⟨hprimaries, -⟩ := List.append_eq_nil_iff.mp hfailures
  have hidentifies := identifies_modelOf configuration.customizations processors hfailures
  have hnodup : ((modelOf configuration.customizations survey processors
      configuration).datastore.stores.map (·.name)).Nodup :=
    hidentifies.stores ▸ hidentifies.distinct
  rw [modelOf_eq processors hprimaries] at hschema hnodup ⊢
  obtain ⟨entry, hentry, rfl⟩ := List.mem_map.mp hschema
  obtain rfl := List.mem_singleton.mp hcube
  obtain ⟨found, -, rfl⟩ := List.mem_map.mp hentry
  refine ⟨found.2, rfl, ?_⟩
  have hpart : partOf (sharedOf processors configuration) found.1 found.2 ∈
      (primaryEntries survey (sharedOf processors configuration) configuration.currencyStore
        configuration.sources.entries).map (·.part) ++
        referenceParts survey (sharedOf processors configuration)
          configuration.references.entries :=
    List.mem_append_left _ (List.mem_map_of_mem (f := PrimaryEntry.part) hentry)
  exact Dictionary.find?_eq_some_of_nodup hnodup (List.mem_map_of_mem hpart)

/-- In a model every cube only refers to what is there: its aggregates are over fields of the store of
its name, and its plugins read measures before them. The exception is the cube that the currency
customization extends. There the aggregate that is added has its field exactly if the store has a field
`pnl`, and what the plugins read is there exactly if that is a number. -/
theorem references_resolve (h : configuration.generate survey processors = .ok model) :
    ∀ schema ∈ model.manager.schemas, ∀ cube ∈ schema.cubes,
      ∃ layout, model.datastore.store? cube.name = some layout ∧
        (configuration.customizedStore? ≠ some cube.name →
          cube.FieldsIn layout ∧ cube.PluginsReferBack) ∧
        (configuration.customizedStore? = some cube.name →
          (∀ measure, .aggregated measure ∈ cube.measures →
            measure ≠ CurrencyCustomization.pnlMeasure →
              ∃ field ∈ layout.fields, field.name = measure.field) ∧
          (cube.FieldsIn layout ↔ ∃ field ∈ layout.fields, field.name = "pnl") ∧
          (cube.PluginsReferBack ↔
            ∃ field ∈ layout.fields, field.name = "pnl" ∧ field.type.isNumeric = true)) := by
  intro schema hschema cube hcube
  obtain ⟨spec, rfl, hstore⟩ := exists_spec_of_cube h hschema hcube
  rw [withCurrency_eq]
  let layout := (spec.outcome (configuration.general.effectiveParallelism processors)).layout
  have hfields : spec.cube.FieldsIn layout := spec.fieldsIn_cube _
  by_cases hchosen : configuration.customizedStore? = some spec.name
  · rw [if_pos hchosen]
    refine ⟨layout, hstore, fun hnot => absurd hchosen hnot, fun _ => ⟨?_, ?_, ?_⟩⟩
    · intro measure hmeasure hne
      rw [CurrencyCustomization.measures_extend, List.mem_append] at hmeasure
      rcases hmeasure with hmeasure | hadded
      · exact hfields measure hmeasure
      · exact absurd (by simpa using hadded) hne
    · exact CurrencyCustomization.fieldsIn_extend_iff hfields
    · rw [CurrencyCustomization.pluginsReferBack_extend_iff spec.pluginsReferBack_cube]
      exact spec.pnlSum_mem_iff _
  · rw [if_neg hchosen]
    exact ⟨layout, hstore, fun _ => ⟨hfields, spec.pluginsReferBack_cube⟩,
      fun hsome => absurd hsome hchosen⟩

/-- The profit and loss of one of two stores is in several currencies. -/
theorem references_resolve_with_pnl :
    let survey : Survey :=
      ⟨fun store _ => .found ⟨store, ';', [⟨"pnl", .double⟩, ⟨"ccy", .string⟩], none⟩,
        fun _ _ => .found []⟩
    let configuration : Configuration :=
      { Configuration.default with sources := .ofList [("risks", .default), ("trades", .default)] }
    ∃ model, configuration.generate survey 8 = .ok model ∧
      ∀ schema ∈ model.manager.schemas, ∀ cube ∈ schema.cubes,
        ∃ layout, model.datastore.store? cube.name = some layout ∧ cube.FieldsIn layout ∧
          cube.PluginsReferBack := by
  intro survey configuration
  have hpnl : ∃ model, configuration.generate survey 8 = .ok model ∧
      ∃ layout, model.datastore.store? "risks" = some layout ∧
        ∃ field ∈ layout.fields, field.name = "pnl" ∧ field.type.isNumeric = true := by
    rw [generate, generateWith_eq]
    exact ⟨_, rfl, _, rfl, Field.ofColumn ⟨"pnl", .double⟩, List.mem_cons_self, rfl, rfl⟩
  obtain ⟨model, hmodel, risks, hrisks, field, hfield, hname, hnumeric⟩ := hpnl
  refine ⟨model, hmodel, ?_⟩
  intro schema hschema cube hcube
  obtain ⟨layout, hlayout, hother, hcustomized⟩ :=
    references_resolve hmodel schema hschema cube hcube
  refine ⟨layout, hlayout, ?_⟩
  by_cases hchosen : configuration.customizedStore? = some cube.name
  · obtain ⟨-, hfields, hplugins⟩ := hcustomized hchosen
    have hdefault : configuration.customizedStore? = some "risks" := by decide
    have hrisksCube : cube.name = "risks" := Option.some.inj (hchosen.symm.trans hdefault)
    obtain rfl : layout = risks := Option.some.inj (hlayout.symm.trans (hrisksCube ▸ hrisks))
    exact ⟨hfields.mpr ⟨field, hfield, hname⟩, hplugins.mpr ⟨field, hfield, hname, hnumeric⟩⟩
  · exact hother hchosen

/-- A store that the customization is for has no profit and loss at all. -/
theorem references_dangle_without_pnl :
    let survey : Survey :=
      ⟨fun store _ => .found ⟨store, ';', [⟨"ccy", .string⟩], none⟩, fun _ _ => .found []⟩
    let configuration : Configuration :=
      { Configuration.default with sources := .ofList [("risks", .default)] }
    ∃ model, configuration.generate survey 8 = .ok model ∧
      ∃ schema ∈ model.manager.schemas, ∃ cube ∈ schema.cubes,
        ∃ layout, model.datastore.store? cube.name = some layout ∧ ¬ cube.FieldsIn layout ∧
          ¬ cube.PluginsReferBack := by
  intro survey configuration
  let spec : StoreSpec := ⟨"risks", none, [⟨"ccy", .string⟩], none, .justInTime, by simp, by decide⟩
  let layout : SourceLayout := ⟨"risks", ';', spec.columns, none⟩
  have hfound : foundIn survey configuration.sources.entries = [(layout, spec)] := rfl
  have hcharset : (Charset.resolve configuration.general.charset).2 = none := by decide
  have hmodel : modelOf configuration.customizations survey 8 configuration =
      .ofEntries [] [⟨partOf (sharedOf 8 configuration) layout spec,
        withCurrency configuration.currencyStore spec.name spec.cube⟩] [] := by
    rw [modelOf_eq 8 rfl, hcharset, primaryEntries, hfound]
    rfl
  refine ⟨_, generate_eq_ok_iff.mpr ⟨rfl, rfl, hmodel⟩, _, List.mem_cons_self,
    CurrencyCustomization.extend spec.cube, ?_, (spec.outcome 8).layout, rfl, ?_, ?_⟩
  · rw [withCurrency_eq, if_pos (by decide)]
    exact List.mem_cons_self
  · rw [CurrencyCustomization.fieldsIn_extend_iff (spec.fieldsIn_cube 8)]
    decide
  · rw [CurrencyCustomization.pluginsReferBack_extend_iff spec.pluginsReferBack_cube]
    decide

end Configuration

end OlapSynthesis
