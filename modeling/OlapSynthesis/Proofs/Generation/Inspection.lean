import OlapSynthesis.Inspection
import OlapSynthesis.Proofs.Discovery.Listing
import OlapSynthesis.Proofs.Generation.Currency
import OlapSynthesis.Proofs.Text

namespace OlapSynthesis

open Generation

theorem Inspection.column?_append {name tag : String} (hname : Text.trim name = name)
    (named : name ≠ "") (hcolon : ':' ∉ name.toList) (htag : Text.trim tag = tag)
    (tagged : tag ≠ "") : Inspection.column? (name ++ ":" ++ tag) = some (name, tag) := by
  have hcut : Text.cut? ':' (name ++ ":" ++ tag) = some (name, tag) :=
    Text.cut?_eq_some (by simp) hcolon
  have hnameBlank := Text.isBlank_of_trim_eq_self hname named
  have htagBlank := Text.isBlank_of_trim_eq_self htag tagged
  simp [column?, hcut, hnameBlank, htagBlank, hname, htag]

theorem StoreSpec.ofLayout_eq_ok_iff {name : String} {layout : SourceLayout} {policy : StorePolicy}
    {spec : StoreSpec} (named : ∀ column ∈ layout.columns, Text.isBlank column.name = false) :
    ofLayout name layout policy = .ok spec ↔
      ∃ b, layout.columns.foldlM Builder.addColumn ((builder name).withPolicy policy) = .ok b ∧
        b.build = .ok spec := by
  have hvalid : layout.validate = .ok () := SourceLayout.validate_eq_ok_iff.mpr named
  have hofLayout : ofLayout name layout policy =
      (layout.columns.foldlM Builder.addColumn ((builder name).withPolicy policy)).mapError .column
        >>= Builder.build := by
    rw [ofLayout, hvalid]
    rfl
  rw [hofLayout]
  constructor
  · intro h
    obtain ⟨b, hb, hbuild⟩ := exists_of_bind_eq_ok h
    exact ⟨b, exists_of_mapError_eq_ok hb, hbuild⟩
  · rintro ⟨b, hb, hbuild⟩
    rw [hb]
    exact hbuild

namespace Inspection

variable {inspection : Inspection} {columns : List (String × String)}

theorem addColumn_eq_ok_iff {b b' : StoreSpec.Builder} {column : String × String} :
    addColumn b column = .ok b' ↔
      ∃ parsed, Column.parse column.1 column.2 = .ok parsed ∧ b.addColumn parsed = .ok b' := by
  constructor
  · intro h
    exact exists_of_bind_eq_ok (exists_of_mapError_eq_ok h)
  · rintro ⟨parsed, hparse, hadd⟩
    rw [addColumn, StoreSpec.Builder.addTagged, hparse, ok_bind, hadd]
    rfl

/-- Columns are added one by one as they are parsed, or all of them after that. -/
theorem foldlM_addColumn_eq_ok_iff {b b' : StoreSpec.Builder} :
    columns.foldlM addColumn b = .ok b' ↔
      ∃ parsed, Column.ParseTo columns parsed ∧
        parsed.foldlM StoreSpec.Builder.addColumn b = .ok b' := by
  induction columns generalizing b with
  | nil =>
    constructor
    · intro h
      cases h
      exact ⟨[], .nil, rfl⟩
    · rintro ⟨parsed, hparsed, h⟩
      cases hparsed
      cases h
      rfl
  | cons column columns ih =>
    rw [List.foldlM_cons]
    constructor
    · intro h
      obtain ⟨next, hcolumn, hcolumns⟩ := exists_of_bind_eq_ok h
      obtain ⟨first, hfirst, hadd⟩ := addColumn_eq_ok_iff.mp hcolumn
      obtain ⟨rest, hrest, hfold⟩ := ih.mp hcolumns
      refine ⟨first :: rest, .cons hfirst hrest, ?_⟩
      rw [List.foldlM_cons, hadd]
      exact hfold
    · rintro ⟨parsed, hparsed, h⟩
      cases hparsed with
      | cons hfirst hrest =>
        rw [List.foldlM_cons] at h
        obtain ⟨next, hadd, hfold⟩ := exists_of_bind_eq_ok h
        rw [addColumn_eq_ok_iff.mpr ⟨_, hfirst, hadd⟩]
        exact ih.mpr ⟨_, hrest, hfold⟩

theorem blankSpec_eq (inspection : Inspection) :
    inspection.blankSpec = (StoreSpec.builder inspection.store).withPolicy inspection.policy := by
  obtain ⟨store, columns, ⟨partitionField, cacheSize, aggregateMode⟩, parallelism⟩ := inspection
  cases partitionField <;> rfl

/-- The store is shown as soon as there is a spec of it, and shown as that describes it. -/
theorem report_eq_ok_iff {report : InspectionReport} {processors : UInt64} :
    inspection.report processors = .ok report ↔
      ∃ spec, inspection.spec = .ok spec ∧
        report = ⟨spec.outcome (inspection.effectiveParallelism processors), spec.cube⟩ := by
  have hreport {spec : StoreSpec} (hspec : inspection.spec = .ok spec) :
      inspection.report processors =
        .ok ⟨spec.outcome (inspection.effectiveParallelism processors), spec.cube⟩ := by
    have hcube : (spec.register .empty).cube? spec.name = some spec.cube :=
      Registry.cube?_register_of_none rfl
    rw [Inspection.report, hspec, ok_bind, StoreSpec.synthesize_eq]
    simp only [Except.mapError, ok_bind, hcube]
    rfl
  constructor
  · intro h
    obtain ⟨spec, hspec, -⟩ := exists_of_bind_eq_ok h
    exact ⟨spec, hspec, Except.ok.inj (h.symm.trans (hreport hspec))⟩
  · rintro ⟨spec, hspec, rfl⟩
    exact hreport hspec

end Inspection

/-- The manifest of a source lists some columns. -/
def Discovery.Lists (discovery : Discovery) (name : String) (source : SourceSettings)
    (columns : List (String × String)) : Prop :=
  ∃ path text manifest, discovery.template name source = .ok path ∧
    discovery.files.readText? (discovery.resolve path) = some text ∧
    Manifest.ofText? text = some manifest ∧ manifest.columns = columns

namespace Discovery.Lists

variable {discovery : Discovery} {name : String} {source : SourceSettings}
  {columns : List (String × String)}

/-- The layout of the source has exactly the columns that are listed. -/
theorem exists_layout_iff (h : discovery.Lists name source columns) {parsed : List Column} :
    (∃ layout, discovery.layout name source = .ok layout ∧ layout.columns = parsed) ↔
      Column.ParseTo columns parsed := by
  obtain ⟨path, text, manifest, htemplate, hreadable, hvalid, rfl⟩ := h
  let stem := Path.stem (discovery.resolve path)
  have hlayout (layout : SourceLayout) : discovery.layout name source = .ok layout ↔
      ∃ found, SourceLayout.ofTags stem manifest.separator manifest.columns = .ok found ∧
        found.withOrigin (discovery.resolve path) = layout := by
    simp only [Discovery.layout, htemplate, ok_bind, read, hreadable, hvalid]
    cases SourceLayout.ofTags stem manifest.separator manifest.columns <;> simp
  rw [Column.ParseTo, ← mapM_eq_ok_iff]
  constructor
  · rintro ⟨layout, h, rfl⟩
    obtain ⟨found, hfound, rfl⟩ := (hlayout layout).mp h
    obtain ⟨columns, hcolumns, hfound⟩ := exists_of_bind_eq_ok hfound
    cases hfound
    exact hcolumns
  · intro h
    have hfound : SourceLayout.ofTags stem manifest.separator manifest.columns =
        .ok ⟨stem, manifest.separator, parsed, none⟩ := by
      change (manifest.columns.mapM fun column => Column.parse column.1 column.2) >>= _ = _
      rw [h]
      rfl
    exact ⟨_, (hlayout _).mpr ⟨_, hfound, rfl⟩, rfl⟩

end Discovery.Lists

/-- A store is looked at as it would be specified in a run over a source whose manifest lists its
columns. -/
theorem Inspection.spec_eq_ok_iff {inspection : Inspection} {discovery : Discovery}
    {source : SourceSettings} {spec : StoreSpec}
    (h : discovery.Lists inspection.store source inspection.columns) :
    inspection.spec = .ok spec ↔
      ∃ layout, discovery.layout inspection.store source = .ok layout ∧
        StoreSpec.ofLayout inspection.store layout inspection.policy = .ok spec := by
  constructor
  · intro hspec
    obtain ⟨b, hcolumns, hbuild⟩ := exists_of_bind_eq_ok hspec
    obtain ⟨parsed, hparsed, hfold⟩ := foldlM_addColumn_eq_ok_iff.mp hcolumns
    obtain ⟨layout, hlayout, rfl⟩ := h.exists_layout_iff.mpr hparsed
    rw [blankSpec_eq] at hfold
    exact ⟨layout, hlayout, (StoreSpec.ofLayout_eq_ok_iff hparsed.named).mpr
      ⟨b, hfold, exists_of_mapError_eq_ok hbuild⟩⟩
  · rintro ⟨layout, hlayout, hspec⟩
    have hparsed := h.exists_layout_iff.mp ⟨layout, hlayout, rfl⟩
    obtain ⟨b, hfold, hbuild⟩ := (StoreSpec.ofLayout_eq_ok_iff hparsed.named).mp hspec
    have hcolumns : inspection.columns.foldlM addColumn inspection.blankSpec = .ok b := by
      rw [blankSpec_eq]
      exact foldlM_addColumn_eq_ok_iff.mpr ⟨_, hparsed, hfold⟩
    rw [Inspection.spec, hcolumns, ok_bind, hbuild]
    rfl

namespace Generation

theorem Search.of_eq_found_iff {survey : Survey} {entry : String × SourceSettings}
    {layout : SourceLayout} {spec : StoreSpec} :
    Search.of survey entry = .found layout spec ↔
      survey.primary entry.1 entry.2 = .found layout ∧
        StoreSpec.ofLayout entry.1 layout entry.2.policy = .ok spec := by
  unfold Search.of
  constructor
  · intro h
    split at h
    · cases h
    · cases h
    next found hfound =>
      split at h
      next hspec =>
        cases h
        exact ⟨hfound, hspec⟩
      · cases h
  · rintro ⟨hfound, hspec⟩
    simp only [hfound, hspec]

end Generation

namespace Configuration

variable {configuration : Configuration} {survey : Survey} {processors : UInt64} {model : Model}

/-- A run over one source only fails if that source does. -/
theorem generate_single_eq_ok_iff {entry : String × SourceSettings}
    (hsources : configuration.sources.entries = [entry])
    (hreferences : configuration.references.entries = []) :
    configuration.generate survey processors = .ok model ↔
      ∃ layout spec, Search.of survey entry = .found layout spec ∧
        model = .ofEntries (Charset.resolve configuration.general.charset).2.toList
          [⟨partOf (sharedOf processors configuration) layout spec,
            withCurrency configuration.currencyStore spec.name spec.cube⟩] [] := by
  have hcrashes : crashesUnawaited survey configuration.sources.entries = false := by
    rw [hsources]
    simp [crashesUnawaited]
  have hfailures : configuration.failures survey = [] ↔
      ∃ layout spec, Search.of survey entry = .found layout spec := by
    rw [failures, hsources, hreferences]
    constructor
    · intro h
      apply exists_found_of_failure?
      simpa [referenceFailures] using h
    · rintro ⟨layout, spec, hfound⟩
      simp [failure?, hfound, Search.failure?, referenceFailures]
  have hmodel {layout : SourceLayout} {spec : StoreSpec}
      (hfound : Search.of survey entry = .found layout spec) :
      modelOf configuration.customizations survey processors configuration =
        .ofEntries (Charset.resolve configuration.general.charset).2.toList
          [⟨partOf (sharedOf processors configuration) layout spec,
            withCurrency configuration.currencyStore spec.name spec.cube⟩] [] := by
    have hnone : configuration.sources.entries.filterMap (failure? survey) = [] := by
      simp [hsources, failure?, hfound, Search.failure?]
    rw [modelOf_eq processors hnone, primaryEntries, foundIn, hsources, hreferences]
    simp only [List.filterMap_cons, hfound]
    rfl
  rw [generate_eq_ok_iff]
  constructor
  · rintro ⟨-, hnone, rfl⟩
    obtain ⟨layout, spec, hfound⟩ := hfailures.mp hnone
    exact ⟨layout, spec, hfound, hmodel hfound⟩
  · rintro ⟨layout, spec, hfound, rfl⟩
    exact ⟨hcrashes, hfailures.mpr ⟨layout, spec, hfound⟩, hmodel hfound⟩

end Configuration

namespace Inspection

/-- A configuration of nothing but the store of an inspection, in a known charset. -/
structure ConfiguredBy (inspection : Inspection) (configuration : Configuration)
    (source : SourceSettings) : Prop where
  sources : configuration.sources = .ofList [(inspection.store, source)]
  references : configuration.references = ∅
  policy : source.policy = inspection.policy
  parallelism : configuration.general.parallelism = inspection.parallelism
  charset : ∃ name, Charset.canonical? (Text.trim configuration.general.charset) = some name

namespace ConfiguredBy

variable {inspection : Inspection} {configuration : Configuration} {source : SourceSettings}

theorem effectiveParallelism_eq (configured : inspection.ConfiguredBy configuration source)
    (processors : UInt64) : configuration.general.effectiveParallelism processors =
      inspection.effectiveParallelism processors := by
  rw [GeneralSettings.effectiveParallelism, configured.parallelism]
  rfl

theorem resolve_charset (configured : inspection.ConfiguredBy configuration source) :
    (Charset.resolve configuration.general.charset).2 = none := by
  obtain ⟨name, hname⟩ := configured.charset
  simp only [Charset.resolve, hname]

/-- The run has a model exactly if there is a layout and a spec of the store. -/
theorem generate_eq_ok_iff (configured : inspection.ConfiguredBy configuration source)
    {discovery : Discovery} {processors : UInt64} {model : Model} :
    configuration.generate discovery.survey processors = .ok model ↔
      ∃ layout spec, discovery.layout inspection.store source = .ok layout ∧
        StoreSpec.ofLayout inspection.store layout inspection.policy = .ok spec ∧
        model = .ofEntries [] [⟨partOf (sharedOf processors configuration) layout spec,
          withCurrency configuration.currencyStore spec.name spec.cube⟩] [] := by
  have hsources : configuration.sources.entries = [(inspection.store, source)] := by
    rw [configured.sources]
    rfl
  have hreferences : configuration.references.entries = [] := by
    rw [configured.references]
    rfl
  have hfound {layout : SourceLayout} {spec : StoreSpec} :
      Search.of discovery.survey (inspection.store, source) = .found layout spec ↔
        discovery.layout inspection.store source = .ok layout ∧
          StoreSpec.ofLayout inspection.store layout inspection.policy = .ok spec := by
    rw [Search.of_eq_found_iff, configured.policy]
    exact and_congr_left fun _ => Finding.of_eq_found_iff
  rw [Configuration.generate_single_eq_ok_iff hsources hreferences, configured.resolve_charset]
  constructor
  · rintro ⟨layout, spec, hsearch, rfl⟩
    obtain ⟨hlayout, hofLayout⟩ := hfound.mp hsearch
    exact ⟨layout, spec, hlayout, hofLayout, rfl⟩
  · rintro ⟨layout, spec, hlayout, hofLayout, rfl⟩
    exact ⟨layout, spec, hfound.mpr ⟨hlayout, hofLayout⟩, rfl⟩

variable {discovery : Discovery} {processors : UInt64}

theorem succeeds_iff (configured : inspection.ConfiguredBy configuration source)
    (listed : discovery.Lists inspection.store source inspection.columns) :
    (∃ report, inspection.report processors = .ok report) ↔
      ∃ model, configuration.generate discovery.survey processors = .ok model := by
  constructor
  · rintro ⟨report, hreport⟩
    obtain ⟨spec, hspec, -⟩ := report_eq_ok_iff.mp hreport
    obtain ⟨layout, hlayout, hofLayout⟩ := (spec_eq_ok_iff listed).mp hspec
    exact ⟨_, configured.generate_eq_ok_iff.mpr ⟨layout, spec, hlayout, hofLayout, rfl⟩⟩
  · rintro ⟨model, hmodel⟩
    obtain ⟨layout, spec, hlayout, hofLayout, -⟩ := configured.generate_eq_ok_iff.mp hmodel
    have hspec := (spec_eq_ok_iff listed).mpr ⟨layout, hlayout, hofLayout⟩
    exact ⟨_, report_eq_ok_iff.mpr ⟨spec, hspec, rfl⟩⟩

/-- The model holds what the inspection shows, but for the currency customization. -/
theorem model_eq (configured : inspection.ConfiguredBy configuration source)
    (listed : discovery.Lists inspection.store source inspection.columns)
    {report : InspectionReport} (hreport : inspection.report processors = .ok report)
    {model : Model} (hmodel : configuration.generate discovery.survey processors = .ok model) :
    model.datastore.stores = [report.outcome.layout] ∧
      model.manager.schemas = [CubeSchema.ofStore inspection.store report.outcome.selection
        (withCurrency configuration.currencyStore inspection.store report.cube)] ∧
      model.warnings = report.outcome.warnings := by
  obtain ⟨spec, hspec, rfl⟩ := report_eq_ok_iff.mp hreport
  obtain ⟨layout, found, hlayout, hofLayout, rfl⟩ := configured.generate_eq_ok_iff.mp hmodel
  -- both commands have the same spec
  have hfound := (spec_eq_ok_iff listed).mpr ⟨layout, hlayout, hofLayout⟩
  obtain rfl : spec = found := Except.ok.inj (hspec.symm.trans hfound)
  have hname : spec.name = inspection.store := StoreSpec.name_of_ofLayout hofLayout
  have hshared : (sharedOf processors configuration).parallelism =
      inspection.effectiveParallelism processors :=
    configured.effectiveParallelism_eq processors
  rw [← hshared, ← hname]
  simp [Model.ofEntries, partOf, SourceLayout.binding]

end ConfiguredBy

/-- An inspection succeeds exactly if a run does over a source whose manifest lists the same columns,
under the same policy; and it shows the store, the selection, the cube and the warnings of the model,
unless the currency customization is for the store. A column is read as it was put together, whatever
colons there are in its tag. -/
theorem report_agrees {inspection : Inspection} {configuration : Configuration}
    {source : SourceSettings} {discovery : Discovery}
    (configured : inspection.ConfiguredBy configuration source)
    (listed : discovery.Lists inspection.store source inspection.columns)
    (uncustomized : configuration.customizedStore? ≠ some inspection.store) (processors : UInt64) :
    ((∃ report, inspection.report processors = .ok report) ↔
      ∃ model, configuration.generate discovery.survey processors = .ok model) ∧
    (∀ report model, inspection.report processors = .ok report →
      configuration.generate discovery.survey processors = .ok model →
        model.datastore.stores = [report.outcome.layout] ∧
        model.manager.schemas =
          [CubeSchema.ofStore inspection.store report.outcome.selection report.cube] ∧
        model.warnings = report.outcome.warnings) ∧
    ∀ name tag, Text.trim name = name → name ≠ "" → ':' ∉ name.toList → Text.trim tag = tag →
      tag ≠ "" → column? (name ++ ":" ++ tag) = some (name, tag) := by
  refine ⟨configured.succeeds_iff listed, ?_, fun name tag => column?_append⟩
  intro report model hreport hmodel
  have hcube : withCurrency configuration.currencyStore inspection.store report.cube =
      report.cube := by
    rw [withCurrency_eq, if_neg uncustomized]
  obtain ⟨hstores, hschemas, hwarnings⟩ := configured.model_eq listed hreport hmodel
  rw [hcube] at hschemas
  exact ⟨hstores, hschemas, hwarnings⟩

/-- A date whose tag has a colon in it. -/
theorem report_agrees_on_dates :
    let text := "\x7b\"columns\":[\x7b\"name\":\"asof\",\"type\":\"date[HH:mm]\"\x7d]\x7d"
    let tree : FileTree := .directory [("trades.json", .file text.toUTF8)]
    let discovery : Discovery := ⟨tree.files "/", none⟩
    let source : SourceSettings := { SourceSettings.default with file := some "/trades.json" }
    let configuration : Configuration :=
      { Configuration.default with sources := .ofList [("trades", source)] }
    let inspection : Inspection := ⟨"trades", [("asof", "date[HH:mm]")], source.policy, none⟩
    column? ("asof" ++ ":" ++ "date[HH:mm]") = some ("asof", "date[HH:mm]") ∧
      ∃ report model, inspection.report 8 = .ok report ∧
        configuration.generate discovery.survey 8 = .ok model ∧
        model.datastore.stores = [report.outcome.layout] ∧
        model.manager.schemas =
          [CubeSchema.ofStore "trades" report.outcome.selection report.cube] ∧
        model.warnings = report.outcome.warnings := by
  intro text tree discovery source configuration inspection
  have readable : discovery.files.readText? "/trades.json" = some text := by decide +kernel
  have valid : Manifest.ofText? text = some ⟨',', inspection.columns⟩ := by decide +kernel
  have configured : inspection.ConfiguredBy configuration source :=
    ⟨rfl, rfl, rfl, rfl, "ISO-8859-1", by decide⟩
  have listed : discovery.Lists "trades" source inspection.columns :=
    ⟨"/trades.json", text, _, rfl, readable, valid, rfl⟩
  have uncustomized : configuration.customizedStore? ≠ some "trades" := by decide
  obtain ⟨hsucceeds, hshows, hcolumn⟩ := report_agrees configured listed uncustomized 8
  have hreport : ∃ report, inspection.report 8 = .ok report := ⟨_, rfl⟩
  obtain ⟨report, hreport⟩ := hreport
  obtain ⟨model, hmodel⟩ := hsucceeds.mp ⟨report, hreport⟩
  exact ⟨hcolumn "asof" "date[HH:mm]" (by decide) (by decide) (by decide) (by decide) (by decide),
    report, model, hreport, hmodel, hshows report model hreport hmodel⟩

/-- The customization is for another text than the name of the store, but for that store once it is
trimmed: the run extends a cube that the inspection shows as it was synthesized. -/
theorem report_differs_for_padded_store :
    let text := "\x7b\"columns\":[\x7b\"name\":\"pnl\",\"type\":\"double\"\x7d," ++
      "\x7b\"name\":\"ccy\",\"type\":\"string\"\x7d]\x7d"
    let tree : FileTree := .directory [("risks.json", .file text.toUTF8)]
    let discovery : Discovery := ⟨tree.files "/", none⟩
    let source : SourceSettings := { SourceSettings.default with file := some "/risks.json" }
    let configuration : Configuration :=
      ⟨⟨Charset.default, some 8⟩, .ofList [("risks", source)], ∅, " risks "⟩
    let inspection : Inspection :=
      ⟨"risks", [("pnl", "double"), ("ccy", "string")], source.policy, some 8⟩
    inspection.ConfiguredBy configuration source ∧
      discovery.Lists inspection.store source inspection.columns ∧
      configuration.currencyStore ≠ inspection.store ∧
      ∃ report model, inspection.report 8 = .ok report ∧
        configuration.generate discovery.survey 8 = .ok model ∧
        ∃ schema ∈ model.manager.schemas, schema.cubes ≠ [report.cube] := by
  intro text tree discovery source configuration inspection
  have readable : discovery.files.readText? "/risks.json" = some text := by decide +kernel
  have valid : Manifest.ofText? text = some ⟨',', inspection.columns⟩ := by decide +kernel
  have configured : inspection.ConfiguredBy configuration source :=
    ⟨rfl, rfl, rfl, rfl, "ISO-8859-1", by decide⟩
  have listed : discovery.Lists inspection.store source inspection.columns :=
    ⟨"/risks.json", text, _, rfl, readable, valid, rfl⟩
  have hother : configuration.currencyStore ≠ inspection.store := by decide
  have hreport : ∃ report, inspection.report 8 = .ok report := ⟨_, rfl⟩
  obtain ⟨report, hreport⟩ := hreport
  obtain ⟨model, hmodel⟩ := (configured.succeeds_iff listed).mp ⟨report, hreport⟩
  refine ⟨configured, listed, hother, report, model, hreport, hmodel, ?_⟩
  have hcustomized : configuration.customizedStore? = some inspection.store := by decide
  obtain ⟨-, hschemas, -⟩ := configured.model_eq listed hreport hmodel
  rw [withCurrency_eq, if_pos hcustomized] at hschemas
  rw [hschemas]
  refine ⟨_, List.mem_singleton_self _, ?_⟩
  intro hcubes
  exact CurrencyCustomization.extend_ne report.cube (List.cons.inj hcubes).1

end Inspection

end OlapSynthesis
