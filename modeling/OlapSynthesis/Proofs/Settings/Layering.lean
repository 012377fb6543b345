import Mathlib
import OlapSynthesis.Proofs.Settings.Variables
import OlapSynthesis.Workplace

namespace OlapSynthesis

open Extraction

namespace Extraction

/-- What the highest layer that sets a value says, as it is meant to be read. -/
def given? {α : Type} (read : Setting → Extracted α) (layers : List Setting) (path : KeyPath) :
    Extracted (Option α) :=
  (Setting.highest? layers path).mapM read

def Mentioned (layers : List Setting) (path : KeyPath) : Prop :=
  ∃ layer ∈ layers, (layer.at? path).isSome

end Extraction

structure SourceSettings.TakesHighest (source : SourceSettings) (layers : List Setting)
    (name : String) : Prop where
  file : given? text layers ["sources", name, "file_name"] = .ok source.file
  directory : given? text layers ["sources", name, "dir_to_watch"] = .ok source.directory
  matcher : (given? text layers ["sources", name, "path_matcher"]).map (·.getD defaultMatcher) =
    .ok source.matcher
  partitionField : given? text layers ["sources", name, "partition_field"] =
    .ok source.partitionField
  cacheSize : given? word32 layers ["sources", name, "cache_size"] = .ok source.cacheSize
  aggregateMode : (given? modeOf layers ["sources", name, "aggregate_mode"]).map
    (·.getD .justInTime) = .ok source.aggregateMode

structure ReferenceSettings.TakesHighest (group : ReferenceSettings) (layers : List Setting)
    (name : String) : Prop where
  directory : given? text layers ["ref_sources", name, "dir_to_watch"] = .ok group.directory
  matcher : (given? text layers ["ref_sources", name, "path_matcher"]).map
    (·.getD defaultMatcher) = .ok group.matcher
  partitionField : given? text layers ["ref_sources", name, "partition_field"] =
    .ok group.partitionField

/-- A configuration takes each setting from the highest layer that has it, and it has the sources
and the groups that some layer mentions. -/
structure Configuration.TakesHighest (configuration : Configuration) (layers : List Setting) :
    Prop where
  charset : (given? text layers ["general", "charset"]).map (·.getD Charset.default) =
    .ok configuration.general.charset
  parallelism : given? word64 layers ["general", "parallelism"] =
    .ok configuration.general.parallelism
  currencyStore : (given? text layers ["customizations", "currency_store"]).map
    (·.getD defaultCurrencyStore) = .ok configuration.currencyStore
  hasSource : ∀ name, (configuration.sources.get? name).isSome ↔
    Mentioned layers ["sources", name]
  source : ∀ name source, configuration.sources.get? name = some source →
    source.TakesHighest layers name
  hasGroup : ∀ name, (configuration.references.get? name).isSome ↔
    Mentioned layers ["ref_sources", name]
  group : ∀ name group, configuration.references.get? name = some group →
    group.TakesHighest layers name

namespace Setting.Merges

variable {layers : List Setting} {merged : Setting}

/-- A value that has the expected kind in every layer is read from the highest. -/
theorem given?_eq {α : Type} {read : Setting → Extracted α} {shape : Shape}
    (h : Merges shape layers merged) {path : KeyPath} {accepts : Setting → Prop}
    (hpath : shape.under path = .value accepts)
    (hread : ∀ {setting}, (Shape.value accepts).Fits setting → ∃ a, read setting = .ok a) :
    given? read layers path = .ok (merged.valueAt? read path) := by
  rw [given?, ← h.value path accepts hpath, valueAt?]
  cases hfound : merged.at? path with
  | none => rfl
  | some found =>
    have hfits := h.fits.at? hfound
    rw [hpath] at hfits
    obtain ⟨a, ha⟩ := hread hfits
    simp [Option.mapM, ha, Except.toOption]

end Setting.Merges

theorem Setting.valueAt?_append {α : Type} {read : Setting → Extracted α} {setting found : Setting}
    {front : KeyPath} (h : setting.at? front = some found) (rest : KeyPath) :
    setting.valueAt? read (front ++ rest) = found.valueAt? read rest := by
  induction front generalizing setting with
  | nil =>
    cases h
    rfl
  | cons key front ih =>
    cases setting with
    | table entries =>
      obtain ⟨value, hvalue, hrest⟩ := Option.bind_eq_some_iff.mp h
      rw [List.cons_append, valueAt?_cons, hvalue]
      exact ih hrest
    | _ => cases h

/-- What is extracted from layers that were put together is what the highest of them says. -/
theorem Configuration.Takes.takesHighest {configuration : Configuration} {layers : List Setting}
    {merged : Setting} (takes : configuration.Takes merged)
    (merges : Setting.Merges Shape.configuration layers merged) :
    configuration.TakesHighest layers where
  charset := by rw [merges.given?_eq rfl exists_of_isText, takes.charset]; rfl
  parallelism := by rw [merges.given?_eq rfl exists_word64, takes.parallelism]
  currencyStore := by rw [merges.given?_eq rfl exists_of_isText, takes.currencyStore]; rfl
  hasSource name := by
    rw [takes.sources, Option.isSome_map]
    exact merges.table _ _ (List.cons_ne_nil _ _) rfl
  source name source hsource := by
    rw [takes.sources] at hsource
    obtain ⟨found, hfound, rfl⟩ := Option.map_eq_some_iff.mp hsource
    have hvalue {α : Type} (read : Setting → Extracted α) (key : String) :
        merged.valueAt? read ["sources", name, key] = found.valueAt? read [key] :=
      Setting.valueAt?_append hfound [key]
    exact
      { file := by rw [merges.given?_eq rfl exists_of_isText, hvalue]; rfl
        directory := by rw [merges.given?_eq rfl exists_of_isText, hvalue]; rfl
        matcher := by rw [merges.given?_eq rfl exists_of_isText, hvalue]; rfl
        partitionField := by rw [merges.given?_eq rfl exists_of_isText, hvalue]; rfl
        cacheSize := by rw [merges.given?_eq rfl exists_word32, hvalue]; rfl
        aggregateMode := by rw [merges.given?_eq rfl exists_modeOf, hvalue]; rfl }
  hasGroup name := by
    rw [takes.references, Option.isSome_map]
    exact merges.table _ _ (List.cons_ne_nil _ _) rfl
  group name group hgroup := by
    rw [takes.references] at hgroup
    obtain ⟨found, hfound, rfl⟩ := Option.map_eq_some_iff.mp hgroup
    have hvalue {α : Type} (read : Setting → Extracted α) (key : String) :
        merged.valueAt? read ["ref_sources", name, key] = found.valueAt? read [key] :=
      Setting.valueAt?_append hfound [key]
    exact
      { directory := by rw [merges.given?_eq rfl exists_of_isText, hvalue]; rfl
        matcher := by rw [merges.given?_eq rfl exists_of_isText, hvalue]; rfl
        partitionField := by rw [merges.given?_eq rfl exists_of_isText, hvalue]; rfl }

namespace Workplace

variable {workplace : Workplace} {explicit : Option String}

/-- The texts of the files with settings that are there, the lowest first. -/
def texts (workplace : Workplace) (explicit : Option String) : List (Option String) :=
  ((workplace.settingsFiles explicit).filterMap workplace.nearest?).map String.fromUTF8?

def fileLayers (workplace : Workplace) (explicit : Option String) : List Setting :=
  (workplace.texts explicit).filterMap Layers.fileSettings

/-- What the file with variables defines, be it in the base directory or, if there is none, the
nearest. -/
def definedVariables (workplace : Workplace) (explicit : Option String) :
    List (String × String) :=
  let path := Path.join (workplace.base explicit) variablesFile
  let content := if workplace.files.present path then workplace.files.read? path
    else workplace.nearest? variablesFile
  match content >>= String.fromUTF8? with
  | some text => Dotenv.definitionsOf workplace.environment text
  | none => []

/-- The layers of a run, the lowest first: the files, the variables of the process, and those that
the process does not have but the file with variables defines. -/
def settingLayers (workplace : Workplace) (explicit : Option String) : List Setting :=
  workplace.fileLayers explicit ++
    (Environment.layersOf workplace.environment.definitions ++
      Environment.layersOf
        (workplace.environment.missing (workplace.definedVariables explicit)))

/-- Every layer can be read and has the expected shape. -/
structure WellTyped (workplace : Workplace) (explicit : Option String) : Prop where
  files : ∀ text ∈ workplace.texts explicit, ∃ setting,
    Layers.fileSettings text = some setting ∧ Shape.configuration.Fits setting
  loaded : ∃ environment, workplace.runEnvironment explicit = .ok environment
  environment : Environment.WellTyped (workplace.environment.definitions ++
    workplace.environment.missing (workplace.definedVariables explicit))

theorem environment_of_define {path : String} {content : Option ByteArray} {next : Environment}
    (h : workplace.define path content = .ok next) :
    ∃ text, (content >>= String.fromUTF8?) = some text ∧
      Dotenv.load workplace.environment text = (next, .complete) := by
  unfold define at h
  cases htext : content >>= String.fromUTF8? with
  | none =>
    rw [htext] at h
    cases h
  | some text =>
    rw [htext, Option.map_some] at h
    refine ⟨text, rfl, ?_⟩
    split at h
    next environment hload =>
      cases h
      exact Option.some.inj hload
    · cases h
    · cases h
    · cases h

/-- The environment of a run has the variables of the process and behind them those that it lacked.
-/
theorem definitions_runEnvironment {next : Environment}
    (h : workplace.runEnvironment explicit = .ok next) :
    next.definitions = workplace.environment.definitions ++
      workplace.environment.missing (workplace.definedVariables explicit) := by
  unfold runEnvironment at h
  unfold definedVariables
  dsimp only at h ⊢
  split at h
  next hpresent =>
    obtain ⟨text, htext, hload⟩ := environment_of_define h
    rw [if_pos hpresent, htext]
    exact Dotenv.load_of_complete hload
  next habsent =>
    rw [if_neg habsent]
    split at h
    next hnone =>
      cases h
      rw [hnone]
      exact (List.append_nil _).symm
    next content hcontent =>
      obtain ⟨text, htext, hload⟩ := environment_of_define h
      rw [hcontent, htext]
      exact Dotenv.load_of_complete hload

/-- A variable that the process has keeps its value; another one has its first definition. -/
theorem get?_runEnvironment {next : Environment}
    (h : workplace.runEnvironment explicit = .ok next) (name : String) :
    next.get? name = (workplace.environment.get? name).or
      ((workplace.definedVariables explicit).lookup name) := by
  rw [Environment.get?, definitions_runEnvironment h, List.lookup_append,
    Environment.lookup_missing, ← Environment.get?]
  cases workplace.environment.get? name <;> rfl

theorem mapM_fileSettings {texts : List (Option String)}
    (h : ∀ text ∈ texts, ∃ setting,
      Layers.fileSettings text = some setting ∧ Shape.configuration.Fits setting) :
    texts.mapM Layers.fileSettings = some (texts.filterMap Layers.fileSettings) := by
  induction texts with
  | nil => rfl
  | cons text rest ih =>
    obtain ⟨⟨setting, hsetting, -⟩, hrest⟩ := List.forall_mem_cons.mp h
    rw [List.mapM_cons, List.filterMap_cons, hsetting, ih hrest]
    rfl

theorem WellTyped.of_mem_fileLayers (typed : workplace.WellTyped explicit) {layer : Setting}
    (h : layer ∈ workplace.fileLayers explicit) :
    Shape.configuration.Fits layer ∧ layer.Ordered := by
  obtain ⟨file, hmem, hlayer⟩ := List.mem_filterMap.mp h
  obtain ⟨_, hsame, hfits⟩ := typed.files file hmem
  cases hsame.symm.trans hlayer
  obtain ⟨text, -, htext⟩ := Option.bind_eq_some_iff.mp hlayer
  exact ⟨hfits, Toml.ordered_of_ofText? htext⟩

theorem layersOf_append (definitions later : List (String × String)) :
    Environment.layersOf (definitions ++ later) =
      Environment.layersOf definitions ++ Environment.layersOf later :=
  List.filterMap_append

theorem WellTyped.merges (typed : workplace.WellTyped explicit) : ∃ layers merged,
    workplace.layers explicit = .ok layers ∧ layers.settings = .ok merged ∧
      Setting.Merges Shape.configuration (workplace.settingLayers explicit) merged := by
  obtain ⟨environment, henvironment⟩ := typed.loaded
  have hdefinitions := definitions_runEnvironment henvironment
  have htyped : Environment.WellTyped environment.definitions := hdefinitions ▸ typed.environment
  have hsettingLayers : workplace.settingLayers explicit =
      workplace.fileLayers explicit ++ Environment.layersOf environment.definitions := by
    rw [hdefinitions, layersOf_append]
    rfl
  -- The environment comes to one table first and goes over the files as a whole.
  have hnone : Setting.Merges Shape.configuration [] .emptyTable := .empty _
  have hfiles := hnone.foldl_overlay fun _ => typed.of_mem_fileLayers
  have hvariables := hnone.foldl_overlay fun _ => Environment.of_mem_layersOf htyped
  rw [List.nil_append] at hfiles hvariables
  refine ⟨⟨workplace.texts explicit, environment⟩, _, ?_, ?_,
    hsettingLayers ▸ hfiles.overlay hvariables⟩
  · rw [layers, henvironment]
    rfl
  · rw [Layers.settings, Environment.settings?_eq htyped, mapM_fileSettings typed.files]
    dsimp only
    rw [List.foldl_concat]
    rfl

/-- Where every layer is well typed, a run has its configuration, unless that is unusable, and takes
each setting from the highest layer that has it. -/
theorem configuration_takes_highest (typed : workplace.WellTyped explicit) :
    ∃ configuration : Configuration,
      configuration.TakesHighest (workplace.settingLayers explicit) ∧
        workplace.configuration explicit =
          match configuration.validate with
          | .ok () => .ok configuration
          | .error cause => .error (.settings (.invalid cause)) := by
  obtain ⟨layers, merged, hlayers, hmerged, merges⟩ := typed.merges
  obtain ⟨configuration, hextract, takes⟩ :=
    Configuration.extract_of_fits merges.fits merges.ordered
  refine ⟨configuration, takes.takesHighest merges, ?_⟩
  have hconfiguration : layers.configuration = .ok configuration := by
    rw [Layers.configuration, hmerged, ok_bind, hextract]
    rfl
  rw [Workplace.configuration, hlayers, ok_bind, Layers.load, hconfiguration, ok_bind]
  cases configuration.validate <;> rfl

/-- A run in which the process and the file with variables give one setting under two names. -/
def contested : Workplace :=
  let project := "[general]\nparallelism = 8\n[sources.trades]\nfile_name = \"trades.json\"\n"
  let definitions :=
    "AUTOCUBE_GENERAL__CHARSET=UTF-8\nAUTOCUBE_SOURCES__TRADES__CACHE_SIZE=100\n"
  let tree : FileTree :=
    .directory [("autocube.toml", .file project.toUTF8), (".env", .file definitions.toUTF8)]
  ⟨tree.files "/", "/", none, ⟨[("AUTOCUBE_GENERAL", "\x7bcharset=\"UTF-16\"\x7d")]⟩, 4⟩

theorem fileLayers_contested : contested.texts none =
      [some "[general]\nparallelism = 8\n[sources.trades]\nfile_name = \"trades.json\"\n"] ∧
    Layers.fileSettings
      (some "[general]\nparallelism = 8\n[sources.trades]\nfile_name = \"trades.json\"\n") =
        some (.table [("general", .nested ["parallelism"] (.whole 8)),
          ("sources", .nested ["trades", "file_name"] (.text "trades.json"))]) := by
  constructor
  · decide +kernel
  · cbv

theorem definedVariables_contested : contested.definedVariables none =
    [("AUTOCUBE_GENERAL__CHARSET", "UTF-8"), ("AUTOCUBE_SOURCES__TRADES__CACHE_SIZE", "100")] := by
  decide +kernel

theorem missing_contested :
    contested.environment.missing (contested.definedVariables none) =
      contested.definedVariables none := by
  rw [definedVariables_contested]
  decide +kernel

theorem layer?_contested :
    Environment.layer? ("AUTOCUBE_GENERAL", "\x7bcharset=\"UTF-16\"\x7d") =
      some (.nested ["general", "charset"] (.text "UTF-16")) ∧
    Environment.layer? ("AUTOCUBE_GENERAL__CHARSET", "UTF-8") =
      some (.nested ["general", "charset"] (.text "UTF-8")) ∧
    Environment.layer? ("AUTOCUBE_SOURCES__TRADES__CACHE_SIZE", "100") =
      some (.nested ["sources", "trades", "cache_size"] (.whole 100)) := by
  refine ⟨?_, ?_, ?_⟩ <;> rw [Environment.layer?_eq_some_iff]
  · exact ⟨["general"], .nested ["charset"] (.text "UTF-16"), by decide +kernel, by cbv, rfl⟩
  · exact ⟨["general", "charset"], .text "UTF-8", by decide +kernel, by cbv, rfl⟩
  · exact ⟨["sources", "trades", "cache_size"], .whole 100, by decide +kernel, by cbv, rfl⟩

theorem wellTyped_contested : contested.WellTyped none where
  files := by
    obtain ⟨htexts, hsettings⟩ := fileLayers_contested
    rw [htexts]
    intro text htext
    cases List.mem_singleton.mp htext
    refine ⟨_, hsettings, .of_mem ?_⟩
    simp only [List.forall_mem_cons, List.not_mem_nil, IsEmpty.forall_iff, implies_true, and_true]
    exact ⟨.nested_cons ⟨⟨8, by decide, rfl⟩, rfl⟩, .nested_cons (.nested_cons ⟨⟨_, rfl⟩, rfl⟩)⟩
  loaded := by
    have hloaded : (contested.runEnvironment none).toOption.isSome := by decide +kernel
    cases hrun : contested.runEnvironment none with
    | ok environment => exact ⟨environment, rfl⟩
    | error cause => simp [hrun, Except.toOption] at hloaded
  environment := by
    obtain ⟨htable, htext, hwhole⟩ := layer?_contested
    rw [missing_contested, definedVariables_contested]
    intro definition hmem _
    simp only [contested, List.singleton_append, List.mem_cons, List.not_mem_nil, or_false] at hmem
    rcases hmem with rfl | rfl | rfl
    · exact ⟨_, htable, .nested_cons (.nested_cons ⟨⟨_, rfl⟩, rfl⟩)⟩
    · exact ⟨_, htext, .nested_cons (.nested_cons ⟨⟨_, rfl⟩, rfl⟩)⟩
    · exact ⟨_, hwhole, .nested_cons (.nested_cons (.nested_cons ⟨⟨100, by decide, rfl⟩, rfl⟩))⟩

theorem layers_contested :
    contested.fileLayers none = [.table [("general", .nested ["parallelism"] (.whole 8)),
      ("sources", .nested ["trades", "file_name"] (.text "trades.json"))]] ∧
    Environment.layersOf contested.environment.definitions =
      [.nested ["general", "charset"] (.text "UTF-16")] ∧
    Environment.layersOf (contested.definedVariables none) =
      [.nested ["general", "charset"] (.text "UTF-8"),
        .nested ["sources", "trades", "cache_size"] (.whole 100)] := by
  obtain ⟨htexts, hsettings⟩ := fileLayers_contested
  obtain ⟨htable, htext, hwhole⟩ := layer?_contested
  refine ⟨?_, ?_, ?_⟩
  · rw [fileLayers, htexts, List.filterMap_cons, hsettings]
    rfl
  · simp [contested, Environment.layersOf, htable]
  · simp [definedVariables_contested, Environment.layersOf, htext, hwhole]

theorem configuration_contested : ∃ configuration : Configuration,
    contested.configuration none = .ok configuration ∧
      configuration.general = ⟨"UTF-8", some 8⟩ ∧
      configuration.sources.get? "trades" = some
        { SourceSettings.default with file := some "trades.json", cacheSize := some 100 } := by
  have hvalues : (contested.configuration none).toOption.map
      (fun configuration => (configuration.general, configuration.sources.get? "trades")) =
        some (⟨"UTF-8", some 8⟩, some
          { SourceSettings.default with file := some "trades.json", cacheSize := some 100 }) := by
    decide +kernel
  obtain ⟨configuration, hrun, hpair⟩ := Option.map_eq_some_iff.mp hvalues
  cases hconfiguration : contested.configuration none with
  | error cause => simp [hconfiguration, Except.toOption] at hrun
  | ok found =>
    rw [hconfiguration] at hrun
    cases hrun
    exact ⟨configuration, rfl, congrArg Prod.fst hpair, congrArg Prod.snd hpair⟩

/-- Of one source the file comes from the file of the project and the cache from a variable. -/
theorem configuration_takes_highest_contested : ∃ configuration : Configuration,
    configuration.TakesHighest (contested.settingLayers none) ∧
      contested.configuration none = .ok configuration ∧
      configuration.general = ⟨"UTF-8", some 8⟩ ∧
      configuration.sources.get? "trades" = some
        { SourceSettings.default with file := some "trades.json", cacheSize := some 100 } := by
  obtain ⟨configuration, takes, hrun⟩ := configuration_takes_highest wellTyped_contested
  obtain ⟨found, hfound, hvalues⟩ := configuration_contested
  rw [hfound] at hrun
  cases hvalid : configuration.validate with
  | error cause =>
    rw [hvalid] at hrun
    cases hrun
  | ok =>
    rw [hvalid] at hrun
    cases hrun
    exact ⟨configuration, takes, hfound, hvalues⟩

/-- The variables of the process are not above those of the file: of two names for one setting the
file's counts. -/
theorem not_takesHighest_process_over_file : ∃ configuration : Configuration,
    contested.WellTyped none ∧ contested.configuration none = .ok configuration ∧
      ¬ configuration.TakesHighest (contested.fileLayers none ++
        (Environment.layersOf (contested.definedVariables none) ++
          Environment.layersOf contested.environment.definitions)) := by
  obtain ⟨configuration, hrun, hgeneral, -⟩ := configuration_contested
  obtain ⟨hfiles, hprocess, hdefined⟩ := layers_contested
  refine ⟨configuration, wellTyped_contested, hrun, ?_⟩
  intro takes
  have hcharset := takes.charset
  rw [hfiles, hprocess, hdefined, hgeneral] at hcharset
  have heq : "UTF-16" = "UTF-8" := Except.ok.inj hcharset
  exact absurd heq (by decide)

end Workplace

end OlapSynthesis
