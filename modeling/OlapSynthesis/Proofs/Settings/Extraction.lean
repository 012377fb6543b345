import OlapSynthesis.Proofs.Except
import OlapSynthesis.Proofs.Settings.Shape
import OlapSynthesis.Settings.Extraction

namespace OlapSynthesis

open Extraction

namespace Setting

def IsText (setting : Setting) : Prop :=
  ∃ s, setting = .text s

def IsBelow (bound : Nat) (setting : Setting) : Prop :=
  ∃ n : Nat, n < bound ∧ setting = .whole n

def IsMode (setting : Setting) : Prop :=
  ∃ word ∈ ["JUST_IN_TIME", "just_in_time", "BITMAP", "bitmap"], setting = .text word

def valueAt? {α : Type} (read : Setting → Extracted α) (path : KeyPath) (setting : Setting) :
    Option α :=
  setting.at? path >>= fun found => (read found).toOption

end Setting

namespace Shape

def text : Shape :=
  .value Setting.IsText

def general : Shape :=
  .record [("charset", text), ("parallelism", .value (Setting.IsBelow UInt64.size))]

def source : Shape :=
  .record [("file_name", text), ("dir_to_watch", text), ("path_matcher", text),
    ("partition_field", text), ("cache_size", .value (Setting.IsBelow UInt32.size)),
    ("aggregate_mode", .value Setting.IsMode)]

def reference : Shape :=
  .record [("dir_to_watch", text), ("path_matcher", text), ("partition_field", text)]

def customizations : Shape :=
  .record [("currency_store", text)]

/-- What is expected of a whole configuration. Keys that it does not know may have anything. -/
def configuration : Shape :=
  .record [("general", general), ("sources", .dictionary source),
    ("ref_sources", .dictionary reference), ("customizations", customizations)]

theorem Fits.member {fields : List (String × Shape)} {entries : List (String × Setting)}
    (h : (record fields).Fits (.table entries)) {key : String} {shape : Shape}
    (hshape : fields.lookup key = some shape) {value : Setting}
    (hvalue : entries.lookup key = some value) : shape.Fits value := by
  obtain ⟨_, heq, hmembers⟩ := h
  cases heq
  have hmember : ((fields.lookup key).getD .anything).Fits value := hmembers key value hvalue
  rwa [hshape] at hmember

end Shape

theorem Setting.valueAt?_cons {α : Type} (read : Setting → Extracted α) (key : String)
    (path : KeyPath) (entries : List (String × Setting)) :
    valueAt? read (key :: path) (.table entries) = entries.lookup key >>= valueAt? read path :=
  Option.bind_assoc _ _ _

namespace Extraction

theorem exists_of_isText {setting : Setting} (h : Shape.text.Fits setting) :
    ∃ s, text setting = .ok s := by
  obtain ⟨⟨s, rfl⟩, -⟩ := h
  exact ⟨s, rfl⟩

theorem exists_word64 {setting : Setting}
    (h : (Shape.value (Setting.IsBelow UInt64.size)).Fits setting) :
    ∃ n, word64 setting = .ok n := by
  obtain ⟨⟨n, hn, rfl⟩, -⟩ := h
  exact ⟨UInt64.ofNat n, congrArg (Except.map UInt64.ofNat) (if_pos hn)⟩

theorem exists_word32 {setting : Setting}
    (h : (Shape.value (Setting.IsBelow UInt32.size)).Fits setting) :
    ∃ n, word32 setting = .ok n := by
  obtain ⟨⟨n, hn, rfl⟩, -⟩ := h
  exact ⟨UInt32.ofNat n, congrArg (Except.map UInt32.ofNat) (if_pos hn)⟩

theorem exists_modeOf {setting : Setting} (h : (Shape.value Setting.IsMode).Fits setting) :
    ∃ mode, modeOf setting = .ok mode := by
  obtain ⟨⟨word, hword, rfl⟩, -⟩ := h
  simp only [List.mem_cons, List.not_mem_nil, or_false] at hword
  rcases hword with rfl | rfl | rfl | rfl <;> exact ⟨_, rfl⟩

def membersOf (entries : List (String × Setting)) : List (String × String × Setting) :=
  entries.map fun entry => (entry.1, entry.1, entry.2)

theorem lookup_membersOf (entries : List (String × Setting)) (key : String) :
    (membersOf entries).lookup key = (entries.lookup key).map fun value => (key, value) := by
  induction entries with
  | nil => rfl
  | cons entry rest ih =>
    rw [membersOf, List.map_cons, Dictionary.lookup_cons_eq_ite, Dictionary.lookup_cons_eq_ite]
    by_cases hkey : key = entry.1
    · rw [if_pos hkey, if_pos hkey, hkey]
      rfl
    · rw [if_neg hkey, if_neg hkey]
      exact ih

section

variable {α : Type} {read : Setting → Extracted α} {entries : List (String × Setting)}

/-- A member that is read as told wherever it is there. -/
theorem readMember_of_read {key : String} {ofSetting : Setting → α}
    (h : ∀ value, entries.lookup key = some value → read value = .ok (ofSetting value)) :
    readMember (membersOf entries) key read = .ok ((entries.lookup key).map ofSetting) := by
  rw [readMember, lookup_membersOf]
  cases hvalue : entries.lookup key with
  | none => rfl
  | some value =>
    rw [Option.map_some]
    dsimp only
    rw [h value hvalue]
    rfl

theorem readMember_of_fits {fields : List (String × Shape)}
    (h : (Shape.record fields).Fits (.table entries)) (key : String) {shape : Shape}
    (hshape : fields.lookup key = some shape)
    (hread : ∀ {value}, shape.Fits value → ∃ a, read value = .ok a) :
    readMember (membersOf entries) key read =
      .ok (Setting.valueAt? read [key] (.table entries)) := by
  rw [readMember, lookup_membersOf, Setting.valueAt?_cons]
  cases hvalue : entries.lookup key with
  | none => rfl
  | some value =>
    obtain ⟨a, ha⟩ := hread (h.member hshape hvalue)
    simp [Setting.valueAt?, Setting.at?, ha, Except.map, Except.mapError, Except.toOption]

end

theorem settle_eq_ok {members : List (String × String × Setting)}
    {errors : List (String × Option KeyPath)} (h : ∀ error ∈ errors, error.2 = none) :
    settle members errors = .ok () := by
  have hnone : members.findSome? (fun member => (errors.lookup member.1).join) = none := by
    rw [List.findSome?_eq_none_iff]
    intro member _
    cases hlookup : errors.lookup member.1 with
    | none => rfl
    | some error =>
      obtain ⟨before, after, rfl, -⟩ := List.lookup_eq_some_iff.mp hlookup
      exact h (member.1, error) (List.mem_append_right _ List.mem_cons_self)
  rw [settle, hnone]

end Extraction

namespace GeneralSettings

def ofSetting (setting : Setting) : GeneralSettings :=
  ⟨(setting.valueAt? text ["charset"]).getD Charset.default,
    setting.valueAt? word64 ["parallelism"]⟩

theorem extract_of_fits {setting : Setting} (h : Shape.general.Fits setting) :
    extract setting = .ok (ofSetting setting) := by
  have ⟨entries, htable, _⟩ := h
  subst htable
  have hmembers : members ["charset", "parallelism"] (.table entries) = .ok (membersOf entries) :=
    rfl
  have hcharset := readMember_of_fits h "charset" rfl exists_of_isText
  have hparallelism := readMember_of_fits h "parallelism" rfl exists_word64
  simp only [extract, hmembers, ok_bind, hcharset, hparallelism]
  rw [settle_eq_ok (by simp [fault])]
  rfl

end GeneralSettings

namespace SourceSettings

def ofSetting (setting : Setting) : SourceSettings where
  file := setting.valueAt? text ["file_name"]
  directory := setting.valueAt? text ["dir_to_watch"]
  matcher := (setting.valueAt? text ["path_matcher"]).getD defaultMatcher
  partitionField := setting.valueAt? text ["partition_field"]
  cacheSize := setting.valueAt? word32 ["cache_size"]
  aggregateMode := (setting.valueAt? modeOf ["aggregate_mode"]).getD .justInTime

theorem extract_of_fits {setting : Setting} (h : Shape.source.Fits setting) :
    extract setting = .ok (ofSetting setting) := by
  have ⟨entries, htable, _⟩ := h
  subst htable
  have hmembers : members ["file_name", "dir_to_watch", "path_matcher", "partition_field",
      "cache_size", "aggregate_mode"] (.table entries) = .ok (membersOf entries) :=
    rfl
  have hfile := readMember_of_fits h "file_name" rfl exists_of_isText
  have hdirectory := readMember_of_fits h "dir_to_watch" rfl exists_of_isText
  have hmatcher := readMember_of_fits h "path_matcher" rfl exists_of_isText
  have hpartition := readMember_of_fits h "partition_field" rfl exists_of_isText
  have hsize := readMember_of_fits h "cache_size" rfl exists_word32
  have hmode := readMember_of_fits h "aggregate_mode" rfl exists_modeOf
  simp only [extract, hmembers, ok_bind, hfile, hdirectory, hmatcher, hpartition, hsize, hmode]
  rw [settle_eq_ok (by simp [fault])]
  rfl

end SourceSettings

namespace ReferenceSettings

def ofSetting (setting : Setting) : ReferenceSettings where
  directory := setting.valueAt? text ["dir_to_watch"]
  matcher := (setting.valueAt? text ["path_matcher"]).getD defaultMatcher
  partitionField := setting.valueAt? text ["partition_field"]

theorem extract_of_fits {setting : Setting} (h : Shape.reference.Fits setting) :
    extract setting = .ok (ofSetting setting) := by
  have ⟨entries, htable, _⟩ := h
  subst htable
  have hmembers : members ["dir_to_watch", "path_matcher", "partition_field"] (.table entries) =
      .ok (membersOf entries) :=
    rfl
  have hdirectory := readMember_of_fits h "dir_to_watch" rfl exists_of_isText
  have hmatcher := readMember_of_fits h "path_matcher" rfl exists_of_isText
  have hpartition := readMember_of_fits h "partition_field" rfl exists_of_isText
  simp only [extract, hmembers, ok_bind, hdirectory, hmatcher, hpartition]
  rw [settle_eq_ok (by simp [fault])]
  rfl

end ReferenceSettings

namespace Extraction

variable {α : Type} {shape : Shape} {extract : Setting → Extracted α} {ofSetting : Setting → α}
  {setting : Setting}

def dictionaryOf (ofSetting : Setting → α) : Setting → Dictionary α
  | .table entries => .ofList (entries.map (Prod.map id ofSetting))
  | _ => ∅

theorem dictionary_of_fits
    (hextract : ∀ {value}, shape.Fits value → extract value = .ok (ofSetting value))
    (h : (Shape.dictionary shape).Fits setting) (ordered : setting.Ordered) :
    dictionary extract setting = .ok (dictionaryOf ofSetting setting) := by
  obtain ⟨entries, rfl, hmembers⟩ := h
  have hkeys : (entries.map (·.1)).Nodup := Dictionary.nodup_keys ⟨entries, ordered.keys⟩
  have hmapM : entries.mapM (fun entry => do
      return (entry.1, ← (extract entry.2).mapError (entry.1 :: ·))) =
        .ok (entries.map (Prod.map id ofSetting)) := by
    rw [mapM_eq_ok_iff, List.forall₂_map_right_iff, List.forall₂_same]
    rintro ⟨name, value⟩ hentry
    have hlookup := (Dictionary.lookup_eq_some_iff_mem hkeys).mpr hentry
    dsimp only
    rw [hextract (hmembers name value hlookup)]
    rfl
  rw [dictionary]
  exact congrArg (· >>= _) hmapM

theorem get?_dictionaryOf (h : (Shape.dictionary shape).Fits setting) (ordered : setting.Ordered)
    (name : String) : (dictionaryOf ofSetting setting).get? name =
      (setting.at? [name]).map ofSetting := by
  obtain ⟨entries, rfl, -⟩ := h
  have hkeys : (entries.map (·.1)).Nodup := Dictionary.nodup_keys ⟨entries, ordered.keys⟩
  have hmapped : ((entries.map (Prod.map id ofSetting)).map (·.1)).Nodup := by
    rw [List.map_map]
    exact hkeys
  rw [dictionaryOf, Dictionary.get?_ofList hmapped, Dictionary.lookup_map, Setting.at?]
  cases entries.lookup name <;> rfl

end Extraction

namespace Configuration

def currencyStoreOf (setting : Setting) : String :=
  (setting.valueAt? text ["currency_store"]).getD defaultCurrencyStore

theorem extractCustomizations_of_fits {setting : Setting} (h : Shape.customizations.Fits setting) :
    extractCustomizations setting = .ok (currencyStoreOf setting) := by
  have ⟨entries, htable, _⟩ := h
  subst htable
  have hmembers : members ["currency_store"] (.table entries) = .ok (membersOf entries) := rfl
  have hstore := readMember_of_fits h "currency_store" rfl exists_of_isText
  simp only [extractCustomizations, hmembers, ok_bind, hstore]
  rfl

/-- What a configuration takes from a table of settings. -/
structure Takes (configuration : Configuration) (setting : Setting) : Prop where
  charset : configuration.general.charset =
    (setting.valueAt? text ["general", "charset"]).getD Charset.default
  parallelism : configuration.general.parallelism =
    setting.valueAt? word64 ["general", "parallelism"]
  sources : ∀ name, configuration.sources.get? name =
    (setting.at? ["sources", name]).map SourceSettings.ofSetting
  references : ∀ name, configuration.references.get? name =
    (setting.at? ["ref_sources", name]).map ReferenceSettings.ofSetting
  currencyStore : configuration.currencyStore =
    (setting.valueAt? text ["customizations", "currency_store"]).getD defaultCurrencyStore

theorem extract_of_fits {setting : Setting} (h : Shape.configuration.Fits setting)
    (ordered : setting.Ordered) : ∃ configuration, extract setting = .ok configuration ∧
      configuration.Takes setting := by
  have ⟨entries, htable, _⟩ := h
  subst htable
  have hmembers : members ["general", "sources", "ref_sources", "customizations"]
      (.table entries) = .ok (membersOf entries) := rfl
  have hgeneral : readMember (membersOf entries) "general" GeneralSettings.extract =
      .ok ((entries.lookup "general").map .ofSetting) :=
    readMember_of_read fun _ hvalue => GeneralSettings.extract_of_fits (h.member rfl hvalue)
  have hsources : readMember (membersOf entries) "sources" (dictionary SourceSettings.extract) =
      .ok ((entries.lookup "sources").map (dictionaryOf .ofSetting)) :=
    readMember_of_read fun _ hvalue => dictionary_of_fits SourceSettings.extract_of_fits
      (h.member rfl hvalue) (ordered.of_lookup hvalue)
  have hreferences :
      readMember (membersOf entries) "ref_sources" (dictionary ReferenceSettings.extract) =
        .ok ((entries.lookup "ref_sources").map (dictionaryOf .ofSetting)) :=
    readMember_of_read fun _ hvalue => dictionary_of_fits ReferenceSettings.extract_of_fits
      (h.member rfl hvalue) (ordered.of_lookup hvalue)
  have hcustomizations : readMember (membersOf entries) "customizations" extractCustomizations =
      .ok ((entries.lookup "customizations").map currencyStoreOf) :=
    readMember_of_read fun _ hvalue => extractCustomizations_of_fits (h.member rfl hvalue)
  simp only [extract, hmembers, ok_bind, hgeneral, hsources, hreferences, hcustomizations]
  rw [settle_eq_ok (by simp [fault])]
  refine ⟨_, rfl, ?_, ?_, ?_, ?_, ?_⟩
  · rw [Setting.valueAt?_cons]
    cases entries.lookup "general" <;> rfl
  · rw [Setting.valueAt?_cons]
    cases entries.lookup "general" <;> rfl
  · intro name
    rw [Setting.at?]
    cases hvalue : entries.lookup "sources" with
    | none => rfl
    | some sources => exact get?_dictionaryOf (h.member rfl hvalue) (ordered.of_lookup hvalue) name
  · intro name
    rw [Setting.at?]
    cases hvalue : entries.lookup "ref_sources" with
    | none => rfl
    | some groups => exact get?_dictionaryOf (h.member rfl hvalue) (ordered.of_lookup hvalue) name
  · rw [Setting.valueAt?_cons]
    cases entries.lookup "customizations" <;> rfl

end Configuration

end OlapSynthesis
