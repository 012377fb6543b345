import OlapSynthesis.Codec.Settings
import OlapSynthesis.Discovery.Manifest
import OlapSynthesis.Proofs.Codec.Store

namespace OlapSynthesis
open Codec

variable {arrange : Json → Json}

namespace GeneralSettings

def slots (general : GeneralSettings) : Slots :=
  [("charset", some (.text general.charset)),
    ("parallelism", some (orNull (fun p => .nat p.toNat) general.parallelism))]

theorem shows_encode (harrange : Json.Arranges arrange) (general : GeneralSettings) :
    Shows (arrange general.encode) (arranged arrange general.slots) :=
  shows_arrange harrange rfl (by simp [slots])

theorem decode_arrange (harrange : Json.Arranges arrange) (general : GeneralSettings) :
    decode (arrange general.encode) = .ok general := by
  obtain ⟨m, hmembers, hread⟩ := (general.shows_encode harrange).plainMembers
    ["charset", "parallelism"]
  simp only [slots, arranged_cons, arranged_nil, List.forall_mem_cons] at hread
  obtain ⟨hcharset, hparallelism, -⟩ := hread
  have hoption : nullable word64 (arrange (orNull (fun p => .nat p.toNat) general.parallelism)) =
      .ok general.parallelism :=
    nullable_arrange_orNull harrange rfl fun p _ => by rw [harrange.nat, word64_nat]
  simp [decode, hmembers, hcharset, harrange.text, hparallelism, hoption]

end GeneralSettings

namespace SourceSettings

def slots (source : SourceSettings) : Slots :=
  [("file_name", source.file.map .text), ("dir_to_watch", source.directory.map .text),
    ("path_matcher", some (.text source.matcher)),
    ("partition_field", source.partitionField.map .text),
    ("cache_size", source.cacheSize.map fun size => .nat size.toNat),
    ("aggregate_mode", some source.aggregateMode.encode)]

theorem shows_encode (harrange : Json.Arranges arrange) (source : SourceSettings) :
    Shows (arrange source.encode) (arranged arrange source.slots) :=
  shows_arrange harrange (by simp [encode, slots, written_cons, whenSome_eq, written_nil])
    (by simp [slots])

theorem decode_arrange (harrange : Json.Arranges arrange) (source : SourceSettings) :
    decode (arrange source.encode) = .ok source := by
  obtain ⟨m, hmembers, hread⟩ := (source.shows_encode harrange).plainMembers
    ["file_name", "dir_to_watch", "path_matcher", "partition_field", "cache_size",
      "aggregate_mode"]
  simp only [slots, arranged_cons, arranged_nil, List.forall_mem_cons] at hread
  obtain ⟨hfile, hdirectory, hmatcher, hfield, hsize, hmode, -⟩ := hread
  have hsizeOption : orElse none (source.cacheSize.map (nullable word32 ∘ arrange ∘
      fun size => .nat size.toNat)) = .ok source.cacheSize :=
    orElse_nullable rfl fun size _ => by rw [harrange.nat, word32_nat]
  simp [decode, hmembers, hfile, hdirectory, hfield, orElse_nullable_text harrange, hmatcher,
    harrange.text, hsize, hsizeOption, hmode, AggregateMode.decode_arrange harrange]

end SourceSettings

namespace ReferenceSettings

def slots (group : ReferenceSettings) : Slots :=
  [("dir_to_watch", group.directory.map .text), ("path_matcher", some (.text group.matcher)),
    ("partition_field", group.partitionField.map .text)]

theorem shows_encode (harrange : Json.Arranges arrange) (group : ReferenceSettings) :
    Shows (arrange group.encode) (arranged arrange group.slots) :=
  shows_arrange harrange (by simp [encode, slots, written_cons, whenSome_eq, written_nil])
    (by simp [slots])

theorem decode_arrange (harrange : Json.Arranges arrange) (group : ReferenceSettings) :
    decode (arrange group.encode) = .ok group := by
  obtain ⟨m, hmembers, hread⟩ := (group.shows_encode harrange).plainMembers
    ["dir_to_watch", "path_matcher", "partition_field"]
  simp only [slots, arranged_cons, arranged_nil, List.forall_mem_cons] at hread
  obtain ⟨hdirectory, hmatcher, hfield, -⟩ := hread
  simp [decode, hmembers, hdirectory, hfield, orElse_nullable_text harrange, hmatcher,
    harrange.text]

end ReferenceSettings

namespace Configuration

def encodeCustomizations (currencyStore : String) : Json :=
  .object [("currency_store", .text currencyStore)]

theorem decodeCustomizations_arrange (harrange : Json.Arranges arrange) (currencyStore : String) :
    decodeCustomizations (arrange (encodeCustomizations currencyStore)) = .ok currencyStore := by
  have hshows : Shows (arrange (encodeCustomizations currencyStore))
      (arranged arrange [("currency_store", some (.text currencyStore))]) :=
    shows_arrange harrange rfl (by simp)
  obtain ⟨m, hmembers, hread⟩ := hshows.plainMembers ["currency_store"]
  simp only [arranged_cons, arranged_nil, List.forall_mem_singleton] at hread
  simp [decodeCustomizations, hmembers, hread, harrange.text]

def slots (configuration : Configuration) : Slots :=
  [("general", some configuration.general.encode),
    ("sources", some (encodeDictionary SourceSettings.encode configuration.sources)),
    ("ref_sources", some (encodeDictionary ReferenceSettings.encode configuration.references)),
    ("customizations", some (encodeCustomizations configuration.currencyStore))]

theorem shows_encode (harrange : Json.Arranges arrange) (configuration : Configuration) :
    Shows (arrange configuration.encode) (arranged arrange configuration.slots) :=
  shows_arrange harrange rfl (by simp [slots])

theorem decode_arrange (harrange : Json.Arranges arrange) (configuration : Configuration) :
    decode (arrange configuration.encode) = .ok configuration := by
  obtain ⟨m, hmembers, hread⟩ := (configuration.shows_encode harrange).plainMembers
    ["general", "sources", "ref_sources", "customizations"]
  simp only [slots, arranged_cons, arranged_nil, List.forall_mem_cons] at hread
  obtain ⟨hgeneral, hsources, hreferences, hcustomizations, -⟩ := hread
  have hsourcesDictionary : dictionary SourceSettings.decode (arrange (encodeDictionary
      SourceSettings.encode configuration.sources)) = .ok configuration.sources :=
    dictionary_arrange harrange fun source _ => source.decode_arrange harrange
  have hreferencesDictionary : dictionary ReferenceSettings.decode (arrange (encodeDictionary
      ReferenceSettings.encode configuration.references)) = .ok configuration.references :=
    dictionary_arrange harrange fun group _ => group.decode_arrange harrange
  simp [decode, hmembers, hgeneral, GeneralSettings.decode_arrange harrange, hsources,
    hsourcesDictionary, hreferences, hreferencesDictionary, hcustomizations,
    decodeCustomizations_arrange harrange]

end Configuration

namespace Manifest

theorem decodeColumn_arrange (harrange : Json.Arranges arrange) (column : String × String) :
    decodeColumn (arrange (encodeColumn column)) = .ok column := by
  have hshows : Shows (arrange (encodeColumn column))
      (arranged arrange [("name", some (.text column.1)), ("type", some (.text column.2))]) :=
    shows_arrange harrange rfl (by simp)
  obtain ⟨m, hmembers, hread⟩ := hshows.plainMembers ["name", "type"]
  simp only [arranged_cons, arranged_nil, List.forall_mem_cons] at hread
  obtain ⟨hname, htype, -⟩ := hread
  simp [decodeColumn, hmembers, hname, htype, harrange.text]

def slots (manifest : Manifest) : Slots :=
  [("separator", some (.text manifest.separator.toString)),
    ("columns", some (.array (manifest.columns.map encodeColumn)))]

theorem shows_encode (harrange : Json.Arranges arrange) (manifest : Manifest) :
    Shows (arrange manifest.encode) (arranged arrange manifest.slots) :=
  shows_arrange harrange rfl (by simp [slots])

theorem decode_arrange (harrange : Json.Arranges arrange) (manifest : Manifest) :
    decode (arrange manifest.encode) = .ok manifest := by
  obtain ⟨m, hmembers, hread⟩ := (manifest.shows_encode harrange).plainMembers
    ["separator", "columns"]
  simp only [slots, arranged_cons, arranged_nil, List.forall_mem_cons] at hread
  obtain ⟨hseparator, hcolumns, -⟩ := hread
  have hcolumnsList : list decodeColumn (arrange (.array (manifest.columns.map encodeColumn))) =
      .ok manifest.columns :=
    list_arrange harrange fun column _ => decodeColumn_arrange harrange column
  simp [decode, hmembers, hseparator, harrange.text, hcolumns, hcolumnsList]

end Manifest

end OlapSynthesis
