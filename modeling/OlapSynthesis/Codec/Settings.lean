import OlapSynthesis.Codec.Store
import OlapSynthesis.Settings

namespace OlapSynthesis
open Codec

namespace GeneralSettings

def encode (general : GeneralSettings) : Json :=
  .object [("charset", .text general.charset),
    ("parallelism", orNull (fun p => .nat p.toNat) general.parallelism)]

def decode (j : Json) : Decoded GeneralSettings := do
  let m ← plainMembers ["charset", "parallelism"] j
  return ⟨← orElse Charset.default (m.read "charset" text),
    ← orElse none (m.read "parallelism" (nullable word64))⟩

end GeneralSettings

namespace SourceSettings

def encode (source : SourceSettings) : Json :=
  .object (
    whenSome "file_name" .text source.file ++
    whenSome "dir_to_watch" .text source.directory ++
    [("path_matcher", .text source.matcher)] ++
    whenSome "partition_field" .text source.partitionField ++
    whenSome "cache_size" (fun size => .nat size.toNat) source.cacheSize ++
    [("aggregate_mode", source.aggregateMode.encode)])

def decode (j : Json) : Decoded SourceSettings := do
  let m ← plainMembers ["file_name", "dir_to_watch", "path_matcher", "partition_field",
    "cache_size", "aggregate_mode"] j
  return ⟨← orElse none (m.read "file_name" (nullable text)),
    ← orElse none (m.read "dir_to_watch" (nullable text)),
    ← orElse defaultMatcher (m.read "path_matcher" text),
    ← orElse none (m.read "partition_field" (nullable text)),
    ← orElse none (m.read "cache_size" (nullable word32)),
    ← orElse .justInTime (m.read "aggregate_mode" AggregateMode.decode)⟩

end SourceSettings

namespace ReferenceSettings

def encode (group : ReferenceSettings) : Json :=
  .object (
    whenSome "dir_to_watch" .text group.directory ++
    [("path_matcher", .text group.matcher)] ++
    whenSome "partition_field" .text group.partitionField)

def decode (j : Json) : Decoded ReferenceSettings := do
  let m ← plainMembers ["dir_to_watch", "path_matcher", "partition_field"] j
  return ⟨← orElse none (m.read "dir_to_watch" (nullable text)),
    ← orElse defaultMatcher (m.read "path_matcher" text),
    ← orElse none (m.read "partition_field" (nullable text))⟩

end ReferenceSettings

namespace Configuration

/-- The section of customizations holds one setting only. -/
def decodeCustomizations (j : Json) : Decoded String := do
  let m ← plainMembers ["currency_store"] j
  orElse defaultCurrencyStore (m.read "currency_store" text)

def encode (configuration : Configuration) : Json :=
  .object [
    ("general", configuration.general.encode),
    ("sources", encodeDictionary SourceSettings.encode configuration.sources),
    ("ref_sources", encodeDictionary ReferenceSettings.encode configuration.references),
    ("customizations", .object [("currency_store", .text configuration.currencyStore)])]

def decode (j : Json) : Decoded Configuration := do
  let m ← plainMembers ["general", "sources", "ref_sources", "customizations"] j
  return ⟨← orElse .default (m.read "general" GeneralSettings.decode),
    ← orElse ∅ (m.read "sources" (dictionary SourceSettings.decode)),
    ← orElse ∅ (m.read "ref_sources" (dictionary ReferenceSettings.decode)),
    ← orElse defaultCurrencyStore (m.read "customizations" decodeCustomizations)⟩

end Configuration

end OlapSynthesis
