import OlapSynthesis.Settings.Charset

namespace OlapSynthesis

structure GeneralSettings where
  charset : String
  /-- How many tasks the engine runs at once, if that is not left to the machine. -/
  parallelism : Option UInt64
deriving DecidableEq, Repr

namespace GeneralSettings

def default : GeneralSettings :=
  ⟨Charset.default, none⟩

def effectiveParallelism (general : GeneralSettings) (processors : UInt64) : UInt64 :=
  general.parallelism.getD processors

end GeneralSettings

def defaultMatcher : String :=
  "**/*.json"

/-- The glob of a matcher, which may be marked as one. -/
def globOfMatcher (matcher : String) : String :=
  let matcher := Text.trim matcher
  (Text.without? "glob:" matcher).getD matcher

inductive Location
  | file (path : String)
  | directory (path glob : String)
deriving DecidableEq, Repr

inductive ConfigurationError
  | noLocation (sectionName : String)
  | zeroParallelism
  | zeroCacheSize (source : String)
deriving DecidableEq, Repr

def ConfigurationError.message : ConfigurationError → String
  | .noLocation name => "'" ++ name ++ "' has no location (set file_name or dir_to_watch)"
  | .zeroParallelism =>
    "invalid value for 'general.parallelism': parallelism must be at least 1"
  | .zeroCacheSize source =>
    "invalid value for 'sources." ++ source ++
      ".cache_size': cache size must be a positive integer"

structure SourceSettings where
  file : Option String
  directory : Option String
  matcher : String
  partitionField : Option String
  cacheSize : Option UInt32
  aggregateMode : AggregateMode
deriving DecidableEq, Repr

namespace SourceSettings

def default : SourceSettings :=
  ⟨none, none, defaultMatcher, none, none, .justInTime⟩

/-- Where the files of the source called `name` are; a file goes before a directory. -/
def location (source : SourceSettings) (name : String) : Except ConfigurationError Location :=
  match source.file, source.directory with
  | some path, _ => .ok (.file path)
  | none, some path => .ok (.directory path (globOfMatcher source.matcher))
  | none, none => .error (.noLocation ("sources." ++ name))

def policy (source : SourceSettings) : StorePolicy :=
  ⟨source.partitionField, source.cacheSize, source.aggregateMode⟩

/-- Refuses a source without a location or with an empty cache. -/
def validate (source : SourceSettings) (name : String) : Except ConfigurationError Unit := do
  let _ ← source.location name
  if source.cacheSize = some 0 then .error (.zeroCacheSize name) else .ok ()

end SourceSettings

structure ReferenceSettings where
  directory : Option String
  matcher : String
  partitionField : Option String
deriving DecidableEq, Repr

namespace ReferenceSettings

def default : ReferenceSettings :=
  ⟨none, defaultMatcher, none⟩

def location (group : ReferenceSettings) (name : String) :
    Except ConfigurationError (String × String) :=
  match group.directory with
  | some path => .ok (path, globOfMatcher group.matcher)
  | none => .error (.noLocation ("ref_sources." ++ name))

def policy (group : ReferenceSettings) : StorePolicy :=
  ⟨group.partitionField, none, .justInTime⟩

end ReferenceSettings

structure Configuration where
  general : GeneralSettings
  sources : Dictionary SourceSettings
  references : Dictionary ReferenceSettings
  /-- The store that the currency customization is for, as it was written. -/
  currencyStore : String
deriving DecidableEq

namespace Configuration

def defaultCurrencyStore : String :=
  "risks"

def default : Configuration :=
  ⟨.default, ∅, ∅, defaultCurrencyStore⟩

/-- The store that the currency customization is for; a blank name turns it off. -/
def customizedStore? (configuration : Configuration) : Option String :=
  some (Text.trim configuration.currencyStore) |>.filter (· ≠ "")

/-- Refuses a parallelism of zero, then the first bad source, then the first bad group. -/
def validate (configuration : Configuration) : Except ConfigurationError Unit := do
  if configuration.general.parallelism = some 0 then .error .zeroParallelism
  configuration.sources.entries.forM fun (name, source) => source.validate name
  configuration.references.entries.forM fun (name, group) => do
    let _ ← group.location name

end Configuration

end OlapSynthesis
