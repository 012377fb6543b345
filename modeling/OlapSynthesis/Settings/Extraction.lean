import OlapSynthesis.Settings
import OlapSynthesis.Settings.Setting

namespace OlapSynthesis

abbrev KeyPath := List String

abbrev Extracted (α : Type) := Except KeyPath α

namespace Extraction

def text : Setting → Extracted String
  | .text s => .ok s
  | _ => .error []

def natBelow (bound : Nat) : Setting → Extracted Nat
  | .whole (.ofNat n) => if n < bound then .ok n else .error []
  | _ => .error []

def word32 (setting : Setting) : Extracted UInt32 :=
  (natBelow UInt32.size setting).map UInt32.ofNat

def word64 (setting : Setting) : Extracted UInt64 :=
  (natBelow UInt64.size setting).map UInt64.ofNat

def modes : List (String × AggregateMode) :=
  [("JUST_IN_TIME", .justInTime), ("just_in_time", .justInTime), ("BITMAP", .bitmap),
    ("bitmap", .bitmap)]

/-- The mode that a text names. A table names none, and its first key is to blame. -/
def modeOf : Setting → Extracted AggregateMode
  | .text s =>
    match modes.lookup s with
    | some mode => .ok mode
    | none => .error []
  | .table ((key, _) :: _) => .error [key]
  | _ => .error []

/-- The settings of a section by key, each with the key that an error is told by. A list gives
them in their declared order. -/
def members (keys : List String) : Setting → Extracted (List (String × String × Setting))
  | .table entries => .ok (entries.map fun (key, setting) => (key, key, setting))
  | .list items =>
    .ok ((keys.zip items).zipIdx.map fun ((key, setting), i) => (key, toString i, setting))
  | _ => .error []

def readMember (members : List (String × String × Setting)) (key : String)
    (extract : Setting → Extracted α) : Extracted (Option α) :=
  match members.lookup key with
  | some (place, setting) => ((extract setting).map some).mapError (place :: ·)
  | none => .ok none

def fault : Extracted α → Option KeyPath
  | .error path => some path
  | .ok _ => none

/-- Reports the first error in the order of the section. -/
def settle (members : List (String × String × Setting))
    (errors : List (String × Option KeyPath)) : Extracted Unit :=
  match members.findSome? fun member => (errors.lookup member.1).join with
  | some path => .error path
  | none => .ok ()

def dictionary (extract : Setting → Extracted α) : Setting → Extracted (Dictionary α)
  | .table entries => do
    let entries ← entries.mapM fun (key, setting) => do
      return (key, ← (extract setting).mapError (key :: ·))
    return .ofList entries
  | _ => .error []

end Extraction

open Extraction

def GeneralSettings.extract (setting : Setting) : Extracted GeneralSettings := do
  let m ← members ["charset", "parallelism"] setting
  let charset := readMember m "charset" text
  let parallelism := readMember m "parallelism" word64
  settle m [("charset", fault charset), ("parallelism", fault parallelism)]
  return ⟨(← charset).getD Charset.default, ← parallelism⟩

def SourceSettings.extract (setting : Setting) : Extracted SourceSettings := do
  let m ← members ["file_name", "dir_to_watch", "path_matcher", "partition_field", "cache_size",
    "aggregate_mode"] setting
  let file := readMember m "file_name" text
  let directory := readMember m "dir_to_watch" text
  let matcher := readMember m "path_matcher" text
  let partitionField := readMember m "partition_field" text
  let cacheSize := readMember m "cache_size" word32
  let mode := readMember m "aggregate_mode" modeOf
  settle m [("file_name", fault file), ("dir_to_watch", fault directory),
    ("path_matcher", fault matcher), ("partition_field", fault partitionField),
    ("cache_size", fault cacheSize), ("aggregate_mode", fault mode)]
  return ⟨← file, ← directory, (← matcher).getD defaultMatcher, ← partitionField, ← cacheSize,
    (← mode).getD .justInTime⟩

def ReferenceSettings.extract (setting : Setting) : Extracted ReferenceSettings := do
  let m ← members ["dir_to_watch", "path_matcher", "partition_field"] setting
  let directory := readMember m "dir_to_watch" text
  let matcher := readMember m "path_matcher" text
  let partitionField := readMember m "partition_field" text
  settle m [("dir_to_watch", fault directory), ("path_matcher", fault matcher),
    ("partition_field", fault partitionField)]
  return ⟨← directory, (← matcher).getD defaultMatcher, ← partitionField⟩

namespace Configuration

def extractCustomizations (setting : Setting) : Extracted String := do
  let m ← members ["currency_store"] setting
  return (← readMember m "currency_store" text).getD defaultCurrencyStore

def extract (setting : Setting) : Extracted Configuration := do
  let m ← members ["general", "sources", "ref_sources", "customizations"] setting
  let general := readMember m "general" GeneralSettings.extract
  let sources := readMember m "sources" (dictionary SourceSettings.extract)
  let references := readMember m "ref_sources" (dictionary ReferenceSettings.extract)
  let customizations := readMember m "customizations" extractCustomizations
  settle m [("general", fault general), ("sources", fault sources),
    ("ref_sources", fault references), ("customizations", fault customizations)]
  return ⟨(← general).getD .default, (← sources).getD ∅, (← references).getD ∅,
    (← customizations).getD defaultCurrencyStore⟩

end Configuration

end OlapSynthesis
