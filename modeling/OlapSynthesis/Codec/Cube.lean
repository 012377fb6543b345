import OlapSynthesis.Codec.Store
import OlapSynthesis.Cube

namespace OlapSynthesis
open Codec

namespace LevelType

def encode : LevelType → Json
  | .regular => .text "regular"
  | .time => .text "time"

def decode : Json → Decoded LevelType :=
  oneOf .direct [("regular", .regular), ("time", .time)]

end LevelType

namespace Level

def encode (level : Level) : Json :=
  .object ([("name", .text level.name), ("field", .text level.field)] ++
    whenSome "formatter" .text level.formatter ++ [("level_type", level.type.encode)])

def decode (j : Json) : Decoded Level := do
  let m ← plainMembers ["name", "field", "formatter", "level_type"] j
  return ⟨← required (m.read "name" text), ← required (m.read "field" text),
    ← orElse none (m.read "formatter" (nullable text)),
    ← orElse .regular (m.read "level_type" LevelType.decode)⟩

end Level

namespace Hierarchy

def encode (h : Hierarchy) : Json :=
  .object ([
    ("name", .text h.name),
    ("levels", .array (h.levels.map Level.encode)),
    ("default_hierarchy", .bool h.isDefault)] ++
    whenSome "plugin_key" .text h.pluginKey ++
    whenSome "folder" .text h.folder ++
    [("all_members_enabled", .bool h.allMembers)] ++
    whenEntries "properties" .text h.properties)

def decode (j : Json) : Decoded Hierarchy := do
  let m ← plainMembers ["name", "levels", "default_hierarchy", "plugin_key", "folder",
    "all_members_enabled", "properties"] j
  return ⟨← required (m.read "name" text), ← required (m.read "levels" (list Level.decode)),
    ← orElse false (m.read "default_hierarchy" bool),
    ← orElse none (m.read "plugin_key" (nullable text)),
    ← orElse none (m.read "folder" (nullable text)),
    ← orElse true (m.read "all_members_enabled" bool),
    ← orElse ∅ (m.read "properties" (dictionary text))⟩

end Hierarchy

namespace DimensionType

def encode : DimensionType → Json
  | .standard => .text "standard"
  | .time => .text "time"

def decode : Json → Decoded DimensionType :=
  oneOf .direct [("standard", .standard), ("time", .time)]

end DimensionType

namespace Dimension

def encode (d : Dimension) : Json :=
  .object ([
    ("name", .text d.name),
    ("dimension_type", d.type.encode),
    ("hierarchies", .array (d.hierarchies.map Hierarchy.encode))] ++
    whenEntries "properties" .text d.properties)

def decode (j : Json) : Decoded Dimension := do
  let m ← plainMembers ["name", "dimension_type", "hierarchies", "properties"] j
  return ⟨← required (m.read "name" text),
    ← orElse .standard (m.read "dimension_type" DimensionType.decode),
    ← required (m.read "hierarchies" (list Hierarchy.decode)),
    ← orElse ∅ (m.read "properties" (dictionary text))⟩

end Dimension

namespace Aggregation

def encode : Aggregation → Json
  | .sum => .text "sum"
  | .min => .text "min"
  | .max => .text "max"
  | .squareSum => .text "sq_sum"
  | .plugin key => .object [("plugin", .text key)]

def decode (place : Place) (j : Json) : Decoded Aggregation := do
  match ← variant j with
  | ("plugin", some content) => return .plugin (← text content)
  | _ => oneOf place [("sum", .sum), ("min", .min), ("max", .max), ("sq_sum", .squareSum)] j

end Aggregation

namespace ExternalMeasure

def encodeMembers (e : ExternalMeasure) : List (String × Json) :=
  [("key", .text e.key)] ++ whenEntries "parameters" .text e.parameters ++
    whenFilled "underlying_measures" .text e.underlying

def encode (e : ExternalMeasure) : Json :=
  .object e.encodeMembers

def decode (j : Json) : Decoded ExternalMeasure := do
  let m ← plainMembers ["key", "parameters", "underlying_measures"] j
  return ⟨← required (m.read "key" text), ← orElse ∅ (m.read "parameters" (dictionary text)),
    ← orElse [] (m.read "underlying_measures" (list text))⟩

end ExternalMeasure

namespace Calculation

inductive Tag
  | formula
  | leafCount
  | external

def tags : List (String × Tag) :=
  [("formula", .formula), ("leaf_count", .leafCount), ("external", .external)]

def encode : Calculation → Json
  | .formula expression => .object [("type", .text "formula"), ("expression", .text expression)]
  | .leafCount levels => .object [("type", .text "leaf_count"), ("leaf_levels", .texts levels)]
  | .external plugin => .object (("type", .text "external") :: plugin.encodeMembers)

def decode (place : Place) (j : Json) : Decoded Calculation := do
  let (tag, rest) ← tagged "type" j
  match ← tagOf place tags tag with
  | .formula =>
    let m ← plainMembers ["expression"] rest
    return .formula (← required (m.read "expression" text))
  | .leafCount =>
    let m ← plainMembers ["leaf_levels"] rest
    return .leafCount (← required (m.read "leaf_levels" (list text)))
  | .external => return .external (← ExternalMeasure.decode rest)

end Calculation

namespace AggregatedMeasure

def encodeMembers (a : AggregatedMeasure) : List (String × Json) :=
  [("name", .text a.name), ("field", .text a.field), ("function", a.aggregation.encode)] ++
    whenSome "folder" .text a.folder ++ whenSome "formatter" .text a.formatter ++
    [("visible", .bool a.visible)]

/-- Decodes the members that were set aside with a measure's tag. -/
def decode (j : Json) : Decoded AggregatedMeasure := do
  let m ← plainMembers ["name", "field", "function", "folder", "formatter", "visible"] j
  return ⟨← required (m.read "name" text), ← required (m.read "field" text),
    ← required (m.read "function" (Aggregation.decode .setAside)),
    ← orElse none (m.read "folder" (nullable text)),
    ← orElse none (m.read "formatter" (nullable text)),
    ← required (m.read "visible" bool)⟩

end AggregatedMeasure

namespace DerivedMeasure

def encodeMembers (d : DerivedMeasure) : List (String × Json) :=
  [("name", .text d.name), ("calculation", d.calculation.encode)] ++
    whenSome "folder" .text d.folder ++ whenSome "formatter" .text d.formatter ++
    [("visible", .bool d.visible)]

def decode (j : Json) : Decoded DerivedMeasure := do
  let m ← plainMembers ["name", "calculation", "folder", "formatter", "visible"] j
  return ⟨← required (m.read "name" text),
    ← required (m.read "calculation" (Calculation.decode .setAside)),
    ← orElse none (m.read "folder" (nullable text)),
    ← orElse none (m.read "formatter" (nullable text)),
    ← required (m.read "visible" bool)⟩

end DerivedMeasure

namespace NativeKind

def encode : NativeKind → Json
  | .count => .text "count"
  | .lastUpdate => .text "last_update"

def decode : Json → Decoded NativeKind :=
  oneOf .setAside [("count", .count), ("last_update", .lastUpdate)]

end NativeKind

namespace NativeMeasure

def encodeMembers (n : NativeMeasure) : List (String × Json) :=
  [("kind", n.kind.encode)] ++ whenSome "alias" .text n.label ++
    whenSome "formatter" .text n.formatter ++ [("visible", .bool n.visible)]

def decode (j : Json) : Decoded NativeMeasure := do
  let m ← plainMembers ["kind", "alias", "formatter", "visible"] j
  return ⟨← required (m.read "kind" NativeKind.decode),
    ← orElse none (m.read "alias" (nullable text)),
    ← orElse none (m.read "formatter" (nullable text)),
    ← required (m.read "visible" bool)⟩

end NativeMeasure

namespace Measure

inductive Tag
  | aggregated
  | derived
  | native

def tags : List (String × Tag) :=
  [("aggregated", .aggregated), ("derived", .derived), ("native", .native)]

def encode : Measure → Json
  | .aggregated a => .object (("measure", .text "aggregated") :: a.encodeMembers)
  | .derived d => .object (("measure", .text "derived") :: d.encodeMembers)
  | .native n => .object (("measure", .text "native") :: n.encodeMembers)

def decode (j : Json) : Decoded Measure := do
  let (tag, rest) ← tagged "measure" j
  match ← tagOf .direct tags tag with
  | .aggregated => return .aggregated (← AggregatedMeasure.decode rest)
  | .derived => return .derived (← DerivedMeasure.decode rest)
  | .native => return .native (← NativeMeasure.decode rest)

end Measure

namespace AggregatesCache

def encode (cache : AggregatesCache) : Json :=
  .object [("size", .nat cache.size.toNat)]

def decode (j : Json) : Decoded AggregatesCache := do
  let m ← plainMembers ["size"] j
  return ⟨← required (m.read "size" word32)⟩

end AggregatesCache

namespace Cube

def encode (cube : Cube) : Json :=
  .object ([
    ("name", .text cube.name),
    ("dimensions", .array (cube.dimensions.map Dimension.encode)),
    ("measures", .array (cube.measures.map Measure.encode)),
    ("aggregate_mode", cube.aggregateMode.encode)] ++
    whenSome "cache" AggregatesCache.encode cube.cache)

def decode (j : Json) : Decoded Cube := do
  let m ← plainMembers ["name", "dimensions", "measures", "aggregate_mode", "cache"] j
  return ⟨← required (m.read "name" text),
    ← required (m.read "dimensions" (list Dimension.decode)),
    ← required (m.read "measures" (list Measure.decode)),
    ← orElse .justInTime (m.read "aggregate_mode" AggregateMode.decode),
    ← orElse none (m.read "cache" (nullable AggregatesCache.decode))⟩

end Cube

end OlapSynthesis
