import OlapSynthesis.Codec.Cube
import OlapSynthesis.Proofs.Codec.Store

namespace OlapSynthesis
open Codec

variable {arrange : Json → Json}

theorem LevelType.decode_arrange (harrange : Json.Arranges arrange) (type : LevelType) :
    decode (arrange type.encode) = .ok type := by
  cases type <;> (rw [encode, harrange.text]; rfl)

namespace Level

def slots (level : Level) : Slots :=
  [("name", some (.text level.name)), ("field", some (.text level.field)),
    ("formatter", level.formatter.map .text), ("level_type", some level.type.encode)]

theorem shows_encode (harrange : Json.Arranges arrange) (level : Level) :
    Shows (arrange level.encode) (arranged arrange level.slots) :=
  shows_arrange harrange (by simp [encode, slots, written_cons, whenSome_eq, written_nil])
    (by simp [slots])

theorem decode_arrange (harrange : Json.Arranges arrange) (level : Level) :
    decode (arrange level.encode) = .ok level := by
  obtain ⟨m, hmembers, hread⟩ := (level.shows_encode harrange).plainMembers
    ["name", "field", "formatter", "level_type"]
  simp only [slots, arranged_cons, arranged_nil, List.forall_mem_cons] at hread
  obtain ⟨hname, hfield, hformatter, htype, -⟩ := hread
  simp [decode, hmembers, hname, hfield, harrange.text, hformatter, orElse_nullable_text harrange,
    htype, LevelType.decode_arrange harrange]

end Level

namespace Hierarchy

def slots (h : Hierarchy) : Slots :=
  [("name", some (.text h.name)), ("levels", some (.array (h.levels.map Level.encode))),
    ("default_hierarchy", some (.bool h.isDefault)), ("plugin_key", h.pluginKey.map .text),
    ("folder", h.folder.map .text), ("all_members_enabled", some (.bool h.allMembers)),
    ("properties", entered .text h.properties)]

theorem shows_encode (harrange : Json.Arranges arrange) (h : Hierarchy) :
    Shows (arrange h.encode) (arranged arrange h.slots) :=
  shows_arrange harrange
    (by simp [encode, slots, written_cons, whenSome_eq, whenEntries_eq, written_nil])
    (by simp [slots])

theorem decode_arrange (harrange : Json.Arranges arrange) (h : Hierarchy) :
    decode (arrange h.encode) = .ok h := by
  obtain ⟨m, hmembers, hread⟩ := (h.shows_encode harrange).plainMembers
    ["name", "levels", "default_hierarchy", "plugin_key", "folder", "all_members_enabled",
      "properties"]
  simp only [slots, arranged_cons, arranged_nil, List.forall_mem_cons] at hread
  obtain ⟨hname, hlevels, hdefault, hplugin, hfolder, hall, hproperties, -⟩ := hread
  have hlevelsList : list Level.decode (arrange (.array (h.levels.map Level.encode))) =
      .ok h.levels :=
    list_arrange harrange fun level _ => level.decode_arrange harrange
  simp [decode, hmembers, hname, harrange.text, hlevels, hlevelsList, hdefault, harrange.bool,
    hplugin, hfolder, orElse_nullable_text harrange, hall, hproperties,
    orElse_entered_text harrange]

end Hierarchy

theorem DimensionType.decode_arrange (harrange : Json.Arranges arrange) (type : DimensionType) :
    decode (arrange type.encode) = .ok type := by
  cases type <;> (rw [encode, harrange.text]; rfl)

namespace Dimension

def slots (d : Dimension) : Slots :=
  [("name", some (.text d.name)), ("dimension_type", some d.type.encode),
    ("hierarchies", some (.array (d.hierarchies.map Hierarchy.encode))),
    ("properties", entered .text d.properties)]

theorem shows_encode (harrange : Json.Arranges arrange) (d : Dimension) :
    Shows (arrange d.encode) (arranged arrange d.slots) :=
  shows_arrange harrange (by simp [encode, slots, written_cons, whenEntries_eq, written_nil])
    (by simp [slots])

theorem decode_arrange (harrange : Json.Arranges arrange) (d : Dimension) :
    decode (arrange d.encode) = .ok d := by
  obtain ⟨m, hmembers, hread⟩ := (d.shows_encode harrange).plainMembers
    ["name", "dimension_type", "hierarchies", "properties"]
  simp only [slots, arranged_cons, arranged_nil, List.forall_mem_cons] at hread
  obtain ⟨hname, htype, hhierarchies, hproperties, -⟩ := hread
  have hlist : list Hierarchy.decode (arrange (.array (d.hierarchies.map Hierarchy.encode))) =
      .ok d.hierarchies :=
    list_arrange harrange fun hierarchy _ => hierarchy.decode_arrange harrange
  simp [decode, hmembers, hname, harrange.text, htype, DimensionType.decode_arrange harrange,
    hhierarchies, hlist, hproperties, orElse_entered_text harrange]

end Dimension

theorem Aggregation.decode_arrange (harrange : Json.Arranges arrange) (place : Place)
    (aggregation : Aggregation) :
    decode place (arrange aggregation.encode) = .ok aggregation := by
  cases aggregation with
  | plugin key => rw [encode, harrange.single, harrange.text]; rfl
  | _ => rw [encode, harrange.text]; rfl

namespace ExternalMeasure

def slots (e : ExternalMeasure) : Slots :=
  [("key", some (.text e.key)), ("parameters", entered .text e.parameters),
    ("underlying_measures", filled .text e.underlying)]

theorem encodeMembers_eq (e : ExternalMeasure) : e.encodeMembers = written e.slots := by
  simp [encodeMembers, slots, written_cons, whenEntries_eq, whenFilled_eq, written_nil]

theorem decode_of_shows (harrange : Json.Arranges arrange) {e : ExternalMeasure} {j : Json}
    (h : Shows j (arranged arrange e.slots)) : decode j = .ok e := by
  obtain ⟨m, hmembers, hread⟩ := h.plainMembers ["key", "parameters", "underlying_measures"]
  simp only [slots, arranged_cons, arranged_nil, List.forall_mem_cons] at hread
  obtain ⟨hkey, hparameters, hunderlying, -⟩ := hread
  simp [decode, hmembers, hkey, harrange.text, hparameters, orElse_entered_text harrange,
    hunderlying, orElse_filled_text harrange]

theorem decode_arrange (harrange : Json.Arranges arrange) (e : ExternalMeasure) :
    decode (arrange e.encode) = .ok e :=
  decode_of_shows harrange
    (shows_arrange harrange (congrArg Json.object e.encodeMembers_eq) (by simp [slots]))

end ExternalMeasure

namespace Calculation

def slots : Calculation → Slots
  | .formula expression =>
    [("type", some (.text "formula")), ("expression", some (.text expression))]
  | .leafCount levels => [("type", some (.text "leaf_count")), ("leaf_levels", some (.texts levels))]
  | .external plugin => ("type", some (.text "external")) :: plugin.slots

theorem shows_encode (harrange : Json.Arranges arrange) (calculation : Calculation) :
    Shows (arrange calculation.encode) (arranged arrange calculation.slots) := by
  cases calculation with
  | formula expression => exact shows_arrange harrange rfl (by simp [slots])
  | leafCount levels => exact shows_arrange harrange rfl (by simp [slots])
  | external plugin =>
    refine shows_arrange harrange ?_ (by simp [slots, ExternalMeasure.slots])
    rw [encode, plugin.encodeMembers_eq]
    rfl

theorem decode_arrange (harrange : Json.Arranges arrange) (place : Place)
    (calculation : Calculation) :
    decode place (arrange calculation.encode) = .ok calculation := by
  have hshows := calculation.shows_encode harrange
  cases calculation with
  | formula expression =>
    obtain ⟨rest, htag, hrest⟩ := hshows.tagged harrange (by simp)
    obtain ⟨m, hmembers, hread⟩ := hrest.plainMembers ["expression"]
    simp only [arranged_cons, arranged_nil, List.forall_mem_singleton] at hread
    have htagOf : tagOf place tags (.text "formula") = .ok .formula := rfl
    simp [decode, htag, htagOf, hmembers, hread, harrange.text]
  | leafCount levels =>
    obtain ⟨rest, htag, hrest⟩ := hshows.tagged harrange (by simp)
    obtain ⟨m, hmembers, hread⟩ := hrest.plainMembers ["leaf_levels"]
    simp only [arranged_cons, arranged_nil, List.forall_mem_singleton] at hread
    have htagOf : tagOf place tags (.text "leaf_count") = .ok .leafCount := rfl
    simp [decode, htag, htagOf, hmembers, hread, list_texts harrange]
  | external plugin =>
    obtain ⟨rest, htag, hrest⟩ := hshows.tagged harrange (by simp [ExternalMeasure.slots])
    have hplugin := ExternalMeasure.decode_of_shows harrange hrest
    have htagOf : tagOf place tags (.text "external") = .ok .external := rfl
    simp [decode, htag, htagOf, hplugin]

end Calculation

namespace AggregatedMeasure

def slots (a : AggregatedMeasure) : Slots :=
  [("name", some (.text a.name)), ("field", some (.text a.field)),
    ("function", some a.aggregation.encode), ("folder", a.folder.map .text),
    ("formatter", a.formatter.map .text), ("visible", some (.bool a.visible))]

theorem encodeMembers_eq (a : AggregatedMeasure) : a.encodeMembers = written a.slots := by
  simp [encodeMembers, slots, written_cons, whenSome_eq, written_nil]

theorem decode_of_shows (harrange : Json.Arranges arrange) {a : AggregatedMeasure} {j : Json}
    (h : Shows j (arranged arrange a.slots)) : decode j = .ok a := by
  obtain ⟨m, hmembers, hread⟩ := h.plainMembers
    ["name", "field", "function", "folder", "formatter", "visible"]
  simp only [slots, arranged_cons, arranged_nil, List.forall_mem_cons] at hread
  obtain ⟨hname, hfield, hfunction, hfolder, hformatter, hvisible, -⟩ := hread
  simp [decode, hmembers, hname, hfield, harrange.text, hfunction,
    Aggregation.decode_arrange harrange, hfolder, hformatter, orElse_nullable_text harrange,
    hvisible, harrange.bool]

end AggregatedMeasure

namespace DerivedMeasure

def slots (d : DerivedMeasure) : Slots :=
  [("name", some (.text d.name)), ("calculation", some d.calculation.encode),
    ("folder", d.folder.map .text), ("formatter", d.formatter.map .text),
    ("visible", some (.bool d.visible))]

theorem encodeMembers_eq (d : DerivedMeasure) : d.encodeMembers = written d.slots := by
  simp [encodeMembers, slots, written_cons, whenSome_eq, written_nil]

theorem decode_of_shows (harrange : Json.Arranges arrange) {d : DerivedMeasure} {j : Json}
    (h : Shows j (arranged arrange d.slots)) : decode j = .ok d := by
  obtain ⟨m, hmembers, hread⟩ := h.plainMembers
    ["name", "calculation", "folder", "formatter", "visible"]
  simp only [slots, arranged_cons, arranged_nil, List.forall_mem_cons] at hread
  obtain ⟨hname, hcalculation, hfolder, hformatter, hvisible, -⟩ := hread
  simp [decode, hmembers, hname, harrange.text, hcalculation, Calculation.decode_arrange harrange,
    hfolder, hformatter, orElse_nullable_text harrange, hvisible, harrange.bool]

end DerivedMeasure

theorem NativeKind.decode_arrange (harrange : Json.Arranges arrange) (kind : NativeKind) :
    decode (arrange kind.encode) = .ok kind := by
  cases kind <;> (rw [encode, harrange.text]; rfl)

namespace NativeMeasure

def slots (n : NativeMeasure) : Slots :=
  [("kind", some n.kind.encode), ("alias", n.label.map .text),
    ("formatter", n.formatter.map .text), ("visible", some (.bool n.visible))]

theorem encodeMembers_eq (n : NativeMeasure) : n.encodeMembers = written n.slots := by
  simp [encodeMembers, slots, written_cons, whenSome_eq, written_nil]

theorem decode_of_shows (harrange : Json.Arranges arrange) {n : NativeMeasure} {j : Json}
    (h : Shows j (arranged arrange n.slots)) : decode j = .ok n := by
  obtain ⟨m, hmembers, hread⟩ := h.plainMembers ["kind", "alias", "formatter", "visible"]
  simp only [slots, arranged_cons, arranged_nil, List.forall_mem_cons] at hread
  obtain ⟨hkind, hlabel, hformatter, hvisible, -⟩ := hread
  simp [decode, hmembers, hkind, NativeKind.decode_arrange harrange, hlabel, hformatter,
    orElse_nullable_text harrange, hvisible, harrange.bool]

end NativeMeasure

namespace Measure

def slots : Measure → Slots
  | .aggregated a => ("measure", some (.text "aggregated")) :: a.slots
  | .derived d => ("measure", some (.text "derived")) :: d.slots
  | .native n => ("measure", some (.text "native")) :: n.slots

theorem shows_encode (harrange : Json.Arranges arrange) (measure : Measure) :
    Shows (arrange measure.encode) (arranged arrange measure.slots) := by
  cases measure with
  | aggregated a =>
    refine shows_arrange harrange ?_ (by simp [slots, AggregatedMeasure.slots])
    rw [encode, a.encodeMembers_eq]
    rfl
  | derived d =>
    refine shows_arrange harrange ?_ (by simp [slots, DerivedMeasure.slots])
    rw [encode, d.encodeMembers_eq]
    rfl
  | native n =>
    refine shows_arrange harrange ?_ (by simp [slots, NativeMeasure.slots])
    rw [encode, n.encodeMembers_eq]
    rfl

theorem decode_arrange (harrange : Json.Arranges arrange) (measure : Measure) :
    decode (arrange measure.encode) = .ok measure := by
  have hshows := measure.shows_encode harrange
  cases measure with
  | aggregated a =>
    obtain ⟨rest, htag, hrest⟩ := hshows.tagged harrange (by simp [AggregatedMeasure.slots])
    have hmeasure := AggregatedMeasure.decode_of_shows harrange hrest
    have htagOf : tagOf .direct tags (.text "aggregated") = .ok .aggregated := rfl
    simp [decode, htag, htagOf, hmeasure]
  | derived d =>
    obtain ⟨rest, htag, hrest⟩ := hshows.tagged harrange (by simp [DerivedMeasure.slots])
    have hmeasure := DerivedMeasure.decode_of_shows harrange hrest
    have htagOf : tagOf .direct tags (.text "derived") = .ok .derived := rfl
    simp [decode, htag, htagOf, hmeasure]
  | native n =>
    obtain ⟨rest, htag, hrest⟩ := hshows.tagged harrange (by simp [NativeMeasure.slots])
    have hmeasure := NativeMeasure.decode_of_shows harrange hrest
    have htagOf : tagOf .direct tags (.text "native") = .ok .native := rfl
    simp [decode, htag, htagOf, hmeasure]

end Measure

namespace AggregatesCache

def slots (cache : AggregatesCache) : Slots :=
  [("size", some (.nat cache.size.toNat))]

theorem shows_encode (harrange : Json.Arranges arrange) (cache : AggregatesCache) :
    Shows (arrange cache.encode) (arranged arrange cache.slots) :=
  shows_arrange harrange rfl (by simp [slots])

theorem decode_arrange (harrange : Json.Arranges arrange) (cache : AggregatesCache) :
    decode (arrange cache.encode) = .ok cache := by
  obtain ⟨m, hmembers, hread⟩ := (cache.shows_encode harrange).plainMembers ["size"]
  simp only [slots, arranged_cons, arranged_nil, List.forall_mem_singleton] at hread
  simp [decode, hmembers, hread, harrange.nat]

end AggregatesCache

namespace Cube

def slots (cube : Cube) : Slots :=
  [("name", some (.text cube.name)),
    ("dimensions", some (.array (cube.dimensions.map Dimension.encode))),
    ("measures", some (.array (cube.measures.map Measure.encode))),
    ("aggregate_mode", some cube.aggregateMode.encode),
    ("cache", cube.cache.map AggregatesCache.encode)]

theorem shows_encode (harrange : Json.Arranges arrange) (cube : Cube) :
    Shows (arrange cube.encode) (arranged arrange cube.slots) :=
  shows_arrange harrange (by simp [encode, slots, written_cons, whenSome_eq, written_nil])
    (by simp [slots])

theorem decode_arrange (harrange : Json.Arranges arrange) (cube : Cube) :
    decode (arrange cube.encode) = .ok cube := by
  obtain ⟨m, hmembers, hread⟩ := (cube.shows_encode harrange).plainMembers
    ["name", "dimensions", "measures", "aggregate_mode", "cache"]
  simp only [slots, arranged_cons, arranged_nil, List.forall_mem_cons] at hread
  obtain ⟨hname, hdimensions, hmeasures, hmode, hcache, -⟩ := hread
  have hdimensionsList : list Dimension.decode (arrange (.array (cube.dimensions.map
      Dimension.encode))) = .ok cube.dimensions :=
    list_arrange harrange fun dimension _ => dimension.decode_arrange harrange
  have hmeasuresList : list Measure.decode (arrange (.array (cube.measures.map
      Measure.encode))) = .ok cube.measures :=
    list_arrange harrange fun measure _ => measure.decode_arrange harrange
  have hcacheOption := orElse_nullable (o := cube.cache) rfl
    fun cache _ => cache.decode_arrange harrange
  simp [decode, hmembers, hname, harrange.text, hdimensions, hdimensionsList, hmeasures,
    hmeasuresList, hmode, AggregateMode.decode_arrange harrange, hcache, hcacheOption]

end Cube

end OlapSynthesis
