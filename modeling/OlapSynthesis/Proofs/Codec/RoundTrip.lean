import OlapSynthesis.Proofs.Codec.Model
import OlapSynthesis.Proofs.Codec.Settings

namespace OlapSynthesis
open Codec

namespace Codec

/-- What a measure has beside its tag is read back where it is set aside with the tag. -/
theorem RoundTrips.of_shows {α : Type} {encodeMembers : α → List (String × Json)}
    {slots : α → Slots} {decode : Json → Decoded α} (heq : ∀ a, encodeMembers a = written (slots a))
    (distinct : ∀ a, ((slots a).map (·.1)).Nodup)
    (h : ∀ {arrange}, Json.Arranges arrange → ∀ {a j}, Shows j (arranged arrange (slots a)) →
      decode j = .ok a) :
    RoundTrips (fun _ => True) (fun a => .object (encodeMembers a)) decode :=
  .of_all fun harrange a =>
    h harrange (shows_arrange harrange (congrArg Json.object (heq a)) (distinct a))

end Codec

/-- Everything that a model holds is read back from its encoding, and so is the configuration: with the
members as they are written or in key order, and also from the encoding of whatever was read before. -/
theorem round_trips :
    (RoundTrips ColumnType.Parsed ColumnType.encode ColumnType.decode ∧
      RoundTrips Column.Parsed Column.encode Column.decode ∧
      RoundTrips SourceLayout.Parsed SourceLayout.encode SourceLayout.decode ∧
      RoundTrips (fun _ => True) AggregateMode.encode AggregateMode.decode ∧
      RoundTrips (fun _ => True) StorePolicy.encode StorePolicy.decode ∧
      RoundTrips (fun _ => True) DatePart.encode DatePart.decode ∧
      RoundTrips (fun _ => True) DerivedField.encode DerivedField.decode ∧
      RoundTrips Field.Parsed Field.encode Field.decode ∧
      RoundTrips (fun _ => True) Partitioning.encode Partitioning.decode ∧
      RoundTrips StoreLayout.Parsed StoreLayout.encode StoreLayout.decode) ∧
    (RoundTrips (fun _ => True) LevelType.encode LevelType.decode ∧
      RoundTrips (fun _ => True) Level.encode Level.decode ∧
      RoundTrips (fun _ => True) Hierarchy.encode Hierarchy.decode ∧
      RoundTrips (fun _ => True) DimensionType.encode DimensionType.decode ∧
      RoundTrips (fun _ => True) Dimension.encode Dimension.decode ∧
      (∀ place, RoundTrips (fun _ => True) Aggregation.encode (Aggregation.decode place)) ∧
      RoundTrips (fun _ => True) ExternalMeasure.encode ExternalMeasure.decode ∧
      (∀ place, RoundTrips (fun _ => True) Calculation.encode (Calculation.decode place)) ∧
      RoundTrips (fun _ => True) (fun a => .object a.encodeMembers) AggregatedMeasure.decode ∧
      RoundTrips (fun _ => True) (fun d => .object d.encodeMembers) DerivedMeasure.decode ∧
      RoundTrips (fun _ => True) NativeKind.encode NativeKind.decode ∧
      RoundTrips (fun _ => True) (fun n => .object n.encodeMembers) NativeMeasure.decode ∧
      RoundTrips (fun _ => True) Measure.encode Measure.decode ∧
      RoundTrips (fun _ => True) AggregatesCache.encode AggregatesCache.decode ∧
      RoundTrips (fun _ => True) Cube.encode Cube.decode) ∧
    (RoundTrips (fun _ => True) Warning.encode Warning.decode ∧
      RoundTrips (fun _ => True) Catalog.encode Catalog.decode ∧
      RoundTrips (fun _ => True) Selection.encode Selection.decode ∧
      RoundTrips (fun _ => True) CubeSchema.encode CubeSchema.decode ∧
      RoundTrips (fun _ => True) Manager.encode Manager.decode ∧
      RoundTrips Datastore.Parsed Datastore.encode Datastore.decode ∧
      RoundTrips (fun _ => True) SourceBinding.encode SourceBinding.decode ∧
      RoundTrips Model.Parsed Model.encode Model.decode) ∧
    RoundTrips (fun _ => True) Manifest.encodeColumn Manifest.decodeColumn ∧
      RoundTrips (fun _ => True) Manifest.encode Manifest.decode ∧
      RoundTrips (fun _ => True) GeneralSettings.encode GeneralSettings.decode ∧
      RoundTrips (fun _ => True) SourceSettings.encode SourceSettings.decode ∧
      RoundTrips (fun _ => True) ReferenceSettings.encode ReferenceSettings.decode ∧
      RoundTrips (fun _ => True) Configuration.encodeCustomizations
        Configuration.decodeCustomizations ∧
      RoundTrips (fun _ => True) Configuration.encode Configuration.decode := by
  refine ⟨⟨?_, ?_, ?_, ?_, ?_, ?_, ?_, ?_, ?_, ?_⟩,
    ⟨?_, ?_, ?_, ?_, ?_, ?_, ?_, ?_, ?_, ?_, ?_, ?_, ?_, ?_, ?_⟩,
    ⟨?_, ?_, ?_, ?_, ?_, ?_, ?_, ?_⟩, ?_, ?_, ?_, ?_, ?_, ?_, ?_⟩
  -- the layouts of stores
  · exact .of_arrange ColumnType.decode_arrange ColumnType.parsed_of_decode
  · exact .of_arrange Column.decode_arrange Column.parsed_of_decode
  · exact .of_arrange SourceLayout.decode_arrange SourceLayout.parsed_of_decode
  · exact .of_all AggregateMode.decode_arrange
  · exact .of_all StorePolicy.decode_arrange
  · exact .of_all DatePart.decode_arrange
  · exact .of_all DerivedField.decode_arrange
  · exact .of_arrange Field.decode_arrange Field.parsed_of_decode
  · exact .of_all Partitioning.decode_arrange
  · exact .of_arrange StoreLayout.decode_arrange StoreLayout.parsed_of_decode
  -- cubes
  · exact .of_all LevelType.decode_arrange
  · exact .of_all Level.decode_arrange
  · exact .of_all Hierarchy.decode_arrange
  · exact .of_all DimensionType.decode_arrange
  · exact .of_all Dimension.decode_arrange
  · exact fun place => .of_all fun harrange => Aggregation.decode_arrange harrange place
  · exact .of_all ExternalMeasure.decode_arrange
  · exact fun place => .of_all fun harrange => Calculation.decode_arrange harrange place
  · exact .of_shows AggregatedMeasure.encodeMembers_eq
      (fun a => by simp [AggregatedMeasure.slots]) AggregatedMeasure.decode_of_shows
  · exact .of_shows DerivedMeasure.encodeMembers_eq
      (fun d => by simp [DerivedMeasure.slots]) DerivedMeasure.decode_of_shows
  · exact .of_all NativeKind.decode_arrange
  · exact .of_shows NativeMeasure.encodeMembers_eq
      (fun n => by simp [NativeMeasure.slots]) NativeMeasure.decode_of_shows
  · exact .of_all Measure.decode_arrange
  · exact .of_all AggregatesCache.decode_arrange
  · exact .of_all Cube.decode_arrange
  -- the model
  · exact .of_all Warning.decode_arrange
  · exact .of_all Catalog.decode_arrange
  · exact .of_all Selection.decode_arrange
  · exact .of_all CubeSchema.decode_arrange
  · exact .of_all Manager.decode_arrange
  · exact .of_arrange Datastore.decode_arrange Datastore.parsed_of_decode
  · exact .of_all SourceBinding.decode_arrange
  · exact .of_arrange Model.decode_arrange Model.parsed_of_decode
  -- manifests and settings
  · exact .of_all Manifest.decodeColumn_arrange
  · exact .of_all Manifest.decode_arrange
  · exact .of_all GeneralSettings.decode_arrange
  · exact .of_all SourceSettings.decode_arrange
  · exact .of_all ReferenceSettings.decode_arrange
  · exact .of_all Configuration.decodeCustomizations_arrange
  · exact .of_all Configuration.decode_arrange

/-- Of a column the tag is read whatever its case, and what is read is written in one way. -/
example :
    Column.decode (.object [("type", .text " INTEGER "), ("note", .null), ("name", .text "qty")]) =
      .ok ⟨"qty", .int⟩ :=
  rfl

end OlapSynthesis
