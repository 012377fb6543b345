import OlapSynthesis.CommandLine
import OlapSynthesis.JsonSchema.Published
import OlapSynthesis.Proofs.Codec.Model
import OlapSynthesis.Proofs.JsonSchema.Conformance

namespace OlapSynthesis

open Codec JsonSchema

variable {arrange : Json → Json}

theorem Column.conforms_encode (harrange : Json.Arranges arrange) (column : Column) :
    JsonSchema.column.Conforms (arrange column.encode) := by
  refine .described (conforms_record (column.shows_encode harrange) ?_ ?_) _
  · exact .some (conforms_text harrange _) (.some (conforms_text harrange _) .nil)
  · simp [slots, arranged]

theorem SourceLayout.conforms_encode (harrange : Json.Arranges arrange) (layout : SourceLayout) :
    JsonSchema.sourceLayout.Conforms (arrange layout.encode) := by
  refine .described (conforms_record (layout.shows_encode harrange) ?_ ?_) _
  · refine .some (.described (conforms_text harrange _) _) ?_
    refine .some (conforms_character harrange _) ?_
    refine .some (conforms_array harrange fun column _ =>
      .reference (column.conforms_encode harrange) _) ?_
    exact .map (fun _ _ => .described (conforms_textOrNull harrange _) _) .nil
  · simp [slots, arranged]

theorem DatePart.conforms_encode (harrange : Json.Arranges arrange) (part : DatePart) :
    JsonSchema.datePart.Conforms (arrange part.encode) := by
  cases part <;> (rw [encode, harrange.text]; rfl)

theorem DerivedField.conforms_encode (harrange : Json.Arranges arrange) (derived : DerivedField) :
    JsonSchema.derivedField.Conforms (arrange derived.encode) := by
  refine .described (conforms_record (derived.shows_encode harrange) ?_ ?_) _
  · refine .some (conforms_text harrange _) ?_
    exact .some (.reference (derived.part.conforms_encode harrange) _) .nil
  · simp [slots, arranged]

theorem Field.conforms_encode (harrange : Json.Arranges arrange) (field : Field) :
    JsonSchema.field.Conforms (arrange field.encode) := by
  refine .described (conforms_record (field.shows_encode harrange) ?_ ?_) _
  · refine .some (conforms_text harrange _) (.some (conforms_text harrange _) ?_)
    refine .some (.described (conforms_boolean harrange _) _) ?_
    refine .map (fun derived _ => .described (.orNull (.reference ?_ _)) _) .nil
    exact derived.conforms_encode harrange
  · simp [slots, arranged]

theorem Partitioning.conforms_encode (harrange : Json.Arranges arrange)
    (partitioning : Partitioning) :
    JsonSchema.partitioning.Conforms (arrange partitioning.encode) := by
  refine .described (conforms_record (partitioning.shows_encode harrange) ?_ ?_) _
  · exact .some (conforms_text harrange _) (.some (conforms_word32 harrange _) .nil)
  · simp [slots, arranged]

theorem StoreLayout.conforms_encode (harrange : Json.Arranges arrange) (store : StoreLayout) :
    JsonSchema.storeLayout.Conforms (arrange store.encode) := by
  refine .described (conforms_record (store.shows_encode harrange) ?_ ?_) _
  · refine .some (conforms_text harrange _) ?_
    refine .some (conforms_array harrange fun field _ =>
      .reference (field.conforms_encode harrange) _) ?_
    refine .map (fun partitioning _ => .orNull (.reference ?_ _)) .nil
    exact partitioning.conforms_encode harrange
  · simp [slots, arranged]

theorem LevelType.conforms_encode (harrange : Json.Arranges arrange) (type : LevelType) :
    JsonSchema.levelType.Conforms (arrange type.encode) := by
  cases type <;> (rw [encode, harrange.text]; rfl)

theorem Level.conforms_encode (harrange : Json.Arranges arrange) (level : Level) :
    JsonSchema.level.Conforms (arrange level.encode) := by
  refine .described (conforms_record (level.shows_encode harrange) ?_ ?_) _
  · refine .some (conforms_text harrange _) ?_
    refine .some (.described (conforms_text harrange _) _) ?_
    refine .map (fun _ _ => conforms_textOrNull harrange _) ?_
    exact .some (.withDefault (.reference (level.type.conforms_encode harrange) _) _) .nil
  · simp [slots, arranged]

theorem Hierarchy.conforms_encode (harrange : Json.Arranges arrange) (h : Hierarchy) :
    JsonSchema.hierarchy.Conforms (arrange h.encode) := by
  refine .described (conforms_record (h.shows_encode harrange) ?_ ?_) _
  · refine .some (conforms_text harrange _) ?_
    refine .some (conforms_array harrange fun level _ =>
      .reference (level.conforms_encode harrange) _) ?_
    refine .some (.withDefault (conforms_boolean harrange _) _) ?_
    refine .map (fun _ _ => .described (conforms_textOrNull harrange _) _) ?_
    refine .map (fun _ _ => conforms_textOrNull harrange _) ?_
    refine .some (.withDefault (conforms_boolean harrange _) _) ?_
    exact .entered harrange (fun _ _ => conforms_text harrange _) .nil
  · simp [slots, arranged]

theorem DimensionType.conforms_encode (harrange : Json.Arranges arrange) (type : DimensionType) :
    JsonSchema.dimensionType.Conforms (arrange type.encode) := by
  cases type <;> (rw [encode, harrange.text]; rfl)

theorem Dimension.conforms_encode (harrange : Json.Arranges arrange) (d : Dimension) :
    JsonSchema.dimension.Conforms (arrange d.encode) := by
  refine .described (conforms_record (d.shows_encode harrange) ?_ ?_) _
  · refine .some (conforms_text harrange _) ?_
    refine .some (.withDefault (.reference (d.type.conforms_encode harrange) _) _) ?_
    refine .some (conforms_array harrange fun hierarchy _ =>
      .reference (hierarchy.conforms_encode harrange) _) ?_
    exact .entered harrange (fun _ _ => conforms_text harrange _) .nil
  · simp [slots, arranged]

theorem Aggregation.conforms_encode (harrange : Json.Arranges arrange)
    (aggregation : Aggregation) :
    JsonSchema.aggregation.Conforms (arrange aggregation.encode) := by
  cases aggregation with
  | plugin key => rw [encode, harrange.single, harrange.text]; rfl
  | _ => rw [encode, harrange.text]; rfl

theorem ExternalMeasure.conforms_of_shows (harrange : Json.Arranges arrange) {e : ExternalMeasure}
    {j : Json} (h : Shows j (arranged arrange e.slots)) :
    JsonSchema.externalMeasure.Conforms j := by
  refine .described (conforms_record h ?_ ?_) _
  · refine .some (conforms_text harrange _) ?_
    refine .entered harrange (fun _ _ => conforms_text harrange _) ?_
    exact .filled harrange (fun _ _ => conforms_text harrange _) .nil
  · simp [slots, arranged]

theorem asksFor_calculation :
    List.Forall₂ (fun branch tag => branch.AsksFor "type" tag) JsonSchema.calculation.branches
      ["formula", "leaf_count", "external"] := by
  refine .cons ?_ (.cons ?_ (.cons ?_ .nil))
  · exact .described (asksFor_record List.mem_cons_self List.mem_cons_self) _
  · exact .described (asksFor_record List.mem_cons_self List.mem_cons_self) _
  · exact asksFor_tagged

theorem Calculation.conforms_encode (harrange : Json.Arranges arrange)
    (calculation : Calculation) :
    JsonSchema.calculation.Conforms (arrange calculation.encode) := by
  have hshows := calculation.shows_encode harrange
  cases calculation with
  | formula expression =>
    refine conforms_of_branch asksFor_calculation (by decide) List.mem_cons_self ?_
    refine .described (conforms_record hshows ?_ (by simp [slots, arranged])) _
    exact .some (conforms_constant harrange _) (.some (conforms_text harrange _) .nil)
  | leafCount levels =>
    refine conforms_of_branch asksFor_calculation (by decide)
      (List.mem_cons_of_mem _ List.mem_cons_self) ?_
    refine .described (conforms_record hshows ?_ (by simp [slots, arranged])) _
    exact .some (conforms_constant harrange _) (.some (conforms_texts harrange _) .nil)
  | external plugin =>
    refine conforms_of_branch asksFor_calculation (by decide)
      (List.mem_cons_of_mem _ (List.mem_cons_of_mem _ List.mem_cons_self)) ?_
    exact conforms_tagged harrange hshows (ExternalMeasure.conforms_of_shows harrange hshows.tail)

theorem NativeKind.conforms_encode (harrange : Json.Arranges arrange) (kind : NativeKind) :
    JsonSchema.nativeKind.Conforms (arrange kind.encode) := by
  cases kind <;> (rw [encode, harrange.text]; rfl)

theorem AggregatedMeasure.conforms_of_shows (harrange : Json.Arranges arrange)
    {a : AggregatedMeasure} {j : Json} (h : Shows j (arranged arrange a.slots)) :
    JsonSchema.aggregatedMeasure.Conforms j := by
  refine conforms_record h ?_ (by simp [slots, arranged])
  refine .some (conforms_text harrange _) ?_
  refine .some (.described (conforms_text harrange _) _) ?_
  refine .some (.reference (a.aggregation.conforms_encode harrange) _) ?_
  refine .map (fun _ _ => conforms_textOrNull harrange _) ?_
  refine .map (fun _ _ => conforms_textOrNull harrange _) ?_
  exact .some (conforms_boolean harrange _) .nil

theorem DerivedMeasure.conforms_of_shows (harrange : Json.Arranges arrange)
    {d : DerivedMeasure} {j : Json} (h : Shows j (arranged arrange d.slots)) :
    JsonSchema.derivedMeasure.Conforms j := by
  refine conforms_record h ?_ (by simp [slots, arranged])
  refine .some (conforms_text harrange _) ?_
  refine .some (.reference (d.calculation.conforms_encode harrange) _) ?_
  refine .map (fun _ _ => conforms_textOrNull harrange _) ?_
  refine .map (fun _ _ => conforms_textOrNull harrange _) ?_
  exact .some (conforms_boolean harrange _) .nil

theorem NativeMeasure.conforms_of_shows (harrange : Json.Arranges arrange) {n : NativeMeasure}
    {j : Json} (h : Shows j (arranged arrange n.slots)) :
    JsonSchema.nativeMeasure.Conforms j := by
  refine conforms_record h ?_ (by simp [slots, arranged])
  refine .some (.reference (n.kind.conforms_encode harrange) _) ?_
  refine .map (fun _ _ => conforms_textOrNull harrange _) ?_
  refine .map (fun _ _ => conforms_textOrNull harrange _) ?_
  exact .some (conforms_boolean harrange _) .nil

theorem asksFor_measure :
    List.Forall₂ (fun branch tag => branch.AsksFor "measure" tag) JsonSchema.measure.branches
      ["aggregated", "derived", "native"] :=
  .cons asksFor_tagged (.cons asksFor_tagged (.cons asksFor_tagged .nil))

theorem Measure.conforms_encode (harrange : Json.Arranges arrange) (measure : Measure) :
    JsonSchema.measure.Conforms (arrange measure.encode) := by
  have hshows := measure.shows_encode harrange
  cases measure with
  | aggregated a =>
    refine conforms_of_branch asksFor_measure (by decide) List.mem_cons_self ?_
    exact conforms_tagged harrange hshows
      (AggregatedMeasure.conforms_of_shows harrange hshows.tail)
  | derived d =>
    refine conforms_of_branch asksFor_measure (by decide)
      (List.mem_cons_of_mem _ List.mem_cons_self) ?_
    exact conforms_tagged harrange hshows (DerivedMeasure.conforms_of_shows harrange hshows.tail)
  | native n =>
    refine conforms_of_branch asksFor_measure (by decide)
      (List.mem_cons_of_mem _ (List.mem_cons_of_mem _ List.mem_cons_self)) ?_
    exact conforms_tagged harrange hshows (NativeMeasure.conforms_of_shows harrange hshows.tail)

theorem AggregateMode.conforms_encode (harrange : Json.Arranges arrange) (mode : AggregateMode) :
    JsonSchema.aggregateMode.Conforms (arrange mode.encode) := by
  cases mode <;> (rw [encode, harrange.text]; rfl)

theorem AggregatesCache.conforms_encode (harrange : Json.Arranges arrange)
    (cache : AggregatesCache) :
    JsonSchema.aggregatesCache.Conforms (arrange cache.encode) := by
  refine .described (conforms_record (cache.shows_encode harrange) ?_ ?_) _
  · exact .some (conforms_word32 harrange _) .nil
  · simp [slots, arranged]

theorem Cube.conforms_encode (harrange : Json.Arranges arrange) (cube : Cube) :
    JsonSchema.cube.Conforms (arrange cube.encode) := by
  refine .described (conforms_record (cube.shows_encode harrange) ?_ ?_) _
  · refine .some (conforms_text harrange _) ?_
    refine .some (conforms_array harrange fun dimension _ =>
      .reference (dimension.conforms_encode harrange) _) ?_
    refine .some (conforms_array harrange fun measure _ =>
      .reference (measure.conforms_encode harrange) _) ?_
    refine .some (.withDefault (.reference (cube.aggregateMode.conforms_encode harrange) _) _) ?_
    exact .map (fun cache _ => .orNull (.reference (cache.conforms_encode harrange) _)) .nil
  · simp [slots, arranged]

theorem Catalog.conforms_encode (harrange : Json.Arranges arrange) (catalog : Catalog) :
    JsonSchema.catalog.Conforms (arrange catalog.encode) := by
  refine .described (conforms_record (catalog.shows_encode harrange) ?_ ?_) _
  · exact .some (conforms_text harrange _) (.some (conforms_texts harrange _) .nil)
  · simp [slots, arranged]

theorem Selection.conforms_encode (harrange : Json.Arranges arrange) (selection : Selection) :
    JsonSchema.selection.Conforms (arrange selection.encode) := by
  refine .described (conforms_record (selection.shows_encode harrange) ?_ ?_) _
  · exact .some (conforms_text harrange _) (.some (conforms_texts harrange _) .nil)
  · simp [slots, arranged]

theorem CubeSchema.conforms_encode (harrange : Json.Arranges arrange) (schema : CubeSchema) :
    JsonSchema.cubeSchema.Conforms (arrange schema.encode) := by
  refine .described (conforms_record (schema.shows_encode harrange) ?_ ?_) _
  · refine .some (conforms_text harrange _) ?_
    refine .some (.reference (schema.selection.conforms_encode harrange) _) ?_
    exact .some (conforms_array harrange fun cube _ =>
      .reference (cube.conforms_encode harrange) _) .nil
  · simp [slots, arranged]

theorem Manager.conforms_encode (harrange : Json.Arranges arrange) (manager : Manager) :
    JsonSchema.manager.Conforms (arrange manager.encode) := by
  refine .described (conforms_record (manager.shows_encode harrange) ?_ ?_) _
  · refine .some (conforms_array harrange fun catalog _ =>
      .reference (catalog.conforms_encode harrange) _) ?_
    exact .some (conforms_array harrange fun schema _ =>
      .reference (schema.conforms_encode harrange) _) .nil
  · simp [slots, arranged]

theorem Datastore.conforms_encode (harrange : Json.Arranges arrange) (datastore : Datastore) :
    JsonSchema.datastore.Conforms (arrange datastore.encode) := by
  refine .described (conforms_record (datastore.shows_encode harrange) ?_ ?_) _
  · exact .some (conforms_array harrange fun store _ =>
      .reference (store.conforms_encode harrange) _) .nil
  · simp [slots, arranged]

theorem SourceBinding.conforms_encode (harrange : Json.Arranges arrange)
    (binding : SourceBinding) :
    JsonSchema.sourceBinding.Conforms (arrange binding.encode) := by
  refine .described (conforms_record (binding.shows_encode harrange) ?_ ?_) _
  · refine .some (conforms_text harrange _) (.some (conforms_character harrange _) ?_)
    refine .some (.described (conforms_text harrange _) _) ?_
    exact .map (fun _ _ => conforms_textOrNull harrange _) .nil
  · simp [slots, arranged]

theorem asksFor_warning :
    List.Forall₂ (fun branch tag => branch.AsksFor "warning" tag) JsonSchema.warning.branches
      ["unknown_partition_field", "unknown_charset"] := by
  refine .cons ?_ (.cons ?_ .nil)
  · exact .described (asksFor_record List.mem_cons_self List.mem_cons_self) _
  · exact .described (asksFor_record List.mem_cons_self List.mem_cons_self) _

theorem Warning.conforms_encode (harrange : Json.Arranges arrange) (warning : Warning) :
    JsonSchema.warning.Conforms (arrange warning.encode) := by
  have hshows := warning.shows_encode harrange
  cases warning with
  | unknownPartitionField store field =>
    refine conforms_of_branch asksFor_warning (by decide) List.mem_cons_self ?_
    refine .described (conforms_record hshows ?_ (by simp [slots, arranged])) _
    refine .some (conforms_constant harrange _) ?_
    exact .some (conforms_text harrange _) (.some (conforms_text harrange _) .nil)
  | unknownCharset requested fallback =>
    refine conforms_of_branch asksFor_warning (by decide)
      (List.mem_cons_of_mem _ List.mem_cons_self) ?_
    refine .described (conforms_record hshows ?_ (by simp [slots, arranged])) _
    refine .some (conforms_constant harrange _) ?_
    exact .some (conforms_text harrange _) (.some (conforms_text harrange _) .nil)

theorem Model.conforms_encode (harrange : Json.Arranges arrange) (model : Model) :
    JsonSchema.model.Conforms (arrange model.encode) := by
  refine conforms_record (model.shows_encode harrange) ?_ (by simp [slots, arranged])
  refine .some (.reference (model.datastore.conforms_encode harrange) _) ?_
  refine .some (.reference (model.manager.conforms_encode harrange) _) ?_
  refine .some (conforms_array harrange fun binding _ =>
    .reference (binding.conforms_encode harrange) _) ?_
  exact .filled harrange (fun warning _ => .reference (warning.conforms_encode harrange) _) .nil

namespace JsonSchema

/-- Every encoding passes for the schema of a name, as it is written and in key order. -/
def Describes {α : Type} (name : String) (encode : α → Json) : Prop :=
  ∀ a, validate name (encode a) = .ok () ∧ validate name (encode a).canonical = .ok ()

theorem validate_eq_ok {name : String} {schema : JsonSchema} {value : Json}
    (hpublished : published? name = some schema) (h : schema.Conforms value) :
    validate name value = .ok () := by
  rw [validate, hpublished]
  dsimp only
  rw [h]

theorem Describes.of_conforms {α : Type} {name : String} {schema : JsonSchema}
    {encode : α → Json} (hpublished : published? name = some schema)
    (h : ∀ {arrange}, Json.Arranges arrange → ∀ a, schema.Conforms (arrange (encode a))) :
    Describes name encode :=
  fun a => ⟨validate_eq_ok hpublished (h Json.arranges_id a),
    validate_eq_ok hpublished (h Json.arranges_canonical a)⟩

end JsonSchema

theorem CommandLine.generate_eq (workplace : Workplace) (settingsFile : Option String) :
    generate workplace settingsFile = (do
      let configuration ← (workplace.configuration settingsFile).mapError .workplace
      let survey := (workplace.discovery settingsFile).survey
      let model ← (configuration.generate survey workplace.processors).mapError .generation
      return model.encode.canonical) := by
  have haccepts (model : Model) :
      JsonSchema.model.accepts model.encode.canonical = true :=
    List.isEmpty_iff.mpr (model.conforms_encode Json.arranges_canonical)
  simp only [generate, haccepts, if_pos]

/-- What is encoded passes for the schema that is published for it, so that no model which has been
generated is turned down before it is delivered. -/
theorem encodings_conform :
    (Describes "generated_model" Model.encode ∧
      Describes "discovered_schema" SourceLayout.encode ∧
      Describes "store_description" StoreLayout.encode ∧
      Describes "cube_description" Cube.encode ∧
      Describes "dimension_spec" Dimension.encode ∧
      Describes "measure_spec" Measure.encode ∧
      Describes "manager_description" Manager.encode ∧
      Describes "warning" Warning.encode) ∧
    ∀ workplace settingsFile, CommandLine.generate workplace settingsFile = (do
      let configuration ← (workplace.configuration settingsFile).mapError .workplace
      let survey := (workplace.discovery settingsFile).survey
      let model ← (configuration.generate survey workplace.processors).mapError .generation
      return model.encode.canonical) := by
  refine ⟨⟨?_, ?_, ?_, ?_, ?_, ?_, ?_, ?_⟩, CommandLine.generate_eq⟩
  · exact .of_conforms rfl Model.conforms_encode
  · exact .of_conforms rfl SourceLayout.conforms_encode
  · exact .of_conforms rfl StoreLayout.conforms_encode
  · exact .of_conforms rfl Cube.conforms_encode
  · exact .of_conforms rfl Dimension.conforms_encode
  · exact .of_conforms rfl Measure.conforms_encode
  · exact .of_conforms rfl Manager.conforms_encode
  · exact .of_conforms rfl Warning.conforms_encode

/-- A warning that does not say what stands in for the charset is neither of the two. -/
example :
    validate "warning" (.object [("warning", .text "unknown_charset"), ("requested", .text "x")]) =
      .error (.violated "warning" [[]]) :=
  rfl

end OlapSynthesis
