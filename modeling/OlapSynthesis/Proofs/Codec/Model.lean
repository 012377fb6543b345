import OlapSynthesis.Codec.Model
import OlapSynthesis.Proofs.Codec.Cube

namespace OlapSynthesis
open Codec

variable {arrange : Json → Json}

namespace Warning

def slots : Warning → Slots
  | .unknownPartitionField store field =>
    [("warning", some (.text "unknown_partition_field")), ("store", some (.text store)),
      ("field", some (.text field))]
  | .unknownCharset requested fallback =>
    [("warning", some (.text "unknown_charset")), ("requested", some (.text requested)),
      ("fallback", some (.text fallback))]

theorem shows_encode (harrange : Json.Arranges arrange) (warning : Warning) :
    Shows (arrange warning.encode) (arranged arrange warning.slots) := by
  cases warning <;> exact shows_arrange harrange rfl (by simp [slots])

theorem decode_arrange (harrange : Json.Arranges arrange) (warning : Warning) :
    decode (arrange warning.encode) = .ok warning := by
  have hshows := warning.shows_encode harrange
  cases warning with
  | unknownPartitionField store field =>
    obtain ⟨rest, htag, hrest⟩ := hshows.tagged harrange (by simp)
    obtain ⟨m, hmembers, hread⟩ := hrest.plainMembers ["store", "field"]
    simp only [arranged_cons, arranged_nil, List.forall_mem_cons] at hread
    obtain ⟨hstore, hfield, -⟩ := hread
    have htagOf : tagOf .direct tags (.text "unknown_partition_field") =
        .ok .unknownPartitionField := rfl
    simp [decode, htag, htagOf, hmembers, hstore, hfield, harrange.text]
  | unknownCharset requested fallback =>
    obtain ⟨rest, htag, hrest⟩ := hshows.tagged harrange (by simp)
    obtain ⟨m, hmembers, hread⟩ := hrest.plainMembers ["requested", "fallback"]
    simp only [arranged_cons, arranged_nil, List.forall_mem_cons] at hread
    obtain ⟨hrequested, hfallback, -⟩ := hread
    have htagOf : tagOf .direct tags (.text "unknown_charset") = .ok .unknownCharset := rfl
    simp [decode, htag, htagOf, hmembers, hrequested, hfallback, harrange.text]

end Warning

namespace Catalog

def slots (catalog : Catalog) : Slots :=
  [("name", some (.text catalog.name)), ("cubes", some (.texts catalog.cubes))]

theorem shows_encode (harrange : Json.Arranges arrange) (catalog : Catalog) :
    Shows (arrange catalog.encode) (arranged arrange catalog.slots) :=
  shows_arrange harrange rfl (by simp [slots])

theorem decode_arrange (harrange : Json.Arranges arrange) (catalog : Catalog) :
    decode (arrange catalog.encode) = .ok catalog := by
  obtain ⟨m, hmembers, hread⟩ := (catalog.shows_encode harrange).plainMembers ["name", "cubes"]
  simp only [slots, arranged_cons, arranged_nil, List.forall_mem_cons] at hread
  obtain ⟨hname, hcubes, -⟩ := hread
  simp [decode, hmembers, hname, harrange.text, hcubes, list_texts harrange]

end Catalog

namespace Selection

def slots (selection : Selection) : Slots :=
  [("base_store", some (.text selection.baseStore)), ("fields", some (.texts selection.fields))]

theorem shows_encode (harrange : Json.Arranges arrange) (selection : Selection) :
    Shows (arrange selection.encode) (arranged arrange selection.slots) :=
  shows_arrange harrange rfl (by simp [slots])

theorem decode_arrange (harrange : Json.Arranges arrange) (selection : Selection) :
    decode (arrange selection.encode) = .ok selection := by
  obtain ⟨m, hmembers, hread⟩ := (selection.shows_encode harrange).plainMembers
    ["base_store", "fields"]
  simp only [slots, arranged_cons, arranged_nil, List.forall_mem_cons] at hread
  obtain ⟨hstore, hfields, -⟩ := hread
  simp [decode, hmembers, hstore, harrange.text, hfields, list_texts harrange]

end Selection

namespace CubeSchema

def slots (schema : CubeSchema) : Slots :=
  [("name", some (.text schema.name)), ("selection", some schema.selection.encode),
    ("cubes", some (.array (schema.cubes.map Cube.encode)))]

theorem shows_encode (harrange : Json.Arranges arrange) (schema : CubeSchema) :
    Shows (arrange schema.encode) (arranged arrange schema.slots) :=
  shows_arrange harrange rfl (by simp [slots])

theorem decode_arrange (harrange : Json.Arranges arrange) (schema : CubeSchema) :
    decode (arrange schema.encode) = .ok schema := by
  obtain ⟨m, hmembers, hread⟩ := (schema.shows_encode harrange).plainMembers
    ["name", "selection", "cubes"]
  simp only [slots, arranged_cons, arranged_nil, List.forall_mem_cons] at hread
  obtain ⟨hname, hselection, hcubes, -⟩ := hread
  have hcubesList : list Cube.decode (arrange (.array (schema.cubes.map Cube.encode))) =
      .ok schema.cubes :=
    list_arrange harrange fun cube _ => cube.decode_arrange harrange
  simp [decode, hmembers, hname, harrange.text, hselection, Selection.decode_arrange harrange,
    hcubes, hcubesList]

end CubeSchema

namespace Manager

def slots (manager : Manager) : Slots :=
  [("catalogs", some (.array (manager.catalogs.map Catalog.encode))),
    ("schemas", some (.array (manager.schemas.map CubeSchema.encode)))]

theorem shows_encode (harrange : Json.Arranges arrange) (manager : Manager) :
    Shows (arrange manager.encode) (arranged arrange manager.slots) :=
  shows_arrange harrange rfl (by simp [slots])

theorem decode_arrange (harrange : Json.Arranges arrange) (manager : Manager) :
    decode (arrange manager.encode) = .ok manager := by
  obtain ⟨m, hmembers, hread⟩ := (manager.shows_encode harrange).plainMembers
    ["catalogs", "schemas"]
  simp only [slots, arranged_cons, arranged_nil, List.forall_mem_cons] at hread
  obtain ⟨hcatalogs, hschemas, -⟩ := hread
  have hcatalogsList : list Catalog.decode (arrange (.array (manager.catalogs.map
      Catalog.encode))) = .ok manager.catalogs :=
    list_arrange harrange fun catalog _ => catalog.decode_arrange harrange
  have hschemasList : list CubeSchema.decode (arrange (.array (manager.schemas.map
      CubeSchema.encode))) = .ok manager.schemas :=
    list_arrange harrange fun schema _ => schema.decode_arrange harrange
  simp [decode, hmembers, hcatalogs, hcatalogsList, hschemas, hschemasList]

end Manager

namespace Datastore

def Parsed (datastore : Datastore) : Prop :=
  ∀ store ∈ datastore.stores, store.Parsed

def slots (datastore : Datastore) : Slots :=
  [("stores", some (.array (datastore.stores.map StoreLayout.encode)))]

theorem shows_encode (harrange : Json.Arranges arrange) (datastore : Datastore) :
    Shows (arrange datastore.encode) (arranged arrange datastore.slots) :=
  shows_arrange harrange rfl (by simp [slots])

theorem decode_arrange (harrange : Json.Arranges arrange) {datastore : Datastore}
    (h : datastore.Parsed) : decode (arrange datastore.encode) = .ok datastore := by
  obtain ⟨m, hmembers, hsurplus, hread⟩ := (datastore.shows_encode harrange).members ["stores"]
  simp only [slots, arranged_cons, arranged_nil, List.forall_mem_singleton] at hread
  have hstoresList := list_arrange harrange fun store hstore =>
    StoreLayout.decode_arrange harrange (h store hstore)
  simp [decode, hmembers, settle_eq_ok hsurplus, hread, hstoresList]

theorem parsed_of_decode {j : Json} {datastore : Datastore} (h : decode j = .ok datastore) :
    datastore.Parsed := by
  obtain ⟨m, -, h⟩ := exists_of_bind_eq_ok h
  obtain ⟨-, -, h⟩ := exists_of_bind_eq_ok h
  obtain ⟨stores, hstores, h⟩ := exists_of_bind_eq_ok h
  obtain rfl := Except.ok.inj h
  intro store hstore
  obtain ⟨member, hmember⟩ := exists_of_required hstores
  obtain ⟨item, hitem⟩ := exists_of_list hmember hstore
  exact StoreLayout.parsed_of_decode hitem

end Datastore

namespace SourceBinding

def slots (binding : SourceBinding) : Slots :=
  [("store", some (.text binding.store)), ("separator", some (.text binding.separator.toString)),
    ("charset", some (.text binding.charset)), ("origin", binding.origin.map .text)]

theorem shows_encode (harrange : Json.Arranges arrange) (binding : SourceBinding) :
    Shows (arrange binding.encode) (arranged arrange binding.slots) :=
  shows_arrange harrange (by simp [encode, slots, written_cons, whenSome_eq, written_nil])
    (by simp [slots])

theorem decode_arrange (harrange : Json.Arranges arrange) (binding : SourceBinding) :
    decode (arrange binding.encode) = .ok binding := by
  obtain ⟨m, hmembers, hread⟩ := (binding.shows_encode harrange).plainMembers
    ["store", "separator", "charset", "origin"]
  simp only [slots, arranged_cons, arranged_nil, List.forall_mem_cons] at hread
  obtain ⟨hstore, hseparator, hcharset, horigin, -⟩ := hread
  simp [decode, hmembers, hstore, hseparator, hcharset, harrange.text, horigin,
    orElse_nullable_text harrange]

end SourceBinding

namespace Model

def Parsed (model : Model) : Prop :=
  model.datastore.Parsed

def slots (model : Model) : Slots :=
  [("datastore", some model.datastore.encode), ("manager", some model.manager.encode),
    ("sources", some (.array (model.sources.map SourceBinding.encode))),
    ("warnings", filled Warning.encode model.warnings)]

theorem shows_encode (harrange : Json.Arranges arrange) (model : Model) :
    Shows (arrange model.encode) (arranged arrange model.slots) :=
  shows_arrange harrange (by simp [encode, slots, written_cons, whenFilled_eq, written_nil])
    (by simp [slots])

theorem decode_arrange (harrange : Json.Arranges arrange) {model : Model} (h : model.Parsed) :
    decode (arrange model.encode) = .ok model := by
  obtain ⟨m, hmembers, hsurplus, hread⟩ := (model.shows_encode harrange).members
    ["datastore", "manager", "sources", "warnings"]
  simp only [slots, arranged_cons, arranged_nil, List.forall_mem_cons] at hread
  obtain ⟨hdatastore, hmanager, hsources, hwarnings, -⟩ := hread
  have hsourcesList : list SourceBinding.decode (arrange (.array (model.sources.map
      SourceBinding.encode))) = .ok model.sources :=
    list_arrange harrange fun binding _ => binding.decode_arrange harrange
  have hwarningsList : orElse [] ((filled Warning.encode model.warnings).map
      (list Warning.decode ∘ arrange)) = .ok model.warnings :=
    orElse_filled_arrange harrange fun warning _ => warning.decode_arrange harrange
  simp [decode, hmembers, settle_eq_ok hsurplus, hdatastore, Datastore.decode_arrange harrange h,
    hmanager, Manager.decode_arrange harrange, hsources, hsourcesList, hwarnings, hwarningsList,
    fault_eq_none hwarningsList]

theorem parsed_of_decode {j : Json} {model : Model} (h : decode j = .ok model) :
    model.Parsed := by
  obtain ⟨m, -, h⟩ := exists_of_bind_eq_ok h
  obtain ⟨-, -, h⟩ := exists_of_bind_eq_ok h
  obtain ⟨datastore, hdatastore, h⟩ := exists_of_bind_eq_ok h
  obtain ⟨manager, -, h⟩ := exists_of_bind_eq_ok h
  obtain ⟨sources, -, h⟩ := exists_of_bind_eq_ok h
  obtain ⟨warnings, -, h⟩ := exists_of_bind_eq_ok h
  obtain rfl := Except.ok.inj h
  obtain ⟨member, hmember⟩ := exists_of_required hdatastore
  exact Datastore.parsed_of_decode hmember

end Model

end OlapSynthesis
