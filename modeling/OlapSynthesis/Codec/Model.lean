import OlapSynthesis.Codec.Cube
import OlapSynthesis.Model

namespace OlapSynthesis
open Codec

namespace Warning

inductive Tag
  | unknownPartitionField
  | unknownCharset

def tags : List (String × Tag) :=
  [("unknown_partition_field", .unknownPartitionField), ("unknown_charset", .unknownCharset)]

def encode : Warning → Json
  | .unknownPartitionField store field =>
    .object [("warning", .text "unknown_partition_field"), ("store", .text store),
      ("field", .text field)]
  | .unknownCharset requested fallback =>
    .object [("warning", .text "unknown_charset"), ("requested", .text requested),
      ("fallback", .text fallback)]

def decode (j : Json) : Decoded Warning := do
  let (tag, rest) ← tagged "warning" j
  match ← tagOf .direct tags tag with
  | .unknownPartitionField =>
    let m ← plainMembers ["store", "field"] rest
    return .unknownPartitionField (← required (m.read "store" text))
      (← required (m.read "field" text))
  | .unknownCharset =>
    let m ← plainMembers ["requested", "fallback"] rest
    return .unknownCharset (← required (m.read "requested" text))
      (← required (m.read "fallback" text))

end Warning

namespace Catalog

def encode (catalog : Catalog) : Json :=
  .object [("name", .text catalog.name), ("cubes", .texts catalog.cubes)]

def decode (j : Json) : Decoded Catalog := do
  let m ← plainMembers ["name", "cubes"] j
  return ⟨← required (m.read "name" text), ← required (m.read "cubes" (list text))⟩

end Catalog

namespace Selection

def encode (selection : Selection) : Json :=
  .object [("base_store", .text selection.baseStore), ("fields", .texts selection.fields)]

def decode (j : Json) : Decoded Selection := do
  let m ← plainMembers ["base_store", "fields"] j
  return ⟨← required (m.read "base_store" text), ← required (m.read "fields" (list text))⟩

end Selection

namespace CubeSchema

def encode (schema : CubeSchema) : Json :=
  .object [("name", .text schema.name), ("selection", schema.selection.encode),
    ("cubes", .array (schema.cubes.map Cube.encode))]

def decode (j : Json) : Decoded CubeSchema := do
  let m ← plainMembers ["name", "selection", "cubes"] j
  return ⟨← required (m.read "name" text), ← required (m.read "selection" Selection.decode),
    ← required (m.read "cubes" (list Cube.decode))⟩

end CubeSchema

namespace Manager

def encode (manager : Manager) : Json :=
  .object [("catalogs", .array (manager.catalogs.map Catalog.encode)),
    ("schemas", .array (manager.schemas.map CubeSchema.encode))]

def decode (j : Json) : Decoded Manager := do
  let m ← plainMembers ["catalogs", "schemas"] j
  return ⟨← required (m.read "catalogs" (list Catalog.decode)),
    ← required (m.read "schemas" (list CubeSchema.decode))⟩

end Manager

namespace Datastore

def encode (datastore : Datastore) : Json :=
  .object [("stores", .array (datastore.stores.map StoreLayout.encode))]

def decode (j : Json) : Decoded Datastore := do
  let m ← members ["stores"] j
  let stores := m.read "stores" (list StoreLayout.decode)
  m.settle [("stores", fault stores)]
  return ⟨← required stores⟩

end Datastore

namespace SourceBinding

def encode (binding : SourceBinding) : Json :=
  .object ([("store", .text binding.store), ("separator", .text binding.separator.toString),
    ("charset", .text binding.charset)] ++ whenSome "origin" .text binding.origin)

def decode (j : Json) : Decoded SourceBinding := do
  let m ← plainMembers ["store", "separator", "charset", "origin"] j
  return ⟨← required (m.read "store" text), ← required (m.read "separator" char),
    ← required (m.read "charset" text), ← orElse none (m.read "origin" (nullable text))⟩

end SourceBinding

namespace Model

def encode (model : Model) : Json :=
  .object ([("datastore", model.datastore.encode), ("manager", model.manager.encode),
    ("sources", .array (model.sources.map SourceBinding.encode))] ++
    whenFilled "warnings" Warning.encode model.warnings)

def decode (j : Json) : Decoded Model := do
  let m ← members ["datastore", "manager", "sources", "warnings"] j
  let datastore := m.read "datastore" Datastore.decode
  let manager := m.read "manager" Manager.decode
  let sources := m.read "sources" (list SourceBinding.decode)
  let warnings := m.read "warnings" (list Warning.decode)
  m.settle [("datastore", fault datastore), ("manager", fault manager),
    ("sources", fault sources), ("warnings", fault warnings)]
  return ⟨← required datastore, ← required manager, ← required sources, ← orElse [] warnings⟩

end Model

end OlapSynthesis
