import OlapSynthesis.Codec.Basic
import OlapSynthesis.Store

namespace OlapSynthesis
open Codec

namespace ColumnType

def encode (type : ColumnType) : Json :=
  .text type.tag

def decode (j : Json) : Decoded ColumnType := do
  (ColumnType.parse (← text j)).mapError .typeTag

end ColumnType

namespace Column

def encode (column : Column) : Json :=
  .object [("name", .text column.name), ("type", column.type.encode)]

def decode (j : Json) : Decoded Column := do
  let m ← members ["name", "type"] j
  let name := m.read "name" text
  let type := m.read "type" ColumnType.decode
  m.settle [("name", fault name), ("type", fault type)]
  return ⟨← required name, ← required type⟩

end Column

namespace SourceLayout

def encode (layout : SourceLayout) : Json :=
  .object ([
    ("source_name", .text layout.sourceName),
    ("separator", .text layout.separator.toString),
    ("columns", .array (layout.columns.map Column.encode))] ++
    whenSome "origin" .text layout.origin)

def decode (j : Json) : Decoded SourceLayout := do
  let m ← members ["source_name", "separator", "columns", "origin"] j
  let sourceName := m.read "source_name" text
  let separator := m.read "separator" char
  let columns := m.read "columns" (list Column.decode)
  let origin := m.read "origin" (nullable text)
  m.settle [("source_name", fault sourceName), ("separator", fault separator),
    ("columns", fault columns), ("origin", fault origin)]
  return ⟨← required sourceName, ← required separator, ← required columns, ← orElse none origin⟩

end SourceLayout

namespace AggregateMode

def encode (mode : AggregateMode) : Json :=
  .text mode.name

def decode : Json → Decoded AggregateMode :=
  oneOf .direct [("JUST_IN_TIME", .justInTime), ("just_in_time", .justInTime),
    ("BITMAP", .bitmap), ("bitmap", .bitmap)]

end AggregateMode

namespace StorePolicy

def encode (policy : StorePolicy) : Json :=
  .object [
    ("partition_field", orNull .text policy.partitionField),
    ("cache_size", orNull (fun size => .nat size.toNat) policy.cacheSize),
    ("aggregate_mode", policy.aggregateMode.encode)]

def decode (j : Json) : Decoded StorePolicy := do
  let m ← plainMembers ["partition_field", "cache_size", "aggregate_mode"] j
  return ⟨← orElse none (m.read "partition_field" (nullable text)),
    ← orElse none (m.read "cache_size" (nullable word32)),
    ← required (m.read "aggregate_mode" AggregateMode.decode)⟩

end StorePolicy

def StoreSpec.encode (spec : StoreSpec) : Json :=
  .object [
    ("store_name", .text spec.name),
    ("partition_field", orNull .text spec.partitionField),
    ("columns", .array (spec.columns.map Column.encode)),
    ("cache_size", orNull (fun size => .nat size.toNat) spec.cacheSize),
    ("aggregate_mode", spec.aggregateMode.encode)]

namespace DatePart

def encode (part : DatePart) : Json :=
  .text part.suffix

def decode : Json → Decoded DatePart :=
  oneOf .direct [("YEAR", .year), ("MONTH", .month), ("DAY", .day)]

end DatePart

def FieldValue.encode : FieldValue → Json
  | .int value => .object [("int", .int value)]
  | .text value => .object [("text", .text value)]

namespace DerivedField

def encode (derived : DerivedField) : Json :=
  .object [("source", .text derived.source), ("part", derived.part.encode)]

def decode (j : Json) : Decoded DerivedField := do
  let m ← plainMembers ["source", "part"] j
  return ⟨← required (m.read "source" text), ← required (m.read "part" DatePart.decode)⟩

end DerivedField

namespace Field

def encode (field : Field) : Json :=
  .object ([
    ("name", .text field.name),
    ("type", field.type.encode),
    ("indexed", .bool field.indexed)] ++
    whenSome "derived" DerivedField.encode field.derived)

def decode (j : Json) : Decoded Field := do
  let m ← members ["name", "type", "indexed", "derived"] j
  let name := m.read "name" text
  let type := m.read "type" ColumnType.decode
  let indexed := m.read "indexed" bool
  let derived := m.read "derived" (nullable DerivedField.decode)
  m.settle [("name", fault name), ("type", fault type), ("indexed", fault indexed),
    ("derived", fault derived)]
  return ⟨← required name, ← required type, ← required indexed, ← orElse none derived⟩

end Field

namespace Partitioning

def encode (partitioning : Partitioning) : Json :=
  .object [("field", .text partitioning.field),
    ("partition_count", .nat partitioning.count.toNat)]

def decode (j : Json) : Decoded Partitioning := do
  let m ← plainMembers ["field", "partition_count"] j
  return ⟨← required (m.read "field" text), ← required (m.read "partition_count" word32)⟩

end Partitioning

namespace StoreLayout

def encode (store : StoreLayout) : Json :=
  .object ([
    ("name", .text store.name),
    ("fields", .array (store.fields.map Field.encode))] ++
    whenSome "partitioning" Partitioning.encode store.partitioning)

def decode (j : Json) : Decoded StoreLayout := do
  let m ← members ["name", "fields", "partitioning"] j
  let name := m.read "name" text
  let fields := m.read "fields" (list Field.decode)
  let partitioning := m.read "partitioning" (nullable Partitioning.decode)
  m.settle [("name", fault name), ("fields", fault fields), ("partitioning", fault partitioning)]
  return ⟨← required name, ← required fields, ← orElse none partitioning⟩

end StoreLayout

end OlapSynthesis
