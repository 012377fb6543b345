import OlapSynthesis.Codec.Store
import OlapSynthesis.Proofs.Codec.Basic
import OlapSynthesis.Proofs.TypeTags

namespace OlapSynthesis
open Codec

variable {arrange : Json → Json}

namespace ColumnType

/-- Some text names the type. -/
def Parsed (type : ColumnType) : Prop :=
  ∃ text, parse text = .ok type

theorem parse_tag {type : ColumnType} (h : type.Parsed) : parse type.tag = .ok type := by
  obtain ⟨text, hparse⟩ := h
  exact parse_tag_of_parse hparse

theorem decode_arrange (harrange : Json.Arranges arrange) {type : ColumnType} (h : type.Parsed) :
    decode (arrange type.encode) = .ok type := by
  rw [encode, harrange.text, decode, text_text, ok_bind, parse_tag h]
  rfl

theorem parsed_of_decode {j : Json} {type : ColumnType} (h : decode j = .ok type) :
    type.Parsed := by
  obtain ⟨text, -, hparse⟩ := exists_of_bind_eq_ok h
  exact ⟨text, exists_of_mapError_eq_ok hparse⟩

end ColumnType

namespace Column

def Parsed (column : Column) : Prop :=
  column.type.Parsed

def slots (column : Column) : Slots :=
  [("name", some (.text column.name)), ("type", some column.type.encode)]

theorem shows_encode (harrange : Json.Arranges arrange) (column : Column) :
    Shows (arrange column.encode) (arranged arrange column.slots) :=
  shows_arrange harrange rfl (by simp [slots])

theorem decode_arrange (harrange : Json.Arranges arrange) {column : Column} (h : column.Parsed) :
    decode (arrange column.encode) = .ok column := by
  obtain ⟨m, hmembers, hsurplus, hread⟩ := (column.shows_encode harrange).members ["name", "type"]
  simp only [slots, arranged_cons, arranged_nil, List.forall_mem_cons] at hread
  obtain ⟨hname, htype, -⟩ := hread
  simp [decode, hmembers, settle_eq_ok hsurplus, hname, harrange.text, htype,
    ColumnType.decode_arrange harrange h]

theorem parsed_of_decode {j : Json} {column : Column} (h : decode j = .ok column) :
    column.Parsed := by
  obtain ⟨m, -, h⟩ := exists_of_bind_eq_ok h
  obtain ⟨-, -, h⟩ := exists_of_bind_eq_ok h
  obtain ⟨name, -, h⟩ := exists_of_bind_eq_ok h
  obtain ⟨type, htype, h⟩ := exists_of_bind_eq_ok h
  obtain rfl := Except.ok.inj h
  obtain ⟨member, hmember⟩ := exists_of_required htype
  exact ColumnType.parsed_of_decode hmember

end Column

namespace SourceLayout

def Parsed (layout : SourceLayout) : Prop :=
  ∀ column ∈ layout.columns, column.Parsed

def slots (layout : SourceLayout) : Slots :=
  [("source_name", some (.text layout.sourceName)),
    ("separator", some (.text layout.separator.toString)),
    ("columns", some (.array (layout.columns.map Column.encode))),
    ("origin", layout.origin.map .text)]

theorem shows_encode (harrange : Json.Arranges arrange) (layout : SourceLayout) :
    Shows (arrange layout.encode) (arranged arrange layout.slots) :=
  shows_arrange harrange (by simp [encode, slots, written_cons, whenSome_eq, written_nil])
    (by simp [slots])

theorem decode_arrange (harrange : Json.Arranges arrange) {layout : SourceLayout}
    (h : layout.Parsed) : decode (arrange layout.encode) = .ok layout := by
  obtain ⟨m, hmembers, hsurplus, hread⟩ := (layout.shows_encode harrange).members
    ["source_name", "separator", "columns", "origin"]
  simp only [slots, arranged_cons, arranged_nil, List.forall_mem_cons] at hread
  obtain ⟨hname, hseparator, hcolumns, horigin, -⟩ := hread
  have hcolumnsList := list_arrange harrange fun column hcolumn =>
    Column.decode_arrange harrange (h column hcolumn)
  have horiginOption := orElse_nullable_text harrange layout.origin
  simp [decode, hmembers, settle_eq_ok hsurplus, hname, hseparator, harrange.text, hcolumns,
    hcolumnsList, horigin, horiginOption, fault_eq_none horiginOption]

theorem parsed_of_decode {j : Json} {layout : SourceLayout} (h : decode j = .ok layout) :
    layout.Parsed := by
  obtain ⟨m, -, h⟩ := exists_of_bind_eq_ok h
  obtain ⟨-, -, h⟩ := exists_of_bind_eq_ok h
  obtain ⟨name, -, h⟩ := exists_of_bind_eq_ok h
  obtain ⟨separator, -, h⟩ := exists_of_bind_eq_ok h
  obtain ⟨columns, hcolumns, h⟩ := exists_of_bind_eq_ok h
  obtain ⟨origin, -, h⟩ := exists_of_bind_eq_ok h
  obtain rfl := Except.ok.inj h
  intro column hcolumn
  obtain ⟨member, hmember⟩ := exists_of_required hcolumns
  obtain ⟨item, hitem⟩ := exists_of_list hmember hcolumn
  exact Column.parsed_of_decode hitem

end SourceLayout

theorem AggregateMode.decode_arrange (harrange : Json.Arranges arrange) (mode : AggregateMode) :
    decode (arrange mode.encode) = .ok mode := by
  rw [encode, harrange.text]
  cases mode <;> rfl

namespace StorePolicy

def slots (policy : StorePolicy) : Slots :=
  [("partition_field", some (orNull .text policy.partitionField)),
    ("cache_size", some (orNull (fun size => .nat size.toNat) policy.cacheSize)),
    ("aggregate_mode", some policy.aggregateMode.encode)]

theorem shows_encode (harrange : Json.Arranges arrange) (policy : StorePolicy) :
    Shows (arrange policy.encode) (arranged arrange policy.slots) :=
  shows_arrange harrange rfl (by simp [slots])

theorem decode_arrange (harrange : Json.Arranges arrange) (policy : StorePolicy) :
    decode (arrange policy.encode) = .ok policy := by
  obtain ⟨m, hmembers, hread⟩ := (policy.shows_encode harrange).plainMembers
    ["partition_field", "cache_size", "aggregate_mode"]
  simp only [slots, arranged_cons, arranged_nil, List.forall_mem_cons] at hread
  obtain ⟨hfield, hsize, hmode, -⟩ := hread
  have hfieldOption : nullable text (arrange (orNull .text policy.partitionField)) =
      .ok policy.partitionField :=
    nullable_arrange_orNull harrange rfl fun field _ => by rw [harrange.text, text_text]
  have hsizeOption : nullable word32 (arrange (orNull (fun size => .nat size.toNat)
      policy.cacheSize)) = .ok policy.cacheSize :=
    nullable_arrange_orNull harrange rfl fun size _ => by rw [harrange.nat, word32_nat]
  simp [decode, hmembers, hfield, hfieldOption, hsize, hsizeOption, hmode,
    AggregateMode.decode_arrange harrange]

end StorePolicy

theorem DatePart.decode_arrange (harrange : Json.Arranges arrange) (part : DatePart) :
    decode (arrange part.encode) = .ok part := by
  rw [encode, harrange.text]
  cases part <;> rfl

namespace DerivedField

def slots (derived : DerivedField) : Slots :=
  [("source", some (.text derived.source)), ("part", some derived.part.encode)]

theorem shows_encode (harrange : Json.Arranges arrange) (derived : DerivedField) :
    Shows (arrange derived.encode) (arranged arrange derived.slots) :=
  shows_arrange harrange rfl (by simp [slots])

theorem decode_arrange (harrange : Json.Arranges arrange) (derived : DerivedField) :
    decode (arrange derived.encode) = .ok derived := by
  obtain ⟨m, hmembers, hread⟩ := (derived.shows_encode harrange).plainMembers ["source", "part"]
  simp only [slots, arranged_cons, arranged_nil, List.forall_mem_cons] at hread
  obtain ⟨hsource, hpart, -⟩ := hread
  simp [decode, hmembers, hsource, harrange.text, hpart, DatePart.decode_arrange harrange]

end DerivedField

namespace Field

def Parsed (field : Field) : Prop :=
  field.type.Parsed

def slots (field : Field) : Slots :=
  [("name", some (.text field.name)), ("type", some field.type.encode),
    ("indexed", some (.bool field.indexed)), ("derived", field.derived.map DerivedField.encode)]

theorem shows_encode (harrange : Json.Arranges arrange) (field : Field) :
    Shows (arrange field.encode) (arranged arrange field.slots) :=
  shows_arrange harrange (by simp [encode, slots, written_cons, whenSome_eq, written_nil])
    (by simp [slots])

theorem decode_arrange (harrange : Json.Arranges arrange) {field : Field} (h : field.Parsed) :
    decode (arrange field.encode) = .ok field := by
  obtain ⟨m, hmembers, hsurplus, hread⟩ := (field.shows_encode harrange).members
    ["name", "type", "indexed", "derived"]
  simp only [slots, arranged_cons, arranged_nil, List.forall_mem_cons] at hread
  obtain ⟨hname, htype, hindexed, hderived, -⟩ := hread
  have hderivedOption := orElse_nullable (o := field.derived) rfl
    fun derived _ => DerivedField.decode_arrange harrange derived
  simp [decode, hmembers, settle_eq_ok hsurplus, hname, harrange.text, htype,
    ColumnType.decode_arrange harrange h, hindexed, harrange.bool, hderived, hderivedOption,
    fault_eq_none hderivedOption]

theorem parsed_of_decode {j : Json} {field : Field} (h : decode j = .ok field) :
    field.Parsed := by
  obtain ⟨m, -, h⟩ := exists_of_bind_eq_ok h
  obtain ⟨-, -, h⟩ := exists_of_bind_eq_ok h
  obtain ⟨name, -, h⟩ := exists_of_bind_eq_ok h
  obtain ⟨type, htype, h⟩ := exists_of_bind_eq_ok h
  obtain ⟨indexed, -, h⟩ := exists_of_bind_eq_ok h
  obtain ⟨derived, -, h⟩ := exists_of_bind_eq_ok h
  obtain rfl := Except.ok.inj h
  obtain ⟨member, hmember⟩ := exists_of_required htype
  exact ColumnType.parsed_of_decode hmember

end Field

namespace Partitioning

def slots (partitioning : Partitioning) : Slots :=
  [("field", some (.text partitioning.field)),
    ("partition_count", some (.nat partitioning.count.toNat))]

theorem shows_encode (harrange : Json.Arranges arrange) (partitioning : Partitioning) :
    Shows (arrange partitioning.encode) (arranged arrange partitioning.slots) :=
  shows_arrange harrange rfl (by simp [slots])

theorem decode_arrange (harrange : Json.Arranges arrange) (partitioning : Partitioning) :
    decode (arrange partitioning.encode) = .ok partitioning := by
  obtain ⟨m, hmembers, hread⟩ := (partitioning.shows_encode harrange).plainMembers
    ["field", "partition_count"]
  simp only [slots, arranged_cons, arranged_nil, List.forall_mem_cons] at hread
  obtain ⟨hfield, hcount, -⟩ := hread
  simp [decode, hmembers, hfield, harrange.text, hcount, harrange.nat]

end Partitioning

namespace StoreLayout

def Parsed (store : StoreLayout) : Prop :=
  ∀ field ∈ store.fields, field.Parsed

def slots (store : StoreLayout) : Slots :=
  [("name", some (.text store.name)), ("fields", some (.array (store.fields.map Field.encode))),
    ("partitioning", store.partitioning.map Partitioning.encode)]

theorem shows_encode (harrange : Json.Arranges arrange) (store : StoreLayout) :
    Shows (arrange store.encode) (arranged arrange store.slots) :=
  shows_arrange harrange (by simp [encode, slots, written_cons, whenSome_eq, written_nil])
    (by simp [slots])

theorem decode_arrange (harrange : Json.Arranges arrange) {store : StoreLayout}
    (h : store.Parsed) : decode (arrange store.encode) = .ok store := by
  obtain ⟨m, hmembers, hsurplus, hread⟩ := (store.shows_encode harrange).members
    ["name", "fields", "partitioning"]
  simp only [slots, arranged_cons, arranged_nil, List.forall_mem_cons] at hread
  obtain ⟨hname, hfields, hpartitioning, -⟩ := hread
  have hfieldsList := list_arrange harrange fun field hfield =>
    Field.decode_arrange harrange (h field hfield)
  have hoption := orElse_nullable (o := store.partitioning) rfl
    fun partitioning _ => Partitioning.decode_arrange harrange partitioning
  simp [decode, hmembers, settle_eq_ok hsurplus, hname, harrange.text, hfields, hfieldsList,
    hpartitioning, hoption, fault_eq_none hoption]

theorem parsed_of_decode {j : Json} {store : StoreLayout} (h : decode j = .ok store) :
    store.Parsed := by
  obtain ⟨m, -, h⟩ := exists_of_bind_eq_ok h
  obtain ⟨-, -, h⟩ := exists_of_bind_eq_ok h
  obtain ⟨name, -, h⟩ := exists_of_bind_eq_ok h
  obtain ⟨fields, hfields, h⟩ := exists_of_bind_eq_ok h
  obtain ⟨partitioning, -, h⟩ := exists_of_bind_eq_ok h
  obtain rfl := Except.ok.inj h
  intro field hfield
  obtain ⟨member, hmember⟩ := exists_of_required hfields
  obtain ⟨item, hitem⟩ := exists_of_list hmember hfield
  exact Field.parsed_of_decode hitem

end StoreLayout

end OlapSynthesis
