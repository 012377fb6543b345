import OlapSynthesis.Proofs.Codec.Store
import OlapSynthesis.Proofs.Synthesis.Builder

namespace OlapSynthesis

open Codec

namespace Column

variable {name tag : String}

/-- Why a name and a tag make no column. The complaint about a tag shows it without the white space
around it. -/
inductive Refused (name tag : String) : ColumnError → Prop
  | blank (h : Text.trim name = "" ∨ Text.trim tag = "") : Refused name tag (.blank name tag)
  | unknownType (named : Text.trim name ≠ "") (tagged : Text.trim tag ≠ "")
      (h : ¬ ColumnType.Known tag) : Refused name tag (.unknownType (Text.trim tag))

theorem parse_eq_error_iff {cause : ColumnError} :
    parse name tag = .error cause ↔ Refused name tag cause := by
  unfold parse
  split
  next hblank =>
    rw [Bool.or_eq_true, ← Text.trim_eq_empty_iff, ← Text.trim_eq_empty_iff] at hblank
    constructor
    · intro h
      cases h
      exact .blank hblank
    · intro h
      cases h with
      | blank => rfl
      | unknownType named tagged => exact absurd hblank (not_or.mpr ⟨named, tagged⟩)
  next hblank =>
    rw [Bool.or_eq_true, ← Text.trim_eq_empty_iff, ← Text.trim_eq_empty_iff] at hblank
    obtain ⟨named, tagged⟩ := not_or.mp hblank
    have hmap : (ColumnType.parse tag).map (mk name) = .error cause ↔
        ColumnType.parse tag = .error cause := by
      cases ColumnType.parse tag <;> simp [Except.map]
    rw [hmap, ColumnType.parse_eq_error_iff tagged]
    constructor
    · rintro ⟨hunknown, rfl⟩
      exact .unknownType named tagged hunknown
    · intro h
      cases h with
      | blank h => exact absurd h hblank
      | unknownType _ _ hunknown => exact ⟨hunknown, rfl⟩

/-- The column has a name as it is written, and the type that its tag names. -/
def WrittenAs (written : String × String) (column : Column) : Prop :=
  column.name = written.1 ∧ ColumnType.parse written.2 = .ok column.type

variable {columns : List (String × String)} {parsed : List Column}

theorem parseTo_iff :
    ParseTo columns parsed ↔
      (∀ written ∈ columns, Text.isBlank written.1 = false) ∧
        List.Forall₂ WrittenAs columns parsed := by
  simp only [ParseTo, parse_eq_ok_iff, ← List.forall₂_and_left]
  rfl

end Column

/-- An object that gives a column by name and tag. -/
def Json.ShowsColumn (j : Json) (written : String × String) : Prop :=
  Shows j [("name", some (.text written.1)), ("type", some (.text written.2))]

/-- An object that is a layout of columns by name and tag. The members may stand in any order, and
there may be more of them. -/
def Json.ShowsColumns (j : Json) (columns : List (String × String)) : Prop :=
  ∃ (sourceName : String) (separator : Char) (origin : Option String) (items : List Json),
    Shows j [("source_name", some (.text sourceName)),
      ("separator", some (.text (String.singleton separator))),
      ("columns", some (.array items)), ("origin", origin.map .text)] ∧
    List.Forall₂ ShowsColumn items columns

section

variable {j : Json} {columns : List (String × String)}

theorem ColumnType.decode_text_eq_ok_iff {tag : String} {type : ColumnType} :
    decode (.text tag) = .ok type ↔ parse tag = .ok type := by
  rw [decode, text_text, ok_bind]
  cases parse tag <;> simp [Except.mapError]

theorem Column.decode_eq_ok_iff {written : String × String} {column : Column}
    (h : j.ShowsColumn written) : decode j = .ok column ↔ WrittenAs written column := by
  obtain ⟨m, hmembers, hsurplus, hread⟩ := Shows.members h ["name", "type"]
  simp only [List.forall_mem_cons, Option.map_some] at hread
  obtain ⟨hname, htype, -⟩ := hread
  rw [WrittenAs, ← ColumnType.decode_text_eq_ok_iff]
  constructor
  · intro hok
    obtain ⟨_, hm, hok⟩ := exists_of_bind_eq_ok hok
    cases hmembers.symm.trans hm
    obtain ⟨-, -, hok⟩ := exists_of_bind_eq_ok hok
    obtain ⟨_, hnameRead, hok⟩ := exists_of_bind_eq_ok hok
    obtain ⟨_, htypeRead, hok⟩ := exists_of_bind_eq_ok hok
    cases hok
    rw [hname, required_some, text_text] at hnameRead
    rw [htype, required_some] at htypeRead
    exact ⟨(Except.ok.inj hnameRead).symm, htypeRead⟩
  · rintro ⟨hwritten, hparse⟩
    simp [decode, hmembers, settle_eq_ok hsurplus, hname, htype, hparse, ← hwritten]

theorem Column.list_decode_eq_ok_iff {items : List Json} {parsed : List Column}
    (h : List.Forall₂ Json.ShowsColumn items columns) :
    list decode (.array items) = .ok parsed ↔ List.Forall₂ WrittenAs columns parsed := by
  rw [list, mapM_eq_ok_iff]
  induction h generalizing parsed with
  | nil => simp
  | cons hfirst _ ih => cases parsed <;> simp [decode_eq_ok_iff hfirst, ih]

theorem SourceLayout.decode_columns_iff (h : j.ShowsColumns columns) {parsed : List Column} :
    (∃ layout, decode j = .ok layout ∧ layout.columns = parsed) ↔
      List.Forall₂ Column.WrittenAs columns parsed := by
  obtain ⟨sourceName, separator, origin, items, hshows, hitems⟩ := h
  obtain ⟨m, hmembers, hsurplus, hread⟩ :=
    hshows.members ["source_name", "separator", "columns", "origin"]
  simp only [List.forall_mem_cons, Option.map_some] at hread
  obtain ⟨hname, hseparator, hcolumns, horigin, -⟩ := hread
  have horiginOption : orElse none (m.read "origin" (nullable text)) = .ok origin := by
    rw [horigin]
    cases origin <;> rfl
  rw [← Column.list_decode_eq_ok_iff hitems]
  constructor
  · rintro ⟨layout, hok, rfl⟩
    obtain ⟨_, hm, hok⟩ := exists_of_bind_eq_ok hok
    cases hmembers.symm.trans hm
    obtain ⟨-, -, hok⟩ := exists_of_bind_eq_ok hok
    obtain ⟨_, -, hok⟩ := exists_of_bind_eq_ok hok
    obtain ⟨_, -, hok⟩ := exists_of_bind_eq_ok hok
    obtain ⟨_, hcolumnsRead, hok⟩ := exists_of_bind_eq_ok hok
    obtain ⟨_, -, hok⟩ := exists_of_bind_eq_ok hok
    cases hok
    rwa [hcolumns, required_some] at hcolumnsRead
  · intro hlist
    refine ⟨⟨sourceName, separator, parsed, origin⟩, ?_, rfl⟩
    simp [decode, hmembers, settle_eq_ok hsurplus, hname, hseparator, hcolumns, hlist,
      horiginOption, fault_eq_none horiginOption]

end

namespace StoreSpec

variable {name : String} {policy : StorePolicy} {columns : List (String × String)}
  {spec : StoreSpec}

/-- Appends columns one after the other. -/
def Builder.addAllTagged (b : Builder) (columns : List (String × String)) :
    Except ColumnError Builder :=
  columns.foldlM (fun b column => b.addTagged column.1 column.2) b

/-- The spec with columns that are added one by one, under a policy. -/
def ofTagged (name : String) (policy : StorePolicy) (columns : List (String × String)) :
    Except StoreError StoreSpec := do
  let b ← (((builder name).withPolicy policy).addAllTagged columns).mapError .column
  b.build

/-- The spec of a layout whose columns are given by name and tag. -/
def ofTaggedLayout (name : String) (policy : StorePolicy) (sourceName : String)
    (separator : Char) (columns : List (String × String)) : Except StoreError StoreSpec := do
  let layout ← (SourceLayout.ofTags sourceName separator columns).mapError .column
  ofLayout name layout policy

/-- The spec of a layout that stands in JSON. -/
def ofJson? (name : String) (policy : StorePolicy) (j : Json) : Option StoreSpec := do
  let layout ← (SourceLayout.decode j).toOption
  (ofLayout name layout policy).toOption

/-- Why some columns make no spec: there are none, or one of them is refused and those before it are
not. -/
inductive Refused (name : String) (columns : List (String × String)) : StoreError → Prop
  | noColumns (h : columns = []) : Refused name columns (.noColumns name)
  | column {before after : List (String × String)} {written : String × String}
      {cause : ColumnError} (hcolumns : columns = before ++ written :: after)
      (accepted : ∀ earlier ∈ before, ∀ cause, ¬ Column.Refused earlier.1 earlier.2 cause)
      (h : Column.Refused written.1 written.2 cause) : Refused name columns (.column cause)

theorem Builder.addAllTagged_eq (b : Builder) :
    b.addAllTagged columns =
      (columns.mapM fun column => Column.parse column.1 column.2) >>= fun parsed =>
        parsed.foldlM Builder.addColumn b := by
  induction columns generalizing b with
  | nil => rfl
  | cons column columns ih =>
    rw [addAllTagged, List.foldlM_cons, List.mapM_cons, Builder.addTagged]
    cases hparse : Column.parse column.1 column.2 with
    | error cause => rfl
    | ok parsed =>
      obtain ⟨next, hadd, -⟩ := b.addColumn_of_named (Column.isBlank_name_of_parse hparse)
      rw [ok_bind, ok_bind, hadd, ok_bind]
      refine (ih next).trans ?_
      cases columns.mapM fun column => Column.parse column.1 column.2 with
      | error cause => rfl
      | ok rest => exact (congrArg (· >>= rest.foldlM Builder.addColumn) hadd).symm

/-- A layout of parsed columns has nothing to refuse that was not refused before. -/
theorem ofTagged_eq_ofLayout (layout : List Column → SourceLayout)
    (hlayout : ∀ parsed, (layout parsed).columns = parsed) :
    ofTagged name policy columns =
      (columns.mapM fun column => Column.parse column.1 column.2).mapError .column >>=
        fun parsed => ofLayout name (layout parsed) policy := by
  rw [ofTagged, Builder.addAllTagged_eq]
  cases hparse : columns.mapM fun column => Column.parse column.1 column.2 with
  | error cause => rfl
  | ok parsed =>
    have named := Column.ParseTo.named (mapM_eq_ok_iff.mp hparse)
    have hvalid : (layout parsed).validate = .ok () :=
      SourceLayout.validate_eq_ok_iff.mpr (by rwa [hlayout])
    simp only [Except.mapError, ok_bind, ofLayout, hvalid, hlayout]

theorem ofTaggedLayout_eq (sourceName : String) (separator : Char) :
    ofTaggedLayout name policy sourceName separator columns = ofTagged name policy columns := by
  rw [ofTagged_eq_ofLayout (⟨sourceName, separator, ·, none⟩) fun _ => rfl, ofTaggedLayout,
    SourceLayout.ofTags]
  cases columns.mapM fun column => Column.parse column.1 column.2 <;> rfl

theorem ofTagged_eq_ok_iff :
    ofTagged name policy columns = .ok spec ↔
      Column.ParseTo columns spec.columns ∧ spec.name = name ∧ spec.policy = policy := by
  rw [ofTagged_eq_ofLayout (⟨"", ',', ·, none⟩) fun _ => rfl]
  constructor
  · intro h
    obtain ⟨parsed, hparsed, hspec⟩ := exists_of_bind_eq_ok h
    obtain ⟨-, hname, hcolumns, hpolicy⟩ := ofLayout_builds_iff.mp hspec
    rw [hcolumns]
    exact ⟨mapM_eq_ok_iff.mp (exists_of_mapError_eq_ok hparsed), hname, hpolicy⟩
  · rintro ⟨hparsed, hname, hpolicy⟩
    rw [mapM_eq_ok_iff.mpr hparsed]
    apply ofLayout_builds_iff.mpr
    exact ⟨fun column hcolumn => Text.trim_ne_empty_iff.mpr (spec.named column hcolumn), hname, rfl,
      hpolicy⟩

theorem ofJson?_eq_some_iff {j : Json} (h : j.ShowsColumns columns) :
    ofJson? name policy j = some spec ↔
      List.Forall₂ Column.WrittenAs columns spec.columns ∧ spec.name = name ∧
        spec.policy = policy := by
  have hspec : ofJson? name policy j = some spec ↔
      ∃ layout, SourceLayout.decode j = .ok layout ∧ ofLayout name layout policy = .ok spec := by
    simp [ofJson?, Option.bind_eq_some_iff, toOption_eq_some_iff]
  rw [hspec, ← SourceLayout.decode_columns_iff h]
  constructor
  · rintro ⟨layout, hlayout, hbuilt⟩
    obtain ⟨-, hname, hcolumns, hpolicy⟩ := ofLayout_builds_iff.mp hbuilt
    exact ⟨⟨layout, hlayout, hcolumns.symm⟩, hname, hpolicy⟩
  · rintro ⟨⟨layout, hlayout, hcolumns⟩, hname, hpolicy⟩
    have named : ∀ column ∈ layout.columns, Text.trim column.name ≠ "" := by
      intro column hcolumn
      exact Text.trim_ne_empty_iff.mpr (spec.named column (hcolumns ▸ hcolumn))
    exact ⟨layout, hlayout, ofLayout_builds_iff.mpr ⟨named, hname, hcolumns.symm, hpolicy⟩⟩

/-- A spec has no blank names, so its columns are parsed if they are written. -/
theorem parseTo_columns_iff :
    Column.ParseTo columns spec.columns ↔ List.Forall₂ Column.WrittenAs columns spec.columns := by
  rw [Column.parseTo_iff, and_iff_right_iff_imp]
  intro h written hwritten
  obtain ⟨column, hcolumn, hname, -⟩ := exists_of_forall₂ h hwritten
  rw [← hname]
  exact spec.named column hcolumn

theorem ofJson?_eq {j : Json} (h : j.ShowsColumns columns) :
    ofJson? name policy j = (ofTagged name policy columns).toOption := by
  apply Option.ext
  intro spec
  rw [toOption_eq_some_iff, ofTagged_eq_ok_iff, parseTo_columns_iff]
  exact ofJson?_eq_some_iff h

theorem exists_spec_of_parseTo {parsed : List Column} (h : Column.ParseTo columns parsed)
    (hcolumns : columns ≠ []) (name : String) (policy : StorePolicy) :
    ∃ spec, ofTagged name policy columns = .ok spec := by
  have hparsed : parsed ≠ [] := by
    rintro rfl
    cases h
    exact hcolumns rfl
  let spec : StoreSpec := ⟨name, policy.partitionField, parsed, policy.cacheSize,
    policy.aggregateMode, hparsed, h.named⟩
  exact ⟨spec, ofTagged_eq_ok_iff.mpr ⟨h, rfl, rfl⟩⟩

theorem ofTagged_eq_error_iff {cause : StoreError} :
    ofTagged name policy columns = .error cause ↔ Refused name columns cause := by
  have hcolumn (cause : ColumnError) :
      (columns.mapM fun column => Column.parse column.1 column.2) = .error cause ↔
        ∃ before written after, columns = before ++ written :: after ∧
          (∀ earlier ∈ before, ∀ other, ¬ Column.Refused earlier.1 earlier.2 other) ∧
          Column.Refused written.1 written.2 cause := by
    simp only [mapM_eq_error_iff, ne_eq, Column.parse_eq_error_iff]
  constructor
  · intro h
    cases hparse : columns.mapM fun column => Column.parse column.1 column.2 with
    | error cause =>
      rw [ofTagged, Builder.addAllTagged_eq, hparse] at h
      cases h
      obtain ⟨before, written, after, heq, accepted, hwritten⟩ := (hcolumn cause).mp hparse
      exact .column heq accepted hwritten
    | ok parsed =>
      cases columns with
      | nil =>
        cases h
        exact .noColumns rfl
      | cons =>
        obtain ⟨spec, hspec⟩ :=
          exists_spec_of_parseTo (mapM_eq_ok_iff.mp hparse) (List.cons_ne_nil _ _) name policy
        cases hspec.symm.trans h
  · intro h
    cases h with
    | noColumns hnil =>
      rw [hnil]
      rfl
    | column heq accepted hwritten =>
      have hparse := (hcolumn _).mpr ⟨_, _, _, heq, accepted, hwritten⟩
      rw [ofTagged, Builder.addAllTagged_eq, hparse]
      rfl

/-- Adding columns one by one and building from a layout of them are the same, also where they fail:
the first column that is refused decides, and without columns it is the store that is refused. From
a layout in JSON the same spec is made, or none where there is none. -/
theorem tagged_ways_agree (name : String) (policy : StorePolicy)
    (columns : List (String × String)) :
    (∀ sourceName separator, ofTaggedLayout name policy sourceName separator columns =
      ofTagged name policy columns) ∧
    (∀ j : Json, j.ShowsColumns columns →
      ofJson? name policy j = (ofTagged name policy columns).toOption) ∧
    ∀ cause, ofTagged name policy columns = .error cause ↔ Refused name columns cause := by
  refine ⟨ofTaggedLayout_eq, ?_, ?_⟩
  · intro j h
    exact ofJson?_eq h
  · intro cause
    exact ofTagged_eq_error_iff

/-- A layout in JSON whose members stand in another order, beside one that it is not about. -/
theorem tagged_ways_agree_rearranged :
    let columns := [("ccy", " String "), ("booked", "Date[yyyy]")]
    let policy : StorePolicy := ⟨some "CCY", some 1000, .bitmap⟩
    let items : List Json := [.object [("type", .text " String "), ("name", .text "ccy")],
      .object [("name", .text "booked"), ("type", .text "Date[yyyy]")]]
    let j : Json := .object [("rows", .nat 7), ("columns", .array items),
      ("separator", .text ";"), ("source_name", .text "trades-2024")]
    j.ShowsColumns columns ∧
      ∃ spec, spec.columns = [⟨"ccy", .string⟩, ⟨"booked", .date "Date[yyyy]"⟩] ∧
        ofTagged "trades" policy columns = .ok spec ∧
        ofTaggedLayout "trades" policy "trades" ',' columns = .ok spec ∧
        ofJson? "trades" policy j = some spec := by
  intro columns policy items j
  have shows : j.ShowsColumns columns := by
    refine ⟨"trades-2024", ';', none, items, ⟨_, rfl, by decide, ?_⟩, .cons ?_ (.cons ?_ .nil)⟩
    · simp only [List.forall_mem_cons]
      exact ⟨rfl, rfl, rfl, rfl, List.forall_mem_nil _⟩
    · refine ⟨_, rfl, by decide, List.forall_mem_cons.mpr ⟨rfl, ?_⟩⟩
      exact List.forall_mem_singleton.mpr rfl
    · refine ⟨_, rfl, by decide, List.forall_mem_cons.mpr ⟨rfl, ?_⟩⟩
      exact List.forall_mem_singleton.mpr rfl
  obtain ⟨hlayout, hjson, -⟩ := tagged_ways_agree "trades" policy columns
  have hspec : ∃ spec, ofTagged "trades" policy columns = .ok spec := ⟨_, rfl⟩
  obtain ⟨spec, hspec⟩ := hspec
  refine ⟨shows, spec, ?_, hspec, ?_, ?_⟩
  · cases hspec
    decide
  · rw [hlayout, hspec]
  · rw [hjson j shows, hspec]
    rfl

/-- The complaint about a tag that names no type does not show the tag as it was given. -/
theorem refused_tag_not_as_given :
    let policy : StorePolicy := ⟨none, none, .justInTime⟩
    let column := ("flag", " boolean ")
    ofTagged "trades" policy [column] = .error (.column (.unknownType "boolean")) ∧
      ofTagged "trades" policy [column] ≠ .error (.column (.unknownType column.2)) ∧
      ofTagged "trades" policy [column] ≠ .error (.column (.blank column.1 column.2)) := by
  intro policy column
  have hparse : Column.parse column.1 column.2 = .error (.unknownType "boolean") := by decide
  have hrefused : ofTagged "trades" policy [column] =
      .error (.column (.unknownType "boolean")) := by
    rw [ofTagged, Builder.addAllTagged_eq, List.mapM_cons, hparse]
    rfl
  rw [hrefused]
  exact ⟨rfl, by simp [column], by simp⟩

end StoreSpec

end OlapSynthesis
