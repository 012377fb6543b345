import OlapSynthesis.Proofs.Except
import OlapSynthesis.Proofs.Synthesis.Layout

namespace OlapSynthesis

namespace Field

variable {columns : List Column} {fields : List Field}

def partsOf (date : String) : List Field :=
  [⟨date ++ "." ++ "YEAR", .int, true, some ⟨date, .year⟩⟩,
    ⟨date ++ "." ++ "MONTH", .string, true, some ⟨date, .month⟩⟩,
    ⟨date ++ "." ++ "DAY", .int, true, some ⟨date, .day⟩⟩]

/-- The column that a field is for, if it is for one. -/
def column (field : Field) : Column :=
  ⟨field.name, field.type⟩

/-- A list of fields whose last, if there is one, comes from the source. -/
def EndsInSource (fields : List Field) : Prop :=
  ∀ last ∈ fields.getLast?, last.isSynthetic = false

/-- What some columns are laid out as. -/
inductive LaidOut : List Column → List Field → Prop
  | nil : LaidOut [] []
  | plain {column : Column} {columns : List Column} {fields : List Field}
      (hdate : column.type.isDate = false) (rest : LaidOut columns fields) :
      LaidOut (column :: columns) (ofColumn column :: fields)
  | date {column : Column} {columns : List Column} {fields : List Field}
      (hdate : column.type.isDate = true) (rest : LaidOut columns fields) :
      LaidOut (column :: columns) (partsOf column.name ++ ofColumn column :: fields)

theorem laidOut_allFields (columns : List Column) :
    LaidOut columns (columns.flatMap Column.allFields) := by
  induction columns with
  | nil => exact .nil
  | cons column columns ih =>
    rw [List.flatMap_cons, Column.allFields, Column.partFields, List.append_assoc]
    cases hdate : column.type.isDate with
    | false => exact .plain hdate ih
    | true => exact .date hdate ih

theorem EndsInSource.nil : EndsInSource [] := by
  intro last hlast
  cases hlast

theorem EndsInSource.append_cons {field : Field} (h : EndsInSource fields)
    (hfield : field.isSynthetic = false) (front : List Field) :
    EndsInSource (front ++ field :: fields) := by
  intro last hlast
  cases fields with
  | nil =>
    rw [List.getLast?_concat] at hlast
    cases hlast
    exact hfield
  | cons next rest =>
    apply h
    simpa using hlast

theorem isSynthetic_of_mem_partsOf {date : String} {field : Field} (h : field ∈ partsOf date) :
    field.isSynthetic = true := by
  simp only [partsOf, List.mem_cons, List.not_mem_nil, or_false] at h
  rcases h with rfl | rfl | rfl
  · rfl
  · rfl
  · rfl

/-- A field of the source does not stand among synthetic ones. -/
theorem append_eq_of_isSynthetic {parts rest before after : List Field} {field : Field}
    (hparts : ∀ part ∈ parts, part.isSynthetic = true) (hsource : field.isSynthetic = false)
    (h : parts ++ rest = before ++ field :: after) :
    ∃ between, before = parts ++ between ∧ rest = between ++ field :: after := by
  rcases List.append_eq_append_iff.mp h with ⟨between, hbefore, hrest⟩ | ⟨inside, hinside, hafter⟩
  · exact ⟨between, hbefore, hrest⟩
  · cases inside with
    | nil => exact ⟨[], by simpa using hinside.symm, hafter.symm⟩
    | cons part inside =>
      obtain ⟨rfl, -⟩ := List.cons.inj hafter
      have hsynthetic := hparts field (by simp [hinside])
      rw [hsynthetic] at hsource
      cases hsource

namespace LaidOut

variable (h : LaidOut columns fields)

include h

theorem source_columns : (fields.filter (!·.isSynthetic)).map column = columns := by
  induction h with
  | nil => rfl
  | plain _ _ ih => exact congrArg (_ :: ·) ih
  | date _ _ ih => exact congrArg (_ :: ·) ih

theorem synthetic : fields.filter (·.isSynthetic) =
    (columns.filter (·.type.isDate)).flatMap (partsOf ·.name) := by
  induction h with
  | nil => rfl
  | @plain column columns fields hdate _ ih =>
    change fields.filter (·.isSynthetic) = _
    rw [List.filter_cons, hdate]
    exact ih
  | @date column columns fields hdate _ ih =>
    change partsOf column.name ++ fields.filter (·.isSynthetic) = _
    rw [List.filter_cons, hdate, ih]
    rfl

theorem length_eq : fields.length = columns.length + 3 * columns.countP (·.type.isDate) := by
  induction h with
  | nil => rfl
  | plain hdate _ ih =>
    rw [List.length_cons, ih, List.length_cons, List.countP_cons, hdate, if_neg Bool.false_ne_true]
    omega
  | date hdate _ ih =>
    rw [List.length_append, List.length_cons, ih, List.length_cons, List.countP_cons, hdate,
      if_pos rfl]
    simp only [partsOf, List.length_cons, List.length_nil]
    omega

/-- The parts stand before a date in the layout and after it in the selection. -/
theorem names_perm : (fields.map (·.name)).Perm (Selection.ofColumns columns) := by
  induction h with
  | nil => exact .nil
  | @plain column _ _ hdate _ ih =>
    have hselected : column.selected = [column.name] := by
      rw [Column.selected, hdate]
      rfl
    rw [Selection.ofColumns, List.flatMap_cons, hselected]
    exact ih.cons column.name
  | @date column _ _ hdate _ ih =>
    have hselected : column.selected = column.name :: (partsOf column.name).map (·.name) := by
      rw [Column.selected, hdate]
      rfl
    rw [Selection.ofColumns, List.flatMap_cons, hselected, List.map_append, List.map_cons]
    apply List.perm_middle.trans
    exact (ih.append_left _).cons column.name

theorem eq_ofColumn {field : Field} (hfield : field ∈ fields)
    (hsource : field.isSynthetic = false) : field = ofColumn field.column := by
  induction h with
  | nil => cases hfield
  | plain _ _ ih =>
    rcases List.mem_cons.mp hfield with rfl | hrest
    · rfl
    · exact ih hrest
  | date _ _ ih =>
    rcases List.mem_append.mp hfield with hpart | hfield
    · rw [isSynthetic_of_mem_partsOf hpart] at hsource
      cases hsource
    · rcases List.mem_cons.mp hfield with rfl | hrest
      · rfl
      · exact ih hrest

theorem indexed_iff {field : Field} (hfield : field ∈ fields)
    (hsource : field.isSynthetic = false) :
    field.indexed = true ↔
      field.type = .int ∨ field.type = .string ∨ field.type.isDate = true := by
  rw [h.eq_ofColumn hfield hsource]
  obtain ⟨name, type, -, -⟩ := field
  cases type <;> simp [ofColumn, column, ColumnType.isIndexed, ColumnType.isDate]

/-- A field of the source follows its parts, if it is a date, and these follow another field of the
source or nothing. -/
theorem preceded {before after : List Field} {field : Field}
    (hfields : fields = before ++ field :: after) (hsource : field.isSynthetic = false) :
    ∃ earlier, before = earlier ++ (if field.type.isDate then partsOf field.name else []) ∧
      EndsInSource earlier := by
  induction h generalizing before with
  | nil => simp at hfields
  | @plain column _ _ hdate _ ih =>
    cases before with
    | nil =>
      obtain ⟨rfl, -⟩ := List.cons.inj hfields
      have htype : (ofColumn column).type.isDate = false := hdate
      rw [htype]
      exact ⟨[], rfl, .nil⟩
    | cons first before =>
      obtain ⟨rfl, hrest⟩ := List.cons.inj hfields
      obtain ⟨earlier, rfl, hends⟩ := ih hrest
      exact ⟨ofColumn column :: earlier, rfl, hends.append_cons rfl []⟩
  | @date column _ _ hdate _ ih =>
    obtain ⟨between, rfl, hrest⟩ :=
      append_eq_of_isSynthetic (fun _ => isSynthetic_of_mem_partsOf) hsource hfields
    cases between with
    | nil =>
      obtain ⟨rfl, -⟩ := List.cons.inj hrest
      have htype : (ofColumn column).type.isDate = true := hdate
      rw [htype]
      exact ⟨[], rfl, .nil⟩
    | cons first between =>
      obtain ⟨rfl, hlater⟩ := List.cons.inj hrest
      obtain ⟨earlier, rfl, hends⟩ := ih hlater
      refine ⟨partsOf column.name ++ ofColumn column :: earlier, ?_, hends.append_cons rfl _⟩
      rw [List.append_assoc]
      rfl

end LaidOut

/-- Fields that keep all columns, in order, and beside them have the parts of the dates, each right
before its date. The selection names the same fields. -/
structure Lossless (columns : List Column) (fields : List Field) : Prop where
  source : (fields.filter (!·.isSynthetic)).map column = columns
  synthetic : fields.filter (·.isSynthetic) =
    (columns.filter (·.type.isDate)).flatMap (partsOf ·.name)
  preceded : ∀ before field after, fields = before ++ field :: after → field.isSynthetic = false →
    ∃ earlier, before = earlier ++ (if field.type.isDate then partsOf field.name else []) ∧
      EndsInSource earlier
  indexed : ∀ field ∈ fields, field.isSynthetic = false →
    (field.indexed = true ↔
      field.type = .int ∨ field.type = .string ∨ field.type.isDate = true)
  selected : (fields.map (·.name)).Perm (Selection.ofColumns columns)
  length : fields.length = columns.length + 3 * columns.countP (·.type.isDate)

theorem LaidOut.lossless (h : LaidOut columns fields) : Lossless columns fields where
  source := h.source_columns
  synthetic := h.synthetic
  preceded _ _ _ hfields hsource := h.preceded hfields hsource
  indexed _ hfield hsource := h.indexed_iff hfield hsource
  selected := h.names_perm
  length := h.length_eq

theorem ofColumns_of_blank {before after : List Column} {column : Column}
    (named : ∀ earlier ∈ before, Text.isBlank earlier.name = false)
    (blank : Text.isBlank column.name = true) :
    ofColumns (before ++ column :: after) = .error (.blank column.name column.type.tag) := by
  have hcolumn : column.fields = .error (.blank column.name column.type.tag) := by
    rw [Column.fields, Column.checkName, if_pos blank]
    rfl
  have hmapM : (before ++ column :: after).mapM Column.fields =
      .error (.blank column.name column.type.tag) := by
    apply mapM_eq_error_iff.mpr
    refine ⟨before, column, after, rfl, ?_, hcolumn⟩
    intro earlier hearlier cause herror
    rw [Column.fields_of_named (named earlier hearlier)] at herror
    cases herror
  rw [ofColumns, hmapM]
  rfl

/-- Columns that have names are laid out without loss; otherwise the first one without a name is
refused. -/
theorem ofColumns_lossless (columns : List Column) :
    ((∀ column ∈ columns, Text.isBlank column.name = false) →
      ∃ fields, ofColumns columns = .ok fields ∧ Lossless columns fields) ∧
    ∀ before column after, columns = before ++ column :: after →
      (∀ earlier ∈ before, Text.isBlank earlier.name = false) →
      Text.isBlank column.name = true →
      ofColumns columns = .error (.blank column.name column.type.tag) := by
  constructor
  · intro named
    exact ⟨_, ofColumns_of_named named, (laidOut_allFields columns).lossless⟩
  · rintro before column after rfl named blank
    exact ofColumns_of_blank named blank

/-- Two columns of one name, of which the later one is a date. -/
theorem ofColumns_lossless_repeated_name :
    let columns : List Column := [⟨"booked", .long⟩, ⟨"booked", .date "Date"⟩, ⟨"ccy", .string⟩]
    (∀ column ∈ columns, Text.isBlank column.name = false) ∧
      ∃ fields, ofColumns columns = .ok fields ∧ Lossless columns fields ∧ fields.length = 6 := by
  intro columns
  have named : ∀ column ∈ columns, Text.isBlank column.name = false := by decide
  obtain ⟨fields, hfields, hlossless⟩ := (ofColumns_lossless columns).1 named
  exact ⟨named, fields, hfields, hlossless, hlossless.length⟩

end Field

end OlapSynthesis
