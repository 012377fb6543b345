import OlapSynthesis.Proofs.Text
import OlapSynthesis.Synthesis.Partitioning

namespace OlapSynthesis

theorem ColumnType.isPartitionCandidate_iff {type : ColumnType} :
    type.isPartitionCandidate = true ↔ type ∉ [.long, .float, .double] := by
  cases type <;> simp [isPartitionCandidate, isPureNumeric]

/-- Equality of names up to the case of ASCII letters. -/
def Column.IsCalled (column : Column) (name : String) : Prop :=
  Text.sameIgnoringCase column.name name = true

namespace Partitioning

theorem toNat_countFor (parallelism : UInt64) :
    (countFor parallelism).toNat = min (parallelism.toNat / 2) 4294967295 := by
  have hlt : min (parallelism.toNat / 2) (UInt32.size - 1) < UInt32.size := by
    simp only [UInt32.size]
    omega
  exact UInt32.toNat_ofNat_of_lt hlt

theorem countFor_le_one_iff {parallelism : UInt64} :
    countFor parallelism ≤ 1 ↔ parallelism.toNat < 4 := by
  rw [UInt32.le_iff_toNat_le, toNat_countFor, UInt32.toNat_one]
  omega

end Partitioning

namespace StoreSpec

variable {spec : StoreSpec} {parallelism : UInt64} {field : String} {column : Column}

/-- The spec names a partition key. White space around the name does not count. -/
def Requests (spec : StoreSpec) (field : String) : Prop :=
  field ≠ "" ∧ ∃ asked, spec.partitionField = some asked ∧ Text.trim asked = field

/-- The same store with another partition key asked for, or none. -/
def requesting (spec : StoreSpec) (field : Option String) : StoreSpec :=
  { spec with partitionField := field }

/-- The first column with a property, in the order of the columns. -/
def FirstColumn (spec : StoreSpec) (p : Column → Prop) (column : Column) : Prop :=
  ∃ before after, spec.columns = before ++ column :: after ∧ p column ∧
    ∀ earlier ∈ before, ¬ p earlier

theorem FirstColumn.mem {p : Column → Prop} (h : spec.FirstColumn p column) :
    column ∈ spec.columns := by
  obtain ⟨before, after, hcolumns, -⟩ := h
  rw [hcolumns]
  exact List.mem_append_right _ List.mem_cons_self

theorem FirstColumn.holds {p : Column → Prop} (h : spec.FirstColumn p column) : p column := by
  obtain ⟨before, after, -, hp, -⟩ := h
  exact hp

theorem find?_eq_some_iff {p : Column → Bool} :
    spec.columns.find? p = some column ↔ spec.FirstColumn (p · = true) column := by
  rw [List.find?_eq_some_iff_append, FirstColumn]
  constructor
  · rintro ⟨hp, before, after, hcolumns, hbefore⟩
    exact ⟨before, after, hcolumns, hp, by simpa using hbefore⟩
  · rintro ⟨before, after, hcolumns, hp, hbefore⟩
    exact ⟨hp, before, after, hcolumns, by simpa using hbefore⟩

theorem partitionOverride_eq_some_iff :
    spec.partitionOverride = some field ↔ spec.Requests field := by
  simp [partitionOverride, Requests, Option.filter_eq_some_iff, and_comm]

theorem Requests.unique {other : String} (h : spec.Requests field) (hother : spec.Requests other) :
    field = other :=
  Option.some.inj ((partitionOverride_eq_some_iff.mpr h).symm.trans
    (partitionOverride_eq_some_iff.mpr hother))

theorem defaultPartitioning_eq_some_iff {count : UInt32} {partitioning : Partitioning} :
    spec.defaultPartitioning count = some partitioning ↔
      ∃ column, spec.FirstColumn (·.type ∉ [.long, .float, .double]) column ∧
        partitioning = ⟨column.name, count⟩ := by
  simp only [defaultPartitioning, Option.map_eq_some_iff, find?_eq_some_iff,
    ColumnType.isPartitionCandidate_iff, eq_comm (b := partitioning)]

theorem defaultPartitioning_eq_none_iff {count : UInt32} :
    spec.defaultPartitioning count = none ↔
      ∀ column ∈ spec.columns, column.type ∈ [.long, .float, .double] := by
  simp only [defaultPartitioning, Option.map_eq_none_iff, List.find?_eq_none,
    ColumnType.isPartitionCandidate_iff, Decidable.not_not]

/-- How a partitioning is chosen. -/
inductive Chooses (spec : StoreSpec) (parallelism : UInt64) : PartitionChoice → Prop
  | tooFew (few : parallelism.toNat < 4) : Chooses spec parallelism ⟨none, none⟩
  | found {field : String} {column : Column} (many : 4 ≤ parallelism.toNat)
      (asked : spec.Requests field) (first : spec.FirstColumn (·.IsCalled field) column) :
      Chooses spec parallelism ⟨some ⟨column.name, Partitioning.countFor parallelism⟩, none⟩
  | missing {field : String} (many : 4 ≤ parallelism.toNat) (asked : spec.Requests field)
      (absent : ∀ column ∈ spec.columns, ¬ column.IsCalled field) :
      Chooses spec parallelism ⟨spec.defaultPartitioning (Partitioning.countFor parallelism),
        some (.unknownPartitionField spec.name field)⟩
  | unasked (many : 4 ≤ parallelism.toNat) (h : ∀ field, ¬ spec.Requests field) :
      Chooses spec parallelism ⟨spec.defaultPartitioning (Partitioning.countFor parallelism), none⟩

theorem choosePartitioning_chooses (spec : StoreSpec) (parallelism : UInt64) :
    spec.Chooses parallelism (spec.choosePartitioning parallelism) := by
  rw [choosePartitioning]
  by_cases hfew : Partitioning.countFor parallelism ≤ 1
  · rw [if_pos hfew]
    exact .tooFew (Partitioning.countFor_le_one_iff.mp hfew)
  · rw [if_neg hfew]
    rw [Partitioning.countFor_le_one_iff, Nat.not_lt] at hfew
    cases hoverride : spec.partitionOverride with
    | none =>
      apply Chooses.unasked hfew
      intro field hfield
      cases hoverride.symm.trans (partitionOverride_eq_some_iff.mpr hfield)
    | some field =>
      have hasked := partitionOverride_eq_some_iff.mp hoverride
      cases hfind : spec.findColumn? field with
      | some column =>
        simp only [hfind]
        exact .found hfew hasked (find?_eq_some_iff.mp hfind)
      | none =>
        simp only [hfind]
        exact .missing hfew hasked (List.find?_eq_none.mp hfind)

/-- What a choice of partitioning must be like. -/
structure Fits (spec : StoreSpec) (parallelism : UInt64) (choice : PartitionChoice) : Prop where
  tooFew : parallelism.toNat < 4 → choice = ⟨none, none⟩
  count : 4 ≤ parallelism.toNat → ∀ partitioning ∈ choice.partitioning,
    partitioning.count.toNat = min (parallelism.toNat / 2) 4294967295
  found : 4 ≤ parallelism.toNat → ∀ field, spec.Requests field →
    (∃ column ∈ spec.columns, column.IsCalled field) →
    choice.warning = none ∧ ∃ column, spec.FirstColumn (·.IsCalled field) column ∧
      choice.partitioning.map (·.field) = some column.name
  missing : 4 ≤ parallelism.toNat → ∀ field, spec.Requests field →
    (¬ ∃ column ∈ spec.columns, column.IsCalled field) →
    choice.warning = some (.unknownPartitionField spec.name field) ∧
      choice.partitioning = ((spec.requesting none).choosePartitioning parallelism).partitioning
  unasked : 4 ≤ parallelism.toNat → (∀ field, ¬ spec.Requests field) →
    choice.warning = none ∧
      (∀ column, spec.FirstColumn (·.type ∉ [.long, .float, .double]) column →
        choice.partitioning.map (·.field) = some column.name) ∧
      (choice.partitioning = none ↔
        ∀ column ∈ spec.columns, column.type ∈ [.long, .float, .double])

namespace Chooses

variable {choice : PartitionChoice}

theorem eq_of_lt (h : spec.Chooses parallelism choice) (few : parallelism.toNat < 4) :
    choice = ⟨none, none⟩ := by
  cases h with
  | tooFew => rfl
  | found many | missing many | unasked many => omega

theorem eq_of_unasked (h : spec.Chooses parallelism choice) (many : 4 ≤ parallelism.toNat)
    (unasked : ∀ field, ¬ spec.Requests field) :
    choice = ⟨spec.defaultPartitioning (Partitioning.countFor parallelism), none⟩ := by
  cases h with
  | tooFew few => omega
  | found _ asked | missing _ asked => exact absurd asked (unasked _)
  | unasked => rfl

theorem exists_first (h : spec.Chooses parallelism choice) (many : 4 ≤ parallelism.toNat)
    (asked : spec.Requests field) (called : ∃ column ∈ spec.columns, column.IsCalled field) :
    ∃ column, spec.FirstColumn (·.IsCalled field) column ∧
      choice = ⟨some ⟨column.name, Partitioning.countFor parallelism⟩, none⟩ := by
  obtain ⟨column, hcolumn, hcalled⟩ := called
  cases h with
  | tooFew few => omega
  | found _ asked' first =>
    obtain rfl := asked.unique asked'
    exact ⟨_, first, rfl⟩
  | missing _ asked' absent =>
    obtain rfl := asked.unique asked'
    exact absurd hcalled (absent column hcolumn)
  | unasked _ unasked => exact absurd asked (unasked _)

theorem eq_of_absent (h : spec.Chooses parallelism choice) (many : 4 ≤ parallelism.toNat)
    (asked : spec.Requests field) (absent : ¬ ∃ column ∈ spec.columns, column.IsCalled field) :
    choice = ⟨spec.defaultPartitioning (Partitioning.countFor parallelism),
      some (.unknownPartitionField spec.name field)⟩ := by
  cases h with
  | tooFew few => omega
  | found _ asked' first =>
    obtain rfl := asked.unique asked'
    exact absurd ⟨_, first.mem, first.holds⟩ absent
  | missing _ asked' =>
    obtain rfl := asked.unique asked'
    rfl
  | unasked _ unasked => exact absurd asked (unasked _)

/-- A store is partitioned on one of its columns, into at least two parts. -/
theorem column_of_partitioning {partitioning : Partitioning} (h : spec.Chooses parallelism choice)
    (hpartitioning : choice.partitioning = some partitioning) :
    4 ≤ parallelism.toNat ∧ partitioning.count = Partitioning.countFor parallelism ∧
      ∃ column ∈ spec.columns, column.name = partitioning.field := by
  cases h with
  | tooFew => cases hpartitioning
  | found many asked first =>
    cases hpartitioning
    exact ⟨many, rfl, _, first.mem, rfl⟩
  | missing many | unasked many =>
    obtain ⟨column, first, rfl⟩ := defaultPartitioning_eq_some_iff.mp hpartitioning
    exact ⟨many, rfl, column, first.mem, rfl⟩

end Chooses

theorem not_requests_requesting_none (spec : StoreSpec) (field : String) :
    ¬ (spec.requesting none).Requests field := by
  rintro ⟨-, asked, hasked, -⟩
  cases hasked

/-- The choice of a partitioning is as it must be, for every store and every parallelism. -/
theorem choosePartitioning_fits (spec : StoreSpec) (parallelism : UInt64) :
    spec.Fits parallelism (spec.choosePartitioning parallelism) := by
  have hchooses := spec.choosePartitioning_chooses parallelism
  refine ⟨hchooses.eq_of_lt, ?_, ?_, ?_, ?_⟩
  · intro many partitioning hpartitioning
    obtain ⟨-, hcount, -⟩ := hchooses.column_of_partitioning hpartitioning
    rw [hcount]
    exact Partitioning.toNat_countFor parallelism
  · intro many field asked called
    obtain ⟨column, first, hchoice⟩ := hchooses.exists_first many asked called
    rw [hchoice]
    exact ⟨rfl, column, first, rfl⟩
  · intro many field asked absent
    have hunasked := ((spec.requesting none).choosePartitioning_chooses parallelism).eq_of_unasked
      many spec.not_requests_requesting_none
    rw [hchooses.eq_of_absent many asked absent, hunasked]
    exact ⟨rfl, rfl⟩
  · intro many unasked
    rw [hchooses.eq_of_unasked many unasked]
    refine ⟨rfl, ?_, defaultPartitioning_eq_none_iff⟩
    intro column first
    have hdefault : spec.defaultPartitioning (Partitioning.countFor parallelism) =
        some ⟨column.name, Partitioning.countFor parallelism⟩ :=
      defaultPartitioning_eq_some_iff.mpr ⟨column, first, rfl⟩
    rw [hdefault]
    rfl

theorem requests_name (hcolumn : column ∈ spec.columns) :
    (spec.requesting (some column.name)).Requests (Text.trim column.name) := by
  have named : Text.trim column.name ≠ "" := by
    rw [Ne, Text.trim_eq_empty_iff, spec.named column hcolumn]
    exact Bool.false_ne_true
  exact ⟨named, column.name, rfl, rfl⟩

/-- A column is found under its own name if and only if no white space stands around that name,
since the name is asked for without it. -/
theorem chosen_by_own_name_iff (hcolumn : column ∈ spec.columns)
    (many : 4 ≤ parallelism.toNat) :
    let choice := (spec.requesting (some column.name)).choosePartitioning parallelism
    (choice.warning = none ∧ ∃ chosen ∈ spec.columns, chosen.IsCalled column.name ∧
      choice.partitioning.map (·.field) = some chosen.name) ↔
        Text.trim column.name = column.name := by
  intro choice
  have hchooses : (spec.requesting (some column.name)).Chooses parallelism choice :=
    choosePartitioning_chooses _ _
  have asked := requests_name hcolumn
  constructor
  · rintro ⟨hwarning, chosen, -, hchosen, hpartitioning⟩
    by_cases called : ∃ other ∈ spec.columns, other.IsCalled (Text.trim column.name)
    · obtain ⟨first, hfirst, hchoice⟩ := hchooses.exists_first many asked called
      rw [hchoice] at hpartitioning
      have hname : first.name = chosen.name := Option.some.inj hpartitioning
      have hsame := hfirst.holds
      rw [Column.IsCalled, hname] at hsame
      exact Text.trim_eq_self_of_sameIgnoringCase hsame hchosen
    · rw [hchooses.eq_of_absent many asked called] at hwarning
      cases hwarning
  · intro htrim
    have called : ∃ other ∈ spec.columns, other.IsCalled (Text.trim column.name) := by
      rw [htrim]
      exact ⟨column, hcolumn, Text.sameIgnoringCase_self _⟩
    obtain ⟨first, hfirst, hchoice⟩ := hchooses.exists_first many asked called
    rw [htrim] at hfirst
    rw [hchoice]
    exact ⟨rfl, first, hfirst.mem, hfirst.holds, rfl⟩

/-- Two columns that differ in case only: either is found under its own name, but it is the first
that is chosen. -/
theorem chosen_by_own_name_in_other_case :
    let desk : Column := ⟨"Desk", .string⟩
    let other : Column := ⟨"DESK", .double⟩
    let spec : StoreSpec := ⟨"trades", none, [⟨"price", .double⟩, desk, other], none, .bitmap,
      by simp, by decide⟩
    let choice := (spec.requesting (some other.name)).choosePartitioning 4
    other ∈ spec.columns ∧ 4 ≤ (4 : UInt64).toNat ∧ choice.warning = none ∧
      (∃ chosen ∈ spec.columns, chosen.IsCalled other.name ∧
        choice.partitioning.map (·.field) = some chosen.name) ∧
      choice.partitioning.map (·.field) = some desk.name := by
  intro desk other spec choice
  have hcolumn : other ∈ spec.columns := by simp [spec]
  have many : 4 ≤ (4 : UInt64).toNat := by decide
  obtain ⟨hwarning, hchosen⟩ := (chosen_by_own_name_iff hcolumn many).mpr (by decide)
  exact ⟨hcolumn, many, hwarning, hchosen, by decide⟩

/-- A column with a blank before its name: asked for by this name it is not found, and the store is
partitioned on another column. -/
theorem not_chosen_by_padded_name :
    let column : Column := ⟨" ccy", .string⟩
    let spec : StoreSpec := ⟨"trades", none, [⟨"desk", .string⟩, column], none, .justInTime,
      by simp, by decide⟩
    let choice := (spec.requesting (some column.name)).choosePartitioning 8
    column ∈ spec.columns ∧ choice.warning = some (.unknownPartitionField "trades" "ccy") ∧
      choice.partitioning = some ⟨"desk", 4⟩ ∧
      ¬ ∃ chosen ∈ spec.columns, chosen.IsCalled column.name ∧
        choice.partitioning.map (·.field) = some chosen.name := by
  intro column spec choice
  refine ⟨by simp [spec], by decide, by decide, ?_⟩
  rintro ⟨chosen, hchosen, hcalled, hpartitioning⟩
  have hdesk : choice.partitioning.map (·.field) = some "desk" := by decide
  rw [hdesk] at hpartitioning
  rw [Column.IsCalled, ← Option.some.inj hpartitioning] at hcalled
  exact absurd hcalled (by decide)

end StoreSpec

end OlapSynthesis
