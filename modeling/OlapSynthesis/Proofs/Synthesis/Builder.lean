import OlapSynthesis.Proofs.Except
import OlapSynthesis.Proofs.Synthesis.Layout

namespace OlapSynthesis

theorem Text.trim_ne_empty_iff {s : String} : Text.trim s ≠ "" ↔ Text.isBlank s = false := by
  rw [Ne, Text.trim_eq_empty_iff, Bool.not_eq_true]

theorem ColumnType.isBlank_of_parse {tag : String} {type : ColumnType}
    (h : parse tag = .ok type) : Text.isBlank tag = false := by
  rw [← Text.trim_ne_empty_iff]
  intro hblank
  simp [parse, hblank] at h

namespace Column

theorem parse_eq_ok_iff {name tag : String} {column : Column} :
    parse name tag = .ok column ↔
      Text.isBlank name = false ∧ column.name = name ∧ ColumnType.parse tag = .ok column.type := by
  obtain ⟨columnName, type⟩ := column
  cases hname : Text.isBlank name with
  | true => simp [parse, hname]
  | false =>
    cases htype : ColumnType.parse tag with
    | error cause =>
      rw [parse, htype]
      split <;> simp [Except.map]
    | ok type =>
      simp [parse, hname, ColumnType.isBlank_of_parse htype, htype, Except.map, eq_comm]

theorem isBlank_name_of_parse {name tag : String} {column : Column}
    (h : parse name tag = .ok column) : Text.isBlank column.name = false := by
  obtain ⟨named, rfl, -⟩ := parse_eq_ok_iff.mp h
  exact named

/-- The columns that some names and tags are parsed to. -/
def ParseTo (columns : List (String × String)) (parsed : List Column) : Prop :=
  List.Forall₂ (fun column parsed => parse column.1 column.2 = .ok parsed) columns parsed

theorem ParseTo.named {columns : List (String × String)} {parsed : List Column}
    (h : ParseTo columns parsed) : ∀ column ∈ parsed, Text.isBlank column.name = false := by
  intro column hcolumn
  obtain ⟨written, -, hparse⟩ := exists_of_forall₂ h.flip hcolumn
  exact isBlank_name_of_parse hparse

end Column

namespace StoreSpec

def policy (spec : StoreSpec) : StorePolicy :=
  ⟨spec.partitionField, spec.cacheSize, spec.aggregateMode⟩

namespace Builder

def policy (b : Builder) : StorePolicy :=
  ⟨b.partitionField, b.cacheSize, b.aggregateMode⟩

theorem build_eq_ok_iff {b : Builder} {spec : StoreSpec} :
    b.build = .ok spec ↔
      spec.name = b.name ∧ spec.columns = b.columns ∧ spec.policy = b.policy := by
  constructor
  · intro h
    unfold build at h
    split at h
    · cases h
    · cases h
      exact ⟨rfl, rfl, rfl⟩
  · obtain ⟨name, partitionField, columns, cacheSize, aggregateMode, hasColumns, named⟩ := spec
    rintro ⟨rfl, rfl, hpolicy⟩
    cases hpolicy
    exact dif_neg hasColumns

theorem addColumn_of_named {column : Column} (b : Builder)
    (named : Text.isBlank column.name = false) :
    ∃ next, b.addColumn column = .ok next ∧
      next.name = b.name ∧ next.columns = b.columns ++ [column] ∧ next.policy = b.policy :=
  ⟨_, dif_neg (by simp [named]), rfl, rfl, rfl⟩

theorem addColumn_of_blank {column : Column} (b : Builder)
    (blank : Text.isBlank column.name = true) :
    b.addColumn column = .error (.blank column.name column.type.tag) :=
  dif_pos blank

inductive Step
  | withPartitionField (field : String)
  | withCacheSize (size : Option UInt32)
  | withAggregateMode (mode : AggregateMode)
  | withPolicy (policy : StorePolicy)
  | addColumn (column : Column)
  | addTagged (name tag : String)

namespace Step

/-- The column that a step brings, unless the step is refused. -/
def column? : Step → Option Column
  | .addColumn column => if Text.trim column.name = "" then none else some column
  | .addTagged name tag => (Column.parse name tag).toOption
  | _ => none

def partitionField? : Step → Option (Option String)
  | .withPartitionField field => some (some field)
  | .withPolicy policy => some policy.partitionField
  | _ => none

def cacheSize? : Step → Option (Option UInt32)
  | .withCacheSize size => some size
  | .withPolicy policy => some policy.cacheSize
  | _ => none

def aggregateMode? : Step → Option AggregateMode
  | .withAggregateMode mode => some mode
  | .withPolicy policy => some policy.aggregateMode
  | _ => none

end Step

/-- Takes a step. The steps that bring a column may be refused. -/
def take (b : Builder) : Step → Except ColumnError Builder
  | .withPartitionField field => .ok (b.withPartitionField field)
  | .withCacheSize size => .ok (b.withCacheSize size)
  | .withAggregateMode mode => .ok (b.withAggregateMode mode)
  | .withPolicy policy => .ok (b.withPolicy policy)
  | .addColumn column => b.addColumn column
  | .addTagged name tag => b.addTagged name tag

def after (b : Builder) (step : Step) : Builder :=
  match b.take step with
  | .ok next => next
  | .error _ => b

def run (b : Builder) (steps : List Step) : Builder :=
  steps.foldl after b

/-- What a step does: it brings its column, unless that is refused, and sets the fields it is about.
-/
structure Follows (b : Builder) (step : Step) (next : Builder) : Prop where
  name : next.name = b.name
  columns : next.columns = b.columns ++ step.column?.toList
  partitionField : next.partitionField = step.partitionField?.getD b.partitionField
  cacheSize : next.cacheSize = step.cacheSize?.getD b.cacheSize
  aggregateMode : next.aggregateMode = step.aggregateMode?.getD b.aggregateMode

theorem follows_of_column? {b next : Builder} {step : Step} {column : Column}
    (named : Text.isBlank column.name = false) (hcolumn : step.column? = some column)
    (h : b.addColumn column = .ok next) : b.Follows step next := by
  obtain ⟨_, hadd, hname, hcolumns, hpolicy⟩ := b.addColumn_of_named named
  cases hadd.symm.trans h
  injection hpolicy with hpartition hsize hmode
  rw [← Option.toList_some, ← hcolumn] at hcolumns
  cases step with
  | addColumn | addTagged => exact ⟨hname, hcolumns, hpartition, hsize, hmode⟩
  | withPartitionField | withCacheSize | withAggregateMode | withPolicy => cases hcolumn

theorem after_follows (b : Builder) (step : Step) : b.Follows step (b.after step) := by
  cases step with
  | withPartitionField | withCacheSize | withAggregateMode | withPolicy =>
    exact ⟨rfl, (List.append_nil _).symm, rfl, rfl, rfl⟩
  | addColumn column =>
    simp only [after, take]
    cases hblank : Text.isBlank column.name with
    | true =>
      have hnone : (Step.addColumn column).column? = none :=
        if_pos (Text.trim_eq_empty_iff.mpr hblank)
      rw [addColumn_of_blank b hblank]
      exact ⟨rfl, by rw [hnone]; exact (List.append_nil _).symm, rfl, rfl, rfl⟩
    | false =>
      obtain ⟨next, hadd, -⟩ := b.addColumn_of_named hblank
      rw [hadd]
      exact follows_of_column? hblank (if_neg (Text.trim_ne_empty_iff.mpr hblank)) hadd
  | addTagged name tag =>
    simp only [after, take, addTagged]
    cases hparse : Column.parse name tag with
    | error cause =>
      have hnone : (Step.addTagged name tag).column? = none := congrArg Except.toOption hparse
      exact ⟨rfl, by rw [hnone]; exact (List.append_nil _).symm, rfl, rfl, rfl⟩
    | ok column =>
      have named := Column.isBlank_name_of_parse hparse
      obtain ⟨next, hadd, -⟩ := b.addColumn_of_named named
      rw [ok_bind, hadd]
      exact follows_of_column? named (congrArg Except.toOption hparse) hadd

/-- The value that the steps set last, or the one that was there. -/
def lastSet {α : Type} (set? : Step → Option α) (start : α) (steps : List Step) : α :=
  (steps.filterMap set?).getLast?.getD start

/-- The policy that steps make of a policy. -/
def policyAfter (start : StorePolicy) (steps : List Step) : StorePolicy :=
  ⟨lastSet Step.partitionField? start.partitionField steps,
    lastSet Step.cacheSize? start.cacheSize steps,
    lastSet Step.aggregateMode? start.aggregateMode steps⟩

theorem lastSet_cons {α : Type} (set? : Step → Option α) (start : α) (step : Step)
    (steps : List Step) :
    lastSet set? start (step :: steps) = lastSet set? ((set? step).getD start) steps := by
  unfold lastSet
  cases hset : set? step with
  | none => rw [List.filterMap_cons_none hset, Option.getD_none]
  | some value =>
    rw [List.filterMap_cons_some hset, List.getLast?_cons, Option.getD_some, Option.getD_some]

theorem field_run {α : Type} {field : Builder → α} {set? : Step → Option α}
    (follows : ∀ b step, field (after b step) = (set? step).getD (field b)) (b : Builder)
    (steps : List Step) : field (b.run steps) = lastSet set? (field b) steps := by
  induction steps generalizing b with
  | nil => rfl
  | cons step steps ih =>
    rw [lastSet_cons, ← follows b step]
    exact ih (b.after step)

theorem name_run (b : Builder) (steps : List Step) : (b.run steps).name = b.name := by
  induction steps generalizing b with
  | nil => rfl
  | cons step steps ih => exact (ih (b.after step)).trans (b.after_follows step).name

theorem columns_run (b : Builder) (steps : List Step) :
    (b.run steps).columns = b.columns ++ steps.filterMap Step.column? := by
  induction steps generalizing b with
  | nil => exact (List.append_nil _).symm
  | cons step steps ih =>
    have hbrought : (step :: steps).filterMap Step.column? =
        step.column?.toList ++ steps.filterMap Step.column? := by
      cases hcolumn : step.column? with
      | none => exact List.filterMap_cons_none hcolumn
      | some column => exact List.filterMap_cons_some hcolumn
    rw [hbrought, ← List.append_assoc, ← (b.after_follows step).columns]
    exact ih (b.after step)

theorem policy_run (b : Builder) (steps : List Step) :
    (b.run steps).policy = policyAfter b.policy steps := by
  have hpartition := field_run (fun b step => (b.after_follows step).partitionField) b steps
  have hsize := field_run (fun b step => (b.after_follows step).cacheSize) b steps
  have hmode := field_run (fun b step => (b.after_follows step).aggregateMode) b steps
  rw [policy, hpartition, hsize, hmode]
  rfl

/-- Steps build the spec with the columns that were accepted and the values that were set last. -/
theorem build_run_eq_ok_iff {b : Builder} {steps : List Step} {spec : StoreSpec} :
    (b.run steps).build = .ok spec ↔
      spec.name = b.name ∧ spec.columns = b.columns ++ steps.filterMap Step.column? ∧
        spec.policy = policyAfter b.policy steps := by
  rw [build_eq_ok_iff, name_run, columns_run, policy_run]

variable {columns : List Column}

theorem foldlM_addColumn_of_named (named : ∀ column ∈ columns, Text.isBlank column.name = false)
    (b : Builder) : columns.foldlM addColumn b = .ok (b.run (columns.map .addColumn)) := by
  induction columns generalizing b with
  | nil => rfl
  | cons column columns ih =>
    obtain ⟨next, hadd, -⟩ := b.addColumn_of_named (named column List.mem_cons_self)
    have hafter : b.after (.addColumn column) = next := by simp only [after, take, hadd]
    rw [List.foldlM_cons, hadd, ok_bind, ← hafter]
    exact ih (fun c hc => named c (List.mem_cons_of_mem _ hc)) _

theorem filterMap_column?_of_named (named : ∀ column ∈ columns, Text.isBlank column.name = false) :
    (columns.map Step.addColumn).filterMap Step.column? = columns := by
  rw [List.filterMap_map]
  refine (List.filterMap_congr ?_).trans List.filterMap_some
  intro column hcolumn
  exact if_neg (Text.trim_ne_empty_iff.mpr (named column hcolumn))

theorem policyAfter_addColumns (start : StorePolicy) (columns : List Column) :
    policyAfter start (columns.map .addColumn) = start := by
  induction columns with
  | nil => rfl
  | cons column columns ih => exact ih

end Builder

end StoreSpec

theorem SourceLayout.validate_eq_ok_iff {layout : SourceLayout} :
    layout.validate = .ok () ↔ ∀ column ∈ layout.columns, Text.isBlank column.name = false := by
  have hnone : layout.columns.find? (Text.isBlank ·.name) = none ↔
      ∀ column ∈ layout.columns, Text.isBlank column.name = false := by
    simp only [List.find?_eq_none, Bool.not_eq_true]
  rw [← hnone, validate]
  split <;> simp_all

namespace StoreSpec

/-- A layout makes the spec with its columns, if they all have names, and the policy as it is given.
-/
theorem ofLayout_builds_iff {name : String} {layout : SourceLayout} {policy : StorePolicy}
    {spec : StoreSpec} :
    ofLayout name layout policy = .ok spec ↔
      (∀ column ∈ layout.columns, Text.trim column.name ≠ "") ∧
        spec.name = name ∧ spec.columns = layout.columns ∧ spec.policy = policy := by
  simp only [Text.trim_ne_empty_iff, ← SourceLayout.validate_eq_ok_iff]
  cases hvalid : layout.validate with
  | error cause =>
    constructor
    · intro h
      obtain ⟨_, hmap, -⟩ := exists_of_bind_eq_ok h
      cases hvalid.symm.trans (exists_of_mapError_eq_ok hmap)
    · rintro ⟨h, -⟩
      cases h
  | ok _ =>
    have named := SourceLayout.validate_eq_ok_iff.mp hvalid
    rw [ofLayout, hvalid, Builder.foldlM_addColumn_of_named named]
    simp only [Except.mapError, ok_bind, Builder.build_run_eq_ok_iff,
      Builder.filterMap_column?_of_named named, Builder.policyAfter_addColumns, true_and]
    rfl

theorem name_of_ofLayout {name : String} {layout : SourceLayout} {policy : StorePolicy}
    {spec : StoreSpec} (h : ofLayout name layout policy = .ok spec) : spec.name = name :=
  (ofLayout_builds_iff.mp h).2.1

/-- Whatever the steps, a spec that is built has a column, and no column of it a blank name. Its
columns are those that were accepted, in their order, and each field of its policy is as it was set
last. Nothing else is needed to describe a store or to synthesize it. -/
theorem built_synthesizes :
    (∀ (store : String) (steps : List Builder.Step) (spec : StoreSpec),
      ((builder store).run steps).build = .ok spec ↔
        spec.name = store ∧ spec.columns = steps.filterMap Builder.Step.column? ∧
          spec.policy = Builder.policyAfter ⟨none, none, .justInTime⟩ steps) ∧
    (∀ (name : String) (layout : SourceLayout) (policy : StorePolicy) (spec : StoreSpec),
      ofLayout name layout policy = .ok spec ↔
        (∀ column ∈ layout.columns, Text.trim column.name ≠ "") ∧
          spec.name = name ∧ spec.columns = layout.columns ∧ spec.policy = policy) ∧
    ∀ spec : StoreSpec, spec.columns ≠ [] ∧
      (∀ column ∈ spec.columns, Text.trim column.name ≠ "") ∧
      ∀ (parallelism : UInt64) (registry : Registry), ∃ outcome next,
        spec.describe parallelism = .ok outcome ∧
          spec.synthesize parallelism registry = .ok (outcome, next) := by
  refine ⟨?_, ?_, ?_⟩
  · intro store steps spec
    exact Builder.build_run_eq_ok_iff
  · intro name layout policy spec
    exact ofLayout_builds_iff
  · intro spec
    refine ⟨spec.hasColumns, ?_, ?_⟩
    · intro column hcolumn
      exact Text.trim_ne_empty_iff.mpr (spec.named column hcolumn)
    · intro parallelism registry
      exact ⟨_, _, spec.describe_eq parallelism, spec.synthesize_eq parallelism registry⟩

end StoreSpec

end OlapSynthesis
