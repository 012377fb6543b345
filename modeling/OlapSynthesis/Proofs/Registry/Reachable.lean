import OlapSynthesis.Proofs.Except
import OlapSynthesis.Proofs.Registry.Sharing

namespace OlapSynthesis

namespace Registry

/-- A registry that has been in use. A cube may have been changed in any way, through any handle. -/
inductive Reachable : Registry → Prop
  | empty : Reachable .empty
  | asked {registry : Registry} (reachable : Reachable registry) (store : String) :
    Reachable (registry.getOrCreate store).2
  | changed {registry : Registry} (reachable : Reachable registry) (handle : Handle)
    (change : Cube → Cube) : Reachable (registry.update handle change)

namespace Reachable

variable {registry : Registry}

theorem separate (reachable : registry.Reachable) : registry.Separate := by
  induction reachable with
  | empty => exact .empty
  | asked _ store ih => exact ih.getOrCreate store
  | changed _ handle change ih => exact ih.update handle change

/-- There is no cell that no store leads to. -/
theorem exists_store (reachable : registry.Reachable) {handle : Handle}
    (h : handle.cell < registry.cells.slots.length) :
    ∃ store, registry.get? store = some handle := by
  induction reachable with
  | empty => exact absurd h (Nat.not_lt_zero _)
  | @asked registry _ store ih =>
    cases hget : registry.get? store with
    | some held =>
      rw [getOrCreate_of_some hget] at h ⊢
      exact ih h
    | none =>
      by_cases hold : handle.cell < registry.cells.slots.length
      · obtain ⟨other, hother⟩ := ih hold
        exact ⟨other, get?_getOrCreate_of_get? hother store⟩
      · rw [getOrCreate_of_none hget] at h
        simp only [Cells.allocate, List.length_append, List.length_singleton] at h
        have hnew : handle = ⟨registry.cells.slots.length⟩ :=
          congrArg Handle.mk (by omega : handle.cell = registry.cells.slots.length)
        refine ⟨store, ?_⟩
        rw [get?_getOrCreate, if_pos rfl, getOrCreate_of_none hget, hnew]
        rfl
  | changed _ other change ih =>
    rw [update, Cells.length_update] at h
    exact ih h

theorem updateStore (reachable : registry.Reachable) (store : String) (change : Cube → Cube) :
    (registry.updateStore store change).Reachable :=
  (reachable.asked store).changed _ change

theorem setCacheSize (reachable : registry.Reachable) (store : String) (size : Option UInt32) :
    (registry.setCacheSize store size).Reachable := by
  cases size with
  | none => exact reachable
  | some size => exact reachable.updateStore store _

theorem cube (reachable : registry.Reachable) (store : String) :
    (registry.cube store).2.Reachable :=
  reachable.asked store

theorem register (reachable : registry.Reachable) (spec : StoreSpec) :
    (spec.register registry).Reachable := by
  rw [register_eq_updateStore]
  exact reachable.updateStore spec.name _

end Reachable

end Registry

namespace Session

/-- Until it is frozen, the registry of a session is one that has been in use. -/
def Live (session : Session) : Prop :=
  session.frozen = false → session.registry.Reachable

variable {session : Session}

theorem Live.withRegistry {registry : Registry} (reachable : registry.Reachable) :
    (session.withRegistry registry).Live :=
  fun _ => reachable

theorem Live.hold (live : session.Live) (handle : Handle) (label : Option String) :
    (session.hold handle label).Live := by
  cases label <;> exact live

theorem Live.runOnRegistry (frozen : session.frozen = false) (live : session.Live)
    {step : StoreStep} {answer : Answer} {next : Session}
    (h : session.runOnRegistry step = .ok (answer, next)) : next.Live := by
  have reachable : session.registry.Reachable := live frozen
  cases step with
  | getOrCreate store label =>
    cases h
    exact (Live.withRegistry (reachable.asked store)).hold _ label
  | get store label =>
    unfold Session.runOnRegistry at h
    dsimp only at h
    split at h
    · cases h
      exact live.hold _ label
    · cases h
      exact live
  | isEmpty =>
    cases h
    exact live
  | setCacheSize store size =>
    cases h
    exact .withRegistry (reachable.setCacheSize store size)
  | setAggregateMode store mode =>
    cases h
    exact .withRegistry (reachable.updateStore store _)
  | dimensions store =>
    cases h
    exact .withRegistry (reachable.cube store)
  | measures store =>
    cases h
    exact .withRegistry (reachable.cube store)
  | natives store =>
    cases h
    exact .withRegistry (reachable.cube store)
  | synthesize spec parallelism =>
    simp only [Session.runOnRegistry, StoreSpec.synthesize_eq] at h
    cases h
    exact .withRegistry (reachable.register spec)
  | freeze =>
    cases h
    intro hopen
    cases hopen

/-- One step leaves the registry in use, unless it freezes it. -/
theorem Live.run (live : session.Live) {step : Step} {answer : Answer} {next : Session}
    (h : session.run step = .ok (answer, next)) : next.Live := by
  cases step with
  | onRegistry step =>
    simp only [Session.run] at h
    split at h
    · cases h
    next hopen =>
      exact runOnRegistry (Bool.eq_false_iff.mpr hopen) live (exists_of_mapError_eq_ok h)
  | onHandle label step =>
    simp only [Session.run] at h
    split at h
    · cases h
    · split at h
      · cases h
      next handle _ cube hread =>
        rw [runOnHandle_eq hread] at h
        cases h
        exact fun hopen => (live hopen).changed _ _
  | same label other =>
    simp only [Session.run] at h
    split at h
    · cases h
      exact live
    · cases h
  | drop label =>
    cases h
    exact live

theorem Live.runAll (live : session.Live) (steps : List Step) :
    (runAll Session.run steps session).2.Live := by
  induction steps generalizing session with
  | nil => exact live
  | cons step steps ih =>
    rw [Session.runAll]
    cases hrun : session.run step with
    | ok outcome => exact ih (live.run hrun)
    | error fault => exact ih live

theorem frozen_runAll {steps : List Step} (unfrozen : Step.onRegistry .freeze ∉ steps) :
    (Session.runAll Session.run steps .fresh).2.frozen = false := by
  obtain ⟨-, cellOf, mirrors⟩ := Mirrors.fresh.runAll steps
  exact mirrors.frozen.trans (Journal.Open.blank.runAll unfrozen).1.frozen

/-- The cube of every store is held, under the name of the store. -/
def holding (registry : Registry) : Session :=
  ⟨registry, false, registry.handles⟩

theorem after_getOrCreate (registry : Registry) (store : String) :
    after Session.run (holding registry) (.onRegistry (.getOrCreate store (some store))) =
      holding (registry.getOrCreate store).2 := by
  have hnames : registry.handles.insert store (registry.getOrCreate store).1 =
      (registry.getOrCreate store).2.handles := by
    cases hget : registry.get? store with
    | none =>
      rw [Registry.getOrCreate_of_none hget]
    | some handle =>
      rw [Registry.getOrCreate_of_some hget]
      refine Dictionary.ext_get? fun other => ?_
      rw [Dictionary.get?_insert]
      by_cases ho : other = store
      · rw [if_pos ho, ho]
        exact hget.symm
      · rw [if_neg ho]
  exact congrArg (Session.mk _ false) hnames

theorem after_update {registry : Registry} (reachable : registry.Reachable) {store : String}
    {handle : Handle} (h : registry.get? store = some handle) (change : Cube → Cube) :
    after Session.run (holding registry) (.onHandle store (.update change)) =
      holding (registry.update handle change) := by
  obtain ⟨cube, hread⟩ := reachable.separate.live h
  have hheld : (holding registry).handle? store = some handle := h
  have hcube : (holding registry).registry.read? handle = some cube := hread
  simp only [after, Session.run, hheld, hcube]
  rfl

end Session

namespace Registry

variable {registry : Registry}

theorem Reachable.exists_steps (reachable : registry.Reachable) :
    ∃ steps, Session.Step.onRegistry .freeze ∉ steps ∧
      (Session.runAll Session.run steps .fresh).2 = .holding registry := by
  induction reachable with
  | empty => exact ⟨[], List.not_mem_nil, rfl⟩
  | asked _ store ih =>
    obtain ⟨steps, unfrozen, hsteps⟩ := ih
    refine ⟨steps ++ [.onRegistry (.getOrCreate store (some store))], by simpa using unfrozen, ?_⟩
    rw [Session.runAll_snd, List.foldl_concat, ← Session.runAll_snd, hsteps,
      Session.after_getOrCreate]
  | @changed registry reachable handle change ih =>
    obtain ⟨steps, unfrozen, hsteps⟩ := ih
    by_cases hcell : handle.cell < registry.cells.slots.length
    · obtain ⟨store, hget⟩ := reachable.exists_store hcell
      refine ⟨steps ++ [.onHandle store (.update change)], by simpa using unfrozen, ?_⟩
      rw [Session.runAll_snd, List.foldl_concat, ← Session.runAll_snd, hsteps,
        Session.after_update reachable hget]
    · have hidle : registry.update handle change = registry := by
        rw [update, Cells.update, List.modify_eq_self (Nat.not_lt.mp hcell)]
      exact ⟨steps, unfrozen, hidle.symm ▸ hsteps⟩

/-- The steps of a session reach what asking for stores and changing cubes through handles reaches. -/
theorem reachable_iff_exists_steps : registry.Reachable ↔
    ∃ steps, Session.Step.onRegistry .freeze ∉ steps ∧
      (Session.runAll Session.run steps .fresh).2.registry = registry := by
  constructor
  · intro reachable
    obtain ⟨steps, unfrozen, hsteps⟩ := reachable.exists_steps
    exact ⟨steps, unfrozen, congrArg Session.registry hsteps⟩
  · rintro ⟨steps, unfrozen, rfl⟩
    exact Session.Live.runAll (fun _ => .empty) steps (Session.frozen_runAll unfrozen)

end Registry

/-- What the changes of a spec make of a cube. -/
theorem StoreSpec.applyAll_changes (spec : StoreSpec) (cube : Cube) :
    Change.applyAll spec.changes cube =
      { name := cube.name
        dimensions := cube.dimensions ++ spec.columns.filterMap Dimension.ofColumn?
        measures := cube.measures ++ Measure.ofColumns spec.columns
        aggregateMode := spec.aggregateMode
        cache := (spec.cacheSize.map AggregatesCache.mk).or cube.cache } := by
  cases hsize : spec.cacheSize <;> simp only [changes, hsize] <;> rfl

/-- Synthesizing a store gives what the spec is described by, whatever the registry. In the
registry, it puts the dimensions and measures of the columns behind those that the cube of the store
has, and sets the mode and, if the spec has one, the cache size; the cube keeps its name. Everything
else stays: the other stores, their cubes, and all handles. -/
theorem StoreSpec.synthesize_appends (spec : StoreSpec) (parallelism : UInt64) :
    ∃ outcome, spec.describe parallelism = .ok outcome ∧
      ∀ registry : Registry, registry.Reachable →
        let old := (registry.cube? spec.name).getD (Cube.ofStore spec.name)
        ∃ next, spec.synthesize parallelism registry = .ok (outcome, next) ∧
          next.cube? spec.name = some
            { name := old.name
              dimensions := old.dimensions ++ spec.columns.filterMap Dimension.ofColumn?
              measures := old.measures ++ Measure.ofColumns spec.columns
              aggregateMode := spec.aggregateMode
              cache := (spec.cacheSize.map AggregatesCache.mk).or old.cache } ∧
          (∀ other, other ≠ spec.name →
            next.cube? other = registry.cube? other ∧ next.get? other = registry.get? other) ∧
          ∀ store handle, registry.get? store = some handle → next.get? store = some handle := by
  refine ⟨spec.outcome parallelism, spec.describe_eq parallelism, ?_⟩
  intro registry reachable old
  refine ⟨spec.register registry, spec.synthesize_eq parallelism registry, ?_⟩
  have separate := reachable.separate
  rw [Registry.register_eq_updateStore]
  refine ⟨?_, ?_, ?_⟩
  · rw [separate.cube?_updateStore, if_pos rfl, applyAll_changes]
  · intro other hother
    rw [separate.cube?_updateStore, if_neg hother, Registry.get?_updateStore,
      Registry.get?_getOrCreate, if_neg hother]
    exact ⟨rfl, rfl⟩
  · intro store handle hget
    exact Registry.get?_getOrCreate_of_get? hget spec.name

/-- A store whose cube has content and was given another name, beside a store that has a cube too.
-/
theorem StoreSpec.synthesize_appends_to_content :
    let spec : StoreSpec := ⟨"trades", none, [⟨"ccy", .string⟩, ⟨"pnl", .long⟩], none, .bitmap,
      by simp, by decide⟩
    let cube : Cube := ⟨"deals", [⟨"desk", .standard, [.ofColumn "desk"], ∅⟩],
      [.derived (.ofFormula "m" "x")], .justInTime, some ⟨7⟩⟩
    let registry := (Registry.empty.getOrCreate "risks").2.updateStore "trades" fun _ => cube
    registry.Reachable ∧ ∃ outcome next, spec.synthesize 8 registry = .ok (outcome, next) ∧
      next.cube? "trades" = some ⟨"deals", cube.dimensions ++ Dimension.ofColumns spec.columns,
        cube.measures ++ Measure.ofColumns spec.columns, .bitmap, some ⟨7⟩⟩ ∧
      next.cube? "risks" = some (Cube.ofStore "risks") := by
  intro spec cube registry
  have reachable : registry.Reachable := (Registry.Reachable.empty.asked "risks").updateStore _ _
  obtain ⟨outcome, -, happends⟩ := spec.synthesize_appends 8
  obtain ⟨next, hsynthesize, hcube, hothers, -⟩ := happends registry reachable
  have hrisks : "risks" ≠ spec.name := by decide
  exact ⟨reachable, outcome, next, hsynthesize, hcube, (hothers "risks" hrisks).1⟩

end OlapSynthesis
