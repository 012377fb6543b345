import Mathlib.Data.List.Perm.Basic
import Mathlib.Logic.Relation
import OlapSynthesis.Proofs.Registry.Freezing
import OlapSynthesis.Proofs.Registry.History
import OlapSynthesis.Proofs.Synthesis.Layout

namespace OlapSynthesis

/-- The lists are merged into one, each in its own order. -/
inductive Interleaves : List (List α) → List α → Prop
  | nil {lists : List (List α)} (h : ∀ list ∈ lists, list = []) : Interleaves lists []
  | chunk {before after : List (List α)} {list merged : List α} (first : List α)
      (rest : Interleaves (before ++ list :: after) merged) :
      Interleaves (before ++ (first ++ list) :: after) (first ++ merged)

namespace Interleaves

variable {lists : List (List α)} {merged : List α}

theorem filterMap (h : Interleaves lists merged) (f : α → Option β) :
    Interleaves (lists.map (List.filterMap f)) (merged.filterMap f) := by
  induction h with
  | nil h =>
    refine .nil fun list hlist => ?_
    obtain ⟨list', hlist', rfl⟩ := List.mem_map.mp hlist
    rw [h list' hlist', List.filterMap_nil]
  | chunk first rest ih =>
    rw [List.map_append, List.map_cons, List.filterMap_append, List.filterMap_append]
    rw [List.map_append, List.map_cons] at ih
    exact ih.chunk _

/-- Nothing is lost and nothing is made up. -/
theorem perm (h : Interleaves lists merged) : merged.Perm lists.flatten := by
  induction h with
  | nil h => rw [List.flatten_eq_nil_iff.mpr h]
  | @chunk before after list merged first rest ih =>
    have hflatten : (before ++ (first ++ list) :: after).flatten =
        before.flatten ++ (first ++ (list ++ after.flatten)) := by
      rw [List.flatten_append, List.flatten_cons, List.append_assoc]
    rw [List.flatten_append, List.flatten_cons] at ih
    rw [hflatten]
    exact (ih.append_left first).trans (List.perm_append_comm_assoc _ _ _)

/-- A single list is merged into itself. -/
theorem eq_of_singleton {list : List α} (h : Interleaves [list] merged) : merged = list := by
  generalize hlists : [list] = lists at h
  induction h generalizing list with
  | nil h => exact (h list (hlists ▸ List.mem_singleton_self list)).symm
  | @chunk before after rest merged first _ ih =>
    obtain ⟨rfl, hlist, rfl⟩ : before = [] ∧ list = first ++ rest ∧ after = [] := by
      cases before with
      | nil => simpa [and_comm] using hlists
      | cons _ before => simp at hlists
    rw [hlist, ih rfl]

/-- Lists of one element each are merged into a rearrangement of these elements. -/
theorem exists_perm_of_singletons {items : List β} {f : β → α}
    (h : Interleaves (items.map fun item => [f item]) merged) :
    ∃ order : List β, order.Perm items ∧ merged = order.map f := by
  have hflatten : (items.map fun item => [f item]).flatten = items.map f :=
    List.flatMap_pure_eq_map f items
  have hperm : merged.Perm (items.map f) := hflatten ▸ h.perm
  have hrel : List.Forall₂ (fun x item => x = f item) (items.map f) items :=
    List.forall₂_map_left_iff.mpr (List.forall₂_same.mpr fun _ _ => rfl)
  obtain ⟨order, horder, hitems⟩ := List.perm_comp_forall₂ hperm hrel
  have hmerged : List.Forall₂ Eq merged (order.map f) := List.forall₂_map_right_iff.mpr horder
  exact ⟨order, hitems, List.forall₂_eq_eq_eq ▸ hmerged⟩

end Interleaves

namespace Change

def dimensions? : Change → Option (List Dimension)
  | .dimensions added => some added
  | _ => none

def measures? : Change → Option (List Measure)
  | .measures added => some added
  | _ => none

theorem flatMap_addedDimensions (changes : List Change) :
    changes.flatMap addedDimensions = (changes.filterMap dimensions?).flatten := by
  induction changes with
  | nil => rfl
  | cons change changes ih => cases change <;> simp [List.filterMap_cons, addedDimensions, dimensions?, ih]

theorem flatMap_addedMeasures (changes : List Change) :
    changes.flatMap addedMeasures = (changes.filterMap measures?).flatten := by
  induction changes with
  | nil => rfl
  | cons change changes ih => cases change <;> simp [List.filterMap_cons, addedMeasures, measures?, ih]

end Change

theorem StoreSpec.filterMap_dimensions? (spec : StoreSpec) :
    spec.changes.filterMap Change.dimensions? = [Dimension.ofColumns spec.columns] := by
  rw [changes]
  cases spec.cacheSize <;> rfl

theorem StoreSpec.filterMap_measures? (spec : StoreSpec) :
    spec.changes.filterMap Change.measures? = [Measure.ofColumns spec.columns] := by
  rw [changes]
  cases spec.cacheSize <;> rfl

def StoreSpec.synthesizeAll (specs : List StoreSpec) (parallelism : UInt64)
    (registry : Registry) : Except ColumnError Registry :=
  specs.foldlM (fun registry spec => Prod.snd <$> spec.synthesize parallelism registry) registry

theorem StoreSpec.synthesizeAll_eq (specs : List StoreSpec) (parallelism : UInt64)
    (registry : Registry) : synthesizeAll specs parallelism registry =
      .ok (registry.registerAll specs) := by
  induction specs generalizing registry with
  | nil => rfl
  | cons spec specs ih =>
    rw [synthesizeAll, List.foldlM_cons, synthesize_eq]
    exact ih (spec.register registry)

/-- If each spec has one thing to say of some kind, then what is said of that kind is what the specs
say, in some order of the specs. -/
theorem Interleaves.exists_order {specs : List StoreSpec} {changes : List Change}
    (h : Interleaves (specs.map StoreSpec.changes) changes) {kind : Change → Option (List β)}
    {said : StoreSpec → List β} (hsaid : ∀ spec, spec.changes.filterMap kind = [said spec]) :
    ∃ order : List StoreSpec, order.Perm specs ∧
      (changes.filterMap kind).flatten = order.flatMap said := by
  have hkind := h.filterMap kind
  simp only [List.map_map, Function.comp_def, hsaid] at hkind
  obtain ⟨order, horder, hblocks⟩ := hkind.exists_perm_of_singletons
  exact ⟨order, horder, by rw [hblocks, List.flatMap_def]⟩

theorem Interleaves.plain {specs : List StoreSpec} {changes : List Change}
    (h : Interleaves (specs.map StoreSpec.changes) changes) : ∀ change ∈ changes, change.Plain := by
  intro change hchange
  obtain ⟨list, hlist, hmem⟩ := List.mem_flatten.mp (h.perm.mem_iff.mp hchange)
  obtain ⟨spec, -, rfl⟩ := List.mem_map.mp hlist
  exact spec.plain_changes change hmem

/-- Handles that were given out stay valid. -/
def Registry.Keeps (registry next : Registry) : Prop :=
  ∀ {store handle}, registry.get? store = some handle → next.get? store = some handle

namespace Synthesis

/-- What a call of `StoreSpec.synthesize` does to the registry at a time. -/
inductive Stage
  | obtain
  | aggregateMode
  | dimensions
  | measures
  | cacheSize

namespace Stage

def all : List Stage :=
  [.obtain, .aggregateMode, .dimensions, .measures, .cacheSize]

def changes (spec : StoreSpec) : Stage → List Change
  | .obtain => [.created]
  | .aggregateMode => [.aggregateMode spec.aggregateMode]
  | .dimensions => [.dimensions (Dimension.ofColumns spec.columns)]
  | .measures => [.measures (Measure.ofColumns spec.columns)]
  | .cacheSize => spec.cacheSize.toList.map .cacheSize

end Stage

/-- A call under way: the handle it holds, once it has one, and the stages that are left. -/
structure Call where
  spec : StoreSpec
  handle : Option Handle
  rest : List Stage

namespace Call

def start (spec : StoreSpec) : Call :=
  ⟨spec, none, Stage.all⟩

/-- The next stage of a call. The dimensions and the measures are added through the handle, the rest
is done by the name of the store. -/
def advance (call : Call) (registry : Registry) : Option (Call × Registry) :=
  match call.rest, call.handle with
  | .obtain :: rest, _ =>
    let (handle, registry) := registry.getOrCreate call.spec.name
    some ({ call with handle := some handle, rest }, registry)
  | .aggregateMode :: rest, _ =>
    some ({ call with rest },
      registry.setAggregateMode call.spec.name call.spec.aggregateMode)
  | .dimensions :: rest, some handle =>
    some ({ call with rest },
      registry.update handle (·.addDimensions (Dimension.ofColumns call.spec.columns)))
  | .measures :: rest, some handle =>
    some ({ call with rest },
      registry.update handle (·.addMeasures (Measure.ofColumns call.spec.columns)))
  | .cacheSize :: rest, _ =>
    some ({ call with rest }, registry.setCacheSize call.spec.name call.spec.cacheSize)
  | _, _ => none

def remaining (call : Call) : List Change :=
  call.rest.flatMap (Stage.changes call.spec)

theorem remaining_start (spec : StoreSpec) : (start spec).remaining = spec.changes := by
  simp [remaining, start, Stage.all, Stage.changes, StoreSpec.changes]

/-- A call that holds a handle holds the one of its store, and a call without one is at its start. -/
structure Ready (call : Call) (registry : Registry) : Prop where
  fresh : call.handle = none → call.rest = Stage.all
  held : ∀ {handle}, call.handle = some handle → registry.get? call.spec.name = some handle

theorem Ready.start (spec : StoreSpec) (registry : Registry) : (Call.start spec).Ready registry where
  fresh _ := rfl
  held h := nomatch h

theorem Ready.holding {spec : StoreSpec} {registry : Registry} {handle : Handle}
    (h : registry.get? spec.name = some handle) (rest : List Stage) :
    (Call.mk spec (some handle) rest).Ready registry where
  fresh hnone := nomatch hnone
  held hsome := hsome ▸ h

variable {call : Call} {registry : Registry} {history : History}

/-- A stage can always be made. It does its part to the cube of the store, and no handle is lost. -/
theorem Ready.advance (ready : call.Ready registry) (follows : registry.Follows history)
    {stage : Stage} {rest : List Stage} (h : call.rest = stage :: rest) :
    ∃ handle next, call.advance registry = some ({ call with handle := some handle, rest }, next) ∧
      next.get? call.spec.name = some handle ∧ registry.Keeps next ∧
      next.Follows (history ++ .ofChanges call.spec.name (stage.changes call.spec)) := by
  obtain ⟨spec, held, stages⟩ := call
  obtain rfl : stages = stage :: rest := h
  cases held with
  | none =>
    obtain ⟨rfl, rfl⟩ := List.cons.inj (ready.fresh rfl)
    refine ⟨_, _, rfl, ?_, fun hget => Registry.get?_getOrCreate_of_get? hget _,
      follows.getOrCreate spec.name⟩
    exact (Registry.get?_getOrCreate _ _ _).trans (if_pos rfl)
  | some handle =>
    have hget : registry.get? spec.name = some handle := ready.held rfl
    cases stage with
    | obtain =>
      refine ⟨_, _, rfl, ?_, fun hget => Registry.get?_getOrCreate_of_get? hget _,
        follows.getOrCreate spec.name⟩
      exact (Registry.get?_getOrCreate _ _ _).trans (if_pos rfl)
    | aggregateMode =>
      have hkeeps : registry.Keeps (registry.setAggregateMode spec.name spec.aggregateMode) :=
        fun hother => Registry.get?_getOrCreate_of_get? hother _
      exact ⟨handle, _, rfl, hkeeps hget, hkeeps, follows.setAggregateMode _ _⟩
    | dimensions =>
      exact ⟨handle, _, rfl, hget, fun hother => hother,
        follows.update hget (Stage.dimensions.changes spec)⟩
    | measures =>
      exact ⟨handle, _, rfl, hget, fun hother => hother,
        follows.update hget (Stage.measures.changes spec)⟩
    | cacheSize =>
      have hkeeps : registry.Keeps (registry.setCacheSize spec.name spec.cacheSize) := by
        intro store other hother
        cases spec.cacheSize with
        | none => exact hother
        | some size => exact Registry.get?_getOrCreate_of_get? hother _
      exact ⟨handle, _, rfl, hkeeps hget, hkeeps, follows.setCacheSize _ _⟩

theorem Ready.mono (ready : call.Ready registry) {next : Registry} (keeps : registry.Keeps next) :
    call.Ready next :=
  ⟨ready.fresh, fun h => keeps (ready.held h)⟩

end Call

/-- Several calls under way on one registry. -/
structure State where
  registry : Registry
  calls : List Call

/-- One of the calls makes its next stage. -/
inductive Step : State → State → Prop
  | advance {registry next : Registry} {before after : List Call} {call later : Call}
      (h : call.advance registry = some (later, next)) :
      Step ⟨registry, before ++ call :: after⟩ ⟨next, before ++ later :: after⟩

namespace State

/-- All calls at their start, on an empty registry. -/
def start (specs : List StoreSpec) : State :=
  ⟨.empty, specs.map .start⟩

def Finished (state : State) : Prop :=
  ∀ call ∈ state.calls, call.rest = []

def Ready (state : State) : Prop :=
  ∀ call ∈ state.calls, call.Ready state.registry

theorem Ready.start (specs : List StoreSpec) : (State.start specs).Ready := by
  intro call hcall
  obtain ⟨spec, -, rfl⟩ := List.mem_map.mp hcall
  exact .start spec _

/-- What is left to be done to the cube of a store, call by call. -/
def remaining (state : State) (store : String) : List (List Change) :=
  (state.calls.filter (·.spec.name = store)).map Call.remaining

end State

variable {state next last : State} {history : History}

/-- A step of one call is the first of what is left to be done to the cube of its store, and the
other calls have as much left as before. -/
theorem Step.follows (step : Step state next) (ready : state.Ready)
    (follows : state.registry.Follows history) :
    next.Ready ∧ ∃ done : History, next.registry.Follows (history ++ done) ∧
      ∀ {store merged}, Interleaves (next.remaining store) merged →
        Interleaves (state.remaining store) (done.changesOf store ++ merged) := by
  obtain @⟨registry, nextRegistry, before, after, call, later, h⟩ := step
  have hcall : call.Ready registry := ready call (by simp)
  cases hrest : call.rest with
  | nil => simp [Call.advance, hrest] at h
  | cons stage rest =>
    obtain ⟨handle, next', hadvance, hget, keeps, hfollows⟩ := hcall.advance follows hrest
    obtain ⟨rfl, rfl⟩ := Prod.mk.inj (Option.some.inj (hadvance.symm.trans h))
    refine ⟨?_, _, hfollows, ?_⟩
    · intro other hother
      rcases List.mem_append.mp hother with hbefore | hother
      · exact (ready other (by simp [hbefore])).mono keeps
      · rcases List.mem_cons.mp hother with rfl | hafter
        · exact .holding hget rest
        · exact (ready other (by simp [hafter])).mono keeps
    · intro store merged hmerged
      rw [History.changesOf_ofChanges]
      simp only [State.remaining, List.filter_append, List.map_append, List.filter_cons] at hmerged ⊢
      -- the stage was the front of what its own call had left, and nothing to the other stores
      by_cases hstore : store = call.spec.name
      · simp only [hstore, decide_true, if_true, List.map_cons] at hmerged ⊢
        rw [Call.remaining, hrest, List.flatMap_cons]
        exact hmerged.chunk _
      · simpa [hstore, Ne.symm hstore] using hmerged

/-- A run until all calls are through does to each store an interleaving of what the calls for it
have left to do. -/
theorem follows_of_run (run : Relation.ReflTransGen Step state last) (finished : last.Finished)
    (ready : state.Ready) (follows : state.registry.Follows history) :
    ∃ done : History, last.registry.Follows (history ++ done) ∧
      ∀ store, Interleaves (state.remaining store) (done.changesOf store) := by
  -- from the front, because a step takes away the front of what is left
  induction run using Relation.ReflTransGen.head_induction_on generalizing history with
  | refl =>
    refine ⟨[], (List.append_nil history).symm ▸ follows, fun store => .nil fun list hlist => ?_⟩
    obtain ⟨call, hcall, rfl⟩ := List.mem_map.mp hlist
    rw [Call.remaining, finished call (List.mem_of_mem_filter hcall), List.flatMap_nil]
  | head step _ ih =>
    obtain ⟨hready, done, hfollows, hfirst⟩ := step.follows ready follows
    obtain ⟨later, hlast, hmerged⟩ := ih hready hfollows
    refine ⟨done ++ later, (List.append_assoc history done later) ▸ hlast, fun store => ?_⟩
    rw [History.changesOf_append]
    exact hfirst (hmerged store)

theorem ready_of_run {specs : List StoreSpec}
    (run : Relation.ReflTransGen Step (.start specs) state) :
    state.Ready ∧ ∃ history, state.registry.Follows history := by
  induction run with
  | refl => exact ⟨.start specs, [], .empty⟩
  | tail _ step ih =>
    obtain ⟨ready, history, follows⟩ := ih
    obtain ⟨hready, done, hfollows, -⟩ := step.follows ready follows
    exact ⟨hready, _, hfollows⟩

/-- No order of the steps gets stuck: a call that is not through can always go on. -/
theorem exists_advance_of_run {specs : List StoreSpec}
    (run : Relation.ReflTransGen Step (.start specs) state) {call : Call}
    (hcall : call ∈ state.calls) (h : call.rest ≠ []) :
    ∃ outcome, call.advance state.registry = some outcome := by
  obtain ⟨ready, history, follows⟩ := ready_of_run run
  obtain ⟨stage, rest, hrest⟩ := List.exists_cons_of_ne_nil h
  obtain ⟨handle, next, hadvance, -⟩ := (ready call hcall).advance follows hrest
  exact ⟨_, hadvance⟩

/-- The five stages of a call are what the call does to the registry. -/
theorem run_register (spec : StoreSpec) (registry : Registry) (before after : List Call) :
    ∃ call : Call, call.rest = [] ∧ Relation.ReflTransGen Step
      ⟨registry, before ++ .start spec :: after⟩
      ⟨spec.register registry, before ++ call :: after⟩ := by
  have hstep {registry next : Registry} {call later : Call}
      (h : call.advance registry = some (later, next)) :
      Relation.ReflTransGen Step ⟨registry, before ++ call :: after⟩
        ⟨next, before ++ later :: after⟩ :=
    .single (.advance h)
  refine ⟨⟨spec, some (registry.getOrCreate spec.name).1, []⟩, rfl, ?_⟩
  exact (hstep rfl).trans ((hstep rfl).trans ((hstep rfl).trans ((hstep rfl).trans (hstep rfl))))

theorem run_registerAll (specs : List StoreSpec) (registry : Registry) (before : List Call) :
    ∃ calls : List Call, (∀ call ∈ calls, call.rest = []) ∧ Relation.ReflTransGen Step
      ⟨registry, before ++ specs.map .start⟩
      ⟨registry.registerAll specs, before ++ calls⟩ := by
  induction specs generalizing registry before with
  | nil => exact ⟨[], by simp, .refl⟩
  | cons spec specs ih =>
    obtain ⟨call, hcall, hfirst⟩ := run_register spec registry before (specs.map .start)
    obtain ⟨calls, hcalls, hrest⟩ := ih (spec.register registry) (before ++ [call])
    refine ⟨call :: calls, List.forall_mem_cons.mpr ⟨hcall, hcalls⟩, ?_⟩
    rw [List.append_assoc, List.append_assoc] at hrest
    exact hfirst.trans hrest

theorem State.remaining_start (specs : List StoreSpec) (store : String) :
    (State.start specs).remaining store =
      (specs.filter (·.name = store)).map StoreSpec.changes := by
  rw [State.remaining, State.start, List.filter_map, List.map_map]
  exact List.map_congr_left fun spec _ => Call.remaining_start spec

/-- The history of a run that is through has for each store what its specs have to say, merged. -/
theorem history_of_run {specs : List StoreSpec}
    (run : Relation.ReflTransGen Step (.start specs) last) (finished : last.Finished) :
    ∃ history : History, last.registry.Follows history ∧ ∀ store,
      Interleaves ((specs.filter (·.name = store)).map StoreSpec.changes)
        (history.changesOf store) := by
  obtain ⟨history, follows, hmerged⟩ := follows_of_run run finished (.start specs) .empty
  exact ⟨history, follows, fun store => State.remaining_start specs store ▸ hmerged store⟩

/-- Exactly the stores that some spec is for have a cube. -/
theorem cube?_eq_none_iff_of_run {specs : List StoreSpec}
    (run : Relation.ReflTransGen Step (.start specs) last) (finished : last.Finished)
    (store : String) :
    last.registry.cube? store = none ↔ ∀ spec ∈ specs, spec.name ≠ store := by
  obtain ⟨history, follows, hmerged⟩ := history_of_run run finished
  have hnil : history.changesOf store = [] ↔ ∀ spec ∈ specs, spec.name ≠ store := by
    rw [← List.perm_nil, (hmerged store).perm.congr_left, List.perm_nil, List.flatten_eq_nil_iff,
      List.forall_mem_map]
    constructor
    · intro h spec hspec hname
      have hchanges := h spec (List.mem_filter.mpr ⟨hspec, decide_eq_true hname⟩)
      simp [StoreSpec.changes] at hchanges
    · intro h spec hspec
      obtain ⟨hmem, hname⟩ := List.mem_filter.mp hspec
      exact absurd (of_decide_eq_true hname) (h spec hmem)
  rw [follows.cubes, History.cube?, ← hnil]
  by_cases h : history.changesOf store = [] <;> simp [h]

/-- The cube of a store that one spec is for has what the spec says, in the order it says it. -/
theorem cube?_of_run_of_single {specs : List StoreSpec}
    (run : Relation.ReflTransGen Step (.start specs) last) (finished : last.Finished)
    {store : String} {spec : StoreSpec} (single : specs.filter (·.name = store) = [spec]) :
    last.registry.cube? store = some (Change.replay store spec.changes) := by
  obtain ⟨history, follows, hmerged⟩ := history_of_run run finished
  have hinterleaves := hmerged store
  rw [single] at hinterleaves
  have hne : spec.changes ≠ [] := by simp [StoreSpec.changes]
  rw [follows.cubes, History.cube?, hinterleaves.eq_of_singleton, if_neg hne]

/-- Specs for different stores give the same cubes in whatever order their steps come. -/
theorem cube?_eq_of_runs {specs : List StoreSpec} {other : State}
    (run : Relation.ReflTransGen Step (.start specs) last) (finished : last.Finished)
    (run' : Relation.ReflTransGen Step (.start specs) other) (finished' : other.Finished)
    (distinct : (specs.map (·.name)).Nodup) (store : String) :
    last.registry.cube? store = other.registry.cube? store := by
  by_cases h : ∃ spec ∈ specs, spec.name = store
  · obtain ⟨spec, hspec, hname⟩ := h
    have single := Dictionary.filter_eq_singleton distinct hspec hname
    rw [cube?_of_run_of_single run finished single, cube?_of_run_of_single run' finished' single]
  · have hnone : ∀ spec ∈ specs, spec.name ≠ store := fun spec hspec hname =>
      h ⟨spec, hspec, hname⟩
    rw [(cube?_eq_none_iff_of_run run finished store).mpr hnone,
      (cube?_eq_none_iff_of_run run' finished' store).mpr hnone]

end Synthesis

open Synthesis in
/-- Whatever the order of the steps, no call gets stuck, and once all are through: the stores of the
specs have a cube and no others; a cube has the dimensions of each spec for its store, in one piece
and exactly once, in some order of the specs, and so its measures; and the cube of a store that one
spec is for is the one that synthesizing the specs one after the other gives, so that specs for
different stores freeze to the same cubes. -/
theorem interleaved_synthesis {specs : List StoreSpec} {state : State}
    (run : Relation.ReflTransGen Step (.start specs) state) (parallelism : UInt64) :
    (∀ call ∈ state.calls, call.rest ≠ [] → ∃ outcome, call.advance state.registry = some outcome) ∧
    (state.Finished → ∀ inUse,
      let cubes := (state.registry.freeze inUse).1
      (∀ store, store ∈ cubes.keys ↔ ∃ spec ∈ specs, spec.name = store) ∧
      (∀ store cube, cubes.get? store = some cube →
        (∃ order : List StoreSpec, order.Perm (specs.filter (·.name = store)) ∧
          cube.dimensions = order.flatMap fun spec => Dimension.ofColumns spec.columns) ∧
        ∃ order : List StoreSpec, order.Perm (specs.filter (·.name = store)) ∧
          cube.measures = order.flatMap fun spec => Measure.ofColumns spec.columns) ∧
      ∃ sequential, StoreSpec.synthesizeAll specs parallelism .empty = .ok sequential ∧
        (∀ store spec, specs.filter (·.name = store) = [spec] →
          cubes.get? store = sequential.cube? store) ∧
        ((specs.map (·.name)).Nodup → ∀ inUse', cubes = (sequential.freeze inUse').1)) := by
  refine ⟨fun call => exists_advance_of_run run, fun finished inUse => ?_⟩
  obtain ⟨history, follows, hmerged⟩ := history_of_run run finished
  have separate := follows.separate
  intro cubes
  have hcubes (store : String) : cubes.get? store = state.registry.cube? store :=
    separate.get?_freeze inUse store
  have hkeys (store : String) : store ∈ cubes.keys ↔ ∃ spec ∈ specs, spec.name = store := by
    rw [Dictionary.mem_keys_iff, hcubes, ← Option.ne_none_iff_exists', ne_eq,
      cube?_eq_none_iff_of_run run finished]
    simp
  refine ⟨hkeys, ?_, ?_⟩
  · intro store cube hcube
    rw [hcubes, follows.cubes, History.cube?, Option.ite_none_left_eq_some] at hcube
    have hreplay := Change.replay_eq_cubeOf store (hmerged store).plain
    obtain rfl : Change.cubeOf store (history.changesOf store) = cube :=
      hreplay.symm.trans (Option.some.inj hcube.2)
    obtain ⟨order, horder, hadded⟩ :=
      (hmerged store).exists_order StoreSpec.filterMap_dimensions?
    obtain ⟨order', horder', hadded'⟩ :=
      (hmerged store).exists_order StoreSpec.filterMap_measures?
    refine ⟨⟨order, horder, ?_⟩, ⟨order', horder', ?_⟩⟩
    · exact (Change.flatMap_addedDimensions _).trans hadded
    · exact (Change.flatMap_addedMeasures _).trans hadded'
  · obtain ⟨calls, hcalls, run'⟩ := run_registerAll specs .empty []
    refine ⟨_, StoreSpec.synthesizeAll_eq specs parallelism .empty, ?_, ?_⟩
    · intro store spec single
      rw [hcubes, cube?_of_run_of_single run finished single]
      exact (cube?_of_run_of_single run' hcalls single).symm
    · intro distinct inUse'
      obtain ⟨-, history', follows'⟩ := ready_of_run run'
      refine Dictionary.ext_get? fun store => ?_
      rw [hcubes, cube?_eq_of_runs run finished run' hcalls distinct]
      exact (follows'.separate.get?_freeze inUse' store).symm

open Synthesis in
/-- Two calls for one store that take turns: its dimensions are those of the one call and those of
the other. -/
theorem interleaved_synthesis_taking_turns :
    let first : StoreSpec := ⟨"trades", none, [⟨"desk", .string⟩], none, .bitmap, by simp, by decide⟩
    let second : StoreSpec := ⟨"trades", none, [⟨"day", .string⟩], none, .bitmap, by simp, by decide⟩
    ∃ state, Relation.ReflTransGen Step (.start [first, second]) state ∧ state.Finished ∧
      ∃ cube, (state.registry.freeze fun _ => false).1.get? "trades" = some cube ∧
        ∃ order : List StoreSpec, order.Perm [first, second] ∧
          cube.dimensions = order.flatMap fun spec => Dimension.ofColumns spec.columns := by
  intro first second
  have left {registry next : Registry} {call later other : Call}
      (h : call.advance registry = some (later, next)) :
      Step ⟨registry, [call, other]⟩ ⟨next, [later, other]⟩ :=
    @Step.advance registry next [] [other] call later h
  have right {registry next : Registry} {call later other : Call}
      (h : call.advance registry = some (later, next)) :
      Step ⟨registry, [other, call]⟩ ⟨next, [other, later]⟩ :=
    @Step.advance registry next [other] [] call later h
  obtain ⟨state, run, finished⟩ : ∃ state,
      Relation.ReflTransGen Step (.start [first, second]) state ∧ state.Finished := by
    refine ⟨_, .head (left rfl) (.head (right rfl) (.head (right rfl) (.head (left rfl)
      (.head (right rfl) (.head (left rfl) (.head (left rfl) (.head (right rfl)
        (.head (left rfl) (.single (right rfl)))))))))), ?_⟩
    simp [State.Finished, first, second]
  refine ⟨state, run, finished, ?_⟩
  obtain ⟨hkeys, hcubes, -⟩ := (interleaved_synthesis run 8).2 finished fun _ => false
  obtain ⟨cube, hcube⟩ := Dictionary.mem_keys_iff.mp ((hkeys "trades").mpr ⟨first, by simp, rfl⟩)
  obtain ⟨⟨order, horder, hdimensions⟩, -⟩ := hcubes "trades" cube hcube
  exact ⟨cube, hcube, order, by simpa [first, second] using horder, hdimensions⟩

end OlapSynthesis
