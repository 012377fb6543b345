import OlapSynthesis.Customization
import OlapSynthesis.Proofs.Registry.Stores

namespace OlapSynthesis

/-- One thing that is done to the cube of a store. -/
inductive Change
  /-- The cube is asked for, so that there is one. -/
  | created
  | dimensions (added : List Dimension)
  | measures (added : List Measure)
  | aggregateMode (mode : AggregateMode)
  | cacheSize (size : UInt32)
  /-- Anything may be done to the cube. -/
  | updated (change : Cube → Cube)

namespace Change

/-- A change that adds to a cube, or sets its aggregate mode or its cache. -/
def Plain : Change → Prop
  | .updated _ => False
  | _ => True

def addedDimensions : Change → List Dimension
  | .dimensions added => added
  | _ => []

def addedMeasures : Change → List Measure
  | .measures added => added
  | _ => []

def mode? : Change → Option AggregateMode
  | .aggregateMode mode => some mode
  | _ => none

def size? : Change → Option UInt32
  | .cacheSize size => some size
  | _ => none

/-- The cube of a store that some plain changes were made to, in order. -/
def cubeOf (store : String) (changes : List Change) : Cube where
  name := store
  dimensions := changes.flatMap addedDimensions
  measures := changes.flatMap addedMeasures
  aggregateMode := (changes.filterMap mode?).getLast?.getD .justInTime
  cache := (changes.filterMap size?).getLast?.map AggregatesCache.mk

def apply : Change → Cube → Cube
  | .created, cube => cube
  | .dimensions added, cube => cube.addDimensions added
  | .measures added, cube => cube.addMeasures added
  | .aggregateMode mode, cube => cube.withAggregateMode mode
  | .cacheSize size, cube => cube.withCacheSize (some size)
  | .updated change, cube => change cube

def applyAll (changes : List Change) (cube : Cube) : Cube :=
  changes.foldl (fun cube change => change.apply cube) cube

/-- The cube of a store after all that was done to it. -/
def replay (store : String) (changes : List Change) : Cube :=
  applyAll changes (Cube.ofStore store)

theorem replay_append (store : String) (earlier later : List Change) :
    replay store (earlier ++ later) = applyAll later (replay store earlier) :=
  List.foldl_append

theorem cubeOf_concat (store : String) (changes : List Change) {change : Change}
    (plain : change.Plain) :
    cubeOf store (changes ++ [change]) = change.apply (cubeOf store changes) := by
  cases change with
  | updated change => exact plain.elim
  | _ =>
    simp [cubeOf, apply, addedDimensions, addedMeasures, mode?, size?, Cube.addDimensions,
      Cube.addMeasures, Cube.withAggregateMode, Cube.withCacheSize]

theorem applyAll_cubeOf (store : String) (earlier : List Change) {later : List Change}
    (plain : ∀ change ∈ later, change.Plain) :
    applyAll later (cubeOf store earlier) = cubeOf store (earlier ++ later) := by
  induction later generalizing earlier with
  | nil => rw [List.append_nil]; rfl
  | cons change later ih =>
    obtain ⟨hchange, hlater⟩ := List.forall_mem_cons.mp plain
    rw [List.append_cons, ← ih _ hlater, cubeOf_concat store earlier hchange]
    rfl

/-- Replaying plain changes adds up what they add, and keeps the last mode and cache size. -/
theorem replay_eq_cubeOf (store : String) {changes : List Change}
    (plain : ∀ change ∈ changes, change.Plain) : replay store changes = cubeOf store changes :=
  applyAll_cubeOf store [] plain

theorem keepsName_applyAll {changes : List Change} (plain : ∀ change ∈ changes, change.Plain) :
    Registry.KeepsName (applyAll changes) := by
  intro cube
  induction changes generalizing cube with
  | nil => rfl
  | cons change changes ih =>
    obtain ⟨hchange, hchanges⟩ := List.forall_mem_cons.mp plain
    refine (ih hchanges (change.apply cube)).trans ?_
    cases change with
    | updated change => exact hchange.elim
    | _ => rfl

end Change

/-- The changes to the cubes of all stores, the earliest first. -/
abbrev History := List (String × Change)

namespace History

def changesOf (history : History) (store : String) : List Change :=
  history.filterMap fun entry => if entry.1 = store then some entry.2 else none

def ofChanges (store : String) (changes : List Change) : History :=
  changes.map (store, ·)

/-- Nothing was done at will. -/
def Plain (history : History) : Prop :=
  ∀ entry ∈ history, entry.2.Plain

/-- The cube of a store that was ever named. -/
def cube? (history : History) (store : String) : Option Cube :=
  if history.changesOf store = [] then none
  else some (Change.replay store (history.changesOf store))

theorem changesOf_append (history later : History) (store : String) :
    changesOf (history ++ later) store = history.changesOf store ++ later.changesOf store :=
  List.filterMap_append

theorem changesOf_ofChanges (store : String) (changes : List Change) (other : String) :
    (ofChanges store changes).changesOf other = if other = store then changes else [] := by
  by_cases h : other = store
  · subst h
    simp [changesOf, ofChanges, List.filterMap_map]
  · simp [changesOf, ofChanges, List.filterMap_map, h, Ne.symm h]

theorem Plain.changesOf {history : History} (plain : history.Plain) (store : String) :
    ∀ change ∈ history.changesOf store, change.Plain := by
  intro change hchange
  obtain ⟨entry, hentry, hsome⟩ := List.mem_filterMap.mp hchange
  obtain ⟨-, heq⟩ := Option.ite_none_right_eq_some.mp hsome
  exact Option.some.inj heq ▸ plain entry hentry

theorem changesOf_ne_nil_iff {history : History} {store : String} :
    history.changesOf store ≠ [] ↔ ∃ change, (store, change) ∈ history := by
  constructor
  · intro h
    obtain ⟨change, hchange⟩ := List.exists_mem_of_ne_nil _ h
    obtain ⟨⟨other, _⟩, he, hsome⟩ := List.mem_filterMap.mp hchange
    obtain ⟨rfl, -⟩ := Option.ite_none_right_eq_some.mp hsome
    exact ⟨_, he⟩
  · rintro ⟨change, he⟩
    exact List.ne_nil_of_mem (List.mem_filterMap.mpr ⟨_, he, if_pos rfl⟩)

/-- What several specs have to say of a store is what those of its name have to say. -/
theorem changesOf_flatMap (specs : List StoreSpec) (changes : StoreSpec → List Change)
    (store : String) :
    changesOf (specs.flatMap fun spec => ofChanges spec.name (changes spec)) store =
      (specs.filter (·.name = store)).flatMap changes := by
  induction specs with
  | nil => rfl
  | cons spec specs ih =>
    rw [List.flatMap_cons, changesOf_append, ih, changesOf_ofChanges, List.filter_cons]
    by_cases h : store = spec.name
    · simp [h]
    · simp [h, Ne.symm h]

theorem cube?_ofChanges (history : History) (store : String) {changes : List Change}
    (h : changes ≠ []) (other : String) :
    cube? (history ++ ofChanges store changes) other =
      if other = store then
        some (Change.applyAll changes ((history.cube? store).getD (Cube.ofStore store)))
      else history.cube? other := by
  rw [cube?, changesOf_append, changesOf_ofChanges]
  by_cases ho : other = store
  · subst ho
    have hne : history.changesOf other ++ changes ≠ [] := by simp [h]
    rw [if_pos rfl, if_pos rfl, if_neg hne, Change.replay_append, cube?]
    by_cases hnil : history.changesOf other = []
    · rw [if_pos hnil, hnil]
      rfl
    · rw [if_neg hnil]
      rfl
  · rw [if_neg ho, if_neg ho, List.append_nil, cube?]

end History

/-- The changes that make up the currency customization. -/
def CurrencyCustomization.changes : List Change :=
  [.dimensions [analysisDimension],
    .measures [.aggregated pnlMeasure, .derived fxMeasure, .derived groupMeasure]]

theorem CurrencyCustomization.keepsName_extend : Registry.KeepsName extend := fun _ => rfl

/-- The changes by which a spec is written into the cube of its store. -/
def StoreSpec.changes (spec : StoreSpec) : List Change :=
  [.created, .aggregateMode spec.aggregateMode, .dimensions (Dimension.ofColumns spec.columns),
    .measures (Measure.ofColumns spec.columns)] ++ spec.cacheSize.toList.map .cacheSize

theorem StoreSpec.plain_changes (spec : StoreSpec) : ∀ change ∈ spec.changes, change.Plain := by
  rw [changes]
  cases spec.cacheSize <;> simp [Change.Plain]

def StoreSpec.cube (spec : StoreSpec) : Cube :=
  Change.cubeOf spec.name spec.changes

theorem StoreSpec.replay_changes (spec : StoreSpec) :
    Change.replay spec.name spec.changes = spec.cube :=
  Change.replay_eq_cubeOf spec.name spec.plain_changes

@[simp] theorem StoreSpec.cube_dimensions (spec : StoreSpec) :
    spec.cube.dimensions = Dimension.ofColumns spec.columns := by
  simp only [cube, Change.cubeOf, changes]
  cases spec.cacheSize <;> simp [Change.addedDimensions]

@[simp] theorem StoreSpec.cube_measures (spec : StoreSpec) :
    spec.cube.measures = Measure.ofColumns spec.columns := by
  simp only [cube, Change.cubeOf, changes]
  cases spec.cacheSize <;> simp [Change.addedMeasures]

@[simp] theorem StoreSpec.cube_cache (spec : StoreSpec) :
    spec.cube.cache = spec.cacheSize.map AggregatesCache.mk := by
  simp only [cube, Change.cubeOf, changes]
  cases spec.cacheSize <;> rfl

def Registry.registerAll (registry : Registry) (specs : List StoreSpec) : Registry :=
  specs.foldl (fun registry spec => spec.register registry) registry

namespace Registry

@[simp] theorem update_applyAll_nil (registry : Registry) (handle : Handle) :
    registry.update handle (Change.applyAll []) = registry := by
  have hid : Option.map (Change.applyAll []) = id := by
    funext slot
    cases slot <;> rfl
  simp only [update, Cells.update, hid, List.modify_id]

/-- Writing a spec into the registry is making its changes to the cube of its store. -/
theorem register_eq_updateStore (spec : StoreSpec) (registry : Registry) :
    spec.register registry = registry.updateStore spec.name (Change.applyAll spec.changes) := by
  have hget : (registry.getOrCreate spec.name).2.get? spec.name =
      some (registry.getOrCreate spec.name).1 := by
    rw [get?_getOrCreate, if_pos rfl]
  cases hsize : spec.cacheSize with
  | none =>
    simp only [StoreSpec.register, setAggregateMode, hsize, setCacheSize, updateStore_of_get? hget,
      update_update, updateStore_eq_update]
    simp only [StoreSpec.changes, hsize]
    rfl
  | some size =>
    simp only [StoreSpec.register, setAggregateMode, hsize, setCacheSize, updateStore_of_get? hget,
      update_update]
    rw [updateStore_of_get? ((get?_update _ _ _ _).trans hget), update_update,
      updateStore_eq_update]
    simp only [StoreSpec.changes, hsize]
    rfl

/-- Where a store has no cube, a spec for it gives it the cube that it describes. -/
theorem cube?_register_of_none {spec : StoreSpec} {registry : Registry}
    (h : registry.get? spec.name = none) :
    (spec.register registry).cube? spec.name = some spec.cube := by
  rw [register_eq_updateStore, cube?_updateStore_of_none h, ← spec.replay_changes]
  rfl

theorem Sound.registerAll {registry : Registry} (sound : registry.Sound) (specs : List StoreSpec) :
    (registry.registerAll specs).Sound := by
  induction specs generalizing registry with
  | nil => exact sound
  | cons spec specs ih =>
    have hspec : (spec.register registry).Sound := by
      rw [register_eq_updateStore]
      exact sound.updateStore spec.name (Change.keepsName_applyAll spec.plain_changes)
    exact ih hspec

/-- The cubes of the registry are the ones that a history tells of. -/
structure Follows (registry : Registry) (history : History) : Prop where
  separate : registry.Separate
  cubes : ∀ store, registry.cube? store = history.cube? store

namespace Follows

variable {registry : Registry} {history : History}

theorem empty : Registry.empty.Follows [] where
  separate := .empty
  cubes _ := rfl

theorem updateStore (follows : registry.Follows history) (store : String) {changes : List Change}
    (h : changes ≠ []) : (registry.updateStore store (Change.applyAll changes)).Follows
      (history ++ History.ofChanges store changes) where
  separate := follows.separate.updateStore store _
  cubes other := by
    rw [follows.separate.cube?_updateStore, History.cube?_ofChanges history store h, follows.cubes,
      follows.cubes]

theorem getOrCreate (follows : registry.Follows history) (store : String) :
    (registry.getOrCreate store).2.Follows
      (history ++ History.ofChanges store [.created]) where
  separate := follows.separate.getOrCreate store
  cubes other := by
    rw [follows.separate.cube?_getOrCreate, History.cube?_ofChanges history store (by simp),
      follows.cubes, follows.cubes]
    rfl

theorem setAggregateMode (follows : registry.Follows history) (store : String)
    (mode : AggregateMode) : (registry.setAggregateMode store mode).Follows
      (history ++ History.ofChanges store [.aggregateMode mode]) := by
  have hne : [Change.aggregateMode mode] ≠ [] := List.cons_ne_nil _ _
  exact follows.updateStore store hne

theorem setCacheSize (follows : registry.Follows history) (store : String)
    (size : Option UInt32) : (registry.setCacheSize store size).Follows
      (history ++ History.ofChanges store (size.toList.map .cacheSize)) := by
  cases size with
  | none =>
    change registry.Follows (history ++ [])
    rwa [List.append_nil]
  | some size =>
    have hne : [Change.cacheSize size] ≠ [] := List.cons_ne_nil _ _
    exact follows.updateStore store hne

theorem register (follows : registry.Follows history) (spec : StoreSpec) :
    (spec.register registry).Follows (history ++ History.ofChanges spec.name spec.changes) := by
  rw [register_eq_updateStore]
  exact follows.updateStore spec.name (by simp [StoreSpec.changes])

theorem registerAll (follows : registry.Follows history) (specs : List StoreSpec) :
    (registry.registerAll specs).Follows
      (history ++ specs.flatMap fun spec => History.ofChanges spec.name spec.changes) := by
  induction specs generalizing registry history with
  | nil => exact (List.append_nil history).symm ▸ follows
  | cons spec specs ih =>
    rw [List.flatMap_cons, ← List.append_assoc]
    exact ih (follows.register spec)

/-- Changes through the handle of a store are changes to the cube of that store. -/
theorem update (follows : registry.Follows history) {store : String} {handle : Handle}
    (hget : registry.get? store = some handle) (changes : List Change) :
    (registry.update handle (Change.applyAll changes)).Follows
      (history ++ History.ofChanges store changes) where
  separate := follows.separate.update handle _
  cubes other := by
    obtain ⟨cube, hcube⟩ := follows.separate.cube?_eq_some_iff.mpr ⟨handle, hget⟩
    rw [follows.separate.cube?_update hget]
    cases changes with
    | nil =>
      have hid : Option.map (Change.applyAll []) (registry.cube? other) = registry.cube? other := by
        cases registry.cube? other <;> rfl
      rw [hid, ite_self, follows.cubes, History.ofChanges, List.map_nil, List.append_nil]
    | cons change changes =>
      rw [History.cube?_ofChanges history store (by simp), ← follows.cubes, ← follows.cubes]
      by_cases ho : other = store
      · rw [if_pos ho, if_pos ho, ho, hcube]
        rfl
      · rw [if_neg ho, if_neg ho]

/-- A store has a handle exactly when the history names it. -/
theorem get?_eq_some_iff (follows : registry.Follows history) {store : String} :
    (∃ handle, registry.get? store = some handle) ↔ history.changesOf store ≠ [] := by
  rw [← follows.separate.cube?_eq_some_iff, follows.cubes, History.cube?]
  by_cases h : history.changesOf store = []
  · simp [h]
  · simp [h]

theorem read?_of_get? (follows : registry.Follows history) {store : String} {handle : Handle}
    (hget : registry.get? store = some handle) :
    registry.read? handle = some (Change.replay store (history.changesOf store)) := by
  have hne : history.changesOf store ≠ [] := follows.get?_eq_some_iff.mp ⟨handle, hget⟩
  rw [← cube?_of_get? hget, follows.cubes, History.cube?, if_neg hne]

end Follows

end Registry

end OlapSynthesis
