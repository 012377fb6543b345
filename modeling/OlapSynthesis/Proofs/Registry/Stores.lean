import Mathlib.Data.List.Basic
import OlapSynthesis.Proofs.Dictionary
import OlapSynthesis.Synthesis

namespace OlapSynthesis

namespace Cells

theorem read?_update (cells : Cells) (handle : Handle) (change : Cube → Cube) (other : Handle) :
    (cells.update handle change).read? other =
      if other = handle then (cells.read? other).map change else cells.read? other := by
  obtain ⟨i⟩ := handle
  obtain ⟨j⟩ := other
  simp only [read?, update, List.getElem?_modify, Handle.mk.injEq, eq_comm (a := j)]
  by_cases h : i = j
  · rw [if_pos h]
    cases cells.slots[j]? with
    | none => rfl
    | some slot => simp [h]
  · simp [h]

theorem read?_allocate (cells : Cells) (cube : Cube) (handle : Handle) :
    (cells.allocate cube).2.read? handle =
      if handle = (cells.allocate cube).1 then some cube else cells.read? handle := by
  obtain ⟨i⟩ := handle
  simp only [read?, allocate, Handle.mk.injEq]
  rcases Nat.lt_trichotomy i cells.slots.length with h | h | h
  · rw [if_neg (Nat.ne_of_lt h), List.getElem?_append_left h]
  · simp [h]
  · have hnew : (cells.slots ++ [some cube])[i]? = Option.none := by
      simp only [List.getElem?_eq_none_iff, List.length_append, List.length_singleton]
      omega
    have hold : cells.slots[i]? = Option.none := by
      simp only [List.getElem?_eq_none_iff]
      omega
    rw [if_neg (Nat.ne_of_gt h), hnew, hold]

theorem read?_release (cells : Cells) (handle other : Handle) :
    (cells.release handle).read? other =
      if other = handle then Option.none else cells.read? other := by
  obtain ⟨i⟩ := handle
  obtain ⟨j⟩ := other
  simp only [read?, release, List.getElem?_modify, Handle.mk.injEq, eq_comm (a := j)]
  by_cases h : i = j
  · rw [if_pos h]
    cases cells.slots[j]? <;> simp [h]
  · simp [h]

theorem update_update (cells : Cells) (handle : Handle) (first second : Cube → Cube) :
    (cells.update handle first).update handle second =
      cells.update handle fun cube => second (first cube) := by
  simp only [update, List.modify_modify_eq, Cells.mk.injEq]
  congr 1
  funext slot
  cases slot <;> rfl

/-- A handle that leads to a cube is not the next one to be given out. -/
theorem ne_allocate_of_read? {cells : Cells} {handle : Handle} {cube : Cube}
    (h : cells.read? handle = some cube) (added : Cube) : handle ≠ (cells.allocate added).1 := by
  rintro rfl
  simp [read?, allocate] at h

@[simp] theorem length_update (cells : Cells) (handle : Handle) (change : Cube → Cube) :
    (cells.update handle change).slots.length = cells.slots.length := by
  simp [update]

end Cells

namespace Registry

/-- Every store has a cell of its own, which holds a cube, and there are no other cells. -/
structure Separate (registry : Registry) : Prop where
  live : ∀ {store handle}, registry.get? store = some handle →
    ∃ cube, registry.read? handle = some cube
  store_eq : ∀ {store other handle}, registry.get? store = some handle →
    registry.get? other = some handle → store = other
  count : registry.cells.slots.length = registry.size

/-- Besides, every cube has the name of its store. -/
structure Sound (registry : Registry) : Prop extends Separate registry where
  named : ∀ {store handle cube}, registry.get? store = some handle →
    registry.read? handle = some cube → cube.name = store

def KeepsName (change : Cube → Cube) : Prop :=
  ∀ cube, (change cube).name = cube.name

theorem Separate.empty : Registry.empty.Separate where
  live h := nomatch h
  store_eq h := nomatch h
  count := rfl

theorem Sound.empty : Registry.empty.Sound where
  toSeparate := .empty
  named h := nomatch h

theorem Separate.cube?_eq_some_iff {registry : Registry} (separate : registry.Separate)
    {store : String} :
    (∃ cube, registry.cube? store = some cube) ↔ ∃ handle, registry.get? store = some handle := by
  constructor
  · rintro ⟨cube, h⟩
    cases hget : registry.get? store with
    | none => simp [cube?, hget] at h
    | some handle => exact ⟨handle, rfl⟩
  · rintro ⟨handle, h⟩
    obtain ⟨cube, hread⟩ := separate.live h
    exact ⟨cube, by simp [cube?, h, hread]⟩

theorem cube?_of_get? {registry : Registry} {store : String} {handle : Handle}
    (h : registry.get? store = some handle) : registry.cube? store = registry.read? handle := by
  rw [cube?, h]
  rfl

theorem Sound.name_of_cube? {registry : Registry} (sound : registry.Sound) {store : String}
    {cube : Cube} (h : registry.cube? store = some cube) : cube.name = store := by
  obtain ⟨handle, hget⟩ := sound.cube?_eq_some_iff.mp ⟨cube, h⟩
  rw [cube?_of_get? hget] at h
  exact sound.named hget h

theorem getOrCreate_of_some {registry : Registry} {store : String} {handle : Handle}
    (h : registry.get? store = some handle) : registry.getOrCreate store = (handle, registry) := by
  rw [getOrCreate, h]

theorem getOrCreate_of_none {registry : Registry} {store : String}
    (h : registry.get? store = none) :
    registry.getOrCreate store =
      ((registry.cells.allocate (Cube.ofStore store)).1,
        ⟨(registry.cells.allocate (Cube.ofStore store)).2,
          registry.handles.insert store (registry.cells.allocate (Cube.ofStore store)).1⟩) := by
  rw [getOrCreate, h]

theorem get?_getOrCreate (registry : Registry) (store other : String) :
    (registry.getOrCreate store).2.get? other =
      if other = store then some (registry.getOrCreate store).1 else registry.get? other := by
  cases h : registry.get? store with
  | some handle =>
    rw [getOrCreate_of_some h]
    by_cases ho : other = store
    · rw [if_pos ho, ho, h]
    · rw [if_neg ho]
  | none =>
    rw [getOrCreate_of_none h]
    exact Dictionary.get?_insert _ _ _ _

/-- A store that has a handle keeps it when another store is asked for. -/
theorem get?_getOrCreate_of_get? {registry : Registry} {store : String} {handle : Handle}
    (h : registry.get? store = some handle) (asked : String) :
    (registry.getOrCreate asked).2.get? store = some handle := by
  rw [get?_getOrCreate]
  by_cases ho : store = asked
  · rw [if_pos ho, getOrCreate_of_some (ho ▸ h)]
  · rw [if_neg ho, h]

theorem Separate.read?_getOrCreate {registry : Registry} (separate : registry.Separate)
    (store : String) : (registry.getOrCreate store).2.read? (registry.getOrCreate store).1 =
      some ((registry.cube? store).getD (Cube.ofStore store)) := by
  cases h : registry.get? store with
  | some handle =>
    obtain ⟨cube, hread⟩ := separate.live h
    rw [getOrCreate_of_some h, cube?_of_get? h, hread]
    rfl
  | none =>
    rw [getOrCreate_of_none h, cube?, h]
    exact (Cells.read?_allocate _ _ _).trans (if_pos rfl)

theorem read?_getOrCreate_of_read? {registry : Registry} {handle : Handle} {cube : Cube}
    (h : registry.read? handle = some cube) (store : String) :
    (registry.getOrCreate store).2.read? handle = some cube := by
  cases hget : registry.get? store with
  | some handle' => rw [getOrCreate_of_some hget, h]
  | none =>
    rw [getOrCreate_of_none hget]
    refine (Cells.read?_allocate _ _ _).trans ?_
    rw [if_neg (Cells.ne_allocate_of_read? h _)]
    exact h

/-- The handle of a store that is asked for leads to the cube of no other store. -/
theorem Separate.ne_getOrCreate {registry : Registry} (separate : registry.Separate)
    {store other : String} {handle : Handle} (h : registry.get? other = some handle)
    (hne : other ≠ store) : handle ≠ (registry.getOrCreate store).1 := by
  cases hget : registry.get? store with
  | some handle' =>
    rw [getOrCreate_of_some hget]
    rintro rfl
    exact hne (separate.store_eq h hget)
  | none =>
    obtain ⟨cube, hread⟩ := separate.live h
    rw [getOrCreate_of_none hget]
    exact Cells.ne_allocate_of_read? hread (Cube.ofStore store)

theorem Separate.getOrCreate {registry : Registry} (separate : registry.Separate)
    (store : String) : (registry.getOrCreate store).2.Separate where
  live := by
    intro other handle h
    rw [get?_getOrCreate] at h
    by_cases ho : other = store
    · rw [if_pos ho] at h
      exact ⟨_, Option.some.inj h ▸ separate.read?_getOrCreate store⟩
    · rw [if_neg ho] at h
      obtain ⟨cube, hread⟩ := separate.live h
      exact ⟨cube, read?_getOrCreate_of_read? hread store⟩
  store_eq := by
    intro first second handle hfirst hsecond
    rw [get?_getOrCreate] at hfirst hsecond
    by_cases hf : first = store <;> by_cases hs : second = store
    · exact hf.trans hs.symm
    · rw [if_pos hf] at hfirst
      rw [if_neg hs] at hsecond
      exact absurd (Option.some.inj hfirst).symm (separate.ne_getOrCreate hsecond hs)
    · rw [if_neg hf] at hfirst
      rw [if_pos hs] at hsecond
      exact absurd (Option.some.inj hsecond).symm (separate.ne_getOrCreate hfirst hf)
    · rw [if_neg hf] at hfirst
      rw [if_neg hs] at hsecond
      exact separate.store_eq hfirst hsecond
  count := by
    cases h : registry.get? store with
    | some handle =>
      rw [getOrCreate_of_some h]
      exact separate.count
    | none =>
      rw [getOrCreate_of_none h]
      refine Eq.trans ?_ (Dictionary.size_insert_of_none h _).symm
      simp only [Cells.allocate, List.length_append, List.length_singleton]
      exact congrArg (· + 1) separate.count

theorem Sound.getOrCreate {registry : Registry} (sound : registry.Sound) (store : String) :
    (registry.getOrCreate store).2.Sound where
  toSeparate := sound.toSeparate.getOrCreate store
  named := by
    intro other handle cube h hread
    rw [get?_getOrCreate] at h
    by_cases ho : other = store
    · rw [if_pos ho] at h
      rw [← Option.some.inj h, sound.read?_getOrCreate] at hread
      rw [← Option.some.inj hread]
      cases hcube : registry.cube? store with
      | none => exact ho.symm
      | some cube => exact (sound.name_of_cube? hcube).trans ho.symm
    · rw [if_neg ho] at h
      obtain ⟨cube', hread'⟩ := sound.live h
      obtain rfl : cube' = cube :=
        Option.some.inj ((read?_getOrCreate_of_read? hread' store).symm.trans hread)
      exact sound.named h hread'

theorem Separate.cube?_getOrCreate {registry : Registry} (separate : registry.Separate)
    (store other : String) : (registry.getOrCreate store).2.cube? other =
      if other = store then some ((registry.cube? store).getD (Cube.ofStore store))
      else registry.cube? other := by
  by_cases ho : other = store
  · have hget : (registry.getOrCreate store).2.get? other =
        some (registry.getOrCreate store).1 := by
      rw [get?_getOrCreate, if_pos ho]
    rw [if_pos ho, cube?_of_get? hget, separate.read?_getOrCreate]
  · rw [if_neg ho]
    have hget : (registry.getOrCreate store).2.get? other = registry.get? other := by
      rw [get?_getOrCreate, if_neg ho]
    cases h : registry.get? other with
    | none => simp [cube?, hget, h]
    | some handle =>
      obtain ⟨cube, hread⟩ := separate.live h
      rw [cube?_of_get? (hget.trans h), cube?_of_get? h, hread,
        read?_getOrCreate_of_read? hread]

@[simp] theorem get?_update (registry : Registry) (handle : Handle) (change : Cube → Cube)
    (store : String) : (registry.update handle change).get? store = registry.get? store :=
  rfl

theorem read?_update (registry : Registry) (handle : Handle) (change : Cube → Cube)
    (other : Handle) : (registry.update handle change).read? other =
      if other = handle then (registry.read? other).map change else registry.read? other :=
  Cells.read?_update _ _ _ _

theorem update_update (registry : Registry) (handle : Handle) (first second : Cube → Cube) :
    (registry.update handle first).update handle second =
      registry.update handle fun cube => second (first cube) := by
  simp only [update, Cells.update_update]

theorem Separate.update {registry : Registry} (separate : registry.Separate) (handle : Handle)
    (change : Cube → Cube) : (registry.update handle change).Separate where
  live := by
    intro store other h
    obtain ⟨cube, hread⟩ := separate.live h
    by_cases ho : other = handle
    · exact ⟨change cube, by rw [read?_update, if_pos ho, hread]; rfl⟩
    · exact ⟨cube, by rw [read?_update, if_neg ho, hread]⟩
  store_eq := separate.store_eq
  count := (Cells.length_update _ _ _).trans separate.count

theorem Sound.update {registry : Registry} (sound : registry.Sound) (handle : Handle)
    {change : Cube → Cube} (keeps : KeepsName change) : (registry.update handle change).Sound where
  toSeparate := sound.toSeparate.update handle change
  named := by
    intro store other cube h hread
    obtain ⟨old, hold⟩ := sound.live h
    have hname : old.name = store := sound.named h hold
    rw [read?_update] at hread
    by_cases ho : other = handle
    · rw [if_pos ho, hold] at hread
      rw [← Option.some.inj hread, keeps, hname]
    · rw [if_neg ho] at hread
      exact sound.named h hread

/-- What is written through the handle of a store changes the cube of that store only. -/
theorem Separate.cube?_update {registry : Registry} (separate : registry.Separate)
    {store : String} {handle : Handle} (h : registry.get? store = some handle)
    (change : Cube → Cube) (other : String) : (registry.update handle change).cube? other =
      if other = store then (registry.cube? other).map change else registry.cube? other := by
  cases hother : registry.get? other with
  | none =>
    have hne : other ≠ store := by
      rintro rfl
      simp [h] at hother
    rw [if_neg hne, cube?, cube?, get?_update, hother]
    rfl
  | some handle' =>
    have hiff : handle' = handle ↔ other = store := by
      constructor
      · rintro rfl
        exact separate.store_eq hother h
      · rintro rfl
        exact Option.some.inj (hother.symm.trans h)
    rw [cube?_of_get? ((get?_update _ _ _ _).trans hother), cube?_of_get? hother, read?_update]
    simp only [hiff]

theorem updateStore_of_get? {registry : Registry} {store : String} {handle : Handle}
    (h : registry.get? store = some handle) (change : Cube → Cube) :
    registry.updateStore store change = registry.update handle change := by
  rw [updateStore, getOrCreate_of_some h]

theorem updateStore_eq_update (registry : Registry) (store : String) (change : Cube → Cube) :
    registry.updateStore store change =
      (registry.getOrCreate store).2.update (registry.getOrCreate store).1 change :=
  rfl

theorem get?_updateStore (registry : Registry) (store : String) (change : Cube → Cube)
    (other : String) : (registry.updateStore store change).get? other =
      (registry.getOrCreate store).2.get? other :=
  rfl

theorem Separate.updateStore {registry : Registry} (separate : registry.Separate) (store : String)
    (change : Cube → Cube) : (registry.updateStore store change).Separate :=
  (separate.getOrCreate store).update _ change

theorem Sound.updateStore {registry : Registry} (sound : registry.Sound) (store : String)
    {change : Cube → Cube} (keeps : KeepsName change) :
    (registry.updateStore store change).Sound :=
  (sound.getOrCreate store).update _ keeps

/-- A store that has no cube gets an empty one before it is changed; other stores keep theirs. -/
theorem Separate.cube?_updateStore {registry : Registry} (separate : registry.Separate)
    (store : String) (change : Cube → Cube) (other : String) :
    (registry.updateStore store change).cube? other =
      if other = store then some (change ((registry.cube? store).getD (Cube.ofStore store)))
      else registry.cube? other := by
  have hget : (registry.getOrCreate store).2.get? store = some (registry.getOrCreate store).1 := by
    rw [get?_getOrCreate, if_pos rfl]
  refine ((separate.getOrCreate store).cube?_update hget change other).trans ?_
  rw [separate.cube?_getOrCreate]
  by_cases ho : other = store
  · rw [if_pos ho, if_pos ho, if_pos ho]
    rfl
  · rw [if_neg ho, if_neg ho, if_neg ho]

/-- In a registry of any kind, a store without a cube gets one. -/
theorem cube?_updateStore_of_none {registry : Registry} {store : String}
    (h : registry.get? store = none) (change : Cube → Cube) :
    (registry.updateStore store change).cube? store = some (change (Cube.ofStore store)) := by
  have hget : (registry.updateStore store change).get? store =
      some (registry.getOrCreate store).1 := by
    rw [get?_updateStore, get?_getOrCreate, if_pos rfl]
  rw [cube?_of_get? hget, updateStore_eq_update, read?_update, if_pos rfl, getOrCreate_of_none h]
  have hread := (Cells.read?_allocate registry.cells (Cube.ofStore store) _).trans (if_pos rfl)
  exact congrArg (Option.map change) hread

end Registry

end OlapSynthesis
