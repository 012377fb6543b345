import OlapSynthesis.Proofs.Registry.History

namespace OlapSynthesis.Registry

theorem read?_takeCube_of_ne (inUse : Handle → Bool) (store : String) {handle other : Handle}
    (h : other ≠ handle) (cells : Cells) :
    (takeCube inUse store handle cells).2.read? other = cells.read? other := by
  unfold takeCube
  cases inUse handle with
  | true => rfl
  | false => exact (Cells.read?_release _ _ _).trans (if_neg h)

/-- Taking the cube of one store does not disturb the cubes of the others. -/
theorem takeCubes_fst (inUse : Handle → Bool) {entries : List (String × Handle)}
    (distinct : (entries.map (·.2)).Nodup) (cells : Cells) :
    (takeCubes inUse entries cells).1 =
      entries.map fun entry => (entry.1, (cells.read? entry.2).getD (Cube.ofStore entry.1)) := by
  induction entries generalizing cells with
  | nil => rfl
  | cons entry entries ih =>
    obtain ⟨hentry, hrest⟩ := List.nodup_cons.mp distinct
    rw [takeCubes, List.map_cons]
    refine congrArg₂ List.cons rfl ((ih hrest _).trans (List.map_congr_left fun other hother => ?_))
    have hne : other.2 ≠ entry.2 := fun heq => hentry (List.mem_map.mpr ⟨other, hother, heq⟩)
    rw [read?_takeCube_of_ne inUse entry.1 hne]

theorem read?_takeCubes_snd {inUse : Handle → Bool} {handle : Handle} (h : inUse handle = true)
    (entries : List (String × Handle)) (cells : Cells) :
    (takeCubes inUse entries cells).2.read? handle = cells.read? handle := by
  induction entries generalizing cells with
  | nil => rfl
  | cons entry entries ih =>
    rw [takeCubes]
    refine (ih _).trans ?_
    by_cases he : handle = entry.2
    · rw [takeCube, ← he, if_pos h]
    · exact read?_takeCube_of_ne inUse entry.1 he cells

variable {registry : Registry}

theorem Separate.nodup_handles (separate : registry.Separate) :
    (registry.handles.entries.map (·.2)).Nodup := by
  refine List.pairwise_map.mpr ((List.pairwise_iff_forall_sublist).mpr fun {e f} hsub => ?_)
  have hmem := hsub.subset
  have he : registry.get? e.1 = some e.2 := Dictionary.get?_eq_some_iff.mpr (hmem (by simp))
  have hf : registry.get? f.1 = some f.2 := Dictionary.get?_eq_some_iff.mpr (hmem (by simp))
  have hlt : e.1 < f.1 := by
    have hordered := registry.handles.ordered.sublist hsub
    simpa using hordered
  intro heq
  have hstore : e.1 = f.1 := separate.store_eq he (heq ▸ hf)
  exact String.lt_irrefl _ (hstore ▸ hlt)

/-- Freezing gives every store its cube, whatever handles are still in use. -/
theorem Separate.get?_freeze (separate : registry.Separate) (inUse : Handle → Bool) (store : String) :
    (registry.freeze inUse).1.get? store = registry.cube? store := by
  have hfreeze : (registry.freeze inUse).1 = .ofList (registry.handles.keys.map fun store =>
      (store, (registry.cube? store).getD (Cube.ofStore store))) := by
    change Dictionary.ofList (takeCubes inUse registry.handles.entries registry.cells).1 = _
    rw [takeCubes_fst inUse separate.nodup_handles, Dictionary.keys, List.map_map]
    refine congrArg Dictionary.ofList (List.map_congr_left fun entry hentry => ?_)
    have hget : registry.get? entry.1 = some entry.2 := Dictionary.get?_eq_some_iff.mpr hentry
    rw [Function.comp_apply, cube?_of_get? hget]
    rfl
  rw [hfreeze, Dictionary.get?_ofList_graph]
  cases hget : registry.get? store with
  | none =>
    have hnot : store ∉ registry.handles.keys := by
      rw [Dictionary.mem_keys_iff]
      rintro ⟨handle, h⟩
      exact absurd (hget.symm.trans h) (by simp)
    rw [if_neg hnot, cube?, hget]
    rfl
  | some handle =>
    obtain ⟨cube, hcube⟩ := separate.cube?_eq_some_iff.mpr ⟨handle, hget⟩
    rw [if_pos (Dictionary.mem_keys_iff.mpr ⟨handle, hget⟩), hcube]
    rfl

theorem Separate.freeze_fst_eq (separate : registry.Separate) (inUse inUse' : Handle → Bool) :
    (registry.freeze inUse).1 = (registry.freeze inUse').1 :=
  Dictionary.ext_get? fun store => by rw [separate.get?_freeze, separate.get?_freeze]

/-- A cell on which somebody holds a handle is left as it is. -/
theorem read?_freeze {inUse : Handle → Bool} {handle : Handle} (h : inUse handle = true) :
    (registry.freeze inUse).2.read? handle = registry.read? handle :=
  read?_takeCubes_snd h _ _

end OlapSynthesis.Registry
