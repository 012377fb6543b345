import OlapSynthesis.Proofs.Dictionary
import OlapSynthesis.Settings.Setting

namespace OlapSynthesis.Setting

def entries? : Setting → Option (List (String × Setting))
  | .table entries => some entries
  | _ => none

/-- All tables have their entries in the order of the keys. Lists are left as they are, so nothing
is asked of the tables in them. -/
inductive Ordered : Setting → Prop
  | leaf {setting : Setting} (h : setting.entries? = none) : Ordered setting
  | table {entries : List (String × Setting)} (keys : entries.Pairwise fun e f => e.1 < f.1)
    (values : ∀ e ∈ entries, Ordered e.2) : Ordered (.table entries)

theorem Ordered.keys {entries : List (String × Setting)} (h : Ordered (.table entries)) :
    entries.Pairwise fun e f => e.1 < f.1 := by
  cases h with
  | leaf h => cases h
  | table keys _ => exact keys

theorem Ordered.of_lookup {entries : List (String × Setting)} (h : Ordered (.table entries))
    {key : String} {value : Setting} (hvalue : entries.lookup key = some value) :
    value.Ordered := by
  cases h with
  | leaf h => cases h
  | table keys values =>
    have hmem := (Dictionary.get?_eq_some_iff (d := ⟨entries, keys⟩)).mp hvalue
    exact values _ hmem

theorem Ordered.insertEntry {entries : List (String × Setting)} (h : Ordered (.table entries))
    (key : String) {value : Setting} (hvalue : value.Ordered) :
    Ordered (.table (Dictionary.insertEntry key value entries)) := by
  cases h with
  | leaf h => cases h
  | table keys values =>
    refine .table (Dictionary.ordered_insertEntry keys) ?_
    intro e he
    rcases Dictionary.mem_of_mem_insertEntry he with rfl | hmem
    · exact hvalue
    · exact values e hmem

theorem Ordered.emptyTable : emptyTable.Ordered :=
  .table .nil fun _ h => by cases h

theorem Ordered.nested {setting : Setting} (h : setting.Ordered) (path : List String) :
    (nested path setting).Ordered := by
  induction path with
  | nil => exact h
  | cons key path ih =>
    refine .table (List.pairwise_singleton _ _) ?_
    intro e he
    obtain rfl := List.mem_singleton.mp he
    exact ih

theorem overlay_of_leaf {high : Setting} (h : high.entries? = none) (low : Setting) :
    overlay low high = high := by
  cases high with
  | table entries => cases h
  | text | whole | real | truth | list => cases low <;> rfl

theorem overlay_table (low high : List (String × Setting)) :
    overlay (.table low) (.table high) = .table (overlayEntries low high) := by
  rw [overlay]

theorem lookup_overlayEntries {high : List (String × Setting)}
    (ordered : high.Pairwise fun e f => e.1 < f.1) (low : List (String × Setting)) (key : String) :
    (overlayEntries low high).lookup key =
      Option.merge overlay (low.lookup key) (high.lookup key) := by
  induction high generalizing low with
  | nil =>
    rw [overlayEntries]
    cases low.lookup key <;> rfl
  | cons entry rest ih =>
    obtain ⟨first, value⟩ := entry
    obtain ⟨hfirst, hrest⟩ := List.pairwise_cons.mp ordered
    rw [overlayEntries, ih hrest, Dictionary.lookup_insertEntry, Dictionary.lookup_cons_eq_ite]
    by_cases hkey : key = first
    · subst hkey
      have hnone : rest.lookup key = none := by
        rw [List.lookup_eq_none_iff]
        intro e he
        exact bne_iff_ne.mpr (String.ne_of_lt (hfirst e he))
      rw [if_pos rfl, if_pos rfl, hnone]
      cases low.lookup key <;> rfl
    · rw [if_neg hkey, if_neg hkey]

theorem Ordered.overlay {low high : Setting} (hlow : low.Ordered) (hhigh : high.Ordered) :
    (overlay low high).Ordered := by
  induction hhigh generalizing low with
  | leaf h =>
    rw [overlay_of_leaf h]
    exact .leaf h
  | table keys values ih =>
    rename_i entries
    cases low with
    | text | whole | real | truth | list => exact .table keys values
    | table lowEntries =>
      rw [overlay_table]
      clear keys
      induction entries generalizing lowEntries with
      | nil =>
        rw [overlayEntries]
        exact hlow
      | cons entry rest ihRest =>
        obtain ⟨hfirst, hrest⟩ := List.forall_mem_cons.mp values
        obtain ⟨ihFirst, ihLater⟩ := List.forall_mem_cons.mp ih
        rw [overlayEntries]
        refine ihRest hrest ihLater _ (hlow.insertEntry _ ?_)
        split
        next setting hsetting => exact ihFirst (hlow.of_lookup hsetting)
        next => exact hfirst

end OlapSynthesis.Setting
