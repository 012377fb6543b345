import Mathlib.Data.List.Nodup
import OlapSynthesis.Dictionary

namespace OlapSynthesis.Dictionary

theorem lookup_eq_some_iff_mem {l : List (String × α)} (h : (l.map (·.1)).Nodup) {k : String}
    {v : α} : l.lookup k = some v ↔ (k, v) ∈ l := by
  induction l with
  | nil => simp
  | cons e l ih =>
    obtain ⟨he, hl⟩ := List.nodup_cons.mp h
    rw [lookup_cons_eq_ite, List.mem_cons]
    by_cases hk : k = e.1
    · rw [if_pos hk]
      constructor
      · intro hv
        exact .inl (Prod.ext hk (Option.some.inj hv).symm)
      · rintro (hv | hv)
        · rw [← hv]
        · exact absurd (List.mem_map.mpr ⟨_, hv, hk⟩) he
    · rw [if_neg hk, ih hl]
      constructor
      · exact .inr
      · rintro (hv | hv)
        · exact absurd (congrArg Prod.fst hv) hk
        · exact hv

theorem lookup_map (f : α → β) (l : List (String × α)) (k : String) :
    (l.map (Prod.map id f)).lookup k = (l.lookup k).map f := by
  induction l with
  | nil => rfl
  | cons e l ih =>
    rw [List.map_cons, lookup_cons_eq_ite, lookup_cons_eq_ite, ih, Prod.map_fst, id_eq]
    by_cases hk : k = e.1
    · rw [if_pos hk, if_pos hk]
      rfl
    · rw [if_neg hk, if_neg hk]

/-- Entries with distinct keys may stand in any order. -/
theorem lookup_eq_of_perm {l l' : List (String × α)} (h : l.Perm l') (distinct : (l.map (·.1)).Nodup)
    (k : String) : l.lookup k = l'.lookup k := by
  have distinct' : (l'.map (·.1)).Nodup := (h.map _).nodup_iff.mp distinct
  refine Option.ext fun v => ?_
  rw [lookup_eq_some_iff_mem distinct, lookup_eq_some_iff_mem distinct', h.mem_iff]

/-- If the keys of some items are distinct, then one of them is the only one with its key. -/
theorem filter_eq_singleton {l : List β} {key : β → String} (h : (l.map key).Nodup) {item : β}
    (hitem : item ∈ l) {k : String} (hk : key item = k) : l.filter (key · = k) = [item] := by
  induction l with
  | nil => cases hitem
  | cons other l ih =>
    obtain ⟨hother, hl⟩ := List.nodup_cons.mp h
    rw [List.filter_cons]
    rcases List.mem_cons.mp hitem with rfl | hitem
    · have hnone : l.filter (key · = k) = [] := by
        rw [List.filter_eq_nil_iff]
        intro later hlater heq
        exact hother (List.mem_map.mpr ⟨later, hlater, (of_decide_eq_true heq).trans hk.symm⟩)
      simp [hnone, hk]
    · have hne : key other ≠ k := fun heq => hother (heq.trans hk.symm ▸ List.mem_map_of_mem hitem)
      simp [hne, ih hl hitem]

/-- If the keys of some items are distinct, then each item is the first one with its key. -/
theorem find?_eq_some_of_nodup {l : List β} {key : β → String} (h : (l.map key).Nodup) {item : β}
    (hitem : item ∈ l) : l.find? (key · == key item) = some item := by
  have honly : l.filter (key · = key item) = [item] := filter_eq_singleton h hitem rfl
  rw [← List.head?_filter]
  exact congrArg List.head? honly

theorem nodup_keys (d : Dictionary α) : d.keys.Nodup := by
  refine List.pairwise_map.mpr (d.ordered.imp fun {e f} hlt => ?_)
  intro heq
  exact String.lt_irrefl _ (heq ▸ hlt)

theorem get?_eq_some_iff {d : Dictionary α} {k : String} {v : α} :
    d.get? k = some v ↔ (k, v) ∈ d.entries :=
  lookup_eq_some_iff_mem d.nodup_keys

theorem mem_keys_iff {d : Dictionary α} {k : String} : k ∈ d.keys ↔ ∃ v, d.get? k = some v := by
  constructor
  · intro hk
    obtain ⟨⟨_, v⟩, he, rfl⟩ := List.mem_map.mp hk
    exact ⟨v, get?_eq_some_iff.mpr he⟩
  · rintro ⟨v, hv⟩
    exact List.mem_map.mpr ⟨(k, v), get?_eq_some_iff.mp hv, rfl⟩

/-- The keys of a dictionary are determined by which they are. -/
theorem keys_eq_of_mem_iff {d : Dictionary α} {e : Dictionary β}
    (h : ∀ k, k ∈ d.keys ↔ k ∈ e.keys) : d.keys = e.keys := by
  have hperm : d.keys.Perm e.keys :=
    (List.perm_ext_iff_of_nodup d.nodup_keys e.nodup_keys).mpr h
  have hd : d.keys.Pairwise (· < ·) := List.pairwise_map.mpr d.ordered
  have he : e.keys.Pairwise (· < ·) := List.pairwise_map.mpr e.ordered
  refine hperm.eq_of_pairwise (fun a b _ _ hab hba => ?_) hd he
  exact absurd (String.lt_trans hab hba) (String.lt_irrefl _)

/-- A dictionary is determined by its look-ups. -/
theorem ext_get? {d e : Dictionary α} (h : ∀ k, d.get? k = e.get? k) : d = e := by
  have hmem : ∀ p, p ∈ d.entries ↔ p ∈ e.entries := by
    rintro ⟨k, v⟩
    rw [← get?_eq_some_iff, ← get?_eq_some_iff, h]
  have hentries : d.entries = e.entries := by
    have hperm : d.entries.Perm e.entries :=
      (List.perm_ext_iff_of_nodup d.nodup_keys.of_map e.nodup_keys.of_map).mpr hmem
    refine hperm.eq_of_pairwise (fun a b _ _ hab hba => ?_) d.ordered e.ordered
    exact absurd (String.lt_trans hab hba) (String.lt_irrefl _)
  cases d
  cases e
  cases hentries
  rfl

theorem get?_erase (d : Dictionary α) (key k : String) :
    (d.erase key).get? k = if k = key then none else d.get? k := by
  have hiff (v : α) : (d.erase key).get? k = some v ↔ d.get? k = some v ∧ k ≠ key := by
    rw [get?_eq_some_iff, get?_eq_some_iff]
    simp [erase, List.mem_filter]
  refine Option.ext fun v => ?_
  by_cases hk : k = key
  · rw [hiff, if_pos hk]
    simp [hk]
  · rw [hiff, if_neg hk]
    exact and_iff_left hk

theorem contains_eq_isSome (d : Dictionary α) (k : String) :
    d.contains k = (d.get? k).isSome := by
  rw [Bool.eq_iff_iff, Option.isSome_iff_exists, ← mem_keys_iff]
  simp [contains, keys]

theorem size_insert_of_none {d : Dictionary α} {k : String} (h : d.get? k = none) (v : α) :
    (d.insert k v).size = d.size + 1 := by
  have hlength : ∀ l : List (String × α), l.lookup k = none →
      (insertEntry k v l).length = l.length + 1 := by
    intro l hl
    induction l with
    | nil => rfl
    | cons e l ih =>
      rw [lookup_cons_eq_ite] at hl
      by_cases hk : k = e.1
      · simp [hk] at hl
      · rw [if_neg hk] at hl
        unfold insertEntry
        split
        · rfl
        · simp [ih hl]
  exact hlength d.entries h

theorem isEmpty_iff_get?_eq_none {d : Dictionary α} :
    d.isEmpty = true ↔ ∀ k, d.get? k = none := by
  constructor
  · intro h k
    have hnil : d.entries = [] := List.isEmpty_iff.mp h
    rw [get?, hnil]
    rfl
  · intro h
    rw [isEmpty, List.isEmpty_iff]
    refine List.eq_nil_iff_forall_not_mem.mpr fun e he => ?_
    have hsome : d.get? e.1 = some e.2 := get?_eq_some_iff.mpr he
    simp [h e.1] at hsome

theorem get?_ofList {l : List (String × α)} (distinct : (l.map (·.1)).Nodup) (k : String) :
    (ofList l).get? k = l.lookup k := by
  have hfold : ∀ d : Dictionary α, (l.foldl (fun d e => d.insert e.1 e.2) d).get? k =
      (l.lookup k).or (d.get? k) := by
    induction l with
    | nil => exact fun d => rfl
    | cons e l ih =>
      intro d
      obtain ⟨he, hl⟩ := List.nodup_cons.mp distinct
      rw [List.foldl_cons, ih hl, get?_insert, lookup_cons_eq_ite]
      by_cases hk : k = e.1
      · have hnone : l.lookup k = none := by
          rw [List.lookup_eq_none_iff]
          intro other hother
          rw [bne_iff_ne, hk]
          exact fun heq => he (List.mem_map.mpr ⟨other, hother, heq.symm⟩)
        rw [if_pos hk, if_pos hk, hnone]
        rfl
      · rw [if_neg hk, if_neg hk]
  exact (hfold ∅).trans (by simp)

/-- A dictionary is made again of its entries in any order. -/
theorem ofList_of_perm {d : Dictionary α} {l : List (String × α)} (h : l.Perm d.entries) :
    ofList l = d := by
  have distinct : (l.map (·.1)).Nodup := (h.map _).nodup_iff.mpr d.nodup_keys
  apply ext_get?
  intro k
  rw [get?_ofList distinct]
  exact lookup_eq_of_perm h distinct k

/-- A dictionary made of keys and a value for each of them, however often a key is listed. -/
theorem get?_ofList_graph (keys : List String) (f : String → α) (k : String) :
    (ofList (keys.map fun key => (key, f key))).get? k =
      if k ∈ keys then some (f k) else none := by
  have hfold : ∀ d : Dictionary α,
      ((keys.map fun key => (key, f key)).foldl (fun d e => d.insert e.1 e.2) d).get? k =
        if k ∈ keys then some (f k) else d.get? k := by
    induction keys with
    | nil => simp
    | cons key keys ih =>
      intro d
      rw [List.map_cons, List.foldl_cons, ih, get?_insert]
      simp only [List.mem_cons]
      by_cases hmem : k ∈ keys
      · rw [if_pos hmem, if_pos (.inr hmem)]
      · by_cases hk : k = key
        · rw [if_neg hmem, if_pos hk, if_pos (.inl hk), hk]
        · rw [if_neg hmem, if_neg hk, if_neg (not_or.mpr ⟨hk, hmem⟩)]
  exact hfold ∅

end OlapSynthesis.Dictionary
