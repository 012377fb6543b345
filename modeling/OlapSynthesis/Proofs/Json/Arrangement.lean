import OlapSynthesis.Json.Basic
import OlapSynthesis.Proofs.Dictionary

namespace OlapSynthesis

theorem Dictionary.perm_insertEntry {key : String} {l : List (String × α)}
    (h : key ∉ l.map (·.1)) (value : α) : (insertEntry key value l).Perm ((key, value) :: l) := by
  induction l with
  | nil => exact .refl _
  | cons entry l ih =>
    rw [List.map_cons, List.mem_cons, not_or] at h
    obtain ⟨hentry, hl⟩ := h
    unfold insertEntry
    rw [if_neg hentry]
    split
    · exact .refl _
    · exact ((ih hl).cons entry).trans (.swap _ _ _)

namespace Json

/-- A function on values that may give the members of objects another order, and does nothing else. -/
structure Arranges (arrange : Json → Json) : Prop where
  null : arrange .null = .null
  bool (b : Bool) : arrange (.bool b) = .bool b
  number (n : Number) : arrange (.number n) = .number n
  text (s : String) : arrange (.text s) = .text s
  array (items : List Json) : arrange (.array items) = .array (items.map arrange)
  object (entries : List (String × Json)) (distinct : (entries.map (·.1)).Nodup) :
    ∃ arranged, arrange (.object entries) = .object arranged ∧
      arranged.Perm (entries.map (Prod.map id arrange))

theorem Arranges.nat {arrange : Json → Json} (h : Arranges arrange) (n : Nat) :
    arrange (.nat n) = .nat n :=
  h.number _

theorem Arranges.single {arrange : Json → Json} (h : Arranges arrange) (key : String)
    (value : Json) : arrange (.object [(key, value)]) = .object [(key, arrange value)] := by
  obtain ⟨arranged, harranged, hperm⟩ := h.object [(key, value)] (List.nodup_singleton _)
  rw [harranged, List.perm_singleton.mp hperm]
  rfl

theorem arranges_id : Arranges id where
  null := rfl
  bool _ := rfl
  number _ := rfl
  text _ := rfl
  array items := by rw [List.map_id]; rfl
  object entries _ := ⟨entries, rfl, by rw [Prod.map_id, List.map_id]⟩

theorem canonicalItems_eq (items : List Json) : canonicalItems items = items.map canonical := by
  induction items with
  | nil => rfl
  | cons item items ih => rw [canonicalItems, ih, List.map_cons]

theorem perm_canonicalMembers {entries sorted : List (String × Json)}
    (distinct : ((entries ++ sorted).map (·.1)).Nodup) :
    (canonicalMembers entries sorted).Perm (entries.map (Prod.map id canonical) ++ sorted) := by
  induction entries generalizing sorted with
  | nil => exact .refl _
  | cons entry entries ih =>
    obtain ⟨key, value⟩ := entry
    have hnew : key ∉ sorted.map (·.1) := by
      rw [List.cons_append, List.map_cons, List.nodup_cons, List.map_append] at distinct
      exact fun hmem => distinct.1 (List.mem_append_right _ hmem)
    have hinsert := Dictionary.perm_insertEntry hnew (canonical value)
    have hlater : ((entries ++ Dictionary.insertEntry key (canonical value) sorted).map
        (·.1)).Nodup := by
      rw [((hinsert.append_left entries).map _).nodup_iff, List.map_append, List.map_cons,
        List.nodup_middle]
      rwa [List.cons_append, List.map_cons, List.map_append] at distinct
    rw [canonicalMembers, List.map_cons, List.cons_append]
    exact (ih hlater).trans ((hinsert.append_left _).trans List.perm_middle)

theorem arranges_canonical : Arranges canonical where
  null := by rw [canonical] <;> simp
  bool b := by rw [canonical] <;> simp
  number n := by rw [canonical] <;> simp
  text s := by rw [canonical] <;> simp
  array items := by rw [canonical, canonicalItems_eq]
  object entries distinct := by
    refine ⟨canonicalMembers entries [], by rw [canonical], ?_⟩
    have hperm : (canonicalMembers entries []).Perm (entries.map (Prod.map id canonical) ++ []) :=
      perm_canonicalMembers (by rwa [List.append_nil])
    rwa [List.append_nil] at hperm

end Json

end OlapSynthesis
