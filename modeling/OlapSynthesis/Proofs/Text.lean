import Mathlib.Data.List.DropRight
import OlapSynthesis.Text

namespace OlapSynthesis.Text

theorem dropWhile_rdropWhile {p : α → Bool} {l : List α} (h : l.dropWhile p = l) :
    (l.rdropWhile p).dropWhile p = l.rdropWhile p := by
  rw [List.dropWhile_eq_self_iff]
  intro hl
  have hleading : l.rdropWhile p <+: l := List.rdropWhile_prefix p l
  rw [hleading.getElem hl]
  exact List.dropWhile_eq_self_iff.mp h _

theorem trim_trim (s : String) : trim (trim s) = trim s := by
  have hfront : (s.toList.dropWhile isWhiteSpace).dropWhile isWhiteSpace =
      s.toList.dropWhile isWhiteSpace :=
    List.dropWhile_idempotent _ _
  have htwice : trimmed (trim s) = trimmed s := by
    change ((String.ofList (trimmed s)).toList.dropWhile isWhiteSpace).rdropWhile isWhiteSpace = _
    rw [String.toList_ofList, trimmed]
    change (((s.toList.dropWhile isWhiteSpace).rdropWhile isWhiteSpace).dropWhile
      isWhiteSpace).rdropWhile isWhiteSpace = _
    rw [dropWhile_rdropWhile hfront]
    exact List.rdropWhile_idempotent _ _
  rw [trim, htwice, trim]

theorem rdropWhile_append_of_all {p : α → Bool} {l rest : List α} (h : rest.all p = true) :
    (l ++ rest).rdropWhile p = l.rdropWhile p := by
  have hall : ∀ a ∈ rest.reverse, p a = true := by
    simpa using h
  rw [List.rdropWhile, List.reverse_append, List.dropWhile_append_of_pos hall]
  rfl

/-- White space around a text goes with the white space that the text itself has at its ends. -/
theorem trim_surrounded {before after : String} (hbefore : isBlank before = true)
    (hafter : isBlank after = true) (s : String) : trim (before ++ s ++ after) = trim s := by
  have htrimmed : trimmed (before ++ s ++ after) = trimmed s := by
    change ((before ++ s ++ after).toList.dropWhile isWhiteSpace).rdropWhile isWhiteSpace = _
    rw [String.toList_append, String.toList_append, List.append_assoc,
      List.dropWhile_append_of_pos (List.all_eq_true.mp hbefore), List.dropWhile_append]
    cases hs : s.toList.dropWhile isWhiteSpace with
    | nil =>
      have hnil : after.toList.dropWhile isWhiteSpace = [] := dropWhile_eq_nil_iff.mpr hafter
      simp [trimmed, hs, hnil]
    | cons c rest =>
      rw [trimmed, hs]
      exact rdropWhile_append_of_all hafter
  rw [trim, htrimmed, trim]

theorem isBlank_of_trim_eq_self {s : String} (htrim : trim s = s) (hne : s ≠ "") :
    isBlank s = false := by
  rw [← Bool.not_eq_true, ← trim_eq_empty_iff, htrim]
  exact hne

theorem trimmed_sublist (s : String) : (trimmed s).Sublist s.toList := by
  rw [trimmed, ← List.reverse_sublist, List.reverse_reverse]
  apply (List.dropWhile_sublist _).trans
  rw [List.reverse_sublist]
  exact List.dropWhile_sublist _

/-- Only a text that is trimmed already is, up to case, the same as it is without the white space
around it. -/
theorem trim_eq_self_of_sameIgnoringCase {s t : String} (htrim : sameIgnoringCase t (trim s) = true)
    (hs : sameIgnoringCase t s = true) : trim s = s := by
  have hlower := (eq_of_beq htrim).symm.trans (eq_of_beq hs)
  have hlength : (trimmed s).length = s.toList.length := by
    simpa [trim] using congrArg List.length hlower
  rw [trim, (trimmed_sublist s).eq_of_length hlength, String.ofList_toList]

theorem lower_eq_iff {s word : String} (hword : lower word = word) :
    lower s = word ↔ sameIgnoringCase s word = true := by
  have hsame : lower s = lower word ↔ sameIgnoringCase s word = true := by
    simp [lower, sameIgnoringCase, ← String.toList_inj]
  rwa [hword] at hsame

theorem startsIgnoringCase_congr {s t : String} (h : sameIgnoringCase s t = true)
    (start : String) : startsIgnoringCase start s = startsIgnoringCase start t := by
  rw [startsIgnoringCase, List.map_take, eq_of_beq h, ← List.map_take, startsIgnoringCase]

/-- A text begins with another, up to case, if that is how its first part reads. -/
theorem startsIgnoringCase_iff {start s : String} :
    startsIgnoringCase start s = true ↔
      ∃ front back, s = front ++ back ∧ sameIgnoringCase front start = true := by
  rw [startsIgnoringCase]
  constructor
  · intro h
    refine ⟨String.ofList (s.toList.take start.length),
      String.ofList (s.toList.drop start.length), ?_, ?_⟩
    · rw [← String.ofList_append, List.take_append_drop, String.ofList_toList]
    · rwa [sameIgnoringCase, String.toList_ofList]
  · rintro ⟨front, back, rfl, hfront⟩
    have hlength : front.toList.length = start.length := by
      have hlower := congrArg List.length (eq_of_beq hfront)
      rwa [List.length_map, List.length_map, @String.length_toList start] at hlower
    rw [String.toList_append, ← hlength, List.take_left]
    exact hfront

/-- A text ends with another, up to case, if that is how its last part reads. -/
theorem endsIgnoringCase_iff {ending s : String} :
    endsIgnoringCase ending s = true ↔
      ∃ front back, s = front ++ back ∧ sameIgnoringCase back ending = true := by
  have hlast : (s.toList.reverse.take ending.length).reverse =
      s.toList.drop (s.toList.length - ending.length) := by
    rw [List.take_reverse, List.reverse_reverse]
  rw [endsIgnoringCase, hlast]
  constructor
  · intro h
    generalize s.toList.length - ending.length = count at h
    refine ⟨String.ofList (s.toList.take count), String.ofList (s.toList.drop count), ?_, ?_⟩
    · rw [← String.ofList_append, List.take_append_drop, String.ofList_toList]
    · rwa [sameIgnoringCase, String.toList_ofList]
  · rintro ⟨front, back, rfl, hback⟩
    have hlength : back.toList.length = ending.length := by
      have hlower := congrArg List.length (eq_of_beq hback)
      rwa [List.length_map, List.length_map, @String.length_toList ending] at hlower
    rw [String.toList_append, List.length_append, ← hlength, Nat.add_sub_cancel, List.drop_left]
    exact hback

/-- A text is cut at the first mark, whatever comes after it. -/
theorem cut?_eq_some {mark : Char} {s before after : String}
    (hs : s.toList = before.toList ++ mark :: after.toList) (h : mark ∉ before.toList) :
    cut? mark s = some (before, after) := by
  have hbefore : ∀ c ∈ before.toList, (c != mark) = true := by
    intro c hc
    rw [bne_iff_ne]
    rintro rfl
    exact h hc
  rw [cut?, hs, List.dropWhile_append_of_pos hbefore, List.takeWhile_append_of_pos hbefore]
  simp

theorem splitAt_ne_nil [DecidableEq α] {mark : α} (l : List α) : splitAt mark l ≠ [] := by
  cases l with
  | nil => exact List.cons_ne_nil _ _
  | cons a l =>
    rw [splitAt]
    split
    · exact List.cons_ne_nil _ _
    · split <;> exact List.cons_ne_nil _ _

theorem splitAt_of_notMem [DecidableEq α] {mark : α} {l : List α} (h : mark ∉ l) :
    splitAt mark l = [l] := by
  induction l with
  | nil => rfl
  | cons a l ih =>
    rw [List.mem_cons, not_or] at h
    have ha : ¬(a == mark) = true := by
      rw [beq_iff_eq]
      exact Ne.symm h.1
    rw [splitAt, if_neg ha, ih h.2]

theorem splitAt_append_cons [DecidableEq α] {mark : α} (l rest : List α) :
    splitAt mark (l ++ mark :: rest) = splitAt mark l ++ splitAt mark rest := by
  induction l with
  | nil =>
    change (if (mark == mark) = true then [] :: splitAt mark rest else _) = _
    rw [if_pos (beq_self_eq_true mark)]
    rfl
  | cons a l ih =>
    rw [List.cons_append, splitAt, splitAt, ih]
    split
    · rfl
    · cases hl : splitAt mark l with
      | nil => exact absurd hl (splitAt_ne_nil l)
      | cons piece pieces => rfl

/-- What becomes a character of one byte in lower case has one byte itself. -/
theorem utf8Size_of_toLower {c : Char} (h : c.toLower.utf8Size = 1) : c.utf8Size = 1 := by
  delta Char.toLower at h
  split at h
  next hcapital =>
    have hlow : c.val ≤ 127 := UInt32.le_trans hcapital.2 (by decide)
    simp only [Char.utf8Size]
    exact if_pos hlow
  next => exact h

theorem utf8Size_of_sameIgnoringCase {s word : String}
    (hword : word.toList.all (·.toLower.utf8Size == 1) = true)
    (h : sameIgnoringCase s word = true) :
    ∀ c ∈ s.toList, c.utf8Size = 1 := by
  intro c hc
  have hlower : c.toLower ∈ word.toList.map Char.toLower := by
    rw [← eq_of_beq h]
    exact List.mem_map_of_mem hc
  obtain ⟨d, hd, hsame⟩ := List.mem_map.mp hlower
  apply utf8Size_of_toLower
  rw [← hsame]
  exact eq_of_beq (List.all_eq_true.mp hword d hd)

theorem firstBytes?_succ_cons (n : Nat) (c : Char) (l : List Char) :
    firstBytes? (n + 1) (c :: l) =
      if c.utf8Size ≤ n + 1 then (firstBytes? (n + 1 - c.utf8Size) l).map (c :: ·) else none :=
  rfl

theorem firstBytes?_eq_take {n : Nat} {l : List Char} (h : ∀ c ∈ l.take n, c.utf8Size = 1) :
    firstBytes? n l = some (l.take n) := by
  induction l generalizing n with
  | nil => cases n <;> rfl
  | cons c l ih =>
    cases n with
    | zero => rfl
    | succ n =>
      rw [List.take_succ_cons, List.forall_mem_cons] at h
      rw [firstBytes?_succ_cons, h.1, if_pos (Nat.le_add_left 1 n), Nat.add_sub_cancel, ih h.2]
      rfl

theorem prefix_of_firstBytes? {n : Nat} {l first : List Char}
    (h : firstBytes? n l = some first) : first <+: l := by
  induction l generalizing n first with
  | nil => cases n <;> cases h <;> exact List.prefix_rfl
  | cons c l ih =>
    cases n with
    | zero =>
      cases h
      exact List.nil_prefix
    | succ n =>
      rw [firstBytes?_succ_cons] at h
      split at h
      · obtain ⟨rest, hrest, rfl⟩ := Option.map_eq_some_iff.mp h
        exact (List.prefix_cons_inj c).mpr (ih hrest)
      · cases h

end OlapSynthesis.Text
