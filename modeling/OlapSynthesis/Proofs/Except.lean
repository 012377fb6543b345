import Mathlib.Data.List.Forall2

namespace OlapSynthesis

variable {α : Type u} {β : Type v} {ε : Type w}

@[simp] theorem ok_bind {α β : Type u} (a : α) (f : α → Except ε β) :
    (Except.ok a >>= f) = f a :=
  rfl

theorem exists_of_bind_eq_ok {α β : Type u} {x : Except ε α} {f : α → Except ε β} {b : β}
    (h : x >>= f = .ok b) : ∃ a, x = .ok a ∧ f a = .ok b := by
  cases x with
  | error cause => cases h
  | ok a => exact ⟨a, rfl, h⟩

theorem exists_of_mapError_eq_ok {ε' : Type w'} {x : Except ε α} {f : ε → ε'} {a : α}
    (h : x.mapError f = .ok a) : x = .ok a := by
  cases x with
  | error cause => cases h
  | ok a' => exact congrArg Except.ok (Except.ok.inj h)

theorem toOption_eq_some_iff {x : Except ε α} {a : α} : x.toOption = some a ↔ x = .ok a := by
  cases x <;> simp [Except.toOption]

theorem mapM_eq_ok_iff {f : α → Except ε β} {l : List α} {items : List β} :
    l.mapM f = .ok items ↔ List.Forall₂ (fun a item => f a = .ok item) l items := by
  induction l generalizing items with
  | nil =>
    constructor
    · intro h
      cases h
      exact .nil
    · intro h
      cases h
      rfl
  | cons a l ih =>
    rw [List.mapM_cons]
    constructor
    · intro h
      obtain ⟨item, hitem, hrest⟩ := exists_of_bind_eq_ok h
      obtain ⟨rest, hitems, hall⟩ := exists_of_bind_eq_ok hrest
      cases hall
      exact .cons hitem (ih.mp hitems)
    · intro h
      cases h with
      | cons hitem hitems =>
        rw [hitem, ih.mpr hitems]
        rfl

theorem exists_of_forall₂ {R : α → β → Prop} {l : List α} {items : List β}
    (h : List.Forall₂ R l items) {a : α} (ha : a ∈ l) : ∃ item ∈ items, R a item := by
  induction h with
  | nil => cases ha
  | cons hfirst _ ih =>
    rcases List.mem_cons.mp ha with rfl | hlater
    · exact ⟨_, List.mem_cons_self, hfirst⟩
    · obtain ⟨item, hitem, hR⟩ := ih hlater
      exact ⟨item, List.mem_cons_of_mem _ hitem, hR⟩

theorem exists_of_mapM_eq_ok {f : α → Except ε β} {l : List α} {items : List β}
    (h : l.mapM f = .ok items) {item : β} (hitem : item ∈ items) : ∃ a ∈ l, f a = .ok item :=
  exists_of_forall₂ (mapM_eq_ok_iff.mp h).flip hitem

theorem mapM_eq_error_iff {f : α → Except ε β} {l : List α} {cause : ε} :
    l.mapM f = .error cause ↔
      ∃ before a after, l = before ++ a :: after ∧
        (∀ earlier ∈ before, ∀ other, f earlier ≠ .error other) ∧ f a = .error cause := by
  induction l with
  | nil =>
    constructor
    · intro h
      cases h
    · rintro ⟨before, a, after, h, -⟩
      simp at h
  | cons first l ih =>
    rw [List.mapM_cons]
    constructor
    · intro h
      cases hfirst : f first with
      | error other =>
        rw [hfirst] at h
        cases h
        exact ⟨[], first, l, rfl, List.forall_mem_nil _, hfirst⟩
      | ok item =>
        rw [hfirst, ok_bind] at h
        cases hl : l.mapM f with
        | ok items =>
          rw [hl] at h
          cases h
        | error later =>
          rw [hl] at h
          cases h
          obtain ⟨before, a, after, rfl, hbefore, ha⟩ := ih.mp hl
          have hok (other : ε) : f first ≠ .error other := by simp [hfirst]
          exact ⟨first :: before, a, after, rfl, List.forall_mem_cons.mpr ⟨hok, hbefore⟩, ha⟩
    · rintro ⟨before, a, after, h, hbefore, ha⟩
      cases before with
      | nil =>
        obtain ⟨rfl, rfl⟩ := List.cons.inj h
        rw [ha]
        rfl
      | cons other before =>
        obtain ⟨rfl, rfl⟩ := List.cons.inj h
        obtain ⟨hok, hbefore⟩ := List.forall_mem_cons.mp hbefore
        cases hfirst : f first with
        | error other => exact absurd hfirst (hok other)
        | ok item =>
          rw [ok_bind, ih.mpr ⟨before, a, after, rfl, hbefore, ha⟩]
          rfl

theorem exists_of_mapM_eq_error {f : α → Except ε β} {l : List α} {cause : ε}
    (h : l.mapM f = .error cause) : ∃ a ∈ l, f a = .error cause := by
  obtain ⟨before, a, after, rfl, -, ha⟩ := mapM_eq_error_iff.mp h
  exact ⟨a, List.mem_append_right _ List.mem_cons_self, ha⟩

end OlapSynthesis
