import OlapSynthesis.Proofs.Registry.Journal

namespace OlapSynthesis
open Session (Step StoreStep HandleStep Answer Fault)

namespace Session

/-- Whether a step gives a store a cube that has none. Getting a store does not, nor does setting
its cache size to none. -/
def Step.creates (store : String) : Step → Prop
  | .onRegistry (.getOrCreate named _) => named = store
  | .onRegistry (.setCacheSize named size) => named = store ∧ size ≠ none
  | .onRegistry (.setAggregateMode named _) => named = store
  | .onRegistry (.dimensions named) => named = store
  | .onRegistry (.measures named) => named = store
  | .onRegistry (.natives named) => named = store
  | .onRegistry (.synthesize spec _) => spec.name = store
  | _ => False

/-- Whether a step does as it likes with a cube. -/
def Step.updates : Step → Prop
  | .onHandle _ (.update _) => True
  | _ => False

theorem HandleStep.plain_changes {label : String} {step : HandleStep}
    (h : ¬ (Step.onHandle label step).updates) : ∀ change ∈ step.changes, change.Plain := by
  cases step with
  | update change => exact absurd trivial h
  | _ => simp [changes, CurrencyCustomization.changes, Change.Plain]

/-- The state after a step, which is the state before it if the step fails. -/
def after (run : σ → Step → Except Fault (Answer × σ)) (state : σ) (step : Step) : σ :=
  match run state step with
  | .ok (_, next) => next
  | .error _ => state

theorem runAll_snd (run : σ → Step → Except Fault (Answer × σ)) (steps : List Step) (state : σ) :
    (runAll run steps state).2 = steps.foldl (after run) state := by
  induction steps generalizing state with
  | nil => rfl
  | cons step steps ih =>
    rw [List.foldl_cons, ← ih, runAll, after]
    cases run state step <;> rfl

end Session

namespace Journal

def Named (journal : Journal) (store : String) : Prop :=
  journal.history.changesOf store ≠ []

/-- A journal before freezing in which every label is for a store that was named. -/
structure Open (journal : Journal) : Prop where
  frozen : journal.frozen = false
  known : ∀ {label store}, journal.stores.get? label = some store → journal.Named store

theorem Open.blank : Journal.blank.Open where
  frozen := rfl
  known h := nomatch h

variable {journal : Journal}

theorem named_record (store : String) (changes : List Change) (other : String) :
    (journal.record store changes).Named other ↔
      journal.Named other ∨ (store = other ∧ changes ≠ []) := by
  rw [Named, Named, record, History.changesOf_append, History.changesOf_ofChanges]
  by_cases h : other = store
  · rw [if_pos h, ne_eq, List.append_eq_nil_iff, not_and_or]
    exact or_congr_right (and_iff_right h.symm).symm
  · rw [if_neg h, List.append_nil]
    exact (or_iff_left fun hand => h hand.1.symm).symm

theorem Open.record (isOpen : journal.Open) (store : String) (changes : List Change) :
    (journal.record store changes).Open where
  frozen := isOpen.frozen
  known h := (named_record _ _ _).mpr (.inl (isOpen.known h))

theorem Open.hold (isOpen : journal.Open) {store : String} (named : journal.Named store)
    (label : Option String) : (journal.hold store label).Open := by
  cases label with
  | none => exact isOpen
  | some label =>
    refine ⟨isOpen.frozen, fun {other otherStore} h => ?_⟩
    replace h : (journal.stores.insert label store).get? other = some otherStore := h
    rw [Dictionary.get?_insert] at h
    by_cases ho : other = label
    · rw [if_pos ho] at h
      exact Option.some.inj h ▸ named
    · rw [if_neg ho] at h
      exact isOpen.known h

theorem named_hold (store : String) (label : Option String) (other : String) :
    (journal.hold store label).Named other ↔ journal.Named other := by
  cases label <;> exact Iff.rfl

theorem after_onHandle (journal : Journal) (label : String) (step : HandleStep) :
    Session.after Journal.run journal (.onHandle label step) =
      match journal.stores.get? label with
      | none => journal
      | some store => journal.record store step.changes := by
  rw [Session.after, Journal.run]
  cases journal.stores.get? label <;> rfl

theorem after_same (journal : Journal) (label other : String) :
    Session.after Journal.run journal (.same label other) = journal := by
  rw [Session.after, Journal.run]
  cases journal.stores.get? label with
  | none => rfl
  | some _ => cases journal.stores.get? other <;> rfl

/-- A step that does something to a store creates it. -/
theorem Open.created (isOpen : journal.Open) {step : Step} {named : String}
    {changes : List Change} (hchanges : changes ≠ [])
    (hcreates : ∀ store, step.creates store ↔ named = store) :
    (journal.record named changes).Open ∧
      ∀ store, (journal.record named changes).Named store ↔
        journal.Named store ∨ step.creates store := by
  refine ⟨isOpen.record named changes, fun store => ?_⟩
  rw [named_record, hcreates store, and_iff_left hchanges]

/-- One step names exactly the store that it creates, and leaves the journal open. -/
theorem Open.after (isOpen : journal.Open) {step : Step} (h : step ≠ .onRegistry .freeze) :
    (Session.after Journal.run journal step).Open ∧
      ∀ store, (Session.after Journal.run journal step).Named store ↔
        journal.Named store ∨ step.creates store := by
  cases step with
  | onRegistry step =>
    have hafter : Session.after Journal.run journal (.onRegistry step) =
        match journal.runOnRegistry step with
        | .ok (_, next) => next
        | .error _ => journal := by
      rw [Session.after, Journal.run, isOpen.frozen, if_neg Bool.false_ne_true]
      cases journal.runOnRegistry step <;> rfl
    rw [hafter]
    cases step with
    | getOrCreate named label =>
      have hnamed : (journal.record named [.created]).Named named :=
        (named_record _ _ _).mpr (.inr ⟨rfl, List.cons_ne_nil _ _⟩)
      have hcreates (store : String) :
          (Step.onRegistry (.getOrCreate named label)).creates store ↔ named = store := Iff.rfl
      obtain ⟨hopen, hcreated⟩ := isOpen.created (List.cons_ne_nil Change.created []) hcreates
      exact ⟨hopen.hold hnamed label, fun store => (named_hold _ _ _).trans (hcreated store)⟩
    | get named label =>
      rw [runOnRegistry]
      by_cases hnil : journal.history.changesOf named = []
      · rw [if_pos hnil]
        exact ⟨isOpen, fun store => (or_iff_left id).symm⟩
      · rw [if_neg hnil]
        exact ⟨isOpen.hold hnil label,
          fun store => (named_hold _ _ _).trans (or_iff_left id).symm⟩
    | isEmpty => exact ⟨isOpen, fun store => (or_iff_left id).symm⟩
    | setCacheSize named size =>
      cases size with
      | none =>
        refine ⟨isOpen.record _ _, fun store => (named_record _ _ _).trans ?_⟩
        simp [Session.Step.creates]
      | some size =>
        exact isOpen.created (List.cons_ne_nil _ _) fun _ =>
          and_iff_left (Option.some_ne_none size)
    | setAggregateMode named mode =>
      exact isOpen.created (List.cons_ne_nil _ _) fun _ => Iff.rfl
    | dimensions named => exact isOpen.created (List.cons_ne_nil _ _) fun _ => Iff.rfl
    | measures named => exact isOpen.created (List.cons_ne_nil _ _) fun _ => Iff.rfl
    | natives named => exact isOpen.created (List.cons_ne_nil _ _) fun _ => Iff.rfl
    | synthesize spec parallelism =>
      exact isOpen.created (List.cons_ne_nil _ _) fun _ => Iff.rfl
    | freeze => exact absurd rfl h
  | onHandle label step =>
    rw [after_onHandle]
    cases hstore : journal.stores.get? label with
    | none => exact ⟨isOpen, fun store => (or_iff_left id).symm⟩
    | some named =>
      refine ⟨isOpen.record _ _, fun store => (named_record _ _ _).trans ?_⟩
      -- a label is only for a store that was named before, so this names no new one
      constructor
      · rintro (hnamed | ⟨rfl, -⟩)
        · exact .inl hnamed
        · exact .inl (isOpen.known hstore)
      · rintro (hnamed | hcreates)
        · exact .inl hnamed
        · exact hcreates.elim
  | same label other =>
    rw [after_same]
    exact ⟨isOpen, fun store => (or_iff_left id).symm⟩
  | drop label =>
    refine ⟨⟨isOpen.frozen, fun {other store} h => ?_⟩, fun store => (or_iff_left id).symm⟩
    replace h : (journal.stores.erase label).get? other = some store := h
    rw [Dictionary.get?_erase] at h
    exact isOpen.known (Option.ite_none_left_eq_some.mp h).2

/-- A run names exactly the stores that its steps create. -/
theorem Open.runAll (isOpen : journal.Open) {steps : List Step}
    (h : Step.onRegistry .freeze ∉ steps) :
    (Session.runAll Journal.run steps journal).2.Open ∧
      ∀ store, (Session.runAll Journal.run steps journal).2.Named store ↔
        journal.Named store ∨ ∃ step ∈ steps, step.creates store := by
  rw [Session.runAll_snd]
  induction steps generalizing journal with
  | nil => exact ⟨isOpen, fun store => by simp⟩
  | cons step steps ih =>
    obtain ⟨hstep, hsteps⟩ := not_or.mp (List.mem_cons.not.mp h)
    obtain ⟨hopen, hnamed⟩ := isOpen.after (Ne.symm hstep)
    obtain ⟨hlast, hall⟩ := ih hopen hsteps
    refine ⟨hlast, fun store => (hall store).trans ?_⟩
    rw [hnamed, List.exists_mem_cons_iff, or_assoc]

end Journal

end OlapSynthesis
