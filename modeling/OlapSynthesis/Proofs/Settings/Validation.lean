import OlapSynthesis.Proofs.Dictionary
import OlapSynthesis.Proofs.Except
import OlapSynthesis.Settings

namespace OlapSynthesis

/-- Refuses for the first of some reasons. -/
def refuseFirst {ε : Type} (reasons : List ε) : Except ε Unit :=
  match reasons.head? with
  | some reason => .error reason
  | none => .ok ()

section

variable {ε α : Type} {reasons : List ε}

theorem refuseFirst_eq_ok_iff : refuseFirst reasons = .ok () ↔ reasons = [] := by
  cases reasons <;> simp [refuseFirst]

theorem refuseFirst_eq_error_iff {reason : ε} :
    refuseFirst reasons = .error reason ↔ reasons.head? = some reason := by
  cases reasons <;> simp [refuseFirst]

theorem refuseFirst_append (earlier later : List ε) :
    refuseFirst (earlier ++ later) = refuseFirst earlier >>= fun _ => refuseFirst later := by
  cases earlier <;> rfl

theorem forM_eq_refuseFirst {f : α → Except ε PUnit} {reasonsOf : α → List ε}
    (h : ∀ a, f a = refuseFirst (reasonsOf a)) (l : List α) :
    l.forM f = refuseFirst (l.flatMap reasonsOf) := by
  induction l with
  | nil => rfl
  | cons a l ih =>
    rw [List.flatMap_cons, refuseFirst_append, ← h, ← ih]
    rfl

end

/-- What is wrong with the source called `name`. -/
def SourceSettings.offences (source : SourceSettings) (name : String) : List ConfigurationError :=
  (if source.file = none ∧ source.directory = none then [.noLocation ("sources." ++ name)]
    else []) ++
    if source.cacheSize = some 0 then [.zeroCacheSize name] else []

def ReferenceSettings.offences (group : ReferenceSettings) (name : String) :
    List ConfigurationError :=
  if group.directory = none then [.noLocation ("ref_sources." ++ name)] else []

/-- All that is wrong with a configuration, in order. -/
def Configuration.offences (configuration : Configuration) : List ConfigurationError :=
  (if configuration.general.parallelism = some 0 then [.zeroParallelism] else []) ++
    configuration.sources.entries.flatMap (fun entry => entry.2.offences entry.1) ++
    configuration.references.entries.flatMap fun entry => entry.2.offences entry.1

theorem SourceSettings.offences_eq_nil_iff {source : SourceSettings} {name : String} :
    source.offences name = [] ↔
      (source.file ≠ none ∨ source.directory ≠ none) ∧ source.cacheSize ≠ some 0 := by
  simp only [offences, List.append_eq_nil_iff, ite_eq_right_iff, reduceCtorEq, imp_false, ne_eq,
    Decidable.not_and_iff_not_or_not]

theorem ReferenceSettings.offences_eq_nil_iff {group : ReferenceSettings} {name : String} :
    group.offences name = [] ↔ group.directory ≠ none := by
  simp [offences]

theorem SourceSettings.location_eq_error_iff {source : SourceSettings} {name : String}
    {cause : ConfigurationError} :
    source.location name = .error cause ↔
      (source.file = none ∧ source.directory = none) ∧ cause = .noLocation ("sources." ++ name) := by
  unfold location
  cases source.file with
  | some path => simp
  | none =>
    cases source.directory with
    | some path => simp
    | none => simp [eq_comm]

theorem ReferenceSettings.location_eq_error_iff {group : ReferenceSettings} {name : String}
    {cause : ConfigurationError} :
    group.location name = .error cause ↔
      group.directory = none ∧ cause = .noLocation ("ref_sources." ++ name) := by
  unfold location
  cases group.directory with
  | some path => simp
  | none => simp [eq_comm]

theorem SourceSettings.validate_eq (source : SourceSettings) (name : String) :
    source.validate name = refuseFirst (source.offences name) := by
  unfold validate offences
  cases hlocation : source.location name with
  | error cause =>
    obtain ⟨hmissing, rfl⟩ := location_eq_error_iff.mp hlocation
    rw [if_pos hmissing]
    rfl
  | ok location =>
    have hplaced : ¬(source.file = none ∧ source.directory = none) := fun hmissing => by
      cases hlocation.symm.trans (location_eq_error_iff.mpr ⟨hmissing, rfl⟩)
    rw [if_neg hplaced, ok_bind, List.nil_append]
    split <;> rfl

theorem ReferenceSettings.location_eq (group : ReferenceSettings) (name : String) :
    (do let _ ← group.location name) = refuseFirst (group.offences name) := by
  unfold offences
  cases hlocation : group.location name with
  | error cause =>
    obtain ⟨hmissing, rfl⟩ := location_eq_error_iff.mp hlocation
    rw [if_pos hmissing]
    rfl
  | ok location =>
    have hplaced : group.directory ≠ none := fun hmissing => by
      cases hlocation.symm.trans (location_eq_error_iff.mpr ⟨hmissing, rfl⟩)
    rw [if_neg hplaced]
    rfl

namespace Configuration

variable {configuration : Configuration}

/-- Validation tells the first thing that is wrong. -/
theorem validate_eq (configuration : Configuration) :
    configuration.validate = refuseFirst configuration.offences := by
  have hsources := forM_eq_refuseFirst
    (fun entry : String × SourceSettings => entry.2.validate_eq entry.1)
    configuration.sources.entries
  have hreferences := forM_eq_refuseFirst
    (fun entry : String × ReferenceSettings => entry.2.location_eq entry.1)
    configuration.references.entries
  rw [offences, refuseFirst_append, refuseFirst_append, ← hsources, ← hreferences, validate]
  split <;> rfl

/-- Which configurations are valid. -/
theorem offences_eq_nil_iff :
    configuration.offences = [] ↔
      configuration.general.parallelism ≠ some 0 ∧
      (∀ name source, configuration.sources.get? name = some source →
        (source.file ≠ none ∨ source.directory ≠ none) ∧ source.cacheSize ≠ some 0) ∧
      ∀ name group, configuration.references.get? name = some group → group.directory ≠ none := by
  have hparallelism : (if configuration.general.parallelism = some 0 then
      [ConfigurationError.zeroParallelism] else []) = [] ↔
        configuration.general.parallelism ≠ some 0 := by
    simp
  simp only [offences, List.append_eq_nil_iff, hparallelism, List.flatMap_eq_nil_iff, Prod.forall,
    ← Dictionary.get?_eq_some_iff, SourceSettings.offences_eq_nil_iff,
    ReferenceSettings.offences_eq_nil_iff, and_assoc]

end Configuration

end OlapSynthesis
