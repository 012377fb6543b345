import OlapSynthesis.Generation
import OlapSynthesis.Proofs.Except
import OlapSynthesis.Proofs.Registry.History
import OlapSynthesis.Proofs.Synthesis.Builder

namespace OlapSynthesis

namespace Generation

def partOf (shared : Shared) (layout : SourceLayout) (spec : StoreSpec) : StorePart :=
  ⟨layout.binding spec.name shared.charset, spec.outcome shared.parallelism⟩

/-- What the search for the layout of a primary source comes to. -/
inductive Search
  | found (layout : SourceLayout) (spec : StoreSpec)
  | failed (cause : GenerationError)
  | crashed

namespace Search

def of (survey : Survey) (entry : String × SourceSettings) : Search :=
  match survey.primary entry.1 entry.2 with
  | .crashed => .crashed
  | .failed cause => .failed (.discovery entry.1 cause)
  | .found layout =>
    match StoreSpec.ofLayout entry.1 layout entry.2.policy with
    | .ok spec => .found layout spec
    | .error cause => .failed (.store cause)

def found? : Search → Option (SourceLayout × StoreSpec)
  | .found layout spec => some (layout, spec)
  | _ => none

def failure? (store : String) : Search → Option GenerationError
  | .found _ _ => none
  | .failed cause => some cause
  | .crashed => some (.brokenWorker store)

def isCrashed : Search → Bool
  | .crashed => true
  | _ => false

def work (shared : Shared) : Search → Work
  | .found layout spec => .done (partOf shared layout spec)
  | .failed cause => .failed cause
  | .crashed => .crashed

end Search

def foundIn (survey : Survey) (entries : List (String × SourceSettings)) :
    List (SourceLayout × StoreSpec) :=
  entries.filterMap fun entry => (Search.of survey entry).found?

def failure? (survey : Survey) (entry : String × SourceSettings) : Option GenerationError :=
  (Search.of survey entry).failure? entry.1

def crashes (survey : Survey) (entry : String × SourceSettings) : Bool :=
  (Search.of survey entry).isCrashed

def results (survey : Survey) (shared : Shared) (entries : List (String × SourceSettings)) :
    List (String × Work) :=
  entries.map fun entry => (entry.1, (Search.of survey entry).work shared)

variable {survey : Survey} {shared : Shared} {entry : String × SourceSettings}

theorem name_of_found {layout : SourceLayout} {spec : StoreSpec}
    (h : Search.of survey entry = .found layout spec) : spec.name = entry.1 := by
  unfold Search.of at h
  split at h
  · cases h
  · cases h
  · split at h
    · cases h
      apply StoreSpec.name_of_ofLayout
      assumption
    · cases h

theorem exists_found_of_failure? (h : failure? survey entry = none) :
    ∃ layout spec, Search.of survey entry = .found layout spec := by
  rw [failure?] at h
  cases hsearch : Search.of survey entry with
  | found layout spec => exact ⟨layout, spec, rfl⟩
  | failed cause => simp [hsearch, Search.failure?] at h
  | crashed => simp [hsearch, Search.failure?] at h

/-- The work on a source, and what it leaves in the registry. -/
theorem work_eq (survey : Survey) (shared : Shared) (store : String) (source : SourceSettings)
    (registry : Registry) : work survey shared store source registry =
      ((Search.of survey (store, source)).work shared,
        registry.registerAll ((Search.of survey (store, source)).found?.toList.map (·.2))) := by
  simp only [work, Search.of]
  cases survey.primary store source with
  | crashed => rfl
  | failed cause => rfl
  | found layout =>
    cases hspec : StoreSpec.ofLayout store layout source.policy with
    | error cause =>
      have hwork : synthesize shared store source layout registry = .error (.store cause) := by
        rw [synthesize, hspec]
        rfl
      simp only [hwork, hspec]
      rfl
    | ok spec =>
      have hwork : synthesize shared store source layout registry =
          .ok (partOf shared layout spec, spec.register registry) := by
        rw [synthesize, hspec, partOf, StoreSpec.name_of_ofLayout hspec]
        change (Except.mapError _ (spec.synthesize shared.parallelism registry) >>= _) = _
        rw [StoreSpec.synthesize_eq]
        rfl
      simp only [hwork, hspec]
      rfl

/-- The work on all sources is the work on each of them, and the registry gets the cubes of those
that have a spec. -/
theorem workAll_eq (survey : Survey) (shared : Shared) (entries : List (String × SourceSettings))
    (registry : Registry) : workAll survey shared entries registry =
      (results survey shared entries,
        registry.registerAll ((foundIn survey entries).map (·.2))) := by
  unfold results foundIn
  induction entries generalizing registry with
  | nil => rfl
  | cons entry entries ih =>
    obtain ⟨store, source⟩ := entry
    simp only [workAll, work_eq, ih, List.filterMap_cons, List.map_cons]
    cases Search.of survey (store, source) <;> rfl

/-- The first of some failures, or else a value. -/
def unlessFailed (failures : List GenerationError) (value : α) : Except GenerationError α :=
  match failures.head? with
  | some cause => .error cause
  | none => .ok value

theorem unlessFailed_bind (earlier later : List GenerationError) (a : α) (b : β)
    {f : α → Except GenerationError β} (h : f a = unlessFailed later b) :
    unlessFailed earlier a >>= f = unlessFailed (earlier ++ later) b := by
  cases earlier with
  | nil => exact h
  | cons cause earlier => rfl

theorem unlessFailed_eq_ok_iff {failures : List GenerationError} {a b : α} :
    unlessFailed failures a = .ok b ↔ failures = [] ∧ a = b := by
  cases failures <;> simp [unlessFailed]

/-- Whether the search for some source breaks down after another source has failed. -/
def crashesUnawaited (survey : Survey) : List (String × SourceSettings) → Bool
  | [] => false
  | entry :: entries =>
    (failure? survey entry).isSome && entries.any (crashes survey) ||
      crashesUnawaited survey entries

theorem any_crashes_of_crashesUnawaited {entries : List (String × SourceSettings)}
    (h : crashesUnawaited survey entries = true) : entries.any (crashes survey) = true := by
  induction entries with
  | nil => cases h
  | cons entry entries ih =>
    rw [List.any_cons, Bool.or_eq_true]
    apply Or.inr
    rw [crashesUnawaited, Bool.or_eq_true, Bool.and_eq_true] at h
    rcases h with ⟨-, hlater⟩ | hlater
    · exact hlater
    · exact ih hlater

/-- A failure is the answer unless work after it breaks down. -/
theorem failWith_eq (cause : GenerationError) (entries : List (String × SourceSettings)) :
    (failWith cause (results survey shared entries) : Except GenerationError α) =
      if entries.any (crashes survey) then .error .aborted else .error cause := by
  have hany : (results survey shared entries).any (·.2.isCrashed) =
      entries.any (crashes survey) := by
    rw [results, List.any_map]
    apply congrArg (entries.any ·)
    funext entry
    rw [Function.comp_apply, crashes]
    cases Search.of survey entry <;> rfl
  rw [failWith, hany]

/-- The first source that fails decides, unless the search for one after it breaks down. -/
theorem await_eq (survey : Survey) (shared : Shared) (entries : List (String × SourceSettings)) :
    await (results survey shared entries) =
      if crashesUnawaited survey entries then .error .aborted
      else unlessFailed (entries.filterMap (failure? survey))
        ((foundIn survey entries).map fun found => partOf shared found.1 found.2) := by
  induction entries with
  | nil => rfl
  | cons entry entries ih =>
    -- after a failure nothing is awaited any more, so what is left can only break down
    have hfailed {cause : GenerationError} (h : failure? survey entry = some cause) :
        (failWith cause (results survey shared entries) : Except GenerationError (List StorePart)) =
          if crashesUnawaited survey (entry :: entries) then .error .aborted
          else unlessFailed ((entry :: entries).filterMap (failure? survey))
            ((foundIn survey (entry :: entries)).map fun found => partOf shared found.1 found.2) := by
      have hcrashes : crashesUnawaited survey (entry :: entries) =
          entries.any (crashes survey) := by
        rw [crashesUnawaited, h, Option.isSome_some, Bool.true_and, Bool.or_eq_left_iff_imp]
        exact any_crashes_of_crashesUnawaited
      rw [failWith_eq, hcrashes, List.filterMap_cons, h]
      rfl
    cases hsearch : Search.of survey entry with
    | found layout spec =>
      have hfailure : failure? survey entry = none := by
        rw [failure?, hsearch]
        rfl
      have hawait : await (results survey shared (entry :: entries)) =
          (await (results survey shared entries)).map (partOf shared layout spec :: ·) := by
        rw [results, List.map_cons, hsearch]
        rfl
      rw [hawait, ih, crashesUnawaited, hfailure, foundIn, foundIn, List.filterMap_cons,
        List.filterMap_cons, hfailure, hsearch]
      simp only [Option.isSome_none, Bool.false_and, Bool.false_or, Search.found?]
      cases crashesUnawaited survey entries with
      | true => rfl
      | false => cases entries.filterMap (failure? survey) <;> rfl
    | failed cause =>
      have hfailure : failure? survey entry = some cause := by
        rw [failure?, hsearch]
        rfl
      rw [← hfailed hfailure, results, List.map_cons, hsearch]
      rfl
    | crashed =>
      have hfailure : failure? survey entry = some (.brokenWorker entry.1) := by
        rw [failure?, hsearch]
        rfl
      rw [← hfailed hfailure, results, List.map_cons, hsearch]
      rfl

end Generation

end OlapSynthesis
