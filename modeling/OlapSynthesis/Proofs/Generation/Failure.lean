import OlapSynthesis.Proofs.Generation.References

namespace OlapSynthesis

open Generation

/-- All that is wrong with the sources and the reference groups, in order. -/
def Configuration.failures (survey : Survey) (configuration : Configuration) :
    List GenerationError :=
  configuration.sources.entries.filterMap (failure? survey) ++
    referenceFailures survey configuration.sources.keys configuration.references.entries

namespace Generation

variable {survey : Survey}

/-- If no source has failed, all of them are found under their own names. -/
theorem names_foundIn {entries : List (String × SourceSettings)}
    (h : entries.filterMap (failure? survey) = []) :
    (foundIn survey entries).map (·.2.name) = entries.map (·.1) := by
  unfold foundIn
  induction entries with
  | nil => rfl
  | cons entry entries ih =>
    rw [List.filterMap_cons, failure?] at h
    rw [List.filterMap_cons]
    cases hsearch : Search.of survey entry with
    | found layout spec =>
      rw [hsearch] at h
      exact congrArg₂ List.cons (name_of_found hsearch) (ih h)
    | failed cause => simp [hsearch, Search.failure?] at h
    | crashed => simp [hsearch, Search.failure?] at h

/-- What the stores of a configuration share on a machine with some processors. -/
def sharedOf (processors : UInt64) (configuration : Configuration) : Shared :=
  ⟨(Charset.resolve configuration.general.charset).1,
    configuration.general.effectiveParallelism processors⟩

/-- What a configuration comes to if nothing is wrong. -/
def modelOf (customizations : List CurrencyCustomization) (survey : Survey) (processors : UInt64)
    (configuration : Configuration) : Model :=
  let shared := sharedOf processors configuration
  let found := foundIn survey configuration.sources.entries
  let registry := (found.map (·.2.name)).foldl (customize customizations)
    (Registry.empty.registerAll (found.map (·.2)))
  assemble (Charset.resolve configuration.general.charset).2.toList
    (found.map fun found => partOf shared found.1 found.2)
    (referenceParts survey shared configuration.references.entries)
    (registry.freeze fun _ => false).1

end Generation

/-- A run answers with the first thing that is wrong, or with the model if nothing is; but it is
brought down if the search for a source breaks down after another source has failed. -/
theorem Configuration.generateWith_eq (customizations : List CurrencyCustomization)
    (survey : Survey) (processors : UInt64) (configuration : Configuration) :
    configuration.generateWith customizations survey processors =
      if crashesUnawaited survey configuration.sources.entries then .error .aborted
      else unlessFailed (configuration.failures survey)
        (modelOf customizations survey processors configuration) := by
  have hgenerate : configuration.generateWith customizations survey processors =
      await (workAll survey (sharedOf processors configuration) configuration.sources.entries
          .empty).1 >>= fun primaries =>
        configuration.references.entries.foldlM
            (layOutGroup survey (sharedOf processors configuration))
            ⟨primaries.map (·.binding.store), []⟩ >>= fun stores =>
          .ok (assemble (Charset.resolve configuration.general.charset).2.toList primaries
            stores.references
            (((primaries.map (·.binding.store)).foldl (customize customizations)
              (workAll survey (sharedOf processors configuration) configuration.sources.entries
                .empty).2).freeze fun _ => false).1) := by
    unfold generateWith sharedOf
    cases Charset.resolve configuration.general.charset
    rfl
  rw [hgenerate, workAll_eq, await_eq]
  cases crashesUnawaited survey configuration.sources.entries with
  | true => rfl
  | false =>
    rw [if_neg Bool.false_ne_true, if_neg Bool.false_ne_true, failures]
    cases hfailures : configuration.sources.entries.filterMap (failure? survey) with
    | cons cause causes => rfl
    | nil =>
      have hstores : ((foundIn survey configuration.sources.entries).map fun found =>
            partOf (sharedOf processors configuration) found.1 found.2).map (·.binding.store) =
          (foundIn survey configuration.sources.entries).map (·.2.name) :=
        List.map_map
      have hkeys : (foundIn survey configuration.sources.entries).map (·.2.name) =
          configuration.sources.keys :=
        names_foundIn hfailures
      apply unlessFailed_bind
      rw [layOutGroups_eq, hstores, modelOf, hkeys]
      cases referenceFailures survey configuration.sources.keys configuration.references.entries <;>
        rfl

/-- A run answers with the first thing that is wrong: with what is wrong with the first source that
fails, and only if no source fails with what is wrong with the reference groups. It has a model exactly
if nothing is wrong. It is brought down if the search for a source breaks down after another source
has failed, and only then or if the search for a reference group does. -/
theorem Configuration.generate_decided (survey : Survey) (processors : UInt64)
    (configuration : Configuration) :
    (crashesUnawaited survey configuration.sources.entries = true →
      configuration.generate survey processors = .error .aborted) ∧
    (crashesUnawaited survey configuration.sources.entries = false →
      (∀ cause, (configuration.failures survey).head? = some cause →
        configuration.generate survey processors = .error cause) ∧
      ((∃ model, configuration.generate survey processors = .ok model) ↔
        configuration.failures survey = [])) := by
  rw [generate, generateWith_eq]
  constructor
  · intro h
    rw [if_pos h]
  · intro h
    rw [if_neg (Bool.eq_false_iff.mp h)]
    constructor
    · intro cause hcause
      rw [unlessFailed, hcause]
    · constructor
      · rintro ⟨model, hmodel⟩
        exact (unlessFailed_eq_ok_iff.mp hmodel).1
      · intro hnil
        exact ⟨_, unlessFailed_eq_ok_iff.mpr ⟨hnil, rfl⟩⟩

/-- One source has no columns, and the search for the one after it breaks down: the first thing that is
wrong is that the one has no columns, but the run does not answer with it. -/
theorem Configuration.first_failure_not_answered :
    let survey : Survey :=
      ⟨fun store _ => if store = "b" then .crashed else .found ⟨store, ',', [], none⟩,
        fun _ _ => .found []⟩
    let configuration : Configuration :=
      { Configuration.default with sources := .ofList [("a", .default), ("b", .default)] }
    (configuration.failures survey).head? = some (.store (.noColumns "a")) ∧
      configuration.generate survey 8 = .error .aborted ∧
      configuration.generate survey 8 ≠ .error (.store (.noColumns "a")) := by
  intro survey configuration
  have hcrashes : crashesUnawaited survey configuration.sources.entries = true := by decide
  have haborted : configuration.generate survey 8 = .error .aborted := by
    rw [generate, generateWith_eq, if_pos hcrashes]
  refine ⟨by decide, haborted, ?_⟩
  rw [haborted]
  simp

end OlapSynthesis
