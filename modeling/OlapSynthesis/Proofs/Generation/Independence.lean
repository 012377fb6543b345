import OlapSynthesis.Proofs.Generation.Storewise
import OlapSynthesis.Proofs.Synthesis.PartitionKey

namespace OlapSynthesis

def Warning.isAbout (store : String) : Warning → Bool
  | .unknownPartitionField named _ => named = store
  | .unknownCharset _ _ => false

/-- A part whose layout and warnings are those of the store it is for. -/
structure StorePart.Labelled (part : StorePart) : Prop where
  layout : part.outcome.layout.name = part.binding.store
  warnings : ∀ warning ∈ part.outcome.warnings, ∀ store,
    warning.isAbout store = decide (part.binding.store = store)

namespace StorePart

variable {parts : List StorePart} {store : String}

end StorePart

theorem StoreSpec.warning_of_choosePartitioning {spec : StoreSpec} {parallelism : UInt64}
    {warning : Warning} (h : (spec.choosePartitioning parallelism).warning = some warning) :
    ∃ field, warning = .unknownPartitionField spec.name field := by
  have hchooses := spec.choosePartitioning_chooses parallelism
  generalize spec.choosePartitioning parallelism = choice at h hchooses
  cases hchooses with
  | tooFew | found | unasked => cases h
  | missing => exact ⟨_, (Option.some.inj h).symm⟩

namespace Generation

variable {survey : Survey} {shared : Shared}

theorem labelled_partOf (shared : Shared) (layout : SourceLayout) (spec : StoreSpec) :
    (partOf shared layout spec).Labelled where
  layout := rfl
  warnings warning hwarning store := by
    have hchosen := Option.mem_toList.mp hwarning
    obtain ⟨field, rfl⟩ := StoreSpec.warning_of_choosePartitioning hchosen
    rfl

theorem exists_of_referencePart? {policy : StorePolicy} {layout : SourceLayout} {part : StorePart}
    (h : referencePart? shared policy layout = some part) :
    part.binding.store = layout.sourceName ∧ part.Labelled := by
  rw [referencePart?] at h
  cases hspec : StoreSpec.ofLayout layout.sourceName layout policy with
  | error cause => simp [hspec, Except.toOption] at h
  | ok spec =>
    simp only [hspec, Except.toOption, Option.map_some, Option.some.injEq] at h
    rw [← h]
    exact ⟨StoreSpec.name_of_ofLayout hspec, labelled_partOf _ _ _⟩

theorem labelled_referenceParts {groups : List (String × ReferenceSettings)} :
    ∀ part ∈ referenceParts survey shared groups, part.Labelled := by
  intro part hpart
  obtain ⟨group, -, hgroup⟩ := List.mem_flatMap.mp hpart
  obtain ⟨layout, -, hlayout⟩ := List.mem_filterMap.mp hgroup
  exact (exists_of_referencePart? hlayout).2

variable (shared) in
theorem stores_of_layoutsFailures {group : String} {policy : StorePolicy} {taken : List String}
    {layouts : List SourceLayout} (h : layoutsFailures group policy taken layouts = []) :
    (layouts.filterMap (referencePart? shared policy)).map (·.binding.store) =
        layouts.map (·.sourceName) ∧
      (taken.Nodup → ((layouts.map (·.sourceName)).reverse ++ taken).Nodup) := by
  constructor
  · have hstores := congrArg (List.map (·.store)) (bindings_of_layoutsFailures shared h)
    rwa [List.map_map, List.map_map] at hstores
  · intro htaken
    induction layouts generalizing taken with
    | nil => exact htaken
    | cons layout layouts ih =>
      rw [layoutsFailures, List.append_eq_nil_iff] at h
      obtain ⟨hlayout, hlayouts⟩ := h
      rw [List.map_cons, List.reverse_cons, List.append_assoc]
      exact ih hlayouts (List.nodup_cons.mpr ⟨(of_layoutFailures_eq_nil hlayout).1, htaken⟩)

variable (shared) in
theorem stores_of_referenceFailures {taken : List String}
    {groups : List (String × ReferenceSettings)} (h : referenceFailures survey taken groups = []) :
    (referenceParts survey shared groups).map (·.binding.store) =
        (groups.flatMap (layoutsOf survey)).map (·.sourceName) ∧
      (taken.Nodup →
        (((groups.flatMap (layoutsOf survey)).map (·.sourceName)).reverse ++ taken).Nodup) := by
  induction groups generalizing taken with
  | nil => exact ⟨rfl, id⟩
  | cons group groups ih =>
    obtain ⟨-, hgroup, hgroups⟩ := of_referenceFailures_cons_eq_nil h
    obtain ⟨hstores, hdistinct⟩ := stores_of_layoutsFailures shared hgroup
    obtain ⟨hlater, hlaterDistinct⟩ := ih hgroups
    constructor
    · rw [referenceParts, List.flatMap_cons, List.map_append, hstores, List.flatMap_cons,
        List.map_append, ← hlater]
      rfl
    · intro htaken
      rw [List.flatMap_cons, List.map_append, List.reverse_append, List.append_assoc]
      exact hlaterDistinct (hdistinct htaken)

end Generation

open Generation

variable {survey : Survey} {processors : UInt64} {configuration : Configuration} {model : Model}

end OlapSynthesis
