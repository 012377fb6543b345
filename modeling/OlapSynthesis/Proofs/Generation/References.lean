import OlapSynthesis.Proofs.Generation.Work

namespace OlapSynthesis

theorem Finding.of_eq_found_iff {α : Type} {x : Except DiscoveryError α} {a : α} :
    Finding.of x = .found a ↔ x = .ok a := by
  unfold Finding.of
  split <;> simp

namespace Generation

/-- What a reference file contributes, if its layout can be a store. -/
def referencePart? (shared : Shared) (policy : StorePolicy) (layout : SourceLayout) :
    Option StorePart :=
  (StoreSpec.ofLayout layout.sourceName layout policy).toOption.map (partOf shared layout)

/-- What is wrong with a reference file when some stores are there already. -/
def layoutFailures (group : String) (policy : StorePolicy) (taken : List String)
    (layout : SourceLayout) : List GenerationError :=
  (if taken.contains layout.sourceName then [.duplicateStore layout.sourceName group] else []) ++
    match StoreSpec.ofLayout layout.sourceName layout policy with
    | .ok _ => []
    | .error cause => [.store cause]

/-- What is wrong with the files of a reference group, each taking its name from those after it. -/
def layoutsFailures (group : String) (policy : StorePolicy) :
    List String → List SourceLayout → List GenerationError
  | _, [] => []
  | taken, layout :: layouts =>
    layoutFailures group policy taken layout ++
      layoutsFailures group policy (layout.sourceName :: taken) layouts

def layoutsOf (survey : Survey) (group : String × ReferenceSettings) : List SourceLayout :=
  match survey.reference group.1 group.2 with
  | .found layouts => layouts
  | _ => []

def referenceFailures (survey : Survey) :
    List String → List (String × ReferenceSettings) → List GenerationError
  | _, [] => []
  | taken, group :: groups =>
    (match survey.reference group.1 group.2 with
      | .crashed => [.aborted]
      | .failed cause => [.discovery group.1 cause]
      | .found layouts => layoutsFailures group.1 group.2.policy taken layouts) ++
    referenceFailures survey (((layoutsOf survey group).map (·.sourceName)).reverse ++ taken) groups

def referenceParts (survey : Survey) (shared : Shared)
    (groups : List (String × ReferenceSettings)) : List StorePart :=
  groups.flatMap fun group =>
    (layoutsOf survey group).filterMap (referencePart? shared group.2.policy)

variable {survey : Survey} {shared : Shared}

theorem referencePart?_of_ofLayout {policy : StorePolicy} {layout : SourceLayout} {spec : StoreSpec}
    (hspec : StoreSpec.ofLayout layout.sourceName layout policy = .ok spec) :
    referencePart? shared policy layout = some (partOf shared layout spec) := by
  rw [referencePart?, hspec]
  rfl

theorem layOut_eq (group : String) (policy : StorePolicy) (stores : Stores)
    (layout : SourceLayout) : layOut shared group policy stores layout =
      unlessFailed (layoutFailures group policy stores.names layout)
        ⟨layout.sourceName :: stores.names,
          stores.references ++ (referencePart? shared policy layout).toList⟩ := by
  rw [layOut, layoutFailures, referencePart?]
  cases stores.names.contains layout.sourceName with
  | true => rfl
  | false =>
    cases hspec : StoreSpec.ofLayout layout.sourceName layout policy with
    | error cause => rfl
    | ok spec =>
      change (Except.mapError _ (spec.describe shared.parallelism) >>= _) = _
      have hpart : partOf shared layout spec = ⟨layout.binding layout.sourceName shared.charset,
          spec.outcome shared.parallelism⟩ := by
        rw [partOf, StoreSpec.name_of_ofLayout hspec]
      rw [StoreSpec.describe_eq, Except.toOption, Option.map_some, hpart]
      rfl

theorem layOutAll_eq (group : String) (policy : StorePolicy) (stores : Stores)
    (layouts : List SourceLayout) : layouts.foldlM (layOut shared group policy) stores =
      unlessFailed (layoutsFailures group policy stores.names layouts)
        ⟨(layouts.map (·.sourceName)).reverse ++ stores.names,
          stores.references ++ layouts.filterMap (referencePart? shared policy)⟩ := by
  induction layouts generalizing stores with
  | nil =>
    rw [List.filterMap_nil, List.append_nil]
    rfl
  | cons layout layouts ih =>
    rw [List.foldlM_cons, layOut_eq]
    apply unlessFailed_bind
    rw [ih, List.filterMap_cons]
    cases referencePart? shared policy layout <;> simp

theorem layOutGroup_eq (stores : Stores) (group : String × ReferenceSettings) :
    layOutGroup survey shared stores group = unlessFailed
      (match survey.reference group.1 group.2 with
        | .crashed => [.aborted]
        | .failed cause => [.discovery group.1 cause]
        | .found layouts => layoutsFailures group.1 group.2.policy stores.names layouts)
      ⟨((layoutsOf survey group).map (·.sourceName)).reverse ++ stores.names, stores.references ++
        (layoutsOf survey group).filterMap (referencePart? shared group.2.policy)⟩ := by
  rw [layOutGroup, layoutsOf]
  cases survey.reference group.1 group.2 with
  | crashed => rfl
  | failed cause => rfl
  | found layouts => exact layOutAll_eq _ _ _ _

/-- The first thing that is wrong with the reference groups is the answer; if nothing is, they
contribute all their stores. -/
theorem layOutGroups_eq (stores : Stores) (groups : List (String × ReferenceSettings)) :
    groups.foldlM (layOutGroup survey shared) stores =
      unlessFailed (referenceFailures survey stores.names groups)
        ⟨((groups.flatMap (layoutsOf survey)).map (·.sourceName)).reverse ++ stores.names,
          stores.references ++ referenceParts survey shared groups⟩ := by
  induction groups generalizing stores with
  | nil =>
    have hparts : stores.references ++ referenceParts survey shared [] = stores.references :=
      List.append_nil _
    rw [hparts]
    rfl
  | cons group groups ih =>
    rw [List.foldlM_cons, layOutGroup_eq, referenceFailures]
    apply unlessFailed_bind
    rw [ih, referenceParts, referenceParts, List.flatMap_cons, List.flatMap_cons, List.map_append,
      List.reverse_append, List.append_assoc, List.append_assoc]

theorem of_layoutFailures_eq_nil {group : String} {policy : StorePolicy} {taken : List String}
    {layout : SourceLayout} (h : layoutFailures group policy taken layout = []) :
    layout.sourceName ∉ taken ∧
      ∃ spec, StoreSpec.ofLayout layout.sourceName layout policy = .ok spec := by
  rw [layoutFailures, List.append_eq_nil_iff] at h
  obtain ⟨hname, hspec⟩ := h
  constructor
  · intro hmem
    rw [if_pos (List.contains_iff_mem.mpr hmem)] at hname
    cases hname
  · cases hlayout : StoreSpec.ofLayout layout.sourceName layout policy with
    | error cause => simp [hlayout] at hspec
    | ok spec => exact ⟨spec, rfl⟩

theorem of_referenceFailures_cons_eq_nil {taken : List String}
    {group : String × ReferenceSettings} {groups : List (String × ReferenceSettings)}
    (h : referenceFailures survey taken (group :: groups) = []) :
    survey.reference group.1 group.2 = .found (layoutsOf survey group) ∧
      layoutsFailures group.1 group.2.policy taken (layoutsOf survey group) = [] ∧
      referenceFailures survey (((layoutsOf survey group).map (·.sourceName)).reverse ++ taken)
        groups = [] := by
  rw [referenceFailures, List.append_eq_nil_iff] at h
  obtain ⟨hgroup, hgroups⟩ := h
  cases hfound : survey.reference group.1 group.2 with
  | crashed => simp [hfound] at hgroup
  | failed cause => simp [hfound] at hgroup
  | found layouts =>
    have hlayouts : layoutsOf survey group = layouts := by
      rw [layoutsOf, hfound]
    simp only [hfound] at hgroup
    exact ⟨hlayouts ▸ rfl, hlayouts ▸ hgroup, hgroups⟩

variable (shared) in
/-- If nothing is wrong with the files of a group, their stores come in the order of the files. -/
theorem bindings_of_layoutsFailures {group : String} {policy : StorePolicy} {taken : List String}
    {layouts : List SourceLayout} (h : layoutsFailures group policy taken layouts = []) :
    (layouts.filterMap (referencePart? shared policy)).map (·.binding) =
      layouts.map fun layout => layout.binding layout.sourceName shared.charset := by
  induction layouts generalizing taken with
  | nil => rfl
  | cons layout layouts ih =>
    rw [layoutsFailures, List.append_eq_nil_iff] at h
    obtain ⟨hlayout, hlayouts⟩ := h
    obtain ⟨-, spec, hspec⟩ := of_layoutFailures_eq_nil hlayout
    rw [List.filterMap_cons, referencePart?_of_ofLayout hspec, List.map_cons, List.map_cons,
      ih hlayouts, partOf, StoreSpec.name_of_ofLayout hspec]

end Generation

end OlapSynthesis
