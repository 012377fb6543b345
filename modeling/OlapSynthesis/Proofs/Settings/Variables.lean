import OlapSynthesis.Proofs.Settings.Extraction
import OlapSynthesis.Proofs.Settings.Reading
import OlapSynthesis.Settings.Dotenv

namespace OlapSynthesis

/-- Defines several variables, one after the other. -/
def Environment.defineAll (environment : Environment) (definitions : List (String × String)) :
    Environment :=
  definitions.foldl (fun environment definition => environment.define definition.1 definition.2)
    environment

namespace Environment

/-- Of some definitions those of variables that an environment does not have; of several for one
variable the first. -/
def missing (environment : Environment) : List (String × String) → List (String × String)
  | [] => []
  | (name, value) :: rest =>
    if (environment.get? name).isSome then environment.missing rest
    else (name, value) :: (environment.define name value).missing rest

theorem defineAll_eq (environment : Environment) (definitions : List (String × String)) :
    environment.defineAll definitions =
      ⟨environment.definitions ++ environment.missing definitions⟩ := by
  induction definitions generalizing environment with
  | nil => simp [defineAll, missing]
  | cons definition rest ih =>
    obtain ⟨name, value⟩ := definition
    have hstep : environment.defineAll ((name, value) :: rest) =
        (environment.define name value).defineAll rest := rfl
    rw [hstep, missing, ih]
    cases hget : environment.get? name with
    | some old => simp [define, hget]
    | none => simp [define, hget]

theorem get?_define (environment : Environment) (name value other : String) :
    (environment.define name value).get? other =
      (environment.get? other).or (if other = name then some value else none) := by
  unfold define
  cases hget : environment.get? name with
  | some old =>
    by_cases hname : other = name
    · rw [hname, hget]
      rfl
    · simp [hname]
  | none =>
    rw [get?, List.lookup_append, Dictionary.lookup_cons_eq_ite]
    rfl

theorem lookup_missing (environment : Environment) (definitions : List (String × String))
    (name : String) : (environment.missing definitions).lookup name =
      if (environment.get? name).isSome then none else definitions.lookup name := by
  induction definitions generalizing environment with
  | nil => simp [missing]
  | cons definition rest ih =>
    obtain ⟨first, value⟩ := definition
    rw [missing, Dictionary.lookup_cons_eq_ite]
    cases hget : environment.get? first with
    | some old =>
      rw [Option.isSome_some, if_pos rfl, ih]
      by_cases hname : name = first
      · simp [hname, hget]
      · rw [if_neg hname]
    | none =>
      rw [Option.isSome_none, if_neg Bool.false_ne_true, Dictionary.lookup_cons_eq_ite]
      by_cases hname : name = first
      · simp [hname, hget]
      · rw [if_neg hname, if_neg hname, ih, get?_define, if_neg hname, Option.or_none]

/-- The layer that a variable with a setting is. -/
def layer? (definition : String × String) : Option Setting := do
  let keys ← keys? definition.1
  return .nested keys (← EnvironmentValue.setting? definition.2)

theorem layer?_eq_some_iff {definition : String × String} {layer : Setting} :
    layer? definition = some layer ↔ ∃ keys setting, keys? definition.1 = some keys ∧
      EnvironmentValue.setting? definition.2 = some setting ∧ .nested keys setting = layer := by
  simp [layer?, Option.bind_eq_some_iff]

def layersOf (definitions : List (String × String)) : List Setting :=
  definitions.filterMap layer?

/-- The variables with settings have them in the expected shape. -/
def WellTyped (definitions : List (String × String)) : Prop :=
  ∀ definition ∈ definitions, (keys? definition.1).isSome →
    ∃ layer, layer? definition = some layer ∧ Shape.configuration.Fits layer

theorem of_mem_layersOf {definitions : List (String × String)} (typed : WellTyped definitions)
    {layer : Setting} (h : layer ∈ layersOf definitions) :
    Shape.configuration.Fits layer ∧ layer.Ordered := by
  obtain ⟨definition, hmem, hlayer⟩ := List.mem_filterMap.mp h
  obtain ⟨keys, setting, hkeys, hsetting, hnested⟩ := layer?_eq_some_iff.mp hlayer
  obtain ⟨_, hsame, hfits⟩ := typed definition hmem (Option.isSome_of_eq_some hkeys)
  cases hsame.symm.trans hlayer
  exact ⟨hfits, hnested ▸ (EnvironmentValue.ordered_of_setting? hsetting).nested keys⟩

/-- Each variable is put over those before it. -/
theorem settings?_eq {environment : Environment} (typed : WellTyped environment.definitions) :
    environment.settings? =
      some ((layersOf environment.definitions).foldl Setting.overlay .emptyTable) := by
  obtain ⟨definitions⟩ := environment
  unfold settings?
  -- The variables that are left go over whatever those before them came to.
  generalize Setting.emptyTable = low
  induction definitions generalizing low with
  | nil => rfl
  | cons definition rest ih =>
    obtain ⟨hfirst, hrest⟩ := List.forall_mem_cons.mp typed
    rw [List.foldlM_cons, layersOf, List.filterMap_cons]
    dsimp only
    cases hkeys : keys? definition.1 with
    | none =>
      have hnone : layer? definition = none := by simp [layer?, hkeys]
      rw [hnone]
      exact ih hrest low
    | some keys =>
      obtain ⟨layer, hlayer, -⟩ := hfirst (Option.isSome_of_eq_some hkeys)
      obtain ⟨_, setting, hsame, hsetting, rfl⟩ := layer?_eq_some_iff.mp hlayer
      cases hkeys.symm.trans hsame
      simp only [hsetting, hlayer]
      exact ih hrest _

end Environment

namespace Dotenv

/-- What lines define one after the other, each in the environment that those before it leave. -/
def definitions (environment : Environment) : List (Option (List Char)) → List (String × String)
  | [] => []
  | none :: _ => []
  | some line :: rest =>
    match definition? environment line with
    | none => []
    | some none => definitions environment rest
    | some (some (name, value)) =>
      (name, value) :: definitions (environment.define name value) rest

theorem carryOut_of_complete {environment next : Environment} {lines : List (Option (List Char))}
    (h : carryOut environment lines = (next, .complete)) :
    next = environment.defineAll (definitions environment lines) := by
  induction lines generalizing environment with
  | nil =>
    cases h
    rfl
  | cons line rest ih =>
    cases line with
    | none => cases h
    | some line =>
      cases hdefinition : definition? environment line with
      | none =>
        simp only [carryOut, hdefinition] at h
        cases h
      | some definition =>
        cases definition with
        | none =>
          simp only [carryOut, hdefinition] at h
          simp only [definitions, hdefinition]
          exact ih h
        | some definition =>
          obtain ⟨name, value⟩ := definition
          simp only [carryOut, hdefinition] at h
          simp only [definitions, hdefinition]
          split at h
          · cases h
          · exact ih h

def definitionsOf (environment : Environment) (text : String) : List (String × String) :=
  definitions environment (joined [] .complete (linesOf (match text.toList with
    | '\uFEFF' :: rest => rest
    | s => s)))

theorem load_of_complete {environment next : Environment} {text : String}
    (h : load environment text = (next, .complete)) :
    next.definitions = environment.definitions ++
      environment.missing (definitionsOf environment text) := by
  rw [carryOut_of_complete h, Environment.defineAll_eq]
  rfl

end Dotenv

end OlapSynthesis
