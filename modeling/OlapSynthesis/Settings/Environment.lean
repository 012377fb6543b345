import OlapSynthesis.Settings.Environment.Value

namespace OlapSynthesis

/-- The variables of a process, in its order. -/
structure Environment where
  definitions : List (String × String)
deriving DecidableEq, Repr

namespace Environment

def get? (environment : Environment) (name : String) : Option String :=
  environment.definitions.lookup name

/-- Gives a variable a value, unless it has one. -/
def define (environment : Environment) (name value : String) : Environment :=
  match environment.get? name with
  | some _ => environment
  | none => ⟨environment.definitions ++ [(name, value)]⟩

/-- What the names of all variables with settings begin with. -/
def mark : String :=
  "AUTOCUBE_"

/-- Two underscores as one full stop. -/
def parted : List Char → List Char
  | '_' :: '_' :: rest => '.' :: parted rest
  | c :: rest => c :: parted rest
  | [] => []

/-- The keys that the name of a variable leads through, if it has a setting. -/
def keys? (name : String) : Option (List String) :=
  let name := Text.trim name
  if Text.startsIgnoringCase mark name then
    let place := Text.lower (Text.trim (String.ofList (parted (name.toList.drop mark.length))))
    let keys := (Text.splitAt '.' place.toList).map String.ofList
    if keys.any String.isEmpty then none else some keys
  else none

/-- The settings in an environment, later variables over earlier ones; nothing where a value
breaks down. -/
def settings? (environment : Environment) : Option Setting :=
  environment.definitions.foldlM (fun low (name, value) =>
    match keys? name with
    | some keys => return low.overlay (.nested keys (← EnvironmentValue.setting? value))
    | none => some low) .emptyTable

end Environment

end OlapSynthesis
