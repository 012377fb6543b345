import OlapSynthesis.CommandLine.Help
import OlapSynthesis.Text

namespace OlapSynthesis.CommandLine

inductive Stop
  /-- The words are none that could be carried out. -/
  | misuse
  | help (topic : Topic) (detail : Detail)
  | version
deriving DecidableEq, Repr

/-- What an option does to what has been given so far. -/
inductive Effect (σ : Type)
  | switch (apply : σ → Except Stop σ)
  | setting (apply : String → σ → Except Stop σ)

structure OptionRule (σ : Type) where
  long : Option String
  letter : Option Char
  effect : Effect σ

/-- The words that may stand on one level of the command line: options by their long names, clusters
of options by their letters, names of commands, and operands. The value of an option is attached to
it or is the next word, unless that looks like an option. -/
structure Grammar (σ : Type) where
  options : List (OptionRule σ)
  /-- The words that hand over to another level. -/
  commands : List String
  operand : String → σ → Except Stop σ

inductive Reading (σ : Type)
  | finished (given : σ)
  /-- A command takes over, with the words after its name. -/
  | handedOver (given : Except Stop σ) (command : String) (words : List String)

/-- What is wanted after a word: nothing, or the value of an option. -/
abbrev Wanted (σ : Type) := Option (String → σ → Except Stop σ)

/-- Gives something its value, which it must not have yet. -/
def once (old new : Option α) : Except Stop (Option α) :=
  match old, new with
  | none, some value => .ok (some value)
  | _, _ => .error .misuse

/-- Turns a switch on, which must not be on yet. -/
def raised (isOn : Bool) : Except Stop Bool :=
  if isOn then .error .misuse else .ok true

/-- A word that cannot be a value: more than a dash that begins with one. -/
def looksLikeOption (word : String) : Bool :=
  match word.toList with
  | '-' :: _ :: _ => true
  | _ => false

namespace Effect

def onPart (get : τ → σ) (put : τ → σ → τ) : Effect σ → Effect τ
  | .switch apply => .switch fun t => (apply (get t)).map (put t)
  | .setting apply => .setting fun value t => (apply value (get t)).map (put t)

end Effect

namespace OptionRule

def onPart (get : τ → σ) (put : τ → σ → τ) (rule : OptionRule σ) : OptionRule τ :=
  ⟨rule.long, rule.letter, rule.effect.onPart get put⟩

end OptionRule

namespace Grammar

def long? (grammar : Grammar σ) (name : String) : Option (Effect σ) :=
  (grammar.options.find? (·.long == some name)).map (·.effect)

def letter? (grammar : Grammar σ) (letter : Char) : Option (Effect σ) :=
  (grammar.options.find? (·.letter == some letter)).map (·.effect)

def readLong (grammar : Grammar σ) (text : String) (given : σ) : Except Stop (σ × Wanted σ) := do
  let (name, value) := match Text.cut? '=' text with
    | some (name, value) => (name, some value)
    | none => (text, none)
  match grammar.long? name, value with
  | some (.switch apply), none => return (← apply given, none)
  | some (.setting apply), some value => return (← apply value given, none)
  | some (.setting apply), none => return (given, some apply)
  | _, _ => .error .misuse

/-- Reads the letters of a cluster. What follows the letter of an option with a value is its
value. -/
def readCluster (grammar : Grammar σ) : List Char → σ → Except Stop (σ × Wanted σ)
  | [], given => .ok (given, none)
  | letter :: rest, given =>
    match grammar.letter? letter with
    | none => .error .misuse
    | some (.switch apply) => do readCluster grammar rest (← apply given)
    | some (.setting apply) =>
      match rest with
      | [] => .ok (given, some apply)
      | '=' :: value => do return (← apply (String.ofList value) given, none)
      | value => do return (← apply (String.ofList value) given, none)

/-- Reads a word that is no command and does not follow the word `--`. -/
def readWord (grammar : Grammar σ) (word : String) (given : σ) : Except Stop (σ × Wanted σ) :=
  match word.toList with
  | '-' :: '-' :: text => grammar.readLong (String.ofList text) given
  | '-' :: letter :: letters => grammar.readCluster (letter :: letters) given
  | _ => do return (← grammar.operand word given, none)

/-- Reads all words of a level, or those before a command. The first word that stops the reading
decides; only a value right before the name of a command is judged after the words of the command.
-/
def read (grammar : Grammar σ) : List String → σ → Except Stop (Reading σ)
  | [], given => .ok (.finished given)
  | word :: rest, given =>
    if word = "--" then do
      return .finished (← rest.foldlM (fun given word => grammar.operand word given) given)
    else if grammar.commands.contains word then .ok (.handedOver (.ok given) word rest)
    else
      match grammar.readWord word given with
      | .error stop => .error stop
      | .ok (given, none) => read grammar rest given
      | .ok (given, some apply) =>
        match rest with
        | [] => .error .misuse
        | value :: rest =>
          if looksLikeOption value then .error .misuse
          else
            match apply value given, rest with
            | .ok given, rest => read grammar rest given
            | .error stop, next :: rest =>
              if grammar.commands.contains next then .ok (.handedOver (.error stop) next rest)
              else .error stop
            | .error stop, [] => .error stop

end Grammar

end OlapSynthesis.CommandLine
