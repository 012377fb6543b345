import OlapSynthesis.CommandLine.Grammar
import OlapSynthesis.Inspection

namespace OlapSynthesis.CommandLine

inductive OutputForm
  /-- An item a line. -/
  | indented
  /-- Everything on one line. -/
  | compact
deriving DecidableEq, Repr

def OutputForm.ofName? (name : String) : Option OutputForm :=
  if name = "json" then some .indented
  else if name = "raw" then some .compact
  else none

inductive Command
  /-- Makes the model, and writes it to a file if one is named. -/
  | generate (output : Option String)
  | inspect (inspection : Inspection)
  | listSchemas
  | showSchema (name : String)
deriving DecidableEq, Repr

structure Invocation where
  form : OutputForm
  /-- The file with settings that is named explicitly. -/
  settingsFile : Option String
  command : Command
deriving DecidableEq, Repr

/-- The whole number that digits write; a plus sign may stand before them. -/
def natural? (text : String) : Option Nat :=
  let digits := match text.toList with
    | '+' :: digits => digits
    | digits => digits
  if digits.isEmpty || !digits.all Char.isDigit then none
  else some (digits.foldl (fun n d => n * 10 + (d.toNat - 0x30)) 0)

def cacheSize? (text : String) : Option UInt32 :=
  ((natural? text).filter fun n => 1 ≤ n && n < UInt32.size).map UInt32.ofNat

def parallelism? (text : String) : Option UInt64 :=
  ((natural? text).filter (· < UInt64.size)).map UInt64.ofNat

/-- The path of a file, which is never empty. -/
def path? (text : String) : Option String :=
  some text |>.filter (· ≠ "")

structure CommonOptions where
  form : Option OutputForm
  quiet : Bool
  verbose : Bool
  settingsFile : Option String

namespace CommonOptions

def none : CommonOptions :=
  ⟨.none, false, false, .none⟩

/-- The rules of the options that stand where help would be about a topic. -/
def rules (topic : Topic) : List (OptionRule CommonOptions) := [
  ⟨some "format", some 'f', .setting fun text given => do
    return { given with form := ← once given.form (OutputForm.ofName? text) }⟩,
  ⟨some "quiet", some 'q', .switch fun given => do
    return { given with quiet := ← raised given.quiet }⟩,
  ⟨some "verbose", some 'v', .switch fun given => do
    return { given with verbose := ← raised given.verbose }⟩,
  ⟨some "config", .none, .setting fun text given => do
    return { given with settingsFile := ← once given.settingsFile (path? text) }⟩,
  ⟨some "help", .none, .switch fun _ => .error (.help topic .full)⟩,
  ⟨.none, some 'h', .switch fun _ => .error (.help topic .brief)⟩]

end CommonOptions

structure GenerateOptions where
  output : Option String

namespace GenerateOptions

def rules : List (OptionRule GenerateOptions) := [
  ⟨some "output", some 'o', .setting fun text given => do
    return { given with output := ← once given.output (path? text) }⟩]

def command (given : GenerateOptions) : Except Stop Command :=
  .ok (.generate given.output)

end GenerateOptions

structure InspectOptions where
  store : Option String
  columns : List (String × String)
  partitionField : Option String
  cacheSize : Option UInt32
  aggregateMode : Option AggregateMode
  parallelism : Option UInt64

namespace InspectOptions

def rules : List (OptionRule InspectOptions) := [
  ⟨some "store", some 's', .setting fun text given => do
    return { given with store := ← once given.store (some text) }⟩,
  ⟨some "column", some 'c', .setting fun text given => do
    let column ← once none (Inspection.column? text)
    return { given with columns := given.columns ++ column.toList }⟩,
  ⟨some "partition-field", none, .setting fun text given => do
    return { given with partitionField := ← once given.partitionField (some text) }⟩,
  ⟨some "cache-size", none, .setting fun text given => do
    return { given with cacheSize := ← once given.cacheSize (cacheSize? text) }⟩,
  ⟨some "aggregate-mode", none, .setting fun text given => do
    let mode := (AggregateMode.parse text).toOption
    return { given with aggregateMode := ← once given.aggregateMode mode }⟩,
  ⟨some "parallelism", none, .setting fun text given => do
    return { given with parallelism := ← once given.parallelism (parallelism? text) }⟩]

/-- The command that has been asked for. A store needs a name and a column. -/
def command (given : InspectOptions) : Except Stop Command :=
  match given.store, given.columns with
  | none, _ | _, [] => .error .misuse
  | some store, columns =>
    let policy : StorePolicy :=
      ⟨given.partitionField, given.cacheSize, given.aggregateMode.getD .justInTime⟩
    .ok (.inspect ⟨store, columns, policy, given.parallelism⟩)

end InspectOptions

structure SchemaOptions where
  name : Option String
  list : Bool

namespace SchemaOptions

def rules : List (OptionRule SchemaOptions) := [
  ⟨some "list", none, .switch fun given => do return { given with list := ← raised given.list }⟩]

/-- The command that has been asked for: either one schema or the list of them. -/
def command (given : SchemaOptions) : Except Stop Command :=
  match given.name, given.list with
  | none, true => .ok .listSchemas
  | some name, false => .ok (.showSchema name)
  | _, _ => .error .misuse

end SchemaOptions

/-- There are no operands. -/
def noOperand (_ : String) (_ : σ) : Except Stop σ :=
  .error .misuse

/-- The words before the name of the command. -/
def outerGrammar : Grammar CommonOptions where
  options := CommonOptions.rules .program ++
    [⟨some "version", some 'V', .switch fun _ => .error .version⟩]
  commands := Topic.commands.filterMap Topic.name?
  operand := noOperand

/-- The words after the name of a command with options of its own. -/
def innerGrammar (topic : Topic) (rules : List (OptionRule σ))
    (operand : String → σ → Except Stop σ) : Grammar (CommonOptions × σ) where
  options :=
    (CommonOptions.rules topic).map (.onPart Prod.fst fun t s => (s, t.2)) ++
      rules.map (.onPart Prod.snd fun t s => (t.1, s))
  commands := []
  operand text given := (operand text given.2).map (Prod.mk given.1)

/-- Reads the words of a command; what they leave open was said before the command. -/
def readCommand (topic : Topic) (rules : List (OptionRule σ))
    (operand : String → σ → Except Stop σ) (start : σ) (command : σ → Except Stop Command)
    (outer : Except Stop CommonOptions) (words : List String) : Except Stop Invocation := do
  match ← (innerGrammar topic rules operand).read words (.none, start) with
  | .handedOver _ _ _ => .error .misuse
  | .finished (inner, given) =>
    let outer ← outer
    return ⟨(inner.form.or outer.form).getD .indented, inner.settingsFile.or outer.settingsFile,
      ← command given⟩

/-- Reads the words that help is asked about: nothing, or the name of a command. -/
def readHelp (words : List String) : Stop :=
  match words with
  | [] => .help .program .full
  | [command] =>
    match Topic.ofName? command with
    | some topic => .help topic .full
    | none => .misuse
  | _ => .misuse

def Invocation.ofWords (words : List String) : Except Stop Invocation := do
  match ← outerGrammar.read words .none with
  | .finished _ => .error .misuse
  | .handedOver outer command words =>
    match Topic.ofName? command with
    | some .generate =>
      readCommand .generate GenerateOptions.rules noOperand ⟨none⟩ GenerateOptions.command outer
        words
    | some .inspect =>
      readCommand .inspect InspectOptions.rules noOperand ⟨none, [], none, none, none, none⟩
        InspectOptions.command outer words
    | some .schema =>
      readCommand .schema SchemaOptions.rules
        (fun text given => do return { given with name := ← once given.name (some text) })
        ⟨none, false⟩ SchemaOptions.command outer words
    | some .help => .error (readHelp words)
    | some .program | none => .error .misuse

end OlapSynthesis.CommandLine
