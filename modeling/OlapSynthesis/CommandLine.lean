import OlapSynthesis.CommandLine.Invocation
import OlapSynthesis.Codec.Model
import OlapSynthesis.Generation
import OlapSynthesis.Json.Printer
import OlapSynthesis.JsonSchema.Document
import OlapSynthesis.Workplace

namespace OlapSynthesis

def DiscoveryError.complaints (error : DiscoveryError) : List String :=
  match error with
  | .badLayout _ cause => [error.message, cause.message]
  | _ => [error.message]

def GenerationError.complaints (error : GenerationError) : List String :=
  match error with
  | .discovery _ cause => error.message :: cause.complaints
  | _ => [error.message]

def InspectionError.complaints : InspectionError → List String
  | .column name tag cause => ["invalid column '" ++ name ++ ":" ++ tag ++ "'", cause.message]
  | .store cause => [cause.message]
  | .synthesis name cause => ["failed to synthesize store '" ++ name ++ "'", cause.message]
  | .noCube name => ["no cube registered for '" ++ name ++ "'"]

/-- The complaint about settings. What the reader of a format has to add is left out. -/
def LoadError.message : LoadError → String
  | .unreadable => "a configuration file cannot be read"
  | .badSetting path => "invalid setting '" ++ String.intercalate "." path ++ "'"
  | .invalid cause => cause.message
  | .brokenValue => "the value of a variable cannot be read"

def WorkplaceError.complaints : WorkplaceError → List String
  | .badVariables path | .impossibleValue path => ["failed to load dotenv file at " ++ path]
  | .settings cause => ["failed to load autocube configuration", cause.message]

namespace CommandLine

inductive Failure
  | workplace (cause : WorkplaceError)
  | generation (cause : GenerationError)
  /-- The model is not what its schema says. -/
  | nonconforming
  | unwritable (path : String)
  | inspection (cause : InspectionError)
  | unknownSchema (name : String)
deriving DecidableEq

def Failure.complaints : Failure → List String
  | .workplace cause => cause.complaints
  | .generation cause => "schema generation failed" :: cause.complaints
  | .nonconforming => ["generated model does not match its schema"]
  | .unwritable path => ["failed to write model to " ++ path]
  | .inspection cause => cause.complaints
  | .unknownSchema name =>
    ["unknown schema '" ++ name ++ "'; available: " ++
      String.intercalate ", " JsonSchema.publishedNames]

/-- Whether the failure ends the run on the spot, so that nothing is said about it. -/
def Failure.isBreakdown : Failure → Bool
  | .workplace (.impossibleValue _) | .workplace (.settings .brokenValue)
  | .generation .aborted => true
  | _ => false

inductive Outcome
  | printed (text : String)
  | wrote (path text : String)
  | failed (cause : Failure)
  /-- The words ask for nothing that could be done. -/
  | misused
deriving DecidableEq

namespace Outcome

def exitCode : Outcome → Nat
  | .printed _ | .wrote _ _ => 0
  | .failed cause => if cause.isBreakdown then 101 else 1
  | .misused => 2

def output : Outcome → String
  | .printed text => text
  | _ => ""

/-- What is said about a failure that the run survives. -/
def complaint? : Outcome → Option String
  | .failed cause =>
    if cause.isBreakdown then none
    else some ("autocube error: " ++ String.intercalate ": " cause.complaints)
  | _ => none

end Outcome

def OutputForm.write (form : OutputForm) (value : Json) : String :=
  (match form with
    | .indented => value.pretty
    | .compact => value.compact) ++ "\n"

def versionLine : String :=
  "autocube 0.1.0\n"

/-- The model of the configuration found at the workplace, in the order of its keys. -/
def generate (workplace : Workplace) (settingsFile : Option String) : Except Failure Json := do
  let configuration ← (workplace.configuration settingsFile).mapError .workplace
  let survey := (workplace.discovery settingsFile).survey
  let model ← (configuration.generate survey workplace.processors).mapError .generation
  let value := model.encode.canonical
  if JsonSchema.model.accepts value then return value else .error .nonconforming

def deliver (workplace : Workplace) (output : Option String) (text : String) : Outcome :=
  match output with
  | none => .printed text
  | some path =>
    if workplace.files.writable path then .wrote path text else .failed (.unwritable path)

def Invocation.run (workplace : Workplace) (invocation : Invocation) : Outcome :=
  match invocation.command with
  | .generate output =>
    match generate workplace invocation.settingsFile with
    | .ok value => deliver workplace output (invocation.form.write value)
    | .error cause => .failed cause
  | .inspect inspection =>
    match inspection.report workplace.processors with
    | .ok report => .printed (invocation.form.write report.encode)
    | .error cause => .failed (.inspection cause)
  | .listSchemas => .printed (invocation.form.write (.texts JsonSchema.publishedNames))
  | .showSchema name =>
    match JsonSchema.publishedDocument? name with
    | some document => .printed (invocation.form.write document.canonical)
    | none => .failed (.unknownSchema name)

def run (workplace : Workplace) (words : List String) : Outcome :=
  match Invocation.ofWords words with
  | .ok invocation => invocation.run workplace
  | .error (.help topic detail) => .printed (topic.describe detail)
  | .error .version => .printed versionLine
  | .error .misuse => .misused

end CommandLine

end OlapSynthesis
