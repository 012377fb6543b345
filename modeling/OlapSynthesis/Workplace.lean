import OlapSynthesis.Discovery
import OlapSynthesis.Settings.Dotenv
import OlapSynthesis.Settings.Layers

namespace OlapSynthesis

structure Workplace where
  files : Files
  /-- The absolute path of the current directory. -/
  directory : String
  userFile : Option String
  environment : Environment
  processors : UInt64

inductive WorkplaceError
  /-- The file that should define variables cannot be read to its end. -/
  | badVariables (path : String)
  /-- The file would give a variable a value that none can have, which ends the run. -/
  | impossibleValue (path : String)
  | settings (cause : LoadError)
deriving DecidableEq, Repr

namespace Workplace

def projectFile : String :=
  "autocube.toml"

def variablesFile : String :=
  ".env"

/-- The base directory: that of the explicit file, if a directory is named with it, or else the
current one. -/
def base (workplace : Workplace) (explicit : Option String) : String :=
  ((explicit >>= Path.parent?).filter (· ≠ "")).getD workplace.directory

/-- The content of a regular file. A relative path is looked up in the current directory first
and then in those above it. -/
def nearest? (workplace : Workplace) (path : String) : Option ByteArray :=
  if Path.isAbsolute path then workplace.files.read? path
  else (Path.ancestors workplace.directory).findSome? fun directory =>
    workplace.files.read? (Path.join directory path)

def define (workplace : Workplace) (path : String) (content : Option ByteArray) :
    Except WorkplaceError Environment :=
  match (content >>= String.fromUTF8?).map (Dotenv.load workplace.environment) with
  | some (environment, .complete) => .ok environment
  | some (_, .impossibleValue) => .error (.impossibleValue path)
  | some (_, .badLine) | none => .error (.badVariables path)

/-- The environment of the run. Variables are defined by the file of the base directory; only
where nothing has its name, by the nearest such file. -/
def runEnvironment (workplace : Workplace) (explicit : Option String) :
    Except WorkplaceError Environment :=
  let path := Path.join (workplace.base explicit) variablesFile
  if workplace.files.present path then workplace.define path (workplace.files.read? path)
  else
    match workplace.nearest? variablesFile with
    | none => .ok workplace.environment
    | some content => workplace.define variablesFile (some content)

/-- The files with settings, the lowest first. The file of the project counts only where the
current directory has something of that name. -/
def settingsFiles (workplace : Workplace) (explicit : Option String) : List String :=
  let project := Path.join workplace.directory projectFile
  workplace.userFile.toList ++
    (if workplace.files.present project then [projectFile] else []) ++ explicit.toList

def layers (workplace : Workplace) (explicit : Option String) : Except WorkplaceError Layers := do
  let environment ← workplace.runEnvironment explicit
  let files := (workplace.settingsFiles explicit).filterMap workplace.nearest?
  return ⟨files.map String.fromUTF8?, environment⟩

def configuration (workplace : Workplace) (explicit : Option String) :
    Except WorkplaceError Configuration := do
  (← workplace.layers explicit).load.mapError .settings

def discovery (workplace : Workplace) (explicit : Option String) : Discovery :=
  ⟨workplace.files, some (workplace.base explicit)⟩

end Workplace

end OlapSynthesis
