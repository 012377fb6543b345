import OlapSynthesis.Discovery.Files
import OlapSynthesis.Discovery.Glob
import OlapSynthesis.Discovery.Manifest
import OlapSynthesis.Settings

namespace OlapSynthesis

inductive DiscoveryError
  /-- The file cannot be read as text. -/
  | unreadable (path : String)
  | unwalkable
  | notManifest (path : String)
  | badLayout (path : String) (cause : ColumnError)
  | badPattern (pattern : String)
  /-- No matcher can be built for the pattern, and the search breaks down. -/
  | tooDeep (pattern : String)
  | noMatch (directory pattern : String)
  | configuration (cause : ConfigurationError)
deriving DecidableEq, Repr

/-- The complaint about a source. What the reader of files, manifests or patterns has to add is
left out. -/
def DiscoveryError.message : DiscoveryError → String
  | .unreadable path => "failed to read " ++ path
  | .unwalkable => "walk error"
  | .notManifest path => "invalid discovery manifest " ++ path
  | .badLayout path cause => "invalid column layout in " ++ path ++ ": " ++ cause.message
  | .badPattern pattern => "invalid path matcher '" ++ pattern ++ "'"
  | .tooDeep pattern => "path matcher '" ++ pattern ++ "' nests too deep"
  | .noMatch directory pattern => "no file matching '" ++ pattern ++ "' in " ++ directory
  | .configuration cause => cause.message

/-- Where to look for manifests. A relative path is looked up below the base directory, whoever names
it; so is the path of a file that was found below a relative base directory. -/
structure Discovery where
  files : Files
  /-- The directory below which relative paths are looked up. -/
  base : Option String

namespace Discovery

/-- The path to look up. An absolute path is below no base. -/
def resolve (discovery : Discovery) (path : String) : String :=
  match discovery.base with
  | some base => Path.join base path
  | none => path

def read (discovery : Discovery) (path : String) : Except DiscoveryError SourceLayout :=
  let path := discovery.resolve path
  match discovery.files.readText? path with
  | none => .error (.unreadable path)
  | some text =>
    match Manifest.ofText? text with
    | none => .error (.notManifest path)
    | some manifest =>
      match SourceLayout.ofTags (Path.stem path) manifest.separator manifest.columns with
      | .error cause => .error (.badLayout path cause)
      | .ok layout => .ok (layout.withOrigin path)

/-- Whether a path stands for the standard input: it is a hyphen, and no part after it leads
anywhere. -/
def isStandardInput (path : String) : Bool :=
  match Path.parts path with
  | first :: rest => first == "-" && rest.all Path.isIdle
  | [] => false

/-- A walk of the standard input comes by itself only, which is no file. -/
def walk? (discovery : Discovery) (directory : String) : Option (List Entry) :=
  if isStandardInput directory then some [⟨"<stdin>", .other⟩]
  else discovery.files.walk.list? directory

/-- Whether a glob chooses what a walk of a directory comes by. It goes by the path from there. -/
def chooses (glob : Glob) (directory : String) (entry : Entry) : Bool :=
  entry.isFile && glob.accepts ((Path.strip? directory entry.path).getD entry.path)

/-- The files below a directory that a pattern chooses, in the order of paths. -/
def matching (discovery : Discovery) (directory pattern : String) :
    Except DiscoveryError (List String) :=
  match Glob.ofPattern? pattern with
  | none => .error (.badPattern pattern)
  | some glob =>
    if Glob.maxDepth < glob.depth then .error (.tooDeep pattern)
    else
      let directory := discovery.resolve directory
      match discovery.walk? directory with
      | none => .error .unwalkable
      | some entries =>
        .ok (((entries.filter (chooses glob directory)).map (·.path)).mergeSort Path.precedes)

def template (discovery : Discovery) (name : String) (source : SourceSettings) :
    Except DiscoveryError String := do
  match ← (source.location name).mapError .configuration with
  | .file path => return path
  | .directory path glob =>
    match ← discovery.matching path glob with
    | [] => .error (.noMatch (discovery.resolve path) glob)
    | first :: _ => return first

def layout (discovery : Discovery) (name : String) (source : SourceSettings) :
    Except DiscoveryError SourceLayout := do
  discovery.read (← discovery.template name source)

def members (discovery : Discovery) (name : String) (group : ReferenceSettings) :
    Except DiscoveryError (List String) := do
  let (path, glob) ← (group.location name).mapError .configuration
  discovery.matching path glob

def layouts (discovery : Discovery) (name : String) (group : ReferenceSettings) :
    Except DiscoveryError (List SourceLayout) := do
  (← discovery.members name group).mapM discovery.read

end Discovery

end OlapSynthesis
