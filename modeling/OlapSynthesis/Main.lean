import OlapSynthesis.CommandLine

namespace OlapSynthesis.Main

def environment : IO Environment := do
  let content ← IO.FS.readBinFile "/proc/self/environ"
  let definitions := (Text.splitAt 0 content.toList).filterMap fun bytes =>
    String.fromUTF8? ⟨bytes.toArray⟩ >>= Text.cut? '='
  return ⟨definitions⟩

def processors : IO UInt64 := do
  let lines ← IO.FS.lines "/proc/cpuinfo"
  return UInt64.ofNat (max 1 (lines.filter (·.startsWith "processor")).size)

def userFile (environment : Environment) : Option String :=
  let configured := (environment.get? "XDG_CONFIG_HOME").filter Path.isAbsolute
  let home := (environment.get? "HOME").map (Path.join · ".config")
  (configured.or home).map (Path.join · "autocube/config.toml")

/-- Adds the files under some paths to what is known. A path that leads to no file adds nothing. -/
def look (directory : String) (known : FileTree) (paths : List String) : IO FileTree :=
  paths.foldlM (fun known (path : String) => do
    try
      let content ← IO.FS.readBinFile path
      return FileTree.insert (.file content) (Path.destination directory path) known
    catch _ => return known) known

/-- The workplace in which some part of the file system is known. Whether a file can be written
shows when it is written. -/
def workplace (directory : String) (known : FileTree) : IO Workplace := do
  let environment ← environment
  return {
    files := { known.files directory with writable := fun _ => true }
    directory
    userFile := userFile environment
    environment
    processors := ← processors }

/-- The paths under which there may be settings or variables. -/
def settingsPaths (workplace : Workplace) (settingsFile : Option String) : List String :=
  let names := [Workplace.projectFile, Workplace.variablesFile] ++ settingsFile.toList
  Path.join (workplace.base settingsFile) Workplace.variablesFile :: workplace.userFile.toList ++
    (Path.ancestors workplace.directory).flatMap fun above => names.map (Path.join above)

def namesDirectories (configuration : Configuration) : Bool :=
  configuration.sources.entries.any (fun source => source.2.file.isNone) ||
    !configuration.references.isEmpty

/-- What a run can see of the file system. No directory is listed: where the configuration names
directories, the paths of the files below them are read from the standard input, one a line. -/
def survey (directory : String) (words : List String) : IO FileTree := do
  let nothing :=
    FileTree.insert .emptyDirectory (Path.destination "/" directory) .emptyDirectory
  match CommandLine.Invocation.ofWords words with
  | .ok ⟨_, settingsFile, .generate _⟩ =>
    let known ← look directory nothing
      (settingsPaths (← workplace directory nothing) settingsFile)
    let place ← workplace directory known
    match place.configuration settingsFile with
    | .error _ => return known
    | .ok configuration =>
      let files := configuration.sources.entries.filterMap (·.2.file)
      let known ← look directory known (files.map (place.discovery settingsFile).resolve)
      if namesDirectories configuration then
        look directory known (← IO.FS.lines "/dev/stdin").toList
      else return known
  | _ => return nothing

def tell (outcome : CommandLine.Outcome) : IO UInt32 := do
  IO.print outcome.output
  if let some complaint := outcome.complaint? then IO.eprintln complaint
  if outcome = .misused then IO.eprintln ("Usage: " ++ CommandLine.Topic.program.usage)
  return UInt32.ofNat outcome.exitCode

def conclude (outcome : CommandLine.Outcome) : IO UInt32 := do
  if let .wrote path text := outcome then
    try
      IO.FS.writeFile path text
    catch _ =>
      return ← tell (.failed (.unwritable path))
  tell outcome

def run (words : List String) : IO UInt32 := do
  let directory := toString (← IO.currentDir)
  let known ← survey directory words
  conclude (CommandLine.run (← workplace directory known) words)

end OlapSynthesis.Main

def main (words : List String) : IO UInt32 :=
  OlapSynthesis.Main.run words
