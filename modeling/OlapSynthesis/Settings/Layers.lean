import OlapSynthesis.Settings.Dotenv
import OlapSynthesis.Settings.Extraction
import OlapSynthesis.Settings.Toml

namespace OlapSynthesis

structure Layers where
  /-- The files that are there, the lowest first: each with its text, if it holds text. -/
  files : List (Option String)
  environment : Environment
deriving DecidableEq

inductive LoadError
  | unreadable
  /-- The setting at these keys is of the wrong kind. -/
  | badSetting (path : KeyPath)
  | invalid (cause : ConfigurationError)
  /-- The value of a variable breaks down, and the run with it. -/
  | brokenValue
deriving DecidableEq, Repr

namespace Layers

def fileSettings (file : Option String) : Option Setting :=
  file >>= Toml.ofText?

/-- The layers one over the other, the environment over all files. A file that cannot be read spoils
everything, and so does, before it, a variable whose value breaks down. -/
def settings (layers : Layers) : Except LoadError Setting :=
  match layers.environment.settings?, layers.files.mapM fileSettings with
  | none, _ => .error .brokenValue
  | some _, none => .error .unreadable
  | some highest, some files => .ok ((files ++ [highest]).foldl Setting.overlay .emptyTable)

/-- The configuration that the layers describe, be it usable or not. -/
def configuration (layers : Layers) : Except LoadError Configuration := do
  (Configuration.extract (← layers.settings)).mapError .badSetting

/-- The usable configuration that the layers describe. -/
def load (layers : Layers) : Except LoadError Configuration := do
  let configuration ← layers.configuration
  configuration.validate.mapError .invalid
  return configuration

end Layers

end OlapSynthesis
