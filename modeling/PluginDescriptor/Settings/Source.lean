import PluginDescriptor.Error.Failure
import PluginDescriptor.File.Tree
import PluginDescriptor.Settings.Environment
import PluginDescriptor.Yaml.Document

/-!
# Sources of settings

Settings come from files, from the environment, or are given explicitly; there may be sources of other
kinds. Each source has a priority; what it holds is looked up afresh each time.
-/

set_option autoImplicit false

namespace PluginDescriptor

/-- What sources look things up in. -/
structure Surroundings where
  files : FileTree
  environment : Environment
  deriving Inhabited

/-- A source of settings. -/
inductive Source where
  /-- A YAML file. -/
  | file (path : Path) (priority : Int)
  /-- The variables of the environment whose names have a lead. -/
  | environment (lead : String) (priority : Int)
  /-- Settings of the framework. -/
  | explicit (settings : Entries) (priority : Int)
  /-- A source of another kind, by what it finds. -/
  | other (kind : String) (find : Surroundings → Except Failure Entries) (priority : Int)
  deriving Inhabited

namespace Source

/-- The usual priority of files. -/
def filePriority : Int := 100

/-- The usual priority of the environment. -/
def environmentPriority : Int := 200

/-- The usual priority of explicit settings. -/
def explicitPriority : Int := 300

/-- The environment with the usual lead and priority. -/
def usualEnvironment : Source := .environment Environment.usualLead environmentPriority

/-- The priority of a source: settings of a higher one count. -/
def priority : Source → Int
  | file _ p => p
  | environment _ p => p
  | explicit _ p => p
  | other _ _ p => p

/-- The source is the environment. -/
def isEnvironment : Source → Bool
  | environment _ _ => true
  | _ => false

/-- The name of a kind of source. -/
def kindName : Source → String
  | file _ _ => "YAMLConfigurationSource"
  | environment _ _ => "EnvironmentConfigurationSource"
  | explicit _ _ => "OverrideConfigurationSource"
  | other kind _ _ => kind

/-- The failure of reading a file: that it is no YAML document or cannot be read is a matter of
configuration, and any other fault is left as it is. -/
def fileFailure (path : Path) : Fault → Failure
  | .notYaml => .configuration (.fileNotYaml path.text .notYaml)
  | .system n reason name => .configuration (.fileUnreadable path.text (.system n reason name))
  | fault => .fault fault

/-- The document in a file. -/
def readDocument (files : FileTree) (path : Path) : Except Fault Value := do
  Value.ofYaml (← files.readPieces path)

/-- The settings in a file: a mapping, or a document that counts as nothing. -/
def readFile (files : FileTree) (path : Path) : Except Failure Entries := do
  if !(← Failure.ofFault (files.contains path)) then
    throw (.configuration (.fileNotFound path.text))
  let document ← (readDocument files path).mapError (fileFailure path)
  match document with
  | .map entries => return entries
  | v => if v.isTruthy then throw (.configuration (.fileNotMapping path.text)) else return []

/-- The settings that a source holds. -/
def read (around : Surroundings) : Source → Except Failure Entries
  | file path _ => readFile around.files path
  | environment lead _ => Failure.ofFault (around.environment.read lead)
  | explicit settings _ =>
    .ok (if settings.isEmpty then []
      else Entries.ofFields [(Environment.frameworkSection, .map settings)])
  | other _ find _ => find around

end Source

end PluginDescriptor
