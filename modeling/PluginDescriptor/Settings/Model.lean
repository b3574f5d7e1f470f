import PluginDescriptor.Log.Layout
import PluginDescriptor.Log.Notice
import PluginDescriptor.Settings.Checked
import PluginDescriptor.Validator.Module

/-!
# Settings

The settings of the log and of the whole framework. They are read from mappings: a setting that is
not given has its usual value, one that is not known is ignored, and all settings of the wrong form
are reported together, in the order in which the settings stand here.
-/

set_option autoImplicit false

namespace PluginDescriptor

/-- Where log lines go. -/
inductive LogOutput where
  | console
  | file
  | both
  deriving Repr, DecidableEq, Inhabited

namespace LogOutput

/-- Every choice under its name. -/
def named : Named LogOutput := [("console", console), ("file", file), ("both", both)]

/-- The name of a choice. -/
def name : LogOutput → String
  | console => "console"
  | file => "file"
  | both => "both"

/-- Log lines go to a file. -/
def hasFile : LogOutput → Bool
  | console => false
  | file | both => true

/-- Log lines go to the console. -/
def hasConsole : LogOutput → Bool
  | file => false
  | console | both => true

end LogOutput

/-- Settings of the log. -/
structure LogSettings where
  level : Level := .info
  style : LogStyle := .json
  output : LogOutput := .console
  file : Option String := none
  deriving Repr, DecidableEq, Inhabited

namespace LogSettings

/-- A file is named, if log lines go to a file. -/
def namesFile (s : LogSettings) : Bool := !s.output.hasFile || (s.file.getD "") != ""

/-- Read settings of the log. -/
def read (entries : Entries) : Checked LogSettings :=
  let levels : Named Level := Level.all.map fun l => (l.text, l)
  let fields := Checked.apply (Checked.apply (Checked.apply
    ((Checked.field entries "level" .info (Checked.oneOf levels)).map LogSettings.mk)
    (Checked.field entries "format" .json (Checked.oneOf LogStyle.named)))
    (Checked.field entries "output" .console (Checked.oneOf LogOutput.named)))
    (Checked.field entries "file_path" none (Checked.optional Checked.text))
  Checked.require namesFile (fun _ => "file_path is required when output is 'file' or 'both'") fields

/-- Settings of the log as a value. -/
def toValue (s : LogSettings) : Value :=
  .record [
    ("level", .str s.level.text),
    ("format", .str s.style.name),
    ("output", .str s.output.name),
    ("file_path", .ofText? s.file)]

end LogSettings

/-- Settings of the framework. -/
structure Settings where
  log : LogSettings := {}
  /-- Where descriptors are looked for. -/
  roots : List String := ["./plugins"]
  /-- The name of the directory under each root. -/
  space : String := "polaris"
  /-- The extension of the names of descriptor files. -/
  extension : String := "ddl"
  /-- The directory of help templates. -/
  templates : Option String := none
  /-- The version of the host, where it is not the usual one. -/
  host : Option String := none
  /-- The paths of custom validators. -/
  validators : Named String := []
  deriving Repr, DecidableEq, Inhabited

namespace Settings

/-- A text that can be the name of a step of a path. -/
def isPathStep (s : String) : Bool :=
  !(s.toList.contains '/' || s.toList.contains '\\' || s == "." || s == "..")

/-- Read the name of a step of a path. -/
def pathStep (v : Value) : Checked String :=
  Checked.require isPathStep (fun s => s!"Invalid path component: {s}") (Checked.someText v)

/-- Read search roots; a single one need not be in a list. -/
def searchRoots : Value → Checked (List String)
  | .str s => .ok [s]
  | v => Checked.list Checked.text v

/-- Read a version; a number stands for its text, if it can be written out. -/
def version : Value → Checked (Option String)
  | .null => .ok none
  | v =>
    if v.isWritable then .ok (some v.text)
    else
      let text := Fault.numberTooLong.message
      Checked.refuse s!"Value error, {text}" "value_error"

/-- Read the paths of validators. -/
def validatorPaths (v : Value) : Checked (Named String) :=
  let isBad (entry : String × String) : Bool := (Modules.memberPath? entry.2).isNone
  let text (paths : Named String) : String :=
    let name := ((paths.find? isBad).map (·.1)).getD ""
    s!"Validator '{name}' must be given as 'module:callable'"
  Checked.require (fun paths => !paths.any isBad) text (Checked.named Checked.text v)

/-- Read settings of the log that are part of others. -/
def logSection : Value → Checked LogSettings
  | .map entries | .frozen entries => LogSettings.read entries
  | _ =>
    Checked.refuse "Input should be a valid dictionary or instance of LoggingConfiguration"
      "model_type"

/-- Read settings of the framework. -/
def read (entries : Entries) : Checked Settings :=
  let usual : Settings := {}
  Checked.apply (Checked.apply (Checked.apply (Checked.apply (Checked.apply (Checked.apply
    ((Checked.field entries "logging_config" usual.log logSection).map Settings.mk)
    (Checked.field entries "plugin_search_paths" usual.roots searchRoots))
    (Checked.field entries "descriptor_namespace" usual.space pathStep))
    (Checked.field entries "descriptor_extension" usual.extension pathStep))
    (Checked.field entries "help_template_dir" usual.templates (Checked.optional Checked.text)))
    (Checked.field entries "platform_version" usual.host version))
    (Checked.field entries "validators" usual.validators validatorPaths)

/-- Settings as a value. -/
def toValue (s : Settings) : Value :=
  .record [
    ("logging_config", s.log.toValue),
    ("plugin_search_paths", .list (s.roots.map .str)),
    ("descriptor_namespace", .str s.space),
    ("descriptor_extension", .str s.extension),
    ("help_template_dir", .ofText? s.templates),
    ("platform_version", .ofText? s.host),
    ("validators", .record (s.validators.map fun (name, path) => (name, .str path)))]

/-- The fault of a mapping with a key that is no text, when settings are given one by one. -/
def keyFault : Fault := .badKind "keywords must be strings"

/-- Settings given one by one under their names, which have to be texts. -/
def given {α : Type} (read : Entries → Checked α) (entries : Entries) : Except Failure α :=
  if entries.all fun e => e.1.isText then (read entries).mapError .violations
  else .error (.fault keyFault)

/-- The settings that a mapping gives. -/
def ofEntries (entries : Entries) : Except Failure Settings := given read entries

end Settings

/-- The settings of the log that a mapping gives. -/
def LogSettings.ofEntries (entries : Entries) : Except Failure LogSettings :=
  Settings.given LogSettings.read entries

end PluginDescriptor
