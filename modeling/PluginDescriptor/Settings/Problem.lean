import PluginDescriptor.Error.Report

/-!
# What can be wrong with the configuration

Each cause for which configuration, a validator or a help template is refused, with its message, its
code, and the facts that its report states. Settings of the wrong form are listed one by one, each
with its place.
-/

set_option autoImplicit false

namespace PluginDescriptor

/-- A setting of the wrong form: where it is, what is wrong, and the kind of rule it breaks. -/
structure Violation where
  place : List Value
  text : String
  rule : String
  deriving Repr, BEq, Inhabited

/-- A violation as a value. -/
def Violation.toValue (v : Violation) : Value :=
  .record [("loc", .list v.place), ("msg", .str v.text), ("type", .str v.rule)]

/-- Why configuration is refused. -/
inductive SettingsProblem where
  | validatorPathMalformed (name path : String)
  | validatorNotImported (name path : String) (fault : Fault)
  | validatorNotCallable (name path : String)
  | validatorsNotLoaded
  | validatorUnknown (name : Value)
  | badPattern (pattern : String) (fault : Fault)
  | templateNotFound (name path : String)
  | templateUnreadable (path : String) (fault : Fault)
  | templateShapeless (path : String)
  | badTemplateField (fault : Fault)
  | fileNotFound (path : String)
  | fileNotYaml (path : String) (fault : Fault)
  | fileUnreadable (path : String) (fault : Fault)
  | fileNotMapping (path : String)
  | violated (violations : List Violation)
  | argumentNotPair (text : String)
  deriving Repr, BEq, Inhabited

namespace SettingsProblem

/-- The class of the error. -/
def errorClass : SettingsProblem → ErrorClass
  | violated _ => .settings
  | _ => .configuration

/-- The code of the error. -/
def code : SettingsProblem → String
  | validatorPathMalformed _ _ | validatorNotImported _ _ _ | validatorNotCallable _ _
  | validatorUnknown _ => Code.validatorNotFound.text
  | validatorsNotLoaded => Code.validatorsNotLoaded.text
  | badPattern _ _ => Code.invalidValidationPattern.text
  | templateNotFound _ _ => Code.helpTemplateNotFound.text
  | templateUnreadable _ _ | templateShapeless _ | badTemplateField _ => Code.invalidHelpTemplate.text
  | fileNotFound _ => "CONFIG_FILE_NOT_FOUND"
  | fileNotYaml _ _ => "INVALID_YAML"
  | fileUnreadable _ _ => "CONFIG_READ_ERROR"
  | fileNotMapping _ => "INVALID_CONFIG_STRUCTURE"
  | violated _ => "CONFIGURATION_VALIDATION_ERROR"
  | argumentNotPair _ => "INVALID_ARGUMENT_SYNTAX"

/-- The message of the error. -/
def message : SettingsProblem → String
  | validatorPathMalformed name path =>
    s!"Validator '{name}' must be given as 'module:callable', got '{path}'"
  | validatorNotImported name path fault =>
    s!"Cannot load validator '{name}' from '{path}': {fault.message}"
  | validatorNotCallable name path => s!"Validator '{name}' at '{path}' is not callable"
  | validatorsNotLoaded => "Validators must be loaded before validating values"
  | validatorUnknown name => s!"No validator registered for type '{name.text}'"
  | badPattern pattern fault => s!"Invalid validation pattern '{pattern}': {fault.message}"
  | templateNotFound name _ => s!"Cannot find help template '{name}'"
  | templateUnreadable path fault => s!"Failed to load help template {path}: {fault.message}"
  | templateShapeless path => s!"Help template {path} needs a 'template' string"
  | badTemplateField fault =>
    s!"Help template references an unknown or invalid field: {fault.message}"
  | fileNotFound path => s!"Configuration file not found: {path}"
  | fileNotYaml path _ => s!"Invalid YAML in configuration file: {path}"
  | fileUnreadable path _ => s!"Error reading configuration file: {path}"
  | fileNotMapping path => s!"Configuration file must contain a mapping: {path}"
  | violated _ => "Configuration validation failed"
  | argumentNotPair text => s!"Arguments must be given as KEY=VALUE, got '{text}'"

/-- The fault behind the error. -/
def cause : SettingsProblem → Option Fault
  | validatorNotImported _ _ fault | badPattern _ fault | templateUnreadable _ fault
  | badTemplateField fault | fileNotYaml _ fault | fileUnreadable _ fault => some fault
  | _ => none

/-- The facts that the error's own kind adds in front of all others. -/
def given : SettingsProblem → Entries
  | validatorPathMalformed name _ | validatorNotImported name _ _ | validatorNotCallable name _ =>
    Entries.ofFields [("validator", .str name)]
  | validatorUnknown name => Entries.ofFields [("validator", name)]
  | badPattern pattern _ => Entries.ofFields [("pattern", .str pattern)]
  | fileNotYaml _ fault => Entries.ofFields [("yaml_error", .str fault.message)]
  | fileUnreadable _ fault => Entries.ofFields [("error", .str fault.message)]
  | _ => []

/-- The facts that the error states. -/
def facts : SettingsProblem → Facts
  | templateNotFound _ path | templateUnreadable path _ | templateShapeless path | fileNotFound path
  | fileNotYaml path _ | fileUnreadable path _ | fileNotMapping path => { configPath := .str path }
  | violated violations => { violations := .list (violations.map Violation.toValue) }
  | _ => {}

/-- The report of the error. -/
def report (problem : SettingsProblem) : Report :=
  Report.ofFacts problem.errorClass problem.message problem.code problem.given problem.facts
    problem.cause

/-- The places and texts of violations, one line each, below a message. -/
def detailed (message : String) (violations : List Value) : String :=
  let line (v : Value) : String :=
    let entries := v.entries?.getD []
    let place := match entries.find? "loc" with
      | some (.list parts) => Text.join " -> " (parts.map Value.text)
      | _ => ""
    let text := ((entries.find? "msg").map Value.text).getD "Unknown error"
    s!"- {place}: {text}"
  Text.join "\n" (message :: "Validation errors:" :: violations.map line)

end SettingsProblem

end PluginDescriptor
