import PluginDescriptor.Error.Code
import PluginDescriptor.Fault

/-!
# Error reports

A report says what went wrong in a form that logs and programs can read: a class, a message, a code, a
context of further facts, and the fault behind it, if there is one. The classes differ in the facts
they put into the context, and the facts stand in a fixed order.
-/

set_option autoImplicit false

namespace PluginDescriptor

/-- The classes of errors. -/
inductive ErrorClass where
  | general
  | configuration
  | settings
  | descriptor
  | notFound
  | malformed
  | requirement
  | versionTooOld
  | argument
  deriving Repr, DecidableEq, Inhabited

namespace ErrorClass

/-- Every class with its name. -/
def names : List (ErrorClass × String) := [
  (general, "PolarisException"),
  (configuration, "ConfigurationError"),
  (settings, "ConfigurationValidationError"),
  (descriptor, "DescriptorError"),
  (notFound, "DescriptorNotFoundError"),
  (malformed, "MalformedDescriptorError"),
  (requirement, "UnsupportedRequirementError"),
  (versionTooOld, "VersionTooOldError"),
  (argument, "InputValidationError")]

/-- The name of a class. -/
def name (c : ErrorClass) : String := ((names.find? (·.1 = c)).map (·.2)).getD ""

/-- The class with a name. -/
def ofName? (s : String) : Option ErrorClass := (names.find? (·.2 == s)).map (·.1)

/-- The class that a class is a case of. -/
def parent? : ErrorClass → Option ErrorClass
  | general => none
  | configuration => some general
  | settings => some configuration
  | descriptor => some general
  | notFound => some descriptor
  | malformed => some descriptor
  | requirement => some descriptor
  | versionTooOld => some descriptor
  | argument => some descriptor

/-- The class and those it is a case of, up to the most general ones. -/
def lineage (c : ErrorClass) : List String :=
  let above := match c.parent? with
    | none => []
    | some p => p.name :: (p.parent?.map name).toList
  c.name :: above ++ ["Exception", "BaseException", "object"]

/-- The code of errors of a class that are given none. -/
def usualCode? : ErrorClass → Option String
  | configuration => some "CONFIG_ERROR"
  | settings => some "CONFIGURATION_VALIDATION_ERROR"
  | notFound => some Code.descriptorNotFound.text
  | requirement => some Code.unsupportedRequirement.text
  | versionTooOld => some Code.versionTooOld.text
  | argument => some Code.inputValidationFailed.text
  | general | descriptor | malformed => none

/-- Errors of descriptors, as opposed to those of configuration. -/
def isDescriptor : ErrorClass → Bool
  | descriptor | notFound | malformed | requirement | versionTooOld | argument => true
  | _ => false

end ErrorClass

/-- The facts that an error may state; a fact that is nothing is not stated. -/
structure Facts where
  path : Value := .null
  entity : Value := .null
  argument : Value := .null
  property : Value := .null
  requirement : Value := .null
  requiredVersion : Value := .null
  platformVersion : Value := .null
  searchRoots : Value := .null
  configPath : Value := .null
  violations : Value := .null
  pluginKind : Value := .null
  pluginName : Value := .null
  deriving Repr, Inhabited

namespace Facts

/-- The plugin that an error is about. -/
def plugin (f : Facts) : List (String × Value) :=
  [("plugin_kind", f.pluginKind), ("plugin_name", f.pluginName)]

/-- The facts that a class puts into the context, by their keys, in order. -/
def ofClass (f : Facts) : ErrorClass → List (String × Value)
  | .general => []
  | .configuration => [("config_path", f.configPath), ("validation_errors", f.violations)]
  | .settings => [("validation_errors", f.violations)]
  | .descriptor => f.plugin
  | .notFound => f.plugin
  | .malformed =>
    [("path", f.path), ("entity", f.entity), ("argument", f.argument), ("property", f.property)]
      ++ f.plugin
  | .requirement => ("requirement", f.requirement) :: f.plugin
  | .versionTooOld =>
    [("required_version", f.requiredVersion), ("platform_version", f.platformVersion)] ++ f.plugin
  | .argument => [("entity", f.entity), ("argument", f.argument)] ++ f.plugin

/-- The facts that stay readable on an error of a class, by their names. -/
def attributes (f : Facts) (c : ErrorClass) : List (String × Value) :=
  let own := match c with
    | .malformed => [("property_name", f.property)]
    | .requirement => [("requirement", f.requirement)]
    | .versionTooOld =>
      [("required_version", f.requiredVersion), ("platform_version", f.platformVersion)]
    | .argument => [("entity", f.entity), ("argument", f.argument)]
    | _ => []
  if c.isDescriptor then f.plugin ++ own else own

end Facts

/-- An error in a form that logs and programs can read. -/
structure Report where
  errorClass : ErrorClass
  message : String
  code : String
  context : Entries
  cause : Option Fault
  deriving Repr, Inhabited

namespace Report

/-- A context with the facts of a class added to it: those that count as true, and the search roots
even when there are none. -/
def contextOf (c : ErrorClass) (given : Entries) (facts : Facts) : Entries :=
  let roots := if c = .notFound && facts.searchRoots != .null then
      given.put (.str "search_roots") facts.searchRoots
    else given
  (facts.ofClass c).foldl
    (fun es (key, v) => if v.isTruthy then Fields.put es (.str key) v else es) roots

/-- A report with the facts of its class. -/
def ofFacts (c : ErrorClass) (message code : String) (given : Entries) (facts : Facts)
    (cause : Option Fault) : Report :=
  { errorClass := c, message, code, context := contextOf c given facts, cause }

/-- The time stamp of a report. -/
abbrev TimeStamp := String

/-- The report as a value; `correlation` identifies the run that it belongs to. -/
def toValue (r : Report) (correlation : String) (time : TimeStamp) : Value :=
  .record [
    ("error_type", .str r.errorClass.name),
    ("message", .str r.message),
    ("error_code", .str r.code),
    ("context", .map r.context),
    ("correlation_id", .str correlation),
    ("timestamp", .str time),
    ("cause", .ofText? (r.cause.map Fault.message))]

end Report

end PluginDescriptor
