import PluginDescriptor.Fault
import PluginDescriptor.Named
import PluginDescriptor.Text.Blank
import PluginDescriptor.Text.Case
import PluginDescriptor.Text.Numeral

/-!
# Settings in the environment

Variables whose names have a certain lead are settings. The rest of the name, in lower case, says
where the setting belongs: a section up to the first underscore, and below it one step for each
further underscore, except that settings of the framework keep the underscores of their names.
-/

set_option autoImplicit false

namespace PluginDescriptor

/-- The variables of the environment with their values. -/
abbrev Environment := Named String

namespace Environment

/-- The lead of variables that are settings, where no other is asked for. -/
def usualLead : String := "POLARIS_DDL_"

/-- The section of the framework's settings. -/
def frameworkSection : String := "framework"

/-- The settings of the framework that are single texts or lists, by their names. -/
def frameworkFields : List String :=
  ["plugin_search_paths", "descriptor_namespace", "descriptor_extension", "help_template_dir",
    "platform_version"]

/-- The settings of the framework that are groups of settings. -/
def frameworkGroups : List String := ["logging_config", "validators"]

/-- The environment given by texts with an equals sign between name and value. -/
def ofTexts (texts : List String) : Environment :=
  texts.filterMap fun text =>
    match Text.cutAt '=' text.toList with
    | (name, some value) => some (String.ofList name, String.ofList value)
    | (_, none) => none

/-- Where a variable belongs. -/
inductive Slot where
  /-- A section as a whole. -/
  | whole (name : String)
  /-- A setting of the framework. -/
  | field (name : String)
  /-- A setting in a group of the framework's settings. -/
  | member (group name : String)
  /-- A setting below a section; `steps` lead to the place of `last`. -/
  | nested (top : String) (steps : List String) (last : String)
  deriving Repr, DecidableEq

namespace Slot

/-- The keys that lead to what is in a slot. -/
def path : Slot → List String
  | whole name => [name]
  | field name => [frameworkSection, name]
  | member group name => [frameworkSection, group, name]
  | nested top steps last => top :: steps ++ [last]

/-- The group of the framework's settings that a name belongs to, and the name within it. -/
def memberOf? (rest : String) : Option (String × String) :=
  frameworkGroups.findSome? fun group =>
    (Text.dropLead? (group.toList ++ ['_']) rest.toList).map fun name => (group, String.ofList name)

/-- The slot below a section for the rest of a name. -/
def below (top rest : String) : Slot :=
  let steps := (Text.splitAt '_' rest.toList).map String.ofList
  .nested top steps.dropLast (steps.getLast?.getD "")

/-- The slot that a name stands for. -/
def ofName (name : String) : Slot :=
  match Text.cutAt '_' name.toList with
  | (top, some (c :: rest)) =>
    let top := String.ofList top
    let rest := String.ofList (c :: rest)
    if top = frameworkSection then
      if frameworkFields.contains rest then .field rest
      else
        match memberOf? rest with
        | some (group, name) => .member group name
        | none => below top rest
    else below top rest
  | (top, _) => .whole (String.ofList top)

end Slot

/-! ## Values -/

/-- The name of a setting of the framework, without its section. -/
def frameworkField? (name : String) : Option String :=
  match Text.dropLead? (frameworkSection.toList ++ ['_']) name.toList with
  | some rest =>
    let rest := String.ofList rest
    if frameworkFields.contains rest then some rest else none
  | none => none

/-- The parts of a text between commas, trimmed, without empty ones. -/
def listed (text : String) : List String :=
  ((Text.splitAt ',' text.toList).map fun part => Text.trim (String.ofList part)).filter (· != "")

/-- The value of a variable. The framework's own settings are texts, the search roots a list of texts;
elsewhere truth values and whole numbers are read as such. -/
def valueOf (name text : String) : Value :=
  match frameworkField? name with
  | some "plugin_search_paths" => .list ((listed text).map .str)
  | some _ => .str text
  | none =>
    if Text.lower text = "true" then .bool true
    else if Text.lower text = "false" then .bool false
    else
      match Text.readInt 10 text with
      | .ok i => .int i
      | .error _ => .str text

/-! ## Placing values -/

/-- The fault of putting something into what is no mapping. -/
def notAssignable (v : Value) : Fault :=
  .badKind s!"'{v.kindName}' object does not support item assignment"

/-- The fault of looking for something in what is no mapping. -/
def lacks (name : String) (v : Value) : Fault :=
  .noAttribute s!"'{v.kindName}' object has no attribute '{name}'"

/-- Change the mapping under a key, an empty one if there is none. What is no mapping is at fault. -/
def within (entries : Entries) (key : String) (fault : Value → Fault)
    (change : Entries → Except Fault Entries) : Except Fault Entries := do
  let inner ←
    match Fields.find? entries key with
    | none => pure []
    | some (.map inner) => pure inner
    | some v => throw (fault v)
  return Fields.put entries (.str key) (.map (← change inner))

/-- Put a value at the end of some steps. A step to what is no mapping replaces it. -/
def putBelow (entries : Entries) (steps : List String) (last : String) (v : Value) : Entries :=
  match steps with
  | [] => Fields.put entries (.str last) v
  | step :: rest =>
    let inner := match Fields.find? entries step with
      | some (.map inner) => inner
      | _ => []
    Fields.put entries (.str step) (.map (putBelow inner rest last v))

/-- Put a value into a slot. -/
def place (entries : Entries) (slot : Slot) (v : Value) : Except Fault Entries :=
  match slot with
  | .whole name => .ok (Fields.put entries (.str name) v)
  | .field name =>
    within entries frameworkSection notAssignable fun inner => .ok (Fields.put inner (.str name) v)
  | .member group name =>
    within entries frameworkSection (lacks "setdefault") fun inner =>
      within inner group notAssignable fun members => .ok (Fields.put members (.str name) v)
  | .nested top steps last =>
    within entries top (if steps.isEmpty then notAssignable else lacks "get") fun inner =>
      .ok (putBelow inner steps last v)

/-- What follows the lead in the name of a variable, in lower case. -/
def nameAfter? (lead variable_ : String) : Option String :=
  (Text.dropLead? (Text.upper lead).toList variable_.toList).map fun rest =>
    Text.lower (String.ofList rest)

/-- The settings that the environment holds, one variable put after the other. -/
def read (lead : String) (environment : Environment) : Except Fault Entries :=
  environment.foldlM (fun entries (variable_, text) =>
    match nameAfter? lead variable_ with
    | some name => place entries (Slot.ofName name) (valueOf name text)
    | none => .ok entries) []

/-! ## Warnings -/

/-- The names of variables that are settings of the framework. -/
def knownNames : List String :=
  frameworkFields.map (s!"framework_{·}")
    ++ ["level", "format", "output", "file_path"].map (s!"framework_logging_config_{·}")

/-- Warnings of variables that have the lead and are no known setting. -/
def warnings (lead : String) (environment : Environment) : List String :=
  environment.filterMap fun (variable_, _) =>
    match nameAfter? lead variable_ with
    | some name =>
      if knownNames.contains name || Text.hasLead "framework_validators_" name then none
      else some s!"Unknown environment variable: {variable_}"
    | none => none

end Environment

end PluginDescriptor
