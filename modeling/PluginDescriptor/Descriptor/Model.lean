import PluginDescriptor.Value.Frozen
import PluginDescriptor.Value.Text

/-!
# Plugin descriptors

What a descriptor declares about a plugin: its metadata, what it requires of its host, its entities
with their inputs and outputs, and how to use it. The metadata and the extra properties of arguments
are read-only at all depths.
-/

set_option autoImplicit false

namespace PluginDescriptor

/-- The keys that every descriptor's metadata has. -/
def metadataKeys : List String :=
  ["name", "description", "author", "license", "version", "url", "timeout"]

/-- The only thing that a descriptor can require: a version of its host. -/
def hostRequirement : String := "platform-version"

/-- When the results of an action are shown. -/
inductive Display where
  | ok
  | failed
  | always
  deriving Repr, DecidableEq, Inhabited

namespace Display

/-- The name of a policy. -/
def text : Display → String
  | ok => "ok"
  | failed => "failed"
  | always => "always"

/-- The policy that a value names. -/
def ofValue? : Value → Option Display
  | .str "ok" => some ok
  | .str "failed" => some failed
  | .str "always" => some always
  | _ => none

end Display

/-- The two kinds of entities. -/
inductive EntityKind where
  | action
  | query
  deriving Repr, DecidableEq, Inhabited

/-- The name of a kind of entity. -/
def EntityKind.text : EntityKind → String
  | .action => "action"
  | .query => "dataquery"

/-- The name of the only query that a descriptor can declare. -/
def queryName : String := "data"

/-- A declared argument. -/
structure InputSpec where
  name : Value
  prompt : Value
  description : Value
  /-- The name of a type of values. -/
  type : String
  default : Value
  optional : Bool
  /-- For texts: a pattern, or the name of a validator. -/
  validation : Option String
  /-- For texts: the most characters, 0 for any number. -/
  maxlength : Option Int
  /-- For choices: what can be chosen. -/
  allowed : Option (List Value)
  /-- What else is declared. -/
  extra : Entries
  deriving Repr, BEq, Inhabited

/-- A declared field of results. -/
structure OutputSpec where
  name : Value
  description : Value
  displayAs : Value
  default : Value
  deriving Repr, BEq, Inhabited

/-- An action or a query with its arguments and results, in the order of their declaration. -/
structure Entity where
  name : String
  kind : EntityKind
  description : Value
  display : Display
  /-- The arguments by their names. -/
  inputs : Fields InputSpec
  /-- The fields of results by their names. -/
  outputs : Fields OutputSpec
  deriving Repr, BEq, Inhabited

/-- What a descriptor declares about one plugin. -/
structure Registry where
  pluginName : String
  pluginKind : String
  path : Option String
  metadata : Entries
  /-- The least version of the host. -/
  minimum : Option String
  entities : List Entity
  usage : String
  deriving Repr, BEq, Inhabited

/-! ## Plain data -/

namespace InputSpec

/-- The argument has to be given. -/
def required (s : InputSpec) : Bool := !s.optional

/-- A whole number, or nothing. -/
def ofInt? : Option Int → Value
  | some i => .int i
  | none => .null

/-- The properties of an argument that depend on its type. -/
def typeFields (s : InputSpec) : Entries :=
  if s.type = "string" then
    Entries.ofFields [("validation", .ofText? s.validation), ("maxlength", ofInt? s.maxlength)]
  else if s.type = "list" then Entries.ofFields [("list", .list (s.allowed.getD []))]
  else []

/-- The properties of an argument: the extra ones first, then those that have a meaning here. -/
def toEntries (s : InputSpec) : Entries :=
  Entries.putAll (Value.thawEntries s.extra) <|
    Entries.ofFields [
      ("prompt", s.prompt),
      ("description", s.description),
      ("type", .str s.type),
      ("default", s.default),
      ("optional", .bool s.optional)] ++ s.typeFields

end InputSpec

/-- The properties of a field of results. -/
def OutputSpec.toEntries (s : OutputSpec) : Entries :=
  Entries.ofFields [
    ("description", s.description), ("display_as", s.displayAs), ("default", s.default)]

namespace Entity

/-- The names of the arguments that have to be given. -/
def requiredInputs (e : Entity) : List Value := (e.inputs.filter (·.2.required)).map (·.1)

/-- The argument with a name. -/
def input? (e : Entity) (name : Value) : Option InputSpec := e.inputs.get? name

/-- The field of results with a name. -/
def output? (e : Entity) (name : Value) : Option OutputSpec := e.outputs.get? name

/-- An entity as plain data. -/
def toValue (e : Entity) : Value :=
  .record [
    ("name", .str e.name),
    ("kind", .str e.kind.text),
    ("description", e.description),
    ("display", .str e.display.text),
    ("input", .map (e.inputs.map fun (name, s) => (name, .map s.toEntries))),
    ("output", .map (e.outputs.map fun (name, s) => (name, .map s.toEntries)))]

end Entity

namespace Registry

/-- The entity with a name. -/
def entity? (r : Registry) (name : String) : Option Entity := r.entities.find? (·.name = name)

/-- There is an entity with the name. -/
def hasEntity (r : Registry) (name : String) : Bool := (r.entity? name).isSome

/-- The names of the entities. -/
def entityNames (r : Registry) : List String := r.entities.map (·.name)

/-- The requirements as entries. -/
def requirements (r : Registry) : Entries :=
  (r.minimum.map fun v => (Value.str hostRequirement, Value.str v)).toList

/-- A registry as plain data. -/
def toValue (r : Registry) : Value :=
  .record [
    ("plugin_name", .str r.pluginName),
    ("plugin_kind", .str r.pluginKind),
    ("path", .ofText? r.path),
    ("metadata", .map (Value.thawEntries r.metadata)),
    ("requirements", .map r.requirements),
    ("entities", .map (r.entities.map fun e => (.str e.name, e.toValue))),
    ("usage", .str r.usage)]

end Registry

end PluginDescriptor
