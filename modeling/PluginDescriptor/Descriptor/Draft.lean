import PluginDescriptor.Error.Failure
import PluginDescriptor.Text.Blank
import PluginDescriptor.Version.Order

/-!
# Drafts

A draft collects what the primitives of a descriptor declare, and is then built into a registry. What
the primitives ask of the properties that they are given, and what they change in the draft, is
here; how they go about it is in `Drafting`. Entities are declared once and may be named again later.
-/

set_option autoImplicit false

namespace PluginDescriptor

/-- What has been declared so far. -/
structure Draft where
  subject : Subject
  /-- The version of the host. -/
  host : String
  metadata : Option Entries
  /-- The least version of the host that is required. -/
  minimum : Option String
  entities : List Entity
  usage : String
  deriving Repr, BEq, Inhabited

namespace Draft

/-- A draft in which nothing is declared. -/
def empty (subject : Subject) (host : String) : Draft :=
  { subject, host, metadata := none, minimum := none, entities := [], usage := "" }

/-- The failure of a primitive. -/
def fail {α : Type} (d : Draft) (problem : Problem) : Except Failure α :=
  .error (.ofProblem problem (some d.subject))

/-- The first of these keys that the entries lack. -/
def lacking? (entries : Entries) (keys : List String) : Option String :=
  keys.find? fun key => (entries.find? key).isNone

/-- A number that is no truth value. -/
def isNumber : Value → Bool
  | .int _ => true
  | .float _ => true
  | _ => false

/-! ## Metadata and requirements -/

/-- The version that requirements state. -/
def statedMinimum (d : Draft) (version : Value) : Except Failure String :=
  match version with
  | .str s => if (Text.trim s).isEmpty then d.fail (.badMinimum version) else .ok s
  | _ => d.fail (.badMinimum version)

/-- A requirement is not checked, because the host is a development build. -/
def skipsRequirements (d : Draft) : Bool := d.minimum.isSome && Version.isDevelopment d.host

/-- Check the host against what is required of it. -/
def checkRequirements (d : Draft) : Except Failure Unit := do
  match d.minimum with
  | none => return ()
  | some minimum =>
    if Version.isDevelopment d.host then return ()
    else if (← Failure.ofFault (Version.order d.host minimum)) = .lt then
      d.fail (.hostTooOld minimum d.host)

/-- Declare how the plugin is used. -/
def declareUsage (d : Draft) (text : String) : Draft := { d with usage := text }

/-! ## Entities -/

/-- The entity with a name. -/
def entity? (d : Draft) (name : String) : Option Entity := d.entities.find? (·.name = name)

/-- Declare an entity, unless there is one of the name. -/
def activate (d : Draft) (name : String) (kind : EntityKind) (description : Value) (display : Display) :
    Draft :=
  if (d.entity? name).isSome then d
  else
    { d with entities :=
        d.entities ++ [{ name, kind, description, display, inputs := [], outputs := [] }] }

/-- The name of an action. -/
def actionName (d : Draft) (properties : Entries) : Except Failure String :=
  match properties.find? "name" with
  | some (.str name) => if name.isEmpty then d.fail .actionUnnamed else .ok name
  | _ => d.fail .actionUnnamed

/-- The description of an action. -/
def actionDescription (d : Draft) (name : String) (properties : Entries) : Except Failure Value :=
  match properties.find? "description" with
  | some description => .ok description
  | none => d.fail (.actionUndescribed name)

/-- When the results of an action are shown: on failure, unless it says otherwise. -/
def actionDisplay (d : Draft) (name : String) (properties : Entries) : Except Failure Display :=
  let given := (properties.find? "display").getD (.str Display.failed.text)
  match Display.ofValue? given with
  | some display => .ok display
  | none => d.fail (.badDisplay name given)

/-! ## Arguments and results -/

/-- The properties that every argument has. -/
def inputKeys : List String := ["prompt", "description", "type"]

/-- The properties that every text argument has besides. -/
def textInputKeys : List InputProperty := [.validation, .maxlength]

/-- The properties that every field of results has. -/
def outputKeys : List String := ["description", "display_as"]

/-- The properties of arguments that have a meaning here; all others are extra. -/
def knownInputKeys : List String :=
  inputKeys ++ textInputKeys.map InputProperty.text ++ ["default", "optional", "list"]

/-- The entity that fields are declared under. -/
def activeEntity (d : Draft) (entity : Option String) (role : Role) (argument : Value) :
    Except Failure String :=
  match entity with
  | some name => .ok name
  | none => d.fail (.noEntity role argument)

/-- The type of an argument. -/
def inputType (d : Draft) (entity : String) (argument : Value) (properties : Entries) :
    Except Failure String :=
  match (properties.find? InputProperty.type.text).getD .null with
  | .str type => .ok type
  | other => d.fail (.badInput entity argument .type other)

/-- Whether an argument may be left out. -/
def inputOptional (d : Draft) (entity : String) (argument : Value) (properties : Entries) :
    Except Failure Bool :=
  match (properties.find? InputProperty.optional.text).getD .null with
  | .null => .ok false
  | .bool b => .ok b
  | other => d.fail (.badInput entity argument .optional other)

/-- The pattern of a text argument, or the name of a validator. -/
def textValidation (d : Draft) (entity : String) (argument : Value) (properties : Entries) :
    Except Failure String :=
  match (properties.find? InputProperty.validation.text).getD .null with
  | .str pattern => .ok pattern
  | other => d.fail (.badInput entity argument .validation other)

/-- The most characters of a text argument. -/
def textMaxlength (d : Draft) (entity : String) (argument : Value) (properties : Entries) :
    Except Failure Int :=
  match (properties.find? InputProperty.maxlength.text).getD .null with
  | .int most =>
    if most < 0 then d.fail (.badInput entity argument .maxlength (.int most)) else .ok most
  | other => d.fail (.badInput entity argument .maxlength other)

/-- A pattern or the name of a validator, and the most characters: what text arguments declare. -/
def textInput (d : Draft) (entity : String) (argument : Value) (properties : Entries) :
    Except Failure (String × Int) :=
  match textInputKeys.find? fun key => (properties.find? key.text).isNone with
  | some key => d.fail (.textInputLacks entity argument key)
  | none => do
    let validation ← d.textValidation entity argument properties
    let maxlength ← d.textMaxlength entity argument properties
    return (validation, maxlength)

/-- What can be chosen: what choice arguments declare. -/
def choiceInput (d : Draft) (entity : String) (argument : Value) (properties : Entries) :
    Except Failure (List Value) :=
  match properties.find? InputProperty.list.text with
  | none => d.fail (.choiceInputLacks entity argument)
  | some (.list items) => .ok items
  | some other => d.fail (.badInput entity argument .list other)

/-- The properties that are extra. -/
def extraProperties (properties : Entries) : Entries :=
  properties.filter fun (key, _) =>
    match key with
    | .str s => !knownInputKeys.contains s
    | _ => true

/-- What an argument of some type declares besides what every argument does. -/
def typedInput (d : Draft) (entity : String) (properties : Entries) (plain : InputSpec) :
    Except Failure InputSpec :=
  if plain.type = "string" then do
    let (validation, maxlength) ← d.textInput entity plain.name properties
    return { plain with validation := some validation, maxlength := some maxlength }
  else if plain.type = "list" then do
    return { plain with allowed := some (← d.choiceInput entity plain.name properties) }
  else .ok plain

/-- The argument that properties declare under an entity. -/
def inputSpec (d : Draft) (entity : String) (argument : Value) (properties : Entries) :
    Except Failure InputSpec :=
  match lacking? properties inputKeys with
  | some key => d.fail (.inputLacks entity argument key)
  | none => do
    let property (key : String) : Value := (properties.find? key).getD .null
    let type ← d.inputType entity argument properties
    let optional ← d.inputOptional entity argument properties
    d.typedInput entity properties
      { name := argument, prompt := property "prompt", description := property "description", type,
        default := property "default", optional, validation := none, maxlength := none,
        allowed := none, extra := Value.freezeEntries (extraProperties properties) }

/-- The field of results that properties declare under an entity. -/
def outputSpec (d : Draft) (entity : String) (argument : Value) (properties : Entries) :
    Except Failure OutputSpec :=
  match lacking? properties outputKeys with
  | some key => d.fail (.outputLacks entity argument key)
  | none =>
    let property (key : String) : Value := (properties.find? key).getD .null
    .ok { name := argument, description := property "description",
          displayAs := property "display_as", default := property "default" }

/-- Change the entity with a name. -/
def updateEntity (d : Draft) (name : String) (f : Entity → Entity) : Draft :=
  { d with entities := d.entities.map fun e => if e.name = name then f e else e }

/-! ## Building -/

/-- The registry of what is declared. -/
def build (d : Draft) : Except Failure Registry :=
  match d.metadata with
  | none => d.fail .noMetadata
  | some fields =>
    .ok {
      pluginName := d.subject.name
      pluginKind := d.subject.kind
      path := d.subject.path
      metadata := Value.freezeEntries fields
      minimum := d.minimum
      entities := d.entities
      usage := d.usage }

end Draft

end PluginDescriptor
