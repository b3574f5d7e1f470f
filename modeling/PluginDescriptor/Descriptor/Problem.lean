import PluginDescriptor.Descriptor.Model
import PluginDescriptor.Error.Report
import PluginDescriptor.Text.Case

/-!
# What can be wrong with a descriptor

Each cause for which a descriptor or a request is refused, with its message, its code, and the facts
that its report states.
-/

set_option autoImplicit false

namespace PluginDescriptor

/-- The two kinds of declared fields. -/
inductive Role where
  | input
  | output
  deriving Repr, DecidableEq, Inhabited

/-- The name of a kind of fields. -/
def Role.text : Role → String
  | .input => "input"
  | .output => "output"

/-- The primitives that the steps of a descriptor run. -/
inductive Primitive where
  | metadata
  | requires
  | usage
  | action
  | dataquery
  | input
  | output
  deriving Repr, DecidableEq, Inhabited

namespace Primitive

/-- All primitives. -/
def all : List Primitive := [metadata, requires, usage, action, dataquery, input, output]

/-- The key of a primitive. -/
def text : Primitive → String
  | metadata => "metadata"
  | requires => "requires"
  | usage => "usage"
  | action => "action"
  | dataquery => "dataquery"
  | input => "input"
  | output => "output"

/-- The primitive with a key. -/
def ofText? (s : String) : Option Primitive := all.find? (·.text == s)

end Primitive

/-- The properties of arguments whose values are checked. -/
inductive InputProperty where
  | type
  | optional
  | validation
  | maxlength
  | list
  deriving Repr, DecidableEq, Inhabited

namespace InputProperty

/-- The key of a property. -/
def text : InputProperty → String
  | type => "type"
  | optional => "optional"
  | validation => "validation"
  | maxlength => "maxlength"
  | list => "list"

/-- What the value of a property should be. -/
def expectation : InputProperty → String
  | type => "a type name"
  | optional => "true or false"
  | validation => "a pattern or validator name"
  | maxlength => "a non-negative integer"
  | list => "a list of values"

end InputProperty

/-- What an error is about: a kind and name of a plugin, and the path of its descriptor. -/
structure Subject where
  kind : String
  name : String
  path : Option String
  deriving Repr, DecidableEq, Inhabited

/-- Why a descriptor or a request is refused. -/
inductive Problem where
  | notYaml (fault : Fault)
  | notText (fault : Fault)
  | unreadable (fault : Fault)
  | notFound (roots : List String)
  | badShape (location text : String)
  | metadataRepeated
  | metadataLacks (key : String)
  | badTimeout (given : Value)
  | noMetadata
  | unknownRequirement (kind : Value)
  | badMinimum (given : Value)
  | hostTooOld (minimum host : String)
  | actionUnnamed
  | actionUndescribed (name : String)
  | badDisplay (name : String) (given : Value)
  | queryUndescribed
  | noEntity (role : Role) (argument : Value)
  | inputLacks (entity : String) (argument : Value) (key : String)
  | textInputLacks (entity : String) (argument : Value) (property : InputProperty)
  | choiceInputLacks (entity : String) (argument : Value)
  | badInput (entity : String) (argument : Value) (property : InputProperty) (given : Value)
  | outputLacks (entity : String) (argument : Value) (key : String)
  | unknownEntity (name : String) (known : List String)
  | missingInput (entity : String) (argument : Value)
  | refusedInput (entity : String) (argument : Value) (text : String)
  deriving Repr, BEq, Inhabited

namespace Problem

/-- The class of the error. -/
def errorClass : Problem → ErrorClass
  | unreadable _ | notFound _ => .notFound
  | unknownRequirement _ => .requirement
  | hostTooOld _ _ => .versionTooOld
  | unknownEntity _ _ => .descriptor
  | missingInput _ _ | refusedInput _ _ _ => .argument
  | _ => .malformed

/-- The code of the error. -/
def code : Problem → Code
  | notYaml _ | notText _ => .invalidDescriptorSyntax
  | unreadable _ | notFound _ => .descriptorNotFound
  | badShape _ _ => .invalidDescriptorStructure
  | metadataRepeated => .metadataAlreadySet
  | metadataLacks _ => .missingMetadataKey
  | badTimeout _ => .invalidMetadataValue
  | noMetadata => .missingMetadata
  | unknownRequirement _ => .unsupportedRequirement
  | badMinimum _ => .invalidRequirementValue
  | hostTooOld _ _ => .versionTooOld
  | actionUnnamed | actionUndescribed _ | queryUndescribed => .missingEntityProperty
  | badDisplay _ _ => .invalidEntityProperty
  | noEntity _ _ => .noActiveEntity
  | inputLacks _ _ _ | textInputLacks _ _ _ | choiceInputLacks _ _ => .missingInputProperty
  | badInput _ _ _ _ => .invalidInputProperty
  | outputLacks _ _ _ => .missingOutputProperty
  | unknownEntity _ _ => .unknownEntity
  | missingInput _ _ => .missingRequiredInput
  | refusedInput _ _ _ => .inputValidationFailed

/-- The message of the error about a subject. -/
def message (about : Subject) : Problem → String
  | notYaml fault => s!"Invalid YAML in descriptor: {fault.message}"
  | notText _ => let path := about.path.getD ""; s!"Descriptor {path} is not valid UTF-8 text"
  | unreadable fault =>
    let path := about.path.getD ""
    s!"Cannot read descriptor for {about.kind} plugin '{about.name}' at {path}: {fault.message}"
  | notFound _ => s!"Can't find descriptor for {about.kind} plugin '{about.name}'"
  | badShape location text => s!"Invalid descriptor structure at {location}: {text}"
  | metadataRepeated => "Metadata has already been set"
  | metadataLacks key => s!"Metadata needs a '{key}' property"
  | badTimeout given => s!"Metadata 'timeout' should be a number, got {given.expression}"
  | noMetadata =>
    s!"Descriptor for {about.kind} plugin '{about.name}' does not declare metadata"
  | unknownRequirement kind =>
    s!"Requirement '{kind.text}' is not a valid requirement, only {hostRequirement} is supported"
  | badMinimum given =>
    s!"Requirement '{hostRequirement}' should be a version string, got {given.expression}; quote the version, e.g. {hostRequirement}: '1.10'"
  | hostTooOld minimum _ =>
    let kind := Text.capitalize about.kind
    s!"{kind} plugin '{about.name}' requires platform version {minimum} or newer"
  | actionUnnamed => "Action needs a 'name' property"
  | actionUndescribed name => s!"Action '{name}' needs a 'description' property"
  | badDisplay name given =>
    s!"Action '{name}' has an invalid display policy {given.expression}, expected one of ok, failed, always"
  | queryUndescribed => "Data query needs a 'description' property"
  | noEntity role argument =>
    s!"Cannot determine what entity {role.text} '{argument.text}' belongs to"
  | inputLacks _ argument key => s!"Input '{argument.text}' needs a '{key}' property"
  | textInputLacks _ _ property => s!"Input type string needs a '{property.text}' property"
  | choiceInputLacks _ _ => "Input type list needs a 'list' property"
  | badInput _ argument property given =>
    s!"Input '{argument.text}' property '{property.text}' should be {property.expectation}, got {given.expression}"
  | outputLacks _ argument key => s!"Output '{argument.text}' needs a '{key}' property"
  | unknownEntity name _ =>
    let kind := Text.capitalize about.kind
    s!"{kind} plugin '{about.name}' has no entity '{name}'"
  | missingInput entity argument => s!"{entity} action needs a '{argument.text}' argument"
  | refusedInput _ argument text => s!"Cannot validate input '{argument.text}': {text}"

/-- The values that the message of the error shows. -/
def shown : Problem → List Value
  | badTimeout given | badMinimum given | badDisplay _ given => [given]
  | unknownRequirement kind => [kind]
  | noEntity _ argument | inputLacks _ argument _ | outputLacks _ argument _ => [argument]
  | badInput _ argument _ given => [argument, given]
  | missingInput _ argument | refusedInput _ argument _ => [argument]
  | _ => []

/-- The fault behind the error. -/
def cause : Problem → Option Fault
  | notYaml fault | notText fault | unreadable fault => some fault
  | _ => none

/-- The facts that the error's own kind adds in front of all others. -/
def given (about : Subject) : Problem → Entries
  | unreadable _ => Entries.ofFields [("path", .ofText? about.path)]
  | badShape location _ =>
    Entries.ofFields [
      ("location", .str location),
      ("primitives", .list (Primitive.all.map fun p => .str p.text))]
  | unknownEntity name known =>
    Entries.ofFields [("entity", .str name), ("known_entities", .list (known.map .str))]
  | refusedInput _ _ text => Entries.ofFields [("cause", .str text)]
  | _ => []

/-- The facts that the error states. -/
def facts : Problem → Facts
  | notFound roots => { searchRoots := .list (roots.map .str) }
  | metadataLacks key => { property := .str key }
  | badTimeout _ => { property := .str "timeout" }
  | unknownRequirement kind => { requirement := .str kind.text }
  | badMinimum _ => { property := .str hostRequirement }
  | hostTooOld minimum host => { requiredVersion := .str minimum, platformVersion := .str host }
  | actionUnnamed => { property := .str "name" }
  | actionUndescribed name => { entity := .str name, property := .str "description" }
  | badDisplay name _ => { entity := .str name, property := .str "display" }
  | queryUndescribed => { entity := .str queryName, property := .str "description" }
  | noEntity _ argument => { argument }
  | inputLacks entity argument key => { entity := .str entity, argument, property := .str key }
  | textInputLacks entity argument property =>
    { entity := .str entity, argument, property := .str property.text }
  | choiceInputLacks entity argument =>
    { entity := .str entity, argument, property := .str InputProperty.list.text }
  | badInput entity argument property _ =>
    { entity := .str entity, argument, property := .str property.text }
  | outputLacks entity argument key => { entity := .str entity, argument, property := .str key }
  | missingInput entity argument => { entity := .str entity, argument }
  | refusedInput entity argument _ => { entity := .str entity, argument }
  | _ => {}

/-- The report of the error about a subject, or about no plugin in particular. -/
def report (problem : Problem) (about : Option Subject) : Report :=
  let subject := about.getD { kind := "", name := "", path := none }
  let facts := { problem.facts with
    path := .ofText? subject.path
    pluginKind := .str subject.kind
    pluginName := .str subject.name }
  let plain := Report.ofFacts problem.errorClass (problem.message subject) problem.code.text
    (problem.given subject) facts problem.cause
  match problem, about with
  | refusedInput _ _ _, some _ =>
    -- a refused argument of a plugin names it even when kind or name is empty
    { plain with context := plain.context.putAll (Entries.ofFields facts.plugin) }
  | _, _ => plain

end Problem

end PluginDescriptor
