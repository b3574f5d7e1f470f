import PluginDescriptor.Descriptor.Draft
import PluginDescriptor.Value.Collection

/-!
# Drafting a descriptor

The primitives read a draft and write into it as they go, and what they have written stays when they
fail afterwards. A call is a primitive as its callers meet it: one that declares an entity hands out its
name, and arguments and results are declared under a name that was handed out.
-/

set_option autoImplicit false

namespace PluginDescriptor

/-- A computation on a draft: whether it succeeds or fails, it leaves a draft behind. -/
structure Drafting (α : Type) where
  run : Draft → Draft × Except Failure α

namespace Drafting

variable {α β : Type}

/-- Go on with the value of a computation, on the draft that it leaves. -/
def andThen (x : Drafting α) (f : α → Drafting β) : Drafting β where
  run d :=
    match x.run d with
    | (after, .ok a) => (f a).run after
    | (after, .error failure) => (after, .error failure)

instance : Monad Drafting where
  pure a := { run := fun d => (d, .ok a) }
  bind := andThen

/-- Ask the draft for something that it may refuse. -/
def ask (question : Draft → Except Failure α) : Drafting α where
  run d := (d, question d)

/-- Fail if there is a problem. -/
def refuse (problem? : Draft → Option Problem) : Drafting Unit :=
  ask fun d =>
    match problem? d with
    | some problem => d.fail problem
    | none => .ok ()

/-- Change the draft. -/
def write (change : Draft → Draft) : Drafting Unit where
  run d := (change d, .ok ())

/-! ## The primitives -/

/-- Declare the metadata. -/
def metadata (fields : Entries) : Drafting Unit := do
  refuse fun d => if d.metadata.isSome then some .metadataRepeated else none
  refuse fun _ => (Draft.lacking? fields metadataKeys).map .metadataLacks
  let timeout := (fields.find? "timeout").getD .null
  refuse fun _ => if Draft.isNumber timeout then none else some (.badTimeout timeout)
  write fun d => { d with metadata := some fields }

/-- Note requirements one by one. -/
def noteRequirements : Entries → Drafting Unit
  | [] => return ()
  | (kind, version) :: rest => do
    refuse fun _ => if kind != .str hostRequirement then some (.unknownRequirement kind) else none
    let minimum ← ask (·.statedMinimum version)
    write fun d => { d with minimum := some minimum }
    noteRequirements rest

/-- Declare requirements, and check the host against them. -/
def requires (requirements : Entries) : Drafting Unit := do
  noteRequirements requirements
  ask Draft.checkRequirements

/-- Declare an action, or name it again. -/
def action (properties : Entries) : Drafting String := do
  let name ← ask (·.actionName properties)
  let description ← ask (·.actionDescription name properties)
  let display ← ask (·.actionDisplay name properties)
  write (·.activate name .action description display)
  return name

/-- Declare the query, or name it again. -/
def dataquery (properties : Entries) : Drafting String := do
  let given := properties.find? "description"
  refuse fun _ => if given.isNone then some .queryUndescribed else none
  write (·.activate queryName .query (given.getD .null) .always)
  return queryName

/-- Declare something of an entity under a name, which has to be usable as a key. -/
def declareUnder (entity : Option String) (role : Role) (argument : Value)
    (specOf : Draft → String → Except Failure α) (put : α → Entity → Entity) : Drafting α := do
  let name ← ask (·.activeEntity entity role argument)
  let spec ← ask (specOf · name)
  let _ ← ask fun _ => Failure.ofFault argument.asKey
  write (·.updateEntity name (put spec))
  return spec

/-- Declare an argument. -/
def input (entity : Option String) (argument : Value) (properties : Entries) : Drafting InputSpec :=
  declareUnder entity .input argument (fun d name => d.inputSpec name argument properties)
    fun spec e => { e with inputs := e.inputs.put argument spec }

/-- Declare a field of results. -/
def output (entity : Option String) (argument : Value) (properties : Entries) :
    Drafting OutputSpec :=
  declareUnder entity .output argument (fun d name => d.outputSpec name argument properties)
    fun spec e => { e with outputs := e.outputs.put argument spec }

/-- Declare how the plugin is used. -/
def usage (text : String) : Drafting Unit := write (·.declareUsage text)

/-- Build the registry of what is declared. -/
def build : Drafting Registry := ask Draft.build

/-- The draft that a computation leaves and its value, if it succeeds. -/
def result (x : Drafting α) (d : Draft) : Except Failure (Draft × α) :=
  match x.run d with
  | (after, .ok a) => .ok (after, a)
  | (_, .error failure) => .error failure

end Drafting

/-! ## The primitives as changes of a draft -/

namespace Draft

/-- Declare the metadata. -/
def declareMetadata (d : Draft) (fields : Entries) : Except Failure Draft :=
  ((Drafting.metadata fields).result d).map (·.1)

/-- Note requirements one by one, up to the first that is not acceptable. -/
def noteRequirements (d : Draft) (requirements : Entries) : Draft × Except Failure Unit :=
  (Drafting.noteRequirements requirements).run d

/-- Declare requirements, and check the host against them. -/
def declareRequirements (d : Draft) (requirements : Entries) : Draft × Except Failure Unit :=
  (Drafting.requires requirements).run d

/-- Declare an action, and give its name back. -/
def declareAction (d : Draft) (properties : Entries) : Except Failure (Draft × String) :=
  (Drafting.action properties).result d

/-- Declare the query, and give its name back. -/
def declareQuery (d : Draft) (properties : Entries) : Except Failure (Draft × String) :=
  (Drafting.dataquery properties).result d

/-- Declare an argument of an entity, in the place of one of the same name. -/
def declareInput (d : Draft) (entity : Option String) (argument : Value) (properties : Entries) :
    Except Failure (Draft × InputSpec) :=
  (Drafting.input entity argument properties).result d

/-- Declare a field of an entity's results, in the place of one of the same name. -/
def declareOutput (d : Draft) (entity : Option String) (argument : Value) (properties : Entries) :
    Except Failure (Draft × OutputSpec) :=
  (Drafting.output entity argument properties).result d

end Draft

/-! ## Calls -/

/-- A call on a draft. -/
inductive Call where
  | metadata (fields : Entries)
  | requires (requirements : Entries)
  | checkRequirements
  | usage (text : String)
  | action (properties : Entries)
  | dataquery (properties : Entries)
  | input (entity : Option String) (argument : Value) (properties : Entries)
  | output (entity : Option String) (argument : Value) (properties : Entries)
  | build
  deriving Repr

namespace Call

/-- What a call does. One that declares an entity hands out its name. -/
def perform : Call → Drafting (Option String)
  | metadata fields => do
    Drafting.metadata fields
    return none
  | requires requirements => do
    Drafting.requires requirements
    return none
  | checkRequirements => do
    Drafting.ask Draft.checkRequirements
    return none
  | usage text => do
    Drafting.usage text
    return none
  | action properties => do return some (← Drafting.action properties)
  | dataquery properties => do return some (← Drafting.dataquery properties)
  | input entity argument properties => do
    let _ ← Drafting.input entity argument properties
    return none
  | output entity argument properties => do
    let _ ← Drafting.output entity argument properties
    return none
  | build => do
    let _ ← Drafting.build
    return none

/-- The draft that a call leaves. -/
def after (d : Draft) (c : Call) : Draft := (c.perform.run d).1

/-- How a call ends. -/
def outcome (d : Draft) (c : Call) : Except Failure (Option String) := (c.perform.run d).2

/-- The draft that calls leave, those that fail passed over. -/
def afterAll (d : Draft) (calls : List Call) : Draft := calls.foldl after d

end Call

end PluginDescriptor
