import PluginDescriptor.Descriptor.Drafting
import PluginDescriptor.Descriptor.Shape
import PluginDescriptor.Log.Notice
import PluginDescriptor.Yaml.Document

/-!
# Executing a descriptor

A descriptor's text is read as YAML and checked for its shape as a whole; then its steps run in order,
up to the first that fails. Inputs and outputs belong to the entity that was named last.
-/

set_option autoImplicit false

namespace PluginDescriptor

namespace Execution

/-- The logger of executions. -/
def logger : String := "polaris_ddl.framework.descriptors.interpreter"

/-- What has been declared, and the name of the entity named last. -/
structure State where
  draft : Draft
  current : Option String
  deriving Repr, Inhabited

namespace State

/-- Nothing is declared. -/
def start (subject : Subject) (host : String) : State :=
  { draft := Draft.empty subject host, current := none }

/-- Declare an argument of the entity named last. -/
def declareInput (s : State) (argument : String × Entries) : Except Failure State := do
  let (draft, _) ← s.draft.declareInput s.current (.str argument.1) argument.2
  return { s with draft }

/-- Declare a field of the results of the entity named last. -/
def declareOutput (s : State) (argument : String × Entries) : Except Failure State := do
  let (draft, _) ← s.draft.declareOutput s.current (.str argument.1) argument.2
  return { s with draft }

end State

/-- The effect of a step. -/
def perform (s : State) : Step → Except Failure State
  | .metadata fields => do return { s with draft := ← s.draft.declareMetadata fields }
  | .requires requirements =>
    let (draft, outcome) := s.draft.declareRequirements requirements
    outcome.map fun _ => { s with draft }
  | .usage text => .ok { s with draft := s.draft.declareUsage text }
  | .action properties => do
    let (draft, name) ← s.draft.declareAction properties
    return { draft, current := some name }
  | .dataquery properties => do
    let (draft, name) ← s.draft.declareQuery properties
    return { draft, current := some name }
  | .input arguments => arguments.foldlM State.declareInput s
  | .output arguments => arguments.foldlM State.declareOutput s

/-- The notice that a requirement was not checked. -/
def skippedNotice (minimum : String) : Notice :=
  { level := .warning, logger,
    message := "Descriptor requirements validation being skipped in development",
    extra := Entries.ofFields [
      ("code", .str Code.requirementsSkippedInDevelopment.text), ("required_version", .str minimum)] }

/-- The notice of checking the requirements of a draft. -/
def requirementNotices (d : Draft) : List Notice :=
  if d.skipsRequirements then [skippedNotice (d.minimum.getD "")] else []

/-- The notices of declaring requirements. -/
def requiresNotices (d : Draft) (requirements : Entries) : List Notice :=
  match d.noteRequirements requirements with
  | (noted, .ok ()) => requirementNotices noted
  | _ => []

/-- The notices of a step. -/
def stepNotices (s : State) (step : Step) : List Notice :=
  let running : Notice :=
    { level := .debug, logger, message := s!"Running descriptor primitive '{step.primitive.text}'" }
  match step with
  | .requires requirements => running :: requiresNotices s.draft requirements
  | _ => [running]

/-- Run a step. -/
def runStep (s : State) (step : Step) : Logged State :=
  { notices := stepNotices s step, outcome := perform s step }

/-- Run steps in order. -/
def runSteps (s : State) : List Step → Logged State
  | [] => return s
  | step :: rest => do runSteps (← runStep s step) rest

/-- The failure of a document that has not the shape of a descriptor. All misfits are written out
before one is reported. -/
def misfitFailure (subject : Subject) (document : Value) (problem : Problem) : Failure :=
  if (Shape.shown document).all Value.isWritable then .descriptor problem (some subject)
  else .fault .numberTooLong

/-- The steps of a document, once it has the shape of a descriptor. -/
def stepsOf (subject : Subject) (document : Value) : Except Failure (List Step) :=
  match Shape.check document with
  | .ok steps => .ok (steps.filterMap Step.ofValue?)
  | .error problem => .error (misfitFailure subject document problem)

/-- The registry that a document declares. -/
def executeDocument (subject : Subject) (host : String) (document : Value) : Logged Registry := do
  let steps ← Logged.of (stepsOf subject document)
  let final ← runSteps (State.start subject host) steps
  Logged.of final.draft.build

/-- The document that a text holds. -/
def readDocument (subject : Subject) (source : String) : Except Failure Value :=
  match Value.ofYaml source with
  | .ok document => .ok document
  | .error .notYaml => .error (.descriptor (.notYaml .notYaml) (some subject))
  | .error fault => .error (.fault fault)

/-- The registry that a text declares. -/
def execute (subject : Subject) (host source : String) : Logged Registry := do
  let document ← Logged.of (readDocument subject source)
  executeDocument subject host document

end Execution

end PluginDescriptor
