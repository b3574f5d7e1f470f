import PluginDescriptor.Log.Notice

/-!
# Log contexts

Three variables tell where a record comes from: the run that it belongs to, and the kind and the name
of the plugin that it is about. A block of work sets those that it knows, and at its end, however it
ends, it gives each of them back what it held before.
-/

set_option autoImplicit false

namespace PluginDescriptor

/-- The variables. -/
inductive LogVariable where
  | run
  | kind
  | name
  deriving Repr, DecidableEq, Inhabited

/-- What the variables hold at a place. -/
structure LogContext where
  run : Option String := none
  kind : Option String := none
  name : Option String := none
  deriving Repr, DecidableEq, Inhabited

/-- What a variable held before it was set. -/
structure LogToken where
  of : LogVariable
  before : Option String
  deriving Repr, DecidableEq, Inhabited

namespace LogContext

/-- What a variable holds. -/
def get (c : LogContext) : LogVariable → Option String
  | .run => c.run
  | .kind => c.kind
  | .name => c.name

/-- Let a variable hold something. -/
def put (c : LogContext) (x : LogVariable) (value : Option String) : LogContext :=
  match x with
  | .run => { c with run := value }
  | .kind => { c with kind := value }
  | .name => { c with name := value }

/-- Set a variable, and keep what it held. -/
def set (c : LogContext) (x : LogVariable) (value : Option String) : LogContext × LogToken :=
  (c.put x value, { of := x, before := c.get x })

/-- Give a variable back what it held. The others stay as they are. -/
def reset (c : LogContext) (t : LogToken) : LogContext := c.put t.of t.before

/-- A notice left in a context. -/
def tag (c : LogContext) (n : Notice) : Notice :=
  { n with
    run := n.run <|> c.run
    plugin := some (n.plugin.getD { kind := c.kind, name := c.name }) }

/-- A variable that is set and given back what it held is as it was. -/
theorem reset_set (c : LogContext) (x : LogVariable) (value : Option String) :
    (c.set x value).1.reset (c.set x value).2 = c := by
  cases x <;> rfl

end LogContext

/-- A block of work, by what it sets. -/
inductive LogBlock where
  /-- It belongs to a run. -/
  | run (run : String)
  /-- It is about a plugin, of which either may be unknown. -/
  | plugin (plugin : PluginTag)
  deriving Repr, DecidableEq, Inhabited

namespace LogBlock

/-- Enter a block. What it sets can be given back, the variable set last first. -/
def enter (c : LogContext) : LogBlock → LogContext × List LogToken
  | run id =>
    let (c, token) := c.set .run (some id)
    (c, [token])
  | plugin tag =>
    let (c, kind) := c.set .kind tag.kind
    let (c, name) := c.set .name tag.name
    (c, [name, kind])

/-- Leave a block. -/
def leave (c : LogContext) (tokens : List LogToken) : LogContext := tokens.foldl LogContext.reset c

/-- Leaving a block leads back to where it was entered. -/
@[simp] theorem leave_enter (b : LogBlock) (c : LogContext) :
    leave (b.enter c).1 (b.enter c).2 = c := by
  cases b with
  | run id => exact c.reset_set .run (some id)
  | plugin tag =>
    have hname := (c.put .kind tag.kind).reset_set .name tag.name
    have hkind := c.reset_set .kind tag.kind
    simp only [enter, leave, LogContext.set, List.foldl_cons, List.foldl_nil] at hname hkind ⊢
    rw [hname]
    exact hkind

end LogBlock

/-- The context at a place, and what the blocks around it give back, the innermost first. -/
structure LogContexts where
  here : LogContext := {}
  outer : List (List LogToken) := []
  deriving Repr, DecidableEq, Inhabited

namespace LogContexts

/-- Enter a block. -/
def enter (c : LogContexts) (b : LogBlock) : LogContexts :=
  let (here, tokens) := b.enter c.here
  { here, outer := tokens :: c.outer }

/-- Enter a block that belongs to a run. -/
def enterRun (c : LogContexts) (run : String) : LogContexts := c.enter (.run run)

/-- Enter a block that is about a plugin. -/
def enterPlugin (c : LogContexts) (plugin : PluginTag) : LogContexts := c.enter (.plugin plugin)

/-- Leave the innermost block, if there is one. -/
def leave? (c : LogContexts) : Option LogContexts :=
  match c.outer with
  | [] => none
  | tokens :: outer => some { here := LogBlock.leave c.here tokens, outer }

/-- A notice left in a context. -/
def tag (c : LogContexts) (n : Notice) : Notice := c.here.tag n

/-- Leaving a block leads back to where it was entered. -/
@[simp] theorem leave?_enter (c : LogContexts) (b : LogBlock) : (c.enter b).leave? = some c := by
  simp only [leave?, enter, LogBlock.leave_enter]

end LogContexts

/-- The facts about a fault that a notice carries. -/
def Fault.facts (f : Fault) : Value :=
  .record [
    ("type", .str f.className), ("message", .str f.message), ("module", .str f.moduleName)]

/-- Facts with those about a fault among them. -/
def Entries.withFault (extra : Entries) (f : Fault) : Entries :=
  Fields.put extra (.str "exception") f.facts

end PluginDescriptor
