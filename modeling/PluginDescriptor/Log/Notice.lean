import PluginDescriptor.Error.Failure

/-!
# Notices

A computation may leave notices for the log, and it ends with a value or a failure. The notices of a
failed computation are kept. Each notice is tagged with the plugin it is about and with the run it
belongs to by the innermost block around it that says so.
-/

set_option autoImplicit false

namespace PluginDescriptor

/-- How grave a notice is. -/
inductive Level where
  | debug
  | info
  | warning
  | error
  | critical
  deriving Repr, DecidableEq, Inhabited

namespace Level

/-- All levels, from the least grave on. -/
def all : List Level := [debug, info, warning, error, critical]

/-- The place of a level among all levels. -/
def rank : Level → Nat
  | debug => 0
  | info => 1
  | warning => 2
  | error => 3
  | critical => 4

/-- The name of a level. -/
def text : Level → String
  | debug => "DEBUG"
  | info => "INFO"
  | warning => "WARNING"
  | error => "ERROR"
  | critical => "CRITICAL"

/-- The level with a name. -/
def ofText? (s : String) : Option Level := all.find? (·.text == s)

end Level

/-- The plugin that notices are about. -/
structure PluginTag where
  kind : Option String
  name : Option String
  deriving Repr, DecidableEq, Inhabited

/-- A message for the log. -/
structure Notice where
  level : Level
  /-- The name of the logger it is left with. -/
  logger : String
  message : String
  /-- Further facts. -/
  extra : Entries := []
  /-- The plugin it is about, once a block around it has said so. -/
  plugin : Option PluginTag := none
  /-- The run it belongs to, once a block around it has said so. -/
  run : Option String := none
  deriving Repr, BEq, Inhabited

/-- A computation that leaves notices and ends with a value or a failure. -/
structure Logged (α : Type) where
  notices : List Notice
  outcome : Except Failure α

namespace Logged

variable {α β : Type}

/-- The computation that leaves no notice and has a value. -/
def ok (a : α) : Logged α := { notices := [], outcome := .ok a }

/-- The computation that fails. -/
def fail (failure : Failure) : Logged α := { notices := [], outcome := .error failure }

/-- The computation with a given outcome and no notices. -/
def of (outcome : Except Failure α) : Logged α := { notices := [], outcome }

/-- Go on with the value of a computation, keeping its notices in front. -/
def andThen (x : Logged α) (f : α → Logged β) : Logged β :=
  match x.outcome with
  | .ok a => { notices := x.notices ++ (f a).notices, outcome := (f a).outcome }
  | .error failure => { notices := x.notices, outcome := .error failure }

instance : Monad Logged where
  pure := ok
  bind := andThen

/-- Leave a notice. -/
def note (notice : Notice) : Logged Unit := { notices := [notice], outcome := .ok () }

/-- Change the notices of a computation. -/
def mapNotices (f : Notice → Notice) (x : Logged α) : Logged α :=
  { x with notices := x.notices.map f }

/-- Let the notices of a computation be about a plugin, unless an inner block has said otherwise. -/
def about (plugin : PluginTag) (x : Logged α) : Logged α :=
  x.mapNotices fun n => { n with plugin := some (n.plugin.getD plugin) }

/-- Let the notices of a computation belong to a run, unless an inner block has said otherwise. -/
def inRun (run : String) (x : Logged α) : Logged α :=
  x.mapNotices fun n => { n with run := some (n.run.getD run) }

@[simp] theorem outcome_pure (a : α) : (pure a : Logged α).outcome = .ok a := rfl

@[simp] theorem outcome_bind (x : Logged α) (f : α → Logged β) :
    (x >>= f).outcome = x.outcome >>= fun a => (f a).outcome := by
  cases x with
  | mk notices outcome => cases outcome <;> rfl

@[simp] theorem outcome_note (n : Notice) : (note n).outcome = .ok () := rfl

@[simp] theorem outcome_fail (failure : Failure) : (fail failure : Logged α).outcome = .error failure := rfl

@[simp] theorem outcome_of (outcome : Except Failure α) : (of outcome).outcome = outcome := rfl

@[simp] theorem outcome_about (plugin : PluginTag) (x : Logged α) :
    (x.about plugin).outcome = x.outcome := rfl

@[simp] theorem outcome_inRun (run : String) (x : Logged α) : (x.inRun run).outcome = x.outcome := rfl

end Logged

end PluginDescriptor
