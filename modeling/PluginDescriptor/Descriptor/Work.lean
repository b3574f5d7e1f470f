import PluginDescriptor.Descriptor.Catalog
import PluginDescriptor.Log.Context

/-!
# Work in blocks

Work leaves notices, loads descriptors and checks requests, in blocks inside blocks, and it may fail
anywhere. The notices of a block are tagged with what the variables hold when they are left. Loading a
descriptor and checking a request are blocks of their own.
-/

set_option autoImplicit false

namespace PluginDescriptor

/-- A piece of work. -/
inductive Work where
  /-- Leave a notice. -/
  | log (notice : Notice)
  /-- Fail, for any reason. -/
  | fail (failure : Failure)
  /-- Load the descriptor at a path. -/
  | interpret (files : FileTree) (host : String) (p : Path) (name kind : String)
  /-- Check a request for an entity of a registry. -/
  | check (c : Catalog) (modules : Modules) (r : Registry) (entity : String) (arguments : Entries)
  /-- Do pieces of work one after the other in a block. -/
  | block (b : LogBlock) (body : List Work)
  /-- Do pieces of work one after the other, and go on when one of them fails. -/
  | attempt (body : List Work)
  deriving Inhabited

namespace Work

/-- A notice as it was left, and the subject of the load or the check that was under way. -/
structure Left where
  notice : Notice
  during : Option Subject

/-- What work leaves behind. -/
structure Done where
  context : LogContext
  left : List Left
  outcome : Except Failure Unit

/-- The notices of a computation, as they are left in a context. -/
def leaving {α : Type} (during : Option Subject) (x : Logged α) (c : LogContext) : Done where
  context := c
  left := x.notices.map fun n => { notice := c.tag n, during }
  outcome := x.outcome.map fun _ => ()

/-- Do something in a block. The block is left however it ends. -/
def within (b : LogBlock) (body : LogContext → Done) (c : LogContext) : Done :=
  let (inside, tokens) := b.enter c
  let done := body inside
  { done with context := LogBlock.leave done.context tokens }

/-- A load or a check for a subject, in a block about its plugin. -/
def onBehalf {α : Type} (s : Subject) (x : Logged α) : LogContext → Done :=
  within (.plugin s.tag) (leaving (some s) x)

mutual

/-- Do a piece of work. -/
def perform : Work → LogContext → Done
  | log n, c => leaving none (Logged.note n) c
  | fail failure, c => leaving none (Logged.fail failure : Logged Unit) c
  | interpret files host p name kind, c =>
    let s := Catalog.subjectAt p name kind
    onBehalf s (Catalog.run files host s p) c
  | check catalog modules r entity arguments, c =>
    match Catalog.entity r entity with
    | .error failure => leaving none (Logged.fail failure : Logged Unit) c
    | .ok e =>
      let s := Catalog.subjectOf r
      onBehalf s (Request.check modules catalog.validators (some s) e arguments) c
  | block b body, c => within b (performAll body) c
  | attempt body, c => { performAll body c with outcome := .ok () }

/-- Do pieces of work one after the other, up to the first that fails. -/
def performAll : List Work → LogContext → Done
  | [], c => { context := c, left := [], outcome := .ok () }
  | w :: rest, c =>
    let first := w.perform c
    match first.outcome with
    | .error _ => first
    | .ok _ =>
      let later := performAll rest first.context
      { later with left := first.left ++ later.left }

end

end Work

end PluginDescriptor
