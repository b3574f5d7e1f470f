import PluginDescriptor.Settings.Loaded

/-!
# Configuration

A configuration keeps its sources and what it made of them when they were last read. Reading them
again changes what it holds piece by piece, as the pieces come to be known; what has been changed
stays so if a later step fails.

The merged settings are laid out anew each time, but what stands under their keys is shared with the
sources, and with whom they are shown to: where these change it in place, it changes here as well,
without any source being read. The settings of the framework and the warnings have nothing in common
with the sources. That reading a source changes what it has in common with what is held, and that those
change the settings of the framework who are shown them, is left out.
-/

set_option autoImplicit false

namespace PluginDescriptor

/-- What is held, after the values of the merged settings have been changed in place, each under its
key. -/
def Loaded.revalued (change : Value → Value → Value) (held : Loaded) : Loaded :=
  { held with raw := held.raw.map fun (key, v) => (key, change key v) }

/-- A computation on what is held: whether it succeeds or fails, it leaves something held behind. -/
structure Loading (α : Type) where
  run : Loaded → Loaded × Logged α

namespace Loading

variable {α β : Type}

/-- Go on with the value of a computation, on what it leaves held, keeping its notices in front. -/
def andThen (x : Loading α) (f : α → Loading β) : Loading β where
  run held :=
    match x.run held with
    | (after, { notices, outcome := .ok a }) =>
      let (last, logged) := (f a).run after
      (last, { logged with notices := notices ++ logged.notices })
    | (after, { notices, outcome := .error failure }) =>
      (after, { notices, outcome := .error failure })

instance : Monad Loading where
  pure a := { run := fun held => (held, .ok a) }
  bind := andThen

/-- A computation that leaves what is held alone. -/
def aside (x : Logged α) : Loading α where
  run held := (held, x)

/-- Change what is held. -/
def write (change : Loaded → Loaded) : Loading Unit where
  run held := (change held, .ok ())

/-- Check merged settings and hold what is made of them. The warnings are held before they are left as
notices, and the merged settings before those of the framework are built from them. -/
def fromRaw (raw : Entries) : Loading Unit := do
  let warnings ← aside (Loaded.noteFailure "Configuration validation failed" (Loaded.validate raw))
  write fun held => { held with warnings }
  aside (Loaded.noteWarnings warnings)
  write fun held => { held with raw }
  let settings ← aside (.of (Loaded.given raw))
  write fun held => { held with settings }

/-- Read sources, merge what they hold, and hold what is made of it. -/
def fromSources (around : Surroundings) (sources : List Source) : Loading Unit := do
  let layers ← aside (Loaded.readAll around (Loaded.inOrder sources))
  fromRaw (Entries.mergeAll layers)

end Loading

/-- A configuration with its sources. -/
structure Configuration where
  sources : List Source := []
  current : Loaded := Loaded.nothing
  deriving Inhabited

namespace Configuration

/-- Try to read the sources again. -/
def attempt (around : Surroundings) (c : Configuration) : Configuration × Logged Unit :=
  let (current, logged) := (Loading.fromSources around c.sources).run c.current
  ({ c with current }, logged)

/-- Read the sources again. -/
def reload (around : Surroundings) (c : Configuration) : Logged Configuration := do
  let (after, logged) := c.attempt around
  logged
  return after

/-- The configuration after an attempt to read its sources again. -/
def afterReload (around : Surroundings) (c : Configuration) : Configuration := (c.attempt around).1

/-- Add a source, without reading it. -/
def withSource (c : Configuration) (source : Source) : Configuration :=
  { c with sources := c.sources ++ [source] }

/-- Add a source and read all of them. The source stays, even if that fails. -/
def addSource (around : Surroundings) (c : Configuration) (source : Source) : Logged Configuration :=
  (c.withSource source).reload around

/-- The configuration after an attempt to add a source. -/
def afterAdding (around : Surroundings) (c : Configuration) (source : Source) : Configuration :=
  (c.withSource source).afterReload around

/-- A configuration of sources, which are read if there are any. -/
def ofSources (around : Surroundings) (sources : List Source) : Logged Configuration :=
  if sources.isEmpty then return {} else reload around { sources }

/-- What happens to a configuration. -/
inductive Event where
  /-- What the sources hold changes, and with it the values that the merged settings share with them,
  each under its key. -/
  | vary (sources : List Source) (change : Value → Value → Value)
  /-- A source is added. -/
  | add (around : Surroundings) (source : Source)
  /-- The sources are read again. -/
  | reload (around : Surroundings)

namespace Event

/-- What the sources are looked up in, for an event that reads them. -/
def around? : Event → Option Surroundings
  | vary _ _ => none
  | add around _ | reload around => some around

/-- How an event ends. -/
def outcome (c : Configuration) : Event → Except Failure Unit
  | vary _ _ => .ok ()
  | add around source => (c.addSource around source).outcome.map fun _ => ()
  | reload around => (c.reload around).outcome.map fun _ => ()

/-- The configuration that an event leaves. -/
def after (c : Configuration) : Event → Configuration
  | vary sources change => { sources, current := c.current.revalued change }
  | add around source => c.afterAdding around source
  | reload around => c.afterReload around

/-- The configuration that events leave, one after the other. -/
def afterAll (c : Configuration) (events : List Event) : Configuration := events.foldl after c

end Event

end Configuration

end PluginDescriptor
