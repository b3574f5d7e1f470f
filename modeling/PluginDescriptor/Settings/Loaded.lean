import PluginDescriptor.Log.Notice
import PluginDescriptor.Settings.Merge
import PluginDescriptor.Settings.Model
import PluginDescriptor.Settings.Source

/-!
# What is made of sources

Sources are merged, those of lower priority first, and checked. What comes of it are the merged
settings, what they mean for the framework, and warnings of settings that nobody knows.
-/

set_option autoImplicit false

namespace PluginDescriptor

/-- What is made of sources. -/
structure Loaded where
  /-- The merged settings. -/
  raw : Entries
  /-- What they mean for the framework. -/
  settings : Settings
  warnings : List String
  deriving Inhabited

namespace Loaded

/-- Nothing was read, and everything is as usual. -/
def nothing : Loaded := { raw := [], settings := {}, warnings := [] }

/-- The logger of configurations. -/
def logger : String := "polaris_ddl.framework.configuration.core"

/-- What stands in the section of the framework within merged settings. -/
def frameworkSection (raw : Entries) : Value :=
  (Fields.get? raw (.str Environment.frameworkSection)).getD (.map [])

/-- The settings of the framework within merged settings. All that is wrong with them is reported with
its place. -/
def settingsOf (raw : Entries) : Except Failure Settings :=
  let place : Value := .str Environment.frameworkSection
  match frameworkSection raw with
  | .map entries =>
    match Settings.ofEntries entries with
    | .error (.violations violations) =>
      .error (.configuration (.violated (violations.map fun v => { v with place := place :: v.place })))
    | result => result
  | _ =>
    .error (.configuration (.violated
      [{ place := [place], text := "framework section must be a mapping", rule := "type_error" }]))

/-- The settings that the section of the framework gives, as it stands. -/
def given (raw : Entries) : Except Failure Settings :=
  match frameworkSection raw with
  | .map entries | .frozen entries => Settings.ofEntries entries
  | v => .error (.fault (.badKind
      s!"polaris_ddl.framework.configuration.models.FrameworkConfiguration() argument after ** must be a mapping, not {v.kindName}"))

/-- The sections that nobody knows. -/
def unknownSections (raw : Entries) : List Value :=
  (raw.map (·.1)).filter fun key => !key.same (.str Environment.frameworkSection)

/-- Warnings of sections that nobody knows. -/
def unknownWarnings (raw : Entries) : List String :=
  (unknownSections raw).map fun key => s!"Unknown configuration key: {key.text}"

/-- Check merged settings, with the warnings that come of it. The warnings are written out before any
setting of the wrong form is reported; settings with keys that are no texts are at fault before that. -/
def validate (raw : Entries) : Except Failure (List String) :=
  match settingsOf raw with
  | .error (.fault fault) => .error (.fault fault)
  | settings =>
    if Value.areWritable (unknownSections raw) then settings.map fun _ => unknownWarnings raw
    else .error (.fault .numberTooLong)

/-- What is made of merged settings. -/
def ofRaw (raw : Entries) : Except Failure Loaded := do
  let warnings ← validate raw
  let settings ← given raw
  return { raw, settings, warnings }

/-- Leave a notice of a failure. -/
def noteFailure {α : Type} (what : String) (outcome : Except Failure α) : Logged α :=
  match outcome with
  | .ok a => .ok a
  | .error failure => do
    Logged.note { level := .error, logger, message := s!"{what}: {failure.text}" }
    Logged.fail failure

/-- Sources in the order in which they are read: by priority, and of equal priority as they are
given. -/
def inOrder (sources : List Source) : List Source :=
  sources.mergeSort fun a b => a.priority ≤ b.priority

/-- What each source holds, up to the first that is at fault. -/
def readAll (around : Surroundings) : List Source → Logged (List Entries)
  | [] => return []
  | source :: rest => do
    let layer ← noteFailure
      s!"Failed to load configuration from source: {source.kindName}" (source.read around)
    return layer :: (← readAll around rest)

/-- Leave a warning for each text. -/
def noteWarnings : List String → Logged Unit
  | [] => return ()
  | message :: rest => do
    Logged.note { level := .warning, logger, message }
    noteWarnings rest

/-- Read sources, merge and check them. -/
def ofSources (around : Surroundings) (sources : List Source) : Logged Loaded := do
  let layers ← readAll around (inOrder sources)
  let loaded ← noteFailure "Configuration validation failed" (ofRaw (Entries.mergeAll layers))
  noteWarnings loaded.warnings
  return loaded

end Loaded

end PluginDescriptor
