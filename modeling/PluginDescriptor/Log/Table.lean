import PluginDescriptor.File.Tree
import PluginDescriptor.Log.Layout
import PluginDescriptor.Log.Record
import PluginDescriptor.Settings.Model

/-!
# Loggers

Loggers have names with points in them. A logger is made when it is first asked for, and with it the one
whose name lacks the last part, to which it is linked. It passes records on along its link, and takes
over the level from there unless it has one of its own. A record goes to the handlers of its logger and
of all those above, once for each time that a handler was added, and a handler that fails does not keep
the others from their work.

A stream takes every text; what the program escapes in it because of its encoding stands there
unescaped. Names may have any number of points; that the program gives up at about a thousand is left
out.
-/

set_option autoImplicit false

namespace PluginDescriptor

/-- Where the lines of a handler go. -/
inductive Sink where
  /-- A stream with a name. -/
  | stream (name : String)
  /-- The end of a file. -/
  | file (path : Path)
  /-- Nowhere: every line fails. -/
  | broken (fault : Fault)
  deriving Repr, BEq, Inhabited

/-- A handler of records. -/
structure Handler where
  /-- What tells a handler from others. -/
  serial : Nat
  sink : Sink
  style : LogStyle
  deriving Repr, BEq, Inhabited

/-- A logger without its name. -/
structure Logger where
  level : Option Level := none
  handlers : List Handler := []
  /-- The name of the logger above, once the logger is linked to it. -/
  above : Option String := none
  deriving Repr, BEq, Inhabited

/-- Text that goes to streams, by their names, in order. -/
abbrev Writing := List (String × String)

/-- The stream of errors. -/
def errorStream : String := "stderr"

/-- Loggers by their names. -/
abbrev LogTable := Named Logger

namespace LogTable

/-- The name of the logger above all others. -/
def rootName : String := "polaris_ddl"

/-- The name of the logger above: all of a name but its last part. The root has none above it, nor has a
name without points. -/
def parent? (name : String) : Option String :=
  if name = rootName then none else (Text.beforeLast? '.' name.toList).map String.ofList

/-- Names get shorter on the way up. -/
theorem length_lt_of_parent? {name above : String} (h : parent? name = some above) :
    above.length < name.length := by
  unfold parent? at h
  split at h
  · cases h
  · obtain ⟨before, hbefore, rfl⟩ := Option.map_eq_some_iff.mp h
    obtain ⟨after, hname, -⟩ := (Text.beforeLast?_eq_some_iff '.' _ before).mp hbefore
    rw [← String.length_toList (s := name), hname]
    simp

/-- The level of a logger that is new. -/
def newLevel (name : String) (level : Option Level) : Option Level :=
  if name = rootName && level.isNone then some .info else level

/-- The logger with a name. -/
def get (t : LogTable) (name : String) : Logger := (t.lookup name).getD {}

/-- Change a logger. -/
def change (t : LogTable) (name : String) (f : Logger → Logger) : LogTable :=
  Named.assign name (f (get t name)) t

/-- Ask for a logger. One that is new is put into the table, the loggers above it are asked for, and it
is linked to the first of them; the level counts if the logger is new. -/
def ensure (t : LogTable) (name : String) (level : Option Level) : LogTable :=
  if (t.lookup name).isSome then t
  else
    let made : LogTable := t ++ [(name, { level := newLevel name level })]
    match _h : parent? name with
    | none => made
    | some above => change (ensure made above none) name fun l => { l with above := some above }
termination_by name.length
decreasing_by exact length_lt_of_parent? _h

/-- A logger and those above it, itself first, as their links lead. Links lead to shorter names. -/
def walk (t : LogTable) (name : String) : List Logger :=
  let l := get t name
  match l.above with
  | none => [l]
  | some above => if above.length < name.length then l :: walk t above else [l]
termination_by name.length

/-- The level from which a logger lets records through. -/
def effectiveLevel (t : LogTable) (name : String) : Level :=
  ((walk t name).findSome? Logger.level).getD .info

/-- The handlers that records of a logger reach, in order. -/
def reached (t : LogTable) (name : String) : List Handler := (walk t name).flatMap Logger.handlers

/-- Set the level of a logger; with none it takes over that of the logger above. -/
def setLevel (t : LogTable) (name : String) (level : Option Level) : LogTable :=
  change t name fun l => { l with level }

/-- Add a handler to a logger. -/
def addHandler (t : LogTable) (name : String) (h : Handler) : LogTable :=
  change t name fun l => { l with handlers := l.handlers ++ [h] }

/-- Take a handler from a logger, once. -/
def removeHandler (t : LogTable) (name : String) (h : Handler) : LogTable :=
  change t name fun l => { l with handlers := l.handlers.eraseP fun other => other.serial == h.serial }

/-! ## Records -/

/-- Let a handler write a record. -/
def emit (files : FileTree) (record : Entries) (h : Handler) : Except Fault (FileTree × Writing) := do
  match h.sink with
  | .broken fault => throw fault
  | .stream name => return (files, [(name, (← h.style.line record) ++ "\n")])
  | .file path => return (← files.appendText path ((← h.style.line record) ++ "\n"), [])

/-- Let handlers write a record one after the other. A handler that fails leaves a line among the
errors. -/
def emitAll (files : FileTree) (record : Entries) : List Handler → FileTree × Writing
  | [] => (files, [])
  | h :: rest =>
    let (files, written) :=
      match emit files record h with
      | .ok result => result
      | .error fault => (files, [(errorStream, s!"Logging handler failed: {fault.message}\n")])
    let (files, more) := emitAll files record rest
    (files, written ++ more)

/-- Log a notice at a time, unless the logger does not let it through. The logger is asked for. -/
def log (t : LogTable) (files : FileTree) (time : String) (n : Notice) : FileTree × Writing :=
  let t := ensure t n.logger none
  if (effectiveLevel t n.logger).rank ≤ n.level.rank then
    emitAll files (n.record time) (reached t n.logger)
  else (files, [])

/-- Log notices in order. -/
def logAll (t : LogTable) (time : String) (files : FileTree) : List Notice → FileTree × Writing
  | [] => (files, [])
  | n :: rest =>
    let (files, written) := log t files time n
    let (files, more) := logAll t time files rest
    (files, written ++ more)

/-! ## Setting up -/

/-- Give the root a level and new handlers: the stream of errors, a file, or both. The directories of
the file are made; if they cannot be made, there is no handler for the file. -/
def configure (t : LogTable) (files : FileTree) (level : Option Level) (style : LogStyle)
    (file : Option String) (console : Bool) : LogTable × Except Fault FileTree :=
  let consoles : List Handler :=
    if console then [{ serial := 0, sink := .stream errorStream, style }] else []
  let t := change (ensure t rootName none) rootName fun l => { l with level, handlers := consoles }
  match file.filter (· != "") with
  | none => (t, .ok files)
  | some name =>
    let path := Path.ofText name
    match files.makeDirectories path.parent with
    | .ok files => (addHandler t rootName { serial := 0, sink := .file path, style }, .ok files)
    | .error fault => (t, .error fault)

/-- Set up the root as settings say. -/
def ofSettings (t : LogTable) (files : FileTree) (s : LogSettings) : LogTable × Except Fault FileTree :=
  configure t files (some s.level) s.style (if s.output.hasFile then s.file else none)
    s.output.hasConsole

end LogTable

end PluginDescriptor
