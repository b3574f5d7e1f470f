import PluginDescriptor.Command.Run
import Std.Time.DateTime

/-!
# The program

Asks the system for what a run needs to know, runs the command line, and does to the system what the
outcome says.
-/

set_option autoImplicit false

open PluginDescriptor PluginDescriptor.Command

namespace PluginDescriptor.System

/-- The time now. -/
def moment : IO Moment := do
  let now := Std.Time.PlainDateTime.ofWallTime
    (Std.Time.WallTime.ofTimestamp (← Std.Time.Timestamp.now) Std.Time.TimeZone.Offset.zero)
  return {
    date := { year := now.year.toInt.toNat, month := now.month.val.toNat, day := now.day.val.toNat }
    hour := now.hour.val.toNat, minute := now.minute.val.toNat, second := now.second.val.toNat
    microsecond := now.nanosecond.val.toNat / 1000, offset := some 0 }

/-- The bytes of a random identifier. -/
def randomBytes : IO (List UInt8) := do
  return (← IO.getRandomBytes 16).toList

/-- The texts in a block of memory, each ended by the character NUL. -/
def textsIn (block : ByteArray) : List String :=
  match Text.decodeUtf8 block.toList with
  | .ok cs => (Text.splitAt (Char.ofNat 0) cs).map String.ofList
  | .error _ => []

/-- The environment of this program. -/
def environment : IO Environment := do
  return Environment.ofTexts (textsIn (← IO.FS.readBinFile "/proc/self/environ"))

/-- What the system has at a place. -/
def nodeAt (place : List String) : IO (Option FileNode) := do
  let path := (← IO.currentDir) / ("/" ++ Text.join "/" place)
  try
    match (← path.metadata).type with
    | .dir => return some .directory
    | .file =>
      try
        return some (.file (← IO.FS.readBinFile path).toList)
      catch _ => return some .closed
    | _ => return some (.file [])
  catch _ => return none

/-- Take what the system has at a place into a tree. -/
def observeAt (t : FileTree) (place : List String) : IO FileTree := do
  match ← nodeAt place with
  | some node => return t.put place node
  | none => return t

/-- Take what the system has where a path leads to, and on the way there, into a tree. -/
def observe (t : FileTree) (p : Path) : IO FileTree := do
  let start := if p.isAbsolute then [] else t.working
  let (t, _) ← p.parts.foldlM (fun (t, place) name => do
    let place := if name = ".." then place.dropLast else place ++ [name]
    return (← observeAt t place, place)) (t, start)
  return t

/-- Do to the system what has changed at a place of a tree. -/
def settle (before : FileTree) : List String × FileNode → IO Unit
  | (place, node) => do
    let path := (← IO.currentDir) / ("/" ++ Text.join "/" place)
    match node, before.node? place with
    | .directory, some .directory => return
    | .directory, _ => IO.FS.createDirAll path
    | .closed, _ => return
    | .file bytes, old =>
      let known := match old with
        | some (.file known) => known.length
        | _ => 0
      if known < bytes.length then
        IO.FS.withFile path .append fun h => h.write (bytes.drop known).toByteArray

/-- Do to the system what an outcome says, and end with its exit code. -/
def finish (before : FileTree) (o : Outcome) : IO UInt32 := do
  o.files.nodes.reverse.forM (settle before)
  IO.print o.output
  IO.eprint o.errors
  return o.exit.toUInt32

/-- What is known of the file system before anything is looked at. -/
def unexplored : IO FileTree := do
  return { working := (Path.ofText (← IO.currentDir).toString).parts, nodes := [] }

/-- What of the file system a run can need. -/
def explored (environment : Environment) (i : Invocation) : IO FileTree := do
  let files ← (i.config.toList.map Path.ofText).foldlM observe (← unexplored)
  match (Run.settings { files, environment } i).outcome with
  | .ok s => (Run.places s i).foldlM observe files
  | .error _ => return files

end PluginDescriptor.System

/-- Run the program on a command line. -/
def main (line : List String) : IO UInt32 := do
  let stamp := Stamp.ofMoment (← System.moment) (← System.randomBytes) (← System.randomBytes)
  let environment ← System.environment
  let files ← match Invocation.ofLine line with
    | .ok i => System.explored environment i
    | .error _ => System.unexplored
  System.finish files (Run.runLine stamp .utf8 { files, environment } line)
