import PluginDescriptor.Fault
import PluginDescriptor.File.Path
import PluginDescriptor.Text.Utf8

/-!
# The file system

Files and directories, as far as they are known, each under the names that lead to it from the root.
A path is followed name by name, from the working directory unless it is absolute, and each name but
the last has to be that of a directory. Files may be there that cannot be opened; all directories can be
searched, and there are no links.
-/

set_option autoImplicit false

namespace PluginDescriptor

/-- A file with its bytes, or a directory. -/
inductive FileNode where
  | file (bytes : List UInt8)
  /-- A file that cannot be opened. -/
  | closed
  | directory
  deriving Repr, BEq, Inhabited

/-- Why the file system refuses a path. -/
inductive Refusal where
  | notFound
  | exists
  | notDirectory
  | isDirectory
  | nameTooLong
  | notPermitted
  /-- The path holds the character NUL. -/
  | embeddedNul
  deriving Repr, DecidableEq, Inhabited

namespace Refusal

/-- The refusal of a path as a fault. -/
def fault (p : Path) : Refusal → Fault
  | notFound => .system 2 "No such file or directory" p.text
  | .exists => .system 17 "File exists" p.text
  | notDirectory => .system 20 "Not a directory" p.text
  | isDirectory => .system 21 "Is a directory" p.text
  | nameTooLong => .system 36 "File name too long" p.text
  | notPermitted => .system 13 "Permission denied" p.text
  | embeddedNul => .badValue "embedded null byte"

/-- The path leads nowhere, but could. -/
def isAbsence : Refusal → Bool
  | notFound | notDirectory | embeddedNul => true
  | _ => false

end Refusal

/-- A file system with a working directory. -/
structure FileTree where
  working : List String
  nodes : List (List String × FileNode)
  deriving Repr, Inhabited

namespace FileTree

/-- The most bytes of a name. -/
def longestName : Nat := 255

/-- The most bytes of a path. -/
def longestPath : Nat := 4095

/-- What is at a place; the root and the directories on the way to the working directory are always
there. -/
def node? (t : FileTree) (place : List String) : Option FileNode :=
  match t.nodes.lookup place with
  | some node => some node
  | none => if place.isPrefixOf t.working then some .directory else none

/-- Follow names from a place to the place that they lead to. -/
def follow (t : FileTree) (place : List String) : List String → Except Refusal (List String)
  | [] => .ok place
  | name :: rest =>
    match t.node? place with
    | none => .error .notFound
    | some (.file _) => .error .notDirectory
    | some .closed => .error .notDirectory
    | some .directory =>
      if name = ".." then follow t place.dropLast rest
      else if longestName < name.utf8ByteSize then .error .nameTooLong
      else follow t (place ++ [name]) rest

/-- The place that a path leads to; nothing need be there. -/
def place (t : FileTree) (p : Path) : Except Refusal (List String) :=
  if p.text.toList.contains (Char.ofNat 0) then .error .embeddedNul
  else if longestPath < p.text.utf8ByteSize then .error .nameTooLong
  else t.follow (if p.isAbsolute then [] else t.working) p.parts

/-- What a path leads to. -/
def find (t : FileTree) (p : Path) : Except Refusal FileNode := do
  match t.node? (← t.place p) with
  | some node => return node
  | none => throw .notFound

/-- The path leads to a file. A name that is too long is a fault. -/
def isFile (t : FileTree) (p : Path) : Except Fault Bool :=
  match t.find p with
  | .ok (.file _) => .ok true
  | .ok .closed => .ok true
  | .ok .directory => .ok false
  | .error refusal => if refusal.isAbsence then .ok false else .error (refusal.fault p)

/-- The path leads to a file or directory. A name that is too long is a fault. -/
def contains (t : FileTree) (p : Path) : Except Fault Bool :=
  match t.find p with
  | .ok _ => .ok true
  | .error refusal => if refusal.isAbsence then .ok false else .error (refusal.fault p)

/-- The bytes of a file. -/
def readBytes (t : FileTree) (p : Path) : Except Fault (List UInt8) :=
  match t.find p with
  | .ok (.file bytes) => .ok bytes
  | .ok .closed => .error (Refusal.notPermitted.fault p)
  | .ok .directory => .error (Refusal.isDirectory.fault p)
  | .error refusal => .error (refusal.fault p)

/-- The text of a file, every end of line read as a line feed. -/
def readText (t : FileTree) (p : Path) : Except Fault String := do
  match Text.decodeUtf8 (← t.readBytes p) with
  | .ok chars => return String.ofList (Text.plainBreaks chars)
  | .error fault => throw (.notText fault.message)

/-- How many bytes are read from a file at a time. -/
def pieceSize : Nat := 8192

/-- The text of a file that is read piece by piece. -/
def readPieces (t : FileTree) (p : Path) : Except Fault String := do
  let bytes ← t.readBytes p
  match Text.decodePiecewise pieceSize (bytes.length / pieceSize + 1) [] bytes with
  | .ok chars => return String.ofList (Text.plainBreaks chars)
  | .error fault => throw (.notText fault.message)

/-- Put something at a place. -/
def put (t : FileTree) (place : List String) (node : FileNode) : FileTree :=
  { t with nodes := (place, node) :: t.nodes.filter (·.1 != place) }

/-- Make a directory and, up to `fuel` levels, those around it, unless it is there. -/
def makeLevels (t : FileTree) (p : Path) : Nat → Except Fault FileTree
  | 0 => .ok t
  | fuel + 1 => do
    match t.find p with
    | .ok .directory => return t
    | .ok (.file _) => throw (Refusal.exists.fault p)
    | .ok .closed => throw (Refusal.exists.fault p)
    | .error .notFound =>
      let t ← makeLevels t p.parent fuel
      match t.place p with
      | .ok place => return t.put place .directory
      | .error refusal => throw (refusal.fault p)
    | .error refusal => throw (refusal.fault p)

/-- Make a directory and those around it, unless it is there. -/
def makeDirectories (t : FileTree) (p : Path) : Except Fault FileTree :=
  t.makeLevels p (p.parts.length + 1)

/-- Write a file anew, or with its bytes in front. -/
def write (t : FileTree) (p : Path) (bytes : List UInt8) (keep : Bool) : Except Fault FileTree := do
  match t.place p with
  | .error refusal => throw (refusal.fault p)
  | .ok place =>
    match t.node? place with
    | some .directory => throw (Refusal.isDirectory.fault p)
    | some .closed => throw (Refusal.notPermitted.fault p)
    | some (.file before) => return t.put place (.file (if keep then before ++ bytes else bytes))
    | none =>
      match t.node? place.dropLast with
      | some .directory => return t.put place (.file bytes)
      | some (.file _) => throw (Refusal.notDirectory.fault p)
      | some .closed => throw (Refusal.notDirectory.fault p)
      | none => throw (Refusal.notFound.fault p)

/-- Add text at the end of a file. -/
def appendText (t : FileTree) (p : Path) (text : String) : Except Fault FileTree :=
  t.write p (Text.encodeUtf8 text) true

end FileTree

end PluginDescriptor
