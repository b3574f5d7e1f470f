import PluginDescriptor.Text.Split

/-!
# Paths

A path is a root, if it is absolute, and the names of the steps below it. Empty names and single
points are left out; names of two points are kept. Two slashes at the start are a root of their own.
-/

set_option autoImplicit false

namespace PluginDescriptor

/-- A path of the file system. -/
structure Path where
  /-- One or two slashes, or nothing for a relative path. -/
  root : String
  parts : List String
  deriving Repr, DecidableEq, Inhabited

namespace Path

/-- The names in a text with slashes between them. -/
def namesIn (s : List Char) : List String :=
  ((Text.splitAt '/' s).map String.ofList).filter fun name => name != "" && name != "."

/-- Read a path. -/
def ofText (s : String) : Path :=
  let cs := s.toList
  let slashes := (cs.takeWhile (· == '/')).length
  let root := if slashes = 0 then "" else if slashes = 2 then "//" else "/"
  { root, parts := namesIn cs }

/-- The text of a path; the empty relative path is a point. -/
def text (p : Path) : String :=
  if p.root.isEmpty && p.parts.isEmpty then "." else p.root ++ Text.join "/" p.parts

/-- The text of a path in its normal form. -/
def normal (s : String) : String := (ofText s).text

/-- The path has a root. -/
def isAbsolute (p : Path) : Bool := !p.root.isEmpty

/-- The second path seen from the first: itself, when it is absolute. -/
def append (p q : Path) : Path := if q.isAbsolute then q else { p with parts := p.parts ++ q.parts }

instance : Append Path := ⟨append⟩

/-- Go down by a text, which may hold slashes. -/
def below (p : Path) (s : String) : Path := p ++ ofText s

/-- The last name, empty when there is none. -/
def name (p : Path) : String := (p.parts.getLast?).getD ""

/-- The last name without its extension: what follows the last point, if there is a point inside the
name and something after it. -/
def stem (p : Path) : String :=
  let cs := p.name.toList
  let extension := (cs.reverse.takeWhile (· != '.')).length
  let before := cs.length - extension - 1
  if extension < cs.length && 0 < before && 0 < extension then String.ofList (cs.take before) else p.name

/-- The path without its last name. -/
def parent (p : Path) : Path := { p with parts := p.parts.dropLast }

end Path

end PluginDescriptor
