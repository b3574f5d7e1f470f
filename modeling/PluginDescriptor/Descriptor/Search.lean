import PluginDescriptor.File.Tree
import PluginDescriptor.Log.Notice

/-!
# Finding descriptors

The descriptor of a plugin lies under one of several roots, in a directory for the namespace and one
for the kind of plugin, in a file named for the plugin. Roots are tried in order. Kinds and names that
are no identifiers are refused before any root is tried.
-/

set_option autoImplicit false

namespace PluginDescriptor

/-- Where descriptors are looked for. -/
structure Search where
  roots : List Path
  space : String
  extension : String
  deriving Repr, Inhabited

namespace Search

/-- The logger of searches. -/
def logger : String := "polaris_ddl.framework.descriptors.loader"

/-- The usual namespace. -/
def usualSpace : String := "polaris"

/-- The usual extension of file names. -/
def usualExtension : String := "ddl"

/-- A search under roots; points in front of the extension are dropped. -/
def ofTexts (roots : List String) (space extension : String) : Search :=
  { roots := roots.map Path.ofText, space,
    extension := String.ofList (extension.toList.dropWhile (· == '.')) }

/-- A character of identifiers. -/
def isIdentifierChar (c : Char) : Bool := c.isAlphanum || c == '_' || c == '-'

/-- A name or kind of plugin: ASCII letters and digits, dashes and underscores, at least one of them;
one line feed at the end is let through. -/
def isIdentifier (s : String) : Bool :=
  let cs := s.toList
  let body := if cs.getLast? == some '\n' then cs.dropLast else cs
  !body.isEmpty && body.all isIdentifierChar

/-- Where a plugin's descriptor is under a root. -/
def candidate (s : Search) (root : Path) (name kind : String) : Path :=
  ((root.below s.space).below kind).below s!"{name}.{s.extension}"

/-- Refuse what is no identifier. -/
def refusalNotice (identifier : String) : Notice :=
  { level := .warning, logger,
    message := s!"Refusing to look up descriptor for invalid identifier '{identifier}'",
    extra := Entries.ofFields [("code", .str Code.invalidPluginIdentifier.text)] }

/-- The first of these roots that has a plugin's descriptor, and the path there. -/
def findUnder (s : Search) (isFile : Path → Except Fault Bool) (name kind : String) :
    List Path → Logged (Option Path)
  | [] => return none
  | root :: rest => do
    let p := s.candidate root name kind
    Logged.note {
      level := .debug, logger, message := s!"Checking for {kind} descriptor '{name}' at {p.text}" }
    if ← Logged.of (Failure.ofFault (isFile p)) then
      Logged.note {
        level := .debug, logger, message := s!"Found {name} descriptor at {p.text}",
        extra := Entries.ofFields [("code", .str Code.descriptorFound.text), ("path", .str p.text)] }
      return some p
    else findUnder s isFile name kind rest

/-- The path of a plugin's descriptor, if there is one, where it is known which paths lead to
files. -/
def findAmong (s : Search) (isFile : Path → Except Fault Bool) (name kind : String) :
    Logged (Option Path) :=
  match [name, kind].find? fun identifier => !isIdentifier identifier with
  | some identifier => do
    Logged.note (refusalNotice identifier)
    return none
  | none => s.findUnder isFile name kind s.roots

/-- The path of a plugin's descriptor, if there is one. -/
def find (s : Search) (files : FileTree) (name kind : String) : Logged (Option Path) :=
  s.findAmong files.isFile name kind

/-- The path of a plugin's descriptor, which has to be there. -/
def locate (s : Search) (files : FileTree) (name kind : String) : Logged Path := do
  match ← s.find files name kind with
  | some p => return p
  | none =>
    Logged.fail (.descriptor (.notFound (s.roots.map Path.text)) (some { kind, name, path := none }))

end Search

end PluginDescriptor
