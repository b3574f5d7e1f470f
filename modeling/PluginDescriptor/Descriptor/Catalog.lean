import PluginDescriptor.Descriptor.Execution
import PluginDescriptor.Descriptor.Request
import PluginDescriptor.Descriptor.Search
import PluginDescriptor.Help.Page
import PluginDescriptor.Settings.Model

/-!
# Catalogs of plugins

A catalog finds and loads descriptors and answers questions about them: what a request needs, and what
the help page says. It keeps no descriptor; what it loads is handed out.
-/

set_option autoImplicit false

namespace PluginDescriptor

/-- What a catalog looks for and works with. -/
structure Catalog where
  search : Search
  /-- The version of the host, when it is not the one that all catalogs share. -/
  host : Option String
  validators : Validators
  /-- The directory of help templates. -/
  templates : Option Path

/-- The plugin that a subject belongs to, for notices about it. -/
def Subject.tag (s : Subject) : PluginTag := { kind := some s.kind, name := some s.name }

namespace Catalog

/-- The catalog that settings describe. -/
def ofSettings (s : Settings) : Catalog where
  search := Search.ofTexts s.roots s.space s.extension
  host := s.host
  validators := Validators.unloaded s.validators
  templates := (s.templates.filter (· != "")).map Path.ofText

/-- The subject of a registry. -/
def subjectOf (r : Registry) : Subject := { kind := r.pluginKind, name := r.pluginName, path := r.path }

/-- The notice that a descriptor was loaded. -/
def loadedNotice (r : Registry) (p : Path) : Notice :=
  { level := .info, logger := Execution.logger,
    message := s!"Loaded {r.pluginKind} descriptor '{r.pluginName}'",
    extra := Entries.ofFields [
      ("code", .str Code.descriptorLoaded.text), ("path", .str p.text),
      ("entities", .list (r.entityNames.map .str))] }

/-- The text of the file of a descriptor. -/
def readSource (files : FileTree) (subject : Subject) (p : Path) : Except Failure String :=
  match files.readText p with
  | .ok source => .ok source
  | .error (.notText text) => .error (.descriptor (.notText (.notText text)) (some subject))
  | .error (.system n reason file) =>
    .error (.descriptor (.unreadable (.system n reason file)) (some subject))
  | .error fault => .error (.fault fault)

/-- What an error about the descriptor at a path is about. Name and kind of the plugin are those of the
file and its directory, unless they are given. -/
def subjectAt (p : Path) (name kind : String) : Subject where
  kind := if kind.isEmpty then p.parent.name else kind
  name := if name.isEmpty then p.stem else name
  path := some p.text

/-- Read and run the descriptor of a subject. -/
def run (files : FileTree) (host : String) (subject : Subject) (p : Path) : Logged Registry := do
  let source ← Logged.of (readSource files subject p)
  let r ← Execution.execute subject host source
  Logged.note (loadedNotice r p)
  return r

/-- Load the descriptor at a path. -/
def interpret (files : FileTree) (host : String) (p : Path) (name kind : String) : Logged Registry :=
  let subject := subjectAt p name kind
  Logged.about subject.tag (run files host subject p)

/-- The version of the host, given the one that all catalogs share. -/
def hostVersion (c : Catalog) (shared : String) : String := c.host.getD shared

/-- Find and load the descriptor of a plugin. -/
def load (c : Catalog) (files : FileTree) (shared name kind : String) : Logged Registry := do
  let p ← c.search.locate files name kind
  interpret files (c.hostVersion shared) p name kind

/-- The entity of a registry with a name. -/
def entity (r : Registry) (name : String) : Except Failure Entity :=
  match r.entity? name with
  | some e => .ok e
  | none => .error (.descriptor (.unknownEntity name r.entityNames) (some (subjectOf r)))

/-- Check a request for an entity of a registry. -/
def checkRequest (c : Catalog) (modules : Modules) (r : Registry) (entityName : String)
    (arguments : Entries) : Logged Unit := do
  let e ← Logged.of (entity r entityName)
  Logged.about (subjectOf r).tag <|
    Request.check modules c.validators (some (subjectOf r)) e arguments

/-- The catalog after a check of a request. -/
def afterRequest (c : Catalog) (modules : Modules) (r : Registry) (entityName : String)
    (arguments : Entries) : Catalog :=
  match r.entity? entityName with
  | some e => { c with validators := Request.tableAfter modules c.validators e arguments }
  | none => c

/-- The arguments of a request with defaults filled in. -/
def withDefaults (r : Registry) (entityName : String) (arguments : Entries) : Except Failure Entries := do
  return Request.withDefaults (← entity r entityName) arguments

/-- The help page of a registry. -/
def renderHelp (c : Catalog) (files : FileTree) (r : Registry) (template : Option String) :
    Logged String :=
  Help.render files c.templates r template

end Catalog

end PluginDescriptor
