import PluginDescriptor.Descriptor.Model
import PluginDescriptor.File.Tree
import PluginDescriptor.Help.Template
import PluginDescriptor.Log.Notice
import PluginDescriptor.Yaml.Document

/-!
# Help pages

A help page is written with a set of templates: one for the page, and one each for an entity, an
argument and a field of results. A directory may hold sets of its own, in files; two sets are built
in.
-/

set_option autoImplicit false

namespace PluginDescriptor

/-- The templates of a kind of page. Those of parts may be left empty. -/
structure HelpTemplate where
  name : String
  template : String
  entity : Value := .str ""
  input : Value := .str ""
  output : Value := .str ""
  deriving Repr, Inhabited

namespace Help

/-- The logger of help pages. -/
def logger : String := "polaris_ddl.framework.descriptors.help"

/-- The name of the set for plugins with entities. -/
def rpcName : String := "rpc-help.yaml"

/-- The name of the set for metadata alone. -/
def metadataName : String := "metadata-help.yaml"

/-- The built-in set for metadata. -/
def metadataTemplate : HelpTemplate where
  name := metadataName
  template := Text.join "\n" [
    "\x7bname\x7d",
    "\x7brule\x7d",
    "",
    "\x7bdescription\x7d",
    "",
    "      Author: \x7bauthor\x7d",
    "     Version: \x7bversion\x7d",
    "     License: \x7blicense\x7d",
    "     Timeout: \x7btimeout\x7d",
    "   Home Page: \x7burl\x7d",
    ""]

/-- The built-in set for plugins with entities. -/
def rpcTemplate : HelpTemplate where
  name := rpcName
  template := Text.join "\n" [
    "\x7bmetadata_help\x7d",
    "\x7busage\x7d",
    "ACTIONS:",
    "========",
    "   \x7bentity_names\x7d",
    "",
    "\x7bentities\x7d"]
  entity := .str (Text.join "\n" [
    "   \x7bname\x7d action:",
    "   \x7brule\x7d",
    "       \x7bdescription\x7d",
    "",
    "       INPUT:",
    "\x7binputs\x7d",
    "       OUTPUT:",
    "\x7boutputs\x7d",
    ""])
  input := .str (Text.join "\n" [
    "           \x7bname\x7d:",
    "              Description: \x7bdescription\x7d",
    "                   Prompt: \x7bprompt\x7d",
    "                     Type: \x7btype\x7d",
    "                 Optional: \x7boptional\x7d",
    "\x7bdetails\x7d"])
  output := .str (Text.join "\n" [
    "           \x7bname\x7d:",
    "              Description: \x7bdescription\x7d",
    "               Display As: \x7bdisplay_as\x7d",
    ""])

/-- The built-in set with a name. -/
def builtin? (name : String) : Option HelpTemplate :=
  if name = metadataName then some metadataTemplate
  else if name = rpcName then some rpcTemplate
  else none

/-! ## Finding templates -/

/-- The name of the set for a kind of plugin: that of agents is fixed; other kinds may have one of
their own. -/
def nameForKind (files : FileTree) (directory : Option Path) (kind : String) : Except Fault String := do
  if kind = "agent" then return rpcName
  let candidate := kind ++ "-help.yaml"
  let own ←
    match directory with
    | some d => files.isFile (d.below candidate)
    | none => pure false
  if own then return candidate
  else if (builtin? candidate).isSome then return candidate
  else return metadataName

/-- The set in a file. -/
def load (files : FileTree) (p : Path) : Except Failure HelpTemplate := do
  let read := do Value.ofYaml (← files.readPieces p)
  let unreadable (fault : Fault) : Failure := .configuration (.templateUnreadable p.text fault)
  let data ←
    match read with
    | .ok data => pure data
    | .error .notYaml => throw (unreadable .notYaml)
    | .error (.system n reason file) => throw (unreadable (.system n reason file))
    | .error fault => throw (.fault fault)
  let shapeless : Failure := .configuration (.templateShapeless p.text)
  match data with
  | .map entries =>
    match Fields.find? entries "template" with
    | some (.str template) =>
      let part (key : String) : Value := (Fields.find? entries key).getD (.str "")
      return { name := p.name, template, entity := part "entity", input := part "input",
               output := part "output" }
    | _ => throw shapeless
  | _ => throw shapeless

/-- The path that the name of a set stands for. -/
def pathOf (directory : Option Path) (name : String) : Path :=
  match directory with
  | some d => d.below name
  | none => Path.ofText name

/-- The set with a name: from a file, if there is one, or built in. -/
def find (files : FileTree) (directory : Option Path) (name : String) : Except Failure HelpTemplate := do
  let p := pathOf directory name
  let inFile ←
    if p.isAbsolute || directory.isSome then Failure.ofFault (files.isFile p) else pure false
  if inFile then load files p
  else
    match (if (Path.ofText name).isAbsolute then none else builtin? name) with
    | some set => return set
    | none => throw (.configuration (.templateNotFound name p.text))

/-! ## Rendering -/

/-- Fill in a template. A field that it does not have, or that is malformed, is a matter of
configuration. -/
def fillOrFail (template : String) (context : Entries) : Except Failure String :=
  match fill template context with
  | .ok s => .ok s
  | .error fault =>
    match fault with
    | .noKey _ | .noIndex _ | .badValue _ => .error (.configuration (.badTemplateField fault))
    | _ => .error (.fault fault)

/-- Fill in the template of a part. An empty one gives nothing; what is no text is no template. -/
def fillPart (template : Value) (context : Except Failure Entries) : Except Failure String := do
  if !template.isTruthy then return ""
  let context ← context
  match template with
  | .str s => fillOrFail s context
  | v => throw (.fault (.noAttribute s!"'{v.kindName}' object has no attribute 'format'"))

/-- The name of the plugin in its metadata. -/
def statedName (r : Registry) : Value := (r.metadata.find? "name").getD (.str "")

/-- The metadata by name, and a rule as long as the plugin's name. The keys and the name are written
out for that. -/
def metadataContext (r : Registry) : Except Failure Entries :=
  if Value.areWritable (statedName r :: r.metadata.map (·.1)) then
    let named := Entries.ofList (r.metadata.map fun (key, v) => (.str key.text, v))
    .ok (named.put (.str "rule") (.str (Text.replicate (statedName r).text.length "=")))
  else .error (.fault .numberTooLong)

/-- The values that are written out in what is said about an argument. -/
def detailValues (s : InputSpec) : List Value :=
  let ofType : List Value :=
    if s.type = "string" then [InputSpec.ofInt? s.maxlength]
    else if s.type = "list" then s.allowed.getD []
    else []
  ofType ++ [s.default]

/-- What is said about the type of an argument. -/
def detailText (s : InputSpec) : String :=
  let details :=
    if s.type = "string" then
      let validation := (Value.ofText? s.validation).text
      let length := (InputSpec.ofInt? s.maxlength).text
      s!"               Validation: {validation}\n                   Length: {length}\n"
    else if s.type = "list" then
      let listed := Value.listed (s.allowed.getD [])
      s!"             Valid Values: {listed}\n"
    else ""
  if s.default == .null then details
  else details ++ s!"            Default Value: {s.default.text}\n"

/-- What is said about the type of an argument, if it can be written out. -/
def inputDetails (s : InputSpec) : Except Failure String :=
  if Value.areWritable (detailValues s) then .ok (detailText s) else .error (.fault .numberTooLong)

/-- The part of a page about an argument. -/
def renderInput (set : HelpTemplate) (s : InputSpec) : Except Failure String :=
  fillPart set.input do
    let details ← inputDetails s
    return s.toEntries.putAll (Entries.ofFields [("name", s.name), ("details", .str details)])

/-- The part of a page about a field of results. -/
def renderOutput (set : HelpTemplate) (s : OutputSpec) : Except Failure String :=
  fillPart set.output (.ok (s.toEntries.put (.str "name") s.name))

/-- What the template of an entity can name. -/
def entityFields (e : Entity) (inputs outputs : List String) : List (String × Value) :=
  [("name", .str e.name),
   ("kind", .str e.kind.text),
   ("description", e.description),
   ("display", .str e.display.text),
   ("rule", .str (Text.replicate (e.name.length + " action:".length) "-")),
   ("inputs", .str (String.join inputs)),
   ("outputs", .str (String.join outputs))]

/-- The part of a page about an entity. -/
def renderEntity (set : HelpTemplate) (e : Entity) : Except Failure String :=
  fillPart set.entity do
    let inputs ← e.inputs.mapM fun (_, s) => renderInput set s
    let outputs ← e.outputs.mapM fun (_, s) => renderOutput set s
    return Entries.ofFields (entityFields e inputs outputs)

/-- What the template of a page can name besides the metadata. -/
def pageFields (r : Registry) (metadataHelp : String) (entities : List String) :
    List (String × Value) :=
  [("metadata_help", .str metadataHelp),
   ("plugin_name", .str r.pluginName),
   ("plugin_kind", .str r.pluginKind),
   ("usage", .str r.usage),
   ("entity_names", .str (Text.join " " r.entityNames)),
   ("entities", .str (String.join entities))]

/-- What the template of a page can name. -/
def pageContext (set : HelpTemplate) (r : Registry) (metadataHelp : String) : Except Failure Entries := do
  let metadata ← metadataContext r
  let entities ← r.entities.mapM (renderEntity set)
  return metadata.putAll (Entries.ofFields (pageFields r metadataHelp entities))

/-- The name of the set to render with: the one given, or that of the plugin's kind. -/
def askedName (files : FileTree) (directory : Option Path) (r : Registry) (template : Option String) :
    Except Failure String :=
  match template.getD "" with
  | "" => Failure.ofFault (nameForKind files directory r.pluginKind)
  | given => .ok given

/-- The page of metadata that other pages can name. -/
def metadataHelp (files : FileTree) (directory : Option Path) (r : Registry) (set : HelpTemplate) :
    Except Failure String :=
  if set.name = metadataName then .ok ""
  else do
    let metadataSet ← find files directory metadataName
    fillOrFail metadataSet.template (← metadataContext r)

/-- A help page, with the set of the name given or that of the plugin's kind. -/
def render (files : FileTree) (directory : Option Path) (r : Registry) (template : Option String) :
    Logged String := do
  let name ← Logged.of (askedName files directory r template)
  let set ← Logged.of (find files directory name)
  let help ← Logged.of (metadataHelp files directory r set)
  let context ← Logged.of (pageContext set r help)
  Logged.note { level := .debug, logger, message := s!"Rendering help with template {set.name}" }
  Logged.of (fillOrFail set.template context)

end Help

end PluginDescriptor
