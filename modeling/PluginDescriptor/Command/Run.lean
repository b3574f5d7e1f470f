import PluginDescriptor.Command.Invocation
import PluginDescriptor.Command.Pairs
import PluginDescriptor.Command.Stamp
import PluginDescriptor.Descriptor.Catalog
import PluginDescriptor.Log.Context
import PluginDescriptor.Log.Table
import PluginDescriptor.Settings.Plan
import PluginDescriptor.Text.Encoding

/-!
# Running the program

A run reads the configuration, sets up the log, loads a descriptor and prints what was asked for. It
ends with an exit code: 0, or 1 if a descriptor or a request is refused, or 2 if the configuration or
something unforeseen is at fault. What a run needs of the world around it is given to it, and what it
changes there is in its outcome.

What is printed goes through the encoding of the output, which may refuse it. What goes to the stream of
errors and into the log is never refused: there, the program escapes what an encoding lacks, and the
outcome has the text before that.
-/

set_option autoImplicit false

namespace PluginDescriptor.Command

/-- How a run ends. -/
structure Outcome where
  exit : Nat
  output : String
  errors : String
  files : FileTree
  deriving Inhabited

namespace Run

/-- The logger of runs. -/
def logger : String := "polaris_ddl.cli"

/-- The exit code when all is well. -/
def exitOk : Nat := 0

/-- The exit code when a descriptor or a request is refused. -/
def exitDescriptor : Nat := 1

/-- The exit code when the configuration or something unforeseen is at fault. -/
def exitConfiguration : Nat := 2

/-- The name of the entity that arguments are for when none is named. -/
def usualEntity : String := queryName

/-! ## What is printed -/

/-- What the metadata of a registry have under a key. -/
def metadataValue (r : Registry) (key : String) : Value := (Fields.find? r.metadata key).getD .null

/-- A few lines about a registry. -/
def summary (r : Registry) : String :=
  let path := r.path.getD "None"
  let name := (metadataValue r "name").text
  let version := (metadataValue r "version").text
  let description := (metadataValue r "description").text
  let requirement (v : String) : String := s!"  requires {hostRequirement} >= {v}"
  let entity (e : Entity) : String :=
    let kind := e.kind.text
    let inputs := e.inputs.length
    let outputs := e.outputs.length
    s!"  {kind} {e.name}: {inputs} input(s), {outputs} output(s)"
  Text.join "\n" <|
    [s!"{r.pluginKind}/{r.pluginName}: {path}", s!"  {name} {version} - {description}"]
      ++ (r.minimum.map requirement).toList ++ r.entities.map entity

/-- The keys of the metadata that are written out in the lines about a registry. -/
def summarizedKeys : List String := ["name", "version", "description"]

/-- A checked registry in the form asked for, if it can be written out in that form. -/
def shown (form : OutputForm) (r : Registry) : Except Failure String :=
  match form with
  | .text =>
    if Value.areWritable (summarizedKeys.map (metadataValue r)) then .ok (summary r)
    else .error (.fault .numberTooLong)
  | .json =>
    Failure.ofFault
      ((Value.record [("ok", .bool true), ("descriptor", r.toValue)]).json JsonStyle.page)

/-- A text that is printed: the encoding of the output has to have its characters. -/
def printed (encoding : Text.Encoding) (s : String) : Except Failure String :=
  if encoding.holds s then .ok s else .error (.fault (.notEncodable (encoding.refusal s)))

/-- The settings of an invocation. -/
def settings (around : Surroundings) (i : Invocation) : Logged Settings :=
  let files := match i.config.getD "" with
    | "" => []
    | path => [Source.file (Path.ofText path) Source.filePriority]
  (Plan.withRoots { sources := files } i.roots).buildSettings around

/-- The check of a request that an invocation asks for, if it asks for one. -/
def checkTask (c : Catalog) (r : Registry) (entity : Option String) (arguments : List String) :
    Logged Unit :=
  let named := entity.getD ""
  if named.isEmpty && arguments.isEmpty then return ()
  else do
    let entries ← Logged.of (readPairs arguments)
    c.checkRequest Modules.standard r (if named.isEmpty then usualEntity else named) entries

/-- What an invocation asks for, as a text. -/
def answer (c : Catalog) (files : FileTree) (i : Invocation) : Logged String := do
  let r ← c.load files Version.current i.name i.kind
  match i.task with
  | .help template => c.renderHelp files r template
  | .check entity arguments =>
    checkTask c r entity arguments
    Logged.of (shown i.form r)

/-- What is printed for an invocation. -/
def job (encoding : Text.Encoding) (c : Catalog) (files : FileTree) (i : Invocation) : Logged String := do
  Logged.of (printed encoding (← answer c files i))

/-! ## Failures -/

/-- A text as a line of its own. -/
def asLine (s : String) : String := s ++ "\n"

/-- The exit code of a run that breaks off on a fault. -/
def exitBroken : Nat := 1

/-- The end of a run that breaks off on a fault, with the last line of what is told about it. -/
def brokenOff (files : FileTree) (fault : Fault) : Outcome :=
  { exit := exitBroken, output := "", errors := asLine s!"{fault.className}: {fault.message}", files }

/-- The end of a run on a report. A report that cannot be written out breaks the run off. -/
def reported (stamp : Stamp) (form : OutputForm) (exit : Nat) (r : Report) (files : FileTree) :
    Outcome :=
  match form with
  | .json =>
    let v := Value.record [("ok", .bool false), ("error", r.toValue stamp.report stamp.time)]
    match v.json JsonStyle.page with
    | .ok text => { exit, output := asLine text, errors := "", files }
    | .error fault => brokenOff files fault
  | .text => { exit, output := "", errors := asLine s!"ERROR {r.code}: {r.message}", files }

/-- The texts that go to the stream of errors. -/
def errorText (writing : Writing) : String :=
  String.join ((writing.filter (·.1 == errorStream)).map (·.2))

/-- The end of a run on something unforeseen, which is logged. -/
def unforeseen (stamp : Stamp) (table : LogTable) (files : FileTree) (fault : Fault) : Outcome :=
  let (files, writing) := table.log files stamp.time {
    level := .critical, logger, message := "Unexpected error while processing descriptor",
    extra := Entries.withFault [] fault }
  { exit := exitConfiguration, output := ""
    errors := errorText writing ++ asLine s!"Unexpected error: {fault.message}", files }

/-- The end of a run that fails. -/
def failed (stamp : Stamp) (form : OutputForm) (table : LogTable) (files : FileTree) : Failure → Outcome
  | .descriptor problem about =>
    reported stamp form exitDescriptor (problem.report about) files
  | .configuration problem => reported stamp form exitConfiguration problem.report files
  | .violations violations =>
    unforeseen stamp table files (.badValue (Failure.violations violations).text)
  | .fault fault => unforeseen stamp table files fault

/-- An outcome after texts on the stream of errors. -/
def after (errors : String) (o : Outcome) : Outcome := { o with errors := errors ++ o.errors }

/-! ## The run -/

/-- Do the work with a catalog and a log. -/
def work (stamp : Stamp) (encoding : Text.Encoding) (i : Invocation) (c : Catalog) (table : LogTable)
    (files : FileTree) : Outcome :=
  let done := Logged.inRun stamp.run (job encoding c files i)
  let (files, writing) := table.logAll stamp.time files done.notices
  after (errorText writing) <|
    match done.outcome with
    | .ok output => { exit := exitOk, output := asLine output, errors := "", files }
    | .error failure => failed stamp i.form table files failure

/-- Run an invocation. Before the log is set up, notices are plain lines. -/
def run (stamp : Stamp) (encoding : Text.Encoding) (around : Surroundings) (i : Invocation) : Outcome :=
  let read := settings around i
  after (String.join (read.notices.map fun n => asLine n.message)) <|
    match read.outcome with
    | .error failure => failed stamp i.form [] around.files failure
    | .ok s =>
      match LogTable.ofSettings [] around.files s.log with
      | (table, .error fault) => failed stamp i.form table around.files (.fault fault)
      | (table, .ok files) => work stamp encoding i (Catalog.ofSettings s) table files

/-- The paths at which a run with these settings looks for descriptors and help templates, or writes its
log. -/
def places (s : Settings) (i : Invocation) : List Path :=
  let c := Catalog.ofSettings s
  let asked := match i.task with
    | .help template => template.toList
    | .check _ _ => []
  let sets := asked ++ [Help.rpcName, Help.metadataName, i.kind ++ "-help.yaml"]
  c.search.roots.map (c.search.candidate · i.name i.kind) ++ sets.map (Help.pathOf c.templates)
    ++ (s.log.file.map Path.ofText).toList

/-- The exit code of a command line that does not fit the grammar. -/
def exitMisuse : Nat := 2

/-- How a command line without a run ends. -/
def stopped (files : FileTree) : Stop → Outcome
  | .question .version =>
    { exit := exitOk, output := asLine s!"{Invocation.program} {Version.current}", errors := "", files }
  | .question .help => { exit := exitOk, output := "", errors := "", files }
  | .misuse program message =>
    { exit := exitMisuse, output := "", errors := asLine s!"{program}: error: {message}", files }

/-- Run a command line. -/
def runLine (stamp : Stamp) (encoding : Text.Encoding) (around : Surroundings) (line : List String) :
    Outcome :=
  match Invocation.ofLine line with
  | .ok i => run stamp encoding around i
  | .error stop => stopped around.files stop

end Run

end PluginDescriptor.Command
