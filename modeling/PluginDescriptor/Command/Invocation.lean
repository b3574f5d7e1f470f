import PluginDescriptor.Command.Grammar

/-!
# Invocations

What the program is asked to do: check a descriptor, perhaps with arguments for one of its entities,
or show its help page.
-/

set_option autoImplicit false

namespace PluginDescriptor.Command

/-- The form of what is printed. -/
inductive OutputForm where
  | text
  | json
  deriving Repr, DecidableEq

/-- What to do with a descriptor. -/
inductive Task where
  /-- Check it, and a request for an entity. -/
  | check (entity : Option String) (arguments : List String)
  /-- Show its help page. -/
  | help (template : Option String)
  deriving Repr, DecidableEq

/-- What the program is asked to do. -/
structure Invocation where
  /-- The configuration file. -/
  config : Option String
  /-- The search roots, if they are not left to the configuration. -/
  roots : List String
  form : OutputForm
  kind : String
  name : String
  task : Task
  deriving Repr, DecidableEq

namespace Invocation

/-- The name of the program. -/
def program : String := "polaris-ddl"

/-- The option that asks for help. -/
def helpOption : OptionSpec := { names := ["-h", "--help"], role := .asks .help }

/-- An option with any text as its value. -/
def textOption (name : String) : OptionSpec := { names := [name], role := .value [] }

/-- The commands of the program. -/
def commands : List String := ["check", "help"]

/-- The grammar of the program. -/
def grammar : Grammar where
  program
  options := [
    helpOption,
    { names := ["--version"], role := .asks .version },
    textOption "--config",
    textOption "--search-path",
    { names := ["--format"], role := .value ["text", "json"] }]
  places := [.command "command" commands]

/-- The grammar of a command. -/
def commandGrammar (command : String) : Grammar where
  program := s!"{program} {command}"
  options :=
    helpOption :: (if command = "check" then [textOption "--action", textOption "--arg"]
      else [textOption "--template"])
  places := [.word "kind", .word "name"]

/-- The value that an option was given last. -/
def last? (r : Grammar.Reading) (option : String) : Option String := r.options.reverse.lookup option

/-- All values that an option was given. -/
def all (r : Grammar.Reading) (option : String) : List String :=
  (r.options.filter (·.1 == option)).map (·.2)

/-- What a command line asks for. -/
def ofLine (line : List String) : Except Stop Invocation := do
  let outer ← grammar.read line
  let (command, rest) := outer.command.getD ("", [])
  let inner ← (commandGrammar command).read rest
  let extras := outer.extras ++ inner.extras
  if !extras.isEmpty then
    let shown := Text.join " " extras
    grammar.misuse s!"unrecognized arguments: {shown}"
  else
    return {
      config := last? outer "--config", roots := all outer "--search-path"
      form := if last? outer "--format" == some "json" then .json else .text
      kind := (inner.places.lookup "kind").getD "", name := (inner.places.lookup "name").getD ""
      task := if command = "check" then .check (last? inner "--action") (all inner "--arg")
        else .help (last? inner "--template") }

end Invocation

end PluginDescriptor.Command
