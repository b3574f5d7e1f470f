import PluginDescriptor.Named
import PluginDescriptor.Value.Json

/-!
# Log lines

A record of the log as a line: as JSON, or in a form for people to read.
-/

set_option autoImplicit false

namespace PluginDescriptor

/-- The form of log lines. -/
inductive LogStyle where
  | json
  | text
  deriving Repr, DecidableEq, Inhabited

namespace LogStyle

/-- Every form of log lines under its name. -/
def named : Named LogStyle := [("json", json), ("text", text)]

/-- The name of a form of log lines. -/
def name : LogStyle → String
  | json => "json"
  | text => "text"

/-- What is under a key of a record, as a plain text; `missing` without the key. -/
def partText (record : Entries) (key missing : String) : Except Fault String :=
  ((Fields.find? record key).getD (.str missing)).written

/-- There is something under a key that counts as true. -/
def hasPart (record : Entries) (key : String) : Bool :=
  ((Fields.find? record key).map Value.isTruthy).getD false

/-- The further facts of a record, each with its key. -/
def extraText (extra : Value) : Except Fault String :=
  match extra.entries? with
  | some entries => do
    let facts ← entries.mapM fun (key, v) => do return (← key.written) ++ "=" ++ (← v.written)
    return Text.join ", " facts
  | none => .error (.noAttribute s!"'{extra.kindName}' object has no attribute 'items'")

/-- A line for people to read: time, level and message, and in brackets the plugin, the run and
further facts. -/
def readable (record : Entries) : Except Fault String := do
  let time ← partText record "timestamp" ""
  let level ← partText record "level" ""
  let message ← partText record "message" ""
  let plugin ←
    if hasPart record "plugin_kind" || hasPart record "plugin_name" then do
      let kind ← partText record "plugin_kind" "?"
      let name ← partText record "plugin_name" "?"
      pure s!" [plugin={kind}/{name}]"
    else pure ""
  let run ←
    if hasPart record "correlation_id" then
      (partText record "correlation_id" "").map fun s => s!" [correlation_id={s}]"
    else pure ""
  let extra ←
    if hasPart record "extra" then
      (extraText ((Fields.find? record "extra").getD .null)).map fun s => s!" [{s}]"
    else pure ""
  return s!"[{time}] {level}: {message}{plugin}{run}{extra}"

/-- The line of a record. -/
def line : LogStyle → Entries → Except Fault String
  | json, record => (Value.map record).json JsonStyle.line
  | text, record => readable record

end LogStyle

end PluginDescriptor
