import PluginDescriptor.Log.Notice

/-!
# Log records

A notice becomes a record when it reaches the log: a mapping from the names of its parts to values,
without the parts that are nothing.
-/

set_option autoImplicit false

namespace PluginDescriptor

/-- A record with these parts, leaving out those that are nothing. -/
def recordOf (fields : List (String × Value)) : Entries :=
  Entries.ofFields (fields.filter fun (_, v) => v != .null)

/-- The record of a notice at a time. -/
def Notice.record (n : Notice) (time : String) : Entries :=
  recordOf [
    ("timestamp", .str time),
    ("level", .str n.level.text),
    ("logger", .str n.logger),
    ("message", .str n.message),
    ("correlation_id", .ofText? n.run),
    ("plugin_kind", .ofText? (n.plugin.bind (·.kind))),
    ("plugin_name", .ofText? (n.plugin.bind (·.name))),
    ("extra", if n.extra.isEmpty then .null else .map n.extra)]

/-- The records of notices that are at least as grave as a level. -/
def recordsFrom (level : Level) (time : String) (notices : List Notice) : List Entries :=
  (notices.filter fun n => level.rank ≤ n.level.rank).map fun n => n.record time

end PluginDescriptor
