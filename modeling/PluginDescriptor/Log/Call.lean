import PluginDescriptor.Log.Table

/-!
# Calls on loggers

Loggers as their users meet them: they are asked for by their names, their levels are set, and handlers
are added to them and taken from them, in any order.
-/

set_option autoImplicit false

namespace PluginDescriptor.LogTable

/-- A call on the logger with a name, which is asked for first. -/
inductive Call where
  | get (name : String) (level : Option Level)
  | setLevel (name : String) (level : Option Level)
  | addHandler (name : String) (h : Handler)
  | removeHandler (name : String) (h : Handler)

namespace Call

/-- The name of the logger. -/
def name : Call → String
  | get name _ | setLevel name _ | addHandler name _ | removeHandler name _ => name

/-- The level that the logger is asked for with, if it is new. -/
def asked : Call → Option Level
  | get _ level => level
  | _ => none

/-- The table that a call leaves. -/
def after (t : LogTable) : Call → LogTable
  | get name level => ensure t name level
  | setLevel name level => (ensure t name none).setLevel name level
  | addHandler name h => (ensure t name none).addHandler name h
  | removeHandler name h => (ensure t name none).removeHandler name h

/-- The table that calls leave, one after the other. -/
def afterAll (t : LogTable) (calls : List Call) : LogTable := calls.foldl after t

end Call

end PluginDescriptor.LogTable
