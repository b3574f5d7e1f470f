import PluginDescriptor.Validator.Table

/-!
# Calls on a table of validators

A table as its users meet it: it is loaded, validators are put into it, and it is asked for what it
holds, in any order and any number of times. Calls that fail are passed over.
-/

set_option autoImplicit false

namespace PluginDescriptor.Validators

/-- A call on a table of validators. -/
inductive Call where
  | load
  | register (name : String) (v : Validator)
  | has (name : Value)
  | names
  | get (name : Value)
  | validate (value name : Value)

/-- What a call answers. -/
inductive Answer where
  | done
  | truth (b : Bool)
  | names (row : List String)
  | validator (v : Validator)

namespace Call

/-- The call loads the table, if it is not loaded. -/
def loads : Call → Bool
  | load | register _ _ => true
  | _ => false

/-- What a call puts into the table. -/
def registration? : Call → Option (String × Validator)
  | register name v => some (name, v)
  | _ => none

variable (modules : Modules) (t : Validators)

/-- How a call ends. -/
def outcome : Call → Except Failure Answer
  | load => (t.load modules).outcome.map fun _ => .done
  | register name v => (t.register modules name v).outcome.map fun _ => .done
  | has name => (t.has name).map .truth
  | names => t.names.map .names
  | get name => (t.get name).map .validator
  | validate value name => (t.validate value name).map fun _ => .done

/-- The table that a call leaves. -/
def after : Call → Validators
  | load => t.afterLoad modules
  | register name v =>
    match (t.register modules name v).outcome with
    | .ok registered => registered
    | .error _ => t.afterLoad modules
  | _ => t

/-- The table that calls leave, one after the other. -/
def afterAll (calls : List Call) : Validators := calls.foldl (fun t c => c.after modules t) t

end Call

end PluginDescriptor.Validators
