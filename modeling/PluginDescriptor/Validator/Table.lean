import PluginDescriptor.Log.Notice
import PluginDescriptor.Named
import PluginDescriptor.Pattern.Match
import PluginDescriptor.Validator.Module
import PluginDescriptor.Value.Collection

/-!
# Tables of validators

A table holds the validators in use by name. It begins unloaded, with the paths of custom validators;
loading puts in the built-in ones and then the custom ones, all or nothing, and later loads change
nothing. An unloaded table answers no question.
-/

set_option autoImplicit false

namespace PluginDescriptor

/-- A table of validators. -/
structure Validators where
  /-- The paths of custom validators, by name. -/
  custom : Named String
  /-- The validators by name, once they are loaded. -/
  loaded : Option (Named Validator)

namespace Validators

/-- The logger of tables. -/
def logger : String := "polaris_ddl.framework.validators.registry"

/-- An unloaded table. -/
def unloaded (custom : Named String) : Validators := { custom, loaded := none }

/-- The table is loaded. -/
def isLoaded (t : Validators) : Bool := t.loaded.isSome

/-- Take a validator from the module that a path names. -/
def fetch (modules : Modules) (name path : String) : Except Failure Validator := do
  let some (moduleName, memberName) := Modules.memberPath? path
    | throw (.configuration (.validatorPathMalformed name path))
  match modules.member moduleName memberName with
  | .ok (.callable v) => return v
  | .ok .other => throw (.configuration (.validatorNotCallable name path))
  | .error (.noModule text) =>
    throw (.configuration (.validatorNotImported name path (.noModule text)))
  | .error (.noAttribute text) =>
    throw (.configuration (.validatorNotImported name path (.noAttribute text)))
  | .error fault => throw (.fault fault)

/-- The built-in validators and then the custom ones. -/
def fetchAll (modules : Modules) (custom : Named String) :
    Except Failure (Named Validator) :=
  custom.foldlM (fun vs (name, path) => return Named.assign name (← fetch modules name path) vs)
    Validator.builtin

/-- Names in order. -/
def sortedNames (vs : Named Validator) : List String :=
  (vs.map (·.1)).mergeSort (fun a b => a ≤ b)

/-- Load the table, unless it is loaded. -/
def load (modules : Modules) (t : Validators) : Logged Validators :=
  if t.isLoaded then return t
  else do
    let vs ← Logged.of (fetchAll modules t.custom)
    Logged.note {
      level := .debug, logger, message := "Validators loaded",
      extra := Entries.ofFields [("validators", .list ((sortedNames vs).map .str))] }
    return { t with loaded := some vs }

/-- The table after an attempt to load it. -/
def afterLoad (modules : Modules) (t : Validators) : Validators :=
  match (t.load modules).outcome with
  | .ok loaded => loaded
  | .error _ => t

theorem load_of_isLoaded {modules : Modules} {t : Validators} (ht : t.isLoaded) :
    t.load modules = pure t := by
  rw [load, if_pos ht]

theorem afterLoad_of_isLoaded {modules : Modules} {t : Validators} (ht : t.isLoaded) :
    t.afterLoad modules = t := by
  rw [afterLoad, load_of_isLoaded ht]
  rfl

/-- Load the table, if it is not loaded, and put a validator under a name. -/
def register (modules : Modules) (name : String) (v : Validator) (t : Validators) : Logged Validators := do
  let t ← t.load modules
  return { t with loaded := t.loaded.map (Named.assign name v) }

/-- The validators of a loaded table. -/
def required (t : Validators) : Except Failure (Named Validator) :=
  match t.loaded with
  | some vs => .ok vs
  | none => .error (.configuration .validatorsNotLoaded)

/-- There is a validator of the name. -/
def has (t : Validators) (name : Value) : Except Failure Bool := do
  let vs ← t.required
  match ← Failure.ofFault name.asKey with
  | .str s => return (vs.lookup s).isSome
  | _ => return false

/-- The names of the validators, in order. -/
def names (t : Validators) : Except Failure (List String) := do return sortedNames (← t.required)

/-- The validator of a name. -/
def get (t : Validators) (name : Value) : Except Failure Validator := do
  let vs ← t.required
  let found := match ← Failure.ofFault name.asKey with
    | .str s => vs.lookup s
    | _ => none
  match found with
  | some v => return v
  | none => throw (.configuration (.validatorUnknown name))

/-- Let the validator of a name judge a value. -/
def validate (t : Validators) (value name : Value) : Except Failure Unit := do
  (← t.get name).check value

/-- Refuse texts that are longer than a number of characters, unless that is zero. -/
def checkLength (t : Validators) (value most : Value) : Except Failure Unit := do
  let _ ← t.required
  match value with
  | .str s =>
    if most.isTruthy then
      match Value.isMoreThan s.length most with
      | none =>
        throw (.fault (.badKind
          s!"'>' not supported between instances of 'int' and '{most.kindName}'"))
      | some false => return ()
      | some true =>
        Validator.refuse
          s!"value should be at most {most.text} characters long, got {s.length}"
  | v => Validator.refuse s!"value should be a string to check its length, got {v.kindName}"

/-- The failure of a pattern: one that is malformed is a matter of configuration. -/
def patternFailure (pattern : String) (fault : Pattern.Fault) : Failure :=
  let text := fault.message pattern
  match fault with
  | .malformed _ _ => .configuration (.badPattern pattern (.notPattern text))
  | .unacceptable _ => .fault (.badValue text)
  | .tooLarge => .fault (.tooLarge text)

/-- Refuse values in which a pattern matches nowhere. -/
def checkMatch (value : Value) (pattern : String) : Except Failure Unit :=
  match Pattern.Expression.parse pattern with
  | .error fault => .error (patternFailure pattern fault)
  | .ok expression =>
    let found := match value with
      | .str s => expression.search s
      | _ => false
    if found then .ok () else Validator.refuse s!"value should match {pattern}"

/-- Let the validator of a name judge a value; without one, the name is a pattern. -/
def checkPattern (t : Validators) (value validation : Value) : Except Failure Unit := do
  if ← t.has validation then t.validate value validation
  else
    match validation with
    | .str pattern => checkMatch value pattern
    | _ => throw (.fault (.badKind "first argument must be string or compiled pattern"))

/-- Refuse values that are not equal to an allowed value of their kind. -/
def checkMembership (t : Validators) (value allowed : Value) : Except Failure Unit := do
  let _ ← t.required
  let allowed ← Failure.ofFault allowed.elements
  if !allowed.any fun item => item.kindName == value.kindName && item.same value then
    if !Value.areWritable allowed then throw (.fault .numberTooLong)
    let listed := Value.listed allowed
    Validator.refuse s!"value should be one of {listed}"

end Validators

end PluginDescriptor
