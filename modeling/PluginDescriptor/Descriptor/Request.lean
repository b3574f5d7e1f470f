import PluginDescriptor.Descriptor.Model
import PluginDescriptor.Validator.Table

/-!
# Requests

Arguments supplied for an entity are checked against what the entity declares: those that have to be
given first, then the values of those given, in the order of their declaration. Anything that refuses
a value refuses the request, except that faults of configuration stay what they are.

Arguments are supplied under texts. A key of another kind is followed as well, but not the fault of
noting one that is a number too long to be written out.
-/

set_option autoImplicit false

namespace PluginDescriptor

namespace Request

/-- The logger of requests. -/
def logger : String := "polaris_ddl.framework.descriptors.arguments"

/-- Judge a value by the declaration of its argument. -/
def judge (t : Validators) (spec : InputSpec) (value : Value) : Except Failure Unit := do
  if spec.type = "string" then
    t.validate value (.str "string")
    t.checkLength value (.int (spec.maxlength.getD 0))
    match spec.validation with
    | some pattern => if !pattern.isEmpty then t.checkPattern value (.str pattern)
    | none => return ()
  else if spec.type = "list" then t.checkMembership value (.tuple (spec.allowed.getD []))
  else t.validate value (.str spec.type)

/-- The verdict on a value as that of a request about a plugin, if one is known. -/
def blame (about : Option Subject) (entity : String) (key : Value) :
    Except Failure Unit → Except Failure Unit
  | .ok () => .ok ()
  | .error failure =>
    if failure.isConfiguration then .error failure
    else .error (.descriptor (.refusedInput entity key failure.text) about)

/-- Check one supplied value with a loaded table. -/
def checkValue (t : Validators) (about : Option Subject) (entity : String) (key : Value)
    (spec : InputSpec) (value : Value) : Except Failure Unit :=
  blame about entity key (judge t spec value)

/-- Check one supplied value; the table is loaded first. -/
def checkArgument (modules : Modules) (t : Validators) (about : Option Subject) (entity : String)
    (key : Value) (spec : InputSpec) (value : Value) : Logged Unit := do
  let t ← t.load modules
  Logged.of (checkValue t about entity key spec value)

/-- The first argument that has to be given and is not. -/
def missing? (e : Entity) (arguments : Entries) : Option Value :=
  e.requiredInputs.find? fun name => !arguments.has name

/-- Check the supplied values of declared arguments in order; the table is loaded at the first. -/
def checkSupplied (modules : Modules) (t : Validators) (about : Option Subject) (e : Entity)
    (arguments : Entries) : List (Value × InputSpec) → Logged Unit
  | [] => return ()
  | (name, spec) :: rest => do
    match arguments.get? name with
    | none => checkSupplied modules t about e arguments rest
    | some value =>
      checkArgument modules t about e.name name spec value
      checkSupplied modules (t.afterLoad modules) about e arguments rest

/-- The notices of arguments that are not declared, under names that can be written out. -/
def undeclaredNotices (e : Entity) (arguments : Entries) : List Notice :=
  (arguments.filter fun (name, _) => (e.input? name).isNone && name.isWritable).map fun (name, _) =>
    { level := .debug, logger,
      message := s!"Ignoring undeclared argument '{name.text}' for {e.name}" }

/-- Check a request for an entity, which may belong to a plugin. -/
def check (modules : Modules) (t : Validators) (about : Option Subject) (e : Entity)
    (arguments : Entries) : Logged Unit := do
  if let some name := missing? e arguments then
    Logged.fail (.descriptor (.missingInput e.name name) about)
  checkSupplied modules t about e arguments e.inputs
  { notices := undeclaredNotices e arguments, outcome := .ok () }

/-- The table after a check of a request. -/
def tableAfter (modules : Modules) (t : Validators) (e : Entity) (arguments : Entries) : Validators :=
  if (missing? e arguments).isNone && e.inputs.any fun (name, _) => arguments.has name then
    t.afterLoad modules
  else t

/-- The arguments with declared defaults filled in for those not supplied. -/
def withDefaults (e : Entity) (arguments : Entries) : Entries :=
  e.inputs.foldl (fun supplied (name, spec) =>
    if supplied.has name || spec.default == .null then supplied else supplied.put name spec.default)
    arguments

end Request

end PluginDescriptor
