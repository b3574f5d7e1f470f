import PluginDescriptor.Number.Binary64
import PluginDescriptor.Validator.Basic

/-!
# Modules of validators

Validators beyond the built-in ones are taken from modules, by the name of a module and of one of its
members. A module's name has parts with points between them, each naming a package inside the one
before it; only the last may name a plain module.
-/

set_option autoImplicit false

namespace PluginDescriptor

/-- A member of a module. -/
inductive Member where
  | callable (v : Validator)
  | other

/-- A module that can be found. -/
structure Module where
  name : String
  isPackage : Bool
  members : List (String × Member)
  /-- What its own code raises when it is run, if it fails. -/
  fault : Option Fault := none

/-- The modules that can be found, by name. -/
abbrev Modules := List Module

namespace Modules

/-- The module with a name. -/
def find? (modules : Modules) (name : String) : Option Module := List.find? (·.name == name) modules

/-- The names of a module's packages and its own, from the outermost on. -/
def lineage (name : String) : List String :=
  let parts := Text.splitAt '.' name.toList
  (List.range parts.length).map fun i =>
    Text.join "." ((parts.take (i + 1)).map String.ofList)

/-- Find a module inside the one found last, `outer`, and run it. -/
def enter (modules : Modules) (outer : Option Module) (name : String) : Except Fault Module :=
  let missing := "No module named " ++ Text.quoted name
  match outer.filter fun m => !m.isPackage with
  | some m => .error (.noModule (missing ++ "; " ++ Text.quoted m.name ++ " is not a package"))
  | none =>
    match modules.find? name with
    | none => .error (.noModule missing)
    | some found =>
      match found.fault with
      | none => .ok found
      | some fault => .error fault

/-- Find modules one inside the other; `outer` is the one found last. -/
def descend (modules : Modules) (outer : Option Module) (names : List String) :
    Except Fault (Option Module) :=
  names.foldlM (fun outer name => return some (← enter modules outer name)) outer

/-- Find a module by its name. -/
def load (modules : Modules) (name : String) : Except Fault Module := do
  if Text.hasLead "." name then
    let shown := Text.quoted name
    throw (.badKind s!"the 'package' argument is required to perform a relative import for {shown}")
  match ← descend modules none (lineage name) with
  | some m => return m
  | none => throw (.noModule ("No module named " ++ Text.quoted name))

/-- Find a member of a module. -/
def member (modules : Modules) (name memberName : String) : Except Fault Member := do
  let m ← load modules name
  match m.members.lookup memberName with
  | some found => return found
  | none =>
    let shown := Text.quoted m.name
    let memberShown := Text.quoted memberName
    throw (.noAttribute s!"module {shown} has no attribute {memberShown}")

end Modules

/-! ## Validators of hosts and ports -/

namespace Validator

/-- A part of a host name: up to 63 letters, digits and dashes, with no dash at an end. -/
def isHostPart (s : List Char) : Bool :=
  let isOuter (c : Char) : Bool := ('a' ≤ c && c ≤ 'z') || c.isDigit
  let isInner (c : Char) : Bool := isOuter c || c == '-'
  (match s.head?, s.getLast? with
    | some a, some b => isOuter a && isOuter b
    | _, _ => false) && s.all isInner && s.length ≤ 63

/-- Accept host names; a line feed may follow. -/
def hostname : Validator where
  label := "validate_hostname"
  check v :=
    let accepted := match v with
      | .str s =>
        let cs := s.toList
        let cs := if cs.getLast? == some '\n' then cs.dropLast else cs
        (Text.splitAt '.' cs).all isHostPart
      | _ => false
    if accepted then .ok () else refuse s!"value should be a hostname, got {v.expression}"

/-- The whole number that a value stands for: a number without its fraction, or a numeral. -/
def wholeNumber : Value → Except Fault Int
  | .int i => .ok i
  | .bool b => .ok (Value.ofTruth b)
  | .float .nan => .error (.badValue "cannot convert float NaN to integer")
  | .float x =>
    match x.truncate? with
    | some i => .ok i
    | none => .error (.tooLarge "cannot convert float infinity to integer")
  | .str s => (Text.readInt 10 s).mapError fun fault => .badValue (fault.message 10 s)
  | .bytes b =>
    let shown := String.ofList ((Text.quotedBytes b).toList.take Text.shownLength)
    let fault : Fault := .badValue s!"invalid literal for int() with base 10: {shown}"
    if b.all (· < 0x80) then
      (Text.readInt 10 (String.ofList (b.map fun c => Char.ofNat c.toNat))).mapError fun _ => fault
    else .error fault
  | v =>
    .error (.badKind
      s!"int() argument must be a string, a bytes-like object or a real number, not '{v.qualifiedKindName}'")

/-- Accept what stands for the number of a port. -/
def port : Validator where
  label := "validate_port"
  check v := do
    let n ← Failure.ofFault (wholeNumber v)
    if 0 < n ∧ n < 65536 then return ()
    else refuse s!"value should be a port number, got {n}"

end Validator

/-- The module and the member that a path names: the texts before and after its first colon, neither
of them empty. -/
def Modules.memberPath? (path : String) : Option (String × String) :=
  match Text.cutAt ':' path.toList with
  | (c :: moduleName, some (d :: memberName)) =>
    some (String.ofList (c :: moduleName), String.ofList (d :: memberName))
  | _ => none

/-- The modules that come with this library. -/
def Modules.standard : Modules :=
  let package (name : String) : Module := { name, isPackage := true, members := [] }
  let ofValidators (vs : List Validator) : List (String × Member) := vs.map fun v => (v.label, .callable v)
  [package "polaris_ddl", package "polaris_ddl.framework", package "polaris_ddl.framework.validators",
    { name := "polaris_ddl.framework.validators.builtin", isPackage := false,
      members := ("SHELL_UNSAFE_CHARACTERS", .other) :: ofValidators (Validator.builtin.map (·.2)) },
    package "tests", package "tests.fixtures",
    { name := "tests.fixtures.custom_validators", isPackage := false,
      members := ("NOT_CALLABLE", .other) :: ofValidators [Validator.hostname, Validator.port] }]

end PluginDescriptor
