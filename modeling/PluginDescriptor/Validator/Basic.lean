import PluginDescriptor.Error.Failure
import PluginDescriptor.Validator.Address

/-!
# Validators

A validator accepts a value or refuses it. The built-in ones check the kind of a value, or the form of
a text.
-/

set_option autoImplicit false

namespace PluginDescriptor

/-- A validator: its own name, and its verdict on a value. -/
structure Validator where
  label : String
  check : Value → Except Failure Unit

namespace Validator

/-- Refuse a value. -/
def refuse {α : Type} (text : String) : Except Failure α := .error (.fault (.refused text))

/-- Accept values of some kinds. -/
def ofKind (label what : String) (accepts : Value → Bool) : Validator where
  label
  check v := if accepts v then .ok () else refuse s!"value should be {what}, got {v.kindName}"

/-- Accept texts. -/
def string : Validator := ofKind "validate_string" "a string" fun
  | .str _ => true
  | _ => false

/-- Accept truth values. -/
def boolean : Validator := ofKind "validate_boolean" "a boolean" fun
  | .bool _ => true
  | _ => false

/-- Accept whole numbers. -/
def integer : Validator := ofKind "validate_integer" "an integer" fun
  | .int _ => true
  | _ => false

/-- Accept fractional numbers. -/
def float : Validator := ofKind "validate_float" "a float" fun
  | .float _ => true
  | _ => false

/-- Accept numbers. -/
def number : Validator := ofKind "validate_number" "a number" fun
  | .int _ => true
  | .float _ => true
  | _ => false

/-- Accept sequences. -/
def array : Validator := ofKind "validate_array" "an array" fun
  | .list _ => true
  | .tuple _ => true
  | _ => false

/-- Accept open mappings. -/
def hash : Validator := ofKind "validate_hash" "a hash" fun
  | .map _ => true
  | _ => false

/-- Accept texts that pass a test. -/
def ofText (label : String) (test : String → Except Failure Unit) : Validator where
  label
  check v := do
    string.check v
    match v with
    | .str s => test s
    | _ => return ()

/-- The rows of characters that have a meaning to a shell. -/
def shellMarks : List String := ["\x60", "$", ";", "|", "&&", ">", "<"]

/-- Accept texts that a shell does not act on. -/
def shellsafe : Validator := ofText "validate_shellsafe" fun s =>
  match shellMarks.find? fun mark => Text.containsRow mark.toList s.toList with
  | some mark => refuse s!"value should not contain '{mark}'"
  | none => .ok ()

/-- Accept addresses of four octets. -/
def ipv4 : Validator := ofText "validate_ipv4address" fun s =>
  if Address.isV4 s then .ok () else refuse s!"value should be an ipv4 address, got '{s}'"

/-- Accept addresses of eight hextets. -/
def ipv6 : Validator := ofText "validate_ipv6address" fun s =>
  if Address.isV6 s then .ok () else refuse s!"value should be an ipv6 address, got '{s}'"

/-- The built-in validators by the names of the types they check. -/
def builtin : List (String × Validator) := [
  ("string", string), ("boolean", boolean), ("integer", integer), ("float", float),
  ("number", number), ("array", array), ("hash", hash), ("shellsafe", shellsafe),
  ("ipv4address", ipv4), ("ipv6address", ipv6)]

/-- The built-in validator of a name. -/
def builtin? (name : String) : Option Validator := builtin.lookup name

end Validator

end PluginDescriptor
