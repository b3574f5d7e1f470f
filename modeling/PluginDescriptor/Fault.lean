import PluginDescriptor.Value.Text

/-!
# Faults

What can go wrong in reading and handling values, apart from the errors of descriptors and
configuration. Each cause has a class name and a text, which reports and logs show.
-/

set_option autoImplicit false

namespace PluginDescriptor

/-- The cause of a failure in handling values, texts or files. -/
inductive Fault where
  /-- A value of the right kind that is not acceptable. -/
  | badValue (text : String)
  /-- A value that a validator refuses. -/
  | refused (text : String)
  /-- A value of the wrong kind. -/
  | badKind (text : String)
  /-- A value without the attribute asked for. -/
  | noAttribute (text : String)
  /-- A position outside a sequence. -/
  | noIndex (text : String)
  /-- A key that a mapping does not hold. -/
  | noKey (key : Value)
  /-- A number too large. -/
  | tooLarge (text : String)
  /-- Collections inside each other, more than can be followed, or without end. -/
  | tooDeep
  /-- A text that is no YAML document. -/
  | notYaml
  /-- A text that is no regular expression. -/
  | notPattern (text : String)
  /-- Bytes that are no UTF-8 text. -/
  | notText (text : String)
  /-- A text that the encoding of the output does not have. -/
  | notEncodable (text : String)
  /-- Half of a surrogate pair among the characters of a text; texts here have none. -/
  | loneSurrogate
  /-- A module that cannot be found; `nested` tells whether the text names a part of a module. -/
  | noModule (text : String)
  /-- A refusal of the file system. -/
  | system (number : Nat) (reason : String) (file : String)
  deriving Repr, BEq, Inhabited

namespace Fault

/-- A whole number is to be written out that has more than `Text.maxDigits` digits. -/
def numberTooLong : Fault :=
  .badValue s!"Exceeds the limit ({Text.maxDigits} digits) for integer string conversion; use sys.set_int_max_str_digits() to increase the limit"

/-- The text of a fault. -/
def message : Fault → String
  | badValue text => text
  | refused text => text
  | badKind text => text
  | noAttribute text => text
  | noIndex text => text
  | noKey key => key.expression
  | tooLarge text => text
  | tooDeep => "maximum recursion depth exceeded"
  | notYaml => "<yaml error>"
  | notPattern text => text
  | notText text => text
  | notEncodable text => text
  | loneSurrogate => "surrogates not allowed"
  | noModule text => text
  | system number reason file => s!"[Errno {number}] {reason}: {Text.quoted file}"

/-- The class name of a fault. -/
def className : Fault → String
  | badValue _ => "ValueError"
  | refused _ => "ValidatorError"
  | badKind _ => "TypeError"
  | noAttribute _ => "AttributeError"
  | noIndex _ => "IndexError"
  | noKey _ => "KeyError"
  | tooLarge _ => "OverflowError"
  | tooDeep => "RecursionError"
  | notYaml => "YAMLError"
  | notPattern _ => "error"
  | notText _ => "UnicodeDecodeError"
  | notEncodable _ => "UnicodeEncodeError"
  | loneSurrogate => "UnicodeEncodeError"
  | noModule _ => "ModuleNotFoundError"
  | system number _ _ =>
    if number = 2 then "FileNotFoundError"
    else if number = 13 then "PermissionError"
    else if number = 17 then "FileExistsError"
    else if number = 20 then "NotADirectoryError"
    else if number = 21 then "IsADirectoryError"
    else "OSError"

/-- The name of the module that the class of a fault belongs to. -/
def moduleName : Fault → String
  | notYaml => "yaml.error"
  | notPattern _ => "re"
  | refused _ => "polaris_ddl.framework.validators.builtin"
  | _ => "builtins"

end Fault

/-- The plain text of a value, if it can be written out. -/
def Value.written (v : Value) : Except Fault String :=
  if v.isWritable then .ok v.text else .error .numberTooLong

end PluginDescriptor
