import PluginDescriptor.Error.Failure
import PluginDescriptor.Yaml.Document

/-!
# Arguments on the command line

Arguments are given as a key and a value with an equals sign between them. The value is read as YAML;
one that is no YAML document stands for itself.
-/

set_option autoImplicit false

namespace PluginDescriptor.Command

/-- The value of an argument. -/
def argumentValue (text : String) : Except Fault Value :=
  if text.isEmpty then .ok (.str "")
  else
    match Value.ofYaml text with
    | .error .notYaml => .ok (.str text)
    | other => other

/-- An argument and its value. -/
def readPair (pair : String) : Except Failure (String × Value) := do
  match Text.cutAt '=' pair.toList with
  | (c :: key, some value) =>
    return (String.ofList (c :: key), ← Failure.ofFault (argumentValue (String.ofList value)))
  | _ => throw (.configuration (.argumentNotPair pair))

/-- The arguments that pairs give. -/
def readPairs (pairs : List String) : Except Failure Entries :=
  pairs.foldlM (fun entries pair => do
    let (key, value) ← readPair pair
    return Fields.put entries (.str key) value) []

end PluginDescriptor.Command
