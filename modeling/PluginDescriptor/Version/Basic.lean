import PluginDescriptor.Text.Digit
import PluginDescriptor.Text.Split

/-!
# Versions

A version is a text, compared token by token. Its tokens are single dashes and points, runs of decimal
digits, and runs of anything else.
-/

set_option autoImplicit false

namespace PluginDescriptor

namespace Version

/-- The version of this library, and of its host unless another is set. -/
def current : String := "2.0.0"

/-- The version of a development build, which satisfies every requirement. -/
def development : String := "@DEVELOPMENT_VERSION@"

/-- The version is that of a development build. -/
def isDevelopment (version : String) : Bool := version == development

/-- The three classes of characters: separators stand alone, digits and all others run together. -/
inductive CharClass where
  | separator
  | digit
  | other
  deriving Repr, DecidableEq, Inhabited

/-- The class of a character. -/
def charClass (c : Char) : CharClass :=
  if c = '-' ∨ c = '.' then .separator else if Text.isDecimal c then .digit else .other

/-- Add a character in front of tokens: to the first one, when both belong to one run. -/
def consToken (c : Char) : List (List Char) → List (List Char)
  | (d :: run) :: rest =>
    if charClass c ≠ .separator ∧ charClass c = charClass d then (c :: d :: run) :: rest
    else [c] :: (d :: run) :: rest
  | tokens => [c] :: tokens

/-- The tokens of a text. -/
def tokenList : List Char → List (List Char)
  | [] => []
  | c :: rest => consToken c (tokenList rest)

/-- The tokens of a version. -/
def tokenize (version : String) : List String := (tokenList version.toList).map String.ofList

end Version

end PluginDescriptor
