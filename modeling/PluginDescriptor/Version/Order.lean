import PluginDescriptor.Fault
import PluginDescriptor.Text.Case
import PluginDescriptor.Text.Numeral
import PluginDescriptor.Version.Basic

/-!
# The order of versions

Equal tokens are skipped. At the first difference a dash comes before everything else, then a point;
two runs of digits compare as numbers, unless one of them begins with a zero; any other two tokens
compare as texts, without regard to case. When one version has no more tokens, the full texts compare.
-/

set_option autoImplicit false

namespace PluginDescriptor

namespace Version

/-- The order of texts, by code point. -/
def textOrder (a b : String) : Ordering := compare a b

/-- All characters are digits or signs for digits, and there is one. -/
def isDigitRun (token : List Char) : Bool := !token.isEmpty && token.all Text.isDigitSign

/-- A run of digits as a number. -/
def numeral (token : List Char) : Except Fault Int :=
  let text := String.ofList token
  (Text.readInt 10 text).mapError fun fault => .badValue (fault.message 10 text)

/-- The order of two tokens that differ. -/
def compareToken (a b : List Char) : Except Fault Ordering := do
  if a == ['-'] then return .lt
  else if b == ['-'] then return .gt
  else if a == ['.'] then return .lt
  else if b == ['.'] then return .gt
  else
    let folded := textOrder (Text.upper (String.ofList a)) (Text.upper (String.ofList b))
    if isDigitRun a && isDigitRun b then
      if a.head? == some '0' || b.head? == some '0' then return folded
      else
        let m ← numeral a
        let n ← numeral b
        return compare m n
    else return folded

/-- The order of the first two tokens that differ; nothing when one row of tokens begins the other. -/
def compareTokens : List (List Char) → List (List Char) → Except Fault (Option Ordering)
  | a :: as, b :: bs => if a == b then compareTokens as bs else (compareToken a b).map some
  | _, _ => .ok none

/-- The order of two versions. Digits that form no numeral are a fault. -/
def order (a b : String) : Except Fault Ordering := do
  match ← compareTokens (tokenList a.toList) (tokenList b.toList) with
  | some o => return o
  | none => return textOrder a b

/-- A host of some version meets a minimum: it is a development build, or not less. -/
def satisfies (host minimum : String) : Except Fault Bool := do
  if isDevelopment host then return true
  else return (← order host minimum) != .lt

/-- An order as a number. -/
def orderNumber : Ordering → Int
  | .lt => -1
  | .eq => 0
  | .gt => 1

/-- The order of two versions as a number: -1, 0 or 1. -/
def compareNumber (a b : String) : Except Fault Int := (order a b).map orderNumber

end Version

end PluginDescriptor
