import PluginDescriptor.Number.Binary64
import PluginDescriptor.Text.Blank
import PluginDescriptor.Text.Digit
import PluginDescriptor.Text.Quoted
import PluginDescriptor.Text.Split

/-!
# Numerals

Reading whole and fractional numbers from text. Digits of every script count, single underscores may
stand between digits, and white space may surround the numeral.
-/

set_option autoImplicit false

namespace PluginDescriptor.Text

/-- Why a text is not a numeral. -/
inductive NumeralFault where
  /-- The text is no numeral of the kind asked for. -/
  | malformed
  /-- A whole number of this many digits, more than `maxDigits`. -/
  | tooLong (digits : Nat)
  deriving Repr, DecidableEq

/-- The most digits a whole number may have in a base that is no power of two. -/
def maxDigits : Nat := 4300

/-- How much of a text a fault shows at most, quotes included. -/
def shownLength : Nat := 200

/-- The text of a fault in reading `text` as a whole number in a base. -/
def NumeralFault.message (base : Nat) (text : String) : NumeralFault → String
  | .malformed =>
    let shown := String.ofList ((quoted text).toList.take shownLength)
    s!"invalid literal for int() with base {base}: {shown}"
  | .tooLong digits =>
    s!"Exceeds the limit ({maxDigits} digits) for integer string conversion: value has {digits} digits; use sys.set_int_max_str_digits() to increase the limit"

/-- Bring digits and white space of every script to ASCII. A text with another character outside
ASCII is cut at it, with a mark that fits no numeral. -/
def plainNumeral (s : List Char) : List Char :=
  if s.all fun c => c.toNat < 0x80 then s
  else
    let step (c : Char) : Option Char :=
      if c.toNat < 0x7F then some c
      else if isBlank c then some ' '
      else (decimalValue? c).map fun d => Char.ofNat (0x30 + d)
    let good := s.takeWhile fun c => (step c).isSome
    let image := good.filterMap step
    if good.length = s.length then image else image ++ ['?']

/-- The white space that may surround a numeral, once it is brought to ASCII. -/
def isNumeralBlank (c : Char) : Bool := c == ' ' || (0x9 ≤ c.toNat && c.toNat ≤ 0xD)

/-- The value of a digit or letter as a digit. -/
def digitValue? (c : Char) : Option Nat :=
  if '0' ≤ c ∧ c ≤ '9' then some (c.toNat - 0x30)
  else if 'a' ≤ c ∧ c ≤ 'z' then some (c.toNat - 0x61 + 10)
  else if 'A' ≤ c ∧ c ≤ 'Z' then some (c.toNat - 0x41 + 10)
  else none

/-- Is the character a digit of the base? -/
def isDigitIn (base : Nat) (c : Char) : Bool :=
  match digitValue? c with
  | some d => d < base
  | none => false

/-- The number written by the digits, underscores skipped. -/
def digitsValue (base : Nat) (ds : List Char) : Nat :=
  ds.foldl (fun n c => match digitValue? c with
    | some d => n * base + d
    | none => n) 0

/-- Two underscores in a row, or one at the end. -/
def hasLooseUnderscore : List Char → Bool
  | [] => false
  | ['_'] => true
  | '_' :: '_' :: _ => true
  | _ :: rest => hasLooseUnderscore rest

/-- Drop a base mark such as `0x`, and one underscore after it. -/
def dropBaseMark (base : Nat) (s : List Char) : List Char :=
  let marked :=
    match s with
    | '0' :: m :: rest =>
      if (base = 16 ∧ (m = 'x' ∨ m = 'X')) ∨ (base = 8 ∧ (m = 'o' ∨ m = 'O'))
          ∨ (base = 2 ∧ (m = 'b' ∨ m = 'B')) then some rest
      else none
    | _ => none
  match marked with
  | some ('_' :: rest) => rest
  | some rest => rest
  | none => s

/-- Take a sign off the front: whether it is a minus, and what follows. -/
def takeSign : List Char → Bool × List Char
  | '-' :: rest => (true, rest)
  | '+' :: rest => (false, rest)
  | s => (false, s)

/-- Read the digits of a base, with nothing but white space after them. -/
def readDigits (base : Nat) (s : List Char) : Except NumeralFault Nat :=
  let body := s.takeWhile fun c => isDigitIn base c || c == '_'
  let count := (body.filter (· != '_')).length
  if body.isEmpty || body.head? == some '_' || hasLooseUnderscore body then .error .malformed
  else if base ≠ 2 ∧ base ≠ 8 ∧ base ≠ 16 ∧ maxDigits < count then .error (.tooLong count)
  else if (s.drop body.length).all isNumeralBlank then .ok (digitsValue base body)
  else .error .malformed

/-- Read a whole number in a base. -/
def readInt (base : Nat) (text : String) : Except NumeralFault Int :=
  let (negative, s) := takeSign ((plainNumeral text.toList).dropWhile isNumeralBlank)
  (readDigits base (dropBaseMark base s)).map fun n : Nat => if negative then -(n : Int) else n

/-- Digits of a fractional numeral, single underscores between them, and what follows. -/
def takeDigits (s : List Char) : Option (List Char × List Char) :=
  let body := s.takeWhile fun c => isDigitIn 10 c || c == '_'
  if body.head? == some '_' || hasLooseUnderscore body then none
  else some (body.filter (· != '_'), s.drop body.length)

/-- Equality of texts up to the case of ASCII letters. -/
def sameLetters (s : List Char) (t : String) : Bool := s.map Char.toLower == t.toList

/-- Read a fractional number: digits with an optional point and exponent, or the name of an infinity
or of what is no number. -/
def readFloat? (text : String) : Option Number.Binary64 := do
  let s := trimWhere isNumeralBlank (plainNumeral text.toList)
  let (negative, s) := takeSign s
  if sameLetters s "inf" || sameLetters s "infinity" then return .infinite negative
  if sameLetters s "nan" then return .nan
  let (whole, s) ← takeDigits s
  let (part, s) ←
    match s with
    | '.' :: rest => takeDigits rest
    | s => some ([], s)
  if whole.isEmpty && part.isEmpty then none
  let exponent : Int ←
    match s with
    | [] => some 0
    | c :: rest =>
      if c != 'e' && c != 'E' then none
      else
        let (minus, rest) := takeSign rest
        match takeDigits rest with
        | some (ds, []) =>
          if ds.isEmpty then none
          else
            let e : Int := digitsValue 10 ds
            some (if minus then -e else e)
        | _ => none
  return .ofDecimal negative (digitsValue 10 (whole ++ part)) (exponent - part.length)

end PluginDescriptor.Text
