import PluginDescriptor.Number.Shortest
import PluginDescriptor.Value.Layout.Basic

/-!
# Numbers in fields

A number is written as a sign, a mark of its base, digits in groups, and the rest: a point with the
digits after it, an exponent, a percent sign. Padding with zeros inside adds digits, and these are
grouped too.
-/

set_option autoImplicit false

namespace PluginDescriptor.Layout

open Number

/-- The parts of a written number. -/
structure NumberText where
  negative : Bool
  /-- The mark of the base. -/
  mark : List Char := []
  /-- The digits that are grouped. -/
  digits : List Char
  /-- What follows the digits. -/
  rest : List Char := []
  deriving Repr, Inhabited

/-- Digits from the last on, in groups of `size` with a separator between groups; zeros are added
until at least `least` characters are written. -/
def groupFrom (size : Nat) (separator : Char) : Nat → List Char → Int → List Char
  | 0, _, _ => []
  | fuel + 1, digits, least =>
    let length : Int := min (size : Int) (max (max (digits.length : Int) least) 1)
    let count := length.toNat
    let part := digits.take count
    let part := part ++ List.replicate (count - part.length) '0'
    let left := digits.drop count
    let least := least - length
    if left.isEmpty && least ≤ 0 then part
    else part ++ separator :: groupFrom size separator fuel left (least - 1)

/-- Digits in groups, or in a row, with zeros in front up to a width. -/
def groupDigits (separator : Option Char) (size : Nat) (digits : List Char) (least : Int) : List Char :=
  match separator with
  | some c => (groupFrom size c (digits.length + least.toNat + 2) digits.reverse least).reverse
  | none => List.replicate (least - digits.length).toNat '0' ++ digits

/-- Write a number into its field, its digits in groups of a size. -/
def number (l : Layout) (size : Nat) (t : NumberText) : String :=
  let sign :=
    match l.sign with
    | some '+' => [if t.negative then '-' else '+']
    | some ' ' => [if t.negative then '-' else ' ']
    | _ => if t.negative then ['-'] else []
  let others := sign.length + t.mark.length + t.rest.length
  let least : Int :=
    if l.fill == '0' && l.align == .inside then ((l.width.getD 0 : Nat) : Int) - others else 0
  let digits := if t.digits.isEmpty then [] else groupDigits l.separator size t.digits least
  let missing := l.width.getD 0 - (others + digits.length)
  let pad (n : Nat) : List Char := List.replicate n l.fill
  let (before, inside, after) :=
    match l.align with
    | .left => (0, 0, missing)
    | .right => (missing, 0, 0)
    | .center => (missing / 2, 0, missing - missing / 2)
    | .inside => (0, missing, 0)
  String.ofList
    (pad before ++ sign ++ t.mark ++ pad inside ++ digits ++ t.rest ++ pad after)

/-! ## Whole numbers -/

/-- The base of a notation for whole numbers, and its mark. -/
def baseOf (c : Char) : Nat × List Char :=
  match c with
  | 'b' => (2, ['0', 'b'])
  | 'o' => (8, ['0', 'o'])
  | 'x' => (16, ['0', 'x'])
  | 'X' => (16, ['0', 'X'])
  | _ => (10, [])

/-- Write the character with a code into its field. -/
def codeChar (l : Layout) (i : Int) : Except Fault String := do
  if l.sign.isSome then throw (.badValue "Sign not allowed with integer format specifier 'c'")
  if l.alternate then throw (.badValue "Alternate form (#) not allowed with integer format specifier 'c'")
  if i < -(greatest : Int) - 1 ∨ (greatest : Int) < i then
    throw (.tooLarge "Python int too large to convert to C long")
  if i < 0 ∨ 0x10FFFF < i then throw (.tooLarge "%c arg not in range(0x110000)")
  return l.number 3 { negative := false, digits := [], rest := [Char.ofNat i.toNat] }

/-- Write a whole number into its field. -/
def int (l : Layout) (notation_ : Char) (i : Int) : Except Fault String := do
  if l.precision.isSome then throw (.badValue "Precision not allowed in integer format specifier")
  if l.plainZero then
    throw (.badValue "Negative zero coercion (z) not allowed in integer format specifier")
  if notation_ = 'c' then l.codeChar i
  else
    let (base, mark) := baseOf notation_
    if base = 10 && !(Value.int i).isWritable then throw .numberTooLong
    let digits := Nat.toDigits base i.natAbs
    let digits := if notation_ = 'X' then digits.map Char.toUpper else digits
    return l.number (if base = 10 then 3 else 4)
      { negative := i < 0, mark := if l.alternate then mark else [], digits }

/-! ## Fractional numbers -/

/-- Lay out digits, the first `point` of them before the point: as they are up to the digit `last`, or
with an exponent. -/
def layDigits (d : Decimal) (last : Int) (withExponent : Option Char) (addZero alternate : Bool) :
    List Char × List Char :=
  let point := if withExponent.isSome then 1 else d.point
  let first : Int := if point ≤ 0 then point - 1 else 0
  let stop := if withExponent.isNone && addZero then max last (point + 1) else max last point
  let digit (i : Int) : Char := if i < 0 then '0' else d.digits.getD i.toNat '0'
  let row (a b : Int) : List Char := (List.range (b - a).toNat).map fun (i : Nat) => digit (a + i)
  let part := row point stop
  let tail := if part.isEmpty && !alternate then [] else '.' :: part
  let exponent := match withExponent with
    | some mark => exponentText mark (d.point - 1)
    | none => []
  (row first point, tail ++ exponent)

/-- The decimal of zero. -/
def zeroDecimal : Decimal := { digits := ['0'], point := 1 }

/-- A quotient to some digits after the point. -/
def fixedDecimal (places num den : Nat) : Decimal :=
  let ds := digitsOf (roundDiv (num * Nat.pow 10 places) den)
  { digits := ds, point := (ds.length : Int) - places }

/-- A quotient to a number of digits, the zeros at the end left out. -/
def briefDecimal (count num den : Nat) : Decimal :=
  let d := significantDecimal count num den
  { d with digits := dropTrailingZeros d.digits }

/-- The digits of a positive quotient in a notation, in front of and behind the point. -/
def finiteDigits (l : Layout) (notation_ : Option Char) (shortest : Decimal) (num den : Nat) :
    Decimal × List Char × List Char :=
  let upper := match notation_ with
    | some c => c.isUpper
    | none => false
  let mark := if upper then 'E' else 'e'
  let isZero := num = 0
  match notation_.map Char.toLower with
  | some 'e' =>
    let places := l.precision.getD 6
    let d := if isZero then zeroDecimal else significantDecimal (places + 1) num den
    let (a, b) := layDigits d (places + 1 : Nat) (some mark) false l.alternate
    (d, a, b)
  | some 'f' =>
    let places := l.precision.getD 6
    let d := if isZero then zeroDecimal else fixedDecimal places num den
    let (a, b) := layDigits d (d.point + places) none false l.alternate
    (d, a, b)
  | some 'g' =>
    let count := max (l.precision.getD 6) 1
    let d := if isZero then zeroDecimal else briefDecimal count num den
    let withExponent := if d.point ≤ -4 ∨ (count : Int) < d.point then some mark else none
    let last : Int := if l.alternate then (count : Int) else d.digits.length
    let (a, b) := layDigits d last withExponent false l.alternate
    (d, a, b)
  | _ =>
    match l.precision with
    | none =>
      let d := if isZero then zeroDecimal else shortest
      let withExponent := if d.point ≤ -4 ∨ 16 < d.point then some mark else none
      let (a, b) := layDigits d d.digits.length withExponent true l.alternate
      (d, a, b)
    | some n =>
      let count := max n 1
      let d := if isZero then zeroDecimal else briefDecimal count num den
      let withExponent := if d.point ≤ -4 ∨ (count : Int) - 1 < d.point then some mark else none
      let last : Int := if l.alternate then (count : Int) else d.digits.length
      let (a, b) := layDigits d last withExponent true l.alternate
      (d, a, b)

/-- Write a fractional number into its field; a percent sign is added where the notation has one. -/
def float (l : Layout) (x : Binary64) : String :=
  let percent := l.notation_ == some '%'
  let x := if percent then x.mul (Binary64.ofInt 100) else x
  let notation_ := if percent then some 'f' else if l.notation_ == some 'n' then some 'g' else l.notation_
  let name (s : String) : List Char :=
    match notation_ with
    | some c => if c.isUpper then s.toList.map Char.toUpper else s.toList
    | none => s.toList
  let tail := if percent then ['%'] else []
  match x with
  | .nan => l.number 3 { negative := false, digits := [], rest := name "nan" ++ tail }
  | .infinite s => l.number 3 { negative := s, digits := [], rest := name "inf" ++ tail }
  | .finite s m q =>
    let (num, den) := Binary64.ratio m q
    let shortest := if m = 0 then zeroDecimal else shortestDecimal m q
    let (d, digits, rest) := finiteDigits l notation_ shortest num den
    let negative := s && !(l.plainZero && d.digits.all (· == '0'))
    l.number 3 { negative, digits, rest := rest ++ tail }

/-- The notations of fractional numbers. -/
def floatNotations : List Char := ['e', 'E', 'f', 'F', 'g', 'G', '%']

/-- Write a whole number, or a truth value of the given kind, into a field. -/
def intField (kind spec : String) (i : Int) : Except Fault String := do
  let l ← parse kind .right (some 'd') spec
  let c := l.notation_.getD 'd'
  if ['b', 'c', 'd', 'o', 'x', 'X', 'n'].contains c then l.int c i
  else if floatNotations.contains c then
    match Binary64.ofInt i with
    | .infinite _ => throw (.tooLarge "int too large to convert to float")
    | x => return l.float x
  else throw (unknownNotation kind c)

/-- Write a fractional number into a field. -/
def floatField (spec : String) (x : Binary64) : Except Fault String := do
  let l ← parse "float" .right none spec
  match l.notation_ with
  | none => return l.float x
  | some c => if c = 'n' ∨ floatNotations.contains c then return l.float x else throw (unknownNotation "float" c)

end PluginDescriptor.Layout
