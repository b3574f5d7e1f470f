import PluginDescriptor.Number.Binary64

/-!
# Decimal texts of binary64 numbers

A number is written with the fewest digits that read back as the same number, nearest to it among
those; or with a given number of digits, rounded to nearest and a half to even. Digits and the place
of the point are found first, in exact arithmetic; the text is laid out after.
-/

set_option autoImplicit false

namespace PluginDescriptor.Number

/-- A positive decimal `0.d₁d₂… · 10^point`. -/
structure Decimal where
  /-- The digits, without the point. -/
  digits : List Char
  /-- How many digits stand before the point. -/
  point : Int
  deriving Repr, DecidableEq, Inhabited

/-- The decimal digits of a natural number. -/
def digitsOf (n : Nat) : List Char := Nat.toDigits 10 n

/-- Compare `n · 10^p` with `num / den`: true when it is no greater. -/
def gridLe (n : Nat) (p : Int) (num den : Nat) : Bool :=
  let (a, b) := scaled 10 p n 1
  a * den ≤ num * b

/-- How many digits stand before the point of the positive quotient `num / den`. -/
def pointOf (num den : Nat) : Int :=
  let estimate : Int := ((Nat.log2 num : Int) - Nat.log2 den) * 30103 / 100000
  ([estimate + 3, estimate + 2, estimate + 1, estimate, estimate - 1].find? fun d =>
    gridLe 1 (d - 1) num den).getD (estimate - 2)

/-- The multiples of `10^p` around a positive quotient: the one below and the one above. -/
def gridNeighbours (p : Int) (num den : Nat) : Nat × Nat :=
  let (n, d) := scaled 10 (-p) num den
  (n / d, n / d + 1)

/-- The quotients halfway to the neighbours of the positive number `m · 2^q`, over one denominator:
lower end, number, upper end, denominator. The gap below a power of two is half as wide. -/
def readBackInterval (m : Nat) (q : Int) : Nat × Nat × Nat × Nat :=
  let narrow := m = Binary64.leastFull ∧ Binary64.leastExponent < q
  let (low, mid, high) := if narrow then (4 * m - 1, 4 * m, 4 * m + 2) else (4 * m - 2, 4 * m, 4 * m + 2)
  let up := Nat.pow 2 q.toNat
  if 0 ≤ q then (low * up, mid * up, high * up, 4) else (low, mid, high, 4 * Nat.pow 2 (-q).toNat)

/-- The point `n · 10^p` reads back as the number whose interval is given. -/
def readsBack (even : Bool) (interval : Nat × Nat × Nat × Nat) (n : Nat) (p : Int) : Bool :=
  let (low, _, high, den) := interval
  let (a, b) := scaled 10 p n 1
  if even then low * b ≤ a * den && a * den ≤ high * b
  else low * b < a * den && a * den < high * b

/-- The nearest of the two grid points around a number that read back as it, if one does. -/
def onGrid? (even : Bool) (interval : Nat × Nat × Nat × Nat) (p : Int) : Option Nat :=
  let (_, mid, _, den) := interval
  let (below, above) := gridNeighbours p mid den
  match readsBack even interval below p && below != 0, readsBack even interval above p with
  | false, false => none
  | true, false => some below
  | false, true => some above
  | true, true =>
    let (n, d) := scaled 10 (-p) mid den
    -- `n / d` lies between the two; compare twice it with their sum
    if 2 * n < (below + above) * d then some below
    else if (below + above) * d < 2 * n then some above
    else if below % 2 = 0 then some below else some above

/-- Drop the zeros at the end, which stand after the last digit that counts. -/
def dropTrailingZeros (digits : List Char) : List Char :=
  match (digits.reverse.dropWhile (· == '0')).reverse with
  | [] => ['0']
  | ds => ds

/-- The fewest digits that read back as `m · 2^q`, for a positive `m`. -/
def shortestDecimal (m : Nat) (q : Int) : Decimal :=
  let interval := readBackInterval m q
  let (_, mid, _, den) := interval
  let point := pointOf mid den
  let found := (List.range 17).findSome? fun i =>
    let p := point - (i + 1 : Nat)
    (onGrid? (m % 2 == 0) interval p).map fun n => (n, p)
  match found with
  | none => { digits := ['0'], point := 1 }
  | some (n, p) =>
    let ds := digitsOf n
    { digits := dropTrailingZeros ds, point := p + ds.length }

/-- The decimal of a positive quotient to `count` significant digits. -/
def significantDecimal (count : Nat) (num den : Nat) : Decimal :=
  let p := pointOf num den - (count : Int)
  let (n, d) := scaled 10 (-p) num den
  let ds := digitsOf (roundDiv n d)
  -- rounding up may have added a digit
  { digits := ds.take count, point := p + ds.length }

/-- An exponent with a sign and at least two digits. -/
def exponentText (mark : Char) (e : Int) : List Char :=
  let ds := digitsOf e.natAbs
  mark :: (if e < 0 then '-' else '+') :: (if ds.length < 2 then '0' :: ds else ds)

/-- The digits with the point among them, zeros filling up to it. At least one digit stands before
the point. -/
def positional (d : Decimal) : List Char × List Char :=
  if d.point ≤ 0 then
    (['0'], List.replicate (-d.point).toNat '0' ++ d.digits)
  else
    let whole := d.digits.take d.point.toNat
    (whole ++ List.replicate (d.point.toNat - whole.length) '0', d.digits.drop d.point.toNat)

/-- The text of a positive decimal: positional for exponents from -4 to 15, with at least one digit
after the point, and with an exponent otherwise. -/
def Decimal.text (d : Decimal) : List Char :=
  let e := d.point - 1
  if -4 ≤ e ∧ e < 16 then
    let (whole, part) := positional d
    whole ++ '.' :: (if part.isEmpty then ['0'] else part)
  else
    match d.digits with
    | [] => []
    | [c] => c :: exponentText 'e' e
    | c :: rest => c :: '.' :: rest ++ exponentText 'e' e

/-- The shortest text that reads back as the number. -/
def Binary64.text : Binary64 → String
  | .nan => "nan"
  | .infinite s => if s then "-inf" else "inf"
  | .finite s m q =>
    let body := if m = 0 then ['0', '.', '0'] else (shortestDecimal m q).text
    String.ofList (if s then '-' :: body else body)

end PluginDescriptor.Number
