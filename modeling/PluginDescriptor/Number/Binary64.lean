/-!
# Binary64 numbers

A binary64 number is an exact dyadic `±m · 2^q`, an infinity or no number at all. All arithmetic is
exact arithmetic on natural numbers followed by one rounding to the nearest number, ties going to an
even mantissa.
-/

set_option autoImplicit false

namespace PluginDescriptor.Number

/-- The quotient of two natural numbers rounded to the nearest, a half to the even neighbour. -/
def roundDiv (num den : Nat) : Nat :=
  let q := num / den
  let r := num % den
  if 2 * r < den then q
  else if den < 2 * r then q + 1
  else if q % 2 = 0 then q else q + 1

/-- `num / den · base^power` as a quotient. -/
def scaled (base : Nat) (power : Int) (num den : Nat) : Nat × Nat :=
  if 0 ≤ power then (num * Nat.pow base power.toNat, den)
  else (num, den * Nat.pow base (-power).toNat)

/-- A binary64 number: `finite neg m q` stands for `±m · 2^q`. -/
inductive Binary64 where
  | nan
  | infinite (negative : Bool)
  | finite (negative : Bool) (mantissa : Nat) (exponent : Int)
  deriving Repr, DecidableEq, Inhabited

namespace Binary64

/-- The exponent of the smallest positive number. -/
def leastExponent : Int := -1074

/-- The exponent of the largest finite number. -/
def greatestExponent : Int := 971

/-- The smallest mantissa of full width. -/
def leastFull : Nat := 4503599627370496

/-- Zero with a sign. -/
def zero (negative : Bool) : Binary64 := .finite negative 0 leastExponent

/-- The nearest number to `±num / den`. -/
def ofRatio (negative : Bool) (num den : Nat) : Binary64 :=
  if num = 0 ∨ den = 0 then zero negative
  else
    let estimate : Int := (Nat.log2 num : Int) - Nat.log2 den
    let (n, d) := scaled 2 (-estimate) num den
    let leading := if n < d then estimate - 1 else estimate
    let exponent := max (leading - 52) leastExponent
    let (n, d) := scaled 2 (-exponent) num den
    let mantissa := roundDiv n d
    let (mantissa, exponent) :=
      if mantissa = 2 * leastFull then (leastFull, exponent + 1) else (mantissa, exponent)
    if greatestExponent < exponent then .infinite negative
    else .finite negative mantissa exponent

/-- The magnitude `m · 2^q` as a quotient. -/
def ratio (mantissa : Nat) (exponent : Int) : Nat × Nat := scaled 2 exponent mantissa 1

/-- The nearest number to an integer. -/
def ofInt (i : Int) : Binary64 := ofRatio (i < 0) i.natAbs 1

/-- The nearest number to `±digits · 10^exponent`. Exponents far outside the range are settled
without raising ten to them. -/
def ofDecimal (negative : Bool) (digits : Nat) (exponent : Int) : Binary64 :=
  if digits = 0 then zero negative
  else
    if 400 < (Nat.log2 digits : Int) * 3 / 10 + exponent then .infinite negative
    else if (Nat.log2 digits : Int) / 3 + 1 + exponent < -330 then zero negative
    else
      let (n, d) := scaled 10 exponent digits 1
      ofRatio negative n d

/-- A finite number as a signed numerator over a positive denominator. -/
def signedRatio (negative : Bool) (mantissa : Nat) (exponent : Int) : Int × Nat :=
  let (n, d) := ratio mantissa exponent
  (if negative then -(n : Int) else n, d)

/-- The rounded sum. -/
def add : Binary64 → Binary64 → Binary64
  | .nan, _ => .nan
  | _, .nan => .nan
  | .infinite s, .infinite t => if s = t then .infinite s else .nan
  | .infinite s, _ => .infinite s
  | _, .infinite t => .infinite t
  | .finite s m p, .finite t n q =>
    let (a, b) := signedRatio s m p
    let (c, d) := signedRatio t n q
    let sum := a * d + c * b
    if sum = 0 then zero (s && t) else ofRatio (sum < 0) sum.natAbs (b * d)

/-- The rounded product. -/
def mul : Binary64 → Binary64 → Binary64
  | .nan, _ => .nan
  | _, .nan => .nan
  | .infinite s, .infinite t => .infinite (s != t)
  | .infinite s, .finite t m _ => if m = 0 then .nan else .infinite (s != t)
  | .finite s m _, .infinite t => if m = 0 then .nan else .infinite (s != t)
  | .finite s m p, .finite t n q =>
    let (a, b) := ratio m p
    let (c, d) := ratio n q
    ofRatio (s != t) (a * c) (b * d)

/-- Zero of either sign. -/
def isZero : Binary64 → Bool
  | .finite _ m _ => m == 0
  | _ => false

/-- Equality of the numbers stood for; what is no number equals nothing, and both zeros are equal. -/
def sameNumber : Binary64 → Binary64 → Bool
  | .infinite s, .infinite t => s == t
  | .finite s m p, .finite t n q =>
    let (a, b) := signedRatio s m p
    let (c, d) := signedRatio t n q
    a * d == c * b
  | _, _ => false

/-- The number is exactly the integer. -/
def sameInt : Binary64 → Int → Bool
  | .finite s m q, i =>
    let (a, b) := signedRatio s m q
    a == i * b
  | _, _ => false

/-- The number is less than the integer. -/
def isBelowInt : Binary64 → Int → Bool
  | .nan, _ => false
  | .infinite s, _ => s
  | .finite s m q, i =>
    let (a, b) := signedRatio s m q
    a < i * b

/-- The integer part of a finite number, rounded toward zero. -/
def truncate? : Binary64 → Option Int
  | .finite s m q =>
    let (n, d) := ratio m q
    some (if s then -((n / d : Nat) : Int) else ((n / d : Nat) : Int))
  | _ => none

end Binary64

end PluginDescriptor.Number
