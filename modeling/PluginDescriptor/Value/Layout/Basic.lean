import PluginDescriptor.Fault
import PluginDescriptor.Text.Digit

/-!
# Layouts

A layout says how a value is written into a field: how it is filled up to a width and aligned, which
signs and separators of digits are written, to how many digits, and in which notation. A layout is
itself written as a short text, in which each part may be left out.
-/

set_option autoImplicit false

namespace PluginDescriptor

/-- Where the padding of a field goes. -/
inductive Align where
  | left
  | right
  | center
  /-- Between the sign and the digits. -/
  | inside
  deriving Repr, DecidableEq, Inhabited

/-- The alignment that a character stands for. -/
def Align.ofChar? : Char → Option Align
  | '<' => some .left
  | '>' => some .right
  | '^' => some .center
  | '=' => some .inside
  | _ => none

/-- How a value is written into a field. -/
structure Layout where
  fill : Char
  align : Align
  /-- A plus sign or a space in front of what is not negative, or a minus sign for neither. -/
  sign : Option Char
  /-- A negative zero is written without its sign. -/
  plainZero : Bool
  /-- The alternate form of the notation. -/
  alternate : Bool
  width : Option Nat
  /-- What separates groups of digits. -/
  separator : Option Char
  precision : Option Nat
  /-- The letter of the notation. -/
  notation_ : Option Char
  deriving Repr, Inhabited

namespace Layout

/-- The largest number that a layout may hold. -/
def greatest : Nat := 9223372036854775807

/-- The number written by the digits in front, if there are any, and what follows. -/
def takeNumber (s : List Char) : Except Fault (Option Nat × List Char) :=
  let digits := s.takeWhile Text.isDecimal
  let n := digits.foldl (fun n c => n * 10 + (Text.decimalValue? c).getD 0) 0
  if digits.isEmpty then .ok (none, s)
  else if greatest < n then .error (.badValue "Too many decimal digits in format string")
  else .ok (some n, s.drop digits.length)

/-- A character as it stands in messages: by its code when it does not show. -/
def shownChar (c : Char) (most : Nat) : String :=
  if 32 < c.toNat && c.toNat < most then c.toString
  else "\\x" ++ String.ofList (Nat.toDigits 16 c.toNat)

/-- The fault of a notation that a kind of value does not have. -/
def unknownNotation (kind : String) (c : Char) : Fault :=
  let shown := shownChar c 128
  .badValue s!"Unknown format code '{shown}' for object of type '{kind}'"

/-- The notations that allow digits to be separated. -/
def separable : List (Option Char) :=
  none :: ['d', 'e', 'f', 'g', 'E', 'G', '%', 'F'].map some

/-- The notations in which only an underscore separates digits. -/
def binaryNotations : List (Option Char) := ['b', 'o', 'x', 'X'].map some

/-- The part of a layout that says how to fill and align; whether a fill and an alignment were given
is told too. -/
def takeAlign (usual : Align) (s : List Char) : Char × Align × Bool × Bool × List Char :=
  match s with
  | fill :: mark :: rest =>
    match Align.ofChar? mark with
    | some align => (fill, align, true, true, rest)
    | none =>
      match Align.ofChar? fill with
      | some align => (' ', align, false, true, mark :: rest)
      | none => (' ', usual, false, false, s)
  | [mark] =>
    match Align.ofChar? mark with
    | some align => (' ', align, false, true, [])
    | none => (' ', usual, false, false, s)
  | [] => (' ', usual, false, false, [])

/-- Whether a character is in front, and what follows it. -/
def takeMark (c : Char) (s : List Char) : Bool × List Char :=
  match s with
  | d :: rest => if d = c then (true, rest) else (false, s)
  | [] => (false, s)

/-- The separator of digits in front. -/
def takeSeparator (s : List Char) : Except Fault (Option Char × List Char) :=
  let both : Fault := .badValue "Cannot specify both ',' and '_'."
  match s with
  | ',' :: '_' :: _ => .error both
  | '_' :: ',' :: _ => .error both
  | ',' :: rest => .ok (some ',', rest)
  | '_' :: rest => .ok (some '_', rest)
  | s => .ok (none, s)

/-- The precision in front, after its point. -/
def takePrecision (s : List Char) : Except Fault (Option Nat × List Char) :=
  match s with
  | '.' :: rest => do
    match ← takeNumber rest with
    | (none, _) => throw (.badValue "Format specifier missing precision")
    | found => return found
  | s => .ok (none, s)

/-- Read a layout for a kind of value, whose usual alignment and notation are given. -/
def parse (kind : String) (usual : Align) (usualNotation : Option Char) (spec : String) :
    Except Fault Layout := do
  let (fill, align, fillGiven, alignGiven, s) := takeAlign usual spec.toList
  let (sign, s) :=
    match s with
    | c :: rest => if c = ' ' ∨ c = '+' ∨ c = '-' then (some c, rest) else (none, s)
    | [] => (none, s)
  let (plainZero, s) := takeMark 'z' s
  let (alternate, s) := takeMark '#' s
  let (zeros, s) := if fillGiven then (false, s) else takeMark '0' s
  let fill := if zeros then '0' else fill
  let align := if zeros && !alignGiven && usual == .right then .inside else align
  let (width, s) ← takeNumber s
  let (separator, s) ← takeSeparator s
  let (precision, s) ← takePrecision s
  let notation_ ←
    match s with
    | [] => pure usualNotation
    | [c] => pure (some c)
    | _ => throw (.badValue s!"Invalid format specifier '{spec}' for object of type '{kind}'")
  if let some c := separator then
    if !(separable.contains notation_ || (c == '_' && binaryNotations.contains notation_)) then
      let shown := shownChar (notation_.getD ' ') 128
      throw (.badValue s!"Cannot specify '{c}' with '{shown}'.")
  return { fill, align, sign, plainZero, alternate, width, separator, precision, notation_ }

/-- How many characters of padding go in front of and behind a text of some length. -/
def padding (l : Layout) (length : Nat) : Nat × Nat :=
  let missing := l.width.getD 0 - length
  match l.align with
  | .right => (missing, 0)
  | .center => (missing / 2, missing - missing / 2)
  | .left | .inside => (0, missing)

/-- Write a text into its field. -/
def text (l : Layout) (s : String) : Except Fault String := do
  match l.notation_ with
  | some 's' => pure ()
  | some c => throw (unknownNotation "str" c)
  | none => pure ()
  match l.sign with
  | some ' ' => throw (.badValue "Space not allowed in string format specifier")
  | some _ => throw (.badValue "Sign not allowed in string format specifier")
  | none => pure ()
  if l.plainZero then
    throw (.badValue "Negative zero coercion (z) not allowed in string format specifier")
  if l.alternate then throw (.badValue "Alternate form (#) not allowed in string format specifier")
  if l.align == .inside then
    throw (.badValue "'=' alignment not allowed in string format specifier")
  let cs := match l.precision with
    | some n => s.toList.take n
    | none => s.toList
  let (before, after) := l.padding cs.length
  return String.ofList (List.replicate before l.fill ++ cs ++ List.replicate after l.fill)

end Layout

end PluginDescriptor
