import PluginDescriptor.Fault
import PluginDescriptor.Text.Base64
import PluginDescriptor.Text.Case
import PluginDescriptor.Text.Numeral
import PluginDescriptor.Text.Split

/-!
# YAML scalars

A plain scalar without a tag gets one by its form: truth values, whole and fractional numbers, dates,
nothing, the merge key and the value key. A scalar is then read as its tag says; a text that has the
form and stands for no value, such as the 31st of February, is a fault of its own kind.
-/

set_option autoImplicit false

namespace PluginDescriptor.Yaml

open Number (Binary64)

/-- The kinds that tags name. -/
inductive Tag where
  | null
  | bool
  | int
  | float
  | binary
  | moment
  | str
  | sequence
  | mapping
  | set
  | ordered
  | pairs
  | merge
  | value
  /-- Any tag that names no kind of value. -/
  | other
  deriving Repr, DecidableEq, Inhabited

namespace Tag

/-- What the handle `!!` stands for. -/
def standardLead : String := "tag:yaml.org,2002:"

/-- The names of the kinds, after the lead of standard tags. -/
def names : List (String × Tag) :=
  [("null", null), ("bool", bool), ("int", int), ("float", float), ("binary", binary),
    ("timestamp", moment), ("str", str), ("seq", sequence), ("map", mapping), ("set", set),
    ("omap", ordered), ("pairs", pairs), ("merge", merge), ("value", value)]

/-- The kind that a full tag names. -/
def ofUri (uri : String) : Tag :=
  match Text.dropLead? standardLead.toList uri.toList with
  | none => other
  | some name => ((names.find? fun e => e.1.toList == name).map (·.2)).getD other

end Tag

/-! ## The forms of plain scalars -/

namespace Form

/-- One of the characters of `p`, then more characters of `q` only. -/
def leads (p q : Char → Bool) (s : List Char) : Bool :=
  match s with
  | c :: rest => p c && rest.all q
  | [] => false

/-- A digit from 1 to 9. -/
def isPositiveDigit (c : Char) : Bool := c.isDigit && c != '0'

/-- A digit or an underscore. -/
def isLooseDigit (c : Char) : Bool := c.isDigit || c == '_'

/-- A digit of a base or an underscore. -/
def isLooseDigitIn (base : Nat) (c : Char) : Bool := Text.isDigitIn base c || c == '_'

/-- Drop one sign. -/
def unsigned (s : List Char) : List Char :=
  match s with
  | '-' :: rest => rest
  | '+' :: rest => rest
  | s => s

/-- A number from 0 to 59, in one or two digits. -/
def isSixtieth (s : List Char) : Bool :=
  match s with
  | [c] => c.isDigit
  | [a, b] => '0' ≤ a && a ≤ '5' && b.isDigit
  | _ => false

/-- A number with places of sixty after the first, separated by colons. -/
def isSexagesimal (first : Char → Bool) (s : List Char) : Bool :=
  match Text.splitAt ':' s with
  | head :: part :: parts => leads first isLooseDigit head && (part :: parts).all isSixtieth
  | _ => false

/-- A whole number. -/
def isInt (s : List Char) : Bool :=
  let s := unsigned s
  match s with
  | '0' :: 'b' :: rest => !rest.isEmpty && rest.all (isLooseDigitIn 2)
  | '0' :: 'x' :: rest => !rest.isEmpty && rest.all (isLooseDigitIn 16)
  | '0' :: rest => rest.all (isLooseDigitIn 8)
  | s => leads isPositiveDigit isLooseDigit s || isSexagesimal isPositiveDigit s

/-- Nothing, or an exponent with its sign. -/
def isExponent (s : List Char) : Bool :=
  match s with
  | [] => true
  | e :: sign :: c :: rest =>
    (e == 'e' || e == 'E') && (sign == '-' || sign == '+') && (c :: rest).all Char.isDigit
  | _ => false

/-- A number with a point, or the name of an infinity or of what is no number. -/
def isFloat (s : List Char) : Bool :=
  let fraction (rest : List Char) : Bool := isExponent (rest.dropWhile isLooseDigit)
  let body := unsigned s
  let decimal :=
    match Text.cutAt '.' body with
    | (whole, some rest) =>
      (leads Char.isDigit isLooseDigit whole && fraction rest)
        || (isSexagesimal Char.isDigit whole && rest.all isLooseDigit)
    | _ => false
  let short :=
    match s with
    | '.' :: c :: rest => c.isDigit && fraction rest
    | _ => false
  decimal || short || [".inf", ".Inf", ".INF"].any (·.toList == body)
    || [".nan", ".NaN", ".NAN"].any (·.toList == s)

/-- A truth value. -/
def isBool (s : List Char) : Bool :=
  ["yes", "Yes", "YES", "no", "No", "NO", "true", "True", "TRUE", "false", "False", "FALSE", "on", "On",
    "ON", "off", "Off", "OFF"].any (·.toList == s)

/-- Nothing. -/
def isNull (s : List Char) : Bool := ["~", "null", "Null", "NULL", ""].any (·.toList == s)

end Form

/-! ## Dates and times -/

namespace TimeText

/-- The fields of a written date or moment. -/
structure Fields where
  year : List Char
  month : List Char
  day : List Char
  /-- Hour, minute, second and the digits of a fraction. -/
  time : Option (List Char × List Char × List Char × List Char)
  /-- The sign, hour and minute of an offset; `none` inside for universal time. -/
  zone : Option (Option (Bool × List Char × List Char))

/-- Digits, at least `least` and at most `most`, and what follows. -/
def digits (least most : Nat) (s : List Char) : Option (List Char × List Char) :=
  let ds := (s.take most).takeWhile Char.isDigit
  if ds.length < least then none else some (ds, s.drop ds.length)

/-- What follows a character. -/
def expect (c : Char) (s : List Char) : Option (List Char) :=
  match s with
  | d :: rest => if c = d then some rest else none
  | [] => none

/-- A blank. -/
def isTimeBlank (c : Char) : Bool := c == ' ' || c == '\t'

/-- What follows the mark between date and time. -/
def timeMark (s : List Char) : Option (List Char) :=
  match s with
  | 'T' :: rest => some rest
  | 't' :: rest => some rest
  | c :: rest => if isTimeBlank c then some (rest.dropWhile isTimeBlank) else none
  | [] => none

/-- An offset at the end. -/
def zone (s : List Char) : Option (Option (Option (Bool × List Char × List Char))) := do
  match s with
  | [] => return none
  | s =>
    match s.dropWhile isTimeBlank with
    | ['Z'] => return some none
    | c :: rest =>
      if c != '+' && c != '-' then none
      let (hour, rest) ← digits 1 2 rest
      match rest with
      | [] => return some (some (c == '-', hour, []))
      | rest =>
        let (minute, rest) ← digits 2 2 (← expect ':' rest)
        if rest.isEmpty then return some (some (c == '-', hour, minute)) else none
    | [] => none

/-- The fields of a date, with a time when `time` is set or there is one. -/
def fields? (s : List Char) : Option Fields := do
  let (year, s) ← digits 4 4 s
  let (month, s) ← digits 1 2 (← expect '-' s)
  let (day, s) ← digits 1 2 (← expect '-' s)
  if s.isEmpty then return { year, month, day, time := none, zone := none }
  let (hour, s) ← digits 1 2 (← timeMark s)
  let (minute, s) ← digits 2 2 (← expect ':' s)
  let (second, s) ← digits 2 2 (← expect ':' s)
  let (fraction, s) :=
    match s with
    | '.' :: rest => (rest.takeWhile Char.isDigit, rest.dropWhile Char.isDigit)
    | s => ([], s)
  let zone ← zone s
  return { year, month, day, time := some (hour, minute, second, fraction), zone }

/-- A date, or a moment, in the form that needs no tag: a date alone has two digits for month and
day. -/
def isPlain (s : List Char) : Bool :=
  match fields? s with
  | some f => f.time.isSome || (f.month.length == 2 && f.day.length == 2)
  | none => false

/-- The number written by digits. -/
def number (ds : List Char) : Nat := Text.digitsValue 10 ds

/-- The date or moment with these fields. -/
def value (f : Fields) : Except Calendar.Fault Value :=
  match f.time with
  | none => (Date.ofFields (number f.year) (number f.month) (number f.day)).map .date
  | some (hour, minute, second, fraction) =>
    let micro := number ((fraction ++ List.replicate 6 '0').take 6)
    let offset := f.zone.map fun zone =>
      match zone with
      | none => (0 : Int)
      | some (negative, hour, minute) =>
        let seconds : Int := (number hour * 60 + number minute) * 60
        if negative then -seconds else seconds
    (Moment.ofFields (number f.year) (number f.month) (number f.day) (number hour) (number minute)
      (number second) micro offset).map .moment

end TimeText

/-- The text without one line feed at its end. -/
def dropLastFeed (s : List Char) : List Char := if s.getLast? == some '\n' then s.dropLast else s

/-- The tag of a plain scalar, by its form. -/
def plainTag (text : String) : Tag :=
  let s := dropLastFeed text.toList
  if text.isEmpty then .null
  else if s.isEmpty then .str
  else if Form.isBool s then .bool
  else if Form.isFloat s then .float
  else if Form.isInt s then .int
  else if s == "<<".toList then .merge
  else if Form.isNull s then .null
  else if TimeText.isPlain s then .moment
  else if s == ['='] then .value
  else if s == ['!'] || s == ['&'] || s == ['*'] then .other
  else .str

/-! ## Reading scalars -/

/-- The truth values by their lower-case names. -/
def truthNames : List (String × Bool) :=
  [("yes", true), ("no", false), ("true", true), ("false", false), ("on", true), ("off", false)]

/-- A whole number in a base, or the fault that names the text. -/
def intOf (base : Nat) (text : List Char) : Except Fault Int :=
  let text := String.ofList text
  match Text.readInt base text with
  | .ok n => .ok n
  | .error fault => .error (.badValue (fault.message base text))

/-- The value of places of sixty, the last one first. -/
def sexagesimal (places : List Int) : Int := (places.foldr (fun d v => v * 60 + d) 0)

/-- A whole number in any of its notations. -/
def readInt (text : String) : Except Fault Int := do
  let s := text.toList.filter (· != '_')
  let negative := s.head? == some '-'
  if s.isEmpty then throw (.noIndex "string index out of range")
  let body := Form.unsigned s
  let signed (n : Int) : Int := if negative then -n else n
  match body with
  | [] => throw (.noIndex "string index out of range")
  | ['0'] => return 0
  | '0' :: 'b' :: rest => return signed (← intOf 2 rest)
  | '0' :: 'x' :: rest => return signed (← intOf 16 rest)
  | '0' :: _ => return signed (← intOf 8 body)
  | _ =>
    match Text.splitAt ':' body with
    | [_] => return signed (← intOf 10 body)
    | parts => return signed (sexagesimal (← parts.mapM (intOf 10)).reverse)

/-- A fractional number, or the fault that names the text. -/
def floatOf (text : List Char) : Except Fault Binary64 :=
  let text := String.ofList text
  match Text.readFloat? text with
  | some x => .ok x
  | none => .error (.badValue ("could not convert string to float: " ++ Text.quoted text))

/-- The sum of places of sixty, the last one first; `base` is the weight of the first of them. -/
def sexagesimalFloat (base : Int) (sum : Binary64) : List Binary64 → Except Fault Binary64
  | [] => .ok sum
  | d :: rest =>
    match Binary64.ofInt base with
    | .infinite _ => .error (.tooLarge "int too large to convert to float")
    | weight => sexagesimalFloat (base * 60) (sum.add (d.mul weight)) rest

/-- A fractional number in any of its notations. -/
def readFloat (text : String) : Except Fault Binary64 := do
  let s := (Text.lower (String.ofList (text.toList.filter (· != '_')))).toList
  if s.isEmpty then throw (.noIndex "string index out of range")
  let sign := Binary64.ofInt (if s.head? == some '-' then -1 else 1)
  let body := Form.unsigned s
  if body == ".inf".toList then return sign.mul (.infinite false)
  else if body == ".nan".toList then return .nan
  else
    match Text.splitAt ':' body with
    | [_] => return sign.mul (← floatOf body)
    | parts =>
      return sign.mul (← sexagesimalFloat 1 (.ofInt 0) (← parts.mapM floatOf).reverse)

/-- A date or moment. -/
def readMoment (text : String) : Except Fault Value :=
  match TimeText.fields? (dropLastFeed text.toList) with
  | none => .error (.noAttribute "no match")
  | some fields => (TimeText.value fields).mapError fun f => .badValue f.message

/-- The bytes written in a text of ASCII characters. -/
def readBinary (text : String) : Except Fault Value :=
  if text.toList.all fun c => c.toNat < 0x80 then
    match Text.readBase64? text with
    | some bytes => .ok (.bytes bytes)
    | none => .error .notYaml
  else .error .notYaml

/-- The value of a scalar with a tag. Tags of collections and unknown tags have none. -/
def scalarValue (tag : Tag) (text : String) : Except Fault Value :=
  match tag with
  | .null => .ok .null
  | .bool =>
    let name := Text.lower text
    match truthNames.find? (·.1 == name) with
    | some (_, b) => .ok (.bool b)
    | none => .error (.noKey (.str name))
  | .int => (readInt text).map .int
  | .float => (readFloat text).map .float
  | .binary => readBinary text
  | .moment => readMoment text
  | .str => .ok (.str text)
  | _ => .error .notYaml

end PluginDescriptor.Yaml
