import PluginDescriptor.Text.Split

/-!
# Dates and times of day

Dates of the Gregorian calendar from year 1 to 9999, and moments made of a date, a time of day and an
optional offset from universal time. Building one checks every field and names the first that is out
of range.
-/

set_option autoImplicit false

namespace PluginDescriptor

namespace Calendar

/-- A span of seconds that may be negative, as an offset from universal time. -/
abbrev Seconds := Int

/-- Seconds in a day. -/
def daySeconds : Int := 86400

/-- Why fields make no date or time. -/
inductive Fault where
  | year (value : Nat)
  | month
  | day
  | hour
  | minute
  | second
  | offset (seconds : Seconds)
  deriving Repr, DecidableEq

/-- A span as days and the seconds within a day, leaving out what is zero. -/
def spanText (seconds : Seconds) : String :=
  let days := Int.fdiv seconds daySeconds
  let rest := Int.fmod seconds daySeconds
  let parts := (if days = 0 then [] else [s!"days={days}"]) ++
    (if rest = 0 then [] else [s!"seconds={rest}"])
  let fields := if parts.isEmpty then "0" else Text.join ", " parts
  s!"datetime.timedelta({fields})"

/-- The text of a fault. -/
def Fault.message : Fault → String
  | .year value => s!"year {value} is out of range"
  | .month => "month must be in 1..12"
  | .day => "day is out of range for month"
  | .hour => "hour must be in 0..23"
  | .minute => "minute must be in 0..59"
  | .second => "second must be in 0..59"
  | .offset seconds =>
    "offset must be a timedelta strictly between -timedelta(hours=24) and timedelta(hours=24), not "
      ++ spanText seconds ++ "."

/-- A number with zeros in front up to a width. -/
def padded (width n : Nat) : String :=
  let ds := toString n
  Text.replicate (width - ds.length) "0" ++ ds

/-- A year with a 29th of February. -/
def isLeap (year : Nat) : Bool := year % 4 == 0 && (year % 100 != 0 || year % 400 == 0)

/-- The days of a month. -/
def daysIn (year month : Nat) : Nat :=
  if month = 2 then (if isLeap year then 29 else 28)
  else if month = 4 ∨ month = 6 ∨ month = 9 ∨ month = 11 then 30
  else 31

end Calendar

open Calendar

/-- A day of the calendar. -/
structure Date where
  year : Nat
  month : Nat
  day : Nat
  deriving Repr, DecidableEq, Inhabited

namespace Date

/-- The date with these fields, which are checked from the year on. -/
def ofFields (year month day : Nat) : Except Calendar.Fault Date :=
  if year < 1 ∨ 9999 < year then .error (.year year)
  else if month < 1 ∨ 12 < month then .error .month
  else if day < 1 ∨ daysIn year month < day then .error .day
  else .ok { year, month, day }

/-- The days from the first of January of the year 1. -/
def ordinal (d : Date) : Nat :=
  let y := d.year - 1
  y * 365 + y / 4 - y / 100 + y / 400 + dayOfYear d
where
  /-- The number of the day within its year, from 1. -/
  dayOfYear (d : Date) : Nat :=
    (List.range (d.month - 1)).foldl (fun days m => days + daysIn d.year (m + 1)) d.day

/-- The day of the week, Monday being 0. -/
def weekday (d : Date) : Nat := (d.ordinal + 6) % 7

/-- Year, month and day with dashes. -/
def text (d : Date) : String := s!"{padded 4 d.year}-{padded 2 d.month}-{padded 2 d.day}"

/-- The date as an expression of its fields. -/
def expression (d : Date) : String := s!"datetime.date({d.year}, {d.month}, {d.day})"

end Date

/-- A date, a time of day and perhaps an offset from universal time. -/
structure Moment where
  date : Date
  hour : Nat
  minute : Nat
  second : Nat
  microsecond : Nat
  offset : Option Calendar.Seconds
  deriving Repr, DecidableEq, Inhabited

namespace Moment

/-- The moment with these fields: the offset is checked first, then the date, then the time. -/
def ofFields (year month day hour minute second microsecond : Nat) (offset : Option Calendar.Seconds) :
    Except Calendar.Fault Moment := do
  match offset with
  | some s => if s.natAbs ≥ daySeconds.natAbs then throw (.offset s)
  | none => pure ()
  let date ← Date.ofFields year month day
  if 23 < hour then throw .hour
  if 59 < minute then throw .minute
  if 59 < second then throw .second
  return { date, hour, minute, second, microsecond, offset }

/-- An offset as a sign, hours, minutes and, when there are any, seconds. -/
def offsetText (separator : String) (offset : Calendar.Seconds) : String :=
  let n := offset.natAbs
  let seconds := if n % 60 = 0 then "" else separator ++ padded 2 (n % 60)
  let sign := if offset < 0 then "-" else "+"
  s!"{sign}{padded 2 (n / 3600)}{separator}{padded 2 (n / 60 % 60)}{seconds}"

/-- Date and time, with what stands between them. -/
def textWith (between : String) (m : Moment) : String :=
  let fraction := if m.microsecond = 0 then "" else "." ++ padded 6 m.microsecond
  let time := s!"{padded 2 m.hour}:{padded 2 m.minute}:{padded 2 m.second}{fraction}"
  let zone := (m.offset.map (offsetText ":")).getD ""
  s!"{m.date.text}{between}{time}{zone}"

/-- Date and time with a `T` between them. -/
def isoText (m : Moment) : String := m.textWith "T"

/-- Date and time with a space between them. -/
def text (m : Moment) : String := m.textWith " "

/-- An offset as an expression. -/
def offsetExpression (offset : Calendar.Seconds) : String :=
  if offset = 0 then "datetime.timezone.utc" else s!"datetime.timezone({spanText offset})"

/-- The moment as an expression of its fields; seconds are left out when nothing smaller is there. -/
def expression (m : Moment) : String :=
  let d := m.date
  let smaller :=
    if m.microsecond ≠ 0 then [m.second, m.microsecond]
    else if m.second ≠ 0 then [m.second]
    else []
  let fields := [d.year, d.month, d.day, m.hour, m.minute] ++ smaller
  let zone := match m.offset with
    | some s => s!", tzinfo={offsetExpression s}"
    | none => ""
  let body := Text.join ", " (fields.map toString)
  s!"datetime.datetime({body}{zone})"

/-- Microseconds since the start of the year 1, taken as universal time when there is no offset. -/
def instant (m : Moment) : Int :=
  let seconds : Int := (((m.date.ordinal * 24 + m.hour) * 60 + m.minute) * 60 + m.second : Nat)
  (seconds - m.offset.getD 0) * 1000000 + m.microsecond

/-- The same instant; a moment with an offset never equals one without. -/
def same (m n : Moment) : Bool :=
  m.offset.isSome == n.offset.isSome && m.instant == n.instant

end Moment

namespace Calendar

/-- The names of the days of the week, from Monday. -/
def dayNames : List String :=
  ["Monday", "Tuesday", "Wednesday", "Thursday", "Friday", "Saturday", "Sunday"]

/-- The names of the months. -/
def monthNames : List String :=
  ["January", "February", "March", "April", "May", "June", "July", "August", "September", "October",
    "November", "December"]

/-- A number with spaces in front up to a width. -/
def spaced (width n : Nat) : String :=
  let ds := toString n
  Text.replicate (width - ds.length) " " ++ ds

/-- The year and number of the week that holds a day, weeks starting on Monday and belonging to the
year of their Thursday. -/
def isoWeek (d : Date) : Nat × Nat :=
  let thursday : Int := (d.ordinal : Int) - d.weekday + 3
  let yearStart (y : Nat) : Int := (Date.ordinal { year := y, month := 1, day := 1 } : Nat)
  let year := if thursday < yearStart d.year then d.year - 1
    else if yearStart (d.year + 1) ≤ thursday then d.year + 1 else d.year
  (year, ((thursday - yearStart year) / 7).toNat + 1)

/-- The hour on a clock of twelve hours. -/
def twelveHour (hour : Nat) : Nat := if hour % 12 = 0 then 12 else hour % 12

/-- The text of one conversion letter of a date pattern; an unknown letter stands for itself. -/
def fieldText (m : Moment) (letter : Char) : String :=
  let d := m.date
  let weekday := d.weekday
  let dayOfYear := Date.ordinal.dayOfYear d
  let sunday := (weekday + 1) % 7
  let short (names : List String) (i : Nat) : String := String.ofList ((names.getD i "").toList.take 3)
  let clock := s!"{padded 2 m.hour}:{padded 2 m.minute}:{padded 2 m.second}"
  let half := if m.hour < 12 then "AM" else "PM"
  match letter with
  | 'Y' => toString d.year
  | 'C' => toString (d.year / 100)
  | 'y' => padded 2 (d.year % 100)
  | 'm' => padded 2 d.month
  | 'd' => padded 2 d.day
  | 'e' => spaced 2 d.day
  | 'H' => padded 2 m.hour
  | 'I' => padded 2 (twelveHour m.hour)
  | 'k' => spaced 2 m.hour
  | 'l' => spaced 2 (twelveHour m.hour)
  | 'M' => padded 2 m.minute
  | 'S' => padded 2 m.second
  | 'f' => padded 6 m.microsecond
  | 'p' => half
  | 'P' => if m.hour < 12 then "am" else "pm"
  | 'j' => padded 3 dayOfYear
  | 'a' => short dayNames weekday
  | 'A' => dayNames.getD weekday ""
  | 'b' => short monthNames (d.month - 1)
  | 'h' => short monthNames (d.month - 1)
  | 'B' => monthNames.getD (d.month - 1) ""
  | 'u' => toString (weekday + 1)
  | 'w' => toString sunday
  | 'U' => padded 2 ((dayOfYear + 6 - sunday) / 7)
  | 'W' => padded 2 ((dayOfYear + 6 - weekday) / 7)
  | 'G' => toString (isoWeek d).1
  | 'g' => padded 2 ((isoWeek d).1 % 100)
  | 'V' => padded 2 (isoWeek d).2
  | 'z' => (m.offset.map (Moment.offsetText "")).getD ""
  | 'Z' => match m.offset with
    | some 0 => "UTC"
    | some s => "UTC" ++ Moment.offsetText ":" s
    | none => ""
  | 'F' => s!"{d.year}-{padded 2 d.month}-{padded 2 d.day}"
  | 'T' => clock
  | 'X' => clock
  | 'R' => s!"{padded 2 m.hour}:{padded 2 m.minute}"
  | 'r' => s!"{padded 2 (twelveHour m.hour)}:{padded 2 m.minute}:{padded 2 m.second} {half}"
  | 'D' => s!"{padded 2 d.month}/{padded 2 d.day}/{padded 2 (d.year % 100)}"
  | 'x' => s!"{padded 2 d.month}/{padded 2 d.day}/{padded 2 (d.year % 100)}"
  | 'c' => s!"{short dayNames weekday} {short monthNames (d.month - 1)} {spaced 2 d.day} {clock} {d.year}"
  | 's' => toString ({ m with offset := none }.instant / 1000000 - (719163 : Int) * daySeconds)
  | 'n' => "\n"
  | 't' => "\t"
  | '%' => "%"
  | c => String.ofList ['%', c]

/-- The text of a field without what fills it up at the front, if it is a number. -/
def unfilled (text : String) : String :=
  let cs := text.toList
  if cs.all fun c => c.isDigit || c == ' ' then
    match cs.dropWhile fun c => c == '0' || c == ' ' with
    | [] => "0"
    | rest => String.ofList rest
  else text

/-- Fill in a date pattern: `%` and a letter stand for a field, with a dash between them for one that
is not filled up at the front, and all else stands for itself. -/
def patternText (m : Moment) : List Char → String
  | [] => ""
  | '%' :: '-' :: c :: rest => unfilled (fieldText m c) ++ patternText m rest
  | '%' :: c :: rest => fieldText m c ++ patternText m rest
  | c :: rest => c.toString ++ patternText m rest

end Calendar

end PluginDescriptor
