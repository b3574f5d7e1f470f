import PluginDescriptor.Value.Layout.Number
import PluginDescriptor.Value.Text

/-!
# Fields of help templates

A field names a value and then, perhaps, an attribute or item of it, and so on; the value found may be
turned into a text, and is laid out as the field says.
-/

set_option autoImplicit false

namespace PluginDescriptor.Help

/-! ## Attributes and items -/

/-- A step from a value to a part of it. -/
inductive Access where
  | attribute_ (name : String)
  | item (name : String)
  | index (n : Nat)
  deriving Repr, Inhabited

/-- The attributes of a date. -/
def dateAttribute? (d : Date) (name : String) : Option Value :=
  match name with
  | "year" => some (.int d.year)
  | "month" => some (.int d.month)
  | "day" => some (.int d.day)
  | _ => none

/-- The attribute of a value with a name. -/
def attribute? (v : Value) (name : String) : Option Value :=
  match v with
  | .int i =>
    match name with
    | "real" | "numerator" => some (.int i)
    | "imag" => some (.int 0)
    | "denominator" => some (.int 1)
    | _ => none
  | .bool b =>
    match name with
    | "real" | "numerator" => some (.int (Value.ofTruth b))
    | "imag" => some (.int 0)
    | "denominator" => some (.int 1)
    | _ => none
  | .float x =>
    match name with
    | "real" => some (.float x)
    | "imag" => some (.float (Number.Binary64.zero false))
    | _ => none
  | .date d => dateAttribute? d name
  | .moment m =>
    match name with
    | "hour" => some (.int m.hour)
    | "minute" => some (.int m.minute)
    | "second" => some (.int m.second)
    | "microsecond" => some (.int m.microsecond)
    | "fold" => some (.int 0)
    | "tzinfo" => if m.offset.isNone then some .null else none
    | name => dateAttribute? m.date name
  | _ => none

/-- The fault of a value that has no items. -/
def noItems (v : Value) : Fault := .badKind s!"'{v.kindName}' object is not subscriptable"

/-- The item of a sequence at a position. -/
def itemAt (kind : String) (items : List Value) (n : Nat) : Except Fault Value :=
  match items[n]? with
  | some v => .ok v
  | none => .error (.noIndex s!"{kind} index out of range")

/-- The item of a value under a key that is a number. -/
def indexed (v : Value) (n : Nat) : Except Fault Value :=
  match v with
  | .list items => itemAt "list" items n
  | .tuple items => itemAt "tuple" items n
  | .str s => itemAt "string" (s.toList.map fun c => .str c.toString) n
  | .bytes b => (itemAt "" (b.map fun x => .int x.toNat) n).mapError fun _ => .noIndex "index out of range"
  | .map entries | .frozen entries =>
    match Fields.get? entries (.int n) with
    | some v => .ok v
    | none => .error (.noKey (.int n))
  | v => .error (noItems v)

/-- The item of a value under a key that is a text. -/
def keyed (v : Value) (key : String) : Except Fault Value :=
  match v with
  | .map entries | .frozen entries =>
    match Fields.find? entries key with
    | some v => .ok v
    | none => .error (.noKey (.str key))
  | v => .error (noItems v)

/-- The part of a value that an access leads to. -/
def Access.of (v : Value) : Access → Except Fault Value
  | attribute_ name =>
    match attribute? v name with
    | some found => .ok found
    | none => .error (.noAttribute s!"'{v.kindName}' object has no attribute '{name}'")
  | item name => keyed v name
  | index n => indexed v n

/-! ## Names of fields -/

/-- The number that a name is, when it holds digits only. -/
def number? (name : List Char) : Except Fault (Option Nat) := do
  if name.isEmpty then return none
  else if name.all Text.isDecimal then return (← Layout.takeNumber name).1
  else return none

/-- Whether a character begins an access. -/
def beginsAccess (c : Char) : Bool := c == '.' || c == '['

/-- The accesses of a field, in order; the name comes before them. They are followed as they are read,
so `follow` is given the value reached so far. -/
def follow : Nat → Value → List Char → Except Fault Value
  | 0, v, _ => .ok v
  | _ + 1, v, [] => .ok v
  | fuel + 1, v, '.' :: rest => do
    let name := rest.takeWhile fun c => !beginsAccess c
    if name.isEmpty then throw (.badValue "Empty attribute in format string")
    let next ← (Access.attribute_ (String.ofList name)).of v
    follow fuel next (rest.drop name.length)
  | fuel + 1, v, '[' :: rest => do
    let name := rest.takeWhile (· != ']')
    match rest.drop name.length with
    | [] => throw (.badValue "Missing ']' in format string")
    | _ :: rest =>
      let number ← number? name
      if name.isEmpty then throw (.badValue "Empty attribute in format string")
      let access := match number with
        | some n => Access.index n
        | none => Access.item (String.ofList name)
      follow fuel (← access.of v) rest
  | _ + 1, _, _ => .error (.badValue "Only '.' or '[' may follow ']' in format field specifier")

/-- The value that the name of a field leads to. Fields without a name and numbered fields have no
value. -/
def resolve (context : Entries) (name : List Char) : Except Fault Value := do
  let first := name.takeWhile fun c => !beginsAccess c
  let number ← number? first
  let position := if first.isEmpty then some 0 else number
  match position with
  | some n => throw (.noIndex s!"Replacement index {n} out of range for positional args tuple")
  | none =>
    match context.find? (String.ofList first) with
    | some v => follow (name.length + 1) v (name.drop first.length)
    | none => throw (.noKey (.str (String.ofList first)))

/-! ## Conversions and layouts -/

/-- Write a value out as a text, if that can be done. -/
def writeOut (v : Value) (text : String) : Except Fault String :=
  if v.isWritable then .ok text else .error .numberTooLong

/-- Turn a value into a text as a conversion says. -/
def convert (v : Value) (conversion : Char) : Except Fault Value :=
  match conversion with
  | 'r' => (writeOut v v.expression).map .str
  | 's' => (writeOut v v.text).map .str
  | 'a' => (writeOut v (Text.escapeBeyondAscii v.expression)).map .str
  | c =>
    let shown := Layout.shownChar c 127
    .error (.badValue s!"Unknown conversion specifier {shown}")

/-- Lay out a value. Texts and numbers have layouts, dates have patterns, and other values have no
layout but the empty one. -/
def layOut (v : Value) (spec : String) : Except Fault String :=
  if spec.isEmpty then writeOut v v.text
  else
    match v with
    | .str s => do (← Layout.parse "str" .left (some 's') spec).text s
    | .int i => Layout.intField "int" spec i
    | .bool b => Layout.intField "bool" spec (Value.ofTruth b)
    | .float x => Layout.floatField spec x
    | .date d =>
      .ok (Calendar.patternText
        { date := d, hour := 0, minute := 0, second := 0, microsecond := 0, offset := none } spec.toList)
    | .moment m => .ok (Calendar.patternText m spec.toList)
    | v =>
      let kind := v.kindName
      .error (.badKind s!"unsupported format string passed to {kind}.__format__")

end PluginDescriptor.Help
