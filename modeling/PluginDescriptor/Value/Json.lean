import PluginDescriptor.Fault

/-!
# Values as JSON

JSON text of values. Tuples are arrays, keys that are numbers, truth values or nothing are texts, and
what JSON has no form for is written as its plain text. What is no number and infinities are written
as bare names. Other keys, and whole numbers that are too long to be written out, have no JSON text.
-/

set_option autoImplicit false

namespace PluginDescriptor

/-- How JSON is laid out. -/
structure JsonStyle where
  /-- Escape all characters outside ASCII. -/
  asciiOnly : Bool
  /-- The width of a step of indentation, where each item has a line of its own. -/
  indent : Option Nat
  /-- Name kinds of values with the module they belong to. -/
  qualified : Bool
  deriving Repr, DecidableEq

namespace JsonStyle

/-- Everything on one line. -/
def line : JsonStyle := { asciiOnly := false, indent := none, qualified := true }

/-- Items on lines of their own. -/
def page : JsonStyle := { asciiOnly := true, indent := some 2, qualified := false }

/-! ## Texts -/

/-- The escape of a code unit. -/
def unitEscape (code : Nat) : List Char := '\\' :: 'u' :: Text.hexDigits 4 code

/-- The escape of a character by its code units in UTF-16. -/
def charEscape (c : Char) : List Char :=
  let code := c.toNat
  if code < 0x10000 then unitEscape code
  else
    unitEscape (0xD800 + (code - 0x10000) / 0x400) ++ unitEscape (0xDC00 + (code - 0x10000) % 0x400)

/-- A character inside quotes. -/
def quotedChar (style : JsonStyle) (c : Char) : List Char :=
  if c = '\x22' ∨ c = '\\' then ['\\', c]
  else if c = '\n' then ['\\', 'n']
  else if c = '\r' then ['\\', 'r']
  else if c = '\t' then ['\\', 't']
  else if c.toNat = 8 then ['\\', 'b']
  else if c.toNat = 12 then ['\\', 'f']
  else if c.toNat < 0x20 ∨ (style.asciiOnly ∧ 0x7F ≤ c.toNat) then charEscape c
  else [c]

/-- A text in quotes. -/
def quoted (style : JsonStyle) (s : String) : String :=
  String.ofList ('\x22' :: s.toList.flatMap style.quotedChar ++ ['\x22'])

/-- A fractional number. -/
def number (x : Number.Binary64) : String :=
  match x with
  | .nan => "NaN"
  | .infinite true => "-Infinity"
  | .infinite false => "Infinity"
  | x => x.text

/-- The text of a key. -/
def keyText (style : JsonStyle) : Value → Except Fault String
  | .str s => .ok s
  | .null => .ok "null"
  | .bool b => .ok (if b then "true" else "false")
  | .int i => (Value.int i).written
  | .float x => .ok (number x)
  | v =>
    let name := if style.qualified then v.qualifiedKindName else v.kindName
    .error (.badKind s!"keys must be str, int, float, bool or None, not {name}")

/-! ## Layout -/

/-- The break in front of an item at a depth. -/
def lineBreak (width depth : Nat) : String := "\n" ++ Text.replicate (width * depth) " "

/-- Items between brackets, `depth` brackets being open around them. -/
def bracket (style : JsonStyle) (depth : Nat) (opening closing : String) (items : List String) : String :=
  if items.isEmpty then opening ++ closing
  else
    match style.indent with
    | none => opening ++ Text.join ", " items ++ closing
    | some width =>
      let inner := lineBreak width (depth + 1)
      opening ++ inner ++ Text.join ("," ++ inner) items ++ lineBreak width depth ++ closing

end JsonStyle

namespace Value

mutual

/-- A value as JSON, `depth` brackets being open around it. -/
def jsonAt (style : JsonStyle) (depth : Nat) : Value → Except Fault String
  | .null => .ok "null"
  | .bool b => .ok (if b then "true" else "false")
  | .int i => (Value.int i).written
  | .float x => .ok (JsonStyle.number x)
  | .str s => .ok (style.quoted s)
  | .list items => do return style.bracket depth "[" "]" (← jsonItems style (depth + 1) items)
  | .tuple items => do return style.bracket depth "[" "]" (← jsonItems style (depth + 1) items)
  | .map entries => do
    return style.bracket depth "\x7b" "\x7d" (← jsonEntries style (depth + 1) entries)
  | v => v.written.map style.quoted

/-- Items as JSON. -/
def jsonItems (style : JsonStyle) (depth : Nat) : List Value → Except Fault (List String)
  | [] => .ok []
  | v :: rest => do
    let item ← jsonAt style depth v
    return item :: (← jsonItems style depth rest)

/-- Entries as JSON. -/
def jsonEntries (style : JsonStyle) (depth : Nat) : List (Value × Value) → Except Fault (List String)
  | [] => .ok []
  | (k, v) :: rest => do
    let key ← style.keyText k
    let value ← jsonAt style depth v
    return (style.quoted key ++ ": " ++ value) :: (← jsonEntries style depth rest)

end

/-- A value as JSON. -/
def json (style : JsonStyle) (v : Value) : Except Fault String := jsonAt style 0 v

end Value

end PluginDescriptor
