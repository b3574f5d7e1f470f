import PluginDescriptor.Help.Field

/-!
# Help templates

A template is a text with fields in braces; doubled braces stand for themselves. A field has a name,
perhaps a conversion after an exclamation mark, and perhaps a layout after a colon, which may hold
fields of its own. Fields are filled in from left to right, so the first fault in the text counts.
-/

set_option autoImplicit false

namespace PluginDescriptor.Help

/-- A field as it is written. -/
structure FieldText where
  name : List Char
  conversion : Option Char
  layout : List Char
  /-- The layout holds fields. -/
  nested : Bool
  deriving Repr, Inhabited

/-- A character of braces. -/
def isBrace (c : Char) : Bool := c == '\x7b' || c == '\x7d'

/-- The name of a field, the character that ends it, and what follows. Inside square brackets nothing
ends a name; `inside` tells that one is open. -/
def takeName (inside : Bool) : List Char → Except Fault (List Char × Char × List Char)
  | [] => .error (.badValue "expected '\x7d' before end of string")
  | c :: rest =>
    if inside then do
      let (name, stop, rest) ← takeName (c != ']') rest
      return (c :: name, stop, rest)
    else if c == '\x7b' then .error (.badValue "unexpected '\x7b' in field name")
    else if c == '\x7d' || c == ':' || c == '!' then .ok ([], c, rest)
    else do
      let (name, stop, rest) ← takeName (c == '[') rest
      return (c :: name, stop, rest)

/-- A layout up to the brace that closes its field, `depth` other braces being open, and what
follows. -/
def takeLayout (depth : Nat) : List Char → Except Fault (List Char × List Char)
  | [] => .error (.badValue "unmatched '\x7b' in format spec")
  | c :: rest =>
    if c == '\x7d' && depth == 0 then .ok ([], rest)
    else do
      let depth := if c == '\x7b' then depth + 1 else if c == '\x7d' then depth - 1 else depth
      let (layout, rest) ← takeLayout depth rest
      return (c :: layout, rest)

/-- A conversion after its exclamation mark; whether it ends the field is told too. -/
def takeConversion : List Char → Except Fault (Char × Bool × List Char)
  | [] => .error (.badValue "end of string while looking for conversion specifier")
  | [c] => .ok (c, false, [])
  | c :: mark :: rest =>
    if mark == '\x7d' then .ok (c, true, rest)
    else if mark == ':' then .ok (c, false, rest)
    else .error (.badValue "expected ':' after conversion specifier")

/-- A field after its opening brace, and what follows. -/
def takeField (s : List Char) : Except Fault (FieldText × List Char) := do
  let (name, stop, rest) ← takeName false s
  if stop == '\x7d' then return ({ name, conversion := none, layout := [], nested := false }, rest)
  let (conversion, closed, rest) ←
    if stop == '!' then do
      let (c, closed, rest) ← takeConversion rest
      pure (some c, closed, rest)
    else pure (none, false, rest)
  if closed then return ({ name, conversion, layout := [], nested := false }, rest)
  let (layout, rest) ← takeLayout 0 rest
  return ({ name, conversion, layout, nested := layout.contains '\x7b' }, rest)

/-- Fill in one field; `expand` fills in the fields of its layout. -/
def fillField (context : Entries) (expand : List Char → Except Fault String) (f : FieldText) :
    Except Fault String := do
  let found ← resolve context f.name
  let v ←
    match f.conversion with
    | some c => convert found c
    | none => pure found
  let layout ← if f.nested then expand f.layout else pure (String.ofList f.layout)
  layOut v layout

/-- Fill in the fields of a text. -/
def fillText (context : Entries) (expand : List Char → Except Fault String) :
    Nat → List Char → Except Fault String
  | 0, _ => .ok ""
  | fuel + 1, s => do
    let plain := s.takeWhile fun c => !isBrace c
    let text := String.ofList plain
    match s.drop plain.length with
    | [] => return text
    | brace :: rest =>
      if rest.head? == some brace then
        return text ++ brace.toString ++ (← fillText context expand fuel rest.tail)
      else if brace == '\x7d' then
        throw (.badValue "Single '\x7d' encountered in format string")
      else if rest.isEmpty then
        throw (.badValue "Single '\x7b' encountered in format string")
      else
        let (f, rest) ← takeField rest
        let filled ← fillField context expand f
        return text ++ filled ++ (← fillText context expand fuel rest)

/-- Fill in a text whose layouts may hold fields down to some depth. -/
def fillDeep (context : Entries) : Nat → List Char → Except Fault String
  | 0, _ => .error (.badValue "Max string recursion exceeded")
  | depth + 1, s => fillText context (fillDeep context depth) (s.length + 1) s

/-- Fill in a template from values by name. What stands under a key that is no text cannot be named,
and does no harm. -/
def fill (template : String) (context : Entries) : Except Fault String :=
  fillDeep context 2 template.toList

end PluginDescriptor.Help
