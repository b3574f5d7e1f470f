import PluginDescriptor.Text.Printable

/-!
# Quoted texts

A text in quotes: single ones, unless it holds a single quote and no double one. The quote and the
backslash are escaped, and so is every character that does not print as itself.
-/

set_option autoImplicit false

namespace PluginDescriptor.Text

/-- The lower-case digits of `n` in base 16, at least `width` of them. -/
def hexDigits (width n : Nat) : List Char :=
  let ds := Nat.toDigits 16 n
  List.replicate (width - ds.length) '0' ++ ds

/-- The escape of a character by its code point, as short as it goes. -/
def codeEscape (code : Nat) : List Char :=
  if code < 0x100 then '\\' :: 'x' :: hexDigits 2 code
  else if code < 0x10000 then '\\' :: 'u' :: hexDigits 4 code
  else '\\' :: 'U' :: hexDigits 8 code

/-- A character inside quotes; `shows` says which characters print as themselves. -/
def quotedChar (shows : Char → Bool) (quote c : Char) : List Char :=
  if c = quote ∨ c = '\\' then ['\\', c]
  else if c = '\t' then ['\\', 't']
  else if c = '\n' then ['\\', 'n']
  else if c = '\r' then ['\\', 'r']
  else if shows c then [c]
  else codeEscape c.toNat

/-- The quote for a text: single, unless the text holds a single quote and no double one. -/
def quoteFor (s : List Char) : Char :=
  if s.contains '\x27' && !s.contains '\x22' then '\x22' else '\x27'

/-- The text in quotes. -/
def quoted (s : String) : String :=
  let q := quoteFor s.toList
  String.ofList (q :: s.toList.flatMap (quotedChar isPrintable q) ++ [q])

/-- Escape every character outside ASCII by its code point. -/
def escapeBeyondAscii (s : String) : String :=
  String.ofList (s.toList.flatMap fun c => if c.toNat < 0x80 then [c] else codeEscape c.toNat)

/-- Bytes in quotes, after a mark that says that they are bytes. -/
def quotedBytes (bytes : List UInt8) : String :=
  let s := bytes.map fun b => Char.ofNat b.toNat
  let q := quoteFor s
  let shows (c : Char) : Bool := 0x20 ≤ c.toNat && c.toNat < 0x7F
  String.ofList ('b' :: q :: s.flatMap (quotedChar shows q) ++ [q])

end PluginDescriptor.Text
