import PluginDescriptor.Text.Quoted

/-!
# Encodings of output

What is printed goes through an encoding, which may lack characters. A text with characters that it
lacks is refused as a whole; all encodings have the characters of ASCII.
-/

set_option autoImplicit false

namespace PluginDescriptor.Text

/-- The characters of ASCII. -/
def isAscii (c : Char) : Bool := c.toNat < 0x80

/-- An encoding, as far as it tells what can be printed. -/
structure Encoding where
  name : String
  /-- The characters that it has. -/
  covers : Char → Bool
  /-- What is said of the others. -/
  reason : String
  covers_ascii : ∀ c, isAscii c = true → covers c = true

namespace Encoding

/-- The encoding that has all characters. -/
def utf8 : Encoding where
  name := "utf-8"
  covers _ := true
  reason := "surrogates not allowed"
  covers_ascii _ _ := rfl

instance : Inhabited Encoding := ⟨utf8⟩

/-- The encoding that has the characters of ASCII alone. -/
def ascii : Encoding where
  name := "ascii"
  covers := isAscii
  reason := "ordinal not in range(128)"
  covers_ascii _ h := h

/-- The encoding has all characters of a text. -/
def holds (e : Encoding) (s : String) : Bool := s.toList.all e.covers

/-- What is said of a text with characters that the encoding lacks: where the first of them stand in a
row. -/
def refusal (e : Encoding) (s : String) : String :=
  let start := (s.toList.takeWhile e.covers).length
  let lacking := (s.toList.drop start).takeWhile fun c => !e.covers c
  match lacking with
  | [c] =>
    let shown := String.ofList (codeEscape c.toNat)
    s!"'{e.name}' codec can't encode character '{shown}' in position {start}: {e.reason}"
  | _ =>
    let last := start + lacking.length - 1
    s!"'{e.name}' codec can't encode characters in position {start}-{last}: {e.reason}"

example : ascii.refusal "a \u2192 b" =
    "'ascii' codec can't encode character '\\u2192' in position 2: ordinal not in range(128)" := by
  decide

end Encoding

end PluginDescriptor.Text
