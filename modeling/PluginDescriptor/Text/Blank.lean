import PluginDescriptor.Text.CodeRange

/-!
# Blank characters

The white-space characters of Unicode in the broad sense: the separators, and the control characters
that end or space out lines. Trimming a text removes them from its ends.
-/

set_option autoImplicit false

namespace PluginDescriptor.Text

/-- The code points of white-space characters. -/
def blankRanges : Array (Nat × Nat) := #[
  (0x9, 0xD), (0x1C, 0x20), (0x85, 0x85), (0xA0, 0xA0), (0x1680, 0x1680), (0x2000, 0x200A),
  (0x2028, 0x2029), (0x202F, 0x202F), (0x205F, 0x205F), (0x3000, 0x3000)]

/-- A white-space character. -/
def isBlank (c : Char) : Bool := inRanges blankRanges c.toNat

/-- Drop the characters of `p` from both ends. -/
def trimWhere (p : Char → Bool) (s : List Char) : List Char :=
  ((s.dropWhile p).reverse.dropWhile p).reverse

/-- Drop the white space at both ends. -/
def trim (s : String) : String := String.ofList (trimWhere isBlank s.toList)

end PluginDescriptor.Text
