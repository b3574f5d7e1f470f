import PluginDescriptor.Text.Case

/-!
# Characters that differ only in case

Two characters are taken for each other when case is ignored if their lower-case forms are the same
character, or different lower-case characters with one upper-case form.
-/

set_option autoImplicit false

namespace PluginDescriptor.Pattern

/-- Lower-case characters with the other lower-case characters that share their upper-case form. -/
def lowerTwins : Array (Nat × List Nat) := #[
  (0x69, [0x131]), (0x73, [0x17F]), (0xB5, [0x3BC]), (0x131, [0x69]), (0x17F, [0x73]),
  (0x345, [0x3B9, 0x1FBE]), (0x390, [0x1FD3]), (0x3B0, [0x1FE3]), (0x3B2, [0x3D0]),
  (0x3B5, [0x3F5]), (0x3B8, [0x3D1]), (0x3B9, [0x345, 0x1FBE]), (0x3BA, [0x3F0]),
  (0x3BC, [0xB5]), (0x3C0, [0x3D6]), (0x3C1, [0x3F1]), (0x3C2, [0x3C3]), (0x3C3, [0x3C2]),
  (0x3C6, [0x3D5]), (0x3D0, [0x3B2]), (0x3D1, [0x3B8]), (0x3D5, [0x3C6]), (0x3D6, [0x3C0]),
  (0x3F0, [0x3BA]), (0x3F1, [0x3C1]), (0x3F5, [0x3B5]), (0x432, [0x1C80]), (0x434, [0x1C81]),
  (0x43E, [0x1C82]), (0x441, [0x1C83]), (0x442, [0x1C84, 0x1C85]), (0x44A, [0x1C86]),
  (0x463, [0x1C87]), (0x1C80, [0x432]), (0x1C81, [0x434]), (0x1C82, [0x43E]), (0x1C83, [0x441]),
  (0x1C84, [0x442, 0x1C85]), (0x1C85, [0x442, 0x1C84]), (0x1C86, [0x44A]), (0x1C87, [0x463]),
  (0x1C88, [0xA64B]), (0x1E61, [0x1E9B]), (0x1E9B, [0x1E61]), (0x1FBE, [0x345, 0x3B9]),
  (0x1FD3, [0x390]), (0x1FE3, [0x3B0]), (0xA64B, [0x1C88]), (0xFB05, [0xFB06]),
  (0xFB06, [0xFB05])]

/-- A lower-case code point and its twins. -/
def withTwins (code : Nat) : List Nat :=
  match lowerTwins.find? (·.1 == code) with
  | some (_, twins) => code :: twins
  | none => [code]

/-- The lower-case form of a code point; that of ASCII letters alone when `ascii`. -/
def foldCode (ascii : Bool) (code : Nat) : Nat :=
  if 0x41 ≤ code ∧ code ≤ 0x5A then code + 0x20
  else if ascii ∨ code < 0x80 then code
  else (Text.shiftBy? Text.lowerRows code).getD code

/-- The code points with a given lower-case form, itself among them. -/
def unfoldCode (ascii : Bool) (code : Nat) : List Nat :=
  if ascii then
    if 0x61 ≤ code ∧ code ≤ 0x7A then [code, code - 0x20] else [code]
  else
    code :: Text.lowerRows.toList.filterMap fun row =>
      let source := ((code : Int) - row.shift).toNat
      if row.image? source = some code then some source else none

end PluginDescriptor.Pattern
