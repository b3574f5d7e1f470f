/-!
# Base 64

Bytes written in groups of four characters, six bits each. Characters outside the alphabet are
skipped, and padding ends the reading once its group is complete.
-/

set_option autoImplicit false

namespace PluginDescriptor.Text

/-- The six bits that a character stands for. -/
def sextet? (c : Char) : Option Nat :=
  if 'A' ≤ c ∧ c ≤ 'Z' then some (c.toNat - 0x41)
  else if 'a' ≤ c ∧ c ≤ 'z' then some (c.toNat - 0x61 + 26)
  else if '0' ≤ c ∧ c ≤ '9' then some (c.toNat - 0x30 + 52)
  else if c = '+' then some 62
  else if c = '/' then some 63
  else none

/-- Read on, `place` being the number of characters of the group so far, `bits` those not written
out, and `padding` the number of padding marks in a row. `none` when a group stays incomplete. -/
def readSextets (place bits padding : Nat) : List Char → Option (List UInt8)
  | [] => if place = 0 then some [] else none
  | c :: rest =>
    if c = '=' then
      if 2 ≤ place ∧ 4 ≤ place + (padding + 1) then some []
      else readSextets place bits (if 2 ≤ place then padding + 1 else padding) rest
    else
      match sextet? c with
      | none => readSextets place bits padding rest
      | some n =>
        match place with
        | 0 => readSextets 1 n 0 rest
        | 1 => (readSextets 2 (n % 16) 0 rest).map (UInt8.ofNat (bits * 4 + n / 16) :: ·)
        | 2 => (readSextets 3 (n % 4) 0 rest).map (UInt8.ofNat (bits * 16 + n / 4) :: ·)
        | _ => (readSextets 0 0 0 rest).map (UInt8.ofNat (bits * 64 + n) :: ·)

/-- The bytes written in a text. -/
def readBase64? (s : String) : Option (List UInt8) := readSextets 0 0 0 s.toList

end PluginDescriptor.Text
