/-!
# Reading UTF-8

Bytes are read as characters. What is no character is reported with the bytes at fault, their place
and why they are refused: a byte that begins nothing, a continuation that does not fit, or an end in
the middle of a character.
-/

set_option autoImplicit false

namespace PluginDescriptor.Text

/-- Bytes that are no character: from which position up to which, the first of them, and why. -/
structure Utf8Fault where
  start : Nat
  stop : Nat
  byte : UInt8
  reason : String
  deriving Repr, DecidableEq

/-- Why bytes that end in the middle of a character are refused. -/
def endReason : String := "unexpected end of data"

/-- A byte with two digits in base 16. -/
def byteText (b : UInt8) : String :=
  let ds := Nat.toDigits 16 b.toNat
  String.ofList (if ds.length < 2 then '0' :: ds else ds)

/-- The text of a fault. -/
def Utf8Fault.message (f : Utf8Fault) : String :=
  if f.start + 1 = f.stop then
    s!"'utf-8' codec can't decode byte 0x{byteText f.byte} in position {f.start}: {f.reason}"
  else
    s!"'utf-8' codec can't decode bytes in position {f.start}-{f.stop - 1}: {f.reason}"

/-- How many continuation bytes follow a first byte, and the range of the first of them. -/
def continuations? (b : UInt8) : Option (Nat × UInt8 × UInt8) :=
  if 0xC2 ≤ b && b ≤ 0xDF then some (1, 0x80, 0xBF)
  else if b == 0xE0 then some (2, 0xA0, 0xBF)
  else if b == 0xED then some (2, 0x80, 0x9F)
  else if 0xE1 ≤ b && b ≤ 0xEF then some (2, 0x80, 0xBF)
  else if b == 0xF0 then some (3, 0x90, 0xBF)
  else if 0xF1 ≤ b && b ≤ 0xF3 then some (3, 0x80, 0xBF)
  else if b == 0xF4 then some (3, 0x80, 0x8F)
  else none

/-- The payload of a first byte with so many continuations. -/
def firstPayload (b : UInt8) (count : Nat) : Nat :=
  if count = 1 then b.toNat % 0x20 else if count = 2 then b.toNat % 0x10 else b.toNat % 8

/-- Take `count` continuation bytes, adding their payload to `code`; without so many, the number of
those there and whether the end cut them short. -/
def takeContinuations (lo hi : UInt8) : Nat → Nat → Nat → List UInt8 → Except (Nat × Bool) (Nat × List UInt8)
  | 0, _, code, rest => .ok (code, rest)
  | _ + 1, taken, _, [] => .error (taken, true)
  | count + 1, taken, code, b :: rest =>
    if lo ≤ b && b ≤ hi then
      takeContinuations 0x80 0xBF count (taken + 1) (code * 0x40 + b.toNat % 0x40) rest
    else .error (taken, false)

/-- Read characters from bytes, `position` of them being read before; `got` is held in reverse. -/
def decodeFrom : Nat → Nat → List Char → List UInt8 → Except Utf8Fault (List Char)
  | 0, _, got, _ => .ok got.reverse
  | _ + 1, _, got, [] => .ok got.reverse
  | fuel + 1, position, got, b :: rest =>
    if b < 0x80 then decodeFrom fuel (position + 1) (Char.ofNat b.toNat :: got) rest
    else
      match continuations? b with
      | none => .error ⟨position, position + 1, b, "invalid start byte"⟩
      | some (count, lo, hi) =>
        match takeContinuations lo hi count 0 (firstPayload b count) rest with
        | .ok (code, rest) => decodeFrom fuel (position + count + 1) (Char.ofNat code :: got) rest
        | .error (taken, true) => .error ⟨position, position + taken + 1, b, endReason⟩
        | .error (taken, false) =>
          .error ⟨position, position + taken + 1, b, "invalid continuation byte"⟩

/-- The characters that bytes stand for. -/
def decodeUtf8 (bytes : List UInt8) : Except Utf8Fault (List Char) :=
  decodeFrom (bytes.length + 1) 0 [] bytes

/-- The characters of bytes that come in pieces of `size`. A character that is cut off at the end of a
piece is read with the next one, and positions count from the bytes that are read together. -/
def decodePiecewise (size : Nat) : Nat → List UInt8 → List UInt8 → Except Utf8Fault (List Char)
  | 0, carried, rest => decodeUtf8 (carried ++ rest)
  | fuel + 1, carried, rest =>
    if rest.isEmpty then decodeUtf8 carried
    else
      let bytes := carried ++ rest.take size
      match decodeUtf8 bytes with
      | .ok cs => (decodePiecewise size fuel [] (rest.drop size)).map (cs ++ ·)
      | .error fault =>
        if fault.stop = bytes.length && fault.reason == endReason then do
          let cs ← decodeUtf8 (bytes.take fault.start)
          return cs ++ (← decodePiecewise size fuel (bytes.drop fault.start) (rest.drop size))
        else .error fault

/-- Every end of line as one line feed. -/
def plainBreaks : List Char → List Char
  | [] => []
  | '\r' :: '\n' :: rest => '\n' :: plainBreaks rest
  | '\r' :: rest => '\n' :: plainBreaks rest
  | c :: rest => c :: plainBreaks rest

/-- The bytes of a text. -/
def encodeUtf8 (s : String) : List UInt8 := s.toUTF8.toList

end PluginDescriptor.Text
