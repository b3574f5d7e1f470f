import PluginDescriptor.Text.CodeRange
import PluginDescriptor.Text.NameTable
import PluginDescriptor.Text.Numeral
import PluginDescriptor.Text.Split

/-!
# Characters by name

Most characters have a name of their own, which is looked up in a table in either case. Others are
named by their codes, and Hangul syllables by their letters; ideographs and syllables are known in
upper case only. Names of several characters in a row stand for no character.
-/

set_option autoImplicit false

namespace PluginDescriptor.Text

/-! ## Names in the table -/

/-- What may stand between the words of a name. -/
def isNameGap (c : Char) : Bool := c == ' ' || c == '-'

/-- The words of a name, each but the first with what stands in front of it. -/
def nameWords (name : List Char) : List (List Char) :=
  name.splitBy fun c d => isNameGap c || !isNameGap d

/-- The number of words that a small letter counts. -/
def countedWords (c : Char) : Nat := if c.isLower then c.toNat - 0x60 else 0

/-- The name that an entry of a row writes short, after a name with the words of `last`. -/
def fullName (last : List (List Char)) (entry : List Char) : List Char :=
  let kept := (entry.head?.map countedWords).getD 0
  let rest := if kept = 0 then entry else entry.tail
  let ending := (rest.getLast?.map countedWords).getD 0
  let middle := if ending = 0 then rest else rest.dropLast
  let gap := if kept = 0 || middle.head?.all isNameGap then [] else [' ']
  (last.take kept).flatten ++ gap ++ middle ++ (last.drop (last.length - ending)).flatten

example : fullName ["GREEK".toList, " SMALL".toList, " LETTER".toList, " RHO".toList] "aCAPITALb".toList =
    "GREEK CAPITAL LETTER RHO".toList := by
  decide

/-- The code of a name among entries, the first of which belongs to `code` and comes after a name with
the words of `last`. -/
def codeAmong? (name : List Char) : Nat → List (List Char) → List (List Char) → Option Nat
  | _, _, [] => none
  | code, last, [] :: entries => codeAmong? name (code + 1) last entries
  | code, last, entry :: entries =>
    let full := fullName last entry
    if full = name then some code else codeAmong? name (code + 1) (nameWords full) entries

/-- The code of a name in the table. -/
def codeInTable? (name : List Char) : Option Nat :=
  nameRows.findSome? fun (first, lines) =>
    codeAmong? name first [] (lines.flatMap fun line => splitAt ',' line.toList)

/-! ## Names by rule -/

/-- Whether a character is an upper-case digit in base 16. -/
def isUpperHex (c : Char) : Bool := isDigitIn 16 c && !c.isLower

/-- The code of a unified ideograph, after the text that all their names begin with. A fifth digit may
be a zero in front. -/
def ideograph? (digits : List Char) : Option Nat :=
  let code := digitsValue 16 digits
  let ranges : Array (Nat × Nat) := #[
    (0x3400, 0x4DBF), (0x4E00, 0x9FFF), (0x20000, 0x2A6DF), (0x2A700, 0x2B738), (0x2B740, 0x2B81D),
    (0x2B820, 0x2CEA1), (0x2CEB0, 0x2EBE0), (0x30000, 0x3134A)]
  if (digits.length = 4 ∨ digits.length = 5) ∧ digits.all isUpperHex ∧ inRanges ranges code then
    some code
  else none

/-- The other characters that are named by their codes: what their names begin with, and their codes. -/
def codedNames : List (String × Array (Nat × Nat)) := [
  ("CJK COMPATIBILITY IDEOGRAPH-", #[(0xF900, 0xFA6D), (0xFA70, 0xFAD9), (0x2F800, 0x2FA1D)]),
  ("KHITAN SMALL SCRIPT CHARACTER-", #[(0x18B00, 0x18CD5)]),
  ("NUSHU CHARACTER-", #[(0x1B170, 0x1B2FB)])]

/-- The code of a character that is named by it. -/
def codeInName? (name : List Char) : Option Nat :=
  codedNames.findSome? fun (lead, ranges) => do
    let digits ← dropLead? lead.toList name
    let code := digitsValue 16 digits
    let width := if code < 0x10000 then 4 else 5
    if digits.length = width ∧ digits.all isUpperHex ∧ inRanges ranges code then some code else none

/-- The longest of some texts that another one begins with: its place, and what follows it. -/
def takeLongest? (texts : List String) (s : List Char) : Option (Nat × List Char) :=
  let found := texts.zipIdx.filterMap fun (text, place) =>
    (dropLead? text.toList s).map fun rest => (place, rest)
  found.foldl (fun best next =>
    match best with
    | some (_, rest) => if next.2.length < rest.length then some next else best
    | none => some next) none

/-- The letters that Hangul syllables begin with, in order. -/
def leadingJamo : List String :=
  ["G", "GG", "N", "D", "DD", "R", "M", "B", "BB", "S", "SS", "", "J", "JJ", "C", "K", "T", "P", "H"]

/-- The vowels of Hangul syllables, in order. -/
def vowelJamo : List String :=
  ["A", "AE", "YA", "YAE", "EO", "E", "YEO", "YE", "O", "WA", "WAE", "OE", "YO", "U", "WEO", "WE", "WI",
    "YU", "EU", "YI", "I"]

/-- The letters that Hangul syllables end with, in order. -/
def trailingJamo : List String :=
  ["", "G", "GG", "GS", "N", "NJ", "NH", "D", "L", "LG", "LM", "LB", "LS", "LT", "LP", "LH", "M", "B",
    "BS", "S", "SS", "NG", "J", "C", "K", "T", "P", "H"]

/-- The code of a Hangul syllable, after the text that all their names begin with. -/
def syllable? (letters : List Char) : Option Nat := do
  let (lead, rest) ← takeLongest? leadingJamo letters
  let (vowel, rest) ← takeLongest? vowelJamo rest
  let (trail, rest) ← takeLongest? trailingJamo rest
  if rest.isEmpty then
    some (0xAC00 + (lead * vowelJamo.length + vowel) * trailingJamo.length + trail)
  else none

/-- The code of the character with a name. -/
def codeOfName? (name : String) : Option Nat :=
  match dropLead? "HANGUL SYLLABLE ".toList name.toList with
  | some letters => syllable? letters
  | none =>
    match dropLead? "CJK UNIFIED IDEOGRAPH-".toList name.toList with
    | some digits => ideograph? digits
    | none =>
      let name := name.toList.map Char.toUpper
      (codeInName? name).or (codeInTable? name)

end PluginDescriptor.Text
