import PluginDescriptor.Text.CaseTable

/-!
# Case of texts

Upper case, lower case and capitalisation of whole texts. A form may be longer than its character
(`ß` has the upper-case form `SS`), and a capital sigma takes its final form at the end of a word.
-/

set_option autoImplicit false

namespace PluginDescriptor.Text

/-- The one-character lower-case form of a character, itself when it has none. -/
def lowerOne (c : Char) : Char :=
  if c.toNat < 0x80 then c.toLower
  else ((shiftBy? lowerRows c.toNat).map Char.ofNat).getD c

/-- The upper-case form of a character. -/
def upperForm (c : Char) : List Char :=
  if c.toNat < 0x80 then [c.toUpper]
  else
    match upperExpansions.find? (·.1 == c.toNat) with
    | some (_, form) => form.map Char.ofNat
    | none => [((shiftBy? upperRows c.toNat).map Char.ofNat).getD c]

/-- The title-case form of a character. -/
def titleForm (c : Char) : List Char :=
  match titleForms.find? (·.1 == c.toNat) with
  | some (_, form) => form.map Char.ofNat
  | none => upperForm c

/-- The lower-case form of a character away from the end of a word. -/
def lowerForm (c : Char) : List Char :=
  if c.toNat = 0x130 then ['i', Char.ofNat 0x307] else [lowerOne c]

/-- The nearest character of `s` that is not skipped in the search for a neighbour has case. -/
def meetsCased (s : List Char) : Bool :=
  match s.dropWhile fun c => inRanges caseIgnorableRanges c.toNat with
  | [] => false
  | c :: _ => inRanges casedRanges c.toNat

/-- Lower case of the second text, the first being what stands before it in reverse. A capital sigma
is final when a letter comes before it and none after it. -/
def lowerAfter (before : List Char) : List Char → List Char
  | [] => []
  | c :: rest =>
    let form :=
      if c.toNat = 0x3A3 then
        if meetsCased before && !meetsCased rest then [Char.ofNat 0x3C2] else [Char.ofNat 0x3C3]
      else lowerForm c
    form ++ lowerAfter (c :: before) rest

/-- The text in upper case. -/
def upper (s : String) : String := String.ofList (s.toList.flatMap upperForm)

/-- The text in lower case. -/
def lower (s : String) : String := String.ofList (lowerAfter [] s.toList)

/-- The first character in title case, the others in lower case. -/
def capitalize (s : String) : String :=
  match s.toList with
  | [] => ""
  | c :: rest => String.ofList (titleForm c ++ lowerAfter [c] rest)

end PluginDescriptor.Text
