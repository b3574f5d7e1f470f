import Mathlib.Data.List.TakeWhile
import PluginDescriptor.Help.Page
import PluginDescriptor.Proofs.Fields
import PluginDescriptor.Proofs.Outcome

/-!
# Filling in simple templates

A template that has no conversions, layouts or doubled braces is a row of plain texts, each but the
last followed by the name of a field. Filling it in copies the texts and puts the value of each field
in between, once and as it is (`Help.fill_template`). Both built-in sets are of this kind.
-/

set_option autoImplicit false

namespace PluginDescriptor.Help

/-- A row of plain texts, each followed by the name of a field, and a plain text at the end. -/
structure Pieces where
  parts : List (String × String)
  last : String

namespace Pieces

/-- A text and the field behind it, as they are written in a template. -/
def writtenPart (part : String × String) : List Char :=
  part.1.toList ++ '\x7b' :: (part.2.toList ++ ['\x7d'])

/-- The template that is written with these pieces. -/
def template (p : Pieces) : String :=
  String.ofList (p.parts.flatMap writtenPart ++ p.last.toList)

/-- The names of the fields. -/
def names (p : Pieces) : List String := p.parts.map (·.2)

/-- A character that is plain in the name of a field. -/
def isNameChar (c : Char) : Bool := !(isBrace c || c == ':' || c == '!' || beginsAccess c)

/-- A text that is the name of a value. -/
def isName (s : String) : Bool :=
  !s.toList.isEmpty && !s.toList.all Text.isDecimal && s.toList.all isNameChar

/-- A text without braces. -/
def isPlain (s : String) : Bool := s.toList.all fun c => !isBrace c

/-- All texts are without braces, and all names are those of values. -/
def areSimple (p : Pieces) : Bool :=
  (p.parts.all fun part => isPlain part.1 && isName part.2) && isPlain p.last

end Pieces

/-- The text of the value under a name. -/
def valueText (context : Entries) (name : String) : Except Fault String :=
  match context.find? name with
  | some v => writeOut v v.text
  | none => .error (.noKey (.str name))

/-- Plain texts with the values of fields behind them, and a text at the end. -/
def filledParts (context : Entries) (last : String) : List (String × String) → Except Fault String
  | [] => .ok last
  | (plain, name) :: rest => do
    let value ← valueText context name
    return plain ++ value ++ (← filledParts context last rest)

/-! ## Reading a field -/

theorem isNameChar_iff {c : Char} : Pieces.isNameChar c = true ↔
    (c ≠ '\x7b' ∧ c ≠ '\x7d') ∧ c ≠ ':' ∧ c ≠ '!' ∧ beginsAccess c = false := by
  simp [Pieces.isNameChar, isBrace, and_assoc]

theorem takeName_of_isNameChar {name : List Char} (h : ∀ c ∈ name, Pieces.isNameChar c = true)
    (rest : List Char) : takeName false (name ++ '\x7d' :: rest) = .ok (name, '\x7d', rest) := by
  induction name with
  | nil => rfl
  | cons c name ih =>
    obtain ⟨hc, hname⟩ := List.forall_mem_cons.mp h
    obtain ⟨⟨hleft, hright⟩, hcolon, hmark, haccess⟩ := isNameChar_iff.mp hc
    have hopen : (c == '[') = false := (Bool.or_eq_false_iff.mp haccess).2
    rw [List.cons_append, takeName, hopen, ih hname]
    simp [hleft, hright, hcolon, hmark, bind, Except.bind, pure, Except.pure]

theorem takeField_of_isNameChar {name : List Char} (h : ∀ c ∈ name, Pieces.isNameChar c = true)
    (rest : List Char) : takeField (name ++ '\x7d' :: rest) =
      .ok ({ name, conversion := none, layout := [], nested := false }, rest) := by
  rw [takeField, takeName_of_isNameChar h]
  rfl

theorem takeWhile_of_forall {α : Type} {p : α → Bool} {row : List α} (h : ∀ a ∈ row, p a = true)
    {stop : α} (hstop : p stop = false) (rest : List α) :
    (row ++ stop :: rest).takeWhile p = row := by
  rw [List.takeWhile_append_of_pos h, List.takeWhile_cons_of_neg (by simp [hstop]), List.append_nil]

/-- The name of a value leads to the value. -/
theorem resolve_of_isName (context : Entries) {name : String} (h : Pieces.isName name = true) :
    resolve context name.toList =
      match context.find? name with
      | some v => .ok v
      | none => .error (.noKey (.str name)) := by
  simp only [Pieces.isName, Bool.and_eq_true, Bool.not_eq_true', List.all_eq_true] at h
  obtain ⟨⟨hsome, hdigits⟩, hchars⟩ := h
  have hfirst : name.toList.takeWhile (fun c => !beginsAccess c) = name.toList := by
    rw [List.takeWhile_eq_self_iff]
    intro c hc
    rw [(isNameChar_iff.mp (hchars c hc)).2.2.2]
    rfl
  have hnumber : number? name.toList = .ok none := by
    rw [number?, hsome, hdigits]
    rfl
  have hend : name.toList.drop name.toList.length = [] := List.drop_length
  rw [resolve, hfirst, hnumber]
  simp only [hsome, String.ofList_toList, hend]
  cases context.find? name <;> rfl

/-- A field that is written as a name is filled in with the text of its value. -/
theorem fillField_of_isName (context : Entries) (expand : List Char → Except Fault String)
    {name : String} (h : Pieces.isName name = true) :
    fillField context expand { name := name.toList, conversion := none, layout := [], nested := false }
      = valueText context name := by
  rw [fillField, resolve_of_isName context h, valueText]
  cases context.find? name <;> rfl

/-! ## Filling in pieces -/

/-- A plain text is filled in as it is. -/
theorem fillText_plain (context : Entries) (expand : List Char → Except Fault String) {last : String}
    (h : Pieces.isPlain last = true) (fuel : Nat) :
    fillText context expand (fuel + 1) last.toList = .ok last := by
  have hall : last.toList.takeWhile (fun c => !isBrace c) = last.toList :=
    List.takeWhile_eq_self_iff.mpr (List.all_eq_true.mp h)
  have hend : last.toList.drop last.toList.length = [] := List.drop_length
  rw [fillText]
  simp only [hall, hend, String.ofList_toList]
  rfl

/-- A plain text and a field with the name of a value are filled in, and then the rest is. -/
theorem fillText_field (context : Entries) (expand : List Char → Except Fault String)
    {plain name : String} (hplain : Pieces.isPlain plain = true) (hname : Pieces.isName name = true)
    (fuel : Nat) (rest : List Char) :
    fillText context expand (fuel + 1) (Pieces.writtenPart (plain, name) ++ rest) = do
      let value ← valueText context name
      return plain ++ value ++ (← fillText context expand fuel rest) := by
  have hsplit : Pieces.writtenPart (plain, name) ++ rest =
      plain.toList ++ '\x7b' :: (name.toList ++ '\x7d' :: rest) := by
    simp [Pieces.writtenPart]
  have htake : (plain.toList ++ '\x7b' :: (name.toList ++ '\x7d' :: rest)).takeWhile
      (fun c => !isBrace c) = plain.toList :=
    takeWhile_of_forall (List.all_eq_true.mp hplain) rfl _
  have hchars : ∀ c ∈ name.toList, Pieces.isNameChar c = true := by
    rw [Pieces.isName, Bool.and_eq_true] at hname
    exact List.all_eq_true.mp hname.2
  -- the name begins with a character that is no brace
  have hhead : ((name.toList ++ '\x7d' :: rest).head? == some '\x7b') = false := by
    cases hcs : name.toList with
    | nil => rfl
    | cons c cs =>
      have hc := (isNameChar_iff.mp (hchars c (hcs ▸ List.mem_cons_self))).1.1
      simpa using hc
  have hsome : (name.toList ++ '\x7d' :: rest).isEmpty = false := by
    cases name.toList <;> rfl
  have hbrace : ('\x7b' == '\x7d') = false := by decide
  rw [hsplit, fillText, ← fillField_of_isName context expand hname]
  simp only [htake, List.drop_left, hhead, hsome, hbrace, Bool.false_eq_true, if_false,
    takeField_of_isNameChar hchars, String.ofList_toList]
  rfl

/-- A row of pieces is filled in piece by piece, if there is fuel for each of them. -/
theorem fillText_pieces (context : Entries) (expand : List Char → Except Fault String)
    {parts : List (String × String)} {last : String}
    (hparts : ∀ part ∈ parts, Pieces.isPlain part.1 = true ∧ Pieces.isName part.2 = true)
    (hlast : Pieces.isPlain last = true) {fuel : Nat} (hfuel : parts.length < fuel) :
    fillText context expand fuel (parts.flatMap Pieces.writtenPart ++ last.toList) =
      filledParts context last parts := by
  induction parts generalizing fuel with
  | nil =>
    cases fuel with
    | zero => cases hfuel
    | succ fuel => exact fillText_plain context expand hlast fuel
  | cons part parts ih =>
    obtain ⟨plain, name⟩ := part
    obtain ⟨⟨hplain, hname⟩, hrest⟩ := List.forall_mem_cons.mp hparts
    cases fuel with
    | zero => cases hfuel
    | succ fuel =>
      rw [List.flatMap_cons, List.append_assoc, fillText_field context expand hplain hname,
        ih hrest (Nat.lt_of_succ_lt_succ hfuel), filledParts]

theorem length_le_pieces (parts : List (String × String)) (last : List Char) :
    parts.length ≤ (parts.flatMap Pieces.writtenPart ++ last).length := by
  induction parts with
  | nil => exact Nat.zero_le _
  | cons part parts ih =>
    have hpart : 1 ≤ (Pieces.writtenPart part).length := by
      rw [Pieces.writtenPart, List.length_append, List.length_cons]
      omega
    rw [List.flatMap_cons, List.append_assoc, List.length_append, List.length_cons]
    omega

/-- A template that is written with simple pieces is filled in piece by piece. -/
theorem fill_template {p : Pieces} (hp : p.areSimple = true) (context : Entries) :
    fill p.template context = filledParts context p.last p.parts := by
  rw [Pieces.areSimple, Bool.and_eq_true, List.all_eq_true] at hp
  rw [fill, fillDeep, Pieces.template, String.toList_ofList]
  refine fillText_pieces context _ (fun part hpart => ?_) hp.2
    (Nat.lt_succ_of_le (length_le_pieces p.parts _))
  exact Bool.and_eq_true_iff.mp (hp.1 part hpart)

/-- With a value for each name, pieces are filled in if all of the values can be written out. -/
theorem filledParts_eq (context : Entries) (last : String) {parts : List (String × String)}
    {values : List Value} (h : parts.map (fun part => context.find? part.2) = values.map some) :
    ∃ s, filledParts context last parts =
      if Value.areWritable values then .ok s else .error .numberTooLong := by
  induction parts generalizing values with
  | nil =>
    cases values with
    | nil => exact ⟨last, rfl⟩
    | cons v values => cases h
  | cons part parts ih =>
    obtain ⟨plain, name⟩ := part
    cases values with
    | nil => cases h
    | cons v values =>
      obtain ⟨hv, hvalues⟩ := List.cons.inj h
      have hfound : context.find? name = some v := hv
      obtain ⟨more, hmore⟩ := ih hvalues
      refine ⟨plain ++ v.text ++ more, ?_⟩
      rw [filledParts, valueText, hfound, hmore, Value.areWritable]
      simp only [writeOut]
      cases v.isWritable with
      | false => rfl
      | true => cases Value.areWritable values <;> rfl

/-- A template with a field is not empty. -/
theorem isTruthy_template {p : Pieces} (h : p.parts ≠ []) : (Value.str p.template).isTruthy = true := by
  obtain ⟨part, parts, hparts⟩ := List.exists_cons_of_ne_nil h
  have hbrace : '\x7b' ∈ p.template.toList := by
    rw [Pieces.template, String.toList_ofList, hparts]
    simp [Pieces.writtenPart]
  rw [Value.isTruthy, Bool.not_eq_true', ← Bool.not_eq_true, String.isEmpty_iff]
  intro hempty
  rw [hempty] at hbrace
  cases hbrace

/-! ## The built-in sets -/

/-- The page of metadata. -/
def metadataPieces : Pieces where
  parts := [("", "name"), ("\n", "rule"), ("\n\n", "description"), ("\n\n      Author: ", "author"),
    ("\n     Version: ", "version"), ("\n     License: ", "license"), ("\n     Timeout: ", "timeout"),
    ("\n   Home Page: ", "url")]
  last := "\n"

/-- The page of a plugin with entities. -/
def rpcPieces : Pieces where
  parts := [("", "metadata_help"), ("\n", "usage"), ("\nACTIONS:\n========\n   ", "entity_names"),
    ("\n\n", "entities")]
  last := ""

/-- The part about an entity. -/
def entityPieces : Pieces where
  parts := [("   ", "name"), (" action:\n   ", "rule"), ("\n       ", "description"),
    ("\n\n       INPUT:\n", "inputs"), ("\n       OUTPUT:\n", "outputs")]
  last := "\n"

/-- The part about an argument. -/
def inputPieces : Pieces where
  parts := [("           ", "name"), (":\n              Description: ", "description"),
    ("\n                   Prompt: ", "prompt"), ("\n                     Type: ", "type"),
    ("\n                 Optional: ", "optional"), ("\n", "details")]
  last := ""

/-- The part about a field of results. -/
def outputPieces : Pieces where
  parts := [("           ", "name"), (":\n              Description: ", "description"),
    ("\n               Display As: ", "display_as")]
  last := "\n"

/-- Lines are a template that is written with pieces if they have its characters. -/
theorem join_eq_template {lines : List String} {p : Pieces}
    (h : "\n".toList.intercalate (lines.map String.toList) =
      p.parts.flatMap Pieces.writtenPart ++ p.last.toList) : Text.join "\n" lines = p.template := by
  have hchars : (Text.join "\n" lines).toList = p.parts.flatMap Pieces.writtenPart ++ p.last.toList :=
    String.toList_intercalate.trans h
  rw [Pieces.template, ← hchars, String.ofList_toList]

theorem metadataTemplate_eq : metadataTemplate.template = metadataPieces.template := by
  simp only [metadataTemplate]
  refine join_eq_template ?_
  decide +kernel

theorem rpcTemplate_eq : rpcTemplate.template = rpcPieces.template ∧
    rpcTemplate.entity = .str entityPieces.template ∧ rpcTemplate.input = .str inputPieces.template ∧
    rpcTemplate.output = .str outputPieces.template := by
  simp only [rpcTemplate]
  refine ⟨join_eq_template ?_, congrArg Value.str (join_eq_template ?_),
    congrArg Value.str (join_eq_template ?_), congrArg Value.str (join_eq_template ?_)⟩
  all_goals decide +kernel

theorem areSimple_metadataPieces : metadataPieces.areSimple = true := by decide +kernel

theorem areSimple_rpcPieces : rpcPieces.areSimple = true := by decide +kernel

theorem areSimple_entityPieces : entityPieces.areSimple = true := by decide +kernel

theorem areSimple_inputPieces : inputPieces.areSimple = true := by decide +kernel

theorem areSimple_outputPieces : outputPieces.areSimple = true := by decide +kernel

end PluginDescriptor.Help
