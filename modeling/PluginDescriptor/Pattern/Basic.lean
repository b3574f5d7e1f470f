import PluginDescriptor.Text.Quoted

/-!
# Regular expressions

The structure of a regular expression: characters and classes, anchors, groups, repetitions, choices,
look-around, back references and conditions. Characters are code points.
-/

set_option autoImplicit false

namespace PluginDescriptor.Pattern

/-- How an expression is to be matched. -/
structure Flags where
  ignoreCase : Bool
  multiline : Bool
  dotAll : Bool
  verbose : Bool
  ascii : Bool
  unicode : Bool
  template : Bool
  deriving Repr, DecidableEq, Inhabited

namespace Flags

/-- No flag. -/
def none : Flags := ⟨false, false, false, false, false, false, false⟩

/-- The flag of a letter. -/
def ofLetter? : Char → Option Flags
  | 'i' => some { none with ignoreCase := true }
  | 'm' => some { none with multiline := true }
  | 's' => some { none with dotAll := true }
  | 'x' => some { none with verbose := true }
  | 'a' => some { none with ascii := true }
  | 't' => some { none with template := true }
  | 'u' => some { none with unicode := true }
  | _ => Option.none

/-- Combine two sets of flags field by field. -/
def zip (f : Bool → Bool → Bool) (a b : Flags) : Flags :=
  { ignoreCase := f a.ignoreCase b.ignoreCase
    multiline := f a.multiline b.multiline
    dotAll := f a.dotAll b.dotAll
    verbose := f a.verbose b.verbose
    ascii := f a.ascii b.ascii
    unicode := f a.unicode b.unicode
    template := f a.template b.template }

/-- All flags of both. -/
def union : Flags → Flags → Flags := zip (· || ·)

/-- The flags of both. -/
def inter : Flags → Flags → Flags := zip (· && ·)

/-- The flags in force inside a group that turns some on and some off. Turning on an alphabet turns
off the other one. -/
def within (outer on off : Flags) : Flags :=
  let outer := if on.ascii || on.unicode then { outer with ascii := false, unicode := false } else outer
  zip (fun a b => a && !b) (outer.union on) off

end Flags

/-- A class of characters with a letter of its own. -/
inductive Category where
  | digit
  | space
  | word
  deriving Repr, DecidableEq

/-- A member of a character class. -/
inductive ClassItem where
  | literal (code : Nat)
  | range (lo hi : Nat)
  | category (kind : Category) (negated : Bool)
  deriving Repr, DecidableEq

/-- A place in a text. -/
inductive Anchor where
  | lineStart
  | lineEnd
  | textStart
  | textEnd
  | boundary (negated : Bool)
  deriving Repr, DecidableEq

/-- How a repetition gives back what it took. -/
inductive Greed where
  | greedy
  | lazy
  | possessive
  deriving Repr, DecidableEq

/-- The least and the greatest number of characters that a part can match. -/
structure Width where
  least : Nat
  most : Nat
  deriving Repr, DecidableEq, Inhabited

/-- A part of a regular expression. -/
inductive Node where
  | literal (code : Nat) (negated : Bool)
  | any
  | oneOf (negated : Bool) (items : List ClassItem)
  | anchor (place : Anchor)
  | group (index : Option Nat) (on off : Flags) (body : List Node)
  | atomic (body : List Node)
  | repetition (greed : Greed) (least : Nat) (most : Option Nat) (body : List Node)
  | choice (branches : List (List Node))
  | look (behind negated : Bool) (width : Width) (body : List Node)
  | reference (group : Nat)
  | condition (group : Nat) (yes no : List Node)
  deriving Repr, Inhabited

/-- A whole expression: its parts and the flags set for all of it. -/
structure Expression where
  flags : Flags
  body : List Node
  deriving Repr, Inhabited

/-- Why a text is no regular expression. -/
inductive Fault where
  /-- What is wrong, and where when the place is known. -/
  | malformed (problem : String) (position : Option Nat)
  /-- An alphabet is asked for twice, or a number has too many digits. -/
  | unacceptable (text : String)
  /-- A repetition count beyond every bound. -/
  | tooLarge
  deriving Repr, DecidableEq

/-- The line and column of a position in a text, both from 1. -/
def lineColumn (text : List Char) (position : Nat) : Nat × Nat :=
  let before := text.take position
  (before.count '\n' + 1, (before.reverse.takeWhile (· != '\n')).length + 1)

/-- The text of a fault. -/
def Fault.message (text : String) : Fault → String
  | .malformed problem none => problem
  | .malformed problem (some position) =>
    let chars := text.toList
    let (line, column) := lineColumn chars position
    let place := s!"{problem} at position {position}"
    if chars.contains '\n' then s!"{place} (line {line}, column {column})" else place
  | .unacceptable text => text
  | .tooLarge => "the repetition number is too large"

/-! ## Widths -/

/-- The bound to which widths are cut. -/
def widthBound : Nat := Nat.pow 2 64

/-- The repetition count that stands for no upper bound. -/
def countBound : Nat := 4294967295

namespace Width

/-- The width of what matches nothing. -/
def zero : Width := ⟨0, 0⟩

/-- One after the other. -/
def add (a b : Width) : Width := ⟨a.least + b.least, a.most + b.most⟩

/-- One or the other. -/
def join (a b : Width) : Width := ⟨min a.least b.least, max a.most b.most⟩

/-- Cut to the bound. -/
def cut (w : Width) : Width := ⟨min w.least widthBound, min w.most widthBound⟩

/-- So many times. -/
def times (w : Width) (least : Nat) (most : Option Nat) : Width :=
  match most with
  | some n => ⟨w.least * least, w.most * n⟩
  | none => ⟨w.least * least, if w.most = 0 then 0 else widthBound⟩

end Width

mutual

/-- The width of parts in a row, given the widths of the groups that they refer to. -/
def widthOf (groups : Nat → Width) : List Node → Width
  | [] => .zero
  | node :: rest => (nodeWidth groups node).add (widthOf groups rest)

/-- The width of one part. -/
def nodeWidth (groups : Nat → Width) : Node → Width
  | .literal _ _ => ⟨1, 1⟩
  | .any => ⟨1, 1⟩
  | .oneOf _ _ => ⟨1, 1⟩
  | .anchor _ => .zero
  | .group _ _ _ body => (widthOf groups body).cut
  | .atomic body => (widthOf groups body).cut
  | .repetition _ least most body => ((widthOf groups body).cut).times least most
  | .choice branches => branchesWidth groups branches
  | .look _ _ _ _ => .zero
  | .reference group => groups group
  | .condition _ yes no => ((widthOf groups yes).cut).join ((widthOf groups no).cut)

/-- The width of one of several branches. -/
def branchesWidth (groups : Nat → Width) : List (List Node) → Width
  | [] => ⟨widthBound, 0⟩
  | branch :: rest => ((widthOf groups branch).cut).join (branchesWidth groups rest)

end

end PluginDescriptor.Pattern
