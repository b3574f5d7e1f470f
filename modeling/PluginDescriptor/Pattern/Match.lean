import PluginDescriptor.Pattern.Folding
import PluginDescriptor.Pattern.Parser
import PluginDescriptor.Text.Blank

/-!
# Matching regular expressions

Each part of an expression means a matcher: given a place in the text, what the groups hold, and what
is to be matched after it, it finds the first way to match, in the order of preference of greedy and
lazy repetitions and of branches. An iteration that takes nothing is not repeated.

A search tries all places. The program's runtime looks for a place to start first, and where an
expression begins with a class in a scope that narrows or widens what letters, digits and blanks are, as
in `(?a:\W)`, it does so by what they are in the whole expression, and may pass over a place where it
matches. That is left out.
-/

set_option autoImplicit false

namespace PluginDescriptor.Pattern

/-- What each group holds: the newest entry counts. -/
abbrev Captures := List (Nat × Nat × Nat)

/-- A place in the text and what the groups hold there. -/
abbrev Found := Nat × Captures

/-- What is to be matched next. -/
abbrev Rest := Nat → Captures → Option Found

/-- A matcher finds the first way to match that lets the rest match too. -/
abbrev Matcher := Nat → Captures → Rest → Option Found

/-- The text that is matched. -/
abbrev Subject := Array Char

/-- Nothing more is to be matched. -/
def Rest.done : Rest := fun place captures => some (place, captures)

/-- A word character under the flags. -/
def isWord (flags : Flags) (c : Char) : Bool :=
  if flags.ascii then c.isAlphanum || c == '_' else Text.isWordChar c

/-- A character of a category under the flags. -/
def inCategory (flags : Flags) (kind : Category) (c : Char) : Bool :=
  match kind with
  | .digit => if flags.ascii then c.isDigit else Text.isDecimal c
  | .space => if flags.ascii then c == ' ' || (9 ≤ c.toNat && c.toNat ≤ 13) else Text.isBlank c
  | .word => isWord flags c

/-- A code point equal to the character, or differing from it only in case when case is ignored. -/
def sameCode (flags : Flags) (code : Nat) (c : Char) : Bool :=
  if flags.ignoreCase then
    let folded := foldCode flags.ascii code
    let mine := foldCode flags.ascii c.toNat
    if flags.ascii then folded == mine else (withTwins folded).contains mine
  else
    code == c.toNat

/-- A code point in a range, or differing from one of it only in case when case is ignored. -/
def inSpan (flags : Flags) (lo hi : Nat) (c : Char) : Bool :=
  let within (code : Nat) : Bool := lo ≤ code && code ≤ hi
  if flags.ignoreCase then
    let mine := foldCode flags.ascii c.toNat
    let folded := if flags.ascii then [mine] else withTwins mine
    folded.any fun code => (unfoldCode flags.ascii code).any within
  else
    within c.toNat

/-- A character that an item of a class holds. -/
def inItem (flags : Flags) (item : ClassItem) (c : Char) : Bool :=
  match item with
  | .literal code => sameCode flags code c
  | .range lo hi => inSpan flags lo hi c
  | .category kind negated => inCategory flags kind c != negated

/-- The test of a part that matches exactly one character, when it is such a part. -/
def unitTest? (flags : Flags) : Node → Option (Char → Bool)
  | .literal code negated => some fun c => sameCode flags code c != negated
  | .any => some fun c => flags.dotAll || c != '\n'
  | .oneOf negated items => some fun c => items.any (inItem flags · c) != negated
  | _ => none

/-- A place that an anchor asks for. -/
def atAnchor (flags : Flags) (subject : Subject) (place : Nat) : Anchor → Bool
  | .textStart => place == 0
  | .textEnd => place == subject.size
  | .lineStart =>
    place == 0 || (flags.multiline && subject.getD (place - 1) ' ' == '\n')
  | .lineEnd =>
    place == subject.size ||
      (subject.getD place ' ' == '\n' && (flags.multiline || place + 1 == subject.size))
  | .boundary negated =>
    let wordAt (i : Nat) : Bool := i < subject.size && isWord flags (subject.getD i ' ')
    let before := place != 0 && wordAt (place - 1)
    subject.size != 0 && ((before != wordAt place) != negated)

/-- How many characters from a place on pass a test, at most `limit`. -/
def runLength (test : Char → Bool) (subject : Subject) (place : Nat) : Nat → Nat
  | 0 => 0
  | limit + 1 =>
    match subject[place]? with
    | some c => if test c then runLength test subject (place + 1) limit + 1 else 0
    | none => 0

/-- Let the rest match after taking as many as `extra` characters beyond `place`, most first. -/
def longestFirst (rest : Rest) (place : Nat) (captures : Captures) : Nat → Option Found
  | 0 => rest place captures
  | extra + 1 =>
    match rest (place + (extra + 1)) captures with
    | some found => some found
    | none => longestFirst rest place captures extra

/-- Let the rest match after taking as many as `extra` characters beyond `place`, fewest first. -/
def shortestFirst (rest : Rest) (place : Nat) (captures : Captures) : Nat → Option Found
  | 0 => rest place captures
  | extra + 1 =>
    match rest place captures with
    | some found => some found
    | none => shortestFirst rest (place + 1) captures extra

/-- Repeat a part that matches one character. -/
def repeatUnit (greed : Greed) (least : Nat) (most : Option Nat) (test : Char → Bool)
    (subject : Subject) : Matcher := fun place captures rest =>
  let room := subject.size - place
  let run := runLength test subject place (min room (most.getD room))
  if run < least then none
  else
    match greed with
    | .greedy => longestFirst rest (place + least) captures (run - least)
    | .lazy => shortestFirst rest (place + least) captures (run - least)
    | .possessive => rest (place + run) captures

/-- The count may still grow. -/
def mayGrow (most : Option Nat) (count : Nat) : Bool :=
  match most with
  | some n => count < n
  | none => true

/-- Repeat a part as often as possible first. `last` is where the last optional iteration began. -/
def repeatGreedy (body : Matcher) (least : Nat) (most : Option Nat) :
    Nat → Nat → Option Nat → Matcher
  | 0, _, _ => fun _ _ _ => none
  | fuel + 1, count, last => fun place captures rest =>
    if count < least then
      body place captures fun p c => repeatGreedy body least most fuel (count + 1) last p c rest
    else if mayGrow most count && last != some place then
      let again := body place captures fun p c =>
        repeatGreedy body least most fuel (count + 1) (some place) p c rest
      match again with
      | some found => some found
      | none => rest place captures
    else
      rest place captures

/-- Repeat a part as rarely as possible first. -/
def repeatLazy (body : Matcher) (least : Nat) (most : Option Nat) :
    Nat → Nat → Option Nat → Matcher
  | 0, _, _ => fun _ _ _ => none
  | fuel + 1, count, last => fun place captures rest =>
    if count < least then
      body place captures fun p c => repeatLazy body least most fuel (count + 1) last p c rest
    else
      match rest place captures with
      | some found => some found
      | none =>
        if mayGrow most count && last != some place then
          body place captures fun p c =>
            repeatLazy body least most fuel (count + 1) (some place) p c rest
        else
          none

/-- Repeat a part as often as possible and give nothing back. -/
def repeatPossessive (body : Matcher) (least : Nat) (most : Option Nat) :
    Nat → Nat → Option Nat → Matcher
  | 0, _, _ => fun _ _ _ => none
  | fuel + 1, count, last => fun place captures rest =>
    if count < least then
      match body place captures Rest.done with
      | some (p, c) => repeatPossessive body least most fuel (count + 1) last p c rest
      | none => none
    else if mayGrow most count && last != some place then
      match body place captures Rest.done with
      | some (p, c) => repeatPossessive body least most fuel (count + 1) (some place) p c rest
      | none => rest place captures
    else
      rest place captures

/-- Repeat a part, within as many iterations as the text can need. -/
def repeatPart (greed : Greed) (least : Nat) (most : Option Nat) (subject : Subject)
    (body : Matcher) : Matcher :=
  let fuel := least + subject.size + 3
  match greed with
  | .greedy => repeatGreedy body least most fuel 0 none
  | .lazy => repeatLazy body least most fuel 0 none
  | .possessive => repeatPossessive body least most fuel 0 none

/-- Match what a group holds once more. -/
def matchAgain (flags : Flags) (subject : Subject) (group : Nat) : Matcher :=
  fun place captures rest =>
    match captures.find? (·.1 == group) with
    | none => none
    | some (_, start, stop) =>
      let same (i : Nat) : Bool :=
        match subject[start + i]?, subject[place + i]? with
        | some a, some b =>
          if flags.ignoreCase then foldCode flags.ascii a.toNat == foldCode flags.ascii b.toNat
          else a == b
        | _, _ => false
      if (List.range (stop - start)).all same then rest (place + (stop - start)) captures else none

mutual

/-- The matcher of parts in a row. -/
def matchRow (subject : Subject) (flags : Flags) : List Node → Matcher
  | [] => fun place captures rest => rest place captures
  | node :: nodes => fun place captures rest =>
    matchNode subject flags node place captures fun p c => matchRow subject flags nodes p c rest

/-- The matcher of one part. -/
def matchNode (subject : Subject) (flags : Flags) : Node → Matcher
  | .literal code negated => fun place captures rest =>
    match subject[place]? with
    | some c => if sameCode flags code c != negated then rest (place + 1) captures else none
    | none => none
  | .any => fun place captures rest =>
    match subject[place]? with
    | some c => if flags.dotAll || c != '\n' then rest (place + 1) captures else none
    | none => none
  | .oneOf negated items => fun place captures rest =>
    match subject[place]? with
    | some c => if items.any (inItem flags · c) != negated then rest (place + 1) captures else none
    | none => none
  | .anchor anchor => fun place captures rest =>
    if atAnchor flags subject place anchor then rest place captures else none
  | .group index on off body => fun place captures rest =>
    matchRow subject (flags.within on off) body place captures fun p c =>
      match index with
      | some i => rest p ((i, place, p) :: c)
      | none => rest p c
  | .atomic body => fun place captures rest =>
    match matchRow subject flags body place captures Rest.done with
    | some (p, c) => rest p c
    | none => none
  | .repetition greed least most body =>
    match body with
    | [node] =>
      match unitTest? flags node with
      | some test => repeatUnit greed least most test subject
      | none => repeatPart greed least most subject (matchNode subject flags node)
    | body => repeatPart greed least most subject (matchRow subject flags body)
  | .choice branches => fun place captures rest =>
    matchBranches subject flags branches place captures rest
  | .look behind negated width body => fun place captures rest =>
    let found :=
      if behind then
        if place < width.least then none
        else matchRow subject flags body (place - width.least) captures Rest.done
      else matchRow subject flags body place captures Rest.done
    match found, negated with
    | some (_, c), false => rest place c
    | none, true => rest place captures
    | _, _ => none
  | .reference group => matchAgain flags subject group
  | .condition group yes no => fun place captures rest =>
    if captures.any (·.1 == group) then matchRow subject flags yes place captures rest
    else matchRow subject flags no place captures rest

/-- The matcher of the first branch that lets the rest match. -/
def matchBranches (subject : Subject) (flags : Flags) : List (List Node) → Matcher
  | [] => fun _ _ _ => none
  | branch :: branches => fun place captures rest =>
    match matchRow subject flags branch place captures rest with
    | some found => some found
    | none => matchBranches subject flags branches place captures rest

end

/-- Some place from `place` on matches; there are `room` more to try after it. -/
def searchFrom (start : Nat → Bool) (place : Nat) : Nat → Bool
  | 0 => start place
  | room + 1 => start place || searchFrom start (place + 1) room

namespace Expression

/-- The expression matches at a place. -/
def matchesAt (e : Expression) (subject : Subject) (place : Nat) : Bool :=
  (matchRow subject e.flags e.body place [] Rest.done).isSome

/-- The expression matches somewhere in the text. -/
def search (e : Expression) (text : String) : Bool :=
  let subject := text.toList.toArray
  searchFrom (e.matchesAt subject) 0 subject.size

end Expression

end PluginDescriptor.Pattern
