import PluginDescriptor.Pattern.Basic
import PluginDescriptor.Text.CharacterName
import PluginDescriptor.Text.Word

/-!
# Reading regular expressions

A recursive reader over the tokens of an expression, a token being a character or a backslash with the
character after it. What is wrong is reported with its position.
-/

set_option autoImplicit false

namespace PluginDescriptor.Pattern

/-- The state of reading: the place in the text, the token there, and what is known of the groups. -/
structure Reading where
  text : Array Char
  index : Nat
  next : Option String
  flags : Flags
  /-- The groups with names. -/
  names : List (String × Nat)
  /-- The width of each group once it is closed; group 0 is the whole. -/
  widths : Array (Option Width)
  /-- Inside a look-behind: the number of groups when it began. -/
  behindFrom : Option Nat
  /-- Groups that conditions ask for by number, with the position of the first asking. -/
  askedFor : List (Nat × Nat)
  deriving Inhabited

/-- A step of reading. -/
abbrev Read (α : Type) : Type := StateT Reading (Except Fault) α

namespace Read

/-- The position of the token at hand. -/
def position : Read Nat := do
  let r ← get
  return r.index - (r.next.map String.length).getD 0

/-- Fail `back` characters before the token at hand. -/
def fail {α : Type} (problem : String) (back : Nat) : Read α := do
  let here ← position
  throw (.malformed problem (some (here - back)))

/-- Move to the next token. -/
def advance : Read Unit := do
  let r ← get
  match r.text[r.index]? with
  | none => set { r with next := none }
  | some '\\' =>
    match r.text[r.index + 1]? with
    | none => throw (.malformed "bad escape (end of pattern)" (some (r.text.size - 1)))
    | some c => set { r with index := r.index + 2, next := some (String.ofList ['\\', c]) }
  | some c => set { r with index := r.index + 1, next := some (String.ofList [c]) }

/-- The token at hand. -/
def peek : Read (Option String) := return (← get).next

/-- Take the token at hand. -/
def take : Read (Option String) := do
  let this ← peek
  advance
  return this

/-- Take the token at hand if it is this one. -/
def accept (token : String) : Read Bool := do
  if (← peek) == some token then
    advance
    return true
  else
    return false

/-- Take up to `n` characters of a kind. -/
def takeWhile (p : Char → Bool) : Nat → Read (List Char)
  | 0 => return []
  | n + 1 => do
    match (← peek).map String.toList with
    | some [c] =>
      if p c then
        advance
        return c :: (← takeWhile p n)
      else
        return []
    | _ => return []

/-- Take everything up to a closing character; `what` names what is read. -/
def takeUntil (close : String) (what : String) : Nat → String → Read String
  | 0, got => return got
  | fuel + 1, got => do
    match ← take with
    | none =>
      if got.isEmpty then fail s!"missing {what}" 0
      else fail s!"missing {close}, unterminated name" got.length
    | some token =>
      if token == close then
        if got.isEmpty then fail s!"missing {what}" 1 else return got
      else
        takeUntil close what fuel (got ++ token)

/-- Go back to a position. -/
def seek (index : Nat) : Read Unit := do
  modify fun r => { r with index := index }
  advance

/-- The number of tokens that may still come. -/
def budget : Read Nat := do
  let r ← get
  return r.text.size - r.index + 2

end Read

open Read

/-- An ASCII letter. -/
def isAsciiLetter (c : Char) : Bool := c.isAlpha

/-- A letter, as far as flags tell it from other characters. -/
def isLetter (token : String) : Bool :=
  match token.toList with
  | [c] => if c.toNat < 0x80 then c.isAlpha else Text.isAlphanumeric c && !Text.isDigitSign c
  | _ => false

/-- A name: letters, digits and underscores, no digit in front. -/
def isName (s : String) : Bool :=
  match s.toList with
  | [] => false
  | c :: rest =>
    let start := c == '_' || (Text.isAlphanumeric c && !Text.isDigitSign c)
    start && rest.all fun c => Text.isWordChar c

/-- A character that stands for itself or for an anchor after a backslash. -/
def controlEscape? : Char → Option Nat
  | 'a' => some 7
  | 'f' => some 12
  | 'n' => some 10
  | 'r' => some 13
  | 't' => some 9
  | 'v' => some 11
  | '\\' => some 0x5C
  | _ => none

/-- The category of a letter after a backslash. -/
def category? : Char → Option ClassItem
  | 'd' => some (.category .digit false)
  | 'D' => some (.category .digit true)
  | 's' => some (.category .space false)
  | 'S' => some (.category .space true)
  | 'w' => some (.category .word false)
  | 'W' => some (.category .word true)
  | _ => none

/-- A hexadecimal escape of exactly `width` digits. -/
def readHexEscape (escape : String) (width : Nat) : Read Nat := do
  let ds ← takeWhile (Text.isDigitIn 16) width
  let whole := escape ++ String.ofList ds
  if ds.length ≠ width then fail s!"incomplete escape {whole}" whole.length
  return Text.digitsValue 16 ds

/-- A character given by its name. -/
def readNamedCharacter : Read Nat := do
  if !(← accept "\x7b") then fail "missing \x7b" 0
  let name ← takeUntil "\x7d" "character name" (← budget) ""
  let some code := Text.codeOfName? name
    | fail s!"undefined character name {Text.quoted name}" (name.length + 4)
  return code

/-- The problem of an octal escape that is too large. -/
def octalProblem (escape : String) : String :=
  s!"octal escape value {escape} outside of range 0-0o377"

/-- The escapes that mean the same inside and outside a class: by code or by name. -/
def readCodeEscape? (escape : String) (c : Char) : Read (Option Nat) := do
  if c = 'x' then
    return some (← readHexEscape escape 2)
  else if c = 'u' then
    return some (← readHexEscape escape 4)
  else if c = 'U' then
    let code ← readHexEscape escape 8
    if 0x10FFFF < code then
      let here ← position
      let text := (← get).text
      let whole := String.ofList (text.toList.drop (here - 10) |>.take 10)
      fail s!"bad escape {whole}" 10
    return some code
  else if c = 'N' then
    return some (← readNamedCharacter)
  else
    return none

/-- The second character of an escape token. -/
def escaped (token : String) : Char := token.toList.getD 1 '\\'

/-- An escape inside a class. -/
def readClassEscape (escape : String) : Read ClassItem := do
  let c := escaped escape
  if c = 'b' then return .literal 8
  if let some code := controlEscape? c then return .literal code
  if let some item := category? c then return item
  if let some code ← readCodeEscape? escape c then return .literal code
  if Text.isDigitIn 8 c then
    let ds ← takeWhile (Text.isDigitIn 8) 2
    let whole := escape ++ String.ofList ds
    let code := Text.digitsValue 8 (c :: ds)
    if 0o377 < code then fail (octalProblem whole) whole.length
    return .literal code
  if Text.isDigitIn 10 c || isAsciiLetter c then fail s!"bad escape {escape}" escape.length
  return .literal c.toNat

/-- A group that is closed. -/
def isClosed (group : Nat) : Read Bool := do
  return ((← get).widths.getD group none).isSome

/-- Inside a look-behind, refuse a group that is open or was opened there. -/
def checkBehind (group : Nat) : Read Unit := do
  if let some start := (← get).behindFrom then
    if !(← isClosed group) then fail "cannot refer to an open group" 0
    if start ≤ group then
      fail "cannot refer to group defined in the same lookbehind subpattern" 0

/-- An escape outside classes. -/
def readEscape (escape : String) : Read Node := do
  let c := escaped escape
  match c with
  | 'A' => return .anchor .textStart
  | 'b' => return .anchor (.boundary false)
  | 'B' => return .anchor (.boundary true)
  | 'Z' => return .anchor .textEnd
  | _ => pure ()
  if let some item := category? c then return .oneOf false [item]
  if let some code := controlEscape? c then return .literal code false
  if let some code ← readCodeEscape? escape c then return .literal code false
  if c = '0' then
    let ds ← takeWhile (Text.isDigitIn 8) 2
    return .literal (Text.digitsValue 8 ds) false
  if Text.isDigitIn 10 c then
    let more ← takeWhile (Text.isDigitIn 10) 1
    let octal := Text.isDigitIn 8 c && more.length == 1 && more.all (Text.isDigitIn 8)
    let last ← if octal then takeWhile (Text.isDigitIn 8) 1 else pure []
    let whole := escape ++ String.ofList (more ++ last)
    if !last.isEmpty then
      let code := Text.digitsValue 8 (c :: more ++ last)
      if 0o377 < code then fail (octalProblem whole) whole.length
      return .literal code false
    let group := Text.digitsValue 10 (c :: more)
    if group < (← get).widths.size then
      if !(← isClosed group) then fail "cannot refer to an open group" whole.length
      checkBehind group
      return .reference group
    fail s!"invalid group reference {group}" (whole.length - 1)
  if isAsciiLetter c then fail s!"bad escape {escape}" escape.length
  return .literal c.toNat false

/-- The name of a group: what a named group or a reference by name holds. -/
def checkGroupName (name : String) : Read Unit := do
  if !isName name then fail s!"bad character in group name {Text.quoted name}" (name.length + 1)

/-- Items with later copies left out. -/
def distinct (items : List ClassItem) : List ClassItem := items.eraseDups

/-- Read the members of a class up to its end; `start` is where the class began. -/
def readClassItems (start : Nat) : Nat → List ClassItem → Read (List ClassItem)
  | 0, got => return got
  | fuel + 1, got => do
    let unterminated {α : Type} : Read α := do
      fail "unterminated character set" ((← position) - start)
    let some this ← take | unterminated
    if this == "]" && !got.isEmpty then return got
    let one (token : String) : Read ClassItem := do
      match token.toList with
      | ['\\', _] => readClassEscape token
      | [c] => return .literal c.toNat
      | _ => return .literal 0
    let first ← one this
    if ← accept "-" then
      let some that ← take | unterminated
      if that == "]" then return got ++ [first, .literal 0x2D]
      let second ← one that
      let bad {α : Type} : Read α :=
        fail s!"bad character range {this}-{that}" (this.length + 1 + that.length)
      match first, second with
      | .literal lo, .literal hi =>
        if hi < lo then bad
        readClassItems start fuel (got ++ [.range lo hi])
      | _, _ => bad
    else
      readClassItems start fuel (got ++ [first])

/-- A class, after its opening bracket. -/
def readClass : Read Node := do
  let start := (← position) - 1
  let negated ← accept "^"
  let items := distinct (← readClassItems start (← budget) [])
  match items with
  | [.literal code] => return .literal code negated
  | _ => return .oneOf negated items

/-- The flag of a token. -/
def flagOf? (token : String) : Option Flags :=
  match token.toList with
  | [c] => Flags.ofLetter? c
  | _ => none

/-- Some flag is set. -/
def someFlag (f : Flags) : Bool := f != Flags.none

/-- Flags that a group turns on, up to the token that ends them. -/
def readFlagsOn : Nat → String → Flags → Read (Flags × String)
  | 0, token, on => return (on, token)
  | fuel + 1, token, on => do
    if token == "L" then fail "bad inline flags: cannot use 'L' flag with a str pattern" 0
    let flag := (flagOf? token).getD Flags.none
    let on := on.union flag
    if (flag.ascii || flag.unicode) && on.ascii && on.unicode then
      fail "bad inline flags: flags 'a', 'u' and 'L' are incompatible" 0
    let some next ← take | fail "missing -, : or )" 0
    if next == ")" || next == "-" || next == ":" then return (on, next)
    if next != "L" && (flagOf? next).isNone then
      fail (if isLetter next then "unknown flag" else "missing -, : or )") next.length
    readFlagsOn fuel next on

/-- Flags that a group turns off, up to the colon. -/
def readFlagsOff : Nat → String → Flags → Read Flags
  | 0, _, off => return off
  | fuel + 1, token, off => do
    let flag := (flagOf? token).getD Flags.none
    if token == "L" || flag.ascii || flag.unicode then
      fail "bad inline flags: cannot turn off flags 'a', 'u' and 'L'" 0
    let off := off.union flag
    let some next ← take | fail "missing :" 0
    if next == ":" then return off
    if next != "L" && (flagOf? next).isNone then
      fail (if isLetter next then "unknown flag" else "missing :") next.length
    readFlagsOff fuel next off

/-- The flags of a group: those it turns on and off, or none when they are set for the whole. -/
def readFlags (token : String) : Read (Option (Flags × Flags)) := do
  let (on, close) ← if token == "-" then pure (Flags.none, token)
    else readFlagsOn (← budget) token Flags.none
  if close == ")" then
    modify fun r => { r with flags := r.flags.union on }
    return none
  if on.template then fail "bad inline flags: cannot turn on global flag" 1
  let off ←
    if close == "-" then do
      let some next ← take | fail "missing flag" 0
      if next != "L" && (flagOf? next).isNone then
        fail (if isLetter next then "unknown flag" else "missing flag") next.length
      readFlagsOff (← budget) next Flags.none
    else pure Flags.none
  if off.template then fail "bad inline flags: cannot turn off global flag" 1
  if someFlag (on.inter off) then fail "bad inline flags: flag turned on and off" 1
  return some (on, off)

/-- A repetition count written with digits. -/
def readCount (ds : List Char) : Read Nat := do
  if Text.maxDigits < ds.length then
    throw (.unacceptable (s!"Exceeds the limit ({Text.maxDigits} digits) for integer string " ++
      s!"conversion: value has {ds.length} digits; use sys.set_int_max_str_digits() to increase the limit"))
  let n := Text.digitsValue 10 ds
  if countBound ≤ n then throw .tooLarge
  return n

/-- The bounds of a repetition after its first token, or nothing when an opening brace stands for
itself. -/
def readBounds (token : String) : Read (Option (Nat × Option Nat)) := do
  if token == "?" then return some (0, some 1)
  if token == "*" then return some (0, none)
  if token == "+" then return some (1, none)
  if (← peek) == some "\x7d" then return none
  let here ← position
  let lo ← takeWhile (Text.isDigitIn 10) (← budget)
  let hi ← if ← accept "," then takeWhile (Text.isDigitIn 10) (← budget) else pure lo
  if !(← accept "\x7d") then
    seek here
    return none
  let least ← if lo.isEmpty then pure 0 else readCount lo
  if hi.isEmpty then return some (least, none)
  let most ← readCount hi
  if most < least then fail "min repeat greater than max repeat" ((← position) - here)
  return some (least, some most)

/-- The mark after a repetition that tells how it tries its counts. -/
def readGreed : Read Greed := do
  if ← accept "?" then return .lazy
  if ← accept "+" then return .possessive
  return .greedy

/-- Apply a repetition to the last part read. The parts are held in reverse. -/
def applyRepetition (token : String) (here : Nat) (least : Nat) (most : Option Nat)
    (got : List Node) : Read (List Node) := do
  let back := (← position) - here + token.length
  match got with
  | [] => fail "nothing to repeat" back
  | .anchor _ :: _ => fail "nothing to repeat" back
  | .repetition _ _ _ _ :: _ => fail "multiple repeat" back
  | node :: rest =>
    let body :=
      match node with
      | .group none on off body => if someFlag on || someFlag off then [node] else body
      | node => [node]
    return .repetition (← readGreed) least most body :: rest

/-- Open a group, with a name if it has one. -/
def openGroup (name : Option String) : Read Nat := do
  let r ← get
  let index := r.widths.size
  set { r with widths := r.widths.push none }
  if let some name := name then
    if let some (_, old) := r.names.find? (·.1 == name) then
      fail s!"redefinition of group name {Text.quoted name} as group {index}; was group {old}"
        (name.length + 1)
    modify fun r => { r with names := (name, index) :: r.names }
  return index

/-- The widths of the groups closed so far. -/
def groupWidths : Read (Nat → Width) := do
  let widths := (← get).widths
  return fun group => (widths.getD group none).getD .zero

/-- Close a group. -/
def closeGroup (index : Nat) (body : List Node) : Read Unit := do
  let width := (widthOf (← groupWidths) body).cut
  modify fun r => { r with widths := r.widths.set! index (some width) }

/-- Skip a comment up to the end of its line. -/
def skipLine : Nat → Read Unit
  | 0 => return ()
  | fuel + 1 => do
    match ← take with
    | none => return ()
    | some token => if token == "\n" then return () else skipLine fuel

/-- Skip a comment group up to its end. -/
def skipComment (start : Nat) : Nat → Read Unit
  | 0 => return ()
  | fuel + 1 => do
    if (← peek).isNone then
      fail "missing ), unterminated comment" ((← position) - start)
    if (← take) == some ")" then return () else skipComment start fuel

/-- A reference to a group by its name. -/
def readNamedReference : Read Node := do
  let name ← takeUntil ")" "group name" (← budget) ""
  checkGroupName name
  match (← get).names.find? (·.1 == name) with
  | none => fail s!"unknown group name {Text.quoted name}" (name.length + 1)
  | some (_, group) =>
    if !(← isClosed group) then fail "cannot refer to an open group" (name.length + 1)
    checkBehind group
    return .reference group

/-- The group that a condition asks for, by name or number. -/
def readConditionGroup : Read Nat := do
  let name ← takeUntil ")" "group name" (← budget) ""
  let back := name.length + 1
  if isName name then
    match (← get).names.find? (·.1 == name) with
    | none => fail s!"unknown group name {Text.quoted name}" back
    | some (_, group) => return group
  match Text.readInt 10 name with
  | .ok (.ofNat group) =>
    if group = 0 then fail "bad group number" back
    if 1073741823 ≤ group then fail s!"invalid group reference {group}" back
    let here ← position
    modify fun r =>
      if r.askedFor.any (·.1 == group) then r
      else { r with askedFor := r.askedFor ++ [(group, here - back)] }
    return group
  | _ => fail s!"bad character in group name {Text.quoted name}" back

/-- What begins after an opening parenthesis. -/
inductive Opening where
  /-- A part that is already complete. -/
  | complete (node : Node)
  /-- Nothing: a comment or flags for the whole. -/
  | nothing
  /-- A look-around. -/
  | look (behind negated : Bool) (outerBehind : Option Nat)
  /-- A condition on a group. -/
  | condition (group : Nat)
  /-- An atomic group. -/
  | atomic
  /-- A group with flags. -/
  | plain (on off : Flags)
  /-- A group that is numbered. -/
  | numbered (name : Option String)

/-- Read the beginning of a group that started at `start`; `first` tells that nothing came before. -/
def readOpening (start : Nat) (first : Bool) : Read Opening := do
  if !(← accept "?") then return .numbered none
  let some char ← take | fail "unexpected end of pattern" 0
  if char == "P" then
    if ← accept "<" then
      let name ← takeUntil ">" "group name" (← budget) ""
      checkGroupName name
      return .numbered (some name)
    if ← accept "=" then return .complete (← readNamedReference)
    let some char ← take | fail "unexpected end of pattern" 0
    fail s!"unknown extension ?P{char}" (char.length + 2)
  if char == ":" then return .plain Flags.none Flags.none
  if char == "#" then
    skipComment start (← budget)
    return .nothing
  if char == "=" then return .look false false none
  if char == "!" then return .look false true none
  if char == "<" then
    let some char ← take | fail "unexpected end of pattern" 0
    if char != "=" && char != "!" then fail s!"unknown extension ?<{char}" (char.length + 2)
    let r ← get
    if r.behindFrom.isNone then set { r with behindFrom := some r.widths.size }
    return .look true (char == "!") r.behindFrom
  if char == "(" then
    let group ← readConditionGroup
    checkBehind group
    return .condition group
  if char == ">" then return .atomic
  if (flagOf? char).isSome || char == "L" || char == "-" then
    match ← readFlags char with
    | none =>
      if !first then
        fail "global flags not at the start of the expression" ((← position) - start)
      return .nothing
    | some (on, off) => return .plain on off
  fail s!"unknown extension ?{char}" (char.length + 1)

/-- The end of a group that started at `start`. -/
def expectClose (start : Nat) : Read Unit := do
  if !(← accept ")") then
    fail "missing ), unterminated subpattern" ((← position) - start)

/-- White space that a verbose expression ignores. -/
def isIgnored (token : String) : Bool :=
  token == " " || token == "\t" || token == "\n" || token == "\r" || token == "\x0b" || token == "\x0c"

/-- Groups without a number and flags are their parts. -/
def flatten (nodes : List Node) : List Node :=
  nodes.flatMap fun node =>
    match node with
    | .group none on off body => if someFlag on || someFlag off then [node] else body
    | node => [node]

mutual

/-- Branches with bars between them. `depth` is 0 for the whole expression, where flags set on the way
count for the branches after them. -/
def readChoice (verbose : Bool) (depth : Nat) : Nat → List (List Node) → Read (List Node)
  | 0, branches => return branches.flatten
  | fuel + 1, branches => do
    let branch ← readRow verbose (depth == 0 && branches.isEmpty) fuel []
    let branches := branches ++ [branch]
    if ← accept "|" then
      let global := (← get).flags.verbose
      let verbose := if depth = 0 then global else verbose
      readChoice verbose depth fuel branches
    else
      match branches with
      | [only] => return only
      | _ => return [.choice branches]

/-- Parts in a row; those read so far are in `got`, in reverse. -/
def readRow (verbose first : Bool) : Nat → List Node → Read (List Node)
  | 0, got => return got.reverse
  | fuel + 1, got => do
    let some this ← peek | return flatten got.reverse
    if this == "|" || this == ")" then return flatten got.reverse
    advance
    if verbose && isIgnored this then
      readRow verbose first fuel got
    else if verbose && this == "#" then
      skipLine (← budget)
      readRow verbose first fuel got
    else
      match this.toList with
      | ['\\', _] => readRow verbose first fuel ((← readEscape this) :: got)
      | ['['] => readRow verbose first fuel ((← readClass) :: got)
      | ['.'] => readRow verbose first fuel (.any :: got)
      | ['^'] => readRow verbose first fuel (.anchor .lineStart :: got)
      | ['$'] => readRow verbose first fuel (.anchor .lineEnd :: got)
      | ['('] =>
        let start := (← position) - 1
        match ← readOpening start (first && got.isEmpty) with
        | .complete node => readRow verbose first fuel (node :: got)
        | .nothing =>
          let global := (← get).flags.verbose
          let verbose := if first && got.isEmpty then global else verbose
          readRow verbose first fuel got
        | .look behind negated outer =>
          let body ← readChoice verbose 1 fuel []
          if behind && outer.isNone then modify fun r => { r with behindFrom := none }
          expectClose start
          let width := (widthOf (← groupWidths) body).cut
          readRow verbose first fuel (.look behind negated width body :: got)
        | .condition group =>
          let yes ← readRow verbose false fuel []
          let no ←
            if ← accept "|" then do
              let no ← readRow verbose false fuel []
              if (← peek) == some "|" then
                fail "conditional backref with more than two branches" 0
              pure no
            else pure []
          expectClose start
          readRow verbose first fuel (.condition group yes no :: got)
        | .atomic =>
          let body ← readChoice verbose 1 fuel []
          expectClose start
          readRow verbose first fuel (.atomic body :: got)
        | .plain on off =>
          let body ← readChoice ((verbose || on.verbose) && !off.verbose) 1 fuel []
          expectClose start
          readRow verbose first fuel (.group none on off body :: got)
        | .numbered name =>
          let index ← openGroup name
          let body ← readChoice verbose 1 fuel []
          expectClose start
          closeGroup index body
          readRow verbose first fuel (.group (some index) Flags.none Flags.none body :: got)
      | [c] =>
        if c = '*' ∨ c = '+' ∨ c = '?' ∨ c = '\x7b' then
          let here ← position
          match ← readBounds this with
          | none => readRow verbose first fuel (.literal c.toNat false :: got)
          | some (least, most) =>
            readRow verbose first fuel (← applyRepetition this here least most got)
        else
          readRow verbose first fuel (.literal c.toNat false :: got)
      | _ => readRow verbose first fuel got

end

mutual

/-- Check what depends on the whole expression: look-behind needs a fixed width, and a template takes
no repetition. -/
def checkRow (template : Bool) : List Node → Except Fault Unit
  | [] => return ()
  | node :: rest => do
    checkNode template node
    checkRow template rest

/-- Check one part. -/
def checkNode (template : Bool) : Node → Except Fault Unit
  | .group _ on off body => checkRow ((template || on.template) && !off.template) body
  | .atomic body => checkRow template body
  | .repetition greed _ _ body =>
    if template then
      let name := match greed with
        | .greedy => "MAX_REPEAT"
        | .lazy => "MIN_REPEAT"
        | .possessive => "POSSESSIVE_REPEAT"
      throw (.malformed s!"internal: unsupported template operator {name}" none)
    else checkRow template body
  | .choice branches => checkBranches template branches
  | .look behind _ width body => do
    if behind && countBound < width.least then throw (.malformed "looks too much behind" none)
    if behind && width.least != width.most then
      throw (.malformed "look-behind requires fixed-width pattern" none)
    checkRow template body
  | .condition _ yes no => do
    checkRow template yes
    checkRow template no
  | _ => return ()

/-- Check every branch. -/
def checkBranches (template : Bool) : List (List Node) → Except Fault Unit
  | [] => return ()
  | branch :: rest => do
    checkRow template branch
    checkBranches template rest

end

/-- Read a whole expression and check it. -/
def readWhole (size : Nat) : Read Expression := do
  advance
  let body ← readChoice false 0 (4 * size + 8) []
  let r ← get
  if r.flags.ascii && r.flags.unicode then
    throw (.unacceptable "ASCII and UNICODE flags are incompatible")
  if r.next.isSome then fail "unbalanced parenthesis" 0
  for (group, place) in r.askedFor do
    if r.widths.size ≤ group then
      throw (.malformed s!"invalid group reference {group}" (some place))
  checkRow r.flags.template body
  return { flags := r.flags, body }

/-- Read a regular expression. -/
def Expression.parse (text : String) : Except Fault Expression :=
  let chars := text.toList.toArray
  let start : Reading :=
    { text := chars, index := 0, next := none, flags := Flags.none, names := [], widths := #[none],
      behindFrom := none, askedFor := [] }
  ((readWhole chars.size).run start).map (·.1)

end PluginDescriptor.Pattern
