import PluginDescriptor.Fault
import PluginDescriptor.Text.Numeral
import PluginDescriptor.Text.Utf8
import PluginDescriptor.Yaml.Token

/-!
# Cutting a document into tokens

The lexer goes through the text once. It keeps the column of every block that is open, and for every
level of brackets the last place where a simple key may have begun: when a colon follows on the same
line, key tokens are put in at that place.
-/

set_option autoImplicit false

namespace PluginDescriptor.Yaml

/-- A place where a simple key may have begun. -/
structure KeyPlace where
  level : Nat
  /-- The number of tokens before it. -/
  before : Nat
  /-- No other reading of the place is possible. -/
  required : Bool
  index : Nat
  line : Nat
  column : Nat
  deriving Repr, Inhabited

/-- The state of the lexer. -/
structure Lexer where
  rest : List Char
  size : Nat
  index : Nat
  line : Nat
  column : Nat
  /-- How many brackets are open. -/
  level : Nat
  /-- The column of the innermost block, -1 outside all. -/
  indent : Int
  /-- The columns of the blocks around it. -/
  outer : List Int
  /-- A simple key may begin here. -/
  keyAllowed : Bool
  places : List KeyPlace
  tokens : Array Token
  deriving Inhabited

/-- A step of the lexer. -/
abbrev Lex (α : Type) : Type := StateT Lexer (Except Fault) α

namespace Lex

/-- Fail. -/
def fail {α : Type} : Lex α := throw .notYaml

/-- The character `n` places ahead. -/
def peekAt (n : Nat) : Lex Char := return (← get).rest.getD n endMark

/-- The character at hand. -/
def peek : Lex Char := return (← get).rest.headD endMark

/-- Move over one character. -/
def step : Lex Unit := modify fun s =>
  match s.rest with
  | [] => s
  | c :: rest =>
    if isBreak c && !(c == '\r' && rest.head? == some '\n') then
      { s with rest, index := s.index + 1, line := s.line + 1, column := 0 }
    else if c.toNat == 0xFEFF then
      { s with rest, index := s.index + 1 }
    else
      { s with rest, index := s.index + 1, column := s.column + 1 }

/-- Move over `n` characters. -/
def skip : Nat → Lex Unit
  | 0 => return ()
  | n + 1 => do
    step
    skip n

/-- Take the characters that pass a test; the test is false of the end. -/
def takeWhile (p : Char → Bool) : Lex (List Char) := do
  let s ← get
  let part := s.rest.takeWhile p
  skip part.length
  return part

/-- The number of steps that can be left. -/
def budget : Lex Nat := do
  let s ← get
  return s.size - s.index + 2

/-- A line break at hand, moved over: what it reads as, or nothing. -/
def lineBreak : Lex (List Char) := do
  let c ← peek
  if c == '\r' || c == '\n' || c.toNat == 0x85 then
    if c == '\r' && (← peekAt 1) == '\n' then skip 2 else step
    return ['\n']
  else if isBreak c then
    step
    return [c]
  else
    return []

/-- Put a token at the end. -/
def emit (token : Token) : Lex Unit := modify fun s => { s with tokens := s.tokens.push token }

/-- Put a token in after the first `before` tokens. -/
def insert (before : Nat) (token : Token) : Lex Unit := modify fun s =>
  { s with tokens := (s.tokens.toList.take before ++ token :: s.tokens.toList.drop before).toArray }

/-! ## Blocks and simple keys -/

/-- Close the blocks that are indented deeper than a column. -/
def unwind (column : Int) : Nat → Lex Unit
  | 0 => return ()
  | fuel + 1 => do
    let s ← get
    if s.level == 0 && column < s.indent then
      set { s with indent := s.outer.headD (-1), outer := s.outer.tail, tokens := s.tokens.push .blockEnd }
      unwind column fuel

/-- Close the blocks that are indented deeper than a column. -/
def closeBlocks (column : Int) : Lex Unit := do unwind column ((← get).outer.length + 1)

/-- Open a block at a column, if it is deeper than the innermost one. -/
def openBlock (column : Int) : Lex Bool := do
  let s ← get
  if s.indent < column then
    set { s with indent := column, outer := s.indent :: s.outer }
    return true
  else
    return false

/-- Forget the places of simple keys that are too far away. -/
def dropStale : Lex Unit := do
  let s ← get
  let stale (k : KeyPlace) : Bool := k.line != s.line || 1024 < s.index - k.index
  if s.places.any fun k => stale k && k.required then fail
  set { s with places := s.places.filter fun k => !stale k }

/-- Forget the place of a simple key at the present level. -/
def dropPlace : Lex Unit := do
  let s ← get
  if s.places.any fun k => k.level == s.level && k.required then fail
  set { s with places := s.places.filter fun k => k.level != s.level }

/-- Keep the place at hand, if a simple key may begin there. -/
def keepPlace : Lex Unit := do
  if (← get).keyAllowed then
    dropPlace
    modify fun s =>
      { s with places :=
          { level := s.level, before := s.tokens.size,
            required := s.level == 0 && s.indent == (s.column : Int),
            index := s.index, line := s.line, column := s.column } :: s.places }

/-- Say whether a simple key may begin at the place at hand. -/
def allowKey (b : Bool) : Lex Unit := modify fun s => { s with keyAllowed := b }

/-- Move over spaces, comments and line breaks. -/
def toNextToken : Nat → Lex Unit
  | 0 => return ()
  | fuel + 1 => do
    let _ ← takeWhile (· == ' ')
    if (← peek) == '#' then
      let _ ← takeWhile fun c => !isBreakOrEnd c
    if !(← lineBreak).isEmpty then
      if (← get).level == 0 then allowKey true
      toNextToken fuel

/-! ## Directives -/

/-- The rest of a line that holds nothing more than a comment. -/
def ignoredLine : Lex Unit := do
  let _ ← takeWhile (· == ' ')
  if (← peek) == '#' then
    let _ ← takeWhile fun c => !isBreakOrEnd c
  if !isBreakOrEnd (← peek) then fail
  let _ ← lineBreak

/-- A number of a version. -/
def versionNumber : Lex Nat := do
  let ds ← takeWhile Char.isDigit
  if ds.isEmpty then fail
  return Text.digitsValue 10 ds

/-- The handle of a tag: an exclamation mark, or a name between two of them. -/
def tagHandle : Lex String := do
  if (← peek) != '!' then fail
  step
  if (← peek) == ' ' then return "!"
  let name ← takeWhile isNameChar
  if (← peek) != '!' then fail
  step
  return String.ofList ('!' :: name ++ ['!'])

/-- The bytes of characters escaped with percent signs. -/
def percentBytes : Nat → Lex (List UInt8)
  | 0 => return []
  | fuel + 1 => do
    if (← peek) == '%' then
      step
      let a ← peek
      let b ← peekAt 1
      if !(Text.isDigitIn 16 a && Text.isDigitIn 16 b) then fail
      skip 2
      return UInt8.ofNat (Text.digitsValue 16 [a, b]) :: (← percentBytes fuel)
    else
      return []

/-- The characters of a tag. -/
def tagText : Nat → List Char → Lex (List Char)
  | 0, got => return got
  | fuel + 1, got => do
    let c ← peek
    if c == '%' then
      match Text.decodeUtf8 (← percentBytes (← budget)) with
      | .ok cs => tagText fuel (got ++ cs)
      | .error _ => fail
    else if c.isAlphanum || isOneOf "-;/?:@&=+$,_.!~*\x27()[]" c then
      step
      tagText fuel (got ++ [c])
    else
      return got

/-- The characters of a tag, at least one. -/
def tagUri : Lex String := do
  let cs ← tagText (← budget) []
  if cs.isEmpty then fail
  return String.ofList cs

/-- A directive. -/
def directive : Lex Token := do
  step
  let name ← takeWhile isNameChar
  if name.isEmpty || !isGap (← peek) then fail
  let token ←
    if name == "YAML".toList then do
      let _ ← takeWhile (· == ' ')
      let major ← versionNumber
      if (← peek) != '.' then fail
      step
      let minor ← versionNumber
      if !isGap (← peek) then fail
      pure (Token.version major minor)
    else if name == "TAG".toList then do
      let _ ← takeWhile (· == ' ')
      let handle ← tagHandle
      if (← peek) != ' ' then fail
      let _ ← takeWhile (· == ' ')
      let lead ← tagUri
      if !isGap (← peek) then fail
      pure (Token.tagHandle handle lead)
    else do
      let _ ← takeWhile fun c => !isBreakOrEnd c
      pure Token.reserved
  ignoredLine
  return token

/-! ## Anchors and tags -/

/-- The name after the mark of an anchor or alias. -/
def anchorName : Lex String := do
  step
  let name ← takeWhile isNameChar
  if name.isEmpty then fail
  let c ← peek
  if !(isGapOrTab c || isOneOf "?:,]\x7d%@\x60" c) then fail
  return String.ofList name

/-- A tag. -/
def tag : Lex Token := do
  let c ← peekAt 1
  let token ←
    if c == '<' then do
      skip 2
      let uri ← tagUri
      if (← peek) != '>' then fail
      step
      pure (Token.tag none uri)
    else if isGapOrTab c then do
      step
      pure (Token.tag none "!")
    else do
      let ahead := ((← get).rest.drop 1).takeWhile fun c => !isGap c
      let handle ←
        if ahead.contains '!' then tagHandle
        else do
          step
          pure "!"
      let suffix ← tagUri
      pure (Token.tag (some handle) suffix)
  if !isGap (← peek) then fail
  return token

/-! ## Scalars -/

/-- The marks after the sign of a block scalar: what to do with the line breaks at its end, and how
much deeper than its block it is indented. -/
def blockMarks : Lex (Option Bool × Option Nat) := do
  let sign : Lex (Option Bool) := do
    let c ← peek
    if c == '+' || c == '-' then
      step
      return some (c == '+')
    else
      return none
  let depth : Lex (Option Nat) := do
    let c ← peek
    if c.isDigit then
      if c == '0' then fail
      step
      return some (c.toNat - 0x30)
    else
      return none
  let keep ← sign
  let increment ← depth
  let keep ← if keep.isNone && increment.isSome then sign else pure keep
  if !isGap (← peek) then fail
  return (keep, increment)

/-- The empty lines before the first line of a block scalar, and the deepest column in them. -/
def leadingLines : Nat → List Char → Nat → Lex (List Char × Nat)
  | 0, breaks, deepest => return (breaks, deepest)
  | fuel + 1, breaks, deepest => do
    let c ← peek
    if c == ' ' then
      step
      leadingLines fuel breaks (max deepest (← get).column)
    else if isBreak c then
      leadingLines fuel (breaks ++ (← lineBreak)) deepest
    else
      return (breaks, deepest)

/-- Move over spaces up to a column. -/
def toColumn (column : Nat) : Lex Unit := do
  let s ← get
  let spaces := (s.rest.takeWhile (· == ' ')).length
  skip (min spaces (column - s.column))

/-- The empty lines between two lines of a block scalar. -/
def emptyLines (column : Nat) : Nat → List Char → Lex (List Char)
  | 0, breaks => return breaks
  | fuel + 1, breaks => do
    toColumn column
    if isBreak (← peek) then
      emptyLines column fuel (breaks ++ (← lineBreak))
    else
      return breaks

/-- The lines of a block scalar; `breaks` are those before the next line. The text so far, the break
of the last line and the breaks after it are given back. -/
def blockLines (folded : Bool) (column : Nat) :
    Nat → List Char → List Char → List Char → Lex (List Char × List Char × List Char)
  | 0, text, lastBreak, breaks => return (text, lastBreak, breaks)
  | fuel + 1, text, lastBreak, breaks => do
    if (← get).column != column || (← peek) == endMark then return (text, lastBreak, breaks)
    let text := text ++ breaks
    let flush := !isOneOf " \t" (← peek)
    let line ← takeWhile fun c => !isBreakOrEnd c
    let text := text ++ line
    let lastBreak ← lineBreak
    let breaks ← emptyLines column (← budget) []
    if (← get).column == column && (← peek) != endMark then
      if folded && lastBreak == ['\n'] && flush && !isOneOf " \t" (← peek) then
        blockLines folded column fuel (if breaks.isEmpty then text ++ [' '] else text) lastBreak breaks
      else
        blockLines folded column fuel (text ++ lastBreak) lastBreak breaks
    else
      return (text, lastBreak, breaks)

/-- A block scalar, after its sign. -/
def blockScalar (folded : Bool) : Lex Token := do
  step
  let (keep, increment) ← blockMarks
  ignoredLine
  let least := max ((← get).indent + 1) 1 |>.toNat
  let (column, breaks) ←
    match increment with
    | none => do
      let (breaks, deepest) ← leadingLines (← budget) [] 0
      pure (max least deepest, breaks)
    | some n => do
      let column := least + n - 1
      pure (column, ← emptyLines column (← budget) [])
  let (text, lastBreak, breaks) ← blockLines folded column (← budget) [] [] breaks
  let text := if keep == some false then text else text ++ lastBreak
  let text := if keep == some true then text ++ breaks else text
  return .scalar (String.ofList text) false

/-- Three dashes or dots with a gap after them are at hand. -/
def atDocumentMark : Lex Bool := do
  let lead := (← get).rest.take 3
  return (lead == ['-', '-', '-'] || lead == ['.', '.', '.']) && isGapOrTab (← peekAt 3)

/-- The line breaks inside a quoted scalar, with the blanks between them left out. -/
def quotedBreaks : Nat → List Char → Lex (List Char)
  | 0, breaks => return breaks
  | fuel + 1, breaks => do
    if ← atDocumentMark then fail
    let _ ← takeWhile (isOneOf " \t")
    if isBreak (← peek) then
      quotedBreaks fuel (breaks ++ (← lineBreak))
    else
      return breaks

/-- A character given by its code. Half of a surrogate pair is none, also next to the other half. -/
def codedChar (width : Nat) : Lex Char := do
  let ds := (← get).rest.take width
  if ds.length ≠ width || !ds.all (Text.isDigitIn 16) then fail
  let code := Text.digitsValue 16 ds
  if 0x7FFFFFFF < code then throw (.tooLarge "Python int too large to convert to C int")
  if 0x10FFFF < code then throw (.badValue "chr() arg not in range(0x110000)")
  if 0xD800 ≤ code && code < 0xE000 then throw .loneSurrogate
  skip width
  return Char.ofNat code

/-- Characters of a quoted scalar up to a blank or the quote. -/
def quotedChars (double : Bool) : Nat → List Char → Lex (List Char)
  | 0, got => return got
  | fuel + 1, got => do
    let part ← takeWhile fun c => !(isGapOrTab c || isOneOf "\x27\x22\\" c)
    let got := got ++ part
    let c ← peek
    if !double && c == '\x27' && (← peekAt 1) == '\x27' then
      skip 2
      quotedChars double fuel (got ++ [c])
    else if (double && c == '\x27') || (!double && isOneOf "\x22\\" c) then
      step
      quotedChars double fuel (got ++ [c])
    else if double && c == '\\' then
      step
      let e ← peek
      if let some r := replacement? e then
        step
        quotedChars double fuel (got ++ [r])
      else if let some width := codeLength? e then
        step
        quotedChars double fuel (got ++ [← codedChar width])
      else if isBreak e then
        let _ ← lineBreak
        quotedChars double fuel (got ++ (← quotedBreaks (← budget) []))
      else
        fail
    else
      return got

/-- Blanks inside a quoted scalar; line breaks among them are folded. -/
def quotedBlanks : Lex (List Char) := do
  let blanks ← takeWhile (isOneOf " \t")
  let c ← peek
  if c == endMark then fail
  if isBreak c then
    let first ← lineBreak
    let breaks ← quotedBreaks (← budget) []
    if first != ['\n'] then return first ++ breaks
    else if breaks.isEmpty then return [' ']
    else return breaks
  else
    return blanks

/-- The inside of a quoted scalar. -/
def quotedInside (double : Bool) (quote : Char) : Nat → List Char → Lex (List Char)
  | 0, got => return got
  | fuel + 1, got => do
    if (← peek) == quote then return got
    let blanks ← quotedBlanks
    let chars ← quotedChars double (← budget) []
    quotedInside double quote fuel (got ++ blanks ++ chars)

/-- A quoted scalar. -/
def quotedScalar (double : Bool) : Lex Token := do
  let quote ← peek
  step
  let first ← quotedChars double (← budget) []
  let text ← quotedInside double quote (← budget) first
  step
  return .scalar (String.ofList text) false

/-- The character ends a plain scalar, the next one being given. -/
def endsPlain (level : Nat) (c next : Char) : Bool :=
  isGapOrTab c
    || (c == ':' && (isGapOrTab next || (level != 0 && isOneOf ",[]\x7b\x7d" next)))
    || (level != 0 && isOneOf ",?[]\x7b\x7d" c)

/-- The leading part of a text that belongs to a plain scalar. -/
def plainPart (level : Nat) : List Char → List Char
  | [] => []
  | c :: rest => if endsPlain level c (rest.headD endMark) then [] else c :: plainPart level rest

/-- The line breaks inside a plain scalar, with the spaces between them left out; nothing when a
document mark follows. -/
def plainBreaks : Nat → List Char → Lex (Option (List Char))
  | 0, breaks => return some breaks
  | fuel + 1, breaks => do
    let c ← peek
    if c == ' ' then
      step
      plainBreaks fuel breaks
    else if isBreak c then
      let breaks := breaks ++ (← lineBreak)
      if ← atDocumentMark then return none
      plainBreaks fuel breaks
    else
      return some breaks

/-- Blanks inside a plain scalar; line breaks among them are folded. -/
def plainBlanks : Lex (List Char) := do
  let blanks ← takeWhile (· == ' ')
  if isBreak (← peek) then
    let first ← lineBreak
    allowKey true
    if ← atDocumentMark then return []
    match ← plainBreaks (← budget) [] with
    | none => return []
    | some breaks =>
      if first != ['\n'] then return first ++ breaks
      else if breaks.isEmpty then return [' ']
      else return breaks
  else
    return blanks

/-- The text of a plain scalar; `blanks` stand between it and what may follow. -/
def plainText (column : Int) : Nat → List Char → List Char → Lex (List Char)
  | 0, got, _ => return got
  | fuel + 1, got, blanks => do
    if (← peek) == '#' then return got
    let s ← get
    let part := plainPart s.level s.rest
    if part.isEmpty then return got
    skip part.length
    allowKey false
    let got := got ++ blanks ++ part
    let blanks ← plainBlanks
    let s ← get
    if blanks.isEmpty || (← peek) == '#' || (s.level == 0 && (s.column : Int) < column) then
      return got
    plainText column fuel got blanks

/-- A plain scalar. -/
def plainScalar : Lex Token := do
  let text ← plainText ((← get).indent + 1) (← budget) [] []
  return .scalar (String.ofList text) true

/-! ## The next token -/

/-- An opening bracket. -/
def openBracket (token : Token) : Lex Unit := do
  keepPlace
  modify fun s => { s with level := s.level + 1, keyAllowed := true }
  step
  emit token

/-- A closing bracket. -/
def closeBracket (token : Token) : Lex Unit := do
  dropPlace
  modify fun s => { s with level := s.level - 1, keyAllowed := false }
  step
  emit token

/-- A dash that begins an entry. -/
def blockEntry : Lex Unit := do
  let s ← get
  if s.level == 0 then
    if !s.keyAllowed then fail
    if ← openBlock s.column then emit .blockSequenceStart
  allowKey true
  dropPlace
  step
  emit .blockEntry

/-- A question mark that begins a key. -/
def keyMark : Lex Unit := do
  let s ← get
  if s.level == 0 then
    if !s.keyAllowed then fail
    if ← openBlock s.column then emit .blockMappingStart
  allowKey (s.level == 0)
  dropPlace
  step
  emit .key

/-- A colon before a value. When a simple key began before it, the key tokens are put in there. -/
def valueMark : Lex Unit := do
  let s ← get
  match s.places.find? (·.level == s.level) with
  | some place =>
    modify fun s => { s with places := s.places.filter (·.level != s.level) }
    insert place.before .key
    if s.level == 0 then
      if ← openBlock place.column then insert place.before .blockMappingStart
    allowKey false
  | none =>
    if s.level == 0 then
      if !s.keyAllowed then fail
      if ← openBlock s.column then emit .blockMappingStart
    allowKey (s.level == 0)
    dropPlace
  step
  emit .value

/-- A token that stands alone at the start of a line outside all blocks. -/
def outsideBlocks (read : Lex Token) : Lex Unit := do
  closeBlocks (-1)
  dropPlace
  allowKey false
  emit (← read)

/-- A token that can begin a simple key. -/
def atKeyPlace (read : Lex Token) : Lex Unit := do
  keepPlace
  allowKey false
  emit (← read)

/-- A block scalar as a token. -/
def blockScalarToken (folded : Bool) : Lex Unit := do
  allowKey true
  dropPlace
  emit (← blockScalar folded)

/-- Whether a plain scalar can begin with a character, the next one being given. -/
def beginsPlain (level : Nat) (c next : Char) : Bool :=
  !(isGapOrTab c || isOneOf "-?:,[]\x7b\x7d#&*!|>\x27\x22%@\x60" c)
    || (!isGapOrTab next && (c == '-' || (level == 0 && isOneOf "?:" c)))

/-- Read the next token or tokens; false at the end. -/
def nextToken : Lex Bool := do
  if (← get).index == 0 && (← peek).toNat == 0xFEFF then step
  toNextToken (← budget)
  dropStale
  closeBlocks (← get).column
  let s ← get
  let c ← peek
  let next ← peekAt 1
  if c == endMark then
    closeBlocks (-1)
    dropPlace
    return false
  if c == '%' && s.column == 0 then outsideBlocks directive
  else if c == '-' && s.column == 0 && (← atDocumentMark) then
    outsideBlocks do
      skip 3
      return .documentStart
  else if c == '.' && s.column == 0 && (← atDocumentMark) then
    outsideBlocks do
      skip 3
      return .documentEnd
  else if c == '[' then openBracket .flowSequenceStart
  else if c == '\x7b' then openBracket .flowMappingStart
  else if c == ']' then closeBracket .flowSequenceEnd
  else if c == '\x7d' then closeBracket .flowMappingEnd
  else if c == ',' then
    allowKey true
    dropPlace
    step
    emit .flowEntry
  else if c == '-' && isGapOrTab next then blockEntry
  else if c == '?' && (s.level != 0 || isGapOrTab next) then keyMark
  else if c == ':' && (s.level != 0 || isGapOrTab next) then valueMark
  else if c == '*' then atKeyPlace (return .alias (← anchorName))
  else if c == '&' then atKeyPlace (return .anchor (← anchorName))
  else if c == '!' then atKeyPlace tag
  else if c == '|' && s.level == 0 then blockScalarToken false
  else if c == '>' && s.level == 0 then blockScalarToken true
  else if c == '\x27' then atKeyPlace (quotedScalar false)
  else if c == '\x22' then atKeyPlace (quotedScalar true)
  else if beginsPlain s.level c next then atKeyPlace plainScalar
  else fail
  return true

/-- Read tokens up to the end or a fault. -/
def scanFrom : Nat → Lexer → Lexer × Option Fault
  | 0, s => (s, none)
  | fuel + 1, s =>
    match nextToken.run s with
    | .ok (true, s) => scanFrom fuel s
    | .ok (false, s) => (s, none)
    | .error fault => (s, some fault)

end Lex

/-- What a text is cut into: its tokens, up to the fault if there is one. -/
structure Tokens where
  tokens : List Token
  fault : Option Fault
  deriving Repr, Inhabited

/-- The tokens of a text. Before a fault, tokens from a place on where a simple key may have begun are
not settled, and left out. -/
def Tokens.scan (text : String) : Tokens :=
  let chars := text.toList
  let start : Lexer :=
    { rest := chars, size := chars.length, index := 0, line := 0, column := 0, level := 0,
      indent := -1, outer := [], keyAllowed := true, places := [], tokens := #[] }
  if !chars.all isAllowed then { tokens := [], fault := some .notYaml }
  else
    let (final, fault) := Lex.scanFrom (chars.length + 2) start
    let tokens := final.tokens.toList
    match fault with
    | none => { tokens, fault }
    | some _ => { tokens := tokens.take (final.places.foldl (fun n k => min n k.before) tokens.length), fault }

end PluginDescriptor.Yaml
