import PluginDescriptor.Text.Digit
import PluginDescriptor.Text.Quoted
import PluginDescriptor.Text.Split

/-!
# Command lines

A command line is read by a grammar: options, which stand anywhere and may have a value, and places,
which are filled in order by the other words. A place for a command takes all words that are left, for
the grammar of that command. Two dashes alone end the options. A long option may be cut short as long
as it stays the only one that is meant.
-/

set_option autoImplicit false

namespace PluginDescriptor.Command

/-- What can be asked for instead of a run. -/
inductive Question where
  | help
  | version
  deriving Repr, DecidableEq

/-- Why there is no run. -/
inductive Stop where
  /-- A question is asked. -/
  | question (q : Question)
  /-- The command line does not fit the grammar of a program. -/
  | misuse (program message : String)
  deriving Repr, DecidableEq

/-- The part that an option plays. -/
inductive OptionRole where
  /-- It has a value: one of the choices, or any text if there are none. -/
  | value (choices : List String)
  /-- It asks a question. -/
  | asks (q : Question)
  deriving Repr, DecidableEq

/-- An option with its names. -/
structure OptionSpec where
  names : List String
  role : OptionRole
  deriving Repr, DecidableEq

/-- A place for words that are no options. -/
inductive Place where
  /-- One word. -/
  | word (name : String)
  /-- One of several commands, and all words after it. -/
  | command (name : String) (choices : List String)
  deriving Repr, DecidableEq

/-- The options and places of a program. -/
structure Grammar where
  program : String
  options : List OptionSpec
  places : List Place
  deriving Repr

/-- A value that is attached to the name of an option. -/
structure Attached where
  /-- An equals sign stands before it. -/
  marked : Bool
  text : String
  deriving Repr, DecidableEq

/-- An option as it is meant by a word. -/
structure Meant where
  spec : OptionSpec
  name : String
  attached : Option Attached
  deriving Repr, DecidableEq

/-- A word of a command line. -/
inductive Word where
  | plain (text : String)
  /-- Two dashes alone. -/
  | dashes
  /-- An option, perhaps of no known name. -/
  | option (text : String) (meant : Option Meant)
  deriving Repr, DecidableEq

namespace Word

/-- The text of a word. -/
def text : Word → String
  | plain s => s
  | dashes => "--"
  | option s _ => s

/-- The word is two dashes alone. -/
def isDashes : Word → Bool
  | dashes => true
  | _ => false

/-- The word is an option. -/
def isOption : Word → Bool
  | option _ _ => true
  | _ => false

end Word

/-- The names of an option in one text. -/
def OptionSpec.label (o : OptionSpec) : String := Text.join "/" o.names

/-- The name of a place. -/
def Place.name : Place → String
  | word name => name
  | command name _ => name

namespace Grammar

/-- The command line is misused. -/
def misuse {α : Type} (g : Grammar) (message : String) : Except Stop α :=
  .error (.misuse g.program message)

/-- An argument is misused. -/
def misuseOf {α : Type} (g : Grammar) (argument message : String) : Except Stop α :=
  g.misuse s!"argument {argument}: {message}"

/-- Every name of an option with the option. -/
def named (g : Grammar) : List (String × OptionSpec) :=
  g.options.flatMap fun o => o.names.map fun name => (name, o)

/-! ## Telling words apart -/

/-- The text is a negative number: a dash, and digits with perhaps a point in front of or among them. -/
def isNegativeNumber (s : List Char) : Bool :=
  let s := if s.getLast? == some '\n' then s.dropLast else s
  let isDigits (ds : List Char) : Bool := ds.all fun c => (Text.decimalValue? c).isSome
  match s with
  | '-' :: rest =>
    match Text.cutAt '.' rest with
    | (whole, none) => !whole.isEmpty && isDigits whole
    | (whole, some part) => isDigits whole && !part.isEmpty && isDigits part
  | _ => false

/-- A text cut at its first equals sign. -/
def cutMark (s : String) : String × Option Attached :=
  match Text.cutAt '=' s.toList with
  | (name, some rest) => (String.ofList name, some { marked := true, text := String.ofList rest })
  | (name, none) => (String.ofList name, none)

/-- The options that a text with a dash in front could mean. -/
def candidates (g : Grammar) (s : String) : List Meant :=
  match s.toList with
  | '-' :: '-' :: _ =>
    let (name, attached) := cutMark s
    (g.named.filter fun (full, _) => Text.hasLead name full).map fun (full, spec) =>
      { spec, name := full, attached }
  | a :: b :: rest =>
    let short := String.ofList [a, b]
    g.named.filterMap fun (full, spec) =>
      if full = short then
        some { spec, name := full, attached := some { marked := false, text := String.ofList rest } }
      else if Text.hasLead s full then some { spec, name := full, attached := none }
      else none
  | _ => []

/-- What a text in front of two dashes is. -/
def classify (g : Grammar) (s : String) : Except Stop Word := do
  if !Text.hasLead "-" s || s == "-" then return .plain s
  if let some spec := g.named.lookup s then
    return .option s (some { spec, name := s, attached := none })
  let (name, attached) := cutMark s
  if let (some _, some spec) := (attached, g.named.lookup name) then
    return .option s (some { spec, name, attached })
  match g.candidates s with
  | [] => return if isNegativeNumber s.toList || s.toList.contains ' ' then .plain s else .option s none
  | [meant] => return .option s (some meant)
  | several =>
    let names := Text.join ", " (several.map (·.name))
    g.misuse s!"ambiguous option: {s} could match {names}"

/-- The words of a command line. -/
def words (g : Grammar) : List String → Except Stop (List Word)
  | [] => return []
  | "--" :: rest => return .dashes :: rest.map .plain
  | s :: rest => do
    let word ← g.classify s
    return word :: (← g.words rest)

/-! ## Reading words -/

/-- What was read: values of options and places by name, the command with its words, the places not
filled, and the words that nothing asked for. -/
structure Reading where
  options : List (String × String) := []
  places : List (String × String) := []
  command : Option (String × List String) := none
  unfilled : List Place
  extras : List String := []
  deriving Repr

/-- Refuse a value that is none of the choices. -/
def checkChoice (g : Grammar) (argument : String) (choices : List String) (value : String) :
    Except Stop Unit :=
  if choices.isEmpty || choices.contains value then .ok ()
  else
    let all := Text.join ", " (choices.map Text.quoted)
    let shown := Text.quoted value
    g.misuseOf argument s!"invalid choice: {shown} (choose from {all})"

/-- A text attached to an option that has no value. Behind a short name it may be further short
names. -/
def checkAttached (g : Grammar) (spec : OptionSpec) (short marked : Bool) (text : List Char) :
    Except Stop Unit :=
  let ignored : Except Stop Unit :=
    let shown := Text.quoted (String.ofList text)
    g.misuseOf spec.label s!"ignored explicit argument {shown}"
  match text with
  | [] => ignored
  | c :: rest =>
    if !short || marked || c = '-' then ignored
    else if (g.named.lookup (String.ofList ['-', c])).isNone then .ok ()
    else
      match rest with
      | [] => .ok ()
      | '=' :: value => g.checkAttached spec short true value
      | rest => g.checkAttached spec short false rest
termination_by text.length

/-- Read an option and its value, which may be the next word. -/
def readOption (g : Grammar) (r : Reading) (meant : Meant) (rest : List Word) :
    Except Stop (Reading × List Word) := do
  let label := meant.spec.label
  match meant.spec.role with
  | .asks q =>
    if let some attached := meant.attached then
      let short := !Text.hasLead "--" meant.name
      g.checkAttached meant.spec short attached.marked attached.text.toList
    throw (.question q)
  | .value choices =>
    let (value, rest) ←
      match meant.attached, rest with
      | some attached, rest => pure (attached.text, rest)
      | none, .plain value :: rest => pure (value, rest)
      | none, _ => g.misuseOf label "expected one argument"
    g.checkChoice label choices value
    return ({ r with options := r.options ++ [(label, value)] }, rest)

/-- One word that is no option, with two dashes before or after it left out, and what follows. -/
def takeWord? (words : List Word) : Option (String × List Word) :=
  match words.dropWhile Word.isDashes with
  | .plain value :: rest => some (value, rest.dropWhile Word.isDashes)
  | _ => none

/-- Fill places in order with the words in front of the next option. -/
def fillPlaces (g : Grammar) (r : Reading) (words : List Word) : List Place →
    Except Stop (Reading × List Word)
  | [] => return ({ r with unfilled := [] }, words)
  | .word name :: places =>
    match takeWord? words with
    | some (value, rest) => g.fillPlaces { r with places := r.places ++ [(name, value)] } rest places
    | none => return ({ r with unfilled := .word name :: places }, words)
  | .command name choices :: places =>
    if (takeWord? words).isNone then
      return ({ r with unfilled := .command name choices :: places }, words)
    else
      match words.map Word.text with
      | [] => return ({ r with unfilled := places }, [])
      | value :: rest => do
        g.checkChoice name choices value
        return ({ r with command := some (value, rest), unfilled := places }, [])

/-- Read words up to the last option, then fill places with what is left. Each step takes at least one
word, so that `fuel` need not exceed their number. -/
def readWords (g : Grammar) : Nat → Reading → List Word → Except Stop Reading
  | 0, r, _ => .ok r
  | fuel + 1, r, words =>
    if words.any Word.isOption then
      match words with
      | .option _ (some meant) :: rest => do
        let (r, rest) ← g.readOption r meant rest
        g.readWords fuel r rest
      | .option text none :: rest => g.readWords fuel { r with extras := r.extras ++ [text] } rest
      | words => do
        let (filled, rest) ← g.fillPlaces r words r.unfilled
        if rest.length < words.length then g.readWords fuel filled rest
        else
          let skipped := (words.takeWhile fun w => !w.isOption).map Word.text
          g.readWords fuel { r with extras := r.extras ++ skipped } (words.dropWhile fun w => !w.isOption)
    else do
      let (r, rest) ← g.fillPlaces r words r.unfilled
      return { r with extras := r.extras ++ rest.map Word.text }

/-- Read a command line. All places have to be filled; words that nothing asked for are left over. -/
def read (g : Grammar) (line : List String) : Except Stop Reading := do
  let words ← g.words line
  let r ← g.readWords (words.length + 1) { unfilled := g.places } words
  if r.unfilled.isEmpty then return r
  else
    let names := Text.join ", " (r.unfilled.map Place.name)
    g.misuse s!"the following arguments are required: {names}"

end Grammar

end PluginDescriptor.Command
