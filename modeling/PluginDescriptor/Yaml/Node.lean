import PluginDescriptor.Yaml.Scalar
import PluginDescriptor.Yaml.Token.Lexer

/-!
# The nodes of a YAML document

Tokens are read into a tree of scalars, sequences and mappings, each with its tag. An alias stands for
the node of its anchor, which comes before it. A tree has an end, and here it has no more than a certain
depth, aliases included; so a node that would hold itself is a fault of its own, which is not that of a
text that is no YAML.
-/

set_option autoImplicit false

namespace PluginDescriptor.Yaml

/-- A node of a document. -/
inductive Node where
  | scalar (tag : Tag) (text : String)
  | sequence (tag : Tag) (items : List Node)
  | mapping (tag : Tag) (entries : List (Node × Node))
  deriving Repr, Inhabited

namespace Node

/-- The tag of a node. -/
def tag : Node → Tag
  | .scalar tag _ => tag
  | .sequence tag _ => tag
  | .mapping tag _ => tag

/-- The empty scalar. -/
def empty : Node := .scalar .null ""

/-- How many collections stand between a merge key that has this value and the entries that it brings
in. -/
def wrapping : Node → Nat
  | .sequence _ _ => 2
  | _ => 1

mutual

/-- How many collections lie inside each other in the value of a node, at most. -/
def depth : Node → Nat
  | .scalar _ _ => 0
  | .sequence _ items => itemsDepth items + 1
  | .mapping _ entries => entriesDepth entries + 1

/-- The greatest depth of these nodes. -/
def itemsDepth : List Node → Nat
  | [] => 0
  | node :: rest => max node.depth (itemsDepth rest)

/-- The greatest depth that these entries bring in. -/
def entriesDepth : List (Node × Node) → Nat
  | [] => 0
  | (key, value) :: rest =>
    let inside :=
      if key.tag = .merge then value.depth - value.wrapping else max key.depth value.depth
    max inside (entriesDepth rest)

end

end Node

/-- The state of reading nodes. -/
structure NodeReader where
  tokens : List Token
  /-- The fault that stands behind the last token. -/
  fault : Option Fault
  /-- What the handles of tags stand for. -/
  handles : List (String × String)
  /-- The anchored nodes; a node that is not complete has none yet. -/
  anchors : List (String × Option Node)
  /-- How many collections are open. -/
  level : Nat

/-- A step of reading nodes. -/
abbrev Read (α : Type) : Type := StateT NodeReader (Except Fault) α

namespace Read

/-- Fail. -/
def fail {α : Type} : Read α := throw .notYaml

/-- The token at hand, nothing at the end. -/
def peek : Read (Option Token) := do
  let s ← get
  match s.tokens, s.fault with
  | [], some fault => throw fault
  | [], none => return none
  | token :: _, _ => return some token

/-- Move over a token. -/
def next : Read Unit := modify fun s => { s with tokens := s.tokens.tail }

/-- Move over the token at hand if it is the given one. -/
def accept (token : Token) : Read Bool := do
  if (← peek) == some token then
    next
    return true
  else
    return false

/-- The token at hand is one of these. -/
def atOneOf (tokens : List Token) : Read Bool := do
  match ← peek with
  | some token => return tokens.contains token
  | none => return false

/-! ## Depth -/

/-- How many collections can lie inside each other. The program's runtime has room for a thousand calls
inside each other, and reading a collection, like following its value, takes two of them; some twenty
are taken by the calls around. So this is an estimate, which hangs on who calls. -/
def deepest : Nat := 490

/-- Read what is inside a collection. -/
def inside {α : Type} (read : Read α) : Read α := do
  if deepest ≤ (← get).level then throw .tooDeep
  modify fun s => { s with level := s.level + 1 }
  let contents ← read
  modify fun s => { s with level := s.level - 1 }
  return contents

/-! ## Anchors and tags -/

/-- The node of an anchor, if its collections have room inside those that are open. A node that is not
complete would hold itself, without end. -/
def anchored (name : String) : Read Node := do
  let s ← get
  match s.anchors.lookup name with
  | none => fail
  | some none => throw .tooDeep
  | some (some node) =>
    if deepest < s.level + node.depth then throw .tooDeep
    return node

/-- Begin a node with an anchor, which no node before it may have. -/
def declare (anchor : Option String) : Read Unit := do
  if let some name := anchor then
    if ((← get).anchors.lookup name).isSome then fail
    modify fun s => { s with anchors := (name, none) :: s.anchors }

/-- Complete the node of an anchor. -/
def complete (anchor : Option String) (node : Node) : Read Unit := do
  if let some name := anchor then
    modify fun s => { s with anchors := (name, some node) :: s.anchors.filter (·.1 != name) }

/-- An anchor at hand, if there is one. -/
def anchor? : Read (Option String) := do
  match ← peek with
  | some (.anchor name) =>
    next
    return some name
  | _ => return none

/-- A tag at hand in full, if there is one. -/
def tag? : Read (Option String) := do
  match ← peek with
  | some (.tag none suffix) =>
    next
    return some suffix
  | some (.tag (some handle) suffix) =>
    next
    match (← get).handles.lookup handle with
    | some lead => return some (lead ++ suffix)
    | none => fail
  | _ => return none

/-- The anchor and the tag before a node, in either order. -/
def properties : Read (Option String × Option String) := do
  match ← anchor? with
  | some name => return (some name, ← tag?)
  | none =>
    let tag ← tag?
    let anchor ← if tag.isSome then anchor? else pure none
    return (anchor, tag)

/-- The tag that leaves the kind open. -/
def openTag : String := "!"

/-- The tag of a collection: the given one, or that of its form. -/
def collectionTag (form : Tag) (tag : Option String) : Tag :=
  match tag with
  | none => form
  | some uri => if uri == openTag then form else Tag.ofUri uri

/-- A scalar; one that is plain, or whose tag leaves the kind open, gets a tag by its form. -/
def scalarNode (tag : Option String) (text : String) (plain : Bool) : Node :=
  match tag with
  | none => .scalar (if plain then plainTag text else .str) text
  | some uri => .scalar (if uri == openTag then plainTag text else Tag.ofUri uri) text

/-! ## Nodes -/

mutual

/-- A node. In a block, block collections may begin; where `indentless` is set, a sequence may begin
with the dash of its first entry. -/
def node (block indentless : Bool) : Nat → Read Node
  | 0 => fail
  | fuel + 1 => do
    if let some (.alias name) ← peek then
      next
      anchored name
    else
      let (anchor, tag) ← properties
      let token ← peek
      declare anchor
      let node ←
        match token with
        | some .blockEntry =>
          if indentless then
            pure (Node.sequence (collectionTag .sequence tag) (← inside (dashItems fuel)))
          else if anchor.isSome || tag.isSome then pure (scalarNode tag "" true)
          else fail
        | some (.scalar text plain) => do
          next
          pure (scalarNode tag text plain)
        | some .flowSequenceStart => do
          next
          pure (Node.sequence (collectionTag .sequence tag) (← inside (flowItems true fuel)))
        | some .flowMappingStart => do
          next
          pure (Node.mapping (collectionTag .mapping tag) (← inside (flowEntries true fuel)))
        | some .blockSequenceStart =>
          if block then do
            next
            pure (Node.sequence (collectionTag .sequence tag) (← inside (blockItems fuel)))
          else if anchor.isSome || tag.isSome then pure (scalarNode tag "" true)
          else fail
        | some .blockMappingStart =>
          if block then do
            next
            pure (Node.mapping (collectionTag .mapping tag) (← inside (blockEntries fuel)))
          else if anchor.isSome || tag.isSome then pure (scalarNode tag "" true)
          else fail
        | _ => if anchor.isSome || tag.isSome then pure (scalarNode tag "" true) else fail
      complete anchor node
      return node

/-- A node, or the empty scalar when one of the tokens that may follow it is at hand. -/
def nodeUnless (ends : List Token) (block indentless : Bool) : Nat → Read Node
  | 0 => fail
  | fuel + 1 => do if ← atOneOf ends then return .empty else node block indentless fuel

/-- The entries of a block sequence, up to its end. -/
def blockItems : Nat → Read (List Node)
  | 0 => fail
  | fuel + 1 => do
    if ← accept .blockEntry then
      let item ← nodeUnless [.blockEntry, .blockEnd] true false fuel
      return item :: (← blockItems fuel)
    else if ← accept .blockEnd then return []
    else fail

/-- The entries of a sequence that is not indented deeper than the key before it. -/
def dashItems : Nat → Read (List Node)
  | 0 => fail
  | fuel + 1 => do
    if ← accept .blockEntry then
      let item ← nodeUnless [.blockEntry, .key, .value, .blockEnd] true false fuel
      return item :: (← dashItems fuel)
    else return []

/-- The entries of a block mapping, up to its end. -/
def blockEntries : Nat → Read (List (Node × Node))
  | 0 => fail
  | fuel + 1 => do
    let ends := [Token.key, .value, .blockEnd]
    if ← accept .key then
      let key ← nodeUnless ends true true fuel
      let value ← if ← accept .value then nodeUnless ends true true fuel else pure .empty
      return (key, value) :: (← blockEntries fuel)
    else if ← accept .blockEnd then return []
    else fail

/-- The entries of a sequence in brackets, up to its end. An entry with a key is a mapping of its
own. -/
def flowItems (first : Bool) : Nat → Read (List Node)
  | 0 => fail
  | fuel + 1 => do
    if ← accept .flowSequenceEnd then return []
    if !first then
      if !(← accept .flowEntry) then fail
    if ← accept .key then
      let entry ← inside (flowPair fuel)
      return .mapping .mapping [entry] :: (← flowItems false fuel)
    else if ← accept .flowSequenceEnd then return []
    else
      let item ← node false false fuel
      return item :: (← flowItems false fuel)

/-- A key that is an entry of a sequence in brackets, and its value. -/
def flowPair : Nat → Read (Node × Node)
  | 0 => fail
  | fuel + 1 => do
    let key ← nodeUnless [.value, .flowEntry, .flowSequenceEnd] false false fuel
    let value ←
      if ← accept .value then nodeUnless [.flowEntry, .flowSequenceEnd] false false fuel
      else pure .empty
    return (key, value)

/-- The entries of a mapping in braces, up to its end. -/
def flowEntries (first : Bool) : Nat → Read (List (Node × Node))
  | 0 => fail
  | fuel + 1 => do
    if ← accept .flowMappingEnd then return []
    if !first then
      if !(← accept .flowEntry) then fail
    if ← accept .key then
      let key ← nodeUnless [.value, .flowEntry, .flowMappingEnd] false false fuel
      let value ←
        if ← accept .value then nodeUnless [.flowEntry, .flowMappingEnd] false false fuel
        else pure .empty
      return (key, value) :: (← flowEntries false fuel)
    else if ← accept .flowMappingEnd then return []
    else
      let key ← node false false fuel
      return (key, .empty) :: (← flowEntries false fuel)

end

/-! ## Documents -/

/-- The handles of tags that need no directive. -/
def standardHandles : List (String × String) := [("!", "!"), ("!!", Tag.standardLead)]

/-- Directives up to the start of their document; `versioned` tells whether one has named a
version. -/
def directives (versioned : Bool) : Nat → Read Unit
  | 0 => return ()
  | fuel + 1 => do
    match ← peek with
    | some (.version major _) =>
      next
      if versioned || major ≠ 1 then fail
      directives true fuel
    | some (.tagHandle handle lead) =>
      next
      if ((← get).handles.lookup handle).isSome then fail
      modify fun s => { s with handles := (handle, lead) :: s.handles }
      directives versioned fuel
    | some .reserved =>
      next
      directives versioned fuel
    | _ => return ()

/-- Move over marks that end documents. -/
def skipEnds : Nat → Read Unit
  | 0 => return ()
  | fuel + 1 => do if ← accept .documentEnd then skipEnds fuel

/-- A token stands at the start of a document, before its node. -/
def isDocumentMark : Token → Bool
  | .version _ _ => true
  | .tagHandle _ _ => true
  | .reserved => true
  | .documentStart => true
  | .documentEnd => true
  | _ => false

/-- The only document of a text; nothing when there is none. -/
def document (fuel : Nat) : Read (Option Node) := do
  match ← peek with
  | none => return none
  | some token =>
    let root ←
      if isDocumentMark token && token != .documentEnd then do
        directives false fuel
        if !(← accept .documentStart) then fail
        modify fun s => { s with handles := s.handles ++ standardHandles }
        match ← peek with
        | none => pure .empty
        | some token => if isDocumentMark token then pure .empty else node true false fuel
      else do
        modify fun s => { s with handles := standardHandles }
        node true false fuel
    skipEnds fuel
    if (← peek).isSome then fail
    return some root

end Read

/-- The root node of the only document of a text; nothing when the text has no document. -/
def Node.parse? (text : String) : Except Fault (Option Node) := do
  let cut := Tokens.scan text
  let start : NodeReader := {
    tokens := cut.tokens, fault := cut.fault, handles := [], anchors := [], level := 0 }
  return (← (Read.document (5 * cut.tokens.length + 8)).run start).1

end PluginDescriptor.Yaml
