import PluginDescriptor.Yaml.Node

/-!
# The value of a YAML document

A node becomes a value as its tag says. Faults are looked for level by level, from the root down: a
collection is read after the nodes around it, so of two faults the one nearer to the root counts, and
of two on one level the first.
-/

set_option autoImplicit false

namespace PluginDescriptor.Yaml

namespace Node

/-! ## Merging

A merge key brings in the entries of another mapping, or of several, in front of the mapping's own.
Of several, the last one comes first, so that an earlier one overrides it. -/

/-- The entries of a mapping that are no merge keys. A value key stands for its text. -/
def ownEntries (entries : List (Node × Node)) : List (Node × Node) :=
  (entries.filter (·.1.tag != .merge)).map fun (key, value) =>
    match key with
    | .scalar .value text => (.scalar .str text, value)
    | key => (key, value)

mutual

/-- The entries that the merge keys among these bring in. -/
def broughtEntries : List (Node × Node) → Except Fault (List (Node × Node))
  | [] => .ok []
  | (key, value) :: rest => do
    let part ← if key.tag = .merge then sourceEntries value else pure []
    return part ++ (← broughtEntries rest)

/-- The entries of what a merge key names. -/
def sourceEntries : Node → Except Fault (List (Node × Node))
  | .mapping _ entries => do return (← broughtEntries entries) ++ ownEntries entries
  | .sequence _ items => do return (← mappingsEntries items).reverse.flatten
  | .scalar _ _ => .error .notYaml

/-- The entries of each of several mappings. -/
def mappingsEntries : List Node → Except Fault (List (List (Node × Node)))
  | [] => .ok []
  | .mapping _ entries :: rest => do
    let part := (← broughtEntries entries) ++ ownEntries entries
    return part :: (← mappingsEntries rest)
  | _ :: _ => .error .notYaml

end

/-- The entries of a mapping with those that its merge keys bring in. -/
def mergedEntries (entries : List (Node × Node)) : Except Fault (List (Node × Node)) := do
  return (← broughtEntries entries) ++ ownEntries entries

/-! ## Scalars -/

mutual

/-- The text of a scalar. A mapping stands for the text under its value key. -/
def text : Node → Except Fault String
  | .scalar _ text => .ok text
  | .sequence _ _ => .error .notYaml
  | .mapping _ entries => textUnder entries

/-- The text under the first value key. -/
def textUnder : List (Node × Node) → Except Fault String
  | [] => .error .notYaml
  | (key, value) :: rest => if key.tag = .value then value.text else textUnder rest

end

/-- The tag names a kind of collection. -/
def isCollection (tag : Tag) : Bool :=
  match tag with
  | .sequence | .mapping | .set | .ordered | .pairs => true
  | _ => false

/-- The value of a node whose tag names no kind of collection. -/
def plainValue (node : Node) : Except Fault Value := do
  match node.tag, node with
  | .merge, _ => .error .notYaml
  | .value, _ => .error .notYaml
  | .other, _ => .error .notYaml
  | .moment, .mapping _ _ => do
    let _ ← node.text
    throw (.badKind "expected string or bytes-like object")
  | tag, _ => do scalarValue tag (← node.text)

/-! ## Faults -/

/-- Look at a node: a collection is left for later, anything else is read at once. -/
def look (node : Node) : Except Fault (List Node) :=
  if isCollection node.tag then .ok [node] else node.plainValue.map fun _ => []

/-- Look at a key and its value. A collection is no key. -/
def lookEntry (entry : Node × Node) : Except Fault (List Node) := do
  if !(← entry.1.look).isEmpty then throw .notYaml
  entry.2.look

/-- Look at the only entry of a mapping. -/
def lookPair : Node → Except Fault (List Node)
  | .mapping _ [(key, value)] => do return (← key.look) ++ (← value.look)
  | _ => .error .notYaml

/-- Look into a collection. -/
def lookInto (node : Node) : Except Fault (List Node) := do
  match node.tag, node with
  | .sequence, .sequence _ items => return (← items.mapM look).flatten
  | .mapping, .mapping _ entries => return (← (← mergedEntries entries).mapM lookEntry).flatten
  | .set, .mapping _ entries => return (← (← mergedEntries entries).mapM lookEntry).flatten
  | .ordered, .sequence _ items => return (← items.mapM lookPair).flatten
  | .pairs, .sequence _ items => return (← items.mapM lookPair).flatten
  | _, _ => throw .notYaml

/-- Look into collections, level by level. -/
def lookThrough : Nat → List Node → Except Fault Unit
  | 0, _ => .ok ()
  | _ + 1, [] => .ok ()
  | fuel + 1, pending => do lookThrough fuel (← pending.mapM lookInto).flatten

mutual

/-- How many levels a node has. -/
def height : Node → Nat
  | .scalar _ _ => 1
  | .sequence _ items => itemsHeight items + 1
  | .mapping _ entries => entriesHeight entries + 1

/-- The greatest height of these nodes. -/
def itemsHeight : List Node → Nat
  | [] => 0
  | node :: rest => max node.height (itemsHeight rest)

/-- The greatest height of these keys and values. -/
def entriesHeight : List (Node × Node) → Nat
  | [] => 0
  | (key, value) :: rest => max (max key.height value.height) (entriesHeight rest)

end

/-! ## Values -/

/-- The value of a node in which no fault was found, to a depth of `fuel` levels. -/
def build : Nat → Node → Value
  | 0, _ => .null
  | fuel + 1, node =>
    let entries (es : List (Node × Node)) : Entries :=
      Entries.ofList (((mergedEntries es).toOption.getD []).map fun (k, v) => (k.build fuel, v.build fuel))
    let pair : Node → Value
      | .mapping _ [(key, value)] => .tuple [key.build fuel, value.build fuel]
      | _ => .null
    match node.tag, node with
    | .sequence, .sequence _ items => .list (items.map (build fuel))
    | .mapping, .mapping _ es => .map (entries es)
    | .set, .mapping _ es => .set ((entries es).map (·.1))
    | .ordered, .sequence _ items => .list (items.map pair)
    | .pairs, .sequence _ items => .list (items.map pair)
    | _, _ => node.plainValue.toOption.getD .null

/-- The value of a node. -/
def toValue (node : Node) : Except Fault Value := do
  lookThrough node.height (← node.look)
  return node.build node.height

end Node

end PluginDescriptor.Yaml

namespace PluginDescriptor

/-- The value of the only document of a text; nothing when there is none. -/
def Value.ofYaml (text : String) : Except Fault Value := do
  match ← Yaml.Node.parse? text with
  | none => return .null
  | some root => root.toValue

end PluginDescriptor
