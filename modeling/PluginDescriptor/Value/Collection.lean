import PluginDescriptor.Fault

/-!
# Values as collections and as keys

What a value holds, if it is a collection or a text, and which values can be keys: those that hold
nothing that may still change.
-/

set_option autoImplicit false

namespace PluginDescriptor.Value

/-- The things that a value holds: items, keys, characters or bytes. -/
def elements : Value → Except Fault (List Value)
  | .list items | .tuple items | .set items => .ok items
  | .map entries | .frozen entries => .ok (entries.map (·.1))
  | .str s => .ok (s.toList.map fun c => .str c.toString)
  | .bytes b => .ok (b.map fun x => .int x.toNat)
  | v => .error (.badKind s!"'{v.kindName}' object is not iterable")

mutual

/-- The part of a value that keeps it from being a key. -/
def changeable? : Value → Option Value
  | .list items => some (.list items)
  | .set items => some (.set items)
  | .map entries => some (.map entries)
  | .frozen entries => some (.frozen entries)
  | .tuple items => changeableIn? items
  | _ => none

/-- The first part of items that keeps them from being part of a key. -/
def changeableIn? : List Value → Option Value
  | [] => none
  | v :: rest => (changeable? v).or (changeableIn? rest)

end

/-- A value as a key. -/
def asKey (v : Value) : Except Fault Value :=
  match changeable? v with
  | none => .ok v
  | some part => .error (.badKind s!"unhashable type: '{part.kindName}'")

end PluginDescriptor.Value
