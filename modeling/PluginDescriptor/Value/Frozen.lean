import PluginDescriptor.Value.Basic

/-!
# Freezing

Freezing turns every mapping into a read-only one and every list into a tuple, at all depths; keys
and sets stay as they are. Thawing makes plain mappings and lists of read-only mappings and tuples.

Values are followed to any depth; that the program gives up at some hundred of levels is left out, but
for documents, which are refused at that depth when they are read (`Yaml.Read.deepest`).
-/

set_option autoImplicit false

namespace PluginDescriptor

namespace Value

mutual

/-- The read-only copy of a value. -/
def freeze : Value → Value
  | .map entries => .frozen (freezeEntries entries)
  | .frozen entries => .frozen (freezeEntries entries)
  | .list items => .tuple (freezeItems items)
  | .tuple items => .tuple (freezeItems items)
  | v => v

/-- Freeze every item. -/
def freezeItems : List Value → List Value
  | [] => []
  | v :: rest => freeze v :: freezeItems rest

/-- Freeze the value of every entry. -/
def freezeEntries : List (Value × Value) → List (Value × Value)
  | [] => []
  | (k, v) :: rest => (k, freeze v) :: freezeEntries rest

end

mutual

/-- The plain copy of a value: it reaches into mappings and tuples, and leaves lists as they are. -/
def thaw : Value → Value
  | .map entries => .map (thawEntries entries)
  | .frozen entries => .map (thawEntries entries)
  | .tuple items => .list (thawItems items)
  | v => v

/-- Thaw every item. -/
def thawItems : List Value → List Value
  | [] => []
  | v :: rest => thaw v :: thawItems rest

/-- Thaw the value of every entry. -/
def thawEntries : List (Value × Value) → List (Value × Value)
  | [] => []
  | (k, v) :: rest => (k, thaw v) :: thawEntries rest

end

/-- The read-only view of a value; one that counts as false gives the empty mapping. -/
def frozenView (v : Value) : Value := if v.isTruthy then v.freeze else .frozen []

end Value

end PluginDescriptor
