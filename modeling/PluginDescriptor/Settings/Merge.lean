import PluginDescriptor.Value.Basic

/-!
# Merging mappings

A mapping laid over another one. Where both hold mappings under a key, these are merged in turn;
elsewhere what is laid over counts. Keys stay where they first were.
-/

set_option autoImplicit false

namespace PluginDescriptor

mutual

/-- A value laid over what is there. -/
def Value.over (below : Option Value) : Value → Value
  | .map entries =>
    match below with
    | some (.map base) => .map (Entries.merge base entries)
    | _ => .map entries
  | v => v

/-- Entries laid over others. -/
def Entries.merge (base : Entries) : List (Value × Value) → Entries
  | [] => base
  | (key, v) :: rest =>
    Entries.merge (Fields.put base key (Value.over (Fields.get? base key) v)) rest

end

/-- Mappings laid one over the other, the last one on top. -/
def Entries.mergeAll (layers : List Entries) : Entries := layers.foldl Entries.merge []

end PluginDescriptor
