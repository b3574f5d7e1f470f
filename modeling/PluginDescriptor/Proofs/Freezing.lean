import PluginDescriptor.Value.Frozen

/-!
# Freezing and thawing

Thawing does not undo freezing: a list and a tuple are frozen alike. What is thawed from a frozen
value is the value with its tuples read as lists and its read-only mappings as open ones
(`Value.thaw_freeze`), and freezing forgets no more than that (`Value.freeze_plain`). So what is
frozen stays as it is when it is thawed and frozen again.
-/

set_option autoImplicit false

namespace PluginDescriptor

namespace Value

/-! ## Plain values -/

mutual

/-- The value with lists for tuples and open mappings for read-only ones, at all depths; keys and
sets stay as they are. -/
def plain : Value → Value
  | .map entries => .map (plainEntries entries)
  | .frozen entries => .map (plainEntries entries)
  | .list items => .list (plainItems items)
  | .tuple items => .list (plainItems items)
  | v => v

/-- Every item plain. -/
def plainItems : List Value → List Value
  | [] => []
  | v :: rest => plain v :: plainItems rest

/-- The value of every entry plain. -/
def plainEntries : List (Value × Value) → List (Value × Value)
  | [] => []
  | (k, v) :: rest => (k, plain v) :: plainEntries rest

end

/-! ## One after the other -/

mutual

/-- Thawing a frozen value gives the plain value. -/
theorem thaw_freeze (v : Value) : v.freeze.thaw = v.plain := by
  cases v with
  | map entries => rw [freeze, thaw, plain, thawEntries_freezeEntries entries]
  | frozen entries => rw [freeze, thaw, plain, thawEntries_freezeEntries entries]
  | list items => rw [freeze, thaw, plain, thawItems_freezeItems items]
  | tuple items => rw [freeze, thaw, plain, thawItems_freezeItems items]
  | _ => rfl

theorem thawItems_freezeItems (items : List Value) :
    thawItems (freezeItems items) = plainItems items := by
  cases items with
  | nil => rfl
  | cons v rest =>
    rw [freezeItems, thawItems, plainItems, thaw_freeze v, thawItems_freezeItems rest]

theorem thawEntries_freezeEntries (entries : Entries) :
    thawEntries (freezeEntries entries) = plainEntries entries := by
  cases entries with
  | nil => rfl
  | cons entry rest =>
    obtain ⟨k, v⟩ := entry
    rw [freezeEntries, thawEntries, plainEntries, thaw_freeze v, thawEntries_freezeEntries rest]

end

mutual

/-- A value and its plain form are frozen alike. -/
theorem freeze_plain (v : Value) : v.plain.freeze = v.freeze := by
  cases v with
  | map entries => rw [plain, freeze, freeze, freezeEntries_plainEntries entries]
  | frozen entries => rw [plain, freeze, freeze, freezeEntries_plainEntries entries]
  | list items => rw [plain, freeze, freeze, freezeItems_plainItems items]
  | tuple items => rw [plain, freeze, freeze, freezeItems_plainItems items]
  | _ => rfl

theorem freezeItems_plainItems (items : List Value) :
    freezeItems (plainItems items) = freezeItems items := by
  cases items with
  | nil => rfl
  | cons v rest =>
    rw [plainItems, freezeItems, freezeItems, freeze_plain v, freezeItems_plainItems rest]

theorem freezeEntries_plainEntries (entries : Entries) :
    freezeEntries (plainEntries entries) = freezeEntries entries := by
  cases entries with
  | nil => rfl
  | cons entry rest =>
    obtain ⟨k, v⟩ := entry
    rw [plainEntries, freezeEntries, freezeEntries, freeze_plain v, freezeEntries_plainEntries rest]

end

/-- What is frozen is the same when it is thawed and frozen again. -/
theorem freezeEntries_thawEntries_freezeEntries (entries : Entries) :
    freezeEntries (thawEntries (freezeEntries entries)) = freezeEntries entries := by
  rw [thawEntries_freezeEntries, freezeEntries_plainEntries]

/-! ## Items and entries -/

theorem freezeItems_eq_map (items : List Value) : freezeItems items = items.map freeze := by
  induction items with
  | nil => rfl
  | cons v rest ih => rw [freezeItems, ih, List.map_cons]

theorem freezeEntries_eq_map (entries : Entries) :
    freezeEntries entries = entries.map fun entry => (entry.1, entry.2.freeze) := by
  induction entries with
  | nil => rfl
  | cons entry rest ih => rw [freezeEntries, ih, List.map_cons]

theorem plainItems_eq_map (items : List Value) : plainItems items = items.map plain := by
  induction items with
  | nil => rfl
  | cons v rest ih => rw [plainItems, ih, List.map_cons]

/-! ## Looking up -/

theorem plainEntries_eq_map (entries : Entries) :
    plainEntries entries = entries.map fun entry => (entry.1, entry.2.plain) := by
  induction entries with
  | nil => rfl
  | cons entry rest ih => rw [plainEntries, ih, List.map_cons]

theorem find?_plainEntries (entries : Entries) (key : String) :
    Fields.find? (plainEntries entries) key = (entries.find? key).map plain := by
  induction entries with
  | nil => rfl
  | cons entry rest ih =>
    obtain ⟨k, v⟩ := entry
    rw [plainEntries, Fields.find?_cons, Fields.find?_cons, ih]
    split <;> rfl

theorem find?_thawEntries (entries : Entries) (key : String) :
    Fields.find? (thawEntries entries) key = (entries.find? key).map thaw := by
  induction entries with
  | nil => rfl
  | cons entry rest ih =>
    obtain ⟨k, v⟩ := entry
    rw [thawEntries, Fields.find?_cons, Fields.find?_cons, ih]
    split <;> rfl

theorem find?_freezeEntries (entries : Entries) (key : String) :
    Fields.find? (freezeEntries entries) key = (entries.find? key).map freeze := by
  induction entries with
  | nil => rfl
  | cons entry rest ih =>
    obtain ⟨k, v⟩ := entry
    rw [freezeEntries, Fields.find?_cons, Fields.find?_cons, ih]
    split <;> rfl

end Value

end PluginDescriptor
