import PluginDescriptor.Proofs.Freezing
import PluginDescriptor.Proofs.Outcome
import PluginDescriptor.Value.Json

/-!
# Which values have a JSON text

JSON has a form for each value but not for each key, and whole numbers that are too long are not
written out. A value has a JSON text, in any style, exactly when it is expressible
(`Value.json_eq_ok_iff`). What is expressible can be written out as plain text as well.
-/

set_option autoImplicit false

namespace PluginDescriptor

namespace Value

/-- A key that JSON has a form for. -/
def isExpressibleKey : Value → Bool
  | .null | .bool _ | .float _ | .str _ => true
  | .int i => (Value.int i).isWritable
  | _ => false

mutual

/-- All keys of mappings, inside sequences and mappings at all depths, are those that JSON has a form
for, and nothing else is a whole number that is too long. -/
def isExpressible : Value → Bool
  | .list items | .tuple items => areExpressible items
  | .map entries => areEntriesExpressible entries
  | v => v.isWritable

/-- All items are expressible. -/
def areExpressible : List Value → Bool
  | [] => true
  | v :: rest => isExpressible v && areExpressible rest

/-- All keys and values are expressible. -/
def areEntriesExpressible : List (Value × Value) → Bool
  | [] => true
  | (k, v) :: rest => k.isExpressibleKey && isExpressible v && areEntriesExpressible rest

end

theorem areExpressible_iff (items : List Value) :
    areExpressible items = true ↔ ∀ v ∈ items, v.isExpressible = true := by
  induction items with
  | nil => simp [areExpressible]
  | cons v rest ih => rw [areExpressible, Bool.and_eq_true, ih, List.forall_mem_cons]

theorem areEntriesExpressible_iff (entries : Entries) :
    areEntriesExpressible entries = true ↔
      ∀ entry ∈ entries, entry.1.isExpressibleKey = true ∧ entry.2.isExpressible = true := by
  induction entries with
  | nil => simp [areEntriesExpressible]
  | cons entry rest ih =>
    obtain ⟨k, v⟩ := entry
    rw [areEntriesExpressible, Bool.and_eq_true, Bool.and_eq_true, ih, List.forall_mem_cons]

@[simp] theorem isExpressible_null : null.isExpressible = true := rfl

@[simp] theorem isExpressible_str (s : String) : (str s).isExpressible = true := rfl

@[simp] theorem isExpressible_ofText? (text? : Option String) :
    (ofText? text?).isExpressible = true := by
  cases text? <;> rfl

@[simp] theorem isExpressible_texts (texts : List String) :
    (list (texts.map str)).isExpressible = true := by
  rw [isExpressible, areExpressible_iff, List.forall_mem_map]
  exact fun _ _ => rfl

theorem isExpressible_record_iff (fields : List (String × Value)) :
    (record fields).isExpressible = true ↔ ∀ field ∈ fields, field.2.isExpressible = true := by
  rw [record, isExpressible, areEntriesExpressible_iff, Entries.ofFields, List.forall_mem_map]
  simp only [isExpressibleKey, true_and]

/-! ## Texts -/

theorem written_eq_ok_iff (v : Value) : (∃ s, v.written = .ok s) ↔ v.isWritable = true := by
  rw [written]
  cases v.isWritable with
  | true => simp
  | false => simp

theorem quoted_written_eq_ok_iff (style : JsonStyle) (v : Value) :
    (∃ s, v.written.map style.quoted = .ok s) ↔ v.isWritable = true := by
  rw [← written_eq_ok_iff]
  constructor
  · rintro ⟨s, hs⟩
    obtain ⟨text, htext, -⟩ := map_eq_ok_iff.mp hs
    exact ⟨text, htext⟩
  · rintro ⟨text, htext⟩
    exact ⟨style.quoted text, map_eq_ok_iff.mpr ⟨text, htext, rfl⟩⟩

theorem keyText_eq_ok_iff (style : JsonStyle) (k : Value) :
    (∃ s, style.keyText k = .ok s) ↔ k.isExpressibleKey = true := by
  cases k with
  | int i => exact written_eq_ok_iff (.int i)
  | null | bool _ | float _ | str _ => exact iff_of_true ⟨_, rfl⟩ rfl
  | _ =>
    refine iff_of_false ?_ Bool.false_ne_true
    rintro ⟨s, hs⟩
    cases hs

/-- A computation that is made of another one's value has a value when that has one. -/
theorem exists_map_iff {α β : Type} (x : Except Fault α) (f : α → β) :
    (∃ b, (x >>= fun a => pure (f a)) = .ok b) ↔ ∃ a, x = .ok a := by
  cases x with
  | ok a => exact iff_of_true ⟨f a, rfl⟩ ⟨a, rfl⟩
  | error fault =>
    apply iff_of_false
    · rintro ⟨b, hb⟩
      cases hb
    · rintro ⟨a, ha⟩
      cases ha

mutual

theorem jsonAt_eq_ok_iff (style : JsonStyle) (depth : Nat) (v : Value) :
    (∃ s, v.jsonAt style depth = .ok s) ↔ v.isExpressible = true := by
  cases v with
  | list items =>
    rw [jsonAt, exists_map_iff, isExpressible, jsonItems_eq_ok_iff style (depth + 1) items]
  | tuple items =>
    rw [jsonAt, exists_map_iff, isExpressible, jsonItems_eq_ok_iff style (depth + 1) items]
  | map entries =>
    rw [jsonAt, exists_map_iff, isExpressible, jsonEntries_eq_ok_iff style (depth + 1) entries]
  | int i => exact written_eq_ok_iff (.int i)
  | null | bool _ | float _ | str _ => exact iff_of_true ⟨_, rfl⟩ rfl
  | bytes b => exact iff_of_true ⟨_, rfl⟩ rfl
  | date d => exact iff_of_true ⟨_, rfl⟩ rfl
  | moment m => exact iff_of_true ⟨_, rfl⟩ rfl
  | set items => exact quoted_written_eq_ok_iff style (.set items)
  | frozen entries => exact quoted_written_eq_ok_iff style (.frozen entries)

theorem jsonItems_eq_ok_iff (style : JsonStyle) (depth : Nat) (items : List Value) :
    (∃ texts, jsonItems style depth items = .ok texts) ↔ areExpressible items = true := by
  cases items with
  | nil => exact iff_of_true ⟨_, rfl⟩ rfl
  | cons v rest =>
    rw [areExpressible, Bool.and_eq_true, ← jsonAt_eq_ok_iff style depth v,
      ← jsonItems_eq_ok_iff style depth rest, jsonItems]
    cases jsonAt style depth v with
    | error fault => simp [bind, Except.bind]
    | ok item =>
      rw [ok_bind_eq, exists_map_iff]
      simp

theorem jsonEntries_eq_ok_iff (style : JsonStyle) (depth : Nat) (entries : Entries) :
    (∃ texts, jsonEntries style depth entries = .ok texts) ↔
      areEntriesExpressible entries = true := by
  cases entries with
  | nil => exact iff_of_true ⟨_, rfl⟩ rfl
  | cons entry rest =>
    obtain ⟨k, v⟩ := entry
    rw [areEntriesExpressible, Bool.and_eq_true, Bool.and_eq_true, ← keyText_eq_ok_iff style k,
      ← jsonAt_eq_ok_iff style depth v, ← jsonEntries_eq_ok_iff style depth rest, jsonEntries]
    cases style.keyText k with
    | error fault => simp [bind, Except.bind]
    | ok key =>
      cases jsonAt style depth v with
      | error fault => simp [bind, Except.bind]
      | ok value =>
        rw [ok_bind_eq, ok_bind_eq, exists_map_iff]
        simp

end

/-- A value has a JSON text when it is expressible. -/
theorem json_eq_ok_iff (style : JsonStyle) (v : Value) :
    (∃ s, v.json style = .ok s) ↔ v.isExpressible = true :=
  jsonAt_eq_ok_iff style 0 v

/-! ## Plain text -/

theorem isWritable_of_isExpressibleKey {k : Value} (h : k.isExpressibleKey = true) :
    k.isWritable = true := by
  cases k with
  | int i => exact h
  | null | bool _ | float _ | str _ => rfl
  | _ => cases h

mutual

/-- What has a JSON text has a plain text. -/
theorem isWritable_of_isExpressible (v : Value) (h : v.isExpressible = true) :
    v.isWritable = true := by
  cases v with
  | list items | tuple items =>
    rw [isExpressible] at h
    rw [isWritable]
    exact areWritable_of_areExpressible items h
  | map entries =>
    rw [isExpressible] at h
    rw [isWritable]
    exact areEntriesWritable_of_areEntriesExpressible entries h
  | _ => exact h

theorem areWritable_of_areExpressible (items : List Value) (h : areExpressible items = true) :
    areWritable items = true := by
  cases items with
  | nil => rfl
  | cons v rest =>
    rw [areExpressible, Bool.and_eq_true] at h
    rw [areWritable, Bool.and_eq_true]
    exact ⟨isWritable_of_isExpressible v h.1, areWritable_of_areExpressible rest h.2⟩

theorem areEntriesWritable_of_areEntriesExpressible (entries : Entries)
    (h : areEntriesExpressible entries = true) : areEntriesWritable entries = true := by
  cases entries with
  | nil => rfl
  | cons entry rest =>
    obtain ⟨k, v⟩ := entry
    rw [areEntriesExpressible, Bool.and_eq_true, Bool.and_eq_true] at h
    rw [areEntriesWritable, Bool.and_eq_true, Bool.and_eq_true]
    obtain ⟨⟨hkey, hvalue⟩, hrest⟩ := h
    exact ⟨⟨isWritable_of_isExpressibleKey hkey, isWritable_of_isExpressible v hvalue⟩,
      areEntriesWritable_of_areEntriesExpressible rest hrest⟩

end

mutual

/-- Thawing leaves the whole numbers as they are. -/
theorem isWritable_thaw (v : Value) : v.thaw.isWritable = v.isWritable := by
  cases v with
  | map entries => rw [thaw, isWritable, isWritable, areEntriesWritable_thawEntries entries]
  | frozen entries => rw [thaw, isWritable, isWritable, areEntriesWritable_thawEntries entries]
  | tuple items => rw [thaw, isWritable, isWritable, areWritable_thawItems items]
  | _ => rfl

theorem areWritable_thawItems (items : List Value) :
    areWritable (thawItems items) = areWritable items := by
  cases items with
  | nil => rfl
  | cons v rest =>
    rw [thawItems, areWritable, areWritable, isWritable_thaw v, areWritable_thawItems rest]

theorem areEntriesWritable_thawEntries (entries : Entries) :
    areEntriesWritable (thawEntries entries) = areEntriesWritable entries := by
  cases entries with
  | nil => rfl
  | cons entry rest =>
    obtain ⟨k, v⟩ := entry
    rw [thawEntries, areEntriesWritable, areEntriesWritable, isWritable_thaw v,
      areEntriesWritable_thawEntries rest]

end

end Value

end PluginDescriptor
