import PluginDescriptor.Proofs.Value.Parts

/-!
# There and back

A mapping is handed out frozen, and thawed where a plain copy is asked for. On the way a tuple becomes
a list, and nothing else changes: what is thawed is the plain form of the mapping, and the mapping
itself when there is no tuple to be seen in it. Freezing once more adds nothing, whether the frozen
mapping was thawed before or not, and no list or open mapping is left at any depth
(`Value.frozenView_thaw`).
-/

set_option autoImplicit false

namespace PluginDescriptor

namespace Value

/-! ## All through a value -/

/-- A value and its contents at all depths have a property; keys and items of sets need not. -/
inductive Throughout (P : Value → Prop) : Value → Prop where
  | intro {v : Value} (here : P v) (contents : ∀ content ∈ v.contents, Throughout P content) :
      Throughout P v

/-- When the contents of a copy are copies themselves, what every copy is holds all through it. -/
theorem throughout_of_contents {P : Value → Prop} {copy : Value → Value}
    (hhere : ∀ v, P (copy v)) (hcontents : ∀ v, (copy v).contents = v.contents.map copy) (v : Value) :
    Throughout P (copy v) := by
  apply induction_contents (P := fun v => Throughout P (copy v))
  intro v ih
  refine .intro (hhere v) fun content hcontent => ?_
  rw [hcontents] at hcontent
  obtain ⟨inner, hinner, rfl⟩ := List.mem_map.mp hcontent
  exact ih inner hinner

/-- The value is neither a list nor an open mapping. -/
structure IsFrozenForm (v : Value) : Prop where
  notList : ∀ items, v ≠ .list items
  notMap : ∀ entries, v ≠ .map entries

/-- The value is neither a tuple nor a read-only mapping. -/
structure IsPlainForm (v : Value) : Prop where
  notTuple : ∀ items, v ≠ .tuple items
  notFrozen : ∀ entries, v ≠ .frozen entries

/-! ## Copies that change nothing -/

theorem map_eq_self {copy : Value → Value} {items : List Value} (h : ∀ v ∈ items, copy v = v) :
    items.map copy = items := by
  rw [List.map_congr_left h, List.map_id']

theorem mapEntries_eq_self {copy : Value → Value} {entries : Entries}
    (h : ∀ v ∈ entries.map (·.2), copy v = v) :
    (entries.map fun entry => (entry.1, copy entry.2)) = entries := by
  have hentry : ∀ entry ∈ entries, (entry.1, copy entry.2) = entry := fun entry hmem =>
    congrArg (Prod.mk entry.1) (h entry.2 (List.mem_map_of_mem hmem))
  rw [List.map_congr_left hentry, List.map_id']

/-- Where there is no list and no open mapping, there is nothing to freeze. -/
theorem freeze_eq_self {v : Value} (h : Throughout IsFrozenForm v) : v.freeze = v := by
  induction h with
  | @intro v hform _ ih =>
    cases v with
    | list items => exact (hform.notList items rfl).elim
    | map entries => exact (hform.notMap entries rfl).elim
    | tuple items =>
      have hitems : items.map freeze = items := map_eq_self ih
      rw [freeze, freezeItems_eq_map, hitems]
    | frozen entries => rw [freeze, freezeEntries_eq_map, mapEntries_eq_self ih]
    | _ => rfl

/-- Where there is no tuple and no read-only mapping, the value is plain. -/
theorem plain_eq_self {v : Value} (h : Throughout IsPlainForm v) : v.plain = v := by
  induction h with
  | @intro v hform _ ih =>
    cases v with
    | tuple items => exact (hform.notTuple items rfl).elim
    | frozen entries => exact (hform.notFrozen entries rfl).elim
    | list items =>
      have hitems : items.map plain = items := map_eq_self ih
      rw [plain, plainItems_eq_map, hitems]
    | map entries => rw [plain, plainEntries_eq_map, mapEntries_eq_self ih]
    | _ => rfl

/-! ## Frozen and plain values -/

theorem isFrozenForm_freeze (v : Value) : v.freeze.IsFrozenForm := by
  constructor
  · intro items h
    cases v <;> cases h
  · intro entries h
    cases v <;> cases h

theorem isPlainForm_plain (v : Value) : v.plain.IsPlainForm := by
  constructor
  · intro items h
    cases v <;> cases h
  · intro entries h
    cases v <;> cases h

/-- Freezing what is frozen changes nothing. -/
theorem freeze_freeze (v : Value) : v.freeze.freeze = v.freeze :=
  freeze_eq_self (throughout_of_contents isFrozenForm_freeze contents_freeze v)

/-- At no depth of a frozen value is there a list or an open mapping. -/
theorem isFrozenForm_of_within_freeze {v : Value} (hv : v.IsKeyed) {part : Value}
    (h : Within part v.freeze) : part.IsFrozenForm := by
  constructor
  · rintro items rfl
    obtain ⟨⟨others, hset⟩, -⟩ := (within_freeze_iff hv rfl).mp h
    cases hset
  · rintro entries rfl
    obtain ⟨⟨others, hset⟩, -⟩ := (within_freeze_iff hv rfl).mp h
    cases hset

/-! ## Mappings -/

/-- The read-only view of a mapping is the mapping frozen, also when it is empty. -/
theorem frozenView_eq {m : Value} {entries : Entries} (h : m.entries? = some entries) :
    m.frozenView = m.freeze := by
  unfold frozenView
  split
  · rfl
  · rename_i hfalse
    cases m with
    | map others | frozen others =>
      cases others with
      | nil => rfl
      | cons entry rest => exact (hfalse rfl).elim
    | _ => cases h

/-- Freezing and thawing a mapping, whatever is nested in it. Thawing its frozen view gives its plain
form, which has the same keys in the same order, no tuple outside of keys and sets at any depth, and
is the mapping itself if that has none. Freezing what was thawed, or what is frozen already, gives the
frozen view again. And as long as keys and items of sets can be keys, there is no list and no open
mapping in it at any depth. -/
theorem frozenView_thaw {m : Value} {entries : Entries} (hm : m.entries? = some entries) :
    (m.frozenView.thaw = m.plain ∧ m.plain.keys = m.keys ∧ Throughout IsPlainForm m.plain ∧
        (Throughout IsPlainForm m → m.plain = m)) ∧
      m.frozenView.thaw.frozenView = m.frozenView ∧
      m.frozenView.frozenView = m.frozenView ∧
      (m.IsKeyed → ∀ part, Within part m.frozenView → part.IsFrozenForm) := by
  have hview := frozenView_eq hm
  have hfrozen : m.freeze.frozenView = m.freeze.freeze := by
    cases m with
    | map others | frozen others => exact frozenView_eq (rfl : _ = some (freezeEntries others))
    | _ => cases hm
  have hplain : m.plain.frozenView = m.plain.freeze := by
    cases m with
    | map others | frozen others => exact frozenView_eq (rfl : _ = some (plainEntries others))
    | _ => cases hm
  rw [hview, hfrozen, freeze_freeze, thaw_freeze, hplain, freeze_plain]
  have hthroughout := throughout_of_contents isPlainForm_plain contents_plain m
  refine ⟨⟨rfl, keys_plain m, hthroughout, plain_eq_self⟩, rfl, rfl, ?_⟩
  intro hkeyed part hpart
  exact isFrozenForm_of_within_freeze hkeyed hpart

/-- A mapping with a tuple under a key, one that is a key, one in a set, and one in a list. -/
def tuplesApart : Value := .map [
  (.str "steps", .tuple [.int 1, .int 5]),
  (.tuple [.int 0, .int 1], .set [.tuple [.int 2]]),
  (.str "ui", .map [(.str "sizes", .list [.tuple [.int 3, .int 4]])])]

theorem frozenView_thaw_tuplesApart :
    tuplesApart.frozenView.thaw = .map [
        (.str "steps", .list [.int 1, .int 5]),
        (.tuple [.int 0, .int 1], .set [.tuple [.int 2]]),
        (.str "ui", .map [(.str "sizes", .list [.list [.int 3, .int 4]])])] ∧
      tuplesApart.frozenView.thaw.frozenView = tuplesApart.frozenView ∧
      tuplesApart.IsKeyed ∧ ∀ part, Within part tuplesApart.frozenView → part.IsFrozenForm := by
  have hset : (Value.set [.tuple [.int 2]]).IsKeyed :=
    .of_contents (List.forall_mem_singleton.mpr rfl) (List.forall_mem_nil _)
  have hsizes : (Value.list [.tuple [.int 3, .int 4]]).IsKeyed :=
    .of_contents (List.forall_mem_nil _) (List.forall_mem_singleton.mpr (.of_key rfl))
  have hui : (Value.map [(.str "sizes", .list [.tuple [.int 3, .int 4]])]).IsKeyed :=
    isKeyed_map_iff.mpr (List.forall_mem_singleton.mpr ⟨rfl, hsizes⟩)
  have hkeyed : tuplesApart.IsKeyed := by
    rw [tuplesApart, isKeyed_map_iff, List.forall_mem_cons, List.forall_mem_cons,
      List.forall_mem_singleton]
    exact ⟨⟨rfl, .of_key rfl⟩, ⟨rfl, hset⟩, rfl, hui⟩
  obtain ⟨⟨hthaw, -⟩, hback, -, hform⟩ := frozenView_thaw (m := tuplesApart) rfl
  exact ⟨hthaw, hback, hkeyed, hform hkeyed⟩

end Value

end PluginDescriptor
