import PluginDescriptor.Proofs.Fields
import PluginDescriptor.Proofs.Freezing
import PluginDescriptor.Value.Collection

/-!
# What a value holds at all depths

A value is made of what it keeps as keys and of what it keeps otherwise; its parts are the value itself
and all parts of these. Lists, sets and open mappings can still be changed, and what can be a key has
no such part. Freezing closes lists and mappings and leaves sets as they are, so that sets are all that
can still be changed in what is frozen (`Value.within_freeze_iff`).
-/

set_option autoImplicit false

namespace PluginDescriptor

namespace Value

/-- What a value keeps as keys: the keys of a mapping, and the items of a set. -/
def keys : Value → List Value
  | .set items => items
  | .map entries | .frozen entries => entries.map (·.1)
  | _ => []

/-- What a value keeps otherwise: the items of a sequence, and what is under the keys of a mapping. -/
def contents : Value → List Value
  | .list items | .tuple items => items
  | .map entries | .frozen entries => entries.map (·.2)
  | _ => []

/-- A value is part of another one, at any depth. -/
inductive Within (part : Value) : Value → Prop where
  | here : Within part part
  | key {v key : Value} (mem : key ∈ v.keys) (within : Within part key) : Within part v
  | content {v content : Value} (mem : content ∈ v.contents) (within : Within part content) :
      Within part v

/-- The value can still be changed: it is a list, a set or an open mapping. -/
def isOpen : Value → Bool
  | .list _ | .set _ | .map _ => true
  | _ => false

/-- At all depths, what is kept as a key can be a key. -/
def IsKeyed (v : Value) : Prop := ∀ part, Within part v → ∀ key ∈ part.keys, key.changeable? = none

/-! ## Along contents -/

theorem sizeOf_lt_of_mem_contents {content v : Value} (h : content ∈ v.contents) :
    sizeOf content < sizeOf v := by
  have hentries {entries : Entries} (hmem : content ∈ entries.map (·.2)) :
      sizeOf content < sizeOf entries := by
    obtain ⟨entry, hentry, rfl⟩ := List.mem_map.mp hmem
    have hrow := List.sizeOf_lt_of_mem hentry
    have hpair : sizeOf entry.2 < sizeOf entry := by
      rw [Prod.mk.sizeOf_spec]
      omega
    omega
  cases v with
  | list items | tuple items =>
    have hitem : sizeOf content < sizeOf items := List.sizeOf_lt_of_mem h
    simp only [list.sizeOf_spec, tuple.sizeOf_spec]
    omega
  | map entries | frozen entries =>
    have hentry := hentries h
    simp only [map.sizeOf_spec, frozen.sizeOf_spec]
    omega
  | _ => cases h

/-- What holds of a value whenever it holds of its contents holds of all values. -/
theorem induction_contents {P : Value → Prop}
    (step : ∀ v : Value, (∀ content ∈ v.contents, P content) → P v) (v : Value) : P v := by
  induction hsize : sizeOf v using Nat.strongRecOn generalizing v with
  | ind size ih =>
    apply step v
    intro content hmem
    have hsmaller := sizeOf_lt_of_mem_contents hmem
    exact ih (sizeOf content) (hsize ▸ hsmaller) content rfl

/-! ## Keys -/

theorem changeable?_item {items : List Value} (h : changeableIn? items = none) :
    ∀ item ∈ items, item.changeable? = none := by
  induction items with
  | nil => exact fun item hitem => (List.not_mem_nil hitem).elim
  | cons v rest ih =>
    rw [changeableIn?, Option.or_eq_none_iff] at h
    exact List.forall_mem_cons.mpr ⟨h.1, ih h.2⟩

/-- What can be a key keeps no keys of its own, and nothing but what can be a key. -/
theorem key_of_key {v : Value} (h : v.changeable? = none) :
    v.keys = [] ∧ ∀ content ∈ v.contents, content.changeable? = none := by
  cases v with
  | tuple items => exact ⟨rfl, changeable?_item h⟩
  | list items | set items | map entries | frozen entries => cases h
  | _ => exact ⟨rfl, fun content hcontent => (List.not_mem_nil hcontent).elim⟩

/-- All parts of what can be a key can be keys. -/
theorem changeable?_of_within {part v : Value} (h : Within part v) (hv : v.changeable? = none) :
    part.changeable? = none := by
  induction h with
  | here => exact hv
  | key hmem _ _ =>
    rw [(key_of_key hv).1] at hmem
    cases hmem
  | content hmem _ ih => exact ih ((key_of_key hv).2 _ hmem)

/-- What can be a key has no part that can be changed. -/
theorem isOpen_of_within_key {part key : Value} (h : Within part key)
    (hkey : key.changeable? = none) : part.isOpen = false := by
  have hpart := changeable?_of_within h hkey
  cases part with
  | list items | set items | map entries => cases hpart
  | _ => rfl

/-! ## Keys at all depths -/

namespace IsKeyed

variable {v : Value}

theorem keys (h : v.IsKeyed) : ∀ key ∈ v.keys, key.changeable? = none := h v .here

theorem contents (h : v.IsKeyed) : ∀ content ∈ v.contents, content.IsKeyed :=
  fun _ hmem part hpart => h part (.content hmem hpart)

/-- What can be a key keeps nothing as a key. -/
theorem of_key (h : v.changeable? = none) : v.IsKeyed := by
  intro part hpart key hkey
  rw [(key_of_key (changeable?_of_within hpart h)).1] at hkey
  cases hkey

/-- It is enough to look at the keys of a value, and into what it keeps otherwise. -/
theorem of_contents (hkeys : ∀ key ∈ v.keys, key.changeable? = none)
    (hcontents : ∀ content ∈ v.contents, content.IsKeyed) : v.IsKeyed := by
  intro part hpart
  cases hpart with
  | here => exact hkeys
  | key hmem hwithin => exact of_key (hkeys _ hmem) part hwithin
  | content hmem hwithin => exact hcontents _ hmem part hwithin

end IsKeyed

theorem isKeyed_map_iff {entries : Entries} :
    (Value.map entries).IsKeyed ↔
      ∀ entry ∈ entries, entry.1.changeable? = none ∧ entry.2.IsKeyed := by
  constructor
  · exact fun h entry hentry =>
      ⟨h.keys entry.1 (List.mem_map_of_mem hentry), h.contents entry.2 (List.mem_map_of_mem hentry)⟩
  · intro h
    refine .of_contents (fun key hkey => ?_) fun content hcontent => ?_
    · obtain ⟨entry, hentry, rfl⟩ := List.mem_map.mp hkey
      exact (h entry hentry).1
    · obtain ⟨entry, hentry, rfl⟩ := List.mem_map.mp hcontent
      exact (h entry hentry).2

/-! ## Keys that are apart -/

/-- No mapping in the value holds a key twice. -/
def KeysApart (v : Value) : Prop := ∀ entries, Within (.map entries) v → Fields.Apart entries

namespace KeysApart

variable {v : Value}

theorem contents (h : v.KeysApart) : ∀ content ∈ v.contents, content.KeysApart :=
  fun _ hmem entries hwithin => h entries (.content hmem hwithin)

/-- There is no mapping in what can be a key. -/
theorem of_key (h : v.changeable? = none) : v.KeysApart := by
  intro entries hwithin
  have hmap := changeable?_of_within hwithin h
  cases hmap

/-- It is enough to look at the value, if it is a mapping, and into what it keeps otherwise. -/
theorem of_contents (hmap : ∀ entries, v = .map entries → Fields.Apart entries)
    (hkeys : ∀ key ∈ v.keys, key.changeable? = none)
    (hcontents : ∀ content ∈ v.contents, content.KeysApart) : v.KeysApart := by
  intro entries hwithin
  cases hwithin with
  | here => exact hmap entries rfl
  | key hmem hwithin => exact of_key (hkeys _ hmem) entries hwithin
  | content hmem hwithin => exact hcontents _ hmem entries hwithin

end KeysApart

/-! ## Frozen and plain values -/

/-- Freezing leaves keys and sets as they are, and freezes all else. -/
theorem keys_freeze (v : Value) : v.freeze.keys = v.keys := by
  cases v with
  | map entries | frozen entries =>
    rw [freeze, freezeEntries_eq_map, keys, keys, List.map_map]
    rfl
  | _ => rfl

theorem contents_freeze (v : Value) : v.freeze.contents = v.contents.map freeze := by
  cases v with
  | list items | tuple items => rw [freeze, contents, contents, freezeItems_eq_map]
  | map entries | frozen entries =>
    rw [freeze, freezeEntries_eq_map, contents, contents, List.map_map, List.map_map]
    rfl
  | _ => rfl

/-- Making a value plain leaves keys and sets as they are, and their order. -/
theorem keys_plain (v : Value) : v.plain.keys = v.keys := by
  cases v with
  | map entries | frozen entries =>
    rw [plain, plainEntries_eq_map, keys, keys, List.map_map]
    rfl
  | _ => rfl

theorem contents_plain (v : Value) : v.plain.contents = v.contents.map plain := by
  cases v with
  | list items | tuple items => rw [plain, contents, contents, plainItems_eq_map]
  | map entries | frozen entries =>
    rw [plain, plainEntries_eq_map, contents, contents, List.map_map, List.map_map]
    rfl
  | _ => rfl

theorem isOpen_freeze_iff (v : Value) : v.freeze.isOpen = true ↔ ∃ items, v = .set items := by
  cases v <;> simp [freeze, isOpen]

/-- In what is frozen, the sets can still be changed, and nothing else can. -/
theorem within_freeze_iff {v : Value} (hv : v.IsKeyed) {part : Value} (hopen : part.isOpen = true) :
    Within part v.freeze ↔ (∃ items, part = .set items) ∧ Within part v := by
  -- what is kept as a key has no open part
  have hkey : ∀ v : Value, v.IsKeyed → ∀ key ∈ v.keys, ¬ Within part key := by
    intro v hv key hmem hwithin
    rw [isOpen_of_within_key hwithin (hv.keys key hmem)] at hopen
    cases hopen
  constructor
  · intro h
    generalize hfrozen : v.freeze = w at h
    induction h generalizing v with
    | here =>
      obtain ⟨items, rfl⟩ := (isOpen_freeze_iff v).mp (hfrozen ▸ hopen)
      exact ⟨⟨items, hfrozen.symm⟩, hfrozen ▸ .here⟩
    | key hmem hwithin _ =>
      rw [← hfrozen, keys_freeze] at hmem
      exact (hkey v hv _ hmem hwithin).elim
    | content hmem _ ih =>
      rw [← hfrozen, contents_freeze] at hmem
      obtain ⟨content, hcontent, rfl⟩ := List.mem_map.mp hmem
      obtain ⟨hset, hwithin⟩ := ih (hv.contents content hcontent) rfl
      exact ⟨hset, .content hcontent hwithin⟩
  · rintro ⟨⟨items, rfl⟩, h⟩
    induction h with
    | here => exact .here
    | key hmem hwithin _ => exact (hkey _ hv _ hmem hwithin).elim
    | content hmem _ ih =>
      refine .content ?_ (ih (hv.contents _ hmem))
      rw [contents_freeze]
      exact List.mem_map_of_mem hmem

end Value

end PluginDescriptor
