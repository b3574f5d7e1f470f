import Mathlib.Data.List.Induction
import PluginDescriptor.Proofs.Value.Mapping
import PluginDescriptor.Settings.Merge

/-!
# What layers of settings hold

Mappings are laid one over the other. A setting is a value that is no mapping, at the end of a path of
keys. The merged mapping holds a setting exactly when one of the layers holds it and no later layer
overrides its path (`Entries.holdsAt_mergeAll`): merging goes key by key, so one layer over another is
settled by induction on the path (`Entries.holdsAt_merge`), and all layers by induction from the last
one.
-/

set_option autoImplicit false

namespace PluginDescriptor

/-! ## Paths -/

/-- What a value holds at the end of a path of keys. -/
def Value.at? (v : Value) : List Value → Option Value
  | [] => some v
  | key :: rest =>
    match v with
    | .map entries => (Fields.get? entries key).bind fun w => w.at? rest
    | _ => none

/-- The value is a mapping. -/
def Value.IsMap (v : Value) : Prop := ∃ entries, v = .map entries

namespace Entries

/-- The entries hold a value at a path. -/
def HoldsAt (entries : Entries) (path : List Value) (v : Value) : Prop :=
  (Value.map entries).at? path = some v

/-- The entries set a path: they put something else than a mapping at the end of it or on the way to
it, or a mapping at the end of it. -/
def Overrides (entries : Entries) (path : List Value) : Prop :=
  (∃ start v, start <+: path ∧ start ≠ [] ∧ entries.HoldsAt start v ∧ ¬ v.IsMap) ∨
    ∃ v, entries.HoldsAt path v ∧ v.IsMap

/-! ## Merging key by key -/

/-- A mapping that is laid over a mapping is merged with it. -/
theorem over_map_map (base entries : Entries) :
    Value.over (some (.map base)) (.map entries) = .map (merge base entries) := by
  rw [Value.over]

/-- Otherwise what is laid over counts. -/
theorem over_eq_self {below : Option Value} {v : Value}
    (h : ∀ base, below = some (.map base) → ¬ v.IsMap) : Value.over below v = v := by
  cases v with
  | map entries =>
    rcases below with _ | w
    · rfl
    · cases w with
      | map base => exact (h base rfl ⟨entries, rfl⟩).elim
      | _ => rfl
  | _ => rfl

mutual

/-- A well-formed value that is laid over another one is well-formed. -/
theorem isProper_over (below : Option Value) (v : Value)
    (hbelow : ∀ base, below = some (.map base) → IsMapping base) (hv : v.IsProper) :
    (Value.over below v).IsProper := by
  cases v with
  | map entries =>
    have hentries := Value.isProper_map_iff.mp hv
    by_cases hmap : ∃ base, below = some (.map base)
    · obtain ⟨base, rfl⟩ := hmap
      rw [over_map_map]
      exact Value.isProper_map_iff.mpr (isMapping_merge_of_entries base entries (hbelow base rfl)
        fun entry hentry => ⟨hentries.keyed entry hentry, hentries.nested entry hentry⟩)
    · rw [over_eq_self fun base hbase => (hmap ⟨base, hbase⟩).elim]
      exact hv
  | _ => exact hv

/-- Well-formed entries that are laid over a mapping leave a mapping. -/
theorem isMapping_merge_of_entries (base : Entries) (layer : List (Value × Value))
    (hbase : IsMapping base)
    (hlayer : ∀ entry ∈ layer, entry.1.changeable? = none ∧ entry.2.IsProper) :
    IsMapping (merge base layer) := by
  cases layer with
  | nil => exact hbase
  | cons entry rest =>
    obtain ⟨key, v⟩ := entry
    obtain ⟨hentry, hrest⟩ := List.forall_mem_cons.mp hlayer
    have hover : (Value.over (Fields.get? base key) v).IsProper :=
      isProper_over _ v (fun _ hinner => Value.isProper_map_iff.mp (hbase.get? hinner)) hentry.2
    rw [merge]
    exact isMapping_merge_of_entries _ rest (hbase.put hentry.1 hover) hrest

end

variable {base layer : Entries}

theorem isMapping_merge (hbase : base.IsMapping) (hlayer : layer.IsMapping) :
    IsMapping (merge base layer) :=
  isMapping_merge_of_entries base layer hbase fun entry hentry =>
    ⟨hlayer.keyed entry hentry, hlayer.nested entry hentry⟩

/-- Under a key is what the layer has there, laid over what was there. -/
theorem get?_merge (hbase : Fields.Keyed base) (hkeyed : Fields.Keyed layer)
    (hapart : Fields.Apart layer) (p : Value) :
    Fields.get? (merge base layer) p =
      match Fields.get? layer p with
      | none => Fields.get? base p
      | some v => some (Value.over (Fields.get? base p) v) := by
  induction layer generalizing base with
  | nil => rfl
  | cons entry rest ih =>
    obtain ⟨key, v⟩ := entry
    obtain ⟨hkey, hrest⟩ := Fields.keyed_cons_iff.mp hkeyed
    obtain ⟨hfirst, hapart⟩ := List.pairwise_cons.mp hapart
    rw [merge, ih (hbase.put hkey _) hrest hapart, Fields.get?_put hbase hkey, Fields.get?_cons]
    by_cases hp : p.same key = true
    · -- no later key of the layer equals this one
      have hlater : Fields.get? rest p = none := by
        refine Fields.get?_eq_none fun entry hentry => eq_false_of_ne_true fun hsame => ?_
        have hboth := Value.same_of_same (hrest entry hentry) hkey hsame hp
        rw [hfirst entry.1 (List.mem_map.mpr ⟨entry, hentry, rfl⟩)] at hboth
        cases hboth
      rw [hlater, if_pos hp, if_pos hp, Fields.get?_congr hbase hkey hp]
    · rw [if_neg hp, if_neg hp]

/-! ## One layer over another -/

theorem holdsAt_cons_iff {entries : Entries} {key v : Value} {rest : List Value} :
    entries.HoldsAt (key :: rest) v ↔
      ∃ w, Fields.get? entries key = some w ∧ w.at? rest = some v := by
  rw [HoldsAt, Value.at?]
  exact Option.bind_eq_some_iff

/-- A path goes no further than to what is no mapping. -/
theorem at?_eq_some_iff_of_not_isMap {w v : Value} (hw : ¬ w.IsMap) {path : List Value} :
    w.at? path = some v ↔ path = [] ∧ w = v := by
  cases path with
  | nil => simp [Value.at?]
  | cons key rest =>
    cases w with
    | map entries => exact (hw ⟨entries, rfl⟩).elim
    | _ => simp [Value.at?]

theorem overrides_nil (entries : Entries) : entries.Overrides [] :=
  .inr ⟨.map entries, rfl, entries, rfl⟩

/-- A path is overridden from its first key on: there is something under the key, and if it is a
mapping, it overrides the rest of the path. -/
theorem overrides_cons_iff {entries : Entries} {key : Value} {rest : List Value} :
    entries.Overrides (key :: rest) ↔ ∃ w, Fields.get? entries key = some w ∧
      ∀ inner, w = .map inner → Overrides inner rest := by
  constructor
  · rintro (⟨start, v, hstart, hne, hholds, hv⟩ | ⟨v, hholds, hv⟩)
    · obtain ⟨k, start, rfl⟩ := List.exists_cons_of_ne_nil hne
      obtain ⟨rfl, htail⟩ := List.cons_prefix_cons.mp hstart
      obtain ⟨w, hw, hat⟩ := holdsAt_cons_iff.mp hholds
      refine ⟨w, hw, ?_⟩
      rintro inner rfl
      by_cases hnil : start = []
      · -- the mapping itself would be at the end of the path
        subst hnil
        exact (hv ⟨inner, (Option.some.inj hat).symm⟩).elim
      · exact .inl ⟨start, v, htail, hnil, hat, hv⟩
    · obtain ⟨w, hw, hat⟩ := holdsAt_cons_iff.mp hholds
      refine ⟨w, hw, ?_⟩
      rintro inner rfl
      exact .inr ⟨v, hat, hv⟩
  · rintro ⟨w, hw, hinner⟩
    by_cases hmap : w.IsMap
    · obtain ⟨inner, rfl⟩ := hmap
      rcases hinner inner rfl with ⟨start, v, hstart, hne, hat, hv⟩ | ⟨v, hat, hv⟩
      · exact .inl ⟨key :: start, v, List.cons_prefix_cons.mpr ⟨rfl, hstart⟩, List.cons_ne_nil _ _,
          holdsAt_cons_iff.mpr ⟨_, hw, hat⟩, hv⟩
      · exact .inr ⟨v, holdsAt_cons_iff.mpr ⟨_, hw, hat⟩, hv⟩
    · exact .inl ⟨[key], w, List.prefix_cons_inj key |>.mpr List.nil_prefix, List.cons_ne_nil _ _,
        holdsAt_cons_iff.mpr ⟨w, hw, rfl⟩, hmap⟩

/-- A layer over a mapping: a setting is that of the layer, or it is that of the mapping and the
layer does not override its path. -/
theorem holdsAt_merge (hbase : base.IsMapping) (hlayer : layer.IsMapping) {path : List Value}
    {v : Value} (hv : ¬ v.IsMap) :
    HoldsAt (merge base layer) path v ↔
      layer.HoldsAt path v ∨ base.HoldsAt path v ∧ ¬ layer.Overrides path := by
  induction path generalizing base layer with
  | nil =>
    have hroot : ∀ entries : Entries, ¬ entries.HoldsAt [] v := by
      intro entries hholds
      exact hv ⟨entries, (Option.some.inj hholds).symm⟩
    simp [hroot]
  | cons key rest ih =>
    rw [holdsAt_cons_iff, holdsAt_cons_iff, holdsAt_cons_iff, overrides_cons_iff,
      get?_merge hbase.keyed hlayer.keyed hlayer.apart]
    cases hw : Fields.get? layer key with
    | none => simp
    | some w =>
      simp only [Option.some.injEq, exists_eq_left']
      by_cases hmap : w.IsMap
      · obtain ⟨inner, rfl⟩ := hmap
        have hinner : (∀ other, Value.map inner = .map other → Overrides other rest) ↔
            Overrides inner rest :=
          ⟨fun h => h inner rfl, fun h _ hother => Value.map.inj hother ▸ h⟩
        rw [hinner]
        by_cases hbelow : ∃ below, Fields.get? base key = some (.map below)
        · obtain ⟨below, hbelow⟩ := hbelow
          have hrest := ih (Value.isProper_map_iff.mp (hbase.get? hbelow))
            (Value.isProper_map_iff.mp (hlayer.get? hw))
          rw [hbelow, over_map_map]
          simpa only [HoldsAt, Option.some.injEq, exists_eq_left'] using hrest
        · rw [over_eq_self fun below h => (hbelow ⟨below, h⟩).elim]
          refine (or_iff_left ?_).symm
          rintro ⟨⟨w, hw, hat⟩, hkept⟩
          have hscalar : ¬ w.IsMap := by
            rintro ⟨below, rfl⟩
            exact hbelow ⟨below, hw⟩
          obtain ⟨rfl, -⟩ := (at?_eq_some_iff_of_not_isMap hscalar).mp hat
          exact hkept (overrides_nil inner)
      · rw [over_eq_self fun _ _ => hmap]
        refine (or_iff_left ?_).symm
        rintro ⟨-, hkept⟩
        exact hkept fun inner h => (hmap ⟨inner, h⟩).elim

/-! ## All layers -/

theorem mergeAll_concat (layers : List Entries) (last : Entries) :
    mergeAll (layers ++ [last]) = merge (mergeAll layers) last := by
  rw [mergeAll, List.foldl_append]
  rfl

theorem isMapping_mergeAll {layers : List Entries} (h : ∀ layer ∈ layers, layer.IsMapping) :
    IsMapping (mergeAll layers) := by
  induction layers using List.reverseRecOn with
  | nil => exact .nil
  | append_singleton layers last ih =>
    obtain ⟨hlayers, hlast⟩ := List.forall_mem_append.mp h
    rw [mergeAll_concat]
    exact isMapping_merge (ih hlayers) (hlast last (List.mem_singleton.mpr rfl))

/-- Merged layers hold a setting exactly when one of them holds it and no later one overrides it. -/
theorem holdsAt_mergeAll {layers : List Entries} (h : ∀ layer ∈ layers, layer.IsMapping)
    {path : List Value} {v : Value} (hv : ¬ v.IsMap) :
    HoldsAt (mergeAll layers) path v ↔ ∃ below layer above, layers = below ++ layer :: above ∧
      layer.HoldsAt path v ∧ ∀ later ∈ above, ¬ later.Overrides path := by
  induction layers using List.reverseRecOn with
  | nil =>
    have hnothing : ¬ HoldsAt (mergeAll []) path v := by
      intro hholds
      cases path with
      | nil => exact hv ⟨_, (Option.some.inj hholds).symm⟩
      | cons key rest =>
        obtain ⟨w, hw, -⟩ := holdsAt_cons_iff.mp hholds
        cases hw
    simp [hnothing]
  | append_singleton layers last ih =>
    obtain ⟨hlayers, hlast⟩ := List.forall_mem_append.mp h
    rw [mergeAll_concat, holdsAt_merge (isMapping_mergeAll hlayers)
      (hlast last (List.mem_singleton.mpr rfl)) hv, ih hlayers]
    constructor
    · rintro (hholds | ⟨⟨below, layer, above, rfl, hholds, hkept⟩, hover⟩)
      · exact ⟨layers, last, [], rfl, hholds, List.forall_mem_nil _⟩
      · refine ⟨below, layer, above ++ [last], by simp, hholds, fun later hlater => ?_⟩
        rcases List.mem_append.mp hlater with hmem | hmem
        · exact hkept later hmem
        · rw [List.mem_singleton.mp hmem]
          exact hover
    · rintro ⟨below, layer, above, hsplit, hholds, hkept⟩
      rcases List.eq_nil_or_concat above with rfl | ⟨above, top, rfl⟩
      · obtain ⟨-, htop⟩ := List.append_inj' hsplit rfl
        cases htop
        exact .inl hholds
      · rw [List.concat_eq_append, ← List.cons_append, ← List.append_assoc] at hsplit
        obtain ⟨rfl, htop⟩ := List.append_inj' hsplit rfl
        cases htop
        rw [List.concat_eq_append] at hkept
        obtain ⟨habove, htop⟩ := List.forall_mem_append.mp hkept
        exact .inr ⟨⟨below, layer, above, rfl, hholds, habove⟩, htop last List.mem_cons_self⟩

end Entries

end PluginDescriptor
