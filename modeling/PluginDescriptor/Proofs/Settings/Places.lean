import PluginDescriptor.Proofs.Settings.Sources

/-!
# Where the variables of the environment go

Putting a value at the end of a path changes what is found at the paths that it overlaps with, those
that begin with it and those that it begins with, and at no others (`Environment.place_of_isOpenIn`).
So what is found at a path, once all variables have been put, was settled by the last of them whose
path overlaps with it (`Environment.foldl_settled_of_last`). No variable is at fault as long as none
of those before it has been put at one of its gates (`Environment.read_of_isOpen`).
-/

set_option autoImplicit false

namespace PluginDescriptor

/-! ## What is found at paths -/

/-- What is found at a path: a mapping, or something else. -/
inductive Found where
  | mapping
  | leaf (v : Value)

/-- What a value is, found at the end of a path. -/
def Value.found : Value → Found
  | .map _ => .mapping
  | v => .leaf v

namespace Value

theorem found_of_not_isMap {v : Value} (h : ¬ v.IsMap) : v.found = .leaf v := by
  cases v with
  | map entries => exact (h ⟨entries, rfl⟩).elim
  | _ => rfl

theorem found_eq_leaf_iff {v w : Value} : v.found = .leaf w ↔ v = w ∧ ¬ v.IsMap := by
  by_cases h : v.IsMap
  · obtain ⟨entries, rfl⟩ := h
    simp [found, IsMap]
  · rw [found_of_not_isMap h, Found.leaf.injEq]
    simp [h]

/-- What is found in a value at the end of a path of texts. -/
def foundAt? (v : Value) (path : List String) : Option Found := (v.at? (path.map .str)).map found

@[simp] theorem foundAt?_nil (v : Value) : v.foundAt? [] = some v.found := rfl

theorem foundAt?_map_cons (entries : Entries) (key : String) (rest : List String) :
    (Value.map entries).foundAt? (key :: rest) =
      (Fields.find? entries key).bind fun v => v.foundAt? rest := by
  rw [foundAt?, List.map_cons, at?, Option.map_bind]
  rfl

/-- Below what is no mapping nothing is found. -/
theorem foundAt?_of_not_isMap {v : Value} (h : ¬ v.IsMap) (path : List String) :
    v.foundAt? path = if path = [] then some (.leaf v) else none := by
  cases path with
  | nil => rw [foundAt?_nil, found_of_not_isMap h, if_pos rfl]
  | cons key rest =>
    rw [if_neg (List.cons_ne_nil key rest)]
    cases v with
    | map entries => exact (h ⟨entries, rfl⟩).elim
    | _ => rfl

end Value

/-- What is found in entries at the end of a path of texts. -/
def Entries.foundAt? (entries : Entries) (path : List String) : Option Found :=
  (Value.map entries).foundAt? path

namespace Entries

theorem foundAt?_nil (entries : Entries) : entries.foundAt? [] = some .mapping := rfl

theorem foundAt?_cons (entries : Entries) (key : String) (rest : List String) :
    entries.foundAt? (key :: rest) = (Fields.find? entries key).bind fun v => v.foundAt? rest :=
  Value.foundAt?_map_cons entries key rest

theorem foundAt?_put_cons (entries : Entries) (name key : String) (v : Value) (rest : List String) :
    Entries.foundAt? (Fields.put entries (.str name) v) (key :: rest) =
      if key = name then v.foundAt? rest else entries.foundAt? (key :: rest) := by
  rw [foundAt?_cons, foundAt?_cons, Fields.find?_put]
  split <;> rfl

end Entries

/-! ## Putting a value at the end of a path -/

/-- What is found at a path `q`, where `before` was found, after a value has been put at the end of
`path`. -/
def overwritten (path : List String) (v : Value) (q : List String) (before : Option Found) :
    Option Found :=
  if path <+: q then if path = q then some (.leaf v) else none
  else if q <+: path then some .mapping
  else before

section Overwritten

variable {path q : List String} {v : Value} {before : Option Found} {key k : String}

theorem overwritten_of_ne_nil (h : path ≠ []) : overwritten path v [] before = some .mapping := by
  unfold overwritten
  rw [if_neg fun hbegins => h (List.prefix_nil.mp hbegins), if_pos List.nil_prefix]

theorem overwritten_cons_self :
    overwritten (key :: path) v (key :: q) before = overwritten path v q before := by
  unfold overwritten
  simp only [List.prefix_cons_inj, List.cons.injEq, true_and]

theorem overwritten_cons_of_ne (h : k ≠ key) :
    overwritten (key :: path) v (k :: q) before = before := by
  unfold overwritten
  rw [if_neg fun hbegins => h (List.cons_prefix_cons.mp hbegins).1.symm,
    if_neg fun hbegins => h (List.cons_prefix_cons.mp hbegins).1]

/-- Paths overlap when one of them begins with the other. -/
def Overlap (p q : List String) : Prop := p <+: q ∨ q <+: p

instance (p q : List String) : Decidable (Overlap p q) := inferInstanceAs (Decidable (_ ∨ _))

theorem Overlap.symm {p q : List String} (h : Overlap p q) : Overlap q p := Or.symm h

theorem overwritten_of_not_overlap (h : ¬ Overlap path q) :
    overwritten path v q before = before := by
  unfold Overlap at h
  rw [not_or] at h
  rw [overwritten, if_neg h.1, if_neg h.2]

/-- Where paths overlap, it does not matter what was found before. -/
theorem overwritten_of_overlap (h : Overlap path q) :
    overwritten path v q before = overwritten path v q none := by
  unfold overwritten
  split
  · rfl
  · rename_i hbegins
    rw [if_pos (h.resolve_left hbegins), if_pos (h.resolve_left hbegins)]

/-- Something else than a mapping is found at the end of the path only. -/
theorem eq_of_overwritten_eq_leaf {w : Value} (h : overwritten path v q none = some (.leaf w)) :
    path = q := by
  unfold overwritten at h
  split at h
  · split at h
    · assumption
    · cases h
  · split at h
    · cases h
    · cases h

/-- Two paths that overlap with a third one but not with each other both go on from it. -/
theorem overwritten_of_apart {other : List String} (hpath : Overlap path q) (hother : Overlap other q)
    (h : ¬ Overlap path other) : overwritten path v q before = some .mapping := by
  have hnot : ¬ path <+: q := by
    intro hbegins
    apply h
    rcases hother with hother | hother
    · exact List.prefix_or_prefix_of_prefix hbegins hother
    · exact .inl (hbegins.trans hother)
  rw [overwritten, if_neg hnot, if_pos (hpath.resolve_left hnot)]

end Overwritten

/-- The changed entries differ from the others by a value that was put at the end of a path. -/
def Places (path : List String) (v : Value) (entries changed : Entries) : Prop :=
  ∀ q, changed.foundAt? q = overwritten path v q (entries.foundAt? q)

namespace Environment

variable {entries inner changed : Entries} {path : List String} {v : Value}

/-- A value that is put under a key. -/
theorem places_put (entries : Entries) (name : String) (hv : ¬ v.IsMap) :
    Places [name] v entries (Fields.put entries (.str name) v) := by
  intro q
  cases q with
  | nil => rw [overwritten_of_ne_nil (List.cons_ne_nil name []), Entries.foundAt?_nil]
  | cons key rest =>
    rw [Entries.foundAt?_put_cons]
    by_cases hkey : key = name
    · subst hkey
      rw [if_pos rfl, overwritten_cons_self, Value.foundAt?_of_not_isMap hv, overwritten,
        if_pos List.nil_prefix]
      simp only [eq_comm]
    · rw [if_neg hkey, overwritten_cons_of_ne hkey]

/-- The mapping under a key, an empty one if there is none there. -/
def IsUnder (entries : Entries) (key : String) (inner : Entries) : Prop :=
  Fields.find? entries key = some (.map inner) ∨
    inner = [] ∧ ∀ other, Fields.find? entries key ≠ some (.map other)

/-- A value that is put into the mapping under a key. -/
theorem places_under {key : String} (hinner : IsUnder entries key inner) (hne : path ≠ [])
    (h : Places path v inner changed) :
    Places (key :: path) v entries (Fields.put entries (.str key) (.map changed)) := by
  intro q
  cases q with
  | nil => rw [overwritten_of_ne_nil (List.cons_ne_nil key path), Entries.foundAt?_nil]
  | cons k rest =>
    rw [Entries.foundAt?_put_cons]
    by_cases hk : k = key
    · subst hk
      rw [if_pos rfl, overwritten_cons_self]
      refine (h rest).trans ?_
      cases rest with
      | nil => rw [overwritten_of_ne_nil hne, overwritten_of_ne_nil hne]
      | cons next rest =>
        congr 1
        rw [Entries.foundAt?_cons entries]
        rcases hinner with hmap | ⟨rfl, hnone⟩
        · rw [hmap]
          rfl
        · -- nothing is found below what is no mapping, and nothing in an empty mapping
          rw [Entries.foundAt?_cons]
          cases hfind : Fields.find? entries k with
          | none => rfl
          | some w =>
            have hw : ¬ w.IsMap := by
              rintro ⟨other, rfl⟩
              exact hnone other hfind
            rw [Option.bind_some, Value.foundAt?_of_not_isMap hw, if_neg (List.cons_ne_nil _ _)]
            rfl
    · rw [if_neg hk, overwritten_cons_of_ne hk]

theorem places_putBelow (steps : List String) (last : String) (hv : ¬ v.IsMap) (entries : Entries) :
    Places (steps ++ [last]) v entries (putBelow entries steps last v) := by
  induction steps generalizing entries with
  | nil => exact places_put entries last hv
  | cons step rest ih =>
    rw [putBelow, List.cons_append]
    refine places_under ?_ (List.append_ne_nil_of_right_ne_nil rest (List.cons_ne_nil last [])) (ih _)
    split
    · rename_i inner hinner
      exact .inl hinner
    · rename_i hnone
      exact .inr ⟨rfl, hnone⟩

/-! ## Gates -/

/-- Where a setting goes through: mappings that it cannot make itself out of something else. -/
def Slot.gates : Slot → List (List String)
  | whole _ => []
  | field _ => [[frameworkSection]]
  | member group _ => [[frameworkSection], [frameworkSection, group]]
  | nested top _ _ => [[top]]

theorem Slot.path_isPrefix_of_mem_gates {slot : Slot} {gate : List String}
    (h : gate ∈ slot.gates) : gate <+: slot.path := by
  cases slot with
  | whole name => cases h
  | field name =>
    rw [List.mem_singleton.mp h]
    exact List.prefix_append _ [name]
  | member group name =>
    rcases List.mem_cons.mp h with rfl | h
    · exact List.prefix_append _ [group, name]
    · rw [List.mem_singleton.mp h]
      exact List.prefix_append _ [name]
  | nested top steps last =>
    rw [List.mem_singleton.mp h]
    exact List.prefix_append [top] (steps ++ [last])

/-- At none of the gates there is something else than a mapping. -/
def Slot.IsOpenIn (slot : Slot) (entries : Entries) : Prop :=
  ∀ gate ∈ slot.gates, ∀ v, entries.foundAt? gate ≠ some (.leaf v)

theorem isMap_of_foundAt?_ne {key : String} (h : ∀ w, entries.foundAt? [key] ≠ some (.leaf w)) :
    ∀ v, Fields.find? entries key = some v → v.IsMap := by
  intro v hv
  by_contra hmap
  apply h v
  rw [Entries.foundAt?_cons, hv, Option.bind_some, Value.foundAt?_nil, Value.found_of_not_isMap hmap]

/-- Where nothing but a mapping is under a key, the mapping is changed. -/
theorem within_of_isMap {key : String} (h : ∀ v, Fields.find? entries key = some v → v.IsMap)
    (fault : Value → Fault) (change : Entries → Except Fault Entries) :
    ∃ inner, IsUnder entries key inner ∧
      within entries key fault change =
        (change inner).map fun changed => Fields.put entries (.str key) (.map changed) := by
  cases hfind : Fields.find? entries key with
  | none =>
    refine ⟨[], .inr ⟨rfl, fun other hother => ?_⟩, ?_⟩
    · rw [hfind] at hother
      cases hother
    · rw [within, hfind]
      rfl
  | some v =>
    obtain ⟨inner, rfl⟩ := h v hfind
    refine ⟨inner, .inl hfind, ?_⟩
    rw [within, hfind]
    rfl

/-- What is found below a key is found in the mapping under it. -/
theorem foundAt?_of_isUnder {key : String} (hinner : IsUnder entries key inner) {v : Value}
    {next : String} (h : inner.foundAt? [next] = some (.leaf v)) :
    entries.foundAt? [key, next] = some (.leaf v) := by
  rcases hinner with hmap | ⟨rfl, -⟩
  · rw [Entries.foundAt?_cons, hmap]
    exact h
  · cases h

/-- A setting whose gates are open is put at the end of its path. -/
theorem place_of_isOpenIn {slot : Slot} (hopen : slot.IsOpenIn entries) (hv : ¬ v.IsMap) :
    ∃ changed, place entries slot v = .ok changed ∧ Places slot.path v entries changed := by
  cases slot with
  | whole name => exact ⟨_, rfl, places_put entries name hv⟩
  | field name =>
    have hgate := isMap_of_foundAt?_ne (hopen _ List.mem_cons_self)
    obtain ⟨inner, hinner, hwithin⟩ := within_of_isMap hgate notAssignable
      fun inner => .ok (Fields.put inner (.str name) v)
    exact ⟨_, hwithin, places_under hinner (List.cons_ne_nil name []) (places_put inner name hv)⟩
  | member group name =>
    have hgate := isMap_of_foundAt?_ne (hopen _ List.mem_cons_self)
    obtain ⟨inner, hinner, hwithin⟩ := within_of_isMap hgate (lacks "setdefault") fun inner =>
      within inner group notAssignable fun members => .ok (Fields.put members (.str name) v)
    have hinnerGate : ∀ w, inner.foundAt? [group] ≠ some (.leaf w) := fun w hw =>
      hopen _ (List.mem_cons_of_mem _ List.mem_cons_self) w (foundAt?_of_isUnder hinner hw)
    obtain ⟨members, hmembers, hwithinInner⟩ := within_of_isMap (isMap_of_foundAt?_ne hinnerGate)
      notAssignable fun members => .ok (Fields.put members (.str name) v)
    refine ⟨_, hwithin.trans (congrArg (Except.map _) hwithinInner), ?_⟩
    apply places_under hinner (List.cons_ne_nil group [name])
    exact places_under hmembers (List.cons_ne_nil name []) (places_put members name hv)
  | nested top steps last =>
    have hgate := isMap_of_foundAt?_ne (hopen _ List.mem_cons_self)
    obtain ⟨inner, hinner, hwithin⟩ := within_of_isMap hgate
      (if steps.isEmpty then notAssignable else lacks "get")
      fun inner => .ok (putBelow inner steps last v)
    refine ⟨_, hwithin, places_under hinner ?_ (places_putBelow steps last hv inner)⟩
    exact List.append_ne_nil_of_right_ne_nil steps (List.cons_ne_nil last [])

/-! ## All variables -/

variable {lead : String} {environment : Environment}

/-- The setting that a variable is, if it is one, and its value. -/
def settingOf? (lead : String) (x : String × String) : Option (Slot × Value) :=
  (nameAfter? lead x.1).map fun name => (Slot.ofName name, valueOf name x.2)

/-- Where a variable belongs, if it is a setting. -/
def slotOf? (lead : String) (x : String × String) : Option Slot := (settingOf? lead x).map (·.1)

theorem slotOf?_eq_some_iff {x : String × String} {slot : Slot} :
    slotOf? lead x = some slot ↔ ∃ v, settingOf? lead x = some (slot, v) := by
  simp [slotOf?]

/-- What is found at a path after a variable has been read. -/
def settled (lead : String) (q : List String) (before : Option Found) (x : String × String) :
    Option Found :=
  match settingOf? lead x with
  | some (slot, v) => overwritten slot.path v q before
  | none => before

theorem settled_of_settingOf? {x : String × String} {slot : Slot} {v : Value}
    (h : settingOf? lead x = some (slot, v)) (q : List String) (before : Option Found) :
    settled lead q before x = overwritten slot.path v q before := by
  rw [settled, h]

/-- A variable is a setting whose path overlaps with a path. -/
def Touches (lead : String) (q : List String) (x : String × String) : Prop :=
  ∃ slot v, settingOf? lead x = some (slot, v) ∧ Overlap slot.path q

theorem settled_of_not_touches {q : List String} {x : String × String} (h : ¬ Touches lead q x)
    (before : Option Found) : settled lead q before x = before := by
  unfold settled
  split
  · rename_i slot v hsetting
    exact overwritten_of_not_overlap fun hoverlap => h ⟨slot, v, hsetting, hoverlap⟩
  · rfl

theorem settled_of_touches {q : List String} {x : String × String} (h : Touches lead q x)
    (before : Option Found) : settled lead q before x = settled lead q none x := by
  obtain ⟨slot, v, hsetting, hoverlap⟩ := h
  rw [settled_of_settingOf? hsetting, settled_of_settingOf? hsetting]
  exact overwritten_of_overlap hoverlap

theorem foldl_settled_of_not_touches {q : List String} {row : Environment}
    (h : ∀ x ∈ row, ¬ Touches lead q x) (before : Option Found) :
    row.foldl (settled lead q) before = before := by
  induction row with
  | nil => rfl
  | cons x row ih =>
    obtain ⟨hx, hrow⟩ := List.forall_mem_cons.mp h
    rw [List.foldl_cons, settled_of_not_touches hx, ih hrow]

/-- The last variable whose path overlaps with a path settles what is found there. -/
theorem foldl_settled_of_last {q : List String} {x : String × String} (hx : Touches lead q x)
    {earlier later : Environment} (hlater : ∀ y ∈ later, ¬ Touches lead q y) (before : Option Found) :
    (earlier ++ x :: later).foldl (settled lead q) before = settled lead q none x := by
  rw [List.foldl_append, List.foldl_cons, foldl_settled_of_not_touches hlater, settled_of_touches hx]

/-- A row has no variable of a kind, or it has a last one. -/
theorem forall_not_or_exists_last (P : String × String → Prop) (row : Environment) :
    (∀ x ∈ row, ¬ P x) ∨
      ∃ earlier x later, row = earlier ++ x :: later ∧ P x ∧ ∀ y ∈ later, ¬ P y := by
  induction row using List.reverseRecOn with
  | nil => exact .inl (List.forall_mem_nil _)
  | append_singleton row x ih =>
    by_cases hx : P x
    · exact .inr ⟨row, x, [], rfl, hx, List.forall_mem_nil _⟩
    · rcases ih with hnone | ⟨earlier, y, later, rfl, hy, hlater⟩
      · exact .inl (List.forall_mem_append.mpr ⟨hnone, List.forall_mem_singleton.mpr hx⟩)
      · refine .inr ⟨earlier, y, later ++ [x], by simp, hy, ?_⟩
        exact List.forall_mem_append.mpr ⟨hlater, List.forall_mem_singleton.mpr hx⟩

/-- A variable goes through a gate at which another one is put. -/
def Blocks (lead : String) (y x : String × String) : Prop :=
  ∃ slot ∈ slotOf? lead y, ∃ slot' ∈ slotOf? lead x, slot.path ∈ slot'.gates

instance (lead : String) (y x : String × String) : Decidable (Blocks lead y x) :=
  inferInstanceAs (Decidable (∃ _ ∈ _, _))

/-- No variable goes through a gate at which one of those before it has been put. -/
def IsOpen (lead : String) (environment : Environment) : Prop :=
  environment.Pairwise fun y x => ¬ Blocks lead y x

instance (lead : String) (environment : Environment) : Decidable (IsOpen lead environment) :=
  inferInstanceAs (Decidable (List.Pairwise _ environment))

theorem not_isMap_of_settingOf? {x : String × String} {slot : Slot} {v : Value}
    (h : settingOf? lead x = some (slot, v)) : ¬ v.IsMap := by
  obtain ⟨name, -, hsetting⟩ := Option.map_eq_some_iff.mp h
  cases hsetting
  exact not_isMap_valueOf name x.2

/-- The settings of an environment are put one after the other. -/
theorem read_eq (lead : String) (environment : Environment) :
    read lead environment = (environment.filterMap (settingOf? lead)).foldlM
      (fun entries (slot, v) => place entries slot v) [] := by
  rw [List.foldlM_filterMap, read]
  congr 1
  funext entries x
  obtain ⟨name, text⟩ := x
  unfold settingOf?
  dsimp only
  cases nameAfter? lead name with
  | none => rfl
  | some suffix => rfl

theorem read_concat (x : String × String) :
    read lead (environment ++ [x]) = read lead environment >>= fun entries =>
      match settingOf? lead x with
      | some (slot, v) => place entries slot v
      | none => .ok entries := by
  rw [read_eq, read_eq, List.filterMap_append, List.foldlM_append, List.filterMap_cons]
  cases settingOf? lead x with
  | none => rfl
  | some setting =>
    congr 1
    funext entries
    exact bind_pure _

/-- An open environment is read without a fault, and what is found at a path is what its variables
settle one after the other. -/
theorem read_of_isOpen (h : IsOpen lead environment) :
    ∃ entries, read lead environment = .ok entries ∧
      ∀ q, entries.foundAt? q =
        environment.foldl (settled lead q) (Entries.foundAt? [] q) := by
  induction environment using List.reverseRecOn with
  | nil => exact ⟨[], rfl, fun q => rfl⟩
  | append_singleton earlier x ih =>
    obtain ⟨hopen, -, hblocks⟩ := List.pairwise_append.mp h
    obtain ⟨entries, hread, hfound⟩ := ih hopen
    rw [read_concat, hread, ok_bind_eq]
    simp only [List.foldl_append, List.foldl_cons, List.foldl_nil, ← hfound, settled]
    cases hsetting : settingOf? lead x with
    | none => exact ⟨entries, rfl, fun q => rfl⟩
    | some setting =>
      obtain ⟨slot, v⟩ := setting
      refine place_of_isOpenIn (fun gate hgate w hleaf => ?_) (not_isMap_of_settingOf? hsetting)
      -- what is found at a gate has been put there by the last variable that overlaps with it
      rw [hfound] at hleaf
      rcases forall_not_or_exists_last (Touches lead gate) earlier with
        hnone | ⟨before, y, later, rfl, hy, hlater⟩
      · rw [foldl_settled_of_not_touches hnone] at hleaf
        cases gate <;> cases hleaf
      · rw [foldl_settled_of_last hy hlater] at hleaf
        obtain ⟨slot', v', hother, -⟩ := hy
        rw [settled_of_settingOf? hother] at hleaf
        have hpath : slot'.path = gate := eq_of_overwritten_eq_leaf hleaf
        have hput : slotOf? lead y = some slot' := slotOf?_eq_some_iff.mpr ⟨v', hother⟩
        have hthrough : slotOf? lead x = some slot := slotOf?_eq_some_iff.mpr ⟨v, hsetting⟩
        refine hblocks y List.mem_append_cons_self x (List.mem_singleton_self x) ?_
        exact ⟨slot', hput, slot, hthrough, hpath ▸ hgate⟩

end Environment

end PluginDescriptor
