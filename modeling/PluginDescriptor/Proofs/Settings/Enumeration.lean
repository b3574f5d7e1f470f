import PluginDescriptor.Proofs.Settings.Places

/-!
# The order of the variables of the environment

The settings of the environment depend on the order of its variables only where the paths of two of
them overlap: the later one counts. If variables whose paths overlap keep their order, then the last
one that settles what is found at a path is the same, and what is read is the same up to the order of
keys (`Source.read_reordered`).
-/

set_option autoImplicit false

namespace PluginDescriptor

/-! ## Mappings in another order -/

namespace Entries

/-- The same keys and values in some order, in all mappings inside as well. -/
inductive IsRearranged : Entries → Entries → Prop where
  | intro {entries others : Entries} (keys : (entries.map (·.1)).Perm (others.map (·.1)))
      (values : ∀ key v, ¬ v.IsMap → ((key, v) ∈ entries ↔ (key, v) ∈ others))
      (nested : ∀ key inner other, (key, .map inner) ∈ entries → (key, .map other) ∈ others →
        IsRearranged inner other) :
      IsRearranged entries others

/-- Entries whose keys are texts, in all mappings inside as well. -/
inductive IsTextual : Entries → Prop where
  | intro {entries : Entries} (keys : entries.HasTextKeys)
      (nested : ∀ entry ∈ entries, ∀ inner, entry.2 = .map inner → IsTextual inner) :
      IsTextual entries

variable {entries others : Entries}

theorem foundAt?_singleton (entries : Entries) (key : String) :
    entries.foundAt? [key] = (Fields.find? entries key).map Value.found := by
  rw [foundAt?_cons, Option.map_eq_bind]
  rfl

/-- What holds of texts only holds of the same keys if it holds of the same texts. -/
theorem iff_of_forall_str {P Q : Value → Prop} (hP : ∀ key, P key → ∃ name, key = .str name)
    (hQ : ∀ key, Q key → ∃ name, key = .str name)
    (h : ∀ name, P (.str name) ↔ Q (.str name)) (key : Value) : P key ↔ Q key := by
  constructor
  · intro hkey
    obtain ⟨name, rfl⟩ := hP key hkey
    exact (h name).mp hkey
  · intro hkey
    obtain ⟨name, rfl⟩ := hQ key hkey
    exact (h name).mpr hkey

section SameFound

variable (htext : entries.HasTextKeys) (htexts : others.HasTextKeys) (hapart : entries.Apart)
  (hapartOther : others.Apart)
  (h : ∀ name, (Fields.find? entries name).map Value.found = (Fields.find? others name).map Value.found)

include htext htexts hapart hapartOther h

theorem perm_keys : (entries.map (·.1)).Perm (others.map (·.1)) := by
  have hstr : ∀ name, .str name ∈ entries.map (·.1) ↔ .str name ∈ others.map (·.1) := fun name => by
    rw [← Fields.find?_isSome_iff, ← Fields.find?_isSome_iff, ← Option.isSome_map, h,
      Option.isSome_map]
  refine (List.perm_ext_iff_of_nodup (htext.nodup hapart) (htexts.nodup hapartOther)).mpr ?_
  exact iff_of_forall_str (fun _ hkey => htext.exists_str hkey) (fun _ hkey => htexts.exists_str hkey)
    hstr

theorem mem_iff_of_not_isMap (key : Value) {v : Value} (hv : ¬ v.IsMap) :
    (key, v) ∈ entries ↔ (key, v) ∈ others := by
  have hleaf : ∀ o : Option Value, o = some v ↔ o.map Value.found = some (.leaf v) := by
    simp [Option.map_eq_some_iff, Value.found_eq_leaf_iff, hv]
  have hstr : ∀ name, (.str name, v) ∈ entries ↔ (.str name, v) ∈ others := fun name => by
    rw [Fields.mem_iff_find? hapart, Fields.mem_iff_find? hapartOther, hleaf, hleaf, h]
  exact iff_of_forall_str (P := fun key => (key, v) ∈ entries) (Q := fun key => (key, v) ∈ others)
    (fun _ hentry => htext.exists_str (List.mem_map_of_mem hentry))
    (fun _ hentry => htexts.exists_str (List.mem_map_of_mem hentry)) hstr key

end SameFound

/-- What is found at every path is all that there is in mappings whose keys are texts. -/
theorem isRearranged_of_foundAt? (htextual : entries.IsTextual) (hother : others.IsTextual)
    (hmapping : entries.IsMapping) (hothers : others.IsMapping)
    (h : ∀ q, entries.foundAt? q = others.foundAt? q) : entries.IsRearranged others := by
  induction htextual generalizing others with
  | @intro entries htext _ ih =>
    obtain ⟨htexts, hnested⟩ := hother
    have hfound : ∀ name, (Fields.find? entries name).map Value.found =
        (Fields.find? others name).map Value.found := fun name => by
      rw [← foundAt?_singleton, ← foundAt?_singleton, h]
    refine ⟨perm_keys htext htexts hmapping.apart hothers.apart hfound,
      fun key v => mem_iff_of_not_isMap htext htexts hmapping.apart hothers.apart hfound key, ?_⟩
    intro key inner other hinner hinOther
    obtain ⟨name, rfl⟩ := htext.exists_str (List.mem_map_of_mem hinner)
    refine ih _ hinner inner rfl (hnested _ hinOther other rfl)
      (Value.isProper_map_iff.mp (hmapping.nested _ hinner))
      (Value.isProper_map_iff.mp (hothers.nested _ hinOther)) fun q => ?_
    have hbelow := h (name :: q)
    rw [foundAt?_cons, foundAt?_cons, (Fields.mem_iff_find? hmapping.apart).mp hinner,
      (Fields.mem_iff_find? hothers.apart).mp hinOther] at hbelow
    exact hbelow

end Entries

namespace Environment

theorem isKept_isTextual : IsKept Entries.IsTextual where
  nil := ⟨List.forall_mem_nil _, fun _ hentry => (List.not_mem_nil hentry).elim⟩
  put name v h hv := by
    obtain ⟨htext, hnested⟩ := h
    refine ⟨(Entries.hasTextKeys_put_iff _ name v).mpr htext, fun entry hentry inner hinner => ?_⟩
    rcases Fields.mem_put hentry with hkept | ⟨rfl, -⟩
    · exact hnested entry hkept inner hinner
    · exact hv inner hinner
  find h hinner := by
    obtain ⟨-, hnested⟩ := h
    obtain ⟨entry, hentry, hmap⟩ := Option.map_eq_some_iff.mp hinner
    exact hnested entry (List.mem_of_find?_eq_some hentry) _ hmap

/-! ## Variables in another order -/

variable {lead : String} {environment other : Environment}

/-- Two variables are settings whose paths overlap. -/
def Overlapping (lead : String) (a b : String × String) : Prop :=
  ∃ slot ∈ slotOf? lead a, ∃ slot' ∈ slotOf? lead b, Overlap slot.path slot'.path

instance (lead : String) (a b : String × String) : Decidable (Overlapping lead a b) :=
  inferInstanceAs (Decidable (∃ _ ∈ _, _))

/-- The same variables in another order, in which those whose paths overlap keep theirs. -/
structure IsReordering (lead : String) (environment other : Environment) : Prop where
  perm : environment.Perm other
  kept : ∀ a b, Overlapping lead a b →
    environment.filter (fun x => x = a ∨ x = b) = other.filter fun x => x = a ∨ x = b

theorem Overlapping.symm {a b : String × String} (h : Overlapping lead a b) :
    Overlapping lead b a := by
  obtain ⟨slot, hslot, slot', hslot', hoverlap⟩ := h
  exact ⟨slot', hslot', slot, hslot, hoverlap.symm⟩

theorem Blocks.overlapping {y x : String × String} (h : Blocks lead y x) :
    Overlapping lead y x := by
  obtain ⟨slot, hslot, slot', hslot', hgate⟩ := h
  exact ⟨slot, hslot, slot', hslot', .inl (Slot.path_isPrefix_of_mem_gates hgate)⟩

namespace IsReordering

theorem symm (h : IsReordering lead environment other) : IsReordering lead other environment :=
  ⟨h.perm.symm, fun a b hab => (h.kept a b hab).symm⟩

/-- Neighbours whose paths do not overlap may change places. -/
theorem swap {a b : String × String} (h : ¬ Overlapping lead a b) (earlier later : Environment) :
    IsReordering lead (earlier ++ a :: b :: later) (earlier ++ b :: a :: later) := by
  refine ⟨(List.Perm.swap b a later).append_left earlier, fun c d hcd => ?_⟩
  by_cases hab : a = b
  · rw [hab]
  · have hnot : ¬ ((a = c ∨ a = d) ∧ (b = c ∨ b = d)) := by
      rintro ⟨rfl | rfl, rfl | rfl⟩
      · exact hab rfl
      · exact h hcd
      · exact h hcd.symm
      · exact hab rfl
    simp only [List.filter_append, List.filter_cons, decide_eq_true_eq]
    congr 1
    -- at most one of the two is asked for, so no order of theirs is seen
    by_cases ha : a = c ∨ a = d
    · have hb : ¬ (b = c ∨ b = d) := fun hb => hnot ⟨ha, hb⟩
      simp only [if_pos ha, if_neg hb]
    · simp only [if_neg ha]

/-- The order of two variables whose paths overlap is the same. -/
theorem sublist (h : IsReordering lead environment other) {a b : String × String}
    (hab : Overlapping lead a b) (hsub : [a, b].Sublist environment) : [a, b].Sublist other := by
  have hfilter := hsub.filter fun x => x = a ∨ x = b
  rw [h.kept a b hab] at hfilter
  have hpair : [a, b].filter (fun x => x = a ∨ x = b) = [a, b] := by simp
  rw [hpair] at hfilter
  exact hfilter.trans List.filter_sublist

theorem isOpen (h : IsReordering lead environment other) (hopen : IsOpen lead environment) :
    IsOpen lead other := by
  refine List.pairwise_iff_forall_sublist.mpr fun {_ _} hsub hblocks => ?_
  exact List.pairwise_iff_forall_sublist.mp hopen (h.symm.sublist hblocks.overlapping hsub) hblocks

/-- The last variables that overlap with a path are the same one if they overlap. -/
theorem eq_of_last (h : IsReordering lead environment other) {q : List String}
    {earlier later before after : Environment} {x y : String × String}
    (henvironment : environment = earlier ++ x :: later) (hother : other = before ++ y :: after)
    (hx : Touches lead q x) (hy : Touches lead q y) (hlater : ∀ z ∈ later, ¬ Touches lead q z)
    (hafter : ∀ z ∈ after, ¬ Touches lead q z) (hxy : Overlapping lead x y) : x = y := by
  have hnone : ∀ {row : Environment}, (∀ z ∈ row, ¬ Touches lead q z) →
      row.filter (fun z => z = x ∨ z = y) = [] := fun {row} hrow => by
    refine List.filter_eq_nil_iff.mpr fun z hz hpair => ?_
    rcases of_decide_eq_true hpair with rfl | rfl
    · exact hrow z hz hx
    · exact hrow z hz hy
  have hkept := h.kept x y hxy
  rw [henvironment, hother, List.filter_append, List.filter_append,
    List.filter_cons_of_pos (by simp), List.filter_cons_of_pos (by simp), hnone hlater,
    hnone hafter] at hkept
  exact List.singleton_inj.mp (List.append_inj' hkept rfl).2

/-- What the variables settle at a path does not depend on the order of those whose paths do not
overlap. -/
theorem foldl_settled (h : IsReordering lead environment other) (q : List String)
    (before : Option Found) :
    environment.foldl (settled lead q) before = other.foldl (settled lead q) before := by
  rcases forall_not_or_exists_last (Touches lead q) environment with
    hnone | ⟨earlier, x, later, hsplit, hx, hlater⟩
  · have hother : ∀ x ∈ other, ¬ Touches lead q x := fun x hx =>
      hnone x (h.perm.mem_iff.mpr hx)
    rw [foldl_settled_of_not_touches hnone, foldl_settled_of_not_touches hother]
  rcases forall_not_or_exists_last (Touches lead q) other with
    hnone | ⟨earlier', y, later', hsplit', hy, hlater'⟩
  · have hmem : x ∈ other := h.perm.mem_iff.mp (hsplit ▸ List.mem_append_cons_self)
    exact (hnone x hmem hx).elim
  rw [hsplit, hsplit', foldl_settled_of_last hx hlater, foldl_settled_of_last hy hlater']
  by_cases hxy : Overlapping lead x y
  · rw [h.eq_of_last hsplit hsplit' hx hy hlater hlater' hxy]
  · -- both paths begin with this one: they go on from it to different places
    obtain ⟨slot, v, hslot, hoverlap⟩ := hx
    obtain ⟨slot', v', hslot', hoverlap'⟩ := hy
    have hapart : ¬ Overlap slot.path slot'.path := fun hover => by
      apply hxy
      exact ⟨slot, slotOf?_eq_some_iff.mpr ⟨v, hslot⟩, slot',
        slotOf?_eq_some_iff.mpr ⟨v', hslot'⟩, hover⟩
    rw [settled_of_settingOf? hslot, settled_of_settingOf? hslot',
      overwritten_of_apart hoverlap hoverlap' hapart,
      overwritten_of_apart hoverlap' hoverlap fun hover => hapart hover.symm]

end IsReordering

end Environment

namespace Source

/-- The order in which the environment lists its variables does not matter except where their paths
overlap. If no variable goes through a section, or a group of the framework's settings, that one before
it has set as a whole, then the variables are read without a fault, in this order and in every other
one in which those whose paths overlap keep theirs, and what is read is the same up to the order of
keys. -/
theorem read_reordered (files : FileTree) (lead : String) (priority : Int)
    {environment other : Environment} (hopen : environment.IsOpen lead)
    (h : Environment.IsReordering lead environment other) :
    ∃ entries others, (Source.environment lead priority).read ⟨files, environment⟩ = .ok entries ∧
      (Source.environment lead priority).read ⟨files, other⟩ = .ok others ∧
      entries.IsMapping ∧ others.IsMapping ∧ entries.IsRearranged others := by
  obtain ⟨entries, hread, hfound⟩ := Environment.read_of_isOpen hopen
  obtain ⟨others, hreadOther, hfoundOther⟩ := Environment.read_of_isOpen (h.isOpen hopen)
  have hmapping := Environment.isMapping_read hread
  have hmappingOther := Environment.isMapping_read hreadOther
  refine ⟨entries, others, congrArg Failure.ofFault hread, congrArg Failure.ofFault hreadOther,
    hmapping, hmappingOther, ?_⟩
  refine Entries.isRearranged_of_foundAt? (Environment.isKept_isTextual.read hread)
    (Environment.isKept_isTextual.read hreadOther) hmapping hmappingOther fun q => ?_
  rw [hfound, hfoundOther, h.foldl_settled]

/-- Two variables the path of one of which begins with the path of the other. -/
def overlappingVariables : Environment :=
  [("POLARIS_DDL_EXTRA_A", "1"), ("POLARIS_DDL_EXTRA_A_B", "2")]

/-- The two variables, and then one whose path overlaps with neither of theirs. -/
def mixedVariables : Environment :=
  overlappingVariables ++ [("POLARIS_DDL_FRAMEWORK_PLATFORM_VERSION", "2.0")]

/-- The same variables, with that one between the two. -/
def mixedVariablesReordered : Environment :=
  [("POLARIS_DDL_EXTRA_A", "1"), ("POLARIS_DDL_FRAMEWORK_PLATFORM_VERSION", "2.0"),
    ("POLARIS_DDL_EXTRA_A_B", "2")]

theorem read_reordered_mixed :
    Environment.IsOpen Environment.usualLead mixedVariables ∧
    Environment.IsReordering Environment.usualLead mixedVariables mixedVariablesReordered ∧
    ∃ entries others,
      usualEnvironment.read ⟨default, mixedVariables⟩ = .ok entries ∧
      usualEnvironment.read ⟨default, mixedVariablesReordered⟩ = .ok others ∧
      entries.IsMapping ∧ others.IsMapping ∧ entries.IsRearranged others := by
  have hopen : Environment.IsOpen Environment.usualLead mixedVariables := by decide +kernel
  have hreordering :
      Environment.IsReordering Environment.usualLead mixedVariables mixedVariablesReordered :=
    .swap (by decide +kernel) [("POLARIS_DDL_EXTRA_A", "1")] []
  exact ⟨hopen, hreordering, read_reordered default _ environmentPriority hopen hreordering⟩

/-- A section that is set as a whole, and a setting in it. -/
def blockingVariables : Environment := [("POLARIS_DDL_EXTRA", "1"), ("POLARIS_DDL_EXTRA_A", "1")]

/-- The order of variables whose paths overlap matters: the setting at the longer path is kept only if
it comes after the other one, which takes its place otherwise. A setting in a section that has been
set as a whole is at fault. -/
theorem read_reversed :
    usualEnvironment.read ⟨default, overlappingVariables⟩ =
      .ok [(.str "extra", .map [(.str "a", .map [(.str "b", .int 2)])])] ∧
    usualEnvironment.read ⟨default, overlappingVariables.reverse⟩ =
      .ok [(.str "extra", .map [(.str "a", .int 1)])] ∧
    ¬ Entries.IsRearranged [(.str "extra", .map [(.str "a", .map [(.str "b", .int 2)])])]
      [(.str "extra", .map [(.str "a", .int 1)])] ∧
    usualEnvironment.read ⟨default, blockingVariables⟩ =
      .error (.fault (Environment.notAssignable (.int 1))) := by
  have hread : Environment.read Environment.usualLead overlappingVariables =
      .ok [(.str "extra", .map [(.str "a", .map [(.str "b", .int 2)])])] := by
    have hsettings : overlappingVariables.filterMap (Environment.settingOf? Environment.usualLead) =
        [(.nested "extra" [] "a", .int 1), (.nested "extra" ["a"] "b", .int 2)] := by
      decide +kernel
    rw [Environment.read_eq, hsettings]
    rfl
  have hreversed : Environment.read Environment.usualLead overlappingVariables.reverse =
      .ok [(.str "extra", .map [(.str "a", .int 1)])] := by
    have hsettings : overlappingVariables.reverse.filterMap
        (Environment.settingOf? Environment.usualLead) =
        [(.nested "extra" ["a"] "b", .int 2), (.nested "extra" [] "a", .int 1)] := by
      decide +kernel
    rw [Environment.read_eq, hsettings]
    rfl
  have hblocked : Environment.read Environment.usualLead blockingVariables =
      .error (Environment.notAssignable (.int 1)) := by
    have hsettings : blockingVariables.filterMap (Environment.settingOf? Environment.usualLead) =
        [(.whole "extra", .int 1), (.nested "extra" [] "a", .int 1)] := by
      decide +kernel
    rw [Environment.read_eq, hsettings]
    rfl
  refine ⟨congrArg Failure.ofFault hread, congrArg Failure.ofFault hreversed, ?_,
    congrArg Failure.ofFault hblocked⟩
  intro h
  obtain ⟨-, -, hnested⟩ := h
  obtain ⟨-, hvalues, -⟩ := hnested (.str "extra") _ _ List.mem_cons_self List.mem_cons_self
  have hnumber : ¬ (Value.int 1).IsMap := by
    rintro ⟨entries, hentries⟩
    cases hentries
  have hmem := (hvalues (.str "a") (.int 1) hnumber).mpr List.mem_cons_self
  cases List.mem_singleton.mp hmem

end Source

end PluginDescriptor
