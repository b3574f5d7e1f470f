import Mathlib.Data.List.Induction
import PluginDescriptor.Named

/-!
# What a row of named things leaves behind

Putting things under their names one after the other keeps the place of the first thing under a name
and the last thing itself. `Named.gathered` says this without putting anything: the names are those
of the row, each once, and under each is what stands last under it. `Named.ofList_eq_gathered` is the
main statement; two lists with the same names in the same order and the same answers are equal, so it
is enough to know the names and the answers of `Named.ofList`.
-/

set_option autoImplicit false

namespace PluginDescriptor

/-- A row without its repetitions has none. -/
theorem nodup_eraseDups {α : Type} [BEq α] [LawfulBEq α] (row : List α) : row.eraseDups.Nodup := by
  induction row using List.reverseRecOn with
  | nil => simp
  | append_singleton row a ih =>
    rw [List.eraseDups_append, List.nodup_append]
    refine ⟨ih, ?_, ?_⟩
    · by_cases h : a ∈ row <;> simp [List.removeAll, List.eraseDups_cons, h]
    · intro b hb c hc hbc
      subst hbc
      have hrow : b ∈ row := List.mem_eraseDups.mp hb
      have hnew : b ∈ [a].removeAll row := List.mem_eraseDups.mp hc
      simp only [List.removeAll, List.mem_filter, Bool.not_eq_true', List.contains_eq_mem,
        decide_eq_false_iff_not] at hnew
      exact hnew.2 hrow

/-- One more name at the end is dropped, unless it is new. -/
theorem eraseDups_concat {α : Type} [BEq α] [LawfulBEq α] (row : List α) (a : α)
    [Decidable (a ∈ row)] :
    (row ++ [a]).eraseDups = if a ∈ row then row.eraseDups else row.eraseDups ++ [a] := by
  rw [List.eraseDups_append]
  split
  · rename_i h
    simp [List.removeAll, h]
  · rename_i h
    simp [List.removeAll, List.eraseDups_cons, h]

namespace Named

variable {α β : Type}

/-- The names, in order. -/
def names (named : Named α) : List String := named.map (·.1)

@[simp] theorem names_nil : names ([] : Named α) = [] := rfl

@[simp] theorem names_cons (name : String) (a : α) (named : Named α) :
    names ((name, a) :: named) = name :: names named := rfl

@[simp] theorem names_append (as bs : Named α) : names (as ++ bs) = names as ++ names bs :=
  List.map_append

theorem lookup_isSome_iff (named : Named α) (name : String) :
    (named.lookup name).isSome ↔ name ∈ named.names := by
  induction named with
  | nil => simp
  | cons entry rest ih =>
    obtain ⟨n, a⟩ := entry
    rw [lookup_cons_eq, names_cons, List.mem_cons, ← ih]
    by_cases hn : name = n <;> simp [hn]

theorem lookup_eq_none_iff (named : Named α) (name : String) :
    named.lookup name = none ↔ name ∉ named.names := by
  rw [← lookup_isSome_iff, Option.not_isSome_iff_eq_none]

/-- What is found is there. -/
theorem mem_of_lookup {named : Named α} {name : String} {a : α} (h : named.lookup name = some a) :
    (name, a) ∈ named := by
  obtain ⟨before, rest, hrow, -⟩ := List.lookup_eq_some_iff.mp h
  exact hrow ▸ List.mem_append_cons_self

/-- Of things under different names, each is found under its own. -/
theorem lookup_of_mem {named : Named α} (hnodup : named.names.Nodup) {name : String}
    {a : α} (h : (name, a) ∈ named) : named.lookup name = some a := by
  induction named with
  | nil => cases h
  | cons entry rest ih =>
    obtain ⟨n, b⟩ := entry
    rw [names_cons, List.nodup_cons] at hnodup
    rw [lookup_cons_eq]
    rcases List.mem_cons.mp h with heq | hrest
    · obtain ⟨rfl, rfl⟩ := Prod.mk.inj heq
      rw [if_pos rfl]
    · have hne : name ≠ n := by
        rintro rfl
        exact hnodup.1 (List.mem_map_of_mem hrest)
      rw [if_neg hne]
      exact ih hnodup.2 hrest

/-- Putting something under a name adds the name at the end, unless it is there. -/
theorem names_assign (name : String) (a : α) (named : Named α) :
    (assign name a named).names =
      if name ∈ named.names then named.names else named.names ++ [name] := by
  induction named with
  | nil => rfl
  | cons entry rest ih =>
    obtain ⟨n, b⟩ := entry
    by_cases hn : n = name
    · subst hn
      simp [assign]
    · rw [assign, if_neg hn, names_cons, ih, names_cons]
      by_cases hr : name ∈ names rest
      · simp [hr]
      · have hne : ¬ name = n := fun h => hn h.symm
        simp [hr, hne]

/-- Putting what is there under a name changes nothing. -/
theorem assign_of_lookup {named : Named α} {name : String} {a : α} (h : named.lookup name = some a) :
    assign name a named = named := by
  induction named with
  | nil => cases h
  | cons entry rest ih =>
    obtain ⟨n, b⟩ := entry
    rw [lookup_cons_eq] at h
    rw [assign]
    by_cases hn : n = name
    · subst hn
      rw [if_pos rfl] at h ⊢
      cases h
      rfl
    · rw [if_neg fun heq => hn heq.symm] at h
      rw [if_neg hn, ih h]

/-- Something under a new name goes to the end. -/
theorem assign_of_not_mem {name : String} {named : Named α} (a : α) (h : name ∉ named.names) :
    assign name a named = named ++ [(name, a)] := by
  induction named with
  | nil => rfl
  | cons entry rest ih =>
    obtain ⟨n, b⟩ := entry
    rw [names_cons, List.mem_cons, not_or] at h
    rw [assign, if_neg (Ne.symm h.1), ih h.2, List.cons_append]

/-- The names in order and the answers to all look-ups determine a list in which no name is
repeated. -/
theorem ext_of_lookup {as bs : Named α} (hnodup : as.names.Nodup) (hnames : as.names = bs.names)
    (hlookup : ∀ name, as.lookup name = bs.lookup name) : as = bs := by
  induction as generalizing bs with
  | nil =>
    cases bs with
    | nil => rfl
    | cons b bs => simp [names] at hnames
  | cons a as ih =>
    cases bs with
    | nil => simp [names] at hnames
    | cons b bs =>
      obtain ⟨name, x⟩ := a
      obtain ⟨other, y⟩ := b
      simp only [names_cons, List.cons.injEq] at hnames
      obtain ⟨rfl, hrest⟩ := hnames
      rw [names_cons, List.nodup_cons] at hnodup
      have hxy : x = y := by
        have h := hlookup name
        rwa [lookup_cons_eq, lookup_cons_eq, if_pos rfl, if_pos rfl, Option.some.injEq] at h
      subst hxy
      congr 1
      refine ih hnodup.2 hrest fun n => ?_
      by_cases hn : n = name
      · -- the first name is in neither rest
        subst hn
        have has : as.lookup n = none := (lookup_eq_none_iff as n).mpr hnodup.1
        have hbs : bs.lookup n = none := (lookup_eq_none_iff bs n).mpr (hrest ▸ hnodup.1)
        rw [has, hbs]
      · have h := hlookup n
        rwa [lookup_cons_eq, lookup_cons_eq, if_neg hn, if_neg hn] at h

/-! ## Putting a row of things -/

theorem ofList_concat (things : Named α) (name : String) (a : α) :
    ofList (things ++ [(name, a)]) = assign name a (ofList things) := by
  simp [ofList]

/-- The names stand in the order of their first use. -/
theorem names_ofList (things : Named α) : (ofList things).names = things.names.eraseDups := by
  induction things using List.reverseRecOn with
  | nil => rfl
  | append_singleton things thing ih =>
    obtain ⟨name, a⟩ := thing
    rw [ofList_concat, names_assign, ih, names_append, names_cons, names_nil, eraseDups_concat]
    simp only [List.mem_eraseDups]

/-- Under a name is what was put there last, or else what was there. -/
theorem lookup_foldl_assign (named things : Named α) (name : String) :
    List.lookup name (things.foldl (fun named (n, a) => assign n a named) named) =
      (things.reverse.lookup name).or (named.lookup name) := by
  induction things using List.reverseRecOn with
  | nil => rfl
  | append_singleton things thing ih =>
    obtain ⟨n, a⟩ := thing
    rw [List.foldl_append, List.foldl_cons, List.foldl_nil, lookup_assign, ih, List.reverse_append,
      List.reverse_singleton, List.singleton_append, lookup_cons_eq]
    split <;> rfl

theorem lookup_ofList (things : Named α) (name : String) :
    (ofList things).lookup name = things.reverse.lookup name := by
  rw [ofList, lookup_foldl_assign]
  exact Option.or_none

/-- Names that differ stay so when more is put under names. -/
theorem nodup_names_assign {named : Named α} (h : named.names.Nodup) (name : String) (a : α) :
    (assign name a named).names.Nodup := by
  rw [names_assign]
  split
  · exact h
  · rename_i hnew
    refine List.nodup_append.mpr ⟨h, List.pairwise_singleton _ name, fun n hn other hother heq => ?_⟩
    rw [List.mem_singleton.mp hother] at heq
    exact hnew (heq ▸ hn)

theorem nodup_names_foldl_assign {named : Named α} (h : named.names.Nodup) (things : Named α) :
    (names (things.foldl (fun named (n, a) => assign n a named) named)).Nodup := by
  induction things generalizing named with
  | nil => exact h
  | cons thing rest ih => exact ih (nodup_names_assign h thing.1 thing.2)

/-- Each name of a row once, in the order of its first use, with what stands last under it. -/
def gathered (things : Named α) : Named α :=
  things.names.eraseDups.filterMap fun name => (things.reverse.lookup name).map (name, ·)

/-- What answers for a row of names, all of which have an answer, has just these names. -/
theorem names_filterMap_answer (answer : String → Option α) (row : List String)
    (h : ∀ name ∈ row, (answer name).isSome) :
    names (row.filterMap fun name => (answer name).map (name, ·)) = row := by
  induction row with
  | nil => rfl
  | cons name row ih =>
    obtain ⟨a, ha⟩ := Option.isSome_iff_exists.mp (h name List.mem_cons_self)
    rw [List.filterMap_cons, ha, Option.map_some, names_cons,
      ih fun n hn => h n (List.mem_cons_of_mem _ hn)]

/-- Looking up in what answers for a row of names asks for the answer. -/
theorem lookup_filterMap_answer (answer : String → Option α) (row : List String) (name : String) :
    List.lookup name (row.filterMap fun name => (answer name).map (name, ·)) =
      if name ∈ row then answer name else none := by
  induction row with
  | nil => rfl
  | cons n row ih =>
    rw [List.filterMap_cons]
    cases ha : answer n with
    | none =>
      by_cases hn : name = n
      · subst hn
        simp [ih, ha]
      · simp [ih, hn]
    | some a =>
      rw [Option.map_some, lookup_cons_eq, ih]
      by_cases hn : name = n
      · subst hn
        simp [ha]
      · simp [hn]

theorem names_gathered (things : Named α) : things.gathered.names = things.names.eraseDups := by
  refine names_filterMap_answer _ _ fun name hname => ?_
  rw [lookup_isSome_iff, names, List.map_reverse, List.mem_reverse]
  exact List.mem_eraseDups.mp hname

theorem lookup_gathered (things : Named α) (name : String) :
    things.gathered.lookup name = things.reverse.lookup name := by
  rw [gathered, lookup_filterMap_answer]
  split
  · rfl
  · rename_i h
    refine ((lookup_eq_none_iff _ _).mpr ?_).symm
    rw [names, List.map_reverse, List.mem_reverse]
    exact fun hmem => h (List.mem_eraseDups.mpr hmem)

/-- What is gathered from a row is in the row. -/
theorem mem_of_mem_gathered {things : Named α} {thing : String × α} (h : thing ∈ things.gathered) :
    thing ∈ things := by
  obtain ⟨name, -, hlookup⟩ := List.mem_filterMap.mp h
  obtain ⟨a, ha, rfl⟩ := Option.map_eq_some_iff.mp hlookup
  exact List.mem_reverse.mp (mem_of_lookup ha)

/-- Putting things one after the other leaves each name once, where it was first used, with the last
thing under it. -/
theorem ofList_eq_gathered (things : Named α) : ofList things = gathered things := by
  refine ext_of_lookup ?_ ?_ fun name => ?_
  · rw [names_ofList]
    exact nodup_eraseDups _
  · rw [names_ofList, names_gathered]
  · rw [lookup_ofList, lookup_gathered]

example : gathered [("mode", 1), ("force", 2), ("mode", 3)] = [("mode", 3), ("force", 2)] := by decide

/-- Things whose names differ are left as they are. -/
theorem ofList_of_nodup {things : Named α} (h : (names things).Nodup) :
    ofList things = things := by
  induction things using List.reverseRecOn with
  | nil => rfl
  | append_singleton things thing ih =>
    obtain ⟨name, a⟩ := thing
    rw [names_append, List.nodup_append] at h
    have hnew : name ∉ names things := fun hmem => h.2.2 name hmem name (by simp) rfl
    rw [ofList_concat, ih h.1, assign_of_not_mem]
    exact hnew

end Named

end PluginDescriptor
