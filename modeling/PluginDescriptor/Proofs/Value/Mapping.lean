import PluginDescriptor.Proofs.Fields
import PluginDescriptor.Proofs.Value.Essence

/-!
# Mappings

Entries are a mapping when each of their keys can be a key and equals no other one, and when the
mappings under their keys are mappings in turn (`Entries.IsMapping`). In a mapping, what is put under
a key is found there and nothing else changes (`Fields.get?_put`).
-/

set_option autoImplicit false

namespace PluginDescriptor

namespace Fields

variable {α : Type}

/-- Each key can be a key: it holds nothing that may still change. -/
def Keyed (entries : Fields α) : Prop := ∀ entry ∈ entries, entry.1.changeable? = none

theorem keyed_cons_iff {entry : Value × α} {rest : Fields α} :
    Keyed (entry :: rest) ↔ entry.1.changeable? = none ∧ Keyed rest :=
  List.forall_mem_cons

theorem Keyed.put {entries : Fields α} (h : entries.Keyed) {key : Value}
    (hkey : key.changeable? = none) (a : α) : (entries.put key a).Keyed := by
  intro entry hentry
  have hmem : entry.1 ∈ (entries.put key a).map (·.1) := List.mem_map.mpr ⟨entry, hentry, rfl⟩
  rcases mem_keys_put hmem with hkept | hnew
  · obtain ⟨other, hother, hk⟩ := List.mem_map.mp hkept
    rw [← hk]
    exact h other hother
  · rw [hnew]
    exact hkey

/-- Equal keys find the same. -/
theorem get?_congr {entries : Fields α} (h : entries.Keyed) {key p : Value}
    (hkey : key.changeable? = none) (hsame : p.same key = true) :
    entries.get? p = entries.get? key := by
  induction entries with
  | nil => rfl
  | cons entry rest ih =>
    obtain ⟨k, b⟩ := entry
    obtain ⟨hk, hrest⟩ := keyed_cons_iff.mp h
    rw [get?_cons, get?_cons, ih hrest, Value.same_congr_left hkey hk hsame]

/-- Where keys are apart, what is under a key is what stands with an equal one. -/
theorem get?_eq_some_iff {entries : Fields α} (hkeyed : entries.Keyed)
    (hapart : entries.Apart) {key : Value} {a : α} :
    entries.get? key = some a ↔ ∃ k, (k, a) ∈ entries ∧ key.same k = true := by
  induction entries with
  | nil => simp [get?]
  | cons first rest ih =>
    obtain ⟨k, b⟩ := first
    obtain ⟨hk, hrest⟩ := keyed_cons_iff.mp hkeyed
    obtain ⟨hothers, hapartRest⟩ := List.pairwise_cons.mp hapart
    rw [get?_cons]
    by_cases hsame : key.same k = true
    · -- a later key that equals it as well would equal the first one
      have hlater : ∀ l c, (l, c) ∈ rest → ¬ key.same l = true := by
        intro l c hmem hsameLater
        have hequal := Value.same_of_same (hrest _ hmem) hk hsameLater hsame
        have hapartLater := hothers l (List.mem_map_of_mem hmem)
        rw [hequal] at hapartLater
        cases hapartLater
      rw [if_pos hsame, Option.some.injEq]
      constructor
      · rintro rfl
        exact ⟨k, List.mem_cons_self, hsame⟩
      · rintro ⟨l, hmem, hsameLater⟩
        rcases List.mem_cons.mp hmem with heq | hmem
        · exact (congrArg Prod.snd heq).symm
        · exact (hlater l a hmem hsameLater).elim
    · rw [if_neg hsame, ih hrest hapartRest]
      constructor
      · rintro ⟨l, hmem, hsameLater⟩
        exact ⟨l, List.mem_cons_of_mem _ hmem, hsameLater⟩
      · rintro ⟨l, hmem, hsameLater⟩
        rcases List.mem_cons.mp hmem with heq | hmem
        · cases heq
          exact (hsame hsameLater).elim
        · exact ⟨l, hmem, hsameLater⟩

/-- What is put under a key is found under each equal key, and all else stays where it was. -/
theorem get?_put {entries : Fields α} (h : entries.Keyed) {key : Value}
    (hkey : key.changeable? = none) (a : α) (p : Value) :
    (entries.put key a).get? p = if p.same key = true then some a else entries.get? p := by
  induction entries with
  | nil => exact get?_cons key p a []
  | cons entry rest ih =>
    obtain ⟨k, b⟩ := entry
    obtain ⟨hk, hrest⟩ := keyed_cons_iff.mp h
    rw [put]
    split
    · rename_i hsame
      rw [get?_cons, get?_cons, Value.same_congr hkey hk hsame p]
      split <;> rfl
    · rename_i hother
      rw [get?_cons, get?_cons, ih hrest]
      by_cases hpk : p.same k = true
      · -- a value that equals both keys would make them equal
        have hpkey : ¬ p.same key = true := fun hp => hother (Value.same_of_same hkey hk hp hpk)
        rw [if_pos hpk, if_neg hpkey, if_pos hpk]
      · rw [if_neg hpk, if_neg hpk]

end Fields

/-- Entries that are put into others have the keys and the values of both. -/
theorem Entries.forall_putAll {P : Value → Prop} {entries more : Entries}
    (h : ∀ entry ∈ entries, entry.1.changeable? = none ∧ P entry.2)
    (hmore : ∀ entry ∈ more, entry.1.changeable? = none ∧ P entry.2) :
    ∀ entry ∈ entries.putAll more, entry.1.changeable? = none ∧ P entry.2 := by
  induction more generalizing entries with
  | nil => exact h
  | cons first rest ih =>
    obtain ⟨hfirst, hrest⟩ := List.forall_mem_cons.mp hmore
    have hkeyed : entries.Keyed := fun entry hentry => (h entry hentry).1
    refine ih (fun entry hentry => ⟨hkeyed.put hfirst.1 first.2 entry hentry, ?_⟩) hrest
    rcases Fields.mem_put hentry with hkept | ⟨hnew, -⟩
    · exact (h entry hkept).2
    · exact hnew ▸ hfirst.2

/-! ## Well-formed mappings -/

/-- Entries that make up a mapping, at all depths. -/
inductive Entries.IsMapping : Entries → Prop where
  | intro {entries : Entries} (keyed : entries.Keyed) (apart : entries.Apart)
      (nested : ∀ entry ∈ entries, ∀ inner, entry.2 = .map inner → IsMapping inner) :
      IsMapping entries

namespace Value

/-- A value that is a mapping is a well-formed one. -/
def IsProper (v : Value) : Prop := ∀ entries, v = .map entries → Entries.IsMapping entries

theorem isProper_map_iff {entries : Entries} : (Value.map entries).IsProper ↔ entries.IsMapping := by
  constructor
  · exact fun h => h entries rfl
  · intro h inner hinner
    cases hinner
    exact h

/-- What can be a key is no mapping. -/
theorem isProper_of_key {v : Value} (h : v.changeable? = none) : v.IsProper := by
  rintro entries rfl
  cases h

end Value

namespace Entries.IsMapping

variable {entries : Entries}

theorem nil : IsMapping [] := ⟨by simp [Fields.Keyed], List.Pairwise.nil, by simp⟩

theorem keyed (h : entries.IsMapping) : entries.Keyed := by
  cases h
  assumption

theorem apart (h : entries.IsMapping) : entries.Apart := by
  cases h
  assumption

theorem nested (h : entries.IsMapping) : ∀ entry ∈ entries, entry.2.IsProper := by
  cases h
  assumption

/-- What is under a key is well-formed. -/
theorem get? (h : entries.IsMapping) {p v : Value} (hv : Fields.get? entries p = some v) :
    v.IsProper := by
  obtain ⟨entry, hentry, rfl⟩ := Option.map_eq_some_iff.mp hv
  exact h.nested entry (List.mem_of_find?_eq_some hentry)

theorem put (h : entries.IsMapping) {key v : Value} (hkey : key.changeable? = none)
    (hv : v.IsProper) : IsMapping (Fields.put entries key v) := by
  refine ⟨h.keyed.put hkey v, h.apart.put key v, fun entry hentry => ?_⟩
  rcases Fields.mem_put hentry with hkept | ⟨hnew, -⟩
  · exact h.nested entry hkept
  · rw [hnew]
    exact hv

/-- Entries that are put into a mapping one after the other leave a mapping. -/
theorem putAll (h : entries.IsMapping) {more : List (Value × Value)}
    (hmore : ∀ entry ∈ more, entry.1.changeable? = none ∧ entry.2.IsProper) :
    IsMapping (Entries.putAll entries more) := by
  induction more generalizing entries with
  | nil => exact h
  | cons entry rest ih =>
    obtain ⟨hentry, hrest⟩ := List.forall_mem_cons.mp hmore
    exact ih (h.put hentry.1 hentry.2) hrest

end Entries.IsMapping

end PluginDescriptor
