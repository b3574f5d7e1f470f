/-!
# Cutting texts

Texts are cut at a separator, joined with one, and counted in characters.
-/

set_option autoImplicit false

namespace PluginDescriptor.Text

/-- The rest of `s` after `lead`, when `s` begins with it. -/
def dropLead? (lead : List Char) (s : List Char) : Option (List Char) :=
  match lead, s with
  | [], s => some s
  | _ :: _, [] => none
  | a :: lead, b :: s => if a = b then dropLead? lead s else none

/-- Cut at the first `sep`: what is before it and what is after it, the latter `none` without one. -/
def cutAt (sep : Char) : List Char → List Char × Option (List Char)
  | [] => ([], none)
  | c :: rest =>
    if c = sep then ([], some rest)
    else ((c :: (cutAt sep rest).1), (cutAt sep rest).2)

/-- What is before the last `sep`, when there is one. -/
def beforeLast? (sep : Char) : List Char → Option (List Char)
  | [] => none
  | c :: rest =>
    match beforeLast? sep rest with
    | some before => some (c :: before)
    | none => if c = sep then some [] else none

theorem beforeLast?_eq_none_iff (sep : Char) (s : List Char) :
    beforeLast? sep s = none ↔ sep ∉ s := by
  induction s with
  | nil => simp [beforeLast?]
  | cons c rest ih =>
    rw [beforeLast?, List.mem_cons, not_or, ← ih]
    cases beforeLast? sep rest with
    | some before => simp
    | none => simp [eq_comm]

/-- The last separator is followed by a text without one. -/
theorem beforeLast?_eq_some_iff (sep : Char) (s before : List Char) :
    beforeLast? sep s = some before ↔ ∃ after, s = before ++ sep :: after ∧ sep ∉ after := by
  induction s generalizing before with
  | nil => simp [beforeLast?]
  | cons c rest ih =>
    rw [beforeLast?]
    constructor
    · intro h
      cases hrest : beforeLast? sep rest with
      | some inner =>
        rw [hrest] at h
        cases h
        obtain ⟨after, rfl, hafter⟩ := (ih inner).mp hrest
        exact ⟨after, rfl, hafter⟩
      | none =>
        rw [hrest] at h
        by_cases hc : c = sep
        · subst hc
          rw [if_pos rfl] at h
          cases h
          exact ⟨rest, rfl, (beforeLast?_eq_none_iff c rest).mp hrest⟩
        · rw [if_neg hc] at h
          cases h
    · rintro ⟨after, hs, hafter⟩
      cases before with
      | nil =>
        obtain ⟨rfl, rfl⟩ := List.cons.inj hs
        rw [(beforeLast?_eq_none_iff c rest).mpr hafter, if_pos rfl]
      | cons d inner =>
        obtain ⟨rfl, hrest⟩ := List.cons.inj hs
        rw [(ih inner).mpr ⟨after, hrest, hafter⟩]

/-- The pieces between the occurrences of `sep`; there is always at least one. -/
def splitAt (sep : Char) : List Char → List (List Char)
  | [] => [[]]
  | c :: rest =>
    if c = sep then [] :: splitAt sep rest
    else
      match splitAt sep rest with
      | [] => [[c]]
      | piece :: pieces => (c :: piece) :: pieces

/-- The characters of `part` occur in a row in `s`. -/
def containsRow (part : List Char) : List Char → Bool
  | [] => part.isEmpty
  | c :: rest => (dropLead? part (c :: rest)).isSome || containsRow part rest

/-- The texts with `sep` between neighbours. -/
def join (sep : String) (texts : List String) : String := String.intercalate sep texts

/-- `n` copies of a text in a row. -/
def replicate (n : Nat) (s : String) : String := String.join (List.replicate n s)

/-- The text begins with `lead`. -/
def hasLead (lead s : String) : Bool := (dropLead? lead.toList s.toList).isSome

end PluginDescriptor.Text
