import PluginDescriptor.Text.Split

/-!
# Cut texts

Cutting a text and putting its parts together undo each other: at the first separator
(`Text.cutAt_append`, `Text.cutAt_cases`), at every separator (`Text.splitAt_intercalate`,
`Text.intercalate_splitAt`), and behind a lead (`Text.dropLead?_eq_some_iff`).
-/

set_option autoImplicit false

namespace PluginDescriptor.Text

variable {sep : Char} {s rest : List Char}

/-! ## Leads -/

/-- What is left behind a lead is what follows it. -/
theorem dropLead?_eq_some_iff {lead : List Char} :
    dropLead? lead s = some rest ↔ s = lead ++ rest := by
  induction lead generalizing s with
  | nil => rw [dropLead?, Option.some.injEq, List.nil_append]
  | cons a lead ih =>
    cases s with
    | nil => simp [dropLead?]
    | cons b s =>
      rw [dropLead?, List.cons_append, List.cons.injEq]
      split
      · rename_i hab
        rw [ih, hab]
        simp
      · rename_i hab
        simp [Ne.symm hab]

/-! ## The first separator -/

theorem cutAt_of_not_mem (h : sep ∉ s) : cutAt sep s = (s, none) := by
  induction s with
  | nil => rfl
  | cons c s ih =>
    rw [List.mem_cons, not_or] at h
    rw [cutAt, if_neg (Ne.symm h.1), ih h.2]

theorem cutAt_append (h : sep ∉ s) (rest : List Char) :
    cutAt sep (s ++ sep :: rest) = (s, some rest) := by
  induction s with
  | nil => rw [List.nil_append, cutAt, if_pos rfl]
  | cons c s ih =>
    rw [List.mem_cons, not_or] at h
    rw [List.cons_append, cutAt, if_neg (Ne.symm h.1), ih h.2]

/-- A row has no separator, or it goes on behind the first one. -/
theorem cutAt_cases (sep : Char) (s : List Char) :
    (sep ∉ s ∧ cutAt sep s = (s, none)) ∨
      ∃ before rest, sep ∉ before ∧ s = before ++ sep :: rest ∧
        cutAt sep s = (before, some rest) := by
  by_cases h : sep ∈ s
  · obtain ⟨before, rest, rfl, hbefore⟩ := List.eq_append_cons_of_mem h
    exact .inr ⟨before, rest, hbefore, rfl, cutAt_append hbefore rest⟩
  · exact .inl ⟨h, cutAt_of_not_mem h⟩

/-! ## Every separator -/

theorem splitAt_eq_splitOn (sep : Char) (s : List Char) : splitAt sep s = s.splitOn sep := by
  induction s with
  | nil => rw [splitAt, List.splitOn_nil]
  | cons c s ih =>
    rw [splitAt, ih, List.splitOn_cons_eq_if_modifyHead]
    by_cases hc : c = sep
    · rw [if_pos hc, if_pos (beq_iff_eq.mpr hc)]
    · rw [if_neg hc, if_neg fun h => hc (beq_iff_eq.mp h)]
      cases hsplit : s.splitOn sep with
      | nil => exact (List.splitOn_ne_nil _ _ hsplit).elim
      | cons piece pieces => rfl

/-- A row in which the separator does not occur is not cut. -/
theorem splitAt_of_not_mem (h : sep ∉ s) : splitAt sep s = [s] := by
  rw [splitAt_eq_splitOn, List.splitOn_eq_singleton h]

/-- Pieces without a separator are what is between the separators that join them. -/
theorem splitAt_intercalate {pieces : List (List Char)} (h : ∀ piece ∈ pieces, sep ∉ piece)
    (hne : pieces ≠ []) : splitAt sep ([sep].intercalate pieces) = pieces := by
  rw [splitAt_eq_splitOn]
  exact List.splitOn_intercalate sep h hne

/-- A row is its pieces with separators between them. -/
theorem intercalate_splitAt (sep : Char) (s : List Char) :
    [sep].intercalate (splitAt sep s) = s := by
  rw [splitAt_eq_splitOn]
  exact List.intercalate_splitOn sep

/-- The pieces of a text, joined with the separator again. -/
theorem join_splitAt {sepText : String} (hsep : sepText.toList = [sep]) (text : String) :
    join sepText ((splitAt sep text.toList).map String.ofList) = text := by
  have hpieces : (splitAt sep text.toList).map (String.toList ∘ String.ofList) =
      splitAt sep text.toList := by
    simp [Function.comp_def]
  rw [← String.toList_inj, join, String.toList_intercalate, List.map_map, hpieces, hsep]
  exact intercalate_splitAt sep text.toList

/-- A separator cuts what is before it from what is behind it. -/
theorem splitAt_append (sep : Char) (s rest : List Char) :
    splitAt sep (s ++ sep :: rest) = splitAt sep s ++ splitAt sep rest := by
  rw [splitAt_eq_splitOn, splitAt_eq_splitOn, splitAt_eq_splitOn]
  exact List.splitOn_append_cons_self s rest

theorem splitAt_ne_nil (sep : Char) (s : List Char) : splitAt sep s ≠ [] := by
  rw [splitAt_eq_splitOn]
  exact List.splitOn_ne_nil _ _

/-- There is no separator in a piece. -/
theorem not_mem_of_mem_splitAt {piece : List Char} (h : piece ∈ splitAt sep s) : sep ∉ piece := by
  induction s generalizing piece with
  | nil =>
    rw [List.mem_singleton.mp h]
    exact List.not_mem_nil
  | cons c s ih =>
    rw [splitAt] at h
    split at h
    · rcases List.mem_cons.mp h with rfl | hrest
      · exact List.not_mem_nil
      · exact ih hrest
    · rename_i hc
      split at h
      · rw [List.mem_singleton.mp h, List.mem_singleton]
        exact Ne.symm hc
      · rename_i first pieces hsplit
        rcases List.mem_cons.mp h with rfl | hrest
        · rw [List.mem_cons, not_or]
          exact ⟨Ne.symm hc, ih (hsplit ▸ List.mem_cons_self)⟩
        · exact ih (hsplit ▸ List.mem_cons_of_mem _ hrest)

end PluginDescriptor.Text
