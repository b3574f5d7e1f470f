import PluginDescriptor.Proofs.Version.Order

/-!
# Comparing the other way round

Two versions that are compared the other way round give the opposite result, or no result in either
direction (`Version.order_opposite`). This holds of all texts, whatever their digits and letters: the
comparison stops at the same two tokens, the separators have their places whichever comes first, and
whether two tokens are read as numbers does not depend on their order.
-/

set_option autoImplicit false

namespace PluginDescriptor

namespace Version

/-- What comparing two things and comparing them the other way round give: opposite results, or the
fault in both of digits that form no number. -/
inductive AreOpposite : Except Fault Ordering → Except Fault Ordering → Prop where
  | results (o : Ordering) : AreOpposite (.ok o) (.ok o.swap)
  | faults (text other : String) : AreOpposite (.error (.badValue text)) (.error (.badValue other))

theorem AreOpposite.symm {x y : Except Fault Ordering} (h : AreOpposite x y) :
    AreOpposite y x := by
  cases h with
  | results o =>
    have hback := AreOpposite.results o.swap
    rwa [Ordering.swap_swap] at hback
  | faults text other => exact .faults other text

theorem AreOpposite.eq_ok {x y : Except Fault Ordering} {o : Ordering} (h : AreOpposite x y)
    (hx : x = .ok o) : y = .ok o.swap := by
  subst hx
  cases h
  rfl

theorem areOpposite_compare {α : Type} [Ord α] [Std.OrientedOrd α] (a b : α) :
    AreOpposite (.ok (compare a b)) (.ok (compare b a)) := by
  have hswap : compare b a = (compare a b).swap := Std.OrientedCmp.eq_swap
  rw [hswap]
  exact .results _

/-! ## Tokens -/

/-- A dash comes before every other token, from either side. -/
theorem areOpposite_dash {y : List Char} (h : y ≠ ['-']) :
    AreOpposite (compareToken ['-'] y) (compareToken y ['-']) := by
  rw [compareToken_dash_left, compareToken_dash_right h]
  exact .results .lt

/-- A point comes before every run, from either side. -/
theorem areOpposite_point {y : List Char} (h : IsRun y) :
    AreOpposite (compareToken ['.'] y) (compareToken y ['.']) := by
  rw [compareToken_point_left h.1, compareToken_point_right h]
  exact .results .lt

theorem AreRead.symm {x y : List Char} (h : AreRead x y) : AreRead y x :=
  ⟨h.2.1, h.1, h.2.2.2, h.2.2.1⟩

/-- A run of digits is a number, or it is at fault. -/
theorem numeral_eq_ok_or (token : List Char) :
    (∃ n, numeral token = .ok n) ∨ ∃ text, numeral token = .error (.badValue text) := by
  unfold numeral
  dsimp only
  cases Text.readInt 10 (String.ofList token) with
  | ok n => exact .inl ⟨n, rfl⟩
  | error fault => exact .inr ⟨_, rfl⟩

/-- Two runs are read as numbers in both directions or in neither. -/
theorem areOpposite_runs {x y : List Char} (hx : IsRun x) (hy : IsRun y) :
    AreOpposite (compareToken x y) (compareToken y x) := by
  rw [compareToken_of_isRun hx hy, compareToken_of_isRun hy hx]
  by_cases hread : AreRead x y
  · rw [if_pos hread, if_pos hread.symm]
    obtain ⟨m, hm⟩ | ⟨text, htext⟩ := numeral_eq_ok_or x
    · rw [hm]
      obtain ⟨n, hn⟩ | ⟨text, htext⟩ := numeral_eq_ok_or y
      · rw [hn]
        exact areOpposite_compare m n
      · rw [htext]
        exact .faults text text
    · rw [htext]
      obtain ⟨n, hn⟩ | ⟨other, hother⟩ := numeral_eq_ok_or y
      · rw [hn]
        exact .faults text text
      · rw [hother]
        exact .faults text other
  · have hunread : ¬ AreRead y x := fun h => hread h.symm
    rw [if_neg hread, if_neg hunread]
    exact areOpposite_compare _ _

theorem areOpposite_compareToken {x y : List Char} (h : x ≠ y) :
    AreOpposite (compareToken x y) (compareToken y x) := by
  by_cases hxdash : x = ['-']
  · subst hxdash
    exact areOpposite_dash h.symm
  by_cases hydash : y = ['-']
  · subst hydash
    exact (areOpposite_dash h).symm
  by_cases hxpoint : x = ['.']
  · subst hxpoint
    exact areOpposite_point ⟨hydash, h.symm⟩
  by_cases hypoint : y = ['.']
  · subst hypoint
    exact (areOpposite_point ⟨hxdash, h⟩).symm
  exact areOpposite_runs ⟨hxdash, hxpoint⟩ ⟨hydash, hypoint⟩

/-! ## Versions -/

theorem areOpposite_order (a b : String) : AreOpposite (order a b) (order b a) := by
  obtain hpre | ⟨common, x, xs, y, ys, hx, hy, hxy⟩ :=
    begins_or_parts (tokenList a.toList) (tokenList b.toList)
  · rw [order_of_begins hpre, order_of_begins hpre.symm]
    exact areOpposite_compare a b
  · rw [order_of_parts hx hy hxy, order_of_parts hy hx hxy.symm]
    exact areOpposite_compareToken hxy

theorem orderNumber_swap (o : Ordering) : orderNumber o.swap = -orderNumber o := by
  cases o <;> rfl

/-- Of two versions that are compared, one meets the other as its minimum. -/
theorem satisfies_or {a b : String} {met metBack : Bool} (h : satisfies a b = .ok met)
    (hback : satisfies b a = .ok metBack) : met = true ∨ metBack = true := by
  by_contra hneither
  rw [not_or, Bool.not_eq_true, Bool.not_eq_true] at hneither
  obtain ⟨rfl, rfl⟩ := hneither
  -- what is refused is no development build, so both refusals come from the comparison
  have hless : ∀ {c d : String}, satisfies c d = .ok false → order c d = .ok .lt := by
    intro c d hrefused
    have hrelease : c ≠ development := by
      rintro rfl
      cases hrefused
    cases horder : order c d with
    | error fault =>
      have hdev : ¬ isDevelopment c = true := by simpa [isDevelopment] using hrelease
      rw [satisfies, if_neg hdev, horder] at hrefused
      cases hrefused
    | ok o =>
      rw [satisfies_of_order hrelease horder] at hrefused
      cases o with
      | lt => rfl
      | eq => cases hrefused
      | gt => cases hrefused
  have hopposite := areOpposite_order a b
  rw [hless h, hless hback] at hopposite
  cases hopposite

/-- Any two versions, compared in both directions, give opposite results, also as numbers, or the
fault of digits that form no number in both; and where neither of the two is a fault, one of them
meets the other as its minimum. -/
theorem order_opposite (a b : String) :
    ((∃ o, order a b = .ok o ∧ order b a = .ok o.swap ∧ compareNumber a b = .ok (orderNumber o) ∧
        compareNumber b a = .ok (-orderNumber o)) ∨
      ∃ text other, order a b = .error (.badValue text) ∧ order b a = .error (.badValue other) ∧
        compareNumber a b = .error (.badValue text) ∧
        compareNumber b a = .error (.badValue other)) ∧
    ∀ met metBack, satisfies a b = .ok met → satisfies b a = .ok metBack →
      met = true ∨ metBack = true := by
  refine ⟨?_, fun met metBack => satisfies_or⟩
  have hopposite := areOpposite_order a b
  unfold compareNumber
  generalize order a b = forth at hopposite
  generalize order b a = back at hopposite
  cases hopposite with
  | results o => exact .inl ⟨o, rfl, rfl, rfl, congrArg Except.ok (orderNumber_swap o)⟩
  | faults text other => exact .inr ⟨text, other, rfl, rfl, rfl, rfl⟩

/-- Signs that name a digit are digits in both directions, and form no number in either. -/
example : (order "²" "³").toOption = none ∧ (order "³" "²").toOption = none := by decide +kernel

end Version

end PluginDescriptor
