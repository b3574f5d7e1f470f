import PluginDescriptor.Proofs.Version.Opposite

/-!
# Numbers with points between them

A version may be a row of numbers with points between them. Its tokens are then the digits of these
numbers and the points (`Version.tokenList_dotted`), and two such versions compare as the rows of
their numbers do (`Version.order_dotted`). Zero is the one number that is not compared as a number,
since its only digit is a zero in front: as a text it comes before the digits of all others.
-/

set_option autoImplicit false

namespace PluginDescriptor

namespace Version

/-- Numbers in decimal digits, with points between them. -/
def dotted (ns : List Nat) : String := Text.join "." (ns.map toString)

/-! ## The digits of a number as a token -/

theorem isRun_toDigits (n : Nat) : IsRun (Nat.toDigits 10 n) := by
  have hdigits : ∀ c, c.isDigit = false → Nat.toDigits 10 n ≠ [c] := by
    intro c hc h
    have hdigit : c.isDigit = true := Text.isDigit_of_mem_toDigits (h ▸ List.mem_singleton_self c)
    rw [hc] at hdigit
    cases hdigit
  exact ⟨hdigits '-' rfl, hdigits '.' rfl⟩

theorem isNumeral_toDigits {n : Nat} (h : n ≠ 0) : isNumeral (Nat.toDigits 10 n) = true :=
  isNumeral_iff.mpr ⟨Nat.toDigits_ne_nil, fun _ hc => Text.isDigit_of_mem_toDigits hc,
    Text.head?_toDigits_ne h⟩

theorem numeral_toDigits {n : Nat} (h : n ≠ 0)
    (hshort : (Nat.toDigits 10 n).length ≤ Text.maxDigits) :
    numeral (Nat.toDigits 10 n) = .ok (n : Int) := by
  rw [numeral_of_isNumeral (isNumeral_toDigits h), if_neg (by omega), Text.digitsValue_toDigits]

/-- Zero is compared as a text, and comes before all other numbers. -/
theorem compareToken_zero {n : Nat} (h : n ≠ 0) :
    compareToken (Nat.toDigits 10 0) (Nat.toDigits 10 n) = .ok .lt := by
  have hunread : ¬ AreRead (Nat.toDigits 10 0) (Nat.toDigits 10 n) := fun hread =>
    hread.2.2.1 rfl
  have hnumeral := isNumeral_toDigits h
  have hone : compare ['0'] ['1'] = .lt := rfl
  have hlt : compare ['0'] (Nat.toDigits 10 n) = .lt :=
    Std.TransCmp.lt_of_lt_of_isLE hone (isLE_compare_one hnumeral)
  rw [compareToken_of_isRun (isRun_toDigits 0) (isRun_toDigits n), if_neg hunread,
    folded_numeral hnumeral]
  exact congrArg Except.ok hlt

/-- The digits of two numbers compare as the numbers do. -/
theorem compareToken_toDigits {m n : Nat} (h : m ≠ n)
    (hm : (Nat.toDigits 10 m).length ≤ Text.maxDigits)
    (hn : (Nat.toDigits 10 n).length ≤ Text.maxDigits) :
    compareToken (Nat.toDigits 10 m) (Nat.toDigits 10 n) = .ok (compare m n) := by
  by_cases hmzero : m = 0
  · subst hmzero
    have hlt : compare 0 n = .lt := Nat.compare_eq_lt.mpr (Nat.pos_of_ne_zero h.symm)
    rw [compareToken_zero h.symm, hlt]
  by_cases hnzero : n = 0
  · subst hnzero
    have hgt : compare m 0 = .gt := Nat.compare_eq_gt.mpr (Nat.pos_of_ne_zero h)
    have hdigits : Nat.toDigits 10 0 ≠ Nat.toDigits 10 m := fun hsame =>
      h (Text.toDigits_injective hsame.symm)
    rw [(areOpposite_compareToken hdigits).eq_ok (compareToken_zero h), hgt]
    rfl
  have hread : AreRead (Nat.toDigits 10 m) (Nat.toDigits 10 n) :=
    areRead_of_isNumeral (isNumeral_toDigits hmzero) (isNumeral_toDigits hnzero)
  rw [compareToken_of_isRun (isRun_toDigits m) (isRun_toDigits n), if_pos hread,
    numeral_toDigits hmzero hm, numeral_toDigits hnzero hn, ← compare_natCast]
  rfl

/-! ## The tokens of a row of numbers -/

/-- The digits of numbers, with points between them. -/
def dottedTokens (ns : List Nat) : List (List Char) :=
  (ns.map (Nat.toDigits 10)).intersperse ['.']

theorem dottedTokens_cons_cons (n next : Nat) (ns : List Nat) :
    dottedTokens (n :: next :: ns) = Nat.toDigits 10 n :: ['.'] :: dottedTokens (next :: ns) := by
  unfold dottedTokens
  rw [List.map_cons, List.map_cons, List.intersperse_cons_cons]

theorem toList_dotted (ns : List Nat) : (dotted ns).toList = (dottedTokens ns).flatten := by
  unfold dotted Text.join dottedTokens
  rw [String.toList_intercalate, List.map_map]
  have hdigits : String.toList ∘ toString = Nat.toDigits 10 := by
    funext n
    exact Nat.toList_repr
  rw [hdigits]
  rfl

theorem charClass_of_mem_toDigits {n : Nat} {c : Char} (h : c ∈ Nat.toDigits 10 n) :
    charClass c = .digit :=
  charClass_of_isDecimal (Text.isDecimal_of_isDigit (Text.isDigit_of_mem_toDigits h))

theorem isRunOf_toDigits (n : Nat) : IsRunOf .digit (Nat.toDigits 10 n) :=
  ⟨Nat.toDigits_ne_nil, fun _ hc => charClass_of_mem_toDigits hc⟩

/-- The tokens are the digits of the numbers and the points between them. -/
theorem tokenList_dotted (ns : List Nat) : tokenList (dotted ns).toList = dottedTokens ns := by
  rw [toList_dotted]
  induction ns with
  | nil => rfl
  | cons n ns ih =>
    have hdigits : IsRunOf .digit (Nat.toDigits 10 n) := isRunOf_toDigits n
    cases ns with
    | nil => exact tokenList_append (by decide) hdigits fun d hd => by cases hd
    | cons next ns =>
      rw [dottedTokens_cons_cons, List.flatten_cons, List.flatten_cons,
        tokenList_append (by decide) hdigits, List.singleton_append, tokenList,
        consToken_of_separator rfl, ih]
      intro d hd
      cases hd
      exact CharClass.noConfusion

/-! ## Rows of numbers -/

/-- What comes before a number in the tokens depends on the numbers before it alone. -/
theorem exists_dottedTokens_eq (common : List Nat) :
    ∃ before, ∀ n ns, ∃ rest, dottedTokens (common ++ n :: ns) =
      before ++ Nat.toDigits 10 n :: rest := by
  induction common with
  | nil =>
    refine ⟨[], fun n ns => ?_⟩
    cases ns with
    | nil => exact ⟨[], rfl⟩
    | cons next ns => exact ⟨_, dottedTokens_cons_cons n next ns⟩
  | cons m common ih =>
    obtain ⟨before, hbefore⟩ := ih
    refine ⟨Nat.toDigits 10 m :: ['.'] :: before, fun n ns => ?_⟩
    obtain ⟨rest, hrest⟩ := hbefore n ns
    refine ⟨rest, ?_⟩
    obtain ⟨next, others, hothers⟩ : ∃ next others, common ++ n :: ns = next :: others :=
      List.exists_cons_of_ne_nil (List.append_ne_nil_of_right_ne_nil common (List.cons_ne_nil n ns))
    rw [List.cons_append, hothers, dottedTokens_cons_cons, ← hothers, hrest]
    rfl

/-- More numbers give more tokens. -/
theorem exists_dottedTokens_append (ns : List Nat) {more : List Nat} (h : more ≠ []) :
    ∃ rest, rest ≠ [] ∧ dottedTokens (ns ++ more) = dottedTokens ns ++ rest := by
  induction ns with
  | nil =>
    obtain ⟨n, ns, rfl⟩ := List.exists_cons_of_ne_nil h
    refine ⟨dottedTokens (n :: ns), ?_, rfl⟩
    cases ns <;> exact List.cons_ne_nil _ _
  | cons m ns ih =>
    cases ns with
    | nil =>
      obtain ⟨n, others, rfl⟩ := List.exists_cons_of_ne_nil h
      exact ⟨_, List.cons_ne_nil _ _, dottedTokens_cons_cons m n others⟩
    | cons next ns =>
      obtain ⟨rest, hne, hrest⟩ := ih
      refine ⟨rest, hne, ?_⟩
      rw [List.cons_append, List.cons_append, dottedTokens_cons_cons, ← List.cons_append, hrest,
        dottedTokens_cons_cons]
      rfl

/-- A row of numbers comes before every one that goes on from it. -/
theorem order_dotted_append (ns : List Nat) {more : List Nat} (h : more ≠ []) :
    order (dotted ns) (dotted (ns ++ more)) = .ok .lt := by
  obtain ⟨rest, hne, hrest⟩ := exists_dottedTokens_append ns h
  have hbegins : tokenList (dotted ns).toList <+: tokenList (dotted (ns ++ more)).toList := by
    rw [tokenList_dotted, tokenList_dotted]
    exact ⟨rest, hrest.symm⟩
  have hranks : ranks (dotted (ns ++ more)) = ranks (dotted ns) ++ rest.map rank := by
    unfold ranks
    rw [tokenList_dotted, tokenList_dotted, hrest, List.map_append]
  rw [order_of_begins (.inl hbegins), ← rankOrder_of_begins hbegins, rankOrder, hranks,
    compareLex_append_right _ _ (by simpa using hne)]

theorem order_dotted_of_begins {ms ns : List Nat} (h : ms <+: ns) :
    order (dotted ms) (dotted ns) = .ok (compare ms ns) := by
  obtain ⟨more, rfl⟩ := h
  by_cases hmore : more = []
  · subst hmore
    have htext : compare (dotted ms) (dotted ms) = .eq := Std.ReflCmp.compare_self
    have hrow : compare ms ms = .eq := Std.ReflCmp.compare_self
    rw [List.append_nil, order_of_begins (.inl List.prefix_rfl), textOrder, htext, hrow]
  · rw [order_dotted_append ms hmore, List.compare_eq_compareLex,
      compareLex_append_right ms more hmore]

/-- Numbers of at most 4300 digits, with points between them, compare as the rows of the numbers do:
by the first numbers that differ, and a row comes before those that go on from it. -/
theorem order_dotted {ms ns : List Nat} (hms : ∀ m ∈ ms, (toString m).length ≤ Text.maxDigits)
    (hns : ∀ n ∈ ns, (toString n).length ≤ Text.maxDigits) :
    order (dotted ms) (dotted ns) = .ok (compare ms ns) := by
  obtain (hbegins | hbegins) | ⟨common, m, ms', n, ns', rfl, rfl, hne⟩ := begins_or_parts ms ns
  · exact order_dotted_of_begins hbegins
  · have hswap : compare ms ns = (compare ns ms).swap := Std.OrientedCmp.eq_swap
    rw [(areOpposite_order _ _).eq_ok (order_dotted_of_begins hbegins), hswap]
  · have hlength : ∀ k : Nat, (toString k).length = (Nat.toDigits 10 k).length := fun k => by
      rw [← String.length_toList]
      exact congrArg List.length Nat.toList_repr
    have hm : (Nat.toDigits 10 m).length ≤ Text.maxDigits :=
      hlength m ▸ hms m List.mem_append_cons_self
    have hn : (Nat.toDigits 10 n).length ≤ Text.maxDigits :=
      hlength n ▸ hns n List.mem_append_cons_self
    have hdigits : Nat.toDigits 10 m ≠ Nat.toDigits 10 n := fun h => hne (Text.toDigits_injective h)
    have hcompare : compare m n ≠ .eq := fun h => hne (Nat.compare_eq_eq.mp h)
    obtain ⟨before, hbefore⟩ := exists_dottedTokens_eq common
    obtain ⟨rest, hrest⟩ := hbefore m ms'
    obtain ⟨rest', hrest'⟩ := hbefore n ns'
    rw [order_of_parts ((tokenList_dotted _).trans hrest) ((tokenList_dotted _).trans hrest') hdigits,
      compareToken_toDigits hne hm hn, List.compare_eq_compareLex, compareLex_of_parts hcompare]

theorem order_dotted_releases :
    (∀ m ∈ [1, 10, 0], (toString m).length ≤ Text.maxDigits) ∧
      (∀ n ∈ [1, 9], (toString n).length ≤ Text.maxDigits) ∧
      dotted [1, 10, 0] = "1.10.0" ∧ dotted [1, 9] = "1.9" ∧
      order "1.10.0" "1.9" = .ok .gt := by
  have hlonger : ∀ m ∈ [1, 10, 0], (toString m).length ≤ Text.maxDigits := by decide
  have hshorter : ∀ n ∈ [1, 9], (toString n).length ≤ Text.maxDigits := by decide
  have hgt : compare [1, 10, 0] [1, 9] = .gt := rfl
  have horder := order_dotted hlonger hshorter
  rw [hgt] at horder
  exact ⟨hlonger, hshorter, rfl, rfl, horder⟩

end Version

end PluginDescriptor
