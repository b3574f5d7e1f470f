import PluginDescriptor.Proofs.Version.Rank

/-!
# The order of versions

Versions compare as the ranks of their tokens do, row by row, wherever the comparison has a result
and tells different texts apart (`rankOrder_eq`). Two things follow. On versions in capitals the
comparison is a linear order (`order_linear`). And a host that is replaced by a later one still
meets what it met before (`satisfies_of_later`), unless some comparison calls different texts equal.
-/

set_option autoImplicit false

namespace PluginDescriptor

namespace Version

/-! ## Rows of ranks -/

section

variable {α : Type} {cmp : α → α → Ordering}

theorem compareLex_append [Std.ReflCmp cmp] (common as bs : List α) :
    List.compareLex cmp (common ++ as) (common ++ bs) = List.compareLex cmp as bs := by
  induction common with
  | nil => rfl
  | cons a common ih =>
    have hself : cmp a a = .eq := Std.ReflCmp.compare_self
    rw [List.cons_append, List.cons_append, List.compareLex_cons_cons, hself]
    exact ih

theorem compareLex_of_parts [Std.ReflCmp cmp] {x y : α} (h : cmp x y ≠ .eq)
    (common xs ys : List α) :
    List.compareLex cmp (common ++ x :: xs) (common ++ y :: ys) = cmp x y := by
  rw [compareLex_append, List.compareLex_cons_cons]
  cases hcase : cmp x y with
  | lt => rfl
  | eq => exact (h hcase).elim
  | gt => rfl

theorem compareLex_append_right [Std.ReflCmp cmp] (as rest : List α) (h : rest ≠ []) :
    List.compareLex cmp as (as ++ rest) = .lt := by
  have happend : List.compareLex cmp (as ++ []) (as ++ rest) = List.compareLex cmp [] rest :=
    compareLex_append as [] rest
  rw [List.append_nil] at happend
  rw [happend]
  cases rest with
  | nil => exact (h rfl).elim
  | cons a rest => exact List.compareLex_nil_cons

end

/-- The order of two versions by the ranks of their tokens. -/
def rankOrder (a b : String) : Ordering := List.compareLex Rank.order (ranks a) (ranks b)

instance : Std.TransCmp rankOrder where
  eq_swap := by
    intro a b
    unfold rankOrder
    exact Std.OrientedCmp.eq_swap
  isLE_trans := by
    intro a b c
    unfold rankOrder
    exact Std.TransCmp.isLE_trans

/-- Where one version begins the other, ranks and texts tell the same. -/
theorem rankOrder_of_begins {a b : String} (h : tokenList a.toList <+: tokenList b.toList) :
    rankOrder a b = textOrder a b := by
  obtain ⟨rest, hrest⟩ := h
  have hranks : ranks b = ranks a ++ rest.map rank := by
    unfold ranks
    rw [← hrest, List.map_append]
  have htext : b.toList = a.toList ++ rest.flatten := by
    rw [← flatten_tokenList b.toList, ← hrest, List.flatten_append, flatten_tokenList]
  unfold rankOrder
  rw [textOrder_eq, hranks, htext, List.compare_eq_compareLex]
  cases rest with
  | nil => simp [Std.ReflCmp.compare_self]
  | cons token rest =>
    have htoken : IsToken token :=
      isToken_of_mem_tokenList token (hrest ▸ List.mem_append_right _ List.mem_cons_self)
    have hflat : (token :: rest).flatten ≠ [] := by
      intro hnil
      rw [List.flatten_cons, List.append_eq_nil_iff] at hnil
      exact htoken.ne_nil hnil.1
    rw [compareLex_append_right _ _ (by simp), compareLex_append_right _ _ hflat]

/-- Versions that part compare as the ranks of the tokens where they do. -/
theorem order_rank_of_parts {a b : String} (ha : HasPlainDigits a.toList)
    (hb : HasPlainDigits b.toList) {common xs ys : List (List Char)} {x y : List Char}
    (hx : tokenList a.toList = common ++ x :: xs) (hy : tokenList b.toList = common ++ y :: ys)
    (hxy : x ≠ y) {o : Ordering} (h : order a b = .ok o) : Rank.order (rank x) (rank y) = o := by
  have hxmem : x ∈ tokenList a.toList := by simp [hx]
  have hymem : y ∈ tokenList b.toList := by simp [hy]
  have hxplain : HasPlainDigits x := fun c hc => ha c (mem_of_mem_tokenList hxmem hc)
  have hyplain : HasPlainDigits y := fun c hc => hb c (mem_of_mem_tokenList hymem hc)
  rw [order_of_parts hx hy hxy] at h
  exact order_rank_of_compareToken (isToken_of_mem_tokenList x hxmem)
    (isToken_of_mem_tokenList y hymem) hxy hxplain hyplain h

/-- Where the comparison has a result, and says equal only of one text, it is that of the ranks. -/
theorem rankOrder_eq {a b : String} (ha : HasPlainDigits a.toList) (hb : HasPlainDigits b.toList)
    {o : Ordering} (h : order a b = .ok o) (hsame : o = .eq → a = b) : rankOrder a b = o := by
  obtain (hpre | hpre) | ⟨common, x, xs, y, ys, hx, hy, hxy⟩ :=
    begins_or_parts (tokenList a.toList) (tokenList b.toList)
  · rw [order_of_begins (.inl hpre)] at h
    rw [rankOrder_of_begins hpre]
    exact Except.ok.inj h
  · rw [order_of_begins (.inr hpre)] at h
    have hswap : rankOrder a b = (rankOrder b a).swap := Std.OrientedCmp.eq_swap
    rw [hswap, rankOrder_of_begins hpre, textOrder_swap]
    exact Except.ok.inj h
  · have hrank := order_rank_of_parts ha hb hx hy hxy h
    have hne : Rank.order (rank x) (rank y) ≠ .eq := by
      rw [hrank]
      intro heq
      have hab := hsame heq
      subst hab
      rw [hx] at hy
      exact hxy (List.cons.inj (List.append_cancel_left hy)).1
    unfold rankOrder ranks
    rw [hx, hy, List.map_append, List.map_append, List.map_cons, List.map_cons,
      compareLex_of_parts hne]
    exact hrank

/-! ## Versions in capitals -/

/-- A version in ASCII without lower-case letters, with no run of digits too long to be read. -/
structure IsPlain (version : String) : Prop where
  ascii : ∀ c ∈ version.toList, c.toNat < 0x80
  noLower : ∀ c ∈ version.toList, c.isLower = false
  short : ∀ run, run <:+: version.toList → (∀ c ∈ run, c.isDigit = true) →
    run.length ≤ Text.maxDigits

section

variable {a b c : String}

/-- A version that is not too long as a whole has no overlong run of digits. -/
theorem IsPlain.of_length (hascii : ∀ c ∈ a.toList, c.toNat < 0x80)
    (hlower : ∀ c ∈ a.toList, c.isLower = false) (hlength : a.length ≤ Text.maxDigits) :
    IsPlain a where
  ascii := hascii
  noLower := hlower
  short := fun _ hinfix _ => hinfix.length_le.trans hlength

theorem IsPlain.hasPlainDigits (h : IsPlain a) : HasPlainDigits a.toList :=
  hasPlainDigits_of_ascii h.ascii

theorem IsPlain.folded_token (h : IsPlain a) {token : List Char}
    (htoken : token ∈ tokenList a.toList) : folded token = token := by
  refine Text.flatMap_upperForm fun d hd => ?_
  have hmem : d ∈ a.toList := mem_of_mem_tokenList htoken hd
  exact Text.upperForm_of_ascii (h.ascii d hmem) (h.noLower d hmem)

/-- The tokens of such a version that are read as numbers are numerals, and not too long. -/
theorem IsPlain.numeral_eq_ok (h : IsPlain a) {token : List Char}
    (htoken : token ∈ tokenList a.toList) (hrun : isDigitRun token = true)
    (hzero : token.head? ≠ some '0') : ∃ n, numeral token = .ok n := by
  have hne : token ≠ [] := (isToken_of_mem_tokenList token htoken).ne_nil
  have hsigns : ∀ d ∈ token, Text.isDigitSign d = true := by
    simpa [isDigitRun, hne] using hrun
  have hdigits : ∀ d ∈ token, d.isDigit = true := by
    intro d hd
    have hascii : d.toNat < 0x80 := h.ascii d (mem_of_mem_tokenList htoken hd)
    rw [← Text.isDecimal_eq_isDigit hascii]
    by_contra hdecimal
    have hforeign := Text.digitSign_of_not_isDecimal (hsigns d hd) (by simpa using hdecimal)
    omega
  have hshort := h.short token (isInfix_of_mem_tokenList htoken) hdigits
  rw [numeral_of_isNumeral (isNumeral_iff.mpr ⟨hne, hdigits, hzero⟩), if_neg (by omega)]
  exact ⟨_, rfl⟩

theorem compareToken_eq_ok (ha : IsPlain a) (hb : IsPlain b) {x y : List Char}
    (hx : x ∈ tokenList a.toList) (hy : y ∈ tokenList b.toList) :
    ∃ o, compareToken x y = .ok o := by
  by_cases hxdash : x = ['-']
  · exact ⟨_, hxdash ▸ compareToken_dash_left y⟩
  by_cases hydash : y = ['-']
  · exact ⟨_, hydash ▸ compareToken_dash_right hxdash⟩
  by_cases hxpoint : x = ['.']
  · exact ⟨_, hxpoint ▸ compareToken_point_left hydash⟩
  by_cases hypoint : y = ['.']
  · exact ⟨_, hypoint ▸ compareToken_point_right ⟨hxdash, hxpoint⟩⟩
  rw [compareToken_of_isRun ⟨hxdash, hxpoint⟩ ⟨hydash, hypoint⟩]
  split
  · rename_i hread
    obtain ⟨m, hm⟩ := ha.numeral_eq_ok hx hread.1 hread.2.2.1
    obtain ⟨n, hn⟩ := hb.numeral_eq_ok hy hread.2.1 hread.2.2.2
    rw [hm, hn]
    exact ⟨_, rfl⟩
  · exact ⟨_, rfl⟩

theorem order_eq_ok (ha : IsPlain a) (hb : IsPlain b) : ∃ o, order a b = .ok o := by
  obtain hpre | ⟨common, x, xs, y, ys, hx, hy, hxy⟩ :=
    begins_or_parts (tokenList a.toList) (tokenList b.toList)
  · exact ⟨_, order_of_begins hpre⟩
  · rw [order_of_parts hx hy hxy]
    exact compareToken_eq_ok ha hb (by simp [hx]) (by simp [hy])

/-- In capitals, different tokens do not compare as equal. -/
theorem eq_of_order_eq (ha : IsPlain a) (hb : IsPlain b) (h : order a b = .ok .eq) : a = b := by
  obtain hpre | ⟨common, x, xs, y, ys, hx, hy, hxy⟩ :=
    begins_or_parts (tokenList a.toList) (tokenList b.toList)
  · rw [order_of_begins hpre] at h
    have htext : textOrder a b = .eq := Except.ok.inj h
    unfold textOrder at htext
    exact Std.LawfulEqCmp.eq_of_compare htext
  · have horder := order_rank_of_parts ha.hasPlainDigits hb.hasPlainDigits hx hy hxy h
    have hrank : rank x = rank y := Std.LawfulEqCmp.eq_of_compare horder
    have hfolded : folded x = folded y := congrArg Rank.text hrank
    rw [ha.folded_token (by simp [hx]), hb.folded_token (by simp [hy])] at hfolded
    exact (hxy hfolded).elim

/-- On such versions the comparison is that of the ranks. -/
theorem order_eq_rankOrder (ha : IsPlain a) (hb : IsPlain b) :
    order a b = .ok (rankOrder a b) := by
  obtain ⟨o, ho⟩ := order_eq_ok ha hb
  have hrank := rankOrder_eq ha.hasPlainDigits hb.hasPlainDigits ho fun heq =>
    eq_of_order_eq ha hb (heq ▸ ho)
  rw [ho, hrank]

/-- On versions in ASCII without lower-case letters and without overlong numbers, the comparison is
a linear order: it always has a result, is equal of a version and itself alone, turns around with
its arguments, and is transitive. -/
theorem order_linear (ha : IsPlain a) (hb : IsPlain b) (hc : IsPlain c) :
    (∃ o, order a b = .ok o) ∧ (order a b = .ok .eq ↔ a = b) ∧
      order b a = (order a b).map Ordering.swap ∧
      (order a b = .ok .lt → order b c = .ok .lt → order a c = .ok .lt) := by
  have hab := order_eq_rankOrder ha hb
  have hself : rankOrder a a = .eq := Std.ReflCmp.compare_self
  refine ⟨⟨_, hab⟩, ⟨eq_of_order_eq ha hb, ?_⟩, ?_, ?_⟩
  · rintro rfl
    rw [hab, hself]
  · have hswap : rankOrder b a = (rankOrder a b).swap := Std.OrientedCmp.eq_swap
    rw [hab, order_eq_rankOrder hb ha, hswap]
    rfl
  · intro hlt hlt'
    rw [hab] at hlt
    rw [order_eq_rankOrder hb hc] at hlt'
    have htrans : rankOrder a c = .lt :=
      Std.TransCmp.lt_trans (Except.ok.inj hlt) (Except.ok.inj hlt')
    rw [order_eq_rankOrder ha hc, htrans]

end

theorem order_linear_releases : IsPlain "1.9" ∧ IsPlain "1.10-RC1" ∧ IsPlain "2.0" ∧
    ((∃ o, order "1.9" "1.10-RC1" = .ok o) ∧
      (order "1.9" "1.10-RC1" = .ok .eq ↔ "1.9" = "1.10-RC1") ∧
      order "1.10-RC1" "1.9" = (order "1.9" "1.10-RC1").map Ordering.swap ∧
      (order "1.9" "1.10-RC1" = .ok .lt → order "1.10-RC1" "2.0" = .ok .lt →
        order "1.9" "2.0" = .ok .lt)) := by
  have hfirst : IsPlain "1.9" := .of_length (by simp) (by simp) (by decide)
  have hsecond : IsPlain "1.10-RC1" := .of_length (by simp) (by simp) (by decide)
  have hthird : IsPlain "2.0" := .of_length (by simp) (by simp) (by decide)
  exact ⟨hfirst, hsecond, hthird, order_linear hfirst hsecond hthird⟩

/-! ## Later hosts -/

/-- A release satisfies the minima that it is not less than. -/
theorem satisfies_of_order {host minimum : String} (hrelease : host ≠ development) {o : Ordering}
    (h : order host minimum = .ok o) : satisfies host minimum = .ok (o != .lt) := by
  have hdev : ¬ isDevelopment host = true := by simpa [isDevelopment] using hrelease
  unfold satisfies
  rw [if_neg hdev, h]
  rfl

/-- A version satisfies a minimum when it is that of a development build or not less. -/
theorem satisfies_eq_ok_true_iff (host minimum : String) :
    satisfies host minimum = .ok true ↔
      isDevelopment host = true ∨ ∃ o, order host minimum = .ok o ∧ o ≠ .lt := by
  unfold satisfies
  by_cases hdev : isDevelopment host = true
  · simp [hdev, pure, Except.pure]
  · rw [if_neg hdev]
    cases order host minimum <;> simp [hdev, bind, Except.bind, pure, Except.pure]

theorem isLE_of_ne_lt {a b : String} (h : rankOrder a b ≠ .lt) : (rankOrder b a).isLE = true := by
  cases hcase : rankOrder b a with
  | lt => rfl
  | eq => rfl
  | gt => exact (h (Std.OrientedCmp.gt_iff_lt.mp hcase)).elim

/-- A host that meets a minimum is replaced by one that is not earlier. The later host meets the
minimum too, when the digits of all three are ASCII and neither comparison on the way took different
texts for equal. -/
theorem satisfies_of_later {older newer minimum : String} (holder : HasPlainDigits older.toList)
    (hnewer : HasPlainDigits newer.toList) (hminimum : HasPlainDigits minimum.toList)
    (hrelease : older ≠ development) (hmeets : satisfies older minimum = .ok true)
    (hsame : order older minimum = .ok .eq → older = minimum)
    {change : Ordering} (hchange : order newer older = .ok change) (hlater : change ≠ .lt)
    (hsame' : order newer older = .ok .eq → newer = older)
    {verdict : Ordering} (hverdict : order newer minimum = .ok verdict) :
    satisfies newer minimum = .ok true := by
  have hdev : ¬ isDevelopment older = true := by simpa [isDevelopment] using hrelease
  obtain hdev' | ⟨first, hfirst, hmet⟩ := (satisfies_eq_ok_true_iff older minimum).mp hmeets
  · exact (hdev hdev').elim
  have hold : rankOrder older minimum = first :=
    rankOrder_eq holder hminimum hfirst fun heq => hsame (heq ▸ hfirst)
  have hnew : rankOrder newer older = change :=
    rankOrder_eq hnewer holder hchange fun heq => hsame' (heq ▸ hchange)
  have hle : (rankOrder minimum older).isLE = true := isLE_of_ne_lt (hold ▸ hmet)
  have hle' : (rankOrder older newer).isLE = true := isLE_of_ne_lt (hnew ▸ hlater)
  have htrans : (rankOrder minimum newer).isLE = true := Std.TransCmp.isLE_trans hle hle'
  refine (satisfies_eq_ok_true_iff newer minimum).mpr (.inr ⟨verdict, hverdict, ?_⟩)
  rintro rfl
  have hlt : rankOrder newer minimum = .lt :=
    rankOrder_eq hnewer hminimum hverdict fun heq => Ordering.noConfusion heq
  have hgt : rankOrder minimum newer = .gt := Std.OrientedCmp.gt_iff_lt.mpr hlt
  rw [hgt] at htrans
  cases htrans

theorem satisfies_of_later_release : HasPlainDigits "2.0".toList ∧ HasPlainDigits "2.1".toList ∧
    HasPlainDigits "1.9".toList ∧ "2.0" ≠ development ∧ satisfies "2.0" "1.9" = .ok true ∧
    order "2.0" "1.9" = .ok .gt ∧ order "2.1" "2.0" = .ok .gt ∧ order "2.1" "1.9" = .ok .gt ∧
    satisfies "2.1" "1.9" = .ok true := by
  have holder : HasPlainDigits "2.0".toList := hasPlainDigits_of_ascii (by simp)
  have hnewer : HasPlainDigits "2.1".toList := hasPlainDigits_of_ascii (by simp)
  have hminimum : HasPlainDigits "1.9".toList := hasPlainDigits_of_ascii (by simp)
  have hrelease : "2.0" ≠ development := by decide
  have hfirst : order "2.0" "1.9" = .ok .gt :=
    toOption_eq_some_iff.mp (by decide +kernel)
  have hmeets : satisfies "2.0" "1.9" = .ok true := satisfies_of_order hrelease hfirst
  have hchange : order "2.1" "2.0" = .ok .gt :=
    toOption_eq_some_iff.mp (by decide +kernel)
  have hverdict : order "2.1" "1.9" = .ok .gt :=
    toOption_eq_some_iff.mp (by decide +kernel)
  refine ⟨holder, hnewer, hminimum, hrelease, hmeets, hfirst, hchange, hverdict, ?_⟩
  refine satisfies_of_later holder hnewer hminimum hrelease hmeets ?_ hchange (by decide) ?_
    hverdict
  · rw [hfirst]
    simp
  · rw [hchange]
    simp

/-- Comparison stops at the first tokens that differ, though it may find them equal: what the
letters of two release candidates hide, a third brings out. -/
theorem satisfies_not_later : satisfies "2.0-RC1" "2.0-rc2" = .ok true ∧
    order "2.0-rc1" "2.0-RC1" = .ok .eq ∧ satisfies "2.0-rc1" "2.0-rc2" = .ok false := by
  have hfirst : order "2.0-RC1" "2.0-rc2" = .ok .eq :=
    toOption_eq_some_iff.mp (by decide +kernel)
  have hlast : order "2.0-rc1" "2.0-rc2" = .ok .lt :=
    toOption_eq_some_iff.mp (by decide +kernel)
  have hequal : order "2.0-rc1" "2.0-RC1" = .ok .eq :=
    toOption_eq_some_iff.mp (by decide +kernel)
  exact ⟨satisfies_of_order (by decide) hfirst, hequal, satisfies_of_order (by decide) hlast⟩

end Version

end PluginDescriptor
