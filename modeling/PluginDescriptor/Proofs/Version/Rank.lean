import PluginDescriptor.Proofs.Outcome
import PluginDescriptor.Proofs.Text.Case
import PluginDescriptor.Proofs.Version.Token

/-!
# Ranks of tokens

Two tokens that differ are compared by a chain of special cases. As long as the digits are those of
ASCII, the chain is a single order in disguise: each token has a rank, and where the comparison has a
result it is that of the ranks (`order_rank_of_compareToken`). Dashes come first, then points, then
the words before all numerals, the numerals by their value, and the words after all numerals.
-/

set_option autoImplicit false

namespace PluginDescriptor

namespace Version

/-! ## Texts by code point -/

theorem compare_char_eq_lt {c d : Char} : compare c d = .lt ↔ c < d := compareOfLessAndEq_eq_lt

theorem compare_chars_eq_lt {s t : List Char} : compare s t = .lt ↔ s < t := by
  rw [List.compare_eq_compareLex]
  induction s generalizing t with
  | nil => cases t <;> simp [List.compareLex_nil_nil, List.compareLex_nil_cons]
  | cons c s ih =>
    cases t with
    | nil => simp [List.compareLex_cons_nil]
    | cons d t =>
      have hchar : compare c d = .eq ↔ c = d := Std.LawfulEqCmp.compare_eq_iff_eq
      rw [List.compareLex_cons_cons, Ordering.then_eq_lt, ih, compare_char_eq_lt, hchar,
        List.cons_lt_cons_iff]

theorem char_lt_iff {c d : Char} : c < d ↔ c.toNat < d.toNat := Iff.rfl

/-- Texts compare as the rows of their characters do. -/
theorem textOrder_eq (a b : String) : textOrder a b = compare a.toList b.toList := by
  have hlt : ∀ {s t : String}, compare s t = .lt → compare s.toList t.toList = .lt := by
    intro s t h
    have hst : s < t := compareOfLessAndEq_eq_lt.mp h
    exact compare_chars_eq_lt.mpr (String.lt_iff.mp hst)
  unfold textOrder
  cases h : compare a b with
  | lt => exact (hlt h).symm
  | eq =>
    rw [Std.LawfulEqCmp.eq_of_compare h]
    exact Std.ReflCmp.compare_self.symm
  | gt =>
    have hgt : compare b.toList a.toList = .lt := hlt (Std.OrientedCmp.gt_iff_lt.mp h)
    exact (Std.OrientedCmp.gt_iff_lt.mpr hgt).symm

theorem textOrder_swap (a b : String) : (textOrder b a).swap = textOrder a b := by
  unfold textOrder
  exact Std.OrientedCmp.eq_swap.symm

/-! ## Ranks -/

/-- The place of a token in the order of tokens. -/
structure Rank where
  tier : Nat
  number : Nat
  text : List Char
  deriving DecidableEq, Repr

/-- Ranks compare by tier, then by number, then by text. -/
def Rank.order : Rank → Rank → Ordering :=
  compareLex (compareOn Rank.tier) (compareLex (compareOn Rank.number) (compareOn Rank.text))

instance : Std.TransCmp Rank.order :=
  inferInstanceAs (Std.TransCmp (compareLex (compareOn Rank.tier)
    (compareLex (compareOn Rank.number) (compareOn Rank.text))))

theorem Rank.order_mk (tier tier' number number' : Nat) (text text' : List Char) :
    Rank.order ⟨tier, number, text⟩ ⟨tier', number', text'⟩ =
      (compare tier tier').then ((compare number number').then (compare text text')) := rfl

instance : Std.LawfulEqCmp Rank.order where
  eq_of_compare := by
    rintro ⟨tier, number, text⟩ ⟨tier', number', text'⟩ h
    rw [Rank.order_mk, Ordering.then_eq_eq, Ordering.then_eq_eq] at h
    obtain ⟨htier, hnumber, htext⟩ := h
    rw [Std.LawfulEqCmp.eq_of_compare htier, Std.LawfulEqCmp.eq_of_compare hnumber,
      Std.LawfulEqCmp.eq_of_compare htext]

/-- Between tiers nothing else counts. -/
theorem Rank.order_of_tier_ne {p q : Rank} (h : p.tier ≠ q.tier) :
    Rank.order p q = compare p.tier q.tier := by
  have htier : compare p.tier q.tier ≠ .eq := fun heq => h (Nat.compare_eq_eq.mp heq)
  have horder : Rank.order p q = (compare p.tier q.tier).then
      ((compare p.number q.number).then (compare p.text q.text)) := rfl
  rw [horder]
  cases hcase : compare p.tier q.tier with
  | lt => rfl
  | eq => exact (htier hcase).elim
  | gt => rfl

/-- A token in upper case. -/
def folded (token : List Char) : List Char := token.flatMap Text.upperForm

/-- Digits of ASCII, the first of which is not a zero. -/
def isNumeral (token : List Char) : Bool :=
  !token.isEmpty && token.all Char.isDigit && token.head? != some '0'

/-- The words that come before every numeral are those before the text `1`. -/
def tier (token : List Char) : Nat :=
  if token = ['-'] then 0
  else if token = ['.'] then 1
  else if isNumeral token then 3
  else if compare (folded token) ['1'] = .lt then 2
  else 4

/-- The rank of a token. -/
def rank (token : List Char) : Rank :=
  ⟨tier token, if isNumeral token then Text.digitsValue 10 token else 0, folded token⟩

/-- The ranks of a version's tokens. -/
def ranks (version : String) : List Rank := (tokenList version.toList).map rank

theorem isNumeral_iff {token : List Char} : isNumeral token = true ↔
    token ≠ [] ∧ (∀ c ∈ token, c.isDigit = true) ∧ token.head? ≠ some '0' := by
  simp [isNumeral, and_assoc]

theorem folded_numeral {token : List Char} (h : isNumeral token = true) : folded token = token := by
  obtain ⟨-, hdigits, -⟩ := isNumeral_iff.mp h
  exact Text.flatMap_upperForm fun c hc => Text.upperForm_of_isDigit (hdigits c hc)

/-- Neither a dash nor a point. -/
def IsRun (token : List Char) : Prop := token ≠ ['-'] ∧ token ≠ ['.']

theorem IsRun.two_le_tier {token : List Char} (h : IsRun token) : 2 ≤ tier token := by
  unfold tier
  rw [if_neg h.1, if_neg h.2]
  repeat' split
  all_goals omega

/-- A dash comes before every other token. -/
theorem tier_dash_lt {token : List Char} (h : token ≠ ['-']) : tier ['-'] < tier token := by
  by_cases hpoint : token = ['.']
  · subst hpoint
    decide
  · have htwo := IsRun.two_le_tier ⟨h, hpoint⟩
    have hdash : tier ['-'] = 0 := rfl
    omega

/-- A point comes before every run. -/
theorem tier_point_lt {token : List Char} (h : IsRun token) : tier ['.'] < tier token := by
  have htwo := h.two_le_tier
  have hpoint : tier ['.'] = 1 := rfl
  omega

theorem tier_numeral {token : List Char} (h : isNumeral token = true) : tier token = 3 := by
  have hdash : token ≠ ['-'] := by
    rintro rfl
    cases h
  have hpoint : token ≠ ['.'] := by
    rintro rfl
    cases h
  unfold tier
  rw [if_neg hdash, if_neg hpoint, if_pos h]

theorem IsRun.tier_word {token : List Char} (h : IsRun token) (hword : isNumeral token = false) :
    tier token = if compare (folded token) ['1'] = .lt then 2 else 4 := by
  unfold tier
  rw [if_neg h.1, if_neg h.2, if_neg (by simp [hword])]

/-! ## Words and numerals -/

/-- The decimal digits of the text are those of ASCII. -/
def HasPlainDigits (s : List Char) : Prop := ∀ c ∈ s, Text.isDecimal c = true → c.isDigit = true

theorem hasPlainDigits_of_ascii {s : List Char} (h : ∀ c ∈ s, c.toNat < 0x80) :
    HasPlainDigits s := by
  intro c hc hdecimal
  rwa [Text.isDecimal_eq_isDigit (h c hc)] at hdecimal

/-- A token of ASCII digits is a numeral, unless it begins with a zero. -/
theorem isNumeral_of_head {d : Char} {run : List Char} (htoken : IsToken (d :: run))
    (hplain : HasPlainDigits (d :: run)) (hd : Text.isDecimal d = true) (hzero : d ≠ '0') :
    isNumeral (d :: run) = true := by
  have hdecimal := htoken.isDecimal_of_head hd
  have hdigits : ∀ c ∈ d :: run, c.isDigit = true := fun c hc => hplain c hc (hdecimal c hc)
  exact isNumeral_iff.mpr ⟨List.cons_ne_nil d run, hdigits, fun h => hzero (Option.some.inj h)⟩

/-- A token that is no numeral either comes before the text `1` in upper case, or begins with a
character after the digits. -/
theorem folded_word {token : List Char} (htoken : IsToken token) (hplain : HasPlainDigits token)
    (hword : isNumeral token = false) (hlate : compare (folded token) ['1'] ≠ .lt) :
    ∃ d rest, folded token = d :: rest ∧ '9' < d := by
  obtain ⟨c, run, rfl⟩ := List.exists_cons_of_ne_nil htoken.ne_nil
  have hfolded : folded (c :: run) = Text.upperForm c ++ folded run := List.flatMap_cons
  -- A run of digits that is no numeral begins with a zero, and so does its upper case.
  have hdigit : c.isDigit = false := by
    rw [← Bool.not_eq_true]
    intro hc
    have hzero : c = '0' := by
      by_contra hzero
      have hnumeral := isNumeral_of_head htoken hplain (Text.isDecimal_of_isDigit hc) hzero
      rw [hword] at hnumeral
      cases hnumeral
    subst hzero
    rw [hfolded, Text.upperForm_of_isDigit hc] at hlate
    exact hlate rfl
  obtain ⟨d, rest, hform, hd⟩ := Text.exists_upperForm_eq hdigit
  have hcons : folded (c :: run) = d :: (rest ++ folded run) := by
    rw [hfolded, hform]
    rfl
  refine ⟨d, rest ++ folded run, hcons, ?_⟩
  have hone : ¬ d < '1' := by
    intro hlt
    rw [hcons, ne_eq, compare_chars_eq_lt] at hlate
    exact hlate (List.cons_lt_cons_iff.mpr (.inl hlt))
  have hoff : ¬ (0x30 ≤ d.toNat ∧ d.toNat ≤ 0x39) := by
    intro hbounds
    rw [← Bool.not_eq_true, Char.isDigit_iff_toNat] at hd
    exact hd hbounds
  rw [char_lt_iff] at hone ⊢
  have hcode : '1'.toNat = 0x31 := rfl
  have hcode' : '9'.toNat = 0x39 := rfl
  omega

theorem isLE_compare_one {token : List Char} (h : isNumeral token = true) :
    (compare ['1'] token).isLE = true := by
  obtain ⟨hne, hdigits, hzero⟩ := isNumeral_iff.mp h
  obtain ⟨e, run, rfl⟩ := List.exists_cons_of_ne_nil hne
  have hbounds := Text.toNat_of_isDigit (hdigits e List.mem_cons_self)
  have he0 : e.toNat ≠ '0'.toNat := fun h0 => hzero (congrArg some (Char.toNat_inj.mp h0))
  have hcode : '0'.toNat = 0x30 := rfl
  have hcode' : '1'.toNat = 0x31 := rfl
  rw [List.compare_eq_compareLex, List.compareLex_cons_cons]
  by_cases hone : e = '1'
  · subst hone
    cases run <;> rfl
  · have hlt : compare '1' e = .lt := by
      rw [compare_char_eq_lt, char_lt_iff]
      have hne : e.toNat ≠ '1'.toNat := fun h1 => hone (Char.toNat_inj.mp h1)
      omega
    rw [hlt]
    rfl

/-- A numeral comes between the two tiers of words. -/
theorem compare_folded_numeral {word token : List Char} (htoken : IsToken word) (hrun : IsRun word)
    (hplain : HasPlainDigits word) (hword : isNumeral word = false)
    (hnumeral : isNumeral token = true) :
    compare (folded word) token = compare (tier word) 3 := by
  rw [hrun.tier_word hword]
  split
  · rename_i hearly
    exact Std.TransCmp.lt_of_lt_of_isLE hearly (isLE_compare_one hnumeral)
  · rename_i hlate
    obtain ⟨d, rest, hfolded, hd⟩ := folded_word htoken hplain hword hlate
    obtain ⟨hne, hdigits, -⟩ := isNumeral_iff.mp hnumeral
    obtain ⟨e, run, rfl⟩ := List.exists_cons_of_ne_nil hne
    have hbounds := Text.toNat_of_isDigit (hdigits e List.mem_cons_self)
    have hcode : '9'.toNat = 0x39 := rfl
    have hed : e < d := by
      rw [char_lt_iff] at hd ⊢
      omega
    have hlt : compare (e :: run) (folded word) = .lt := by
      rw [hfolded, compare_chars_eq_lt]
      exact List.cons_lt_cons_iff.mpr (.inl hed)
    exact Std.OrientedCmp.gt_iff_lt.mpr hlt

/-! ## Comparing tokens -/

theorem textOrder_upper (x y : List Char) :
    textOrder (Text.upper (String.ofList x)) (Text.upper (String.ofList y)) =
      compare (folded x) (folded y) := by
  rw [textOrder_eq]
  simp [Text.upper, folded]

/-- Both tokens are read as numbers. -/
def AreRead (x y : List Char) : Prop :=
  isDigitRun x = true ∧ isDigitRun y = true ∧ x.head? ≠ some '0' ∧ y.head? ≠ some '0'

instance (x y : List Char) : Decidable (AreRead x y) :=
  inferInstanceAs (Decidable (_ ∧ _))

/-- Beyond the separators, tokens compare as numbers or as texts. -/
theorem compareToken_of_isRun {x y : List Char} (hx : IsRun x) (hy : IsRun y) :
    compareToken x y =
      if AreRead x y then do
        let m ← numeral x
        let n ← numeral y
        return compare m n
      else .ok (compare (folded x) (folded y)) := by
  have hfolded := textOrder_upper x y
  unfold compareToken
  simp only [beq_iff_eq, hx.1, hx.2, hy.1, hy.2, if_false, hfolded, Bool.and_eq_true,
    Bool.or_eq_true]
  by_cases hdigits : isDigitRun x = true ∧ isDigitRun y = true
  · rw [if_pos hdigits]
    by_cases hzero : x.head? = some '0' ∨ y.head? = some '0'
    · have hnot : ¬ AreRead x y := fun h => hzero.elim h.2.2.1 h.2.2.2
      rw [if_pos hzero, if_neg hnot]
      rfl
    · have hread : AreRead x y :=
        ⟨hdigits.1, hdigits.2, fun h => hzero (.inl h), fun h => hzero (.inr h)⟩
      rw [if_neg hzero, if_pos hread]
  · have hnot : ¬ AreRead x y := fun h => hdigits ⟨h.1, h.2.1⟩
    rw [if_neg hdigits, if_neg hnot]
    rfl

theorem compareToken_dash_left (y : List Char) : compareToken ['-'] y = .ok .lt := rfl

theorem compareToken_dash_right {x : List Char} (hx : x ≠ ['-']) :
    compareToken x ['-'] = .ok .gt := by
  unfold compareToken
  rw [if_neg (by simpa using hx)]
  rfl

theorem compareToken_point_left {y : List Char} (hy : y ≠ ['-']) :
    compareToken ['.'] y = .ok .lt := by
  unfold compareToken
  rw [if_neg (by decide), if_neg (by simpa using hy)]
  rfl

theorem compareToken_point_right {x : List Char} (hx : IsRun x) :
    compareToken x ['.'] = .ok .gt := by
  unfold compareToken
  rw [if_neg (by simpa using hx.1), if_neg (by decide), if_neg (by simpa using hx.2)]
  rfl

theorem numeral_of_isNumeral {token : List Char} (h : isNumeral token = true) :
    numeral token =
      if Text.maxDigits < token.length then
        .error (.badValue
          ((Text.NumeralFault.tooLong token.length).message 10 (String.ofList token)))
      else .ok (Text.digitsValue 10 token : Int) := by
  obtain ⟨hne, hdigits, -⟩ := isNumeral_iff.mp h
  unfold numeral
  simp only [Text.readInt_digits hne hdigits]
  split <;> rfl

theorem numeral_word {token : List Char} (htoken : IsToken token)
    (hplain : HasPlainDigits token) (hword : isNumeral token = false)
    (hdigits : isDigitRun token = true) (hzero : token.head? ≠ some '0') :
    ∃ fault, numeral token = .error fault := by
  obtain ⟨c, run, rfl⟩ := List.exists_cons_of_ne_nil htoken.ne_nil
  have hsign : Text.isDigitSign c = true := by
    simp [isDigitRun] at hdigits
    exact hdigits.1
  have hdecimal : Text.isDecimal c = false := by
    rw [← Bool.not_eq_true]
    intro hc
    have hnumeral := isNumeral_of_head htoken hplain hc fun h0 => hzero (congrArg some h0)
    rw [hword] at hnumeral
    cases hnumeral
  unfold numeral
  simp only [Text.readInt_of_digitSign hsign hdecimal]
  exact ⟨_, rfl⟩

theorem isDigitRun_of_isNumeral {token : List Char} (h : isNumeral token = true) :
    isDigitRun token = true := by
  obtain ⟨hne, hdigits, -⟩ := isNumeral_iff.mp h
  have hsigns : ∀ c ∈ token, Text.isDigitSign c = true := by
    intro c hc
    have hdecimal := Text.isDecimal_of_isDigit (hdigits c hc)
    simp [Text.isDigitSign, hdecimal]
  simpa [isDigitRun, hne] using hsigns

theorem areRead_of_isNumeral {x y : List Char} (hx : isNumeral x = true)
    (hy : isNumeral y = true) : AreRead x y :=
  ⟨isDigitRun_of_isNumeral hx, isDigitRun_of_isNumeral hy, (isNumeral_iff.mp hx).2.2,
    (isNumeral_iff.mp hy).2.2⟩

/-- Reading gives a result only for numerals. -/
theorem isNumeral_of_numeral {token : List Char} (htoken : IsToken token)
    (hplain : HasPlainDigits token) (hdigits : isDigitRun token = true)
    (hzero : token.head? ≠ some '0') {n : Int} (h : numeral token = .ok n) :
    isNumeral token = true ∧ n = Text.digitsValue 10 token := by
  have hnumeral : isNumeral token = true := by
    by_contra hword
    obtain ⟨fault, hfault⟩ := numeral_word htoken hplain (by simpa using hword) hdigits hzero
    rw [hfault] at h
    cases h
  rw [numeral_of_isNumeral hnumeral] at h
  split at h
  · cases h
  · exact ⟨hnumeral, (Except.ok.inj h).symm⟩

theorem order_rank_of_tier_lt {x y : List Char} (h : tier x < tier y) :
    Rank.order (rank x) (rank y) = .lt := by
  have htier : (rank x).tier ≠ (rank y).tier := Nat.ne_of_lt h
  rw [Rank.order_of_tier_ne htier]
  exact Nat.compare_eq_lt.mpr h

theorem order_rank_of_tier_gt {x y : List Char} (h : tier y < tier x) :
    Rank.order (rank x) (rank y) = .gt :=
  Std.OrientedCmp.gt_iff_lt.mpr (order_rank_of_tier_lt h)

theorem compare_natCast (m n : Nat) : compare (m : Int) (n : Int) = compare m n := by
  simp only [compare, compareOfLessAndEq, Int.ofNat_lt, Int.natCast_inj]

theorem order_rank_numerals {x y : List Char} (hx : isNumeral x = true) (hy : isNumeral y = true)
    (hxy : x ≠ y) :
    Rank.order (rank x) (rank y) = compare (Text.digitsValue 10 x) (Text.digitsValue 10 y) := by
  obtain ⟨-, hxdigits, hxzero⟩ := isNumeral_iff.mp hx
  obtain ⟨-, hydigits, hyzero⟩ := isNumeral_iff.mp hy
  have hvalue : Text.digitsValue 10 x ≠ Text.digitsValue 10 y := fun h =>
    hxy (Text.digitsValue_injective hxdigits hydigits hxzero hyzero h)
  have hcompare : compare (Text.digitsValue 10 x) (Text.digitsValue 10 y) ≠ .eq := fun h =>
    hvalue (Std.LawfulEqCmp.eq_of_compare h)
  have htier : compare 3 3 = Ordering.eq := rfl
  unfold rank
  rw [Rank.order_mk, tier_numeral hx, tier_numeral hy, if_pos hx, if_pos hy, htier]
  cases hcase : compare (Text.digitsValue 10 x) (Text.digitsValue 10 y) with
  | lt => rfl
  | eq => exact (hcompare hcase).elim
  | gt => rfl

theorem order_rank_word_numeral {word token : List Char} (htoken : IsToken word)
    (hrun : IsRun word) (hplain : HasPlainDigits word) (hword : isNumeral word = false)
    (hnumeral : isNumeral token = true) :
    Rank.order (rank word) (rank token) = compare (folded word) token := by
  have htier : (rank word).tier ≠ (rank token).tier := by
    show tier word ≠ tier token
    rw [tier_numeral hnumeral, hrun.tier_word hword]
    split <;> decide
  rw [Rank.order_of_tier_ne htier, compare_folded_numeral htoken hrun hplain hword hnumeral]
  show compare (tier word) (tier token) = _
  rw [tier_numeral hnumeral]

theorem order_rank_swap {x y s t : List Char}
    (h : Rank.order (rank y) (rank x) = compare t s) :
    Rank.order (rank x) (rank y) = compare s t := by
  have hrank : Rank.order (rank x) (rank y) = (Rank.order (rank y) (rank x)).swap :=
    Std.OrientedCmp.eq_swap
  have htext : compare s t = (compare t s).swap := Std.OrientedCmp.eq_swap
  rw [hrank, h, htext]

theorem rank_word {word : List Char} (hword : isNumeral word = false) :
    rank word = ⟨tier word, 0, folded word⟩ := by
  unfold rank
  rw [if_neg (by simp [hword])]

theorem order_rank_of_tier_eq {x y : List Char} (hx : isNumeral x = false)
    (hy : isNumeral y = false) (htier : tier x = tier y) :
    Rank.order (rank x) (rank y) = compare (folded x) (folded y) := by
  have hsame : compare (tier x) (tier y) = .eq := Nat.compare_eq_eq.mpr htier
  rw [rank_word hx, rank_word hy, Rank.order_mk, hsame]
  rfl

theorem order_rank_early_late {x y : List Char} (hxrun : IsRun x) (hyrun : IsRun y)
    (hx : isNumeral x = false) (hy : isNumeral y = false)
    (hearly : compare (folded x) ['1'] = .lt) (hlate : ¬ compare (folded y) ['1'] = .lt) :
    Rank.order (rank x) (rank y) = compare (folded x) (folded y) := by
  have hxtier := hxrun.tier_word hx
  have hytier := hyrun.tier_word hy
  rw [if_pos hearly] at hxtier
  rw [if_neg hlate] at hytier
  have hone : (compare ['1'] (folded y)).isLE = true := by
    cases hcase : compare ['1'] (folded y) with
    | lt => rfl
    | eq => rfl
    | gt => exact (hlate (Std.OrientedCmp.gt_iff_lt.mp hcase)).elim
  have htext : compare (folded x) (folded y) = .lt := Std.TransCmp.lt_of_lt_of_isLE hearly hone
  have htier : compare (tier x) (tier y) = .lt := by
    rw [hxtier, hytier]
    rfl
  rw [rank_word hx, rank_word hy, Rank.order_mk, htier, htext]
  rfl

/-- Two tokens of which one is no numeral rank as their upper cases compare. -/
theorem order_rank_words {x y : List Char} (hx : IsToken x) (hy : IsToken y) (hxrun : IsRun x)
    (hyrun : IsRun y) (hxplain : HasPlainDigits x) (hyplain : HasPlainDigits y)
    (h : ¬ (isNumeral x = true ∧ isNumeral y = true)) :
    Rank.order (rank x) (rank y) = compare (folded x) (folded y) := by
  cases hxnumeral : isNumeral x with
  | true =>
    have hyword : isNumeral y = false := by
      rw [← Bool.not_eq_true]
      exact fun hynumeral => h ⟨hxnumeral, hynumeral⟩
    rw [folded_numeral hxnumeral]
    exact order_rank_swap (order_rank_word_numeral hy hyrun hyplain hyword hxnumeral)
  | false =>
    cases hynumeral : isNumeral y with
    | true =>
      rw [order_rank_word_numeral hx hxrun hxplain hxnumeral hynumeral, folded_numeral hynumeral]
    | false =>
      have hxtier := hxrun.tier_word hxnumeral
      have hytier := hyrun.tier_word hynumeral
      -- Words of one tier compare as texts; those of different tiers have the text 1 between them.
      by_cases hxearly : compare (folded x) ['1'] = .lt
      · by_cases hyearly : compare (folded y) ['1'] = .lt
        · rw [if_pos hxearly] at hxtier
          rw [if_pos hyearly] at hytier
          exact order_rank_of_tier_eq hxnumeral hynumeral (hxtier.trans hytier.symm)
        · exact order_rank_early_late hxrun hyrun hxnumeral hynumeral hxearly hyearly
      · by_cases hyearly : compare (folded y) ['1'] = .lt
        · exact order_rank_swap
            (order_rank_early_late hyrun hxrun hynumeral hxnumeral hyearly hxearly)
        · rw [if_neg hxearly] at hxtier
          rw [if_neg hyearly] at hytier
          exact order_rank_of_tier_eq hxnumeral hynumeral (hxtier.trans hytier.symm)

/-- Where the comparison of two tokens that differ has a result, it is that of their ranks. -/
theorem order_rank_of_compareToken {x y : List Char} (hx : IsToken x) (hy : IsToken y)
    (hxy : x ≠ y) (hxplain : HasPlainDigits x) (hyplain : HasPlainDigits y) {o : Ordering}
    (h : compareToken x y = .ok o) : Rank.order (rank x) (rank y) = o := by
  by_cases hxdash : x = ['-']
  · subst hxdash
    rw [compareToken_dash_left] at h
    have htier : tier ['-'] < tier y := tier_dash_lt (Ne.symm hxy)
    rw [order_rank_of_tier_lt htier]
    exact Except.ok.inj h
  by_cases hydash : y = ['-']
  · subst hydash
    rw [compareToken_dash_right hxdash] at h
    have htier : tier ['-'] < tier x := tier_dash_lt hxy
    rw [order_rank_of_tier_gt htier]
    exact Except.ok.inj h
  by_cases hxpoint : x = ['.']
  · subst hxpoint
    rw [compareToken_point_left hydash] at h
    have htier : tier ['.'] < tier y := tier_point_lt ⟨hydash, Ne.symm hxy⟩
    rw [order_rank_of_tier_lt htier]
    exact Except.ok.inj h
  by_cases hypoint : y = ['.']
  · subst hypoint
    rw [compareToken_point_right ⟨hxdash, hxpoint⟩] at h
    have htier : tier ['.'] < tier x := tier_point_lt ⟨hxdash, hxpoint⟩
    rw [order_rank_of_tier_gt htier]
    exact Except.ok.inj h
  have hxrun : IsRun x := ⟨hxdash, hxpoint⟩
  have hyrun : IsRun y := ⟨hydash, hypoint⟩
  rw [compareToken_of_isRun hxrun hyrun] at h
  split at h
  · rename_i hread
    obtain ⟨m, hm, h⟩ := bind_eq_ok_iff.mp h
    obtain ⟨n, hn, h⟩ := bind_eq_ok_iff.mp h
    obtain ⟨hxnumeral, rfl⟩ := isNumeral_of_numeral hx hxplain hread.1 hread.2.2.1 hm
    obtain ⟨hynumeral, rfl⟩ := isNumeral_of_numeral hy hyplain hread.2.1 hread.2.2.2 hn
    rw [order_rank_numerals hxnumeral hynumeral hxy, ← compare_natCast]
    exact Except.ok.inj h
  · rename_i hread
    have hnot : ¬ (isNumeral x = true ∧ isNumeral y = true) := fun hboth =>
      hread (areRead_of_isNumeral hboth.1 hboth.2)
    rw [order_rank_words hx hy hxrun hyrun hxplain hyplain hnot]
    exact Except.ok.inj h

end Version

end PluginDescriptor
