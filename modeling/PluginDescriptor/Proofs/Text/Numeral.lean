import Mathlib.Data.List.Induction
import Mathlib.Data.List.TakeWhile
import PluginDescriptor.Text.Numeral

/-!
# Numerals of plain digits

A run of the digits `0` to `9` reads as the number it writes, unless it is too long
(`readInt_digits`), and no number is written by two runs that begin with another digit than zero
(`digitsValue_injective`). A sign for a digit that is no decimal digit begins no numeral.
-/

set_option autoImplicit false

namespace PluginDescriptor.Text

/-! ## Single digits -/

theorem isDigit_iff_le {c : Char} : c.isDigit = true ↔ '0' ≤ c ∧ c ≤ '9' := by
  rw [Char.isDigit_iff_toNat]
  rfl

theorem toNat_of_isDigit {c : Char} (h : c.isDigit = true) : 0x30 ≤ c.toNat ∧ c.toNat ≤ 0x39 :=
  Char.isDigit_iff_toNat.mp h

theorem digitValue?_of_isDigit {c : Char} (h : c.isDigit = true) :
    digitValue? c = some (c.toNat - 0x30) := if_pos (isDigit_iff_le.mp h)

theorem isDigitIn_of_isDigit {c : Char} (h : c.isDigit = true) : isDigitIn 10 c = true := by
  have hbounds := toNat_of_isDigit h
  have hlt : c.toNat - 0x30 < 10 := by omega
  simpa [isDigitIn, digitValue?_of_isDigit h] using hlt

/-- Within ASCII the decimal digits are the usual ones. -/
theorem isDecimal_eq_isDigit {c : Char} (h : c.toNat < 0x80) : isDecimal c = c.isDigit := by
  rw [Bool.eq_iff_iff, isDigit_iff_le]
  unfold isDecimal decimalValue?
  rw [if_pos h]
  split
  · rename_i hdigit
    exact iff_of_true rfl hdigit
  · rename_i hdigit
    exact iff_of_false Bool.false_ne_true hdigit

theorem isDecimal_of_isDigit {c : Char} (h : c.isDigit = true) : isDecimal c = true := by
  have hbounds := toNat_of_isDigit h
  rw [isDecimal_eq_isDigit (by omega)]
  exact h

/-- The signs that name a digit and form no numerals lie outside ASCII and are no white space. -/
theorem digitSign_of_not_isDecimal {c : Char} (hsign : isDigitSign c = true)
    (hdecimal : isDecimal c = false) : 0x80 ≤ c.toNat ∧ isBlank c = false := by
  have hrange : inRanges digitSignRanges c.toNat = true := by
    simpa [isDigitSign, hdecimal] using hsign
  simp [inRanges, digitSignRanges] at hrange
  constructor
  · omega
  · rw [← Bool.not_eq_true]
    intro hblank
    simp [isBlank, inRanges, blankRanges] at hblank
    omega

/-! ## The number that digits write -/

theorem digitsValue_concat (ds : List Char) {d : Char} (h : d.isDigit = true) :
    digitsValue 10 (ds ++ [d]) = digitsValue 10 ds * 10 + (d.toNat - 0x30) := by
  unfold digitsValue
  rw [List.foldl_append, List.foldl_cons, List.foldl_nil, digitValue?_of_isDigit h]

theorem digitsValue_pos {ds : List Char} (hne : ds ≠ []) (hds : ∀ c ∈ ds, c.isDigit = true)
    (hzero : ds.head? ≠ some '0') : 0 < digitsValue 10 ds := by
  induction ds using List.reverseRecOn with
  | nil => exact (hne rfl).elim
  | append_singleton ds d ih =>
    have hd : d.isDigit = true := hds d (by simp)
    have hbounds := toNat_of_isDigit hd
    rw [digitsValue_concat ds hd]
    cases ds with
    | nil =>
      have hd0 : d ≠ '0' := fun h => hzero (congrArg some h)
      have hcode : d.toNat ≠ 0x30 := fun h => hd0 (Char.toNat_inj.mp h)
      omega
    | cons e ds =>
      have hpos := ih (List.cons_ne_nil e ds) (fun c hc => hds c (List.mem_append_left _ hc)) hzero
      omega

theorem head?_ne_of_concat {cs : List Char} {c : Char} (h : (cs ++ [c]).head? ≠ some '0') :
    cs.head? ≠ some '0' := by
  cases cs with
  | nil => simp
  | cons b cs => exact h

/-- Without a zero in front, different digits write different numbers. -/
theorem digitsValue_injective {ds es : List Char} (hds : ∀ c ∈ ds, c.isDigit = true)
    (hes : ∀ c ∈ es, c.isDigit = true) (hds0 : ds.head? ≠ some '0') (hes0 : es.head? ≠ some '0')
    (h : digitsValue 10 ds = digitsValue 10 es) : ds = es := by
  induction ds using List.reverseRecOn generalizing es with
  | nil =>
    -- Only the empty run writes zero here, since no zero may come first.
    cases es with
    | nil => rfl
    | cons e es =>
      have hpos := digitsValue_pos (List.cons_ne_nil e es) hes hes0
      have hnil : digitsValue 10 [] = 0 := rfl
      omega
  | append_singleton ds d ih =>
    have hd : d.isDigit = true := hds d (by simp)
    rcases List.eq_nil_or_concat es with rfl | ⟨es, e, rfl⟩
    · have hpos := digitsValue_pos (by simp) hds hds0
      have hnil : digitsValue 10 [] = 0 := rfl
      omega
    · have he : e.isDigit = true := hes e (by simp)
      have hbounds := toNat_of_isDigit hd
      have hbounds' := toNat_of_isDigit he
      rw [List.concat_eq_append, digitsValue_concat ds hd, digitsValue_concat es he] at h
      have hlast : d.toNat = e.toNat := by omega
      have hrest : digitsValue 10 ds = digitsValue 10 es := by omega
      have hsame := ih (fun c hc => hds c (List.mem_append_left _ hc))
        (fun c hc => hes c (by simp [hc])) (head?_ne_of_concat hds0)
        (head?_ne_of_concat (List.concat_eq_append ▸ hes0)) hrest
      rw [hsame, Char.toNat_inj.mp hlast, List.concat_eq_append]

/-! ## The digits of a number -/

theorem digitsValue_eq_ofDigitChars {ds : List Char} (hds : ∀ c ∈ ds, c.isDigit = true) :
    digitsValue 10 ds = Nat.ofDigitChars 10 ds 0 := by
  induction ds using List.reverseRecOn with
  | nil => rfl
  | append_singleton ds d ih =>
    have hd : d.isDigit = true := hds d (by simp)
    rw [digitsValue_concat ds hd, ih fun c hc => hds c (List.mem_append_left _ hc),
      Nat.ofDigitChars_append, Nat.ofDigitChars_cons, Nat.mul_comm]
    rfl

theorem isDigit_of_mem_toDigits {n : Nat} {c : Char} (h : c ∈ Nat.toDigits 10 n) :
    c.isDigit = true := Nat.isDigit_of_mem_toDigits (by decide) (by decide) h

/-- The digits of a number write the number. -/
theorem digitsValue_toDigits (n : Nat) : digitsValue 10 (Nat.toDigits 10 n) = n := by
  rw [digitsValue_eq_ofDigitChars fun c hc => isDigit_of_mem_toDigits hc,
    Nat.ofDigitChars_toDigits (by decide) (by decide)]

theorem toDigits_injective {m n : Nat} (h : Nat.toDigits 10 m = Nat.toDigits 10 n) : m = n := by
  rw [← digitsValue_toDigits m, h, digitsValue_toDigits]

/-- Only zero is written with a zero in front. -/
theorem head?_toDigits_ne {n : Nat} (h : n ≠ 0) : (Nat.toDigits 10 n).head? ≠ some '0' := by
  induction n using Nat.strong_induction_on with
  | _ n ih =>
    rw [Nat.toDigits_eq_if (by decide)]
    split
    · rename_i hlt
      intro hzero
      have hcode : n.digitChar.toNat = '0'.toNat := congrArg Char.toNat (Option.some.inj hzero)
      rw [Nat.toNat_digitChar_of_lt_ten hlt] at hcode
      have hval : '0'.toNat = 48 := rfl
      omega
    · have hhead := ih (n / 10) (by omega) (by omega)
      have hne : Nat.toDigits 10 (n / 10) ≠ [] := Nat.toDigits_ne_nil
      obtain ⟨d, ds, hdigits⟩ := List.exists_cons_of_ne_nil hne
      rw [hdigits] at hhead ⊢
      exact hhead

/-! ## Reading -/

theorem plainNumeral_digits {ds : List Char} (hds : ∀ c ∈ ds, c.isDigit = true) :
    plainNumeral ds = ds := by
  have hall : (ds.all fun c => decide (c.toNat < 0x80)) = true := by
    rw [List.all_eq_true]
    intro c hc
    have hbounds := toNat_of_isDigit (hds c hc)
    exact decide_eq_true (by omega)
  unfold plainNumeral
  rw [if_pos hall]

/-- A character that is no decimal digit and no white space cuts off the text it begins. -/
theorem plainNumeral_of_foreign {c : Char} (hcode : 0x80 ≤ c.toNat)
    (hblank : isBlank c = false) (hdecimal : isDecimal c = false) (rest : List Char) :
    plainNumeral (c :: rest) = ['?'] := by
  have hvalue : decimalValue? c = none := by simpa [isDecimal] using hdecimal
  have hfar : ¬ c.toNat < 0x80 := by omega
  have hfar' : ¬ c.toNat < 0x7F := by omega
  simp [plainNumeral, hfar, hfar', hblank, hvalue]

theorem hasLooseUnderscore_digits {ds : List Char} (hds : ∀ c ∈ ds, c.isDigit = true) :
    hasLooseUnderscore ds = false := by
  fun_induction hasLooseUnderscore ds with
  | case1 => rfl
  | case2 => exact absurd (hds '_' List.mem_cons_self) (by decide)
  | case3 rest => exact absurd (hds '_' List.mem_cons_self) (by decide)
  | case4 c rest _ _ ih => exact ih fun b hb => hds b (List.mem_cons_of_mem c hb)

/-- Numerals of base ten carry no mark of their base. -/
theorem dropBaseMark_ten (s : List Char) : dropBaseMark 10 s = s := by
  unfold dropBaseMark
  split <;> rfl

theorem takeSign_of_isDigit {d : Char} (hd : d.isDigit = true) (rest : List Char) :
    takeSign (d :: rest) = (false, d :: rest) := by
  have hminus : d ≠ '-' := by
    rintro rfl
    exact absurd hd (by decide)
  have hplus : d ≠ '+' := by
    rintro rfl
    exact absurd hd (by decide)
  simp [takeSign, hminus, hplus]

theorem readDigits_digits {ds : List Char} (hne : ds ≠ []) (hds : ∀ c ∈ ds, c.isDigit = true) :
    readDigits 10 ds =
      if maxDigits < ds.length then .error (.tooLong ds.length) else .ok (digitsValue 10 ds) := by
  have hbody : (ds.takeWhile fun c => isDigitIn 10 c || c == '_') = ds := by
    have hall : ∀ c ∈ ds, (isDigitIn 10 c || c == '_') = true := by
      intro c hc
      rw [isDigitIn_of_isDigit (hds c hc)]
      rfl
    exact List.takeWhile_eq_self_iff.mpr hall
  have hunderscore : ∀ c ∈ ds, (c != '_') = true := by
    intro c hc
    rw [bne_iff_ne]
    rintro rfl
    exact absurd (hds '_' hc) (by decide)
  have hcount : ds.filter (· != '_') = ds := List.filter_eq_self.mpr hunderscore
  have hempty : ds.isEmpty = false := List.isEmpty_eq_false_iff.mpr hne
  have hfirst : (ds.head? == some '_') = false := by
    cases ds with
    | nil => rfl
    | cons d ds => simpa using hunderscore d List.mem_cons_self
  unfold readDigits
  simp [hbody, hcount, hempty, hfirst, hasLooseUnderscore_digits hds]

/-- A run of ASCII digits reads as the number it writes, or is too long to be read. -/
theorem readInt_digits {ds : List Char} (hne : ds ≠ []) (hds : ∀ c ∈ ds, c.isDigit = true) :
    readInt 10 (String.ofList ds) =
      if maxDigits < ds.length then .error (.tooLong ds.length)
      else .ok (digitsValue 10 ds : Int) := by
  cases ds with
  | nil => exact (hne rfl).elim
  | cons d ds =>
    have hd : d.isDigit = true := hds d List.mem_cons_self
    have hbounds := toNat_of_isDigit hd
    have hblank : isNumeralBlank d = false := by
      have hspace : d ≠ ' ' := by
        rintro rfl
        exact absurd hd (by decide)
      have hcode : ¬ d.toNat ≤ 0xD := by omega
      simp [isNumeralBlank, hspace, hcode]
    have htrim : (d :: ds).dropWhile isNumeralBlank = d :: ds :=
      List.dropWhile_cons_of_neg (by simp [hblank])
    unfold readInt
    rw [String.toList_ofList, plainNumeral_digits hds, htrim, takeSign_of_isDigit hd]
    simp only [dropBaseMark_ten, readDigits_digits hne hds, Bool.false_eq_true, if_false]
    split <;> rfl

/-- What begins with a digit sign that is no decimal digit is no numeral. -/
theorem readInt_of_digitSign {c : Char} {rest : List Char} (hsign : isDigitSign c = true)
    (hdecimal : isDecimal c = false) :
    readInt 10 (String.ofList (c :: rest)) = .error .malformed := by
  obtain ⟨hcode, hblank⟩ := digitSign_of_not_isDecimal hsign hdecimal
  have hplain := plainNumeral_of_foreign hcode hblank hdecimal rest
  unfold readInt
  rw [String.toList_ofList, hplain]
  rfl

end PluginDescriptor.Text
