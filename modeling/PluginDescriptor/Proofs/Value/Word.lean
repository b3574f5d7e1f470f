import PluginDescriptor.Proofs.Text.Numeral
import PluginDescriptor.Value.Text

/-!
# Words

A word is a text of small letters. The text of a value that is no text has something else in it, a
digit, a capital or a mark, except that two numbers without digits have names. So what is kept under
the texts of its keys is found under a word only if its key is that word (`Value.eq_str_of_text`).
-/

set_option autoImplicit false

namespace PluginDescriptor

open Number (Binary64 Decimal)

/-- A text of small letters that is the name of no number. -/
structure Text.IsWord (word : String) : Prop where
  nonempty : word ≠ ""
  letters : ∀ c ∈ word.toList, c.isLower = true
  noName : word ≠ "nan" ∧ word ≠ "inf"

theorem not_isLower_of_isDigit {c : Char} (h : c.isDigit = true) : c.isLower = false := by
  obtain ⟨-, hcode⟩ := Text.toNat_of_isDigit h
  rw [← Bool.not_eq_true]
  intro hlower
  have hletter : 'a'.toNat ≤ c.toNat := by
    obtain ⟨hfrom, -⟩ := Bool.and_eq_true_iff.mp hlower
    exact of_decide_eq_true hfrom
  have ha : 'a'.toNat = 97 := rfl
  omega

/-! ## Numbers -/

/-- Whole numbers are written with a digit. -/
theorem exists_isDigit_toString (n : Nat) : ∃ c ∈ (toString n).toList, c.isDigit = true := by
  obtain ⟨c, cs, hdigits⟩ := List.exists_cons_of_ne_nil (Nat.toDigits_ne_nil (n := n) (b := 10))
  have hc : c ∈ Nat.toDigits 10 n := hdigits ▸ List.mem_cons_self
  refine ⟨c, ?_, Text.isDigit_of_mem_toDigits hc⟩
  rwa [Nat.toString_eq_repr, Nat.toList_repr]

/-- A decimal is written with a point or with a signed exponent, if it is written at all. -/
theorem exists_mark_decimal (d : Decimal) : d.text = [] ∨ ∃ c ∈ d.text, c.isLower = false := by
  have hexponent (e : Int) : ∃ c ∈ Number.exponentText 'e' e, c.isLower = false := by
    refine ⟨if e < 0 then '-' else '+', ?_, ?_⟩
    · simp [Number.exponentText]
    · split <;> decide
  rw [Decimal.text]
  by_cases hplain : -4 ≤ d.point - 1 ∧ d.point - 1 < 16
  · rw [if_pos hplain]
    exact .inr ⟨'.', List.mem_append_cons_self, by decide⟩
  · rw [if_neg hplain]
    obtain ⟨mark, hmark, hlower⟩ := hexponent (d.point - 1)
    split
    · exact .inl rfl
    · exact .inr ⟨mark, List.mem_cons_of_mem _ hmark, hlower⟩
    · exact .inr ⟨mark, by simp [hmark], hlower⟩

theorem not_isWord_float (x : Binary64) : ¬ Text.IsWord x.text := by
  intro h
  cases x with
  | nan => exact h.noName.1 rfl
  | infinite s =>
    cases s with
    | false => exact h.noName.2 rfl
    | true => exact absurd (h.letters '-' (by decide)) (by decide)
  | finite s m q =>
    cases s with
    | true =>
      have hsign : '-' ∈ (Binary64.finite true m q).text.toList := by simp [Binary64.text]
      exact absurd (h.letters '-' hsign) (by decide)
    | false =>
      have hbody : (Binary64.finite false m q).text.toList =
          if m = 0 then ['0', '.', '0'] else (Number.shortestDecimal m q).text := by
        simp [Binary64.text]
      by_cases hm : m = 0
      · have hzero : '0' ∈ (Binary64.finite false m q).text.toList := by
          rw [hbody, if_pos hm]
          exact List.mem_cons_self
        exact absurd (h.letters '0' hzero) (by decide)
      · rw [if_neg hm] at hbody
        rcases exists_mark_decimal (Number.shortestDecimal m q) with hnone | ⟨c, hc, hlower⟩
        · exact h.nonempty (String.toList_eq_nil_iff.mp (hbody.trans hnone))
        · have hletter := h.letters c (hbody ▸ hc)
          rw [hlower] at hletter
          cases hletter

theorem mem_text_date (d : Date) : '-' ∈ d.text.toList := by
  simp [Date.text, toString]

namespace Value

/-- The text of what is no text holds something other than small letters, if it is not the name of a
number. -/
theorem not_isWord_text {v : Value} (hv : v.isText = false) : ¬ Text.IsWord v.text := by
  -- a character of the text is enough
  have hmark {s : String} {c : Char} (hc : c ∈ s.toList) (hlower : c.isLower = false) :
      ¬ Text.IsWord s := by
    intro h
    have hletter := h.letters c hc
    rw [hlower] at hletter
    cases hletter
  cases v with
  | str s => cases hv
  | null => exact hmark (c := 'N') (by decide) (by decide)
  | bool b =>
    cases b
    · exact hmark (c := 'F') (by decide) (by decide)
    · exact hmark (c := 'T') (by decide) (by decide)
  | int i =>
    cases i with
    | ofNat n =>
      obtain ⟨c, hc, hdigit⟩ := exists_isDigit_toString n
      exact hmark hc (not_isLower_of_isDigit hdigit)
    | negSucc n => exact hmark (c := '-') (by simp [text, expression, Int.repr]) (by decide)
  | float x => exact not_isWord_float x
  | bytes b =>
    refine hmark (c := Text.quoteFor (b.map fun byte => Char.ofNat byte.toNat)) ?_ ?_
    · simp [text, expression, Text.quotedBytes]
    · unfold Text.quoteFor
      split <;> decide
  | date d => exact hmark (mem_text_date d) (by decide)
  | moment m =>
    have hdate : '-' ∈ m.text.toList := by
      simp [Moment.text, Moment.textWith, toString, mem_text_date]
    exact hmark hdate (by decide)
  | list items => exact hmark (c := '[') (by simp [text, expression]) (by decide)
  | tuple items =>
    refine hmark (c := '(') ?_ (by decide)
    change '(' ∈ (expression (.tuple items)).toList
    rw [expression]
    split <;> simp
  | set items =>
    change ¬ Text.IsWord (expression (.set items))
    rw [expression]
    split
    · exact hmark (c := '(') (by decide) (by decide)
    · exact hmark (c := '\x7b') (by simp) (by decide)
  | map entries => exact hmark (c := '\x7b') (by simp [text, expression]) (by decide)
  | frozen entries => exact hmark (c := '\x7b') (by simp [text, expression]) (by decide)

/-- A word is the text of no value but itself. -/
theorem eq_str_of_text {v : Value} {word : String} (hword : Text.IsWord word) (h : v.text = word) :
    v = .str word := by
  cases v with
  | str s => exact congrArg Value.str h
  | _ => exact (not_isWord_text rfl (h.symm ▸ hword)).elim

end Value

end PluginDescriptor
