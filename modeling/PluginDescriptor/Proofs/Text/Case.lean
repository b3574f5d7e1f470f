import PluginDescriptor.Proofs.Text.Numeral
import PluginDescriptor.Text.Case

/-!
# Upper case

Digits and ASCII capitals are their own upper case, and no other character has an upper-case form
that begins with a digit (`exists_upperForm_eq`): a text that is no run of digits does not turn into
one.
-/

set_option autoImplicit false

namespace PluginDescriptor.Text

/-! ## Characters without another form -/

theorem isLower_iff_val {c : Char} : c.isLower = true ↔ 'a'.val ≤ c.val ∧ c.val ≤ 'z'.val := by
  have hdef : c.isLower = (decide ('a'.val ≤ c.val) && decide (c.val ≤ 'z'.val)) := rfl
  rw [hdef, Bool.and_eq_true, decide_eq_true_iff, decide_eq_true_iff]

theorem isLower_iff {c : Char} : c.isLower = true ↔ 0x61 ≤ c.toNat ∧ c.toNat ≤ 0x7A := by
  simp [isLower_iff_val, UInt32.le_iff_toNat_le, ← Char.toNat_val]

theorem upperForm_of_ascii {c : Char} (hascii : c.toNat < 0x80) (hlower : c.isLower = false) :
    upperForm c = [c] := by
  have hupper : c.toUpper = c := by
    unfold Char.toUpper
    rw [dif_neg]
    rw [← isLower_iff_val, hlower]
    exact Bool.false_ne_true
  unfold upperForm
  rw [if_pos hascii, hupper]

theorem upperForm_of_isDigit {c : Char} (h : c.isDigit = true) : upperForm c = [c] := by
  have hbounds := toNat_of_isDigit h
  have hlower : c.isLower = false := by
    rw [← Bool.not_eq_true, isLower_iff]
    omega
  exact upperForm_of_ascii (by omega) hlower

/-- A text without other forms is in upper case. -/
theorem flatMap_upperForm {s : List Char} (h : ∀ c ∈ s, upperForm c = [c]) :
    s.flatMap upperForm = s := by
  induction s with
  | nil => rfl
  | cons c s ih =>
    obtain ⟨hc, hs⟩ := List.forall_mem_cons.mp h
    rw [List.flatMap_cons, hc, ih hs]
    rfl

/-! ## No digits from letters -/

theorem isDigit_ofNat {n : Nat} (h : n < 0x30 ∨ 0x39 < n) : (Char.ofNat n).isDigit = false := by
  rw [← Bool.not_eq_true]
  intro hdigit
  have hbounds := toNat_of_isDigit hdigit
  by_cases hvalid : n.isValidChar
  · have hcode : (Char.ofNat n).toNat = n := by
      unfold Char.ofNat
      rw [dif_pos hvalid]
      rfl
    omega
  · have hcode : (Char.ofNat n).toNat = 0 := by
      unfold Char.ofNat
      rw [dif_neg hvalid]
      rfl
    omega

/-- Within ASCII no character becomes a digit in upper case. -/
theorem isDigit_toUpper_ofNat : ∀ n < 0x80, (Char.ofNat n).isDigit = false →
    (Char.ofNat n).toUpper.isDigit = false := by
  decide +kernel

/-- No row of the table moves a code point onto a digit. -/
theorem upperRows_avoid_digits : ∀ row ∈ upperRows.toList,
    (row.hi : Int) + row.shift < 0x30 ∨ 0x39 < (row.lo : Int) + row.shift := by
  decide +kernel

/-- No form of several characters is empty or begins with a digit. -/
theorem upperExpansions_avoid_digits :
    ∀ entry ∈ upperExpansions.toList, ∃ code ∈ entry.2.head?, code < 0x30 ∨ 0x39 < code := by
  decide +kernel

theorem isDigit_of_shiftBy? {code image : Nat} (h : shiftBy? upperRows code = some image) :
    (Char.ofNat image).isDigit = false := by
  obtain ⟨row, hrow, himage⟩ := Array.exists_of_findSome?_eq_some h
  have havoid := upperRows_avoid_digits row hrow.val
  unfold ShiftRow.image? at himage
  split at himage
  · rename_i hin
    have hshift : ((code : Int) + row.shift).toNat = image := Option.some.inj himage
    exact isDigit_ofNat (by omega)
  · cases himage

/-- The upper-case form of a character is not empty, and begins with a digit only if the character
is one. -/
theorem exists_upperForm_eq {c : Char} (h : c.isDigit = false) :
    ∃ d rest, upperForm c = d :: rest ∧ d.isDigit = false := by
  unfold upperForm
  split
  · rename_i hascii
    have hupper := isDigit_toUpper_ofNat c.toNat hascii
    rw [Char.ofNat_toNat] at hupper
    exact ⟨c.toUpper, [], rfl, hupper h⟩
  · split
    · rename_i entry form hfind
      have hmem := Array.mem_of_find?_eq_some hfind
      obtain ⟨code, hhead, hcode⟩ := upperExpansions_avoid_digits _ hmem.val
      obtain ⟨rest, rfl⟩ := List.head?_eq_some_iff.mp hhead
      exact ⟨Char.ofNat code, rest.map Char.ofNat, rfl, isDigit_ofNat hcode⟩
    · cases hshift : shiftBy? upperRows c.toNat with
      | none => exact ⟨c, [], rfl, h⟩
      | some image => exact ⟨Char.ofNat image, [], rfl, isDigit_of_shiftBy? hshift⟩

end PluginDescriptor.Text
