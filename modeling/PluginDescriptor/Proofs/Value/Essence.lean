import Mathlib.Data.Rat.Defs
import Mathlib.Algebra.Order.Field.Rat
import PluginDescriptor.Value.Collection

/-!
# What keys have in common when they are equal

Equality of values cuts across their kinds, and it is no equivalence: what is no number equals
nothing, and collections compare in ways of their own. On values that can be keys it comes to this:
a key has an essence or equals nothing, and equal keys are those of one essence (`Value.same_iff`).
-/

set_option autoImplicit false

namespace PluginDescriptor

open Number (Binary64)

namespace Value

/-- What equal keys share: a number by its value, a moment by its instant, a tuple item by item. -/
inductive Essence where
  | null
  | number (q : ℚ)
  | infinite (negative : Bool)
  | text (s : String)
  | bytes (b : List UInt8)
  | date (d : Date)
  | moment (aware : Bool) (instant : Int)
  | tuple (items : List Essence)

/-- The essence of a fractional number; what is no number has none. -/
def floatEssence? : Binary64 → Option Essence
  | .nan => none
  | .infinite negative => some (.infinite negative)
  | .finite negative mantissa exponent =>
    let (num, den) := Binary64.signedRatio negative mantissa exponent
    some (.number (num / den))

mutual

/-- The essence of a value that can be a key. -/
def essence? : Value → Option Essence
  | .null => some .null
  | .bool b => some (.number (ofTruth b))
  | .int i => some (.number i)
  | .float x => floatEssence? x
  | .str s => some (.text s)
  | .bytes b => some (.bytes b)
  | .date d => some (.date d)
  | .moment m => some (.moment m.offset.isSome m.instant)
  | .tuple items => (essences? items).map .tuple
  | _ => none

/-- The essences of all items. -/
def essences? : List Value → Option (List Essence)
  | [] => some []
  | v :: rest => (essence? v).bind fun e => (essences? rest).map (e :: ·)

end

/-! ## Numbers -/

theorem den_signedRatio_ne_zero (negative : Bool) (mantissa : Nat) (exponent : Int) :
    ((Binary64.signedRatio negative mantissa exponent).2 : ℚ) ≠ 0 := by
  simp only [Binary64.signedRatio, Binary64.ratio, Number.scaled]
  split <;> simp

theorem sameInt_iff (x : Binary64) (i : Int) :
    x.sameInt i = true ↔ floatEssence? x = some (.number i) := by
  cases x with
  | nan => simp [Binary64.sameInt, floatEssence?]
  | infinite negative => simp [Binary64.sameInt, floatEssence?]
  | finite negative mantissa exponent =>
    have hden := den_signedRatio_ne_zero negative mantissa exponent
    simp only [Binary64.sameInt, floatEssence?, beq_iff_eq, Option.some.injEq,
      Essence.number.injEq]
    rw [div_eq_iff hden]
    exact_mod_cast Iff.rfl

theorem sameNumber_iff (x y : Binary64) :
    x.sameNumber y = true ↔ floatEssence? x = floatEssence? y ∧ (floatEssence? y).isSome := by
  cases x with
  | nan => cases y <;> simp [Binary64.sameNumber, floatEssence?]
  | infinite negative => cases y <;> simp [Binary64.sameNumber, floatEssence?]
  | finite negative mantissa exponent =>
    cases y with
    | nan => simp [Binary64.sameNumber, floatEssence?]
    | infinite _ => simp [Binary64.sameNumber, floatEssence?]
    | finite negative' mantissa' exponent' =>
      have hden := den_signedRatio_ne_zero negative mantissa exponent
      have hden' := den_signedRatio_ne_zero negative' mantissa' exponent'
      simp only [Binary64.sameNumber, floatEssence?, beq_iff_eq, Option.some.injEq,
        Option.isSome_some, and_true, Essence.number.injEq]
      rw [div_eq_div_iff hden hden']
      exact_mod_cast Iff.rfl

/-! ## Keys -/

theorem ofTruth_eq_iff (a b : Bool) : ofTruth a = ofTruth b ↔ a = b := by
  cases a <;> cases b <;> decide

mutual

/-- A value equals one that can be a key when the two have an essence, and the same one. -/
theorem same_iff (a b : Value) (hb : changeable? b = none) :
    a.same b = true ↔ essence? a = essence? b ∧ (essence? b).isSome := by
  unfold same
  cases b with
  | list items => cases hb
  | set items => cases hb
  | map entries => cases hb
  | frozen entries => cases hb
  | tuple items =>
    cases a with
    | tuple others =>
      rw [sameWith, sameItems_iff others items hb, essence?, essence?]
      cases essences? others <;> cases essences? items <;> simp
    | float x =>
      cases h : essences? items <;> cases x <;> simp [sameWith, essence?, floatEssence?, h]
    | _ => cases h : essences? items <;> simp [sameWith, essence?, h]
  | float y =>
    cases a with
    | float x => exact sameNumber_iff x y
    | bool x =>
      rw [sameWith, sameInt_iff, essence?, essence?]
      exact ⟨fun h => ⟨h.symm, by rw [h]; rfl⟩, fun h => h.1.symm⟩
    | int x =>
      rw [sameWith, sameInt_iff, essence?, essence?]
      exact ⟨fun h => ⟨h.symm, by rw [h]; rfl⟩, fun h => h.1.symm⟩
    | tuple others =>
      cases h : essences? others <;> cases y <;> simp [sameWith, essence?, floatEssence?, h]
    | _ => cases y <;> simp [sameWith, essence?, floatEssence?]
  | bool y =>
    cases a with
    | bool x => simp [sameWith, essence?, ofTruth_eq_iff]
    | float x => simp [sameWith, sameInt_iff, essence?]
    | tuple others => cases h : essences? others <;> simp [sameWith, essence?, h]
    | _ => simp [sameWith, essence?]
  | int y =>
    cases a with
    | float x => simp [sameWith, sameInt_iff, essence?]
    | tuple others => cases h : essences? others <;> simp [sameWith, essence?, h]
    | _ => simp [sameWith, essence?]
  | _ =>
    cases a with
    | float x => cases x <;> simp [sameWith, essence?, floatEssence?]
    | tuple others => cases h : essences? others <;> simp [sameWith, essence?, h]
    | _ => simp [sameWith, essence?, Moment.same]

theorem sameItems_iff (as bs : List Value) (hbs : changeableIn? bs = none) :
    sameItems Binary64.sameNumber as bs = true ↔
      essences? as = essences? bs ∧ (essences? bs).isSome := by
  cases as with
  | nil =>
    cases bs with
    | nil => simp [sameItems, essences?]
    | cons b bs =>
      simp only [sameItems, essences?]
      cases essence? b <;> cases essences? bs <;> simp
  | cons a as =>
    cases bs with
    | nil =>
      simp only [sameItems, essences?]
      cases essence? a <;> cases essences? as <;> simp
    | cons b bs =>
      rw [changeableIn?, Option.or_eq_none_iff] at hbs
      have ha := same_iff a b hbs.1
      have has := sameItems_iff as bs hbs.2
      unfold same at ha
      rw [sameItems, Bool.and_eq_true, ha, has, essences?, essences?]
      cases essence? a <;> cases essence? b <;> cases essences? as <;> cases essences? bs <;> simp

end

/-- Equal keys are equal to the same values. -/
theorem same_congr {k l : Value} (hk : changeable? k = none) (hl : changeable? l = none)
    (h : k.same l = true) (v : Value) : v.same k = v.same l := by
  have hkl := (same_iff k l hl).mp h
  rw [Bool.eq_iff_iff, same_iff v k hk, same_iff v l hl, hkl.1]

/-- What equals a key equals the same keys as it does. -/
theorem same_congr_left {v k l : Value} (hk : changeable? k = none) (hl : changeable? l = none)
    (h : v.same k = true) : v.same l = k.same l := by
  have hvk := (same_iff v k hk).mp h
  rw [Bool.eq_iff_iff, same_iff v l hl, same_iff k l hl, hvk.1]

/-- Keys that a value equals are equal. -/
theorem same_of_same {k l v : Value} (hk : changeable? k = none) (hl : changeable? l = none)
    (h : v.same k = true) (h' : v.same l = true) : k.same l = true := by
  rw [← same_congr_left hk hl h]
  exact h'

end Value

end PluginDescriptor
