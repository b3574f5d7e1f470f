import Mathlib.Data.List.Basic
import PluginDescriptor.Proofs.Outcome
import PluginDescriptor.Text.Utf8

/-!
# What bytes of UTF-8 say

A character is written as a byte of its own or as a first byte with continuations, and reading takes
exactly these apart again (`encodes_iff`). So bytes are read as characters when they are the bytes of
those characters (`decodeUtf8_eq_ok_iff`), also when they come in pieces that cut characters in two
(`decodePiecewise_eq_ok_iff`).
-/

set_option autoImplicit false

namespace PluginDescriptor.Text

/-! ## One character -/

/-- A first byte, and how many bytes follow it with the range of the first of them. -/
inductive Opens (b : UInt8) : Nat × UInt8 × UInt8 → Prop where
  | two (h : 0xC2 ≤ b.toNat) (h' : b.toNat ≤ 0xDF) : Opens b (1, 0x80, 0xBF)
  | three (h : 0xE0 ≤ b.toNat) (h' : b.toNat ≤ 0xEF) :
      Opens b (2, if b.toNat = 0xE0 then 0xA0 else 0x80, if b.toNat = 0xED then 0x9F else 0xBF)
  | four (h : 0xF0 ≤ b.toNat) (h' : b.toNat ≤ 0xF4) :
      Opens b (3, if b.toNat = 0xF0 then 0x90 else 0x80, if b.toNat = 0xF4 then 0x8F else 0xBF)

theorem continuations?_eq (b : UInt8) : continuations? b =
    if b.toNat < 0xC2 then none
    else if b.toNat ≤ 0xDF then some (1, 0x80, 0xBF)
    else if b.toNat ≤ 0xEF then
      some (2, if b.toNat = 0xE0 then 0xA0 else 0x80, if b.toNat = 0xED then 0x9F else 0xBF)
    else if b.toNat ≤ 0xF4 then
      some (3, if b.toNat = 0xF0 then 0x90 else 0x80, if b.toNat = 0xF4 then 0x8F else 0xBF)
    else none := by
  unfold continuations?
  simp only [Bool.and_eq_true, decide_eq_true_eq, beq_iff_eq, UInt8.le_iff_toNat_le,
    ← UInt8.toNat_inj]
  grind

theorem continuations?_eq_some_iff {b : UInt8} {follow : Nat × UInt8 × UInt8} :
    continuations? b = some follow ↔ Opens b follow := by
  rw [continuations?_eq]
  constructor
  · intro h
    split at h
    · cases h
    · split at h
      · cases h
        exact .two (by omega) (by omega)
      · split at h
        · cases h
          exact .three (by omega) (by omega)
        · split at h
          · cases h
            exact .four (by omega) (by omega)
          · cases h
  · intro h
    cases h with
    | two h h' => rw [if_neg (by omega), if_pos h']
    | three h h' => rw [if_neg (by omega), if_neg (by omega), if_pos h']
    | four h h' => rw [if_neg (by omega), if_neg (by omega), if_neg (by omega), if_pos h']

/-- Bytes that may follow a first one: the next lies in a range of its own, those after it are any
continuations. -/
def Continue (lo hi : UInt8) : List UInt8 → Prop
  | [] => True
  | b :: rest => (lo ≤ b ∧ b ≤ hi) ∧ Continue 0x80 0xBF rest

/-- The code to which continuations add their payload. -/
def codeAfter (code : Nat) : List UInt8 → Nat
  | [] => code
  | b :: rest => codeAfter (code * 0x40 + b.toNat % 0x40) rest

/-- How reading takes the bytes of a character: as a byte of its own, or as a first byte with the
continuations that it asks for. -/
inductive Encodes (c : Char) : List UInt8 → Prop where
  | single {b : UInt8} (hb : b < 0x80) (hc : Char.ofNat b.toNat = c) : Encodes c [b]
  | continued {b lo hi : UInt8} {count : Nat} {tail : List UInt8} (hb : ¬ b < 0x80)
      (hfirst : continuations? b = some (count, lo, hi)) (hlength : tail.length = count)
      (htail : Continue lo hi tail) (hc : Char.ofNat (codeAfter (firstPayload b count) tail) = c) :
      Encodes c (b :: tail)

/-- The bytes of a code, as numbers. -/
def codeBytes (n : Nat) : List Nat :=
  if n ≤ 0x7F then [n]
  else if n ≤ 0x7FF then [n / 0x40 + 0xC0, n % 0x40 + 0x80]
  else if n ≤ 0xFFFF then [n / 0x1000 + 0xE0, n / 0x40 % 0x40 + 0x80, n % 0x40 + 0x80]
  else [n / 0x40000 + 0xF0, n / 0x1000 % 0x40 + 0x80, n / 0x40 % 0x40 + 0x80, n % 0x40 + 0x80]

theorem map_toNat_utf8EncodeChar (c : Char) :
    (String.utf8EncodeChar c).map UInt8.toNat = codeBytes c.toNat := by
  have hvalid : c.toNat.isValidChar := c.valid
  have hval : c.val.toNat = c.toNat := rfl
  unfold String.utf8EncodeChar codeBytes
  rw [hval]
  dsimp only
  generalize c.toNat = n at hvalid
  split_ifs <;>
    simp only [List.map_cons, List.map_nil, UInt8.toNat_ofNat', List.cons.injEq, and_true] <;>
    omega

/-- Bytes are those of a code exactly when their numbers are. -/
theorem eq_utf8EncodeChar_iff {n : Nat} (h : n.isValidChar) {bytes : List UInt8} :
    bytes = String.utf8EncodeChar (Char.ofNat n) ↔ bytes.map UInt8.toNat = codeBytes n := by
  have hcode : (Char.ofNat n).toNat = n := by
    rw [Char.ofNat, dif_pos h]
    rfl
  have hnumbers := map_toNat_utf8EncodeChar (Char.ofNat n)
  rw [hcode] at hnumbers
  rw [← hnumbers]
  exact (List.map_injective_iff.mpr fun _ _ => UInt8.toNat_inj.mp).eq_iff.symm

variable {b x y z : UInt8} {n : Nat}

theorem length_codeBytes_le (n : Nat) : (codeBytes n).length ≤ 4 := by
  unfold codeBytes
  split_ifs <;> simp

theorem codeBytes_ne_nil (n : Nat) : codeBytes n ≠ [] := by
  unfold codeBytes
  split_ifs <;> simp

/-! For each number of bytes, these are the bytes of a code exactly when they lie in the ranges that
reading asks for, and then their payloads make up the code. -/

theorem eq_codeBytes_one_iff :
    [b].map UInt8.toNat = codeBytes n ∧ n.isValidChar ↔ n = b.toNat ∧ b.toNat < 0x80 := by
  unfold codeBytes
  split_ifs <;> simp only [List.map_cons, List.map_nil, List.cons.injEq, and_true, reduceCtorEq,
      and_false, false_and, false_iff, Nat.isValidChar] <;> omega

theorem eq_codeBytes_two_iff :
    [b, x].map UInt8.toNat = codeBytes n ∧ n.isValidChar ↔
      n = b.toNat % 0x20 * 0x40 + x.toNat % 0x40 ∧ 0xC2 ≤ b.toNat ∧ b.toNat ≤ 0xDF ∧
        0x80 ≤ x.toNat ∧ x.toNat ≤ 0xBF := by
  unfold codeBytes
  split_ifs <;> simp only [List.map_cons, List.map_nil, List.cons.injEq, and_true, reduceCtorEq,
      and_false, false_and, false_iff, Nat.isValidChar] <;> omega

theorem eq_codeBytes_three_iff :
    [b, x, y].map UInt8.toNat = codeBytes n ∧ n.isValidChar ↔
      n = (b.toNat % 0x10 * 0x40 + x.toNat % 0x40) * 0x40 + y.toNat % 0x40 ∧
        0xE0 ≤ b.toNat ∧ b.toNat ≤ 0xEF ∧
        (if b.toNat = 0xE0 then 0xA0 else 0x80) ≤ x.toNat ∧
        x.toNat ≤ (if b.toNat = 0xED then 0x9F else 0xBF) ∧
        0x80 ≤ y.toNat ∧ y.toNat ≤ 0xBF := by
  unfold codeBytes
  split_ifs <;> simp only [List.map_cons, List.map_nil, List.cons.injEq, and_true, reduceCtorEq,
      and_false, false_and, false_iff, Nat.isValidChar] <;> omega

theorem eq_codeBytes_four_iff :
    [b, x, y, z].map UInt8.toNat = codeBytes n ∧ n.isValidChar ↔
      n = ((b.toNat % 8 * 0x40 + x.toNat % 0x40) * 0x40 + y.toNat % 0x40) * 0x40 + z.toNat % 0x40 ∧
        0xF0 ≤ b.toNat ∧ b.toNat ≤ 0xF4 ∧
        (if b.toNat = 0xF0 then 0x90 else 0x80) ≤ x.toNat ∧
        x.toNat ≤ (if b.toNat = 0xF4 then 0x8F else 0xBF) ∧
        0x80 ≤ y.toNat ∧ y.toNat ≤ 0xBF ∧ 0x80 ≤ z.toNat ∧ z.toNat ≤ 0xBF := by
  unfold codeBytes
  split_ifs <;> simp only [List.map_cons, List.map_nil, List.cons.injEq, and_true, reduceCtorEq,
      and_false, false_and, false_iff, Nat.isValidChar] <;> omega

/-- A first byte with the continuations that it asks for has the numbers of the code that they are
read as. -/
theorem map_toNat_of_continue {lo hi : UInt8} {count : Nat} {tail : List UInt8}
    (hfirst : continuations? b = some (count, lo, hi)) (hlength : tail.length = count)
    (htail : Continue lo hi tail) :
    (b :: tail).map UInt8.toNat = codeBytes (codeAfter (firstPayload b count) tail) ∧
      (codeAfter (firstPayload b count) tail).isValidChar := by
  cases continuations?_eq_some_iff.mp hfirst with
  | two h h' =>
    obtain ⟨x, rfl⟩ := List.length_eq_one_iff.mp hlength
    obtain ⟨⟨hlo, hhi⟩, -⟩ := htail
    rw [UInt8.le_iff_toNat_le] at hlo hhi
    exact eq_codeBytes_two_iff.mpr ⟨rfl, h, h', hlo, hhi⟩
  | three h h' =>
    obtain ⟨x, y, rfl⟩ := List.length_eq_two.mp hlength
    obtain ⟨⟨hlo, hhi⟩, ⟨hlo', hhi'⟩, -⟩ := htail
    rw [UInt8.le_iff_toNat_le] at hlo hhi hlo' hhi'
    rw [apply_ite UInt8.toNat] at hlo hhi
    exact eq_codeBytes_three_iff.mpr ⟨rfl, h, h', hlo, hhi, hlo', hhi'⟩
  | four h h' =>
    obtain ⟨x, y, z, rfl⟩ := List.length_eq_three.mp hlength
    obtain ⟨⟨hlo, hhi⟩, ⟨hlo', hhi'⟩, ⟨hlo'', hhi''⟩, -⟩ := htail
    rw [UInt8.le_iff_toNat_le] at hlo hhi hlo' hhi' hlo'' hhi''
    rw [apply_ite UInt8.toNat] at hlo hhi
    exact eq_codeBytes_four_iff.mpr ⟨rfl, h, h', hlo, hhi, hlo', hhi', hlo'', hhi''⟩

theorem not_lt_of_le_toNat {k : Nat} (h : k ≤ b.toNat) (hk : 0x80 ≤ k) : ¬ b < 0x80 := by
  rw [UInt8.lt_iff_toNat_lt]
  exact Nat.not_lt.mpr (Nat.le_trans hk h)

/-- Bytes with the numbers of a code are taken as its character. -/
theorem encodes_of_map_toNat {bytes : List UInt8} (hn : n.isValidChar)
    (h : bytes.map UInt8.toNat = codeBytes n) : Encodes (Char.ofNat n) bytes := by
  match bytes, h with
  | [], h => exact absurd h.symm (codeBytes_ne_nil n)
  | [b], h =>
    obtain ⟨hcode, hb⟩ := eq_codeBytes_one_iff.mp ⟨h, hn⟩
    exact .single (UInt8.lt_iff_toNat_lt.mpr hb) (congrArg Char.ofNat hcode.symm)
  | [b, x], h =>
    obtain ⟨hcode, hb, hb', hlo, hhi⟩ := eq_codeBytes_two_iff.mp ⟨h, hn⟩
    refine .continued (not_lt_of_le_toNat hb (by decide))
      (continuations?_eq_some_iff.mpr (.two hb hb')) rfl ⟨⟨?_, ?_⟩, trivial⟩
      (congrArg Char.ofNat hcode.symm)
    · exact UInt8.le_iff_toNat_le.mpr hlo
    · exact UInt8.le_iff_toNat_le.mpr hhi
  | [b, x, y], h =>
    obtain ⟨hcode, hb, hb', hlo, hhi, hlo', hhi'⟩ := eq_codeBytes_three_iff.mp ⟨h, hn⟩
    refine .continued (not_lt_of_le_toNat hb (by decide))
      (continuations?_eq_some_iff.mpr (.three hb hb')) rfl ⟨⟨?_, ?_⟩, ⟨?_, ?_⟩, trivial⟩
      (congrArg Char.ofNat hcode.symm)
    · rwa [UInt8.le_iff_toNat_le, apply_ite UInt8.toNat]
    · rwa [UInt8.le_iff_toNat_le, apply_ite UInt8.toNat]
    · exact UInt8.le_iff_toNat_le.mpr hlo'
    · exact UInt8.le_iff_toNat_le.mpr hhi'
  | [b, x, y, z], h =>
    obtain ⟨hcode, hb, hb', hlo, hhi, hlo', hhi', hlo'', hhi''⟩ := eq_codeBytes_four_iff.mp ⟨h, hn⟩
    refine .continued (not_lt_of_le_toNat hb (by decide))
      (continuations?_eq_some_iff.mpr (.four hb hb')) rfl ⟨⟨?_, ?_⟩, ⟨?_, ?_⟩, ⟨?_, ?_⟩, trivial⟩
      (congrArg Char.ofNat hcode.symm)
    · rwa [UInt8.le_iff_toNat_le, apply_ite UInt8.toNat]
    · rwa [UInt8.le_iff_toNat_le, apply_ite UInt8.toNat]
    · exact UInt8.le_iff_toNat_le.mpr hlo'
    · exact UInt8.le_iff_toNat_le.mpr hhi'
    · exact UInt8.le_iff_toNat_le.mpr hlo''
    · exact UInt8.le_iff_toNat_le.mpr hhi''
  | b :: x :: y :: z :: w :: rest, h =>
    have hlength := h ▸ length_codeBytes_le n
    simp only [List.length_map, List.length_cons] at hlength
    omega

/-- Reading takes the bytes of a character as those that it is written with, and no others. -/
theorem encodes_iff {c : Char} {bytes : List UInt8} :
    Encodes c bytes ↔ bytes = String.utf8EncodeChar c := by
  constructor
  · intro h
    cases h with
    | single hb hc =>
      obtain ⟨hbytes, hvalid⟩ := eq_codeBytes_one_iff.mpr ⟨rfl, UInt8.lt_iff_toNat_lt.mp hb⟩
      exact hc ▸ (eq_utf8EncodeChar_iff hvalid).mpr hbytes
    | continued hb hfirst hlength htail hc =>
      obtain ⟨hbytes, hvalid⟩ := map_toNat_of_continue hfirst hlength htail
      exact hc ▸ (eq_utf8EncodeChar_iff hvalid).mpr hbytes
  · rintro rfl
    have hencodes : Encodes (Char.ofNat c.toNat) (String.utf8EncodeChar c) :=
      encodes_of_map_toNat c.valid (map_toNat_utf8EncodeChar c)
    rwa [Char.ofNat_toNat] at hencodes

/-! ## Taking continuations -/

variable {lo hi : UInt8} {tail rest : List UInt8} {code : Nat}

/-- Continuations are taken, and what is behind them is left. -/
theorem takeContinuations_append (htail : Continue lo hi tail) (taken code : Nat) :
    takeContinuations lo hi tail.length taken code (tail ++ rest) =
      .ok (codeAfter code tail, rest) := by
  induction tail generalizing lo hi taken code with
  | nil => rfl
  | cons b tail ih =>
    obtain ⟨⟨hlo, hhi⟩, htail⟩ := htail
    have hrange : (decide (lo ≤ b) && decide (b ≤ hi)) = true := by
      rw [decide_eq_true hlo, decide_eq_true hhi]
      rfl
    rw [List.cons_append, List.length_cons, takeContinuations, if_pos hrange]
    exact ih htail _ _

/-- Continuations that end too early are found to do so. -/
theorem takeContinuations_short (htail : Continue lo hi tail) (missing taken code : Nat) :
    takeContinuations lo hi (tail.length + missing + 1) taken code tail =
      .error (taken + tail.length, true) := by
  induction tail generalizing lo hi taken code with
  | nil => rfl
  | cons b tail ih =>
    obtain ⟨⟨hlo, hhi⟩, htail⟩ := htail
    have hrange : (decide (lo ≤ b) && decide (b ≤ hi)) = true := by
      rw [decide_eq_true hlo, decide_eq_true hhi]
      rfl
    have hcount : (b :: tail).length + missing + 1 = (tail.length + missing + 1) + 1 := by
      rw [List.length_cons]
      omega
    rw [hcount, takeContinuations, if_pos hrange, ih htail, List.length_cons]
    congr 2
    omega

/-- What is taken are continuations. -/
theorem takeContinuations_eq_ok {count taken code' : Nat} {bytes : List UInt8}
    (h : takeContinuations lo hi count taken code bytes = .ok (code', rest)) :
    ∃ tail, bytes = tail ++ rest ∧ tail.length = count ∧ Continue lo hi tail ∧
      code' = codeAfter code tail := by
  induction count generalizing lo hi taken code bytes with
  | zero =>
    cases h
    exact ⟨[], rfl, rfl, trivial, rfl⟩
  | succ count ih =>
    cases bytes with
    | nil => cases h
    | cons b bytes =>
      rw [takeContinuations] at h
      split at h
      · rename_i hrange
        rw [Bool.and_eq_true, decide_eq_true_eq, decide_eq_true_eq] at hrange
        obtain ⟨tail, rfl, rfl, htail, rfl⟩ := ih h
        exact ⟨b :: tail, rfl, rfl, ⟨hrange, htail⟩, rfl⟩
      · cases h

theorem Continue.of_append {more : List UInt8} (h : Continue lo hi (tail ++ more)) :
    Continue lo hi tail := by
  induction tail generalizing lo hi with
  | nil => trivial
  | cons b tail ih => exact ⟨h.1, ih h.2⟩

/-! ## Reading characters -/

/-- The bytes that characters are written with. -/
def bytesOf (cs : List Char) : List UInt8 := cs.flatMap String.utf8EncodeChar

@[simp] theorem bytesOf_cons (c : Char) (cs : List Char) :
    bytesOf (c :: cs) = String.utf8EncodeChar c ++ bytesOf cs := rfl

@[simp] theorem bytesOf_append (cs cs' : List Char) :
    bytesOf (cs ++ cs') = bytesOf cs ++ bytesOf cs' := List.flatMap_append

/-- The bytes of an array in their order are those of its data. -/
theorem toList_loop_eq (bytes : ByteArray) (i : Nat) (taken : List UInt8) :
    ByteArray.toList.loop bytes i taken = taken.reverse ++ bytes.data.toList.drop i := by
  fun_induction ByteArray.toList.loop bytes i taken with
  | case1 i taken hi ih =>
    have hlength : i < bytes.data.toList.length := by simpa using hi
    rw [ih, List.drop_eq_getElem_cons hlength]
    simp [ByteArray.get!, hi]
  | case2 i taken hi =>
    rw [List.drop_eq_nil_of_le (by simpa using Nat.le_of_not_lt hi), List.append_nil]

/-- A text is written with the bytes of its characters. -/
theorem encodeUtf8_ofList (cs : List Char) : encodeUtf8 (String.ofList cs) = bytesOf cs := by
  rw [encodeUtf8, String.toUTF8_eq_toByteArray, String.toByteArray_ofList, ByteArray.toList,
    toList_loop_eq, List.reverse_nil, List.nil_append, List.drop_zero]
  exact List.toList_data_toByteArray

theorem encodeUtf8_eq (s : String) : encodeUtf8 s = bytesOf s.toList := by
  rw [← encodeUtf8_ofList, String.ofList_toList]

variable {c : Char} {bytes : List UInt8} {cs got : List Char} {fuel pos : Nat}

/-- The bytes of a character are read as it. -/
theorem decodeFrom_append (h : Encodes c bytes) (fuel pos : Nat) (got : List Char) :
    decodeFrom (fuel + 1) pos got (bytes ++ rest) =
      decodeFrom fuel (pos + bytes.length) (c :: got) rest := by
  cases h with
  | single hb hc =>
    rw [List.cons_append, decodeFrom, if_pos hb, hc]
    rfl
  | continued hb hfirst hlength htail hc =>
    subst hlength
    rw [List.cons_append, decodeFrom, if_neg hb, hfirst]
    dsimp only
    rw [takeContinuations_append htail]
    dsimp only
    rw [hc, List.length_cons, Nat.add_assoc]

/-- A character that is cut off is found to end too early. -/
theorem decodeFrom_short {front back : List UInt8} (h : Encodes c (front ++ back))
    (hfront : front ≠ []) (hback : back ≠ []) (fuel pos : Nat) (got : List Char) :
    ∃ b, decodeFrom (fuel + 1) pos got front =
      .error ⟨pos, pos + front.length, b, endReason⟩ := by
  obtain ⟨b, tail, rfl⟩ := List.exists_cons_of_ne_nil hfront
  rw [List.cons_append] at h
  generalize hwhole : tail ++ back = whole at h
  cases h with
  | single hb hc => exact absurd (List.append_eq_nil_iff.mp hwhole).2 hback
  | @continued _ lo hi _ _ hb hfirst hlength htail hc =>
    subst hlength hwhole
    have hmissing : (tail ++ back).length = tail.length + (back.length - 1) + 1 := by
      have hpos := List.length_pos_iff.mpr hback
      rw [List.length_append]
      omega
    refine ⟨b, ?_⟩
    rw [decodeFrom, if_neg hb, hfirst]
    dsimp only
    rw [hmissing, takeContinuations_short htail.of_append]
    dsimp only
    rw [Nat.zero_add, List.length_cons, Nat.add_assoc]

/-- What is read as characters are the bytes of these. -/
theorem eq_bytesOf_of_decodeFrom (hfuel : bytes.length < fuel)
    (h : decodeFrom fuel pos got bytes = .ok cs) :
    ∃ new, cs = got.reverse ++ new ∧ bytes = bytesOf new := by
  induction fuel generalizing pos got bytes with
  | zero => exact absurd hfuel (Nat.not_lt_zero _)
  | succ fuel ih =>
    -- One character is read, and the rest by the hypothesis.
    have hstep : ∀ {c : Char} {front rest : List UInt8} {pos : Nat}, Encodes c front →
        bytes = front ++ rest → decodeFrom fuel pos (c :: got) rest = .ok cs →
        ∃ new, cs = got.reverse ++ new ∧ bytes = bytesOf new := by
      intro c front rest pos hfront hbytes hrest
      have hlt : rest.length < fuel := by
        have hpos : 0 < front.length := by cases hfront <;> exact Nat.succ_pos _
        rw [hbytes, List.length_append] at hfuel
        omega
      obtain ⟨new, rfl, rfl⟩ := ih hlt hrest
      refine ⟨c :: new, ?_, ?_⟩
      · rw [List.reverse_cons, List.append_assoc, List.singleton_append]
      · rw [hbytes, encodes_iff.mp hfront, bytesOf_cons]
    cases bytes with
    | nil =>
      cases h
      exact ⟨[], (List.append_nil _).symm, rfl⟩
    | cons b rest =>
      rw [decodeFrom] at h
      split at h
      · rename_i hb
        exact hstep (.single hb rfl) rfl h
      · rename_i hb
        split at h
        · cases h
        · rename_i count lo hi hfirst
          split at h
          · rename_i code rest' htake
            obtain ⟨tail, rfl, hlength, htail, rfl⟩ := takeContinuations_eq_ok htake
            exact hstep (.continued hb hfirst hlength htail rfl) rfl h
          · cases h
          · cases h

theorem encodes_utf8EncodeChar (c : Char) : Encodes c (String.utf8EncodeChar c) :=
  encodes_iff.mpr rfl

/-- The bytes of characters are read as these. -/
theorem decodeFrom_bytesOf (hfuel : (bytesOf cs).length < fuel) (pos : Nat) (got : List Char) :
    decodeFrom fuel pos got (bytesOf cs) = .ok (got.reverse ++ cs) := by
  induction cs generalizing fuel pos got with
  | nil =>
    cases fuel <;> exact congrArg Except.ok (List.append_nil _).symm
  | cons c cs ih =>
    obtain ⟨fuel, rfl⟩ := Nat.exists_eq_succ_of_ne_zero (Nat.ne_zero_of_lt hfuel)
    have hpos := List.length_pos_iff.mpr (String.utf8EncodeChar_ne_nil (c := c))
    rw [bytesOf_cons, List.length_append] at hfuel
    rw [bytesOf_cons, decodeFrom_append (encodes_utf8EncodeChar c), ih (by omega),
      List.reverse_cons, List.append_assoc, List.singleton_append]

/-- Bytes in front of others, if these are the bytes of a character and more, hold the character or
are a part of it. -/
theorem append_eq_append_cases {x : List UInt8} (h : bytes ++ tail = x ++ rest) :
    (∃ left, bytes = x ++ left ∧ rest = left ++ tail) ∨ ∃ back, back ≠ [] ∧ x = bytes ++ back := by
  obtain ⟨back, hx, htail⟩ | hleft := List.append_eq_append_iff.mp h
  · cases back with
    | nil => exact .inl ⟨[], by simpa using hx.symm, by simpa using htail.symm⟩
    | cons b back => exact .inr ⟨b :: back, List.cons_ne_nil b back, hx⟩
  · exact .inl hleft

/-- The beginning of the bytes of characters is read as some of them, or ends in the middle of one. -/
theorem decodeFrom_of_append_eq {more : List UInt8} (h : bytes ++ more = bytesOf cs)
    (hfuel : bytes.length < fuel) (pos : Nat) (got : List Char) :
    ∃ taken left, cs = taken ++ left ∧
      (bytes = bytesOf taken ∧ decodeFrom fuel pos got bytes = .ok (got.reverse ++ taken) ∨
        ∃ b front, bytes = bytesOf taken ++ front ∧ decodeFrom fuel pos got bytes =
          .error ⟨pos + (bytesOf taken).length, pos + bytes.length, b, endReason⟩) := by
  induction cs generalizing bytes fuel pos got with
  | nil =>
    obtain ⟨rfl, -⟩ := List.append_eq_nil_iff.mp h
    have hread : decodeFrom fuel pos got (bytesOf []) = .ok (got.reverse ++ []) :=
      decodeFrom_bytesOf hfuel pos got
    exact ⟨[], [], rfl, .inl ⟨rfl, hread⟩⟩
  | cons c cs ih =>
    obtain ⟨fuel, rfl⟩ := Nat.exists_eq_succ_of_ne_zero (Nat.ne_zero_of_lt hfuel)
    obtain ⟨rest, rfl, hrest⟩ | ⟨back, hback, hc⟩ := append_eq_append_cases h
    · have hpos := List.length_pos_iff.mpr (String.utf8EncodeChar_ne_nil (c := c))
      rw [List.length_append] at hfuel
      have hfewer : rest.length < fuel := by omega
      obtain ⟨taken, left, rfl, hcases⟩ := ih hrest.symm hfewer
        (pos + (String.utf8EncodeChar c).length) (c :: got)
      refine ⟨c :: taken, left, rfl, ?_⟩
      rw [decodeFrom_append (encodes_utf8EncodeChar c), bytesOf_cons]
      obtain ⟨hbytes, hok⟩ | ⟨b, front, hbytes, herror⟩ := hcases
      · refine .inl ⟨by rw [hbytes], ?_⟩
        rw [hok, List.reverse_cons, List.append_assoc, List.singleton_append]
      · refine .inr ⟨b, front, by rw [hbytes, List.append_assoc], ?_⟩
        rw [herror, List.length_append, List.length_append, Nat.add_assoc, Nat.add_assoc]
    · by_cases hnone : bytes = []
      · subst hnone
        exact ⟨[], c :: cs, rfl, .inl ⟨rfl, congrArg Except.ok (List.append_nil _).symm⟩⟩
      · have hwhole : Encodes c (bytes ++ back) := hc ▸ encodes_utf8EncodeChar c
        obtain ⟨b, herror⟩ := decodeFrom_short hwhole hnone hback fuel pos got
        exact ⟨[], c :: cs, rfl, .inr ⟨b, bytes, rfl, herror⟩⟩

/-! ## Reading all at once, and piece by piece -/

/-- Bytes are read as characters exactly when they are the bytes of these. -/
theorem decodeUtf8_eq_ok_iff : decodeUtf8 bytes = .ok cs ↔ bytes = bytesOf cs := by
  constructor
  · intro h
    obtain ⟨new, hnew, hbytes⟩ := eq_bytesOf_of_decodeFrom (Nat.lt_succ_self _) h
    rw [hbytes, hnew]
    rfl
  · rintro rfl
    exact decodeFrom_bytesOf (Nat.lt_succ_self _) 0 []

/-- Bytes that come in pieces are read as characters exactly when all of them together are the bytes
of these, however they are cut. -/
theorem decodePiecewise_eq_ok_iff (size fuel : Nat) (carried rest : List UInt8) (cs : List Char) :
    decodePiecewise size fuel carried rest = .ok cs ↔ carried ++ rest = bytesOf cs := by
  induction fuel generalizing carried rest cs with
  | zero => exact decodeUtf8_eq_ok_iff
  | succ fuel ih =>
    rw [decodePiecewise]
    split
    · rename_i hempty
      rw [List.isEmpty_iff.mp hempty, List.append_nil]
      exact decodeUtf8_eq_ok_iff
    · have hwhole : carried ++ rest = (carried ++ rest.take size) ++ rest.drop size := by
        rw [List.append_assoc, List.take_append_drop]
      rw [hwhole]
      generalize carried ++ rest.take size = bytes
      generalize rest.drop size = more
      dsimp only
      constructor
      · intro h
        split at h
        · rename_i taken htaken
          obtain ⟨left, hleft, rfl⟩ := map_eq_ok_iff.mp h
          rw [bytesOf_append, decodeUtf8_eq_ok_iff.mp htaken, ← (ih [] more left).mp hleft]
          rfl
        · rename_i fault _
          split at h
          · obtain ⟨taken, htaken, hrest⟩ := bind_eq_ok_iff.mp h
            obtain ⟨left, hleft, hend⟩ := bind_eq_ok_iff.mp hrest
            cases hend
            rw [bytesOf_append, ← decodeUtf8_eq_ok_iff.mp htaken, ← (ih _ more left).mp hleft,
              ← List.append_assoc, List.take_append_drop]
          · cases h
      · intro h
        obtain ⟨taken, left, rfl, ⟨rfl, hread⟩ | ⟨b, front, rfl, hread⟩⟩ :=
          decodeFrom_of_append_eq h (Nat.lt_succ_self _) 0 []
        · have hdecoded : decodeUtf8 (bytesOf taken) = .ok taken := hread
          rw [bytesOf_append, List.append_cancel_left_eq] at h
          rw [hdecoded, (ih [] more left).mpr h]
          rfl
        · have hfault : decodeUtf8 (bytesOf taken ++ front) =
              .error ⟨(bytesOf taken).length, (bytesOf taken ++ front).length, b, endReason⟩ := by
            rw [decodeUtf8, hread, Nat.zero_add, Nat.zero_add]
          have hdecoded : decodeUtf8 (bytesOf taken) = .ok taken := decodeUtf8_eq_ok_iff.mpr rfl
          rw [bytesOf_append, List.append_assoc, List.append_cancel_left_eq] at h
          rw [hfault]
          dsimp only
          rw [if_pos (by simp), List.take_left, List.drop_left, hdecoded, ok_bind_eq,
            (ih front more left).mpr h]
          rfl

end PluginDescriptor.Text
