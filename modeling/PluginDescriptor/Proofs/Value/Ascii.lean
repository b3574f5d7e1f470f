import PluginDescriptor.Proofs.Outcome
import PluginDescriptor.Proofs.Text.Numeral
import PluginDescriptor.Text.Encoding
import PluginDescriptor.Value.Json

/-!
# Pages of JSON are ASCII

Where JSON escapes all characters outside ASCII, its text is ASCII from end to end: texts and keys are
escaped, and numbers are written with digits, signs and a few letters (`Value.areAscii_jsonAt`). So every
encoding has the characters of such a page.
-/

set_option autoImplicit false

namespace PluginDescriptor

open Number (Binary64 Decimal)

/-! ## Texts -/

/-- All characters are those of ASCII. -/
def Text.AreAscii (cs : List Char) : Prop := ∀ c ∈ cs, Text.isAscii c = true

namespace Text

-- The row is gone through, not the type of all characters.
instance (cs : List Char) : Decidable (AreAscii cs) := List.decidableBAll _ cs

theorem areAscii_append_iff {cs ds : List Char} : AreAscii (cs ++ ds) ↔ AreAscii cs ∧ AreAscii ds :=
  List.forall_mem_append

theorem areAscii_cons_iff {c : Char} {cs : List Char} :
    AreAscii (c :: cs) ↔ isAscii c = true ∧ AreAscii cs :=
  List.forall_mem_cons

theorem areAscii_nil : AreAscii [] := List.forall_mem_nil _

theorem areAscii_replicate {c : Char} (h : isAscii c = true) (n : Nat) :
    AreAscii (List.replicate n c) := by
  intro d hd
  rw [(List.mem_replicate.mp hd).2]
  exact h

theorem areAscii_flatMap {α : Type} {row : List α} {f : α → List Char}
    (h : ∀ a ∈ row, AreAscii (f a)) : AreAscii (row.flatMap f) := by
  intro c hc
  obtain ⟨a, ha, hca⟩ := List.mem_flatMap.mp hc
  exact h a ha c hca

theorem areAscii_join {sep : String} {texts : List String} (hsep : AreAscii sep.toList)
    (h : ∀ s ∈ texts, AreAscii s.toList) : AreAscii (join sep texts).toList := by
  rw [join, String.toList_intercalate]
  induction texts with
  | nil => exact areAscii_nil
  | cons s rest ih =>
    obtain ⟨hs, hrest⟩ := List.forall_mem_cons.mp h
    cases rest with
    | nil => simpa using hs
    | cons t rest =>
      rw [List.map_cons, List.map_cons, List.intercalate_cons_cons, areAscii_append_iff,
        areAscii_append_iff]
      exact ⟨⟨hs, hsep⟩, ih hrest⟩

theorem areAscii_replicate_text {s : String} (h : AreAscii s.toList) (n : Nat) :
    AreAscii (replicate n s).toList := by
  rw [replicate]
  induction n with
  | zero => exact areAscii_nil
  | succ n ih =>
    rw [List.replicate_succ, String.join_cons, String.toList_append, areAscii_append_iff]
    exact ⟨h, ih⟩

/-! ## Digits -/

theorem isAscii_of_isDigit {c : Char} (h : c.isDigit = true) : isAscii c = true := by
  obtain ⟨-, hle⟩ := toNat_of_isDigit h
  exact decide_eq_true (by omega)

theorem areAscii_toDigits (n : Nat) : AreAscii (Nat.toDigits 10 n) :=
  fun _ hc => isAscii_of_isDigit (isDigit_of_mem_toDigits hc)

theorem isAscii_digitChar (d : Nat) : isAscii (Nat.digitChar d) = true := by
  by_cases hd : d < 16
  · revert d
    decide
  · rw [Nat.digitChar]
    repeat rw [if_neg (by omega)]
    rfl

/-- In every base, digits are put in front of those that are there. -/
theorem areAscii_toDigitsCore (base fuel n : Nat) {ds : List Char} (h : AreAscii ds) :
    AreAscii (Nat.toDigitsCore base fuel n ds) := by
  induction fuel generalizing n ds with
  | zero => exact h
  | succ fuel ih =>
    have hcons : AreAscii (Nat.digitChar (n % base) :: ds) :=
      areAscii_cons_iff.mpr ⟨isAscii_digitChar _, h⟩
    rw [Nat.toDigitsCore]
    split
    · exact hcons
    · exact ih _ hcons

theorem areAscii_hexDigits (width n : Nat) : AreAscii (hexDigits width n) :=
  areAscii_append_iff.mpr
    ⟨areAscii_replicate (by decide) _, areAscii_toDigitsCore 16 _ n areAscii_nil⟩

end Text

/-! ## Numbers -/

theorem areAscii_int (i : Int) : Text.AreAscii (toString i).toList := by
  have hnat (n : Nat) : Text.AreAscii (toString n).toList := by
    rw [Nat.toString_eq_repr, Nat.toList_repr]
    exact Text.areAscii_toDigits n
  cases i with
  | ofNat n => exact hnat n
  | negSucc n =>
    have htext : (toString (Int.negSucc n)).toList = '-' :: (toString (n + 1)).toList := by
      simp [toString, Int.repr]
    rw [htext]
    exact Text.areAscii_cons_iff.mpr ⟨by decide, hnat (n + 1)⟩

namespace Number

theorem areAscii_dropTrailingZeros {ds : List Char} (h : Text.AreAscii ds) :
    Text.AreAscii (dropTrailingZeros ds) := by
  have hkept : Text.AreAscii (ds.reverse.dropWhile (· == '0')).reverse := by
    intro c hc
    rw [List.mem_reverse] at hc
    have hmem : c ∈ ds.reverse := (List.dropWhile_suffix _).subset hc
    exact h c (List.mem_reverse.mp hmem)
  unfold dropTrailingZeros
  split
  · decide
  · exact hkept

theorem areAscii_shortestDecimal (m : Nat) (q : Int) : Text.AreAscii (shortestDecimal m q).digits := by
  unfold shortestDecimal
  dsimp only
  cases List.findSome? _ _ with
  | none => exact Text.areAscii_cons_iff.mpr ⟨by decide, Text.areAscii_nil⟩
  | some found => exact areAscii_dropTrailingZeros (Text.areAscii_toDigits _)

theorem areAscii_exponentText (e : Int) : Text.AreAscii (exponentText 'e' e) := by
  have hdigits : Text.AreAscii (digitsOf e.natAbs) := Text.areAscii_toDigits _
  rw [exponentText]
  refine Text.areAscii_cons_iff.mpr ⟨by decide, Text.areAscii_cons_iff.mpr ⟨?_, ?_⟩⟩
  · split <;> decide
  · split
    · exact Text.areAscii_cons_iff.mpr ⟨by decide, hdigits⟩
    · exact hdigits

theorem areAscii_positional {d : Decimal} (h : Text.AreAscii d.digits) :
    Text.AreAscii (positional d).1 ∧ Text.AreAscii (positional d).2 := by
  have hzero : Text.isAscii '0' = true := by decide
  rw [positional]
  split
  · exact ⟨Text.areAscii_cons_iff.mpr ⟨hzero, Text.areAscii_nil⟩,
      Text.areAscii_append_iff.mpr ⟨Text.areAscii_replicate hzero _, h⟩⟩
  · exact ⟨Text.areAscii_append_iff.mpr
      ⟨fun c hc => h c (List.mem_of_mem_take hc), Text.areAscii_replicate hzero _⟩,
      fun c hc => h c (List.mem_of_mem_drop hc)⟩

theorem areAscii_decimal {d : Decimal} (h : Text.AreAscii d.digits) : Text.AreAscii d.text := by
  have hexponent := areAscii_exponentText (d.point - 1)
  rw [Decimal.text]
  dsimp only
  split
  · obtain ⟨hwhole, hpart⟩ := areAscii_positional h
    refine Text.areAscii_append_iff.mpr ⟨hwhole, Text.areAscii_cons_iff.mpr ⟨by decide, ?_⟩⟩
    split
    · decide
    · exact hpart
  · split
    · exact Text.areAscii_nil
    · rename_i c hdigits
      rw [hdigits] at h
      exact Text.areAscii_cons_iff.mpr ⟨(Text.areAscii_cons_iff.mp h).1, hexponent⟩
    · rename_i c rest _ hdigits
      rw [hdigits] at h
      obtain ⟨hc, hrest⟩ := Text.areAscii_cons_iff.mp h
      exact Text.areAscii_cons_iff.mpr ⟨hc, Text.areAscii_cons_iff.mpr
        ⟨by decide, Text.areAscii_append_iff.mpr ⟨hrest, hexponent⟩⟩⟩

theorem areAscii_float (x : Binary64) : Text.AreAscii x.text.toList := by
  cases x with
  | nan => decide
  | infinite s => cases s <;> decide
  | finite s m q =>
    have hbody : Text.AreAscii (if m = 0 then ['0', '.', '0'] else (shortestDecimal m q).text) := by
      split
      · decide
      · exact areAscii_decimal (areAscii_shortestDecimal m q)
    rw [Binary64.text, String.toList_ofList]
    split
    · exact Text.areAscii_cons_iff.mpr ⟨by decide, hbody⟩
    · exact hbody

end Number

/-! ## Pages -/

namespace JsonStyle

theorem areAscii_charEscape (c : Char) : Text.AreAscii (charEscape c) := by
  have hunit (code : Nat) : Text.AreAscii (unitEscape code) :=
    Text.areAscii_cons_iff.mpr ⟨by decide, Text.areAscii_cons_iff.mpr
      ⟨by decide, Text.areAscii_hexDigits 4 code⟩⟩
  unfold charEscape
  dsimp only
  split
  · exact hunit _
  · exact Text.areAscii_append_iff.mpr ⟨hunit _, hunit _⟩

/-- A character is escaped, or it is one of ASCII. -/
theorem areAscii_quotedChar {style : JsonStyle} (h : style.asciiOnly = true) (c : Char) :
    Text.AreAscii (style.quotedChar c) := by
  unfold quotedChar
  split
  · rename_i hc
    rcases hc with rfl | rfl <;> decide
  · split_ifs with hn hr ht hb hf hescape
    · decide
    · decide
    · decide
    · decide
    · decide
    · exact areAscii_charEscape c
    · refine Text.areAscii_cons_iff.mpr ⟨decide_eq_true ?_, Text.areAscii_nil⟩
      simp only [h, true_and, not_or, not_le] at hescape
      omega

theorem areAscii_quoted {style : JsonStyle} (h : style.asciiOnly = true) (s : String) :
    Text.AreAscii (style.quoted s).toList := by
  rw [quoted, String.toList_ofList, List.cons_append]
  exact Text.areAscii_cons_iff.mpr ⟨by decide, Text.areAscii_append_iff.mpr
    ⟨Text.areAscii_flatMap fun c _ => areAscii_quotedChar h c, by decide⟩⟩

theorem areAscii_number (x : Binary64) : Text.AreAscii (number x).toList := by
  unfold number
  split
  · decide
  · decide
  · decide
  · exact Number.areAscii_float x

theorem areAscii_lineBreak (width depth : Nat) : Text.AreAscii (lineBreak width depth).toList := by
  rw [lineBreak, String.toList_append]
  exact Text.areAscii_append_iff.mpr ⟨by decide, Text.areAscii_replicate_text (by decide) _⟩

theorem areAscii_bracket (style : JsonStyle) (depth : Nat) {opening closing : String}
    {items : List String} (hopening : Text.AreAscii opening.toList)
    (hclosing : Text.AreAscii closing.toList) (h : ∀ item ∈ items, Text.AreAscii item.toList) :
    Text.AreAscii (style.bracket depth opening closing items).toList := by
  have hbreak := areAscii_lineBreak
  unfold bracket
  split
  · rw [String.toList_append]
    exact Text.areAscii_append_iff.mpr ⟨hopening, hclosing⟩
  · split
    · simp only [String.toList_append, Text.areAscii_append_iff]
      exact ⟨⟨hopening, Text.areAscii_join (by decide) h⟩, hclosing⟩
    · rename_i width _
      simp only [String.toList_append, Text.areAscii_append_iff]
      refine ⟨⟨⟨⟨hopening, hbreak _ _⟩, Text.areAscii_join ?_ h⟩, hbreak _ _⟩, hclosing⟩
      rw [String.toList_append, Text.areAscii_append_iff]
      exact ⟨by decide, hbreak _ _⟩

end JsonStyle

namespace Value

variable {style : JsonStyle}

mutual

theorem areAscii_jsonAt (h : style.asciiOnly = true) {depth : Nat} {v : Value} {s : String}
    (hs : v.jsonAt style depth = .ok s) : Text.AreAscii s.toList := by
  have hbracket (opening closing : String) (hopening : Text.AreAscii opening.toList)
      (hclosing : Text.AreAscii closing.toList) {items : Except Fault (List String)}
      (hitems : ∀ texts, items = .ok texts → ∀ item ∈ texts, Text.AreAscii item.toList)
      (hs : (do return style.bracket depth opening closing (← items) : Except Fault String) = .ok s) :
      Text.AreAscii s.toList := by
    obtain ⟨texts, htexts, hend⟩ := bind_eq_ok_iff.mp hs
    cases hend
    exact JsonStyle.areAscii_bracket style depth hopening hclosing (hitems texts htexts)
  cases v with
  | null =>
    cases hs
    decide
  | bool b =>
    cases hs
    cases b <;> decide
  | int i =>
    rw [jsonAt, written] at hs
    split at hs
    · cases hs
      exact areAscii_int i
    · cases hs
  | float x =>
    cases hs
    exact JsonStyle.areAscii_number x
  | str t =>
    cases hs
    exact JsonStyle.areAscii_quoted h t
  | list items | tuple items =>
    rw [jsonAt] at hs
    exact hbracket _ _ (by decide) (by decide) (fun _ htexts => areAscii_jsonItems h htexts) hs
  | map entries =>
    rw [jsonAt] at hs
    exact hbracket _ _ (by decide) (by decide) (fun _ htexts => areAscii_jsonEntries h htexts) hs
  | bytes _ | date _ | moment _ | set _ | frozen _ =>
    rw [jsonAt] at hs
    · obtain ⟨t, -, rfl⟩ := map_eq_ok_iff.mp hs
      exact JsonStyle.areAscii_quoted h t
    all_goals simp

theorem areAscii_jsonItems (h : style.asciiOnly = true) {depth : Nat} {items : List Value}
    {texts : List String} (htexts : jsonItems style depth items = .ok texts) :
    ∀ item ∈ texts, Text.AreAscii item.toList := by
  cases items with
  | nil =>
    cases htexts
    exact List.forall_mem_nil _
  | cons v rest =>
    obtain ⟨item, hitem, hmore⟩ := bind_eq_ok_iff.mp htexts
    obtain ⟨others, hothers, hend⟩ := bind_eq_ok_iff.mp hmore
    cases hend
    exact List.forall_mem_cons.mpr ⟨areAscii_jsonAt h hitem, areAscii_jsonItems h hothers⟩

theorem areAscii_jsonEntries (h : style.asciiOnly = true) {depth : Nat} {entries : Entries}
    {texts : List String} (htexts : jsonEntries style depth entries = .ok texts) :
    ∀ item ∈ texts, Text.AreAscii item.toList := by
  cases entries with
  | nil =>
    cases htexts
    exact List.forall_mem_nil _
  | cons entry rest =>
    obtain ⟨key, -, hrest⟩ := bind_eq_ok_iff.mp htexts
    obtain ⟨value, hvalue, hmore⟩ := bind_eq_ok_iff.mp hrest
    obtain ⟨others, hothers, hend⟩ := bind_eq_ok_iff.mp hmore
    cases hend
    refine List.forall_mem_cons.mpr ⟨?_, areAscii_jsonEntries h hothers⟩
    simp only [String.toList_append, Text.areAscii_append_iff]
    exact ⟨⟨JsonStyle.areAscii_quoted h key, by decide⟩, areAscii_jsonAt h hvalue⟩

end

/-- A page of JSON is ASCII, so every encoding has its characters. -/
theorem holds_json (e : Text.Encoding) {v : Value} {s : String} (h : v.json JsonStyle.page = .ok s) :
    e.holds s = true :=
  List.all_eq_true.mpr fun c hc => e.covers_ascii c (areAscii_jsonAt rfl h c hc)

end Value

end PluginDescriptor
