import Mathlib.Data.List.Chain
import Mathlib.Data.List.Infix
import PluginDescriptor.Proofs.Version.Order

/-!
# The one split of a version into tokens

A version splits in one way only into dashes, points, runs of decimal digits and runs of anything
else, if no run goes on in the next token. Its tokens are this split (`Version.tokenize_eq_iff`): a
character put in front of tokens that stand apart leaves them apart (`isChain_consToken`), and
tokens that stand apart are found again in the text that they make up (`tokenList_flatten`). So
where no tokens of two versions differ, one version begins the other, and the longer comes later.
-/

set_option autoImplicit false

namespace PluginDescriptor

namespace Version

/-! ## Splits -/

/-- A run of decimal digits. -/
def IsDigits (token : String) : Prop := token ≠ "" ∧ ∀ c ∈ token.toList, Text.isDecimal c = true

/-- A run of characters that are no decimal digits, dashes or points. -/
def IsWord (token : String) : Prop :=
  token ≠ "" ∧ ∀ c ∈ token.toList, Text.isDecimal c = false ∧ c ≠ '-' ∧ c ≠ '.'

/-- The tokens make up the version and could not be longer: each is a dash, a point or a run, and no
run is followed by one of its own kind. -/
structure IsMaximalSplit (version : String) (tokens : List String) : Prop where
  joined : String.join tokens = version
  formed : ∀ token ∈ tokens, token = "-" ∨ token = "." ∨ IsDigits token ∨ IsWord token
  apart : tokens.IsChain fun token next =>
    ¬ (IsDigits token ∧ IsDigits next) ∧ ¬ (IsWord token ∧ IsWord next)

theorem isDigits_iff {token : String} : IsDigits token ↔ IsRunOf .digit token.toList := by
  have hclass : ∀ c, charClass c = .digit ↔ Text.isDecimal c = true := fun c =>
    ⟨charClass_eq_digit, charClass_of_isDecimal⟩
  simp only [IsDigits, IsRunOf, hclass, ne_eq, String.toList_eq_nil_iff]

theorem isWord_iff {token : String} : IsWord token ↔ IsRunOf .other token.toList := by
  simp only [IsWord, IsRunOf, charClass_eq_other_iff, ne_eq, String.toList_eq_nil_iff]

/-! ## Tokens that stand apart -/

/-- The two are not runs of one class, which would be a single run. -/
def AreApart (token next : List Char) : Prop :=
  ∀ k, k ≠ .separator → ¬ (IsRunOf k token ∧ IsRunOf k next)

theorem areApart_iff {token next : List Char} :
    AreApart token next ↔ ¬ (IsRunOf .digit token ∧ IsRunOf .digit next) ∧
      ¬ (IsRunOf .other token ∧ IsRunOf .other next) := by
  constructor
  · exact fun h => ⟨h .digit CharClass.noConfusion, h .other CharClass.noConfusion⟩
  · rintro ⟨hdigit, hother⟩ k hk
    cases k with
    | separator => exact (hk rfl).elim
    | digit => exact hdigit
    | other => exact hother

theorem isToken_iff {token : List Char} :
    IsToken token ↔
      token = ['-'] ∨ token = ['.'] ∨ IsRunOf .digit token ∨ IsRunOf .other token := by
  constructor
  · intro h
    cases h with
    | dash => exact .inl rfl
    | point => exact .inr (.inl rfl)
    | digits h => exact .inr (.inr (.inl ⟨List.cons_ne_nil _ _, h⟩))
    | word h => exact .inr (.inr (.inr ⟨List.cons_ne_nil _ _, h⟩))
  · rintro (rfl | rfl | ⟨hne, h⟩ | ⟨hne, h⟩)
    · exact .dash
    · exact .point
    · obtain ⟨d, run, rfl⟩ := List.exists_cons_of_ne_nil hne
      exact .digits h
    · obtain ⟨d, run, rfl⟩ := List.exists_cons_of_ne_nil hne
      exact .word h

theorem IsRunOf.tail {k : CharClass} {c d : Char} {run : List Char}
    (h : IsRunOf k (c :: d :: run)) : IsRunOf k (d :: run) :=
  ⟨List.cons_ne_nil d run, (List.forall_mem_cons.mp h.2).2⟩

theorem IsRunOf.charClass_head {k : CharClass} {c : Char} {run : List Char}
    (h : IsRunOf k (c :: run)) : charClass c = k :=
  h.2 c List.mem_cons_self

/-- A character that is put in front of tokens joins a run of its class, or stands apart from it. -/
theorem isChain_consToken {c : Char} {tokens : List (List Char)} (h : tokens.IsChain AreApart) :
    (consToken c tokens).IsChain AreApart := by
  fun_cases consToken c tokens with
  | case1 d run rest hjoin =>
    obtain ⟨hnext, hrest⟩ := List.isChain_cons.mp h
    refine List.isChain_cons.mpr ⟨fun next hmem k hk hboth => ?_, hrest⟩
    exact hnext next hmem k hk ⟨hboth.1.tail, hboth.2⟩
  | case2 d run rest hapart =>
    refine List.isChain_cons.mpr ⟨?_, h⟩
    rintro next ⟨⟩ k hk ⟨hc, hd⟩
    have hclass : charClass c = charClass d := hc.charClass_head.trans hd.charClass_head.symm
    exact hapart ⟨hc.charClass_head ▸ hk, hclass⟩
  | case3 _ hshape =>
    -- what is left has no first token, or an empty one
    refine List.isChain_cons.mpr ⟨fun next hmem k hk hboth => ?_, h⟩
    obtain ⟨d, run, rfl⟩ := List.exists_cons_of_ne_nil hboth.2.1
    obtain ⟨rest, hrest⟩ := List.head?_eq_some_iff.mp hmem
    exact hshape d run rest hrest

theorem isChain_tokenList (s : List Char) : (tokenList s).IsChain AreApart := by
  induction s with
  | nil => exact List.isChain_nil
  | cons c rest ih => exact isChain_consToken ih

/-! ## No other split -/

/-- A token comes first, if it is no run that goes on in what follows. -/
theorem IsToken.tokenList_append {token rest : List Char} (h : IsToken token)
    (hrest : ∀ d ∈ rest.head?, ∀ k, k ≠ .separator → IsRunOf k token → charClass d ≠ k) :
    tokenList (token ++ rest) = token :: tokenList rest := by
  obtain rfl | rfl | hrun | hrun := isToken_iff.mp h
  · exact consToken_of_separator rfl (tokenList rest)
  · exact consToken_of_separator rfl (tokenList rest)
  · have hdigit : CharClass.digit ≠ .separator := CharClass.noConfusion
    exact Version.tokenList_append hdigit hrun fun d hd => hrest d hd .digit hdigit hrun
  · have hother : CharClass.other ≠ .separator := CharClass.noConfusion
    exact Version.tokenList_append hother hrun fun d hd => hrest d hd .other hother hrun

/-- A token with a character of a class other than the separators is a run of this class. -/
theorem IsToken.isRunOf {token : List Char} {c : Char} {k : CharClass} (h : IsToken token)
    (hc : c ∈ token) (hclass : charClass c = k) (hk : k ≠ .separator) : IsRunOf k token := by
  subst hclass
  obtain rfl | rfl | hrun | hrun := isToken_iff.mp h
  · rw [List.mem_singleton.mp hc] at hk
    exact (hk rfl).elim
  · rw [List.mem_singleton.mp hc] at hk
    exact (hk rfl).elim
  · exact hrun.2 c hc ▸ hrun
  · exact hrun.2 c hc ▸ hrun

/-- Tokens that stand apart are found again in the text that they make up. -/
theorem tokenList_flatten {tokens : List (List Char)} (hformed : ∀ token ∈ tokens, IsToken token)
    (hapart : tokens.IsChain AreApart) : tokenList tokens.flatten = tokens := by
  induction tokens with
  | nil => rfl
  | cons token tokens ih =>
    obtain ⟨htoken, hformed⟩ := List.forall_mem_cons.mp hformed
    obtain ⟨hnext, hapart⟩ := List.isChain_cons.mp hapart
    have hrest : ∀ d ∈ tokens.flatten.head?, ∀ k, k ≠ .separator → IsRunOf k token →
        charClass d ≠ k := by
      intro d hd k hk hrun hclass
      cases tokens with
      | nil => cases hd
      | cons next tokens =>
        have hnextToken : IsToken next := hformed next List.mem_cons_self
        obtain ⟨e, run, rfl⟩ := List.exists_cons_of_ne_nil hnextToken.ne_nil
        cases hd
        have hnextRun : IsRunOf k (d :: run) := hnextToken.isRunOf List.mem_cons_self hclass hk
        exact hnext (d :: run) rfl k hk ⟨hrun, hnextRun⟩
    rw [List.flatten_cons, htoken.tokenList_append hrest, ih hformed hapart]

/-- The tokens of a text are its one split into tokens that stand apart. -/
theorem tokenList_eq_iff {s : List Char} {tokens : List (List Char)} :
    tokenList s = tokens ↔
      tokens.flatten = s ∧ (∀ token ∈ tokens, IsToken token) ∧ tokens.IsChain AreApart := by
  constructor
  · rintro rfl
    exact ⟨flatten_tokenList s, isToken_of_mem_tokenList, isChain_tokenList s⟩
  · rintro ⟨rfl, hformed, hapart⟩
    exact tokenList_flatten hformed hapart

/-! ## Texts -/

theorem toList_tokenize (version : String) :
    (tokenize version).map String.toList = tokenList version.toList := by
  have hid : String.toList ∘ String.ofList = id := funext fun _ => String.toList_ofList
  rw [tokenize, List.map_map, hid, List.map_id]

theorem tokenize_eq_iff_tokenList {version : String} {tokens : List String} :
    tokenize version = tokens ↔ tokenList version.toList = tokens.map String.toList := by
  have hinjective : Function.Injective String.toList := fun _ _ => String.toList_injective
  rw [← toList_tokenize]
  exact (List.map_injective_iff.mpr hinjective).eq_iff.symm

theorem isMaximalSplit_iff {version : String} {tokens : List String} :
    IsMaximalSplit version tokens ↔ (tokens.map String.toList).flatten = version.toList ∧
      (∀ token ∈ tokens.map String.toList, IsToken token) ∧
        (tokens.map String.toList).IsChain AreApart := by
  have hjoined : (tokens.map String.toList).flatten = version.toList ↔
      String.join tokens = version := by
    rw [← List.flatMap_def, ← String.toList_join, String.toList_inj]
  have hformed : (∀ token ∈ tokens.map String.toList, IsToken token) ↔
      ∀ token ∈ tokens, token = "-" ∨ token = "." ∨ IsDigits token ∨ IsWord token := by
    have hdash : "-".toList = ['-'] := rfl
    have hpoint : ".".toList = ['.'] := rfl
    simp only [List.forall_mem_map, isToken_iff, isDigits_iff, isWord_iff, ← hdash, ← hpoint,
      String.toList_inj]
  have hapart : (tokens.map String.toList).IsChain AreApart ↔ tokens.IsChain fun token next =>
      ¬ (IsDigits token ∧ IsDigits next) ∧ ¬ (IsWord token ∧ IsWord next) := by
    simp only [List.isChain_map, areApart_iff, isDigits_iff, isWord_iff]
  rw [hjoined, hformed, hapart]
  exact ⟨fun h => ⟨h.joined, h.formed, h.apart⟩, fun h => ⟨h.1, h.2.1, h.2.2⟩⟩

theorem tokenize_eq_iff {version : String} {tokens : List String} :
    tokenize version = tokens ↔ IsMaximalSplit version tokens := by
  rw [tokenize_eq_iff_tokenList, tokenList_eq_iff, isMaximalSplit_iff]

/-- Digits and letters part without a separator. -/
example : tokenize "1.0.0-rc1" = ["1", ".", "0", ".", "0", "-", "rc", "1"] := by decide +kernel

/-! ## Versions that do not part -/

/-- Rows that agree as far as both go: one begins the other. -/
theorem begins_of_agree {α : Type} [DecidableEq α] {as bs : List α}
    (h : ∀ pair ∈ as.zip bs, pair.1 = pair.2) : as <+: bs ∨ bs <+: as := by
  obtain hbegins | ⟨common, x, xs, y, ys, rfl, rfl, hxy⟩ := begins_or_parts as bs
  · exact hbegins
  · have hmem : (x, y) ∈ (common ++ x :: xs).zip (common ++ y :: ys) := by
      rw [List.zip_append rfl, List.zip_cons_cons]
      exact List.mem_append_cons_self
    exact (hxy (h (x, y) hmem)).elim

/-- A version whose tokens begin those of another begins it as a text. -/
theorem isPrefix_of_tokenList {a b : String} (h : tokenList a.toList <+: tokenList b.toList) :
    a.toList <+: b.toList := by
  rw [← flatten_tokenList a.toList, ← flatten_tokenList b.toList]
  exact List.IsPrefix.flatten h

/-- A text comes before those that go on from it. -/
theorem textOrder_of_isPrefix {a b : String} (h : a.toList <+: b.toList) :
    textOrder a b = compare a.length b.length := by
  obtain ⟨rest, hrest⟩ := h
  rw [textOrder_eq, ← String.length_toList, ← String.length_toList, ← hrest,
    List.compare_eq_compareLex, List.length_append]
  by_cases hnil : rest = []
  · subst hnil
    have hlength : compare a.toList.length a.toList.length = .eq := Nat.compare_eq_eq.mpr rfl
    rw [List.append_nil, List.length_nil, Nat.add_zero, hlength]
    exact Std.ReflCmp.compare_self
  · have hpos : 0 < rest.length := List.length_pos_of_ne_nil hnil
    have hlength : compare a.toList.length (a.toList.length + rest.length) = .lt :=
      Nat.compare_eq_lt.mpr (by omega)
    rw [compareLex_append_right a.toList rest hnil, hlength]

/-- Of two texts of which one begins the other, the longer one comes later. -/
theorem textOrder_of_begins {a b : String} (h : a.toList <+: b.toList ∨ b.toList <+: a.toList) :
    textOrder a b = compare a.length b.length := by
  obtain h | h := h
  · exact textOrder_of_isPrefix h
  · rw [← textOrder_swap, textOrder_of_isPrefix h, Nat.compare_swap]

/-- A version has one split into dashes, points, runs of decimal digits and runs of anything else in
which no run goes on in the next token, and this is the split into its tokens. When no tokens of two
versions differ as far as both go, one version begins the other, and they compare as their lengths
do. -/
theorem tokenize_isMaximalSplit (a b : String) :
    (∀ tokens, tokenize a = tokens ↔ IsMaximalSplit a tokens) ∧
      ((∀ pair ∈ (tokenize a).zip (tokenize b), pair.1 = pair.2) →
        (a.toList <+: b.toList ∨ b.toList <+: a.toList) ∧
          order a b = .ok (compare a.length b.length)) := by
  refine ⟨fun tokens => tokenize_eq_iff, fun hagree => ?_⟩
  have htokens : tokenList a.toList <+: tokenList b.toList ∨
      tokenList b.toList <+: tokenList a.toList := by
    rw [← toList_tokenize, ← toList_tokenize]
    exact (begins_of_agree hagree).imp (·.map String.toList) (·.map String.toList)
  have hbegins : a.toList <+: b.toList ∨ b.toList <+: a.toList :=
    htokens.imp isPrefix_of_tokenList isPrefix_of_tokenList
  rw [order_of_begins htokens, textOrder_of_begins hbegins]
  exact ⟨hbegins, rfl⟩

/-- A digit of another script is a run of digits; a superscript and a line feed make a word. -/
theorem tokenize_isMaximalSplit_scripts :
    IsMaximalSplit "1.२²\n" ["1", ".", "२", "²\n"] ∧
      (∀ pair ∈ (tokenize "1.२²\n").zip (tokenize "1.२²\n-rc1"), pair.1 = pair.2) ∧
      order "1.२²\n" "1.२²\n-rc1" = .ok .lt := by
  have hsplits := tokenize_isMaximalSplit "1.२²\n" "1.२²\n-rc1"
  have htokens : tokenize "1.२²\n" = ["1", ".", "२", "²\n"] := by decide +kernel
  have hagree : ∀ pair ∈ (tokenize "1.२²\n").zip (tokenize "1.२²\n-rc1"), pair.1 = pair.2 := by
    decide +kernel
  exact ⟨(hsplits.1 _).mp htokens, hagree, (hsplits.2 hagree).2⟩

end Version

end PluginDescriptor
