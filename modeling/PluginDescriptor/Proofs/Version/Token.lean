import PluginDescriptor.Version.Order

/-!
# Tokens of versions

The tokens of a version, put together, are the version again, and each is of one of four forms. Two
versions are therefore compared at the first token where they differ (`order_of_parts`), or, when
one begins the other, as texts (`order_of_begins`).
-/

set_option autoImplicit false

namespace PluginDescriptor

namespace Version

/-! ## The form of a token -/

theorem flatten_consToken (c : Char) (tokens : List (List Char)) :
    (consToken c tokens).flatten = c :: tokens.flatten := by
  fun_cases consToken c tokens <;> rfl

/-- Nothing is lost: the tokens of a text make up the text. -/
theorem flatten_tokenList (s : List Char) : (tokenList s).flatten = s := by
  induction s with
  | nil => rfl
  | cons c rest ih =>
    have hcons := flatten_consToken c (tokenList rest)
    rw [ih] at hcons
    exact hcons

/-- What a token looks like: a single dash or point, or a run of one of the other two classes. -/
inductive IsToken : List Char → Prop where
  | dash : IsToken ['-']
  | point : IsToken ['.']
  | digits {d : Char} {run : List Char} (h : ∀ c ∈ d :: run, charClass c = .digit) :
      IsToken (d :: run)
  | word {d : Char} {run : List Char} (h : ∀ c ∈ d :: run, charClass c = .other) :
      IsToken (d :: run)

theorem IsToken.ne_nil {token : List Char} (h : IsToken token) : token ≠ [] := by
  cases h <;> exact List.cons_ne_nil _ _

theorem charClass_eq_separator_iff {c : Char} : charClass c = .separator ↔ c = '-' ∨ c = '.' := by
  unfold charClass
  split
  · rename_i hsep
    exact iff_of_true rfl hsep
  · rename_i hsep
    refine iff_of_false ?_ hsep
    split <;> exact CharClass.noConfusion

theorem charClass_eq_digit {c : Char} (h : charClass c = .digit) : Text.isDecimal c = true := by
  unfold charClass at h
  split at h
  · cases h
  · split at h
    · assumption
    · cases h

theorem charClass_of_isDecimal {c : Char} (h : Text.isDecimal c = true) :
    charClass c = .digit := by
  have hsep : ¬ (c = '-' ∨ c = '.') := by
    rintro (rfl | rfl) <;> exact absurd h (by decide)
  unfold charClass
  rw [if_neg hsep, if_pos h]

theorem charClass_eq_other_iff {c : Char} :
    charClass c = .other ↔ Text.isDecimal c = false ∧ c ≠ '-' ∧ c ≠ '.' := by
  constructor
  · intro h
    have hsep : ¬ (c = '-' ∨ c = '.') := by
      rw [← charClass_eq_separator_iff, h]
      exact CharClass.noConfusion
    have hdigit : ¬ Text.isDecimal c = true := by
      intro hc
      rw [charClass_of_isDecimal hc] at h
      cases h
    exact ⟨by simpa using hdigit, not_or.mp hsep⟩
  · rintro ⟨hdigit, hsep⟩
    unfold charClass
    rw [if_neg (not_or.mpr hsep), if_neg (by simp [hdigit])]

/-- A token that begins with a decimal digit is a run of them. -/
theorem IsToken.isDecimal_of_head {d : Char} {run : List Char} (h : IsToken (d :: run))
    (hd : Text.isDecimal d = true) : ∀ c ∈ d :: run, Text.isDecimal c = true := by
  have hclass : charClass d = .digit := charClass_of_isDecimal hd
  cases h with
  | dash => cases hclass
  | point => cases hclass
  | digits h => exact fun c hc => charClass_eq_digit (h c hc)
  | word h =>
    rw [h d List.mem_cons_self] at hclass
    cases hclass

/-- A character alone is a token. -/
theorem isToken_singleton (c : Char) : IsToken [c] := by
  cases hclass : charClass c with
  | separator =>
    obtain rfl | rfl := charClass_eq_separator_iff.mp hclass
    · exact .dash
    · exact .point
  | digit => exact .digits (by simpa using hclass)
  | other => exact .word (by simpa using hclass)

/-- A run grows by a character of its own class. -/
theorem IsToken.cons {c d : Char} {run : List Char} (h : IsToken (d :: run))
    (hc : charClass c ≠ .separator) (hcd : charClass c = charClass d) :
    IsToken (c :: d :: run) := by
  cases h with
  | dash => exact (hc (hcd.trans rfl)).elim
  | point => exact (hc (hcd.trans rfl)).elim
  | digits h =>
    have hd : charClass d = .digit := h d List.mem_cons_self
    exact .digits (List.forall_mem_cons.mpr ⟨hcd.trans hd, h⟩)
  | word h =>
    have hd : charClass d = .other := h d List.mem_cons_self
    exact .word (List.forall_mem_cons.mpr ⟨hcd.trans hd, h⟩)

theorem isToken_of_mem_consToken {c : Char} {tokens : List (List Char)}
    (h : ∀ token ∈ tokens, IsToken token) : ∀ token ∈ consToken c tokens, IsToken token := by
  fun_cases consToken c tokens with
  | case1 d run rest hjoin =>
    obtain ⟨hfirst, hrest⟩ := List.forall_mem_cons.mp h
    exact List.forall_mem_cons.mpr ⟨hfirst.cons hjoin.1 hjoin.2, hrest⟩
  | case2 d run rest hjoin => exact List.forall_mem_cons.mpr ⟨isToken_singleton c, h⟩
  | case3 hshape => exact List.forall_mem_cons.mpr ⟨isToken_singleton c, h⟩

theorem isToken_of_mem_tokenList {s : List Char} : ∀ token ∈ tokenList s, IsToken token := by
  induction s with
  | nil => exact fun token hmem => (List.not_mem_nil hmem).elim
  | cons c rest ih => exact isToken_of_mem_consToken ih

/-- A token has no character that its text does not have. -/
theorem mem_of_mem_tokenList {s token : List Char} {c : Char} (htoken : token ∈ tokenList s)
    (hc : c ∈ token) : c ∈ s := by
  have hflat : c ∈ (tokenList s).flatten := List.mem_flatten.mpr ⟨token, htoken, hc⟩
  rwa [flatten_tokenList] at hflat

/-- A token stands in its text as one piece. -/
theorem isInfix_of_mem_tokenList {s token : List Char} (htoken : token ∈ tokenList s) :
    token <:+: s := by
  obtain ⟨before, after, hsplit⟩ := List.append_of_mem htoken
  have hflat := flatten_tokenList s
  rw [hsplit, List.flatten_append, List.flatten_cons, ← List.append_assoc] at hflat
  exact ⟨before.flatten, after.flatten, hflat⟩

/-! ## Runs -/

theorem consToken_of_separator {c : Char} (h : charClass c = .separator)
    (tokens : List (List Char)) : consToken c tokens = [c] :: tokens := by
  fun_cases consToken c tokens with
  | case1 d run rest hjoin => exact (hjoin.1 h).elim
  | case2 d run rest hjoin => rfl
  | case3 hshape => rfl

/-- The first token begins with the first character. -/
theorem exists_consToken_eq (c : Char) (tokens : List (List Char)) :
    ∃ run others, consToken c tokens = (c :: run) :: others := by
  fun_cases consToken c tokens with
  | case1 d run rest hjoin => exact ⟨d :: run, rest, rfl⟩
  | case2 d run rest hjoin => exact ⟨[], _, rfl⟩
  | case3 hshape => exact ⟨[], _, rfl⟩

/-- At least one character, and all of one class. -/
def IsRunOf (k : CharClass) (token : List Char) : Prop := token ≠ [] ∧ ∀ c ∈ token, charClass c = k

/-- A run is a token of its own, if what follows it does not begin with its class. -/
theorem tokenList_append {k : CharClass} (hk : k ≠ .separator) {run rest : List Char}
    (hrun : IsRunOf k run) (hrest : ∀ d ∈ rest.head?, charClass d ≠ k) :
    tokenList (run ++ rest) = run :: tokenList rest := by
  obtain ⟨hne, hrun⟩ := hrun
  induction run with
  | nil => exact (hne rfl).elim
  | cons c run ih =>
    obtain ⟨hc, hrun⟩ := List.forall_mem_cons.mp hrun
    have hstep : tokenList (c :: run ++ rest) = consToken c (tokenList (run ++ rest)) := rfl
    rw [hstep]
    cases run with
    | nil =>
      cases rest with
      | nil => rfl
      | cons d rest =>
        obtain ⟨run, others, hfirst⟩ := exists_consToken_eq d (tokenList rest)
        have hd : charClass c ≠ charClass d := fun h => hrest d rfl (h.symm.trans hc)
        rw [List.nil_append, tokenList, hfirst, consToken, if_neg fun h => hd h.2]
    | cons d run =>
      have hd : charClass d = k := hrun d List.mem_cons_self
      rw [ih (List.cons_ne_nil d run) hrun, consToken, if_pos ⟨hc ▸ hk, hc.trans hd.symm⟩]

/-! ## Where two versions part -/

/-- Of two rows one begins the other, or they part at a first difference. -/
theorem begins_or_parts {α : Type} [DecidableEq α] (as bs : List α) :
    (as <+: bs ∨ bs <+: as) ∨ ∃ common x xs y ys,
      as = common ++ x :: xs ∧ bs = common ++ y :: ys ∧ x ≠ y := by
  induction as generalizing bs with
  | nil => exact .inl (.inl (List.nil_prefix))
  | cons a as ih =>
    cases bs with
    | nil => exact .inl (.inr (List.nil_prefix))
    | cons b bs =>
      by_cases hab : a = b
      · subst hab
        obtain (hpre | hpre) | ⟨common, x, xs, y, ys, rfl, rfl, hxy⟩ := ih bs
        · exact .inl (.inl ((List.prefix_cons_inj a).mpr hpre))
        · exact .inl (.inr ((List.prefix_cons_inj a).mpr hpre))
        · exact .inr ⟨a :: common, x, xs, y, ys, rfl, rfl, hxy⟩
      · exact .inr ⟨[], a, as, b, bs, rfl, rfl, hab⟩

theorem compareTokens_append (common as bs : List (List Char)) :
    compareTokens (common ++ as) (common ++ bs) = compareTokens as bs := by
  induction common with
  | nil => rfl
  | cons token common ih =>
    rw [List.cons_append, List.cons_append, compareTokens, if_pos (beq_self_eq_true token)]
    exact ih

theorem compareTokens_of_begins {as bs : List (List Char)} (h : as <+: bs ∨ bs <+: as) :
    compareTokens as bs = .ok none := by
  obtain ⟨rest, rfl⟩ | ⟨rest, rfl⟩ := h
  · have happend := compareTokens_append as [] rest
    rwa [List.append_nil] at happend
  · have happend := compareTokens_append bs rest []
    rw [List.append_nil] at happend
    rw [happend]
    cases rest <;> rfl

theorem compareTokens_of_parts {x y : List Char} (h : x ≠ y) (common xs ys : List (List Char)) :
    compareTokens (common ++ x :: xs) (common ++ y :: ys) = (compareToken x y).map some := by
  rw [compareTokens_append, compareTokens, if_neg (by simpa using h)]

/-- Versions of which one begins the other, token by token, compare as texts. -/
theorem order_of_begins {a b : String}
    (h : tokenList a.toList <+: tokenList b.toList ∨ tokenList b.toList <+: tokenList a.toList) :
    order a b = .ok (textOrder a b) := by
  have hnone := compareTokens_of_begins h
  unfold order
  rw [hnone]
  rfl

/-- Versions that part compare as the first two tokens that differ. -/
theorem order_of_parts {a b : String} {common xs ys : List (List Char)} {x y : List Char}
    (ha : tokenList a.toList = common ++ x :: xs) (hb : tokenList b.toList = common ++ y :: ys)
    (hxy : x ≠ y) : order a b = compareToken x y := by
  have hsome := compareTokens_of_parts hxy common xs ys
  unfold order
  rw [ha, hb, hsome]
  cases compareToken x y <;> rfl

end Version

end PluginDescriptor
