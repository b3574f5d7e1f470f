import PluginDescriptor.Descriptor.Search

/-!
# Identifiers

The check of a name or a kind stands between what a caller hands in and the paths that are tried. It
lets names through, which are rows of ASCII letters, digits, dashes and underscores, and it lets a name
through that has one line feed after it, since a pattern's end also matches in front of a final line
feed. For anything else a search ends at once (`Search.findAmong_onlyNames`).
-/

set_option autoImplicit false

namespace PluginDescriptor

namespace Search

/-- A character of names: an ASCII letter, an ASCII digit, a dash or an underscore. -/
def IsNameChar (c : Char) : Prop :=
  ('A' ≤ c ∧ c ≤ 'Z') ∨ ('a' ≤ c ∧ c ≤ 'z') ∨ ('0' ≤ c ∧ c ≤ '9') ∨ c = '_' ∨ c = '-'

instance (c : Char) : Decidable (IsNameChar c) :=
  inferInstanceAs (Decidable (_ ∨ _ ∨ _ ∨ _ ∨ _))

/-- A text that is a name: it has characters, and all of them are those of names. -/
def IsName (s : String) : Prop := s ≠ "" ∧ ∀ c ∈ s.toList, IsNameChar c

instance (s : String) : Decidable (IsName s) :=
  @instDecidableAnd _ _ inferInstance (List.decidableBAll IsNameChar s.toList)

/-! ## Characters -/

theorem isIdentifierChar_iff (c : Char) : isIdentifierChar c = true ↔ IsNameChar c := by
  unfold isIdentifierChar Char.isAlphanum Char.isAlpha Char.isUpper Char.isLower Char.isDigit IsNameChar
  simp only [Char.le_def, Bool.or_eq_true, Bool.and_eq_true, decide_eq_true_eq, beq_iff_eq, ge_iff_le]
  constructor
  · rintro ((((hupper | hlower) | hdigit) | hline) | hdash)
    · exact .inl hupper
    · exact .inr (.inl hlower)
    · exact .inr (.inr (.inl hdigit))
    · exact .inr (.inr (.inr (.inl hline)))
    · exact .inr (.inr (.inr (.inr hdash)))
  · rintro (hupper | hlower | hdigit | hline | hdash)
    · exact .inl (.inl (.inl (.inl hupper)))
    · exact .inl (.inl (.inl (.inr hlower)))
    · exact .inl (.inl (.inr hdigit))
    · exact .inl (.inr hline)
    · exact .inr hdash

/-- A line feed is no character of names. -/
theorem not_isNameChar_feed : ¬ IsNameChar '\n' := by decide

/-! ## Texts -/

/-- A row of characters of names, as the check tests it. -/
theorem isName_iff (s : String) :
    IsName s ↔ (!s.toList.isEmpty && s.toList.all isIdentifierChar) = true := by
  simp only [IsName, Bool.and_eq_true, Bool.not_eq_true', List.isEmpty_eq_false_iff, List.all_eq_true,
    isIdentifierChar_iff, ne_eq, String.toList_eq_nil_iff]

/-- A text with a line feed at its end is checked without it. -/
theorem isIdentifier_feed (t : String) : isIdentifier (t ++ "\n") = true ↔ IsName t := by
  have hchars : (t ++ "\n").toList = t.toList ++ ['\n'] := String.toList_append
  rw [isIdentifier, hchars, List.getLast?_concat, List.dropLast_concat, isName_iff]
  rfl

/-- A text without a line feed at its end is checked as it is. -/
theorem isIdentifier_of_getLast? {s : String} (h : s.toList.getLast? ≠ some '\n') :
    isIdentifier s = true ↔ IsName s := by
  have hfeed : (s.toList.getLast? == some '\n') = false := beq_eq_false_iff_ne.mpr h
  rw [isIdentifier, hfeed, isName_iff]
  rfl

/-- Names are let through, with or without one line feed after them, and nothing else. -/
theorem isIdentifier_iff (s : String) :
    isIdentifier s = true ↔ IsName s ∨ ∃ t, IsName t ∧ s = t ++ "\n" := by
  by_cases hlast : s.toList.getLast? = some '\n'
  · obtain ⟨body, hbody⟩ := List.getLast?_eq_some_iff.mp hlast
    have hs : s = String.ofList body ++ "\n" := by
      apply String.toList_inj.mp
      rw [hbody, String.toList_append, String.toList_ofList]
      rfl
    have hfeed : '\n' ∈ s.toList := hbody ▸ List.mem_append_right body List.mem_cons_self
    rw [hs, isIdentifier_feed, ← hs]
    constructor
    · intro hname
      exact .inr ⟨String.ofList body, hname, hs⟩
    · rintro (⟨-, hchars⟩ | ⟨t, ht, hst⟩)
      · exact (not_isNameChar_feed (hchars '\n' hfeed)).elim
      · have heq : t = String.ofList body := (String.append_left_inj "\n").mp (hst.symm.trans hs)
        exact heq ▸ ht
  · rw [isIdentifier_of_getLast? hlast]
    constructor
    · exact .inl
    · rintro (hname | ⟨t, -, rfl⟩)
      · exact hname
      · have hchars : (t ++ "\n").toList = t.toList ++ ['\n'] := String.toList_append
        rw [hchars, List.getLast?_concat] at hlast
        exact (hlast rfl).elim

/-! ## Searches -/

/-- When the name or the kind is refused, the search leaves one notice and ends, whatever is searched
and whatever is known of its paths. -/
theorem findAmong_of_refused {name kind : String}
    (h : ¬ isIdentifier name = true ∨ ¬ isIdentifier kind = true) :
    ∃ refused, (refused = name ∨ refused = kind) ∧
      ∀ (s : Search) (isFile : Path → Except Fault Bool),
        s.findAmong isFile name kind = { notices := [refusalNotice refused], outcome := .ok none } := by
  cases hname : isIdentifier name with
  | false =>
    refine ⟨name, .inl rfl, fun s isFile => ?_⟩
    simp only [findAmong, List.find?_cons, hname]
    rfl
  | true =>
    have hkind : isIdentifier kind = false := by
      simpa [hname] using h
    refine ⟨kind, .inr rfl, fun s isFile => ?_⟩
    simp only [findAmong, List.find?_cons, hname, hkind]
    rfl

/-- A text is let through exactly when it is a name or a name with one line feed after it. When the
name or the kind of a plugin is neither, the search finds nothing and all it does is to note the
refusal: no root is tried, whatever is searched and whichever files there are. -/
theorem findAmong_onlyNames (v name kind : String) :
    (isIdentifier v = true ↔ IsName v ∨ ∃ t, IsName t ∧ v = t ++ "\n") ∧
      ((∃ w ∈ [name, kind], ¬ IsName w ∧ ∀ t, IsName t → w ≠ t ++ "\n") →
        ∃ refused ∈ [name, kind], ∀ (s : Search) (isFile : Path → Except Fault Bool),
          s.findAmong isFile name kind =
            { notices := [refusalNotice refused], outcome := .ok none }) := by
  refine ⟨isIdentifier_iff v, ?_⟩
  rintro ⟨w, hw, hnotName, hnotFeed⟩
  have hrefused : ¬ isIdentifier w = true := by
    rw [isIdentifier_iff]
    rintro (hname | ⟨t, ht, rfl⟩)
    · exact hnotName hname
    · exact hnotFeed t ht rfl
  simp only [List.mem_cons, List.not_mem_nil, or_false] at hw ⊢
  apply findAmong_of_refused
  rcases hw with rfl | rfl
  · exact .inl hrefused
  · exact .inr hrefused

theorem findAmong_onlyNames_slash :
    ¬ IsName "../etc/passwd" ∧ ¬ isIdentifier "../etc/passwd" = true ∧
      ∀ (s : Search) (isFile : Path → Except Fault Bool),
        (s.findAmong isFile "../etc/passwd" "agent").outcome = .ok none := by
  obtain ⟨hexact, hends⟩ := findAmong_onlyNames "../etc/passwd" "../etc/passwd" "agent"
  have hname : ¬ IsName "../etc/passwd" := by decide
  have hrefused : ¬ isIdentifier "../etc/passwd" = true := by decide
  have hfeed : ∀ t, IsName t → "../etc/passwd" ≠ t ++ "\n" := by
    intro t ht heq
    exact hrefused (hexact.mpr (.inr ⟨t, ht, heq⟩))
  obtain ⟨refused, -, hsearch⟩ := hends ⟨_, List.mem_cons_self, hname, hfeed⟩
  refine ⟨hname, hrefused, fun s isFile => ?_⟩
  rw [hsearch]

/-- A name with a line feed after it is no name, yet it is let through, and a file is found for it. -/
theorem findAmong_feed :
    ¬ IsName "echo\n" ∧ isIdentifier "echo\n" = true ∧
      ((Search.ofTexts ["plugins"] usualSpace usualExtension).findAmong (fun _ => .ok true)
        "echo\n" "agent").outcome =
          .ok (some { root := "", parts := ["plugins", "polaris", "agent", "echo\n.ddl"] }) :=
  ⟨by decide, by decide, by rfl⟩

end Search

end PluginDescriptor
