import PluginDescriptor.Proofs.Descriptor.Verdict
import PluginDescriptor.Proofs.Value.Literal

/-!
# Membership

A value is accepted as one of some allowed values when it equals one of its kind. Kinds are compared
once, at the top: among literals that settles the matter for scalars, while inside lists and mappings a
truth value still stands for the number it equals, and a whole number for a fractional one
(`Validators.checkMembership_literals`).
-/

set_option autoImplicit false

namespace PluginDescriptor

namespace Validators

variable {t : Validators} {given v : Value} {allowed : List Value}

/-- A loaded table accepts what equals an element of its kind. -/
theorem checkMembership_eq_ok_iff_exists (ht : t.isLoaded = true)
    (hgiven : given.elements = .ok allowed) (v : Value) :
    t.checkMembership v given = .ok () ↔
      ∃ item ∈ allowed, item.kindName = v.kindName ∧ item.same v = true := by
  obtain ⟨custom, loaded⟩ := t
  cases loaded with
  | none => cases ht
  | some vs =>
    have hsame : checkMembership { custom, loaded := some vs } v given =
        (Request.loadedTable custom vs).checkMembership v (.tuple allowed) := by
      have htuple : Value.elements (.tuple allowed) = .ok allowed := rfl
      unfold checkMembership
      rw [hgiven, htuple]
      rfl
    rw [hsame, Request.checkMembership_eq_ok_iff]

/-- A loaded table judges a literal by allowed literals. It accepts exactly what matches one of the
same kind by value. What matches one exactly is therefore accepted; and nothing else is when the
literal is a scalar, or when no scalar inside it stands for one of another kind inside an allowed
literal. -/
theorem checkMembership_literals (ht : t.isLoaded = true) (hgiven : given.elements = .ok allowed)
    (hv : v.IsLiteral) (hallowed : ∀ item ∈ allowed, item.IsLiteral) :
    (t.checkMembership v given = .ok () ↔
      ∃ item ∈ allowed, item.kindName = v.kindName ∧ item.Matches Value.AgreeByValue v) ∧
    ((∃ item ∈ allowed, item.Matches Value.AgreeExactly v) → t.checkMembership v given = .ok ()) ∧
    (v.isScalar = true ∨ (∀ item ∈ allowed, item.KindsAgree v) →
      (t.checkMembership v given = .ok () ↔ ∃ item ∈ allowed, item.Matches Value.AgreeExactly v)) := by
  have hbyValue : t.checkMembership v given = .ok () ↔
      ∃ item ∈ allowed, item.kindName = v.kindName ∧ item.Matches Value.AgreeByValue v := by
    rw [checkMembership_eq_ok_iff_exists ht hgiven]
    refine exists_congr fun item => and_congr_right fun hitem => and_congr_right fun _ => ?_
    exact Value.same_iff_matches (hallowed item hitem) hv
  have haccepted : (∃ item ∈ allowed, item.Matches Value.AgreeExactly v) →
      t.checkMembership v given = .ok () := by
    rintro ⟨item, hitem, hmatches⟩
    have hvalue := hmatches.byValue (hallowed item hitem)
    exact hbyValue.mpr ⟨item, hitem, hmatches.kindName_eq_of_exactly, hvalue⟩
  refine ⟨hbyValue, haccepted, fun hkinds => ⟨fun h => ?_, haccepted⟩⟩
  obtain ⟨item, hitem, hkind, hmatches⟩ := hbyValue.mp h
  have hinside : item.KindsAgree v := by
    rcases hkinds with hscalar | hkinds
    · exact .of_isScalar item hscalar
    · exact hkinds item hitem
  exact ⟨item, hitem, hmatches.exactly (hallowed item hitem) hv hkind hinside⟩

/-- A list of allowed values of which one holds a list. -/
def nestedChoices : List Value := [.str "plain", .list [.int 1, .str "loud"]]

theorem checkMembership_literals_nested :
    (Request.loadedTable [] []).checkMembership (.list [.int 1, .str "loud"])
      (.list nestedChoices) = .ok () := by
  have hlist : (Value.list [.int 1, .str "loud"]).IsLiteral := by
    refine .list fun v hv => ?_
    simp only [List.mem_cons, List.not_mem_nil, or_false] at hv
    rcases hv with rfl | rfl
    · exact .scalar rfl
    · exact .scalar rfl
  have hallowed : ∀ item ∈ nestedChoices, item.IsLiteral := by
    intro item hitem
    simp only [nestedChoices, List.mem_cons, List.not_mem_nil, or_false] at hitem
    rcases hitem with rfl | rfl
    · exact .scalar rfl
    · exact hlist
  have hloaded : (Request.loadedTable [] []).isLoaded = true := rfl
  have hgiven : (Value.list nestedChoices).elements = .ok nestedChoices := rfl
  obtain ⟨-, haccepted, -⟩ := checkMembership_literals hloaded hgiven hlist hallowed
  refine haccepted ⟨.list [.int 1, .str "loud"], by simp [nestedChoices], .list ?_⟩
  exact .cons (.scalar rfl rfl ⟨rfl, rfl⟩) (.cons (.scalar rfl rfl ⟨rfl, rfl⟩) .nil)

/-- A list with a one in it is accepted where only the list with the truth value is allowed, which it
does not match exactly. -/
theorem checkMembership_truthInside :
    (Request.loadedTable [] []).checkMembership (.list [.int 1]) (.list [.list [.bool true]]) =
        .ok () ∧
      ¬ ∃ item ∈ [Value.list [.bool true]], item.Matches Value.AgreeExactly (.list [.int 1]) := by
  refine ⟨rfl, ?_⟩
  rintro ⟨item, hitem, hmatches⟩
  rw [List.mem_singleton.mp hitem] at hmatches
  cases hmatches with
  | scalar left _ _ => cases left
  | list hitems =>
    cases hitems with
    | cons hfirst _ =>
      cases hfirst with
      | scalar _ _ hagree =>
        have hkind := hagree.1
        revert hkind
        decide

end Validators

end PluginDescriptor
