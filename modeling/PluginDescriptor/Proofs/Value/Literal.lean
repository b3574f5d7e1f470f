import Mathlib.Data.List.Forall2
import PluginDescriptor.Proofs.Value.Mapping
import PluginDescriptor.Proofs.Value.Parts

/-!
# Literals

A literal is what can be written down with nothing but scalars, lists and mappings. Two literals match
when they are built alike, down to scalars that agree; scalars may have to agree by value only, or by
their kind as well. Equality of literals is matching by value at every depth
(`Value.same_iff_matches`), so that it does not tell a truth value inside a list from the number it
equals.
-/

set_option autoImplicit false

namespace PluginDescriptor

namespace Value

/-- Nothing, a truth value, a number or a text. -/
def isScalar : Value → Bool
  | .null | .bool _ | .int _ | .str _ => true
  | .float x => x != .nan
  | _ => false

/-- A scalar, a list of literals, or a mapping of literals under scalars of which no two are equal. -/
inductive IsLiteral : Value → Prop where
  | scalar {v : Value} (hscalar : v.isScalar = true) : IsLiteral v
  | list {items : List Value} (hitems : ∀ v ∈ items, IsLiteral v) : IsLiteral (.list items)
  | map {entries : Entries} (hkeys : ∀ entry ∈ entries, entry.1.isScalar = true)
      (hapart : entries.Apart) (hvalues : ∀ entry ∈ entries, IsLiteral entry.2) :
      IsLiteral (.map entries)

/-- Two values are built alike: scalars agree, lists match item by item, and each entry of a mapping
has a partner among as many entries of the other, with a key that agrees and a value that matches. -/
inductive Matches (agree : Value → Value → Prop) : Value → Value → Prop where
  | scalar {a b : Value} (left : a.isScalar = true) (right : b.isScalar = true) (hagree : agree a b) :
      Matches agree a b
  | list {as bs : List Value} (hitems : List.Forall₂ (Matches agree) as bs) :
      Matches agree (.list as) (.list bs)
  | map {as bs : Entries} (partner : Value × Value → Value × Value) (hlength : as.length = bs.length)
      (hmem : ∀ entry ∈ as, partner entry ∈ bs)
      (hkeys : ∀ entry ∈ as, agree entry.1 (partner entry).1)
      (hvalues : ∀ entry ∈ as, Matches agree entry.2 (partner entry).2) :
      Matches agree (.map as) (.map bs)

/-- Scalars agree by value: they share their essence, as a truth value does with the number it
equals. -/
def AgreeByValue (a b : Value) : Prop := essence? a = essence? b

/-- Scalars agree exactly: they are of one kind, and agree by value. -/
def AgreeExactly (a b : Value) : Prop := a.kindName = b.kindName ∧ essence? a = essence? b

/-! ## Scalars -/

theorem changeable?_of_isScalar {v : Value} (h : v.isScalar = true) : v.changeable? = none := by
  cases v with
  | null | bool b | int i | str s | float x => rfl
  | _ => cases h

/-- Each scalar has an essence. -/
theorem essence?_of_isScalar {v : Value} (h : v.isScalar = true) : (essence? v).isSome := by
  cases v with
  | null | bool b | int i | str s => rfl
  | float x =>
    cases x with
    | nan => cases h
    | infinite negative => rfl
    | finite negative mantissa exponent => rfl
  | _ => cases h

/-- Scalars are equal when they agree by value. -/
theorem same_scalar_iff (a : Value) {b : Value} (hb : b.isScalar = true) :
    a.same b = true ↔ AgreeByValue a b := by
  rw [same_iff a b (changeable?_of_isScalar hb)]
  exact and_iff_left (essence?_of_isScalar hb)

/-- A scalar equals no list and no mapping. -/
theorem same_of_isScalar {a : Value} (ha : a.isScalar = true) :
    (∀ items, a.same (.list items) = false) ∧ ∀ entries, a.same (.map entries) = false := by
  cases a with
  | null | bool b | int i | str s | float x => exact ⟨fun _ => rfl, fun _ => rfl⟩
  | _ => cases ha

/-- What has no essence equals no scalar. -/
theorem not_same_scalar {a b : Value} (ha : essence? a = none) (hb : b.isScalar = true) :
    ¬ a.same b = true := by
  rw [same_scalar_iff a hb, AgreeByValue, ha]
  intro hnone
  have hsome := essence?_of_isScalar hb
  rw [← hnone] at hsome
  cases hsome

/-! ## Rows and mappings -/

/-- Rows are equal when their items are, one by one. -/
theorem sameItems_iff_forall₂ (as bs : List Value) :
    sameItems Number.Binary64.sameNumber as bs = true ↔
      List.Forall₂ (fun a b => a.same b = true) as bs := by
  induction as generalizing bs with
  | nil =>
    cases bs with
    | nil => exact iff_of_true rfl .nil
    | cons b bs => exact iff_of_false Bool.false_ne_true nofun
  | cons a as ih =>
    cases bs with
    | nil => exact iff_of_false Bool.false_ne_true nofun
    | cons b bs =>
      rw [sameItems, Bool.and_eq_true, ih, List.forall₂_cons]
      rfl

/-- Each entry of the first has an equal one in the second when something equal is found under its
key there. -/
theorem allMatchedIn_iff (as bs : Entries) :
    allMatchedIn Number.Binary64.sameNumber as bs = true ↔
      ∀ entry ∈ as, ∃ w, bs.get? entry.1 = some w ∧ entry.2.same w = true := by
  induction as with
  | nil => exact iff_of_true rfl (List.forall_mem_nil _)
  | cons entry rest ih =>
    obtain ⟨k, v⟩ := entry
    rw [allMatchedIn, Bool.and_eq_true, ih, List.forall_mem_cons, Fields.get?]
    refine and_congr_left fun _ => ?_
    have hsame : (fun other : Value × Value => sameWith Number.Binary64.sameNumber k other.1) =
        fun other => k.same other.1 := rfl
    rw [hsame]
    cases List.find? (fun other => k.same other.1) bs with
    | none => simp
    | some other => simp [same]

/-! ## Equality -/

/-- Rows match item by item in another way when their items do. -/
theorem forall₂_imp_mem {P Q : Value → Value → Prop} {as bs : List Value}
    (h : ∀ a ∈ as, ∀ b ∈ bs, P a b → Q a b) (hrows : List.Forall₂ P as bs) : List.Forall₂ Q as bs := by
  obtain ⟨hlength, hzip⟩ := List.forall₂_iff_zip.mp hrows
  refine List.forall₂_iff_zip.mpr ⟨hlength, ?_⟩
  intro a b hmem
  obtain ⟨ha, hb⟩ := List.of_mem_zip hmem
  exact h a ha b hb (hzip hmem)

/-- Lists of literals are equal when they match item by item. -/
theorem same_list_iff {as bs : List Value}
    (h : ∀ a ∈ as, ∀ b ∈ bs, (a.same b = true ↔ Matches AgreeByValue a b)) :
    (Value.list as).same (.list bs) = true ↔ Matches AgreeByValue (.list as) (.list bs) := by
  have hrows : (Value.list as).same (.list bs) = sameItems Number.Binary64.sameNumber as bs := rfl
  rw [hrows, sameItems_iff_forall₂]
  constructor
  · intro hitems
    exact .list (forall₂_imp_mem (fun a ha b hb => (h a ha b hb).mp) hitems)
  · intro hmatches
    cases hmatches with
    | scalar left _ _ => cases left
    | list hitems => exact forall₂_imp_mem (fun a ha b hb => (h a ha b hb).mpr) hitems

/-- Mappings of literals are equal when each entry of the first has a partner in the second. -/
theorem same_map_iff {as bs : Entries} (hkeys : ∀ entry ∈ bs, entry.1.isScalar = true)
    (hapart : bs.Apart)
    (h : ∀ a ∈ as, ∀ b ∈ bs, (a.2.same b.2 = true ↔ Matches AgreeByValue a.2 b.2)) :
    (Value.map as).same (.map bs) = true ↔ Matches AgreeByValue (.map as) (.map bs) := by
  have hrows : (Value.map as).same (.map bs) =
      (as.length == bs.length && allMatchedIn Number.Binary64.sameNumber as bs) := rfl
  have hkeyed : bs.Keyed := fun entry hentry => changeable?_of_isScalar (hkeys entry hentry)
  rw [hrows, Bool.and_eq_true, beq_iff_eq, allMatchedIn_iff]
  simp only [Fields.get?_eq_some_iff hkeyed hapart]
  constructor
  · rintro ⟨hlength, hfound⟩
    have hpartner : ∀ entry ∈ as, ∃ other ∈ bs,
        AgreeByValue entry.1 other.1 ∧ Matches AgreeByValue entry.2 other.2 := by
      intro entry hentry
      obtain ⟨w, ⟨k, hmem, hsameKey⟩, hsameValue⟩ := hfound entry hentry
      exact ⟨(k, w), hmem, (same_scalar_iff _ (hkeys _ hmem)).mp hsameKey,
        (h entry hentry _ hmem).mp hsameValue⟩
    choose! partner hmem hkey hvalue using hpartner
    exact .map partner hlength hmem hkey hvalue
  · intro hmatches
    cases hmatches with
    | scalar left _ _ => cases left
    | map partner hlength hmem hkey hvalue =>
      refine ⟨hlength, fun entry hentry => ⟨(partner entry).2, ⟨(partner entry).1, ?_, ?_⟩, ?_⟩⟩
      · exact hmem entry hentry
      · exact (same_scalar_iff _ (hkeys _ (hmem entry hentry))).mpr (hkey entry hentry)
      · exact (h entry hentry _ (hmem entry hentry)).mpr (hvalue entry hentry)

/-- Literals are equal when they match by value. -/
theorem same_iff_matches {a b : Value} (ha : a.IsLiteral) (hb : b.IsLiteral) :
    a.same b = true ↔ Matches AgreeByValue a b := by
  induction ha generalizing b with
  | scalar hscalar =>
    cases hb with
    | scalar hother =>
      rw [same_scalar_iff _ hother]
      constructor
      · exact .scalar hscalar hother
      · rintro (⟨-, -, hagree⟩ | - | -)
        · exact hagree
        · cases hscalar
        · cases hscalar
    | list _ =>
      rw [(same_of_isScalar hscalar).1]
      refine iff_of_false Bool.false_ne_true ?_
      rintro (⟨-, hother, -⟩ | -)
      · cases hother
      · cases hscalar
    | map _ _ _ =>
      rw [(same_of_isScalar hscalar).2]
      refine iff_of_false Bool.false_ne_true ?_
      rintro (⟨-, hother, -⟩ | - | -)
      · cases hother
      · cases hscalar
  | list hitems ih =>
    cases hb with
    | list hothers => exact same_list_iff fun a ha b hb => ih a ha (hothers b hb)
    | map _ _ _ => exact iff_of_false Bool.false_ne_true nofun
    | scalar hother =>
      refine iff_of_false (not_same_scalar rfl hother) ?_
      rintro (⟨hlist, -, -⟩ | -)
      · cases hlist
      · cases hother
  | map hkeys hapart _ ih =>
    cases hb with
    | map hothers hapartOther hvalues =>
      exact same_map_iff hothers hapartOther fun a ha b hb => ih a ha (hvalues b hb)
    | list _ => exact iff_of_false Bool.false_ne_true nofun
    | scalar hother =>
      refine iff_of_false (not_same_scalar rfl hother) ?_
      rintro (⟨hmap, -, -⟩ | - | -)
      · cases hmap
      · cases hother

/-! ## Kinds -/

/-- What matches exactly matches by value. -/
theorem Matches.byValue {a b : Value} (ha : a.IsLiteral) (h : Matches AgreeExactly a b) :
    Matches AgreeByValue a b := by
  induction ha generalizing b with
  | scalar hscalar =>
    cases h with
    | scalar left right hagree => exact .scalar left right hagree.2
    | list _ | map _ _ _ _ _ => cases hscalar
  | list _ ih =>
    cases h with
    | scalar left _ _ => cases left
    | list hitems => exact .list (forall₂_imp_mem (fun a ha b _ => ih a ha) hitems)
  | map _ _ _ ih =>
    cases h with
    | scalar left _ _ => cases left
    | map partner hlength hmem hkeys hvalues =>
      exact .map partner hlength hmem (fun entry hentry => (hkeys entry hentry).2)
        fun entry hentry => ih entry hentry (hvalues entry hentry)

/-- A value is part of what another one keeps, at any depth. -/
def Inside (part v : Value) : Prop := ∃ direct ∈ v.keys ++ v.contents, Within part direct

theorem inside_of_key {v key : Value} (h : key ∈ v.keys) : Inside key v :=
  ⟨key, List.mem_append_left _ h, .here⟩

theorem inside_of_content {v content : Value} (h : content ∈ v.contents) : Inside content v :=
  ⟨content, List.mem_append_right _ h, .here⟩

theorem Inside.of_content {v content part : Value} (hpart : Inside part content)
    (h : content ∈ v.contents) : Inside part v := by
  obtain ⟨direct, hdirect, hwithin⟩ := hpart
  refine ⟨content, List.mem_append_right _ h, ?_⟩
  rcases List.mem_append.mp hdirect with hkey | hcontent
  · exact .key hkey hwithin
  · exact .content hcontent hwithin

/-- Inside the two values, scalars that agree by value are of one kind. -/
def KindsAgree (a b : Value) : Prop :=
  ∀ s t, Inside s a → Inside t b → s.isScalar = true → t.isScalar = true → AgreeByValue s t →
    s.kindName = t.kindName

/-- A scalar has nothing inside. -/
theorem KindsAgree.of_isScalar (a : Value) {b : Value} (hb : b.isScalar = true) : KindsAgree a b := by
  rintro s t - ⟨direct, hdirect, -⟩
  cases b with
  | null | bool b | int i | str s | float x => cases hdirect
  | _ => cases hb

/-- What is kept in two values in which kinds agree. -/
theorem KindsAgree.of_content {a b x y : Value} (h : KindsAgree a b) (hx : x ∈ a.contents)
    (hy : y ∈ b.contents) : KindsAgree x y :=
  fun s t hs ht => h s t (hs.of_content hx) (ht.of_content hy)

/-- Values that match are of one kind, if they are when they are scalars. -/
theorem Matches.kindName_eq {a b : Value} (h : Matches AgreeByValue a b)
    (hscalars : a.isScalar = true → b.isScalar = true → AgreeByValue a b → a.kindName = b.kindName) :
    a.kindName = b.kindName := by
  cases h with
  | scalar left right hagree => exact hscalars left right hagree
  | list _ => rfl
  | map _ _ _ _ _ => rfl

/-- Values that match exactly are of one kind. -/
theorem Matches.kindName_eq_of_exactly {a b : Value} (h : Matches AgreeExactly a b) :
    a.kindName = b.kindName := by
  cases h with
  | scalar _ _ hagree => exact hagree.1
  | list _ => rfl
  | map _ _ _ _ _ => rfl

/-- Values of one kind that match by value match exactly when kinds agree inside them. -/
theorem Matches.exactly {a b : Value} (ha : a.IsLiteral) (hb : b.IsLiteral)
    (h : Matches AgreeByValue a b) (hkind : a.kindName = b.kindName) (hinside : KindsAgree a b) :
    Matches AgreeExactly a b := by
  induction ha generalizing b with
  | scalar hscalar =>
    cases h with
    | scalar left right hagree => exact .scalar left right ⟨hkind, hagree⟩
    | list _ | map _ _ _ _ _ => cases hscalar
  | list _ ih =>
    cases h with
    | scalar left _ _ => cases left
    | list hitems =>
      cases hb with
      | scalar hscalar => cases hscalar
      | list hothers =>
        refine .list (forall₂_imp_mem (fun x hx y hy hxy => ?_) hitems)
        have hscalars := hinside x y (inside_of_content hx) (inside_of_content hy)
        exact ih x hx (hothers y hy) hxy (hxy.kindName_eq hscalars) (hinside.of_content hx hy)
  | map hkeys _ _ ih =>
    cases h with
    | scalar left _ _ => cases left
    | map partner hlength hmem hagree hvalues =>
      cases hb with
      | scalar hscalar => cases hscalar
      | map hotherKeys _ hotherValues =>
        refine .map partner hlength hmem (fun entry hentry => ?_) fun entry hentry => ?_
        · have hkey := hinside entry.1 (partner entry).1 (inside_of_key (List.mem_map_of_mem hentry))
            (inside_of_key (List.mem_map_of_mem (hmem entry hentry)))
          exact ⟨hkey (hkeys entry hentry) (hotherKeys _ (hmem entry hentry)) (hagree entry hentry),
            hagree entry hentry⟩
        · have hx : entry.2 ∈ Value.contents (.map _) := List.mem_map_of_mem hentry
          have hy : (partner entry).2 ∈ Value.contents (.map _) :=
            List.mem_map_of_mem (hmem entry hentry)
          have hvalue := hvalues entry hentry
          have hscalars := hinside _ _ (inside_of_content hx) (inside_of_content hy)
          exact ih entry hentry (hotherValues _ (hmem entry hentry)) hvalue
            (hvalue.kindName_eq hscalars) (hinside.of_content hx hy)

end Value

end PluginDescriptor
