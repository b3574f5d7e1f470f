import PluginDescriptor.File.Path
import PluginDescriptor.Proofs.Text.Split

/-!
# Going down a path

A text that goes down a path may hold slashes, points or a root of its own, and then it leads
elsewhere. One that names a single step leads to just that step below (`Path.below_of_isStep`). What
is in front of the last point of a file's name is its stem; whether that is all that the extension was
put behind is up to the extension (`Path.stem_of_extension`).
-/

set_option autoImplicit false

namespace PluginDescriptor

namespace Path

/-- A text names a single step down: it is not empty, does not lead back, and holds no slash. -/
structure IsStep (s : String) : Prop where
  nonempty : s ≠ ""
  notHere : s ≠ "."
  notUp : s ≠ ".."
  slashless : '/' ∉ s.toList

/-- The path that steps lead to. -/
def descend (p : Path) (steps : List String) : Path := { p with parts := p.parts ++ steps }

theorem descend_descend (p : Path) (steps more : List String) :
    (p.descend steps).descend more = p.descend (steps ++ more) := by
  simp only [descend, List.append_assoc]

/-- The path of a single step. -/
theorem ofText_of_isStep {s : String} (h : IsStep s) : ofText s = { root := "", parts := [s] } := by
  have hrelative : s.toList.takeWhile (· == '/') = [] := by
    have hslash := h.slashless
    cases hs : s.toList with
    | nil => rfl
    | cons c rest =>
      rw [hs, List.mem_cons, not_or] at hslash
      rw [List.takeWhile_cons, if_neg fun hc => hslash.1 (beq_iff_eq.mp hc).symm]
  have hnames : namesIn s.toList = [s] := by
    rw [namesIn, Text.splitAt_of_not_mem h.slashless]
    simp [h.nonempty, h.notHere]
  simp only [ofText, hrelative, hnames]
  rfl

/-! ## Texts of paths -/

/-- None of the names is empty. -/
def IsProper (p : Path) : Prop := ∀ name ∈ p.parts, name ≠ ""

/-- What is read from a text has no empty names. -/
theorem isProper_ofText (s : String) : (ofText s).IsProper := by
  intro name hname hempty
  have hkept := (List.mem_filter.mp hname).2
  rw [hempty] at hkept
  cases hkept

theorem IsProper.below {p : Path} (h : p.IsProper) (s : String) : (p.below s).IsProper := by
  unfold Path.below
  have hs := isProper_ofText s
  generalize ofText s = q at hs
  intro name hname
  have happend : (p ++ q).parts = if q.isAbsolute = true then q.parts else p.parts ++ q.parts := by
    change (p.append q).parts = _
    unfold append
    split <;> rfl
  rw [happend] at hname
  split at hname
  · exact hs name hname
  · rcases List.mem_append.mp hname with hp | hq
    · exact h name hp
    · exact hs name hq

/-- A path without empty names does not have the empty text. -/
theorem IsProper.text_ne {p : Path} (h : p.IsProper) : p.text ≠ "" := by
  unfold text
  split
  · decide
  · rename_i hsome
    intro hempty
    obtain ⟨hroot, hjoin⟩ := String.append_eq_empty_iff.mp hempty
    cases hparts : p.parts with
    | nil => simp [hroot, hparts] at hsome
    | cons name rest =>
      have hname : name ≠ "" := h name (hparts ▸ List.mem_cons_self)
      rw [hparts] at hjoin
      cases rest with
      | nil => exact hname (by simpa [Text.join] using hjoin)
      | cons next rest =>
        rw [Text.join, String.intercalate_cons_cons, String.append_eq_empty_iff,
          String.append_eq_empty_iff] at hjoin
        exact hname hjoin.1.1

/-! ## Single steps -/

theorem below_of_isStep (p : Path) {s : String} (h : IsStep s) : p.below s = p.descend [s] := by
  rw [below, ofText_of_isStep h]
  rfl

/-! ## Names of files -/

theorem name_descend (p : Path) (steps : List String) (last : String) :
    (p.descend (steps ++ [last])).name = last := by
  simp only [name, descend, ← List.append_assoc, List.getLast?_concat, Option.getD_some]

theorem parent_descend (p : Path) (steps : List String) (last : String) :
    (p.descend (steps ++ [last])).parent = p.descend steps := by
  simp only [parent, descend, ← List.append_assoc, List.dropLast_concat]

/-- The stem of a name with a point in it is what is in front of the last point, unless there is
nothing in front of it or nothing behind it. -/
theorem stem_of_name {p : Path} {base behind : List Char}
    (hname : p.name.toList = base ++ '.' :: behind) (hbehind : '.' ∉ behind) :
    p.stem = if base ≠ [] ∧ behind ≠ [] then String.ofList base else p.name := by
  have hreverse : p.name.toList.reverse = behind.reverse ++ '.' :: base.reverse := by
    rw [hname, List.reverse_append, List.reverse_cons, List.append_assoc, List.singleton_append]
  have hscan : p.name.toList.reverse.takeWhile (· != '.') = behind.reverse := by
    rw [hreverse, List.takeWhile_append_of_pos, List.takeWhile_cons_of_neg (by decide),
      List.append_nil]
    intro c hc
    have hne : c ≠ '.' := fun heq => hbehind (heq ▸ List.mem_reverse.mp hc)
    exact bne_iff_ne.mpr hne
  have hlength : p.name.toList.length = base.length + (behind.length + 1) := by
    rw [hname, List.length_append, List.length_cons]
  have hbefore : p.name.toList.length - behind.length - 1 = base.length := by omega
  have htake : p.name.toList.take base.length = base := by
    rw [hname, List.take_left]
  have hlt : behind.length < p.name.toList.length := by omega
  unfold stem
  simp only [hscan, List.length_reverse, hbefore, htake, hlt, decide_true, Bool.true_and,
    Bool.and_eq_true, decide_eq_true_eq, List.length_pos_iff]

/-- A file is named with an extension behind a name. Its stem is that name if the extension is there
and has no point in it, and else a longer text. -/
theorem stem_of_extension {p : Path} {base extension : String} (hbase : base ≠ "")
    (hname : p.name = base ++ "." ++ extension) :
    (extension ≠ "" → '.' ∉ extension.toList → p.stem = base) ∧
      (¬ (extension ≠ "" ∧ '.' ∉ extension.toList) → ∃ more, p.stem = base ++ "." ++ more) := by
  have hdotted (more : String) : (base ++ "." ++ more).toList = base.toList ++ '.' :: more.toList := by
    rw [String.toList_append, String.toList_append, List.append_assoc]
    rfl
  have hchars : p.name.toList = base.toList ++ '.' :: extension.toList := by rw [hname, hdotted]
  have hnonempty {s : String} (h : s ≠ "") : s.toList ≠ [] := mt String.toList_eq_nil_iff.mp h
  constructor
  · intro hextension hsingle
    rw [stem_of_name hchars hsingle, if_pos ⟨hnonempty hbase, hnonempty hextension⟩,
      String.ofList_toList]
  · intro hnot
    cases hlast : Text.beforeLast? '.' extension.toList with
    | none =>
      have hsingle := (Text.beforeLast?_eq_none_iff _ _).mp hlast
      have hempty : extension = "" := Classical.byContradiction fun h => hnot ⟨h, hsingle⟩
      refine ⟨extension, ?_⟩
      rw [stem_of_name hchars hsingle, if_neg fun h => h.2 (String.toList_eq_nil_iff.mpr hempty), hname]
    | some before =>
      obtain ⟨behind, hsplit, hbehind⟩ := (Text.beforeLast?_eq_some_iff _ _ _).mp hlast
      have hlonger : p.name.toList = (base.toList ++ '.' :: before) ++ '.' :: behind := by
        rw [hchars, hsplit, List.append_assoc, List.cons_append]
      rw [stem_of_name hlonger hbehind]
      split
      · refine ⟨String.ofList before, ?_⟩
        rw [← String.toList_inj, String.toList_ofList, hdotted, String.toList_ofList]
      · exact ⟨extension, hname⟩

end Path

end PluginDescriptor
