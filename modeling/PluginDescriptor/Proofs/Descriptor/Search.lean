import PluginDescriptor.Descriptor.Catalog
import PluginDescriptor.Proofs.Descriptor.Request
import PluginDescriptor.Proofs.File.Path
import PluginDescriptor.Proofs.Settings.Reading

/-!
# Where descriptors are found

A descriptor that is found lies three steps below a root: in the directory of its kind, in the
directory of the namespace, in a file named for the plugin. Kind and name are identifiers, the
namespace and the extension are checked when settings are read, and so none of these steps leads back
or further down (`Search.findAmong_stays_below`).
-/

set_option autoImplicit false

namespace PluginDescriptor

namespace Search

/-! ## Identifiers -/

/-- An identifier is a row of characters of identifiers, perhaps with a line feed after them. -/
theorem exists_body_of_isIdentifier {s : String} (h : isIdentifier s = true) :
    ∃ body tail, s.toList = body ++ tail ∧ body ≠ [] ∧
      (∀ c ∈ body, isIdentifierChar c = true) ∧ ∀ c ∈ tail, c = '\n' := by
  rw [isIdentifier, Bool.and_eq_true, Bool.not_eq_true', List.isEmpty_eq_false_iff,
    List.all_eq_true] at h
  split at h
  · rename_i hfeed
    obtain ⟨body, hbody⟩ := List.getLast?_eq_some_iff.mp (beq_iff_eq.mp hfeed)
    rw [hbody, List.dropLast_concat] at h
    exact ⟨body, ['\n'], hbody, h.1, h.2, fun c hc => List.mem_singleton.mp hc⟩
  · exact ⟨s.toList, [], (List.append_nil _).symm, h.1, h.2, fun c hc => (List.not_mem_nil hc).elim⟩

/-- An identifier names a single step, and so does one that is followed by what holds no slash, such
as an extension. -/
theorem isStep_of_isIdentifier {s : String} (h : isIdentifier s = true) {more : String}
    (hmore : '/' ∉ more.toList) : Path.IsStep (s ++ more) := by
  obtain ⟨body, tail, hs, hne, hbody, htail⟩ := exists_body_of_isIdentifier h
  obtain ⟨first, rest, rfl⟩ := List.exists_cons_of_ne_nil hne
  have hfirst : isIdentifierChar first = true := hbody first List.mem_cons_self
  have hslash : isIdentifierChar '/' = false := rfl
  have hpoint : isIdentifierChar '.' = false := rfl
  have hchars : (s ++ more).toList = first :: rest ++ tail ++ more.toList := by
    rw [String.toList_append, hs]
  -- a text that starts with a point is not the one at hand
  have hother : ∀ others, s ++ more = String.ofList ('.' :: others) → False := by
    intro others heq
    rw [heq, String.toList_ofList] at hchars
    obtain ⟨rfl, -⟩ := List.cons.inj hchars
    rw [hpoint] at hfirst
    cases hfirst
  refine ⟨?_, fun heq => hother [] heq, fun heq => hother ['.'] heq, ?_⟩
  · intro heq
    rw [heq] at hchars
    cases hchars
  · intro hmem
    rw [hchars, List.mem_append, List.mem_append] at hmem
    rcases hmem with (hmem | hmem) | hmem
    · have hchar := hbody _ hmem
      rw [hslash] at hchar
      cases hchar
    · have hfeed := htail _ hmem
      revert hfeed
      decide
    · exact hmore hmem

/-! ## Candidates -/

/-- The steps that lead from a root to the descriptor of a plugin: the namespace, the kind, and the
name with the extension, which the points in front of it do not belong to. -/
def stepsTo (s : Settings) (name kind : String) : List String :=
  [s.space, kind, name ++ "." ++ String.ofList (s.extension.toList.dropWhile (· == '.'))]

/-- Where the descriptor of a plugin is under a root, by the settings. -/
def placeUnder (s : Settings) (name kind root : String) : Path :=
  (Path.ofText root).descend (stepsTo s name kind)

/-- A text that was checked as part of a path holds no slash and does not lead back. -/
theorem isStep_of_isPathStep {s : String} (hne : s ≠ "") (h : Settings.isPathStep s = true) :
    Path.IsStep s := by
  simp only [Settings.isPathStep, Bool.not_eq_true', Bool.or_eq_false_iff, beq_eq_false_iff_ne,
    List.contains_eq_mem, decide_eq_false_iff_not] at h
  obtain ⟨⟨⟨hslash, -⟩, hhere⟩, hup⟩ := h
  exact ⟨hne, hhere, hup, hslash⟩

/-- Each of the steps to a descriptor is a single step down. -/
theorem isStep_stepsTo {entries : Entries} {s : Settings} (hs : Settings.ofEntries entries = .ok s)
    {name kind : String} (hname : isIdentifier name = true) (hkind : isIdentifier kind = true) :
    ∀ step ∈ stepsTo s name kind, Path.IsStep step := by
  obtain ⟨⟨hspace, hspaceStep⟩, hextension, hextensionStep⟩ := Settings.isPathStep_of_ofEntries hs
  have hbare : '/' ∉
      ("." ++ String.ofList (s.extension.toList.dropWhile (· == '.'))).toList := by
    rw [String.toList_append, List.mem_append]
    rintro (hmem | hmem)
    · revert hmem
      decide
    · rw [String.toList_ofList] at hmem
      exact (isStep_of_isPathStep hextension hextensionStep).slashless
        ((List.dropWhile_sublist _).subset hmem)
  have hbareKind : Path.IsStep (kind ++ "") := isStep_of_isIdentifier hkind (by decide)
  rw [String.append_empty] at hbareKind
  have hfile := isStep_of_isIdentifier hname hbare
  rw [← String.append_assoc] at hfile
  intro step hstep
  simp only [stepsTo, List.mem_cons, List.not_mem_nil, or_false] at hstep
  rcases hstep with rfl | rfl | rfl
  · exact isStep_of_isPathStep hspace hspaceStep
  · exact hbareKind
  · exact hfile

/-- The candidate under a root is where the steps lead to. -/
theorem candidate_eq {entries : Entries} {s : Settings} (hs : Settings.ofEntries entries = .ok s)
    {name kind : String} (hname : isIdentifier name = true) (hkind : isIdentifier kind = true)
    (root : String) :
    (Catalog.ofSettings s).search.candidate (Path.ofText root) name kind =
      placeUnder s name kind root := by
  have hsteps := isStep_stepsTo hs hname hkind
  simp only [stepsTo, List.forall_mem_cons] at hsteps
  obtain ⟨hspace, hkind, hfile, -⟩ := hsteps
  have hcandidate : (Catalog.ofSettings s).search.candidate (Path.ofText root) name kind =
      (((Path.ofText root).below s.space).below kind).below
        (name ++ "." ++ String.ofList (s.extension.toList.dropWhile (· == '.'))) := rfl
  rw [hcandidate, Path.below_of_isStep _ hspace, Path.below_of_isStep _ hkind,
    Path.below_of_isStep _ hfile, Path.descend_descend, Path.descend_descend]
  rfl

/-! ## Finding -/

/-- One root: the search ends there, or goes on with the rest. -/
theorem outcome_findUnder_cons {s : Search} {isFile : Path → Except Fault Bool} {name kind : String}
    {root : Path} {answer : Bool} (h : isFile (s.candidate root name kind) = .ok answer)
    (rest : List Path) :
    (s.findUnder isFile name kind (root :: rest)).outcome =
      if answer then .ok (some (s.candidate root name kind))
      else (s.findUnder isFile name kind rest).outcome := by
  simp only [findUnder, Logged.outcome_bind, Logged.outcome_note, Logged.outcome_of, h]
  cases answer with
  | true => rfl
  | false => rfl

/-- What is found under roots of which it is known whether they have the descriptor: the place under
the first that has it. -/
theorem outcome_findUnder (s : Search) (isFile : Path → Except Fault Bool) (name kind : String)
    {roots : List Path}
    (hanswers : ∀ root ∈ roots, ∃ answer, isFile (s.candidate root name kind) = .ok answer) :
    ∃ found, (s.findUnder isFile name kind roots).outcome = .ok found ∧
      (∀ p, found = some p ↔
        ∃ root, First (fun root => isFile (s.candidate root name kind) = .ok true) roots root ∧
          p = s.candidate root name kind) ∧
      (found = none ↔ ∀ root ∈ roots, isFile (s.candidate root name kind) = .ok false) := by
  induction roots with
  | nil => exact ⟨none, rfl, by simp [not_first_nil], by simp⟩
  | cons root rest ih =>
    obtain ⟨⟨answer, hanswer⟩, hrest⟩ := List.forall_mem_cons.mp hanswers
    rw [outcome_findUnder_cons hanswer]
    simp only [first_cons_iff, List.forall_mem_cons, hanswer]
    cases answer with
    | true =>
      refine ⟨_, rfl, fun p => ?_, by simp⟩
      simp [eq_comm]
    | false =>
      obtain ⟨found, houtcome, hsome, hnone⟩ := ih hrest
      refine ⟨found, houtcome, fun p => ?_, ?_⟩
      · simp [hsome]
      · simp [hnone]

/-- Roots are tried once both the name and the kind are identifiers. -/
theorem outcome_findAmong (s : Search) (isFile : Path → Except Fault Bool) (name kind : String) :
    (s.findAmong isFile name kind).outcome =
      if isIdentifier name = true ∧ isIdentifier kind = true then
        (s.findUnder isFile name kind s.roots).outcome
      else .ok none := by
  unfold findAmong
  cases hname : isIdentifier name with
  | false =>
    simp only [List.find?_cons, hname]
    rfl
  | true =>
    cases hkind : isIdentifier kind with
    | false =>
      simp only [List.find?_cons, hname, hkind]
      rfl
    | true => simp [hname, hkind]

/-- Where a search leads that settings describe, when it is known of each candidate whether it is a
file. A path that is found is three single steps below a root, by the namespace, the kind and the name
of the plugin, and the root is the first that has the file. Nothing is found only when the name or the
kind is no identifier, or when no root has the file. -/
theorem findAmong_stays_below {entries : Entries} {s : Settings}
    (hs : Settings.ofEntries entries = .ok s) (isFile : Path → Except Fault Bool) (name kind : String)
    (hanswers : ∀ root ∈ s.roots, ∃ answer, isFile (placeUnder s name kind root) = .ok answer) :
    ∃ found, ((Catalog.ofSettings s).search.findAmong isFile name kind).outcome = .ok found ∧
      (∀ p, found = some p → (isIdentifier name = true ∧ isIdentifier kind = true) ∧
        (∀ step ∈ stepsTo s name kind, Path.IsStep step) ∧
        ∃ root, First (fun root => isFile (placeUnder s name kind root) = .ok true) s.roots root ∧
          p = (Path.ofText root).descend (stepsTo s name kind)) ∧
      (found = none → ¬ isIdentifier name = true ∨ ¬ isIdentifier kind = true ∨
        ∀ root ∈ s.roots, isFile (placeUnder s name kind root) = .ok false) := by
  rw [outcome_findAmong]
  by_cases hidentifiers : isIdentifier name = true ∧ isIdentifier kind = true
  · obtain ⟨hname, hkind⟩ := hidentifiers
    have hroots : (Catalog.ofSettings s).search.roots = s.roots.map Path.ofText := rfl
    have hplace := candidate_eq hs hname hkind
    rw [if_pos ⟨hname, hkind⟩, hroots]
    have hcandidates : ∀ root ∈ s.roots.map Path.ofText, ∃ answer,
        isFile ((Catalog.ofSettings s).search.candidate root name kind) = .ok answer := by
      simpa [hplace] using hanswers
    obtain ⟨found, houtcome, hsome, hnone⟩ :=
      outcome_findUnder (Catalog.ofSettings s).search isFile name kind hcandidates
    refine ⟨found, houtcome, fun p hp => ⟨⟨hname, hkind⟩, isStep_stepsTo hs hname hkind, ?_⟩,
      fun hlacking => .inr (.inr ?_)⟩
    · obtain ⟨root, hroot, rfl⟩ := (hsome p).mp hp
      obtain ⟨text, hfirst, rfl⟩ := (first_map_iff Path.ofText).mp hroot
      simp only [hplace] at hfirst ⊢
      exact ⟨text, hfirst, rfl⟩
    · intro root hroot
      have hfile := hnone.mp hlacking (Path.ofText root) (List.mem_map_of_mem hroot)
      rwa [hplace] at hfile
  · rw [if_neg hidentifiers]
    refine ⟨none, rfl, fun p hp => (Option.some_ne_none p hp.symm).elim, fun _ => ?_⟩
    rcases Classical.not_and_iff_not_or_not.mp hidentifiers with hname | hkind
    · exact .inl hname
    · exact .inr (.inl hkind)

/-- Settings with two roots and an extension that is given with points in front. -/
def twoRoots : Settings := { roots := ["plugins", "/opt//plugins"], extension := "..yaml" }

theorem findAmong_stays_below_secondRoot :
    let given := Entries.ofFields [
      ("plugin_search_paths", .list [.str "plugins", .str "/opt//plugins"]),
      ("descriptor_extension", .str "..yaml")]
    let isFile : Path → Except Fault Bool := fun p => .ok p.isAbsolute
    Settings.ofEntries given = .ok twoRoots ∧
      ((Catalog.ofSettings twoRoots).search.findAmong isFile "echo" "agent").outcome =
        .ok (some { root := "/", parts := ["opt", "plugins", "polaris", "agent", "echo.yaml"] }) := by
  intro given isFile
  have hgiven : Settings.ofEntries given = .ok twoRoots := by rfl
  refine ⟨hgiven, ?_⟩
  obtain ⟨found, houtcome, hsome, hnone⟩ :=
    findAmong_stays_below hgiven isFile "echo" "agent" fun root _ => ⟨_, rfl⟩
  cases found with
  | none =>
    rcases hnone rfl with hname | hkind | habsent
    · exact (hname (by decide)).elim
    · exact (hkind (by decide)).elim
    · have hfile := habsent "/opt//plugins" (by simp [twoRoots])
      cases hfile
  | some p =>
    obtain ⟨-, -, root, ⟨before, rest, hrow, hfile, -⟩, rfl⟩ := hsome p rfl
    have hroot : root ∈ twoRoots.roots := hrow ▸ List.mem_append_cons_self
    simp only [twoRoots, List.mem_cons, List.not_mem_nil, or_false] at hroot
    rcases hroot with rfl | rfl
    · cases hfile
    · rw [houtcome]
      rfl

end Search

end PluginDescriptor
