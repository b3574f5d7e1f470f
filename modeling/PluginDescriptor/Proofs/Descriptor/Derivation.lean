import PluginDescriptor.Proofs.Descriptor.Naming
import PluginDescriptor.Proofs.Descriptor.Search

/-!
# Plugins read off paths

A descriptor that is loaded by its path alone belongs to the plugin that the path names: its directory
names the kind, and the stem of the file the name. A search makes the path from name, kind and
extension, and the way back leads to the same kind always, and to the same name exactly when the
extension has points in front alone (`Catalog.interpret_found`). An extension such as `ddl.yaml` is
accepted all the same, and leaves a part of itself on the name.
-/

set_option autoImplicit false

namespace PluginDescriptor

namespace Search

/-- An extension of one part: there is something behind the points in front of it, and no other
point. -/
def IsOnePart (extension : String) : Prop :=
  ∃ points part, extension.toList = points ++ part ∧ (∀ c ∈ points, c = '.') ∧ part ≠ [] ∧ '.' ∉ part

/-- What is left of an extension in the names of files. -/
def fileExtension (extension : String) : String :=
  String.ofList (extension.toList.dropWhile (· == '.'))

theorem isOnePart_iff (extension : String) : IsOnePart extension ↔
    fileExtension extension ≠ "" ∧ '.' ∉ (fileExtension extension).toList := by
  have hempty : fileExtension extension ≠ "" ↔ extension.toList.dropWhile (· == '.') ≠ [] := by
    rw [fileExtension, Ne, Ne, ← String.toList_eq_nil_iff, String.toList_ofList]
  rw [hempty, fileExtension, String.toList_ofList]
  constructor
  · intro ⟨points, part, hextension, hpoints, hpart, hsingle⟩
    have hdrop : extension.toList.dropWhile (· == '.') = part := by
      rw [hextension, List.dropWhile_append_of_pos fun c hc => beq_iff_eq.mpr (hpoints c hc)]
      cases part with
      | nil => rfl
      | cons c rest =>
        apply List.dropWhile_cons_of_neg
        intro hc
        rw [beq_iff_eq.mp hc] at hsingle
        exact hsingle List.mem_cons_self
    rw [hdrop]
    exact ⟨hpart, hsingle⟩
  · intro ⟨hpart, hsingle⟩
    refine ⟨extension.toList.takeWhile (· == '.'), extension.toList.dropWhile (· == '.'), ?_, ?_,
      hpart, hsingle⟩
    · exact List.takeWhile_append_dropWhile.symm
    · intro c hc
      have hpoint : (c == '.') = true := List.mem_takeWhile_imp (p := (· == '.')) hc
      exact beq_iff_eq.mp hpoint

variable {entries : Entries} {s : Settings} {files : FileTree} {name kind : String} {p : Path}

/-- What is found is found for identifiers, at the place under one of the roots. -/
theorem exists_placeUnder_of_find (hs : Settings.ofEntries entries = .ok s)
    (h : ((Catalog.ofSettings s).search.find files name kind).outcome = .ok (some p)) :
    isIdentifier name = true ∧ isIdentifier kind = true ∧ ∃ root, p = placeUnder s name kind root := by
  rw [find, outcome_findAmong] at h
  split at h
  · rename_i hidentifiers
    obtain ⟨hname, hkind⟩ := hidentifiers
    obtain ⟨root, hroot, rfl⟩ := exists_candidate_of_findUnder h
    obtain ⟨text, -, rfl⟩ := List.mem_map.mp hroot
    exact ⟨hname, hkind, text, candidate_eq hs hname hkind text⟩
  · cases h

theorem ne_empty_of_isIdentifier {identifier : String} (h : isIdentifier identifier = true) :
    identifier ≠ "" := by
  intro hempty
  rw [hempty] at h
  cases h

/-- The place of a descriptor names the kind of the plugin by the directory. -/
theorem name_parent_placeUnder (s : Settings) (name kind root : String) :
    (placeUnder s name kind root).parent.name = kind := by
  have hsteps : stepsTo s name kind =
      [s.space, kind] ++ [name ++ "." ++ fileExtension s.extension] := rfl
  rw [placeUnder, hsteps, Path.parent_descend]
  exact Path.name_descend (Path.ofText root) [s.space] kind

/-- The place of a descriptor names the plugin by the stem of the file, when the extension has one
part, and else a longer name. -/
theorem stem_placeUnder (s : Settings) {name : String} (hname : name ≠ "") (kind root : String) :
    (IsOnePart s.extension → (placeUnder s name kind root).stem = name) ∧
      (¬ IsOnePart s.extension →
        ∃ more, (placeUnder s name kind root).stem = name ++ "." ++ more) := by
  have hfile : (placeUnder s name kind root).name = name ++ "." ++ fileExtension s.extension :=
    Path.name_descend (Path.ofText root) [s.space, kind] _
  obtain ⟨hsame, hlonger⟩ := Path.stem_of_extension hname hfile
  rw [isOnePart_iff]
  exact ⟨fun h => hsame h.1 h.2, hlonger⟩

end Search

namespace Execution

/-- Steps leave alone what a draft is about. -/
theorem subject_foldl_after (steps : List Step) (s : State) :
    (steps.foldl State.after s).draft.subject = s.draft.subject := by
  induction steps generalizing s with
  | nil => rfl
  | cons step rest ih =>
    have hstep : (s.after step).draft.subject = s.draft.subject := by rw [State.after_eq]
    rw [List.foldl_cons, ih, hstep]

theorem subjectOf_of_executeDocument {subject : Subject} {host : String} {document : Value}
    {r : Registry} (h : (executeDocument subject host document).outcome = .ok r) :
    Catalog.subjectOf r = subject := by
  obtain ⟨steps, -, -, hbuild⟩ := (executeDocument_eq_ok_iff subject host document r).mp h
  obtain ⟨fields, -, rfl⟩ := (build_eq_ok_iff _ r).mp hbuild
  exact subject_foldl_after steps (State.start subject host)

end Execution

namespace Catalog

open Search

variable {entries : Entries} {s : Settings} {files : FileTree} {name kind : String} {p : Path}

/-- What a search finds is what loading starts from. -/
theorem outcome_load_of_find (c : Catalog) (shared : String)
    (h : (c.search.find files name kind).outcome = .ok (some p)) :
    (c.load files shared name kind).outcome =
      (interpret files (c.hostVersion shared) p name kind).outcome := by
  have hlocate : (c.search.locate files name kind).outcome = .ok p := by
    rw [locate, Logged.outcome_bind, h]
    rfl
  rw [load, Logged.outcome_bind, hlocate]
  rfl

/-- A registry is that of the plugin it is loaded for. -/
theorem subjectOf_of_interpret {host : String} {r : Registry}
    (h : (interpret files host p name kind).outcome = .ok r) : subjectOf r = subjectAt p name kind := by
  rw [outcome_interpret] at h
  obtain ⟨source, -, hexecute⟩ := bind_eq_ok_iff.mp h
  unfold Execution.execute at hexecute
  rw [Logged.outcome_bind] at hexecute
  obtain ⟨document, -, hdocument⟩ := bind_eq_ok_iff.mp hexecute
  exact Execution.subjectOf_of_executeDocument hdocument

/-- What a path that is found names: the kind always, and the name when the extension has one part. -/
theorem named_of_find (hs : Settings.ofEntries entries = .ok s)
    (hfound : ((ofSettings s).search.find files name kind).outcome = .ok (some p)) :
    p.parent.name = kind ∧ (IsOnePart s.extension → p.stem = name) ∧
      (¬ IsOnePart s.extension → ∃ more, p.stem = name ++ "." ++ more) := by
  obtain ⟨hname, -, root, rfl⟩ := exists_placeUnder_of_find hs hfound
  have hparent := name_parent_placeUnder s name kind root
  exact ⟨hparent, stem_placeUnder s (ne_empty_of_isIdentifier hname) kind root⟩

/-- Loading by name is for the name and kind that were searched for. -/
theorem subjectAt_of_find (hs : Settings.ofEntries entries = .ok s)
    (hfound : ((ofSettings s).search.find files name kind).outcome = .ok (some p)) :
    subjectAt p name kind = { kind, name, path := some p.text } := by
  obtain ⟨hname, hkind, -⟩ := exists_placeUnder_of_find hs hfound
  exact subjectAt_eq p (ne_empty_of_isIdentifier hkind) (ne_empty_of_isIdentifier hname)

theorem subjectAt_bare (p : Path) :
    subjectAt p "" "" = { kind := p.parent.name, name := p.stem, path := some p.text } := rfl

/-- With an extension of more than one part, no registry comes of loading both by path and by name. -/
theorem interpret_ne_of_load (hs : Settings.ofEntries entries = .ok s)
    (hfound : ((ofSettings s).search.find files name kind).outcome = .ok (some p))
    (hmore : ¬ IsOnePart s.extension) {shared : String} {r : Registry}
    (hload : ((ofSettings s).load files shared name kind).outcome = .ok r) :
    (interpret files ((ofSettings s).hostVersion shared) p "" "").outcome ≠ .ok r := by
  intro hbyPath
  rw [outcome_load_of_find (ofSettings s) shared hfound] at hload
  have hsubject : subjectAt p "" "" = subjectAt p name kind :=
    (subjectOf_of_interpret hbyPath).symm.trans (subjectOf_of_interpret hload)
  rw [subjectAt_bare, subjectAt_of_find hs hfound, Subject.mk.injEq] at hsubject
  obtain ⟨-, hname, -⟩ := hsubject
  obtain ⟨more, hstem⟩ := (named_of_find hs hfound).2.2 hmore
  have hlength := congrArg String.length (hstem.symm.trans hname)
  rw [String.length_append, String.length_append] at hlength
  have hpoint : ".".length = 1 := rfl
  omega

/-- Loading by path and loading by name. For all settings that are accepted, and whatever path a search
finds for a name and a kind: the kind read off the path is the given one. If the extension has one
part, the name read off is the given one as well, so that loading the path alone goes as loading it for
the name and the kind, and ends with the same registry or the same error as loading by name. With any
other extension that is accepted, the name read off is a longer one, and no registry comes of both. -/
theorem interpret_found (hs : Settings.ofEntries entries = .ok s)
    (hfound : ((ofSettings s).search.find files name kind).outcome = .ok (some p)) :
    p.parent.name = kind ∧
      (IsOnePart s.extension → p.stem = name ∧ ∀ shared,
        interpret files ((ofSettings s).hostVersion shared) p "" "" =
            interpret files ((ofSettings s).hostVersion shared) p name kind ∧
          (interpret files ((ofSettings s).hostVersion shared) p "" "").outcome =
            ((ofSettings s).load files shared name kind).outcome) ∧
      (¬ IsOnePart s.extension → (∃ more, p.stem = name ++ "." ++ more) ∧ ∀ shared r,
        ((ofSettings s).load files shared name kind).outcome = .ok r →
          (interpret files ((ofSettings s).hostVersion shared) p "" "").outcome ≠ .ok r) := by
  obtain ⟨hparent, hsame, hlonger⟩ := named_of_find hs hfound
  refine ⟨hparent, fun hone => ⟨hsame hone, fun shared => ?_⟩, fun hmore => ⟨hlonger hmore, ?_⟩⟩
  · have hsubject : subjectAt p "" "" = subjectAt p name kind := by
      rw [subjectAt_bare, hparent, hsame hone, subjectAt_of_find hs hfound]
    have hinterpret : interpret files ((ofSettings s).hostVersion shared) p "" "" =
        interpret files ((ofSettings s).hostVersion shared) p name kind := by
      unfold interpret
      rw [hsubject]
    rw [outcome_load_of_find (ofSettings s) shared hfound, hinterpret]
    exact ⟨rfl, rfl⟩
  · intro shared r hload
    exact interpret_ne_of_load hs hfound hmore hload

/-- The text of a descriptor that states metadata alone. -/
def statedText : String :=
  Text.join "\n" ("- metadata:" :: metadataKeys.map fun key =>
    "   " ++ key ++ ": " ++ if key = "timeout" then "10" else "x")

/-- A root with a descriptor in the file of a name. -/
def rootWith (file : String) : FileTree where
  working := ["srv"]
  nodes := [(["srv", "plugins"], .directory), (["srv", "plugins", "polaris"], .directory),
    (["srv", "plugins", "polaris", "agent"], .directory),
    (["srv", "plugins", "polaris", "agent", file], .file (Text.encodeUtf8 statedText))]

/-- Settings with that root and an extension, as they are given. -/
def givenExtension (extension : String) : Entries :=
  Entries.ofFields [("plugin_search_paths", .str "plugins"), ("descriptor_extension", .str extension)]

theorem interpret_found_pointed :
    let s : Settings := { roots := ["plugins"], extension := "..ddl" }
    let files := rootWith "echo.ddl"
    let p : Path := { root := "", parts := ["plugins", "polaris", "agent", "echo.ddl"] }
    Settings.ofEntries (givenExtension "..ddl") = .ok s ∧
      ((ofSettings s).search.find files "echo" "agent").outcome = .ok (some p) ∧
      IsOnePart s.extension ∧ p.parent.name = "agent" ∧ p.stem = "echo" ∧
      (interpret files "1.10" p "" "").outcome =
        ((ofSettings s).load files "1.10" "echo" "agent").outcome := by
  intro s files p
  have hs : Settings.ofEntries (givenExtension "..ddl") = .ok s := by rfl
  have hfound : ((ofSettings s).search.find files "echo" "agent").outcome = .ok (some p) := by
    apply toOption_eq_some_iff.mp
    decide +kernel
  have hone : IsOnePart s.extension := by
    rw [isOnePart_iff]
    decide +kernel
  obtain ⟨hparent, hsame, -⟩ := interpret_found hs hfound
  obtain ⟨hstem, hload⟩ := hsame hone
  exact ⟨hs, hfound, hone, hparent, hstem, (hload "1.10").2⟩

/-- With an extension of two parts, what is loaded by its path is not what is loaded by its name. -/
theorem interpret_found_longer :
    let s : Settings := { roots := ["plugins"], extension := "ddl.yaml" }
    let files := rootWith "echo.ddl.yaml"
    let p : Path := { root := "", parts := ["plugins", "polaris", "agent", "echo.ddl.yaml"] }
    Settings.ofEntries (givenExtension "ddl.yaml") = .ok s ∧
      ((ofSettings s).search.find files "echo" "agent").outcome = .ok (some p) ∧
      p.parent.name = "agent" ∧ p.stem = "echo.ddl" ∧
      ∃ r, ((ofSettings s).load files "1.10" "echo" "agent").outcome = .ok r ∧
        (interpret files "1.10" p "" "").outcome ≠ .ok r := by
  intro s files p
  have hs : Settings.ofEntries (givenExtension "ddl.yaml") = .ok s := by rfl
  have hfound : ((ofSettings s).search.find files "echo" "agent").outcome = .ok (some p) := by
    apply toOption_eq_some_iff.mp
    decide +kernel
  have hnamed : p.parent.name = "agent" ∧ p.stem = "echo.ddl" := by decide +kernel
  have hmore : ¬ IsOnePart s.extension := by
    rw [isOnePart_iff]
    decide +kernel
  have hread : readSource files (subjectAt p "echo" "agent") p = .ok statedText := by
    apply toOption_eq_some_iff.mp
    decide +kernel
  have hexecuted : (Execution.execute (subjectAt p "echo" "agent") "1.10"
      statedText).outcome.toOption.isSome := by
    decide +kernel
  obtain ⟨r, hr⟩ := Option.isSome_iff_exists.mp hexecuted
  have hload : ((ofSettings s).load files "1.10" "echo" "agent").outcome = .ok r := by
    have hhost : (ofSettings s).hostVersion "1.10" = "1.10" := rfl
    rw [outcome_load_of_find (ofSettings s) "1.10" hfound, outcome_interpret, hhost, hread, ok_bind_eq]
    exact toOption_eq_some_iff.mp hr
  have hother := interpret_ne_of_load hs hfound hmore hload
  exact ⟨hs, hfound, hnamed.1, hnamed.2, r, hload, hother⟩

end Catalog

end PluginDescriptor
