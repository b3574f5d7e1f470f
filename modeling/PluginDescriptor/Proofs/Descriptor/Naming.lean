import PluginDescriptor.Descriptor.Catalog
import PluginDescriptor.Proofs.Descriptor.Containment
import PluginDescriptor.Proofs.Error.Report
import PluginDescriptor.Proofs.File.Path
import PluginDescriptor.Proofs.Validator.Calls

/-!
# Errors name their plugin

Errors about descriptors and requests are raised in many places: while a descriptor is looked for,
read, parsed and run, and while a request is checked. In each of them the subject of the error is the
one that the whole computation is about (`Failure.IsAbout`), whatever the file system, the text and the
validators are. The report of such an error has the kind and the name of the plugin in its context,
and that of a malformed document its path (`Catalog.namesPlugin`).
-/

set_option autoImplicit false

namespace PluginDescriptor

namespace Failure

/-- The failure is no error about a descriptor or a request, or it is one about a subject. -/
def IsAbout (s : Subject) (failure : Failure) : Prop :=
  ∀ problem about, failure = .descriptor problem about → about = some s

/-- An error about a descriptor names a plugin, and one about a malformed document names the path of
the document as well, when that has one. -/
structure Names (kind name : String) (path : Option Path) (failure : Failure) : Prop where
  plugin : ∀ r, failure.report? = some r → r.errorClass.isDescriptor = true → r.Names kind name
  place : ∀ r p, failure.report? = some r → r.errorClass = .malformed → path = some p →
    r.context.find? "path" = some (.str p.text)

variable {s : Subject}

theorem isAbout_of_not_isDescriptor {failure : Failure} (h : failure.isDescriptor = false) :
    failure.IsAbout s := by
  rintro problem about rfl
  cases h

theorem isAbout_descriptor (problem : Problem) : IsAbout s (descriptor problem (some s)) := by
  intro other about h
  cases h
  rfl

/-- Settings are refused with errors of other classes. -/
theorem isDescriptor_errorClass_settings (problem : SettingsProblem) :
    problem.report.errorClass.isDescriptor = false := by
  cases problem <;> rfl

/-- What is no error about a descriptor has nothing to name. -/
theorem names_of_foreign {failure : Failure} {kind name : String} {path : Option Path}
    (h : ∀ r, failure.report? = some r → r.errorClass.isDescriptor = false) :
    failure.Names kind name path := by
  constructor
  · intro r hr hclass
    rw [h r hr] at hclass
    cases hclass
  · intro r p hr hmalformed
    have hclass := h r hr
    rw [hmalformed] at hclass
    cases hclass

/-- An error about a subject names its plugin, and its path when it has one. -/
theorem IsAbout.names {failure : Failure} (h : failure.IsAbout s) (hkind : s.kind ≠ "")
    (hname : s.name ≠ "") {path : Option Path}
    (hpath : ∀ p, path = some p → p.IsProper ∧ s.path = some p.text) :
    failure.Names s.kind s.name path := by
  cases failure with
  | descriptor problem about =>
    obtain rfl := h problem about rfl
    constructor
    · rintro r hr -
      cases hr
      exact problem.names_report hkind hname
    · intro r p hr hmalformed hp
      cases hr
      rw [problem.errorClass_report] at hmalformed
      obtain ⟨hproper, hs⟩ := hpath p hp
      exact problem.find?_path_report hmalformed hs hproper.text_ne
  | configuration problem =>
    apply names_of_foreign
    intro r hr
    cases hr
    exact isDescriptor_errorClass_settings problem
  | violations vs => exact names_of_foreign fun r hr => nomatch hr
  | fault f => exact names_of_foreign fun r hr => nomatch hr

/-- What fails with nothing but errors about a subject names its plugin. -/
theorem failsOnly_names {α : Type} {x : Except Failure α} (h : FailsOnly (IsAbout s) x)
    (hkind : s.kind ≠ "") (hname : s.name ≠ "") {path : Option Path}
    (hpath : ∀ p, path = some p → p.IsProper ∧ s.path = some p.text) :
    FailsOnly (Names s.kind s.name path) x :=
  h.imp fun _ habout => habout.names hkind hname hpath

end Failure

/-! ## Loading -/

namespace Execution

/-- Running a descriptor fails about its subject. -/
theorem failsOnly_execute (s : Subject) (host source : String) :
    FailsOnly (Failure.IsAbout s) (execute s host source).outcome := by
  rcases execute_contained s host source with ⟨r, h⟩ | ⟨problem, h, -⟩ | ⟨fault, h, -⟩
  · rw [h]
    exact failsOnly_ok r
  · rw [h]
    exact failsOnly_error (Failure.isAbout_descriptor problem)
  · rw [h]
    exact failsOnly_error (Failure.isAbout_of_not_isDescriptor rfl)

end Execution

namespace Search

variable {c : Search} {name kind : String}

/-- Trying roots fails with nothing but faults of the file system. -/
theorem failsOnly_findUnder {P : Failure → Prop} (hfault : ∀ fault, P (.fault fault))
    (isFile : Path → Except Fault Bool) (roots : List Path) :
    FailsOnly P (c.findUnder isFile name kind roots).outcome := by
  induction roots with
  | nil => exact failsOnly_ok none
  | cons root rest ih =>
    simp only [findUnder, Logged.outcome_bind, Logged.outcome_note, Logged.outcome_of, ok_bind_eq]
    refine failsOnly_bind (failsOnly_mapError hfault _) fun answer _ => ?_
    cases answer with
    | true => exact failsOnly_ok _
    | false => exact ih

/-- What is found is the candidate under one of the roots. -/
theorem exists_candidate_of_findUnder {isFile : Path → Except Fault Bool} {roots : List Path} {p : Path}
    (h : (c.findUnder isFile name kind roots).outcome = .ok (some p)) :
    ∃ root ∈ roots, p = c.candidate root name kind := by
  induction roots with
  | nil => cases h
  | cons root rest ih =>
    simp only [findUnder, Logged.outcome_bind, Logged.outcome_note, Logged.outcome_of, ok_bind_eq] at h
    obtain ⟨answer, -, hfound⟩ := bind_eq_ok_iff.mp h
    cases answer with
    | true =>
      cases hfound
      exact ⟨root, List.mem_cons_self, rfl⟩
    | false =>
      obtain ⟨other, hother, hp⟩ := ih hfound
      exact ⟨other, List.mem_cons_of_mem root hother, hp⟩

/-- Looking for a plugin fails with faults of the file system, or because it is not found. -/
theorem failsOnly_locate {P : Failure → Prop} (hfault : ∀ fault, P (.fault fault))
    (hmissing : P (.descriptor (.notFound (c.roots.map Path.text)) (some { kind, name, path := none })))
    (files : FileTree) : FailsOnly P (c.locate files name kind).outcome := by
  unfold locate find findAmong
  rw [Logged.outcome_bind]
  refine failsOnly_bind ?_ fun found _ => ?_
  · split
    · exact failsOnly_ok none
    · exact failsOnly_findUnder hfault files.isFile c.roots
  · cases found with
    | some p => exact failsOnly_ok p
    | none => exact failsOnly_error hmissing

/-- A plugin that is not found is not found under its kind and name. -/
theorem isAbout_locate (files : FileTree) :
    FailsOnly (Failure.IsAbout { kind, name, path := none }) (c.locate files name kind).outcome :=
  failsOnly_locate (fun _ => Failure.isAbout_of_not_isDescriptor rfl) (Failure.isAbout_descriptor _)
    files

/-- A plugin that is found is found under one of the roots. -/
theorem exists_candidate_of_locate {files : FileTree} {p : Path}
    (h : (c.locate files name kind).outcome = .ok p) :
    ∃ root ∈ c.roots, p = c.candidate root name kind := by
  unfold locate find findAmong at h
  rw [Logged.outcome_bind] at h
  obtain ⟨found, hfound, hp⟩ := bind_eq_ok_iff.mp h
  cases found with
  | none => cases hp
  | some q =>
    cases hp
    split at hfound
    · cases hfound
    · exact exists_candidate_of_findUnder hfound

/-- Every candidate under a proper root is proper. -/
theorem isProper_candidate {root : Path} (h : root.IsProper) :
    (c.candidate root name kind).IsProper :=
  ((h.below c.space).below kind).below _

end Search

namespace Catalog

/-- A file that cannot be read fails with an error about the subject that it is read for, or with a
fault. -/
theorem failsOnly_readSource {P : Failure → Prop} {s : Subject} (hfault : ∀ fault, P (.fault fault))
    (htext : ∀ fault, P (.descriptor (.notText fault) (some s)))
    (hfile : ∀ fault, P (.descriptor (.unreadable fault) (some s))) (files : FileTree) (p : Path) :
    FailsOnly P (readSource files s p) := by
  unfold readSource
  split
  · exact failsOnly_ok _
  · exact failsOnly_error (htext _)
  · exact failsOnly_error (hfile _)
  · exact failsOnly_error (hfault _)

/-- Apart from notices, a descriptor is read and run. -/
theorem outcome_interpret (files : FileTree) (host : String) (p : Path) (name kind : String) :
    (interpret files host p name kind).outcome =
      readSource files (subjectAt p name kind) p >>= fun source =>
        (Execution.execute (subjectAt p name kind) host source).outcome := by
  have hend (x : Except Failure Registry) : (x >>= fun r => .ok r) = x := bind_pure x
  unfold interpret run
  simp only [Logged.outcome_about, Logged.outcome_bind, Logged.outcome_of, Logged.outcome_note,
    Logged.outcome_pure, ok_bind_eq, hend]

theorem failsOnly_interpret (files : FileTree) (host : String) (p : Path) (name kind : String) :
    FailsOnly (Failure.IsAbout (subjectAt p name kind)) (interpret files host p name kind).outcome := by
  rw [outcome_interpret]
  apply failsOnly_bind
  · exact failsOnly_readSource (fun _ => Failure.isAbout_of_not_isDescriptor rfl)
      (fun _ => Failure.isAbout_descriptor _) (fun _ => Failure.isAbout_descriptor _) files p
  · exact fun source _ => Execution.failsOnly_execute _ host source

end Catalog

/-! ## Requests -/

namespace Validators

/-- Custom validators that cannot be imported are a matter of configuration. -/
theorem failsOnly_load (s : Subject) (modules : Modules) (t : Validators) :
    FailsOnly (Failure.IsAbout s) (t.load modules).outcome := by
  have hfetch (name path : String) : FailsOnly (Failure.IsAbout s) (fetch modules name path) := by
    unfold fetch
    repeat' split
    all_goals first
      | exact failsOnly_ok _
      | exact failsOnly_error (Failure.isAbout_of_not_isDescriptor rfl)
  rw [outcome_load]
  split
  · exact failsOnly_ok t
  · refine failsOnly_map (failsOnly_foldlM (I := fun _ => True) ?_ ?_ trivial).1
    · exact fun entry _ vs vs' _ _ => trivial
    · intro entry _ vs _
      exact failsOnly_bind (hfetch entry.1 entry.2) fun v _ => failsOnly_ok _

end Validators

namespace Request

variable {s : Subject} (modules : Modules) (e : Entity) (arguments : Entries)

/-- Whatever a validator raises is an error about the subject, or a matter of configuration. -/
theorem failsOnly_blame (entity : String) (key : Value) (verdict : Except Failure Unit) :
    FailsOnly (Failure.IsAbout s) (blame (some s) entity key verdict) := by
  cases verdict with
  | ok _ => exact failsOnly_ok ()
  | error failure =>
    rw [blame]
    split
    · rename_i hconfiguration
      refine failsOnly_error (Failure.isAbout_of_not_isDescriptor ?_)
      cases failure with
      | configuration problem => rfl
      | _ => cases hconfiguration
    · exact failsOnly_error (Failure.isAbout_descriptor _)

theorem failsOnly_checkSupplied (t : Validators) (inputs : List (Value × InputSpec)) :
    FailsOnly (Failure.IsAbout s) (checkSupplied modules t (some s) e arguments inputs).outcome := by
  induction inputs generalizing t with
  | nil => exact failsOnly_ok ()
  | cons input rest ih =>
    obtain ⟨name, spec⟩ := input
    rw [checkSupplied]
    cases arguments.get? name with
    | none => exact ih t
    | some value =>
      simp only [Logged.outcome_bind, checkArgument, Logged.outcome_of]
      refine failsOnly_bind (failsOnly_bind (Validators.failsOnly_load s modules t) ?_) fun _ _ => ih _
      exact fun loaded _ => failsOnly_blame _ _ _

theorem failsOnly_check (t : Validators) :
    FailsOnly (Failure.IsAbout s) (check modules t (some s) e arguments).outcome := by
  unfold check
  dsimp only
  split
  · exact failsOnly_error (Failure.isAbout_descriptor _)
  · rw [Logged.outcome_bind]
    apply failsOnly_bind (failsOnly_checkSupplied modules e arguments t e.inputs)
    exact fun _ _ => failsOnly_ok ()

end Request

/-! ## Catalogs -/

namespace Catalog

/-- The roots that settings list are proper paths. -/
theorem isProper_roots_ofSettings (s : Settings) :
    ∀ root ∈ (ofSettings s).search.roots, root.IsProper := by
  intro root hroot
  obtain ⟨text, -, rfl⟩ := List.mem_map.mp hroot
  exact Path.isProper_ofText text

theorem subjectAt_eq (p : Path) {name kind : String} (hkind : kind ≠ "") (hname : name ≠ "") :
    subjectAt p name kind = { kind, name, path := some p.text } := by
  simp [subjectAt, hkind, hname]

/-- Every error about a descriptor or a request that a catalog raises for a plugin names the plugin,
and every one about a malformed document its path. -/
structure NamesPlugin (c : Catalog) (kind name : String) : Prop where
  /-- When the plugin is looked for and loaded. The path is the one that is found. -/
  load : ∀ files shared,
    FailsOnly (Failure.Names kind name (c.search.locate files name kind).outcome.toOption)
      (c.load files shared name kind).outcome
  /-- When the descriptor at a path is loaded, with kind and name given or else taken from the path. -/
  interpret : ∀ files host (p : Path) givenName givenKind, p.IsProper →
    (subjectAt p givenName givenKind).kind = kind → (subjectAt p givenName givenKind).name = name →
    FailsOnly (Failure.Names kind name (some p))
      (interpret files host p givenName givenKind).outcome
  /-- When a text is run, which may have been read from a path. -/
  execute : ∀ host source (path : Option Path), (∀ p, path = some p → p.IsProper) →
    FailsOnly (Failure.Names kind name path)
      (Execution.execute { kind, name, path := path.map Path.text } host source).outcome
  /-- When a registry of the plugin is asked for an entity. -/
  entity : ∀ r : Registry, r.pluginKind = kind → r.pluginName = name → ∀ entityName,
    FailsOnly (Failure.Names kind name none) (entity r entityName)
  /-- When a request to a registry of the plugin is checked, with any validators. -/
  checkRequest : ∀ modules (r : Registry), r.pluginKind = kind → r.pluginName = name →
    ∀ entityName arguments, FailsOnly (Failure.Names kind name none)
      (c.checkRequest modules r entityName arguments).outcome

/-- An entity that is not there is reported about the registry. -/
theorem failsOnly_entity (r : Registry) (entityName : String) :
    FailsOnly (Failure.IsAbout (subjectOf r)) (entity r entityName) := by
  unfold entity
  split
  · exact failsOnly_ok _
  · exact failsOnly_error (Failure.isAbout_descriptor _)

theorem failsOnly_checkRequest (c : Catalog) (modules : Modules) (r : Registry) (entityName : String)
    (arguments : Entries) :
    FailsOnly (Failure.IsAbout (subjectOf r)) (c.checkRequest modules r entityName arguments).outcome := by
  unfold checkRequest
  rw [Logged.outcome_bind, Logged.outcome_of]
  refine failsOnly_bind (failsOnly_entity r entityName) fun e _ => ?_
  rw [Logged.outcome_about]
  exact Request.failsOnly_check modules e arguments c.validators

/-- For every plugin with a kind and a name, every file system, every text and every request, the
errors name the plugin. -/
theorem namesPlugin (c : Catalog) (hroots : ∀ root ∈ c.search.roots, root.IsProper)
    {kind name : String} (hkind : kind ≠ "") (hname : name ≠ "") : c.NamesPlugin kind name where
  load := by
    intro files shared
    unfold load
    rw [Logged.outcome_bind]
    cases hlocate : (c.search.locate files name kind).outcome with
    | error failure =>
      apply failsOnly_error
      have habout := Search.isAbout_locate files failure hlocate
      exact habout.names hkind hname fun p hp => nomatch hp
    | ok found =>
      obtain ⟨root, hroot, rfl⟩ := Search.exists_candidate_of_locate hlocate
      have hproper : (c.search.candidate root name kind).IsProper :=
        Search.isProper_candidate (hroots root hroot)
      have habout := failsOnly_interpret files (c.hostVersion shared)
        (c.search.candidate root name kind) name kind
      rw [subjectAt_eq _ hkind hname] at habout
      rw [ok_bind_eq]
      refine Failure.failsOnly_names habout hkind hname fun p hp => ?_
      cases hp
      exact ⟨hproper, rfl⟩
  interpret := by
    rintro files host p givenName givenKind hproper rfl rfl
    have habout := failsOnly_interpret files host p givenName givenKind
    refine Failure.failsOnly_names habout hkind hname fun q hq => ?_
    cases hq
    exact ⟨hproper, rfl⟩
  execute := by
    intro host source path hpath
    have habout := Execution.failsOnly_execute { kind, name, path := path.map Path.text } host source
    refine Failure.failsOnly_names habout hkind hname fun p hp => ?_
    rw [hp]
    exact ⟨hpath p hp, rfl⟩
  entity := by
    rintro r rfl rfl entityName
    have habout := failsOnly_entity r entityName
    exact Failure.failsOnly_names habout hkind hname fun p hp => nomatch hp
  checkRequest := by
    rintro modules r rfl rfl entityName arguments
    have habout := failsOnly_checkRequest c modules r entityName arguments
    exact Failure.failsOnly_names habout hkind hname fun p hp => nomatch hp

/-- A file that is no text. -/
def brokenTree : FileTree where
  working := []
  nodes := [(["agent"], .directory), (["agent", "echo.ddl"], .file [0xff])]

/-- The path of the file. -/
def brokenPath : Path := Path.ofText "agent/echo.ddl"

/-- What is wrong with the file. -/
def brokenFailure : Failure :=
  .descriptor (.notText (.notText "'utf-8' codec can't decode byte 0xff in position 0: invalid start byte"))
    (some { kind := "agent", name := "echo", path := some "agent/echo.ddl" })

theorem namesPlugin_notText :
    (interpret brokenTree "2.0.0" brokenPath "" "").outcome = .error brokenFailure ∧
      brokenFailure.Names "agent" "echo" (some brokenPath) := by
  have hfails : (interpret brokenTree "2.0.0" brokenPath "" "").outcome = .error brokenFailure := by
    rfl
  have hsubject : subjectAt brokenPath "" "" =
      { kind := "agent", name := "echo", path := some "agent/echo.ddl" } := by rfl
  have hnames : (ofSettings {}).NamesPlugin "agent" "echo" :=
    namesPlugin (ofSettings {}) (isProper_roots_ofSettings {}) (by decide) (by decide)
  refine ⟨hfails, hnames.interpret brokenTree "2.0.0" brokenPath "" "" ?_ ?_ ?_ _ hfails⟩
  · exact Path.isProper_ofText _
  · rw [hsubject]
  · rw [hsubject]

end Catalog

end PluginDescriptor
