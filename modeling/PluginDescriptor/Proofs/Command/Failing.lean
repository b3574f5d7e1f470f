import PluginDescriptor.Command.Run
import PluginDescriptor.Proofs.Descriptor.Containment
import PluginDescriptor.Proofs.Descriptor.Declared
import PluginDescriptor.Proofs.Descriptor.Naming
import PluginDescriptor.Proofs.Help.Finding
import PluginDescriptor.Proofs.Settings.Reloading
import PluginDescriptor.Proofs.Settings.Violations
import PluginDescriptor.Proofs.Validator.Standard

/-!
# What runs fail with

Whatever a run fails with has a JSON text, if it is reported at all: while the settings are read
(`Run.failsExpressibly_settings`), and while a descriptor is loaded, a request is checked and a help
page is rendered (`Run.failsExpressibly_job`). Names of arguments are texts in every descriptor that
is loaded, and the validators that come with the library raise faults alone.
-/

set_option autoImplicit false

namespace PluginDescriptor

open Failure

/-! ## Settings -/

namespace Source

theorem failsExpressibly_readFile (files : FileTree) (path : Path) :
    FailsExpressibly (readFile files path) := by
  unfold readFile
  refine failsOnly_bind (failsExpressibly_ofFault _) fun contained _ => ?_
  split
  · exact failsExpressibly_configuration trivial
  refine failsOnly_bind ?_ fun document _ => ?_
  · cases readDocument files path with
    | ok document => exact failsOnly_ok document
    | error fault =>
      refine failsOnly_error ?_
      unfold fileFailure
      split
      · exact isExpressible_configuration trivial
      · exact isExpressible_configuration trivial
      · exact isExpressible_fault _
  · split
    · exact failsOnly_ok _
    · split
      · exact failsExpressibly_configuration trivial
      · exact failsOnly_ok _

/-- The source is a file, the environment, or explicit settings. -/
def IsKnown (source : Source) : Prop := ∀ kind find priority, source ≠ .other kind find priority

theorem IsKnown.failsExpressibly_read (around : Surroundings) {source : Source} (h : source.IsKnown) :
    FailsExpressibly (source.read around) := by
  cases source with
  | file path priority => exact failsExpressibly_readFile around.files path
  | environment lead priority => exact failsExpressibly_ofFault _
  | explicit settings priority => exact failsOnly_ok _
  | other kind find priority => exact (h kind find priority rfl).elim

end Source

namespace Loaded

theorem failsExpressibly_settingsOf (raw : Entries) : FailsExpressibly (settingsOf raw) := by
  unfold settingsOf
  dsimp only
  split
  · rename_i entries _
    have hrefuses := Settings.failsOnly_ofEntries entries
    split
    · rename_i violations hviolated
      refine failsExpressibly_configuration (List.forall_mem_map.mpr fun v hv => ?_)
      cases hrefuses _ hviolated with
      | violated placed => exact List.forall_mem_cons.mpr ⟨rfl, placed v hv⟩
    · exact hrefuses.imp fun _ => Settings.Refuses.isExpressible
  · have hsection : Violation.IsPlaced
        { place := [.str Environment.frameworkSection], text := "framework section must be a mapping",
          rule := "type_error" } := List.forall_mem_singleton.mpr rfl
    exact failsExpressibly_configuration (List.forall_mem_singleton.mpr hsection)

theorem failsExpressibly_given (raw : Entries) : FailsExpressibly (given raw) := by
  have hentries (entries : Entries) : FailsExpressibly (Settings.ofEntries entries) :=
    (Settings.failsOnly_ofEntries entries).imp fun _ => Settings.Refuses.isExpressible
  unfold given
  split
  · exact hentries _
  · exact hentries _
  · exact failsExpressibly_fault _

theorem failsExpressibly_ofRaw (raw : Entries) : FailsExpressibly (ofRaw raw) := by
  have hsettings := failsExpressibly_settingsOf raw
  unfold ofRaw
  refine failsOnly_bind ?_ fun warnings _ =>
    failsOnly_bind (failsExpressibly_given raw) fun settings _ => failsOnly_ok _
  unfold validate
  split
  · exact failsExpressibly_fault _
  · split
    · exact failsOnly_map hsettings
    · exact failsExpressibly_fault _

theorem failsExpressibly_ofSources {around : Surroundings} {sources : List Source}
    (h : ∀ source ∈ sources, source.IsKnown) :
    FailsExpressibly (ofSources around sources).outcome := by
  simp only [ofSources, Logged.outcome_bind, outcome_readAll, outcome_noteFailure,
    outcome_noteWarnings]
  refine failsOnly_bind (failsOnly_mapM fun source hsource => ?_) fun layers _ => ?_
  · exact (h source (List.mem_mergeSort.mp hsource)).failsExpressibly_read around
  · exact failsOnly_bind (failsExpressibly_ofRaw _) fun loaded _ => failsOnly_ok loaded

end Loaded

namespace Plan

variable {p : Plan}

/-- If the sources that are added are known, all are. -/
theorem isKnown_allSources (h : ∀ source ∈ p.sources, source.IsKnown) :
    ∀ source ∈ p.allSources, source.IsKnown := by
  unfold allSources
  rw [List.forall_mem_append, List.forall_mem_append]
  refine ⟨⟨h, ?_⟩, ?_⟩
  · split
    · exact List.forall_mem_nil _
    · exact List.forall_mem_singleton.mpr fun _ _ _ hother => nomatch hother
  · split
    · exact List.forall_mem_nil _
    · exact List.forall_mem_singleton.mpr fun _ _ _ hother => nomatch hother

theorem failsExpressibly_buildSettings (around : Surroundings)
    (h : ∀ source ∈ p.sources, source.IsKnown) :
    FailsExpressibly (p.buildSettings around).outcome := by
  unfold buildSettings build Configuration.ofSources
  rw [Logged.outcome_bind]
  refine failsOnly_bind ?_ fun c _ => failsOnly_ok _
  split
  · exact failsOnly_ok _
  · rw [Configuration.outcome_reload]
    exact failsOnly_map (Loaded.failsExpressibly_ofSources (isKnown_allSources h))

end Plan

/-! ## Loading -/

theorem Problem.isExpressible_of_namesText {problem : Problem} (h : problem.namesText = true) :
    problem.facts.argument.isExpressible = true := by
  unfold namesText at h
  split at h
  · rename_i hargument
    rw [hargument]
    rfl
  · rename_i hargument
    rw [hargument]
    rfl
  · cases h

theorem Leaves.isExpressible {subject : Subject} {Leaks : Fault → Prop} {failure : Failure}
    (h : Leaves subject Leaks failure) : failure.IsExpressible := by
  cases h with
  | reported problem loading named =>
    exact isExpressible_descriptor (Problem.isExpressible_of_namesText named) _
  | leaked fault leaks => exact isExpressible_fault fault

theorem Execution.failsExpressibly_execute (subject : Subject) (host source : String) :
    FailsExpressibly (execute subject host source).outcome := by
  have hread : FailsOnly (Leaves subject (Escapes host source)) (readDocument subject source) :=
    failsOnly_readDocument
  -- any fault may leak from a document, for it is not reported
  have hrun (document : Value) : FailsOnly (Leaves subject fun _ => True)
      (executeDocument subject host document).outcome :=
    failsOnly_executeDocument (.inr trivial) fun _ _ _ _ _ _ _ _ _ => trivial
  unfold execute
  rw [Logged.outcome_bind, Logged.outcome_of]
  apply failsOnly_bind
  · exact hread.imp fun _ => Leaves.isExpressible
  · intro document _
    exact (hrun document).imp fun _ => Leaves.isExpressible

theorem Search.failsExpressibly_locate (s : Search) (files : FileTree) (name kind : String) :
    FailsExpressibly (s.locate files name kind).outcome :=
  s.failsOnly_locate isExpressible_fault (isExpressible_descriptor rfl _) files

namespace Catalog

theorem failsExpressibly_readSource (files : FileTree) (subject : Subject) (p : Path) :
    FailsExpressibly (readSource files subject p) :=
  failsOnly_readSource isExpressible_fault (fun _ => isExpressible_descriptor rfl _)
    (fun _ => isExpressible_descriptor rfl _) files p

theorem failsExpressibly_load (c : Catalog) (files : FileTree) (shared name kind : String) :
    FailsExpressibly (c.load files shared name kind).outcome := by
  unfold load
  rw [Logged.outcome_bind]
  refine failsOnly_bind (c.search.failsExpressibly_locate files name kind) fun p _ => ?_
  rw [outcome_interpret]
  exact failsOnly_bind (failsExpressibly_readSource files _ p) fun source _ =>
    Execution.failsExpressibly_execute _ _ source

/-- A registry that is loaded is declared for a host. -/
theorem exists_isDeclared_of_load {c : Catalog} {files : FileTree} {shared name kind : String}
    {r : Registry} (h : (c.load files shared name kind).outcome = .ok r) :
    ∃ host, r.IsDeclared host := by
  unfold load at h
  rw [Logged.outcome_bind] at h
  obtain ⟨p, -, hinterpret⟩ := bind_eq_ok_iff.mp h
  rw [outcome_interpret] at hinterpret
  obtain ⟨source, -, hexecute⟩ := bind_eq_ok_iff.mp hinterpret
  unfold Execution.execute at hexecute
  rw [Logged.outcome_bind, Logged.outcome_of] at hexecute
  obtain ⟨document, -, hdocument⟩ := bind_eq_ok_iff.mp hexecute
  exact ⟨_, Execution.isDeclared_of_executeDocument hdocument⟩

end Catalog

/-! ## Requests -/

theorem Failure.IsFault.isExpressible {failure : Failure} (h : failure.IsFault) :
    failure.IsExpressible := by
  obtain ⟨fault, rfl⟩ := h
  exact isExpressible_fault fault

namespace Validators

variable {t : Validators}

theorem failsExpressibly_fetch (modules : Modules) (name path : String) :
    FailsExpressibly (fetch modules name path) := by
  unfold fetch
  split
  · split
    · exact failsOnly_ok _
    · exact failsExpressibly_configuration trivial
    · exact failsExpressibly_configuration trivial
    · exact failsExpressibly_configuration trivial
    · exact failsExpressibly_fault _
  · exact failsExpressibly_configuration trivial

theorem failsExpressibly_load (modules : Modules) (t : Validators) :
    FailsExpressibly (t.load modules).outcome := by
  rw [outcome_load]
  split
  · exact failsOnly_ok t
  · refine failsOnly_map (failsOnly_foldlM (I := fun _ => True) ?_ ?_ trivial).1
    · exact fun _ _ _ _ _ _ => trivial
    · exact fun entry _ _ _ =>
        failsOnly_bind (failsExpressibly_fetch modules entry.1 entry.2) fun _ _ => failsOnly_ok _

theorem failsExpressibly_required (t : Validators) : FailsExpressibly t.required := by
  unfold required
  split
  · exact failsOnly_ok _
  · exact failsExpressibly_configuration trivial

theorem failsExpressibly_validate (ht : t.ArePlain) (value : Value) (name : String) :
    FailsExpressibly (t.validate value (.str name)) := by
  unfold validate
  cases hloaded : t.loaded with
  | none =>
    have hget : t.get (.str name) = .error (.configuration .validatorsNotLoaded) := by
      rw [get, required, hloaded]
      rfl
    rw [hget]
    exact failsExpressibly_configuration trivial
  | some vs =>
    rw [get_of_loaded hloaded]
    cases hlookup : vs.lookup name with
    | none => exact failsExpressibly_configuration rfl
    | some v => exact (ht vs hloaded name v hlookup value).imp fun _ => IsFault.isExpressible

theorem failsExpressibly_checkMatch (value : Value) (pattern : String) :
    FailsExpressibly (checkMatch value pattern) := by
  unfold checkMatch
  split
  · rename_i fault _
    refine failsOnly_error ?_
    cases fault with
    | malformed _ _ => exact isExpressible_configuration trivial
    | unacceptable _ => exact isExpressible_fault _
    | tooLarge => exact isExpressible_fault _
  · exact (Validator.failsOnly_unless _).imp fun _ => IsFault.isExpressible

theorem failsExpressibly_checkPattern (ht : t.ArePlain) (value : Value) (pattern : String) :
    FailsExpressibly (t.checkPattern value (.str pattern)) := by
  unfold checkPattern has
  refine failsOnly_bind (failsOnly_bind (failsExpressibly_required t) fun vs _ => failsOnly_ok _)
    fun found _ => ?_
  split
  · exact failsExpressibly_validate ht value pattern
  · exact failsExpressibly_checkMatch value pattern

theorem failsExpressibly_checkLength (value most : Value) :
    FailsExpressibly (t.checkLength value most) := by
  unfold checkLength
  refine failsOnly_bind (failsExpressibly_required t) fun _ _ => ?_
  split
  · split
    · split
      · exact failsExpressibly_fault _
      · exact failsOnly_ok ()
      · exact failsExpressibly_fault _
    · exact failsOnly_ok ()
  · exact failsExpressibly_fault _

theorem failsExpressibly_checkMembership (value allowed : Value) :
    FailsExpressibly (t.checkMembership value allowed) := by
  unfold checkMembership
  refine failsOnly_bind (failsExpressibly_required t) fun _ _ =>
    failsOnly_bind (failsExpressibly_ofFault _) fun allowed _ => ?_
  split
  · split
    · exact failsExpressibly_fault _
    · exact failsExpressibly_fault _
  · exact failsOnly_ok ()

end Validators

namespace Request

variable {t : Validators}

theorem failsExpressibly_judge (ht : t.ArePlain) (spec : InputSpec) (value : Value) :
    FailsExpressibly (judge t spec value) := by
  unfold judge
  split
  · refine failsOnly_bind (Validators.failsExpressibly_validate ht value _) fun _ _ =>
      failsOnly_bind (Validators.failsExpressibly_checkLength value _) fun _ _ => ?_
    split
    · split
      · exact Validators.failsExpressibly_checkPattern ht value _
      · exact failsOnly_ok ()
    · exact failsOnly_ok ()
  · split
    · exact Validators.failsExpressibly_checkMembership value _
    · exact Validators.failsExpressibly_validate ht value _

theorem failsExpressibly_blame (about : Option Subject) (entity : String) {key : Value}
    (hkey : key.isExpressible = true) {verdict : Except Failure Unit}
    (hverdict : FailsExpressibly verdict) : FailsExpressibly (blame about entity key verdict) := by
  cases verdict with
  | ok _ => exact failsOnly_ok ()
  | error failure =>
    rw [blame]
    split
    · exact failsOnly_error (hverdict failure rfl)
    · refine failsExpressibly_descriptor ?_ about
      exact hkey

variable {modules : Modules}

theorem failsExpressibly_checkSupplied (hplain : modules.ArePlain) (ht : t.ArePlain)
    (about : Option Subject) (e : Entity) (arguments : Entries) {inputs : List (Value × InputSpec)}
    (hinputs : ∀ input ∈ inputs, input.1.isExpressible = true) :
    FailsExpressibly (checkSupplied modules t about e arguments inputs).outcome := by
  induction inputs generalizing t with
  | nil => exact failsOnly_ok ()
  | cons input rest ih =>
    obtain ⟨name, spec⟩ := input
    obtain ⟨hname, hrest⟩ := List.forall_mem_cons.mp hinputs
    rw [checkSupplied]
    cases arguments.get? name with
    | none => exact ih ht hrest
    | some value =>
      simp only [Logged.outcome_bind, checkArgument, Logged.outcome_of]
      have hverdict : FailsExpressibly ((t.load modules).outcome >>= fun loaded =>
          checkValue loaded about e.name name spec value) :=
        failsOnly_bind (Validators.failsExpressibly_load modules t) fun loaded hloaded =>
          failsExpressibly_blame about e.name hname
            (failsExpressibly_judge (ht.load hplain hloaded) spec value)
      exact failsOnly_bind hverdict fun _ _ => ih (ht.afterLoad hplain) hrest

theorem failsExpressibly_check (hplain : modules.ArePlain) (ht : t.ArePlain)
    (about : Option Subject) {e : Entity} (he : ∀ input ∈ e.inputs, input.1.isExpressible = true)
    (arguments : Entries) : FailsExpressibly (check modules t about e arguments).outcome := by
  unfold check
  dsimp only
  split
  · rename_i name hmissing
    obtain ⟨input, hinput, rfl⟩ := List.mem_map.mp (List.mem_of_find?_eq_some hmissing)
    refine failsExpressibly_descriptor ?_ about
    exact he input (List.mem_filter.mp hinput).1
  · rw [Logged.outcome_bind]
    exact failsOnly_bind (failsExpressibly_checkSupplied hplain ht about e arguments he)
      fun _ _ => failsOnly_ok ()

end Request

theorem Catalog.failsExpressibly_checkRequest {c : Catalog} (hc : c.validators.ArePlain)
    {modules : Modules} (hplain : modules.ArePlain) {host : String} {r : Registry}
    (hr : r.IsDeclared host) (entityName : String) (arguments : Entries) :
    FailsExpressibly (c.checkRequest modules r entityName arguments).outcome := by
  unfold checkRequest entity
  rw [Logged.outcome_bind, Logged.outcome_of]
  split
  · rename_i e he
    obtain ⟨declared, -, hinputs, -⟩ := (hr.entities e (List.mem_of_find?_eq_some he)).inputs
    refine Request.failsExpressibly_check hplain hc _ ?_ arguments
    rw [hinputs]
    exact List.forall_mem_map.mpr fun _ _ => rfl
  · exact failsExpressibly_descriptor rfl _

/-! ## Help pages -/

namespace Help

variable {files : FileTree} {directory : Option Path}

theorem IsOfTemplate.isExpressible {failure : Failure} (h : IsOfTemplate failure) :
    failure.IsExpressible := by
  cases h with
  | fault fault => exact isExpressible_fault fault
  | unreadable path fault => exact isExpressible_configuration trivial
  | shapeless path => exact isExpressible_configuration trivial
  | badField fault => exact isExpressible_configuration trivial

theorem failsExpressibly_find (name : String) : FailsExpressibly (find files directory name) := by
  unfold find
  dsimp only
  split
  on_goal 1 => refine failsOnly_bind (failsExpressibly_ofFault _) fun inFile _ => ?_
  on_goal 2 => refine failsOnly_bind (failsOnly_ok false) fun inFile _ => ?_
  all_goals
    split
    · exact (isOfTemplate_load files _).imp fun _ => IsOfTemplate.isExpressible
    · split
      · exact failsOnly_ok _
      · exact failsExpressibly_configuration trivial

theorem failsExpressibly_render (r : Registry) (template : Option String) :
    FailsExpressibly (render files directory r template).outcome :=
  failsOnly_render (fun _ => IsOfTemplate.isExpressible) (fun name _ => failsExpressibly_find name)
    (failsExpressibly_find metadataName)

end Help

/-! ## Runs -/

namespace Command

theorem failsExpressibly_readPairs (pairs : List String) : FailsExpressibly (readPairs pairs) := by
  have hpair (pair : String) : FailsExpressibly (readPair pair) := by
    unfold readPair
    split
    · exact failsOnly_bind (failsExpressibly_ofFault _) fun _ _ => failsOnly_ok _
    · exact failsExpressibly_configuration trivial
  refine (failsOnly_foldlM (I := fun _ => True) ?_ ?_ trivial).1
  · exact fun _ _ _ _ _ _ => trivial
  · exact fun pair _ _ _ => failsOnly_bind (hpair pair) fun _ _ => failsOnly_ok _

namespace Run

/-- The settings of a run are read, or the failure has a JSON text. -/
theorem failsExpressibly_settings (around : Surroundings) (i : Invocation) :
    FailsExpressibly (settings around i).outcome := by
  have hroots (p : Plan) : (p.withRoots i.roots).sources = p.sources := by
    unfold Plan.withRoots
    split <;> rfl
  unfold settings
  dsimp only
  refine Plan.failsExpressibly_buildSettings around ?_
  rw [hroots]
  dsimp only
  split
  · exact List.forall_mem_nil _
  · exact List.forall_mem_singleton.mpr fun _ _ _ hother => nomatch hother

theorem failsExpressibly_checkTask (s : Settings) {host : String} {r : Registry}
    (hr : r.IsDeclared host) (entity : Option String) (arguments : List String) :
    FailsExpressibly (checkTask (Catalog.ofSettings s) r entity arguments).outcome := by
  unfold checkTask
  dsimp only
  split
  · exact failsOnly_ok ()
  · rw [Logged.outcome_bind, Logged.outcome_of]
    exact failsOnly_bind (failsExpressibly_readPairs arguments) fun entries _ =>
      Catalog.failsExpressibly_checkRequest (Validators.arePlain_unloaded _)
        Modules.arePlain_standard hr _ entries

theorem failsExpressibly_shown (form : OutputForm) (r : Registry) : FailsExpressibly (shown form r) := by
  unfold shown
  split
  · split
    · exact failsOnly_ok _
    · exact failsExpressibly_fault _
  · exact failsExpressibly_ofFault _

theorem failsExpressibly_printed (encoding : Text.Encoding) (text : String) :
    FailsExpressibly (printed encoding text) := by
  unfold printed
  split
  · exact failsOnly_ok _
  · exact failsExpressibly_fault _

theorem failsExpressibly_answer (s : Settings) (files : FileTree) (i : Invocation) :
    FailsExpressibly (answer (Catalog.ofSettings s) files i).outcome := by
  unfold answer
  rw [Logged.outcome_bind]
  refine failsOnly_bind (Catalog.failsExpressibly_load _ files _ i.name i.kind) fun r hr => ?_
  obtain ⟨host, hdeclared⟩ := Catalog.exists_isDeclared_of_load hr
  cases i.task with
  | help template => exact Help.failsExpressibly_render r template
  | check entity arguments =>
    rw [Logged.outcome_bind, Logged.outcome_of]
    exact failsOnly_bind (failsExpressibly_checkTask s hdeclared entity arguments) fun _ _ =>
      failsExpressibly_shown i.form r

/-- The job of a run is done, or the failure has a JSON text. -/
theorem failsExpressibly_job (encoding : Text.Encoding) (s : Settings) (files : FileTree)
    (i : Invocation) : FailsExpressibly (job encoding (Catalog.ofSettings s) files i).outcome := by
  unfold job
  rw [Logged.outcome_bind]
  exact failsOnly_bind (failsExpressibly_answer s files i) fun text _ =>
    failsExpressibly_printed encoding text

end Run

end Command

end PluginDescriptor
