import PluginDescriptor.Help.Page
import PluginDescriptor.Proofs.Outcome

/-!
# Choosing templates and finding them

The name of a set is chosen in one place and looked up in another. Both decide by themselves whether
there is such a set: in the directory, where a name may climb up, go down or be a path of its own, and
else among those built in. They agree (`Help.find_chosen`), so a page rendered with no template named
never fails for want of one.
-/

set_option autoImplicit false

namespace PluginDescriptor

namespace Help

/-! ## What rendering can fail with -/

/-- A fault, or a set of templates that is there but of no use. -/
inductive IsOfTemplate : Failure → Prop where
  | fault (fault : Fault) : IsOfTemplate (.fault fault)
  | unreadable (path : String) (fault : Fault) :
      IsOfTemplate (.configuration (.templateUnreadable path fault))
  | shapeless (path : String) : IsOfTemplate (.configuration (.templateShapeless path))
  | badField (fault : Fault) : IsOfTemplate (.configuration (.badTemplateField fault))

theorem isOfTemplate_load (files : FileTree) (p : Path) : FailsOnly IsOfTemplate (load files p) := by
  unfold load
  dsimp only
  split
  · refine failsOnly_bind (failsOnly_ok _) fun data _ => ?_
    split
    · split
      · exact failsOnly_ok _
      · exact failsOnly_error (.shapeless p.text)
    · exact failsOnly_error (.shapeless p.text)
  · exact failsOnly_error (.unreadable p.text _)
  · exact failsOnly_error (.unreadable p.text _)
  · exact failsOnly_error (.fault _)

theorem isOfTemplate_fillOrFail (template : String) (context : Entries) :
    FailsOnly IsOfTemplate (fillOrFail template context) := by
  unfold fillOrFail
  split
  · exact failsOnly_ok _
  · split
    · exact failsOnly_error (.badField _)
    · exact failsOnly_error (.badField _)
    · exact failsOnly_error (.badField _)
    · exact failsOnly_error (.fault _)

theorem isOfTemplate_fillPart (template : Value) {context : Except Failure Entries}
    (h : FailsOnly IsOfTemplate context) : FailsOnly IsOfTemplate (fillPart template context) := by
  unfold fillPart
  split
  · exact failsOnly_ok ""
  · refine failsOnly_bind h fun context _ => ?_
    split
    · exact isOfTemplate_fillOrFail _ _
    · exact failsOnly_error (.fault _)

theorem isOfTemplate_metadataContext (r : Registry) :
    FailsOnly IsOfTemplate (metadataContext r) := by
  unfold metadataContext
  split
  · exact failsOnly_ok _
  · exact failsOnly_error (.fault .numberTooLong)

theorem isOfTemplate_renderInput (set : HelpTemplate) (spec : InputSpec) :
    FailsOnly IsOfTemplate (renderInput set spec) := by
  have hdetails : FailsOnly IsOfTemplate (inputDetails spec) := by
    unfold inputDetails
    split
    · exact failsOnly_ok _
    · exact failsOnly_error (.fault .numberTooLong)
  exact isOfTemplate_fillPart set.input (failsOnly_bind hdetails fun _ _ => failsOnly_ok _)

theorem isOfTemplate_renderOutput (set : HelpTemplate) (spec : OutputSpec) :
    FailsOnly IsOfTemplate (renderOutput set spec) :=
  isOfTemplate_fillPart set.output (failsOnly_ok _)

theorem isOfTemplate_renderEntity (set : HelpTemplate) (e : Entity) :
    FailsOnly IsOfTemplate (renderEntity set e) := by
  refine isOfTemplate_fillPart set.entity ?_
  refine failsOnly_bind (failsOnly_mapM fun input _ => isOfTemplate_renderInput set input.2) ?_
  intro inputs _
  refine failsOnly_bind (failsOnly_mapM fun output _ => isOfTemplate_renderOutput set output.2) ?_
  intro outputs _
  exact failsOnly_ok _

theorem isOfTemplate_pageContext (set : HelpTemplate) (r : Registry) (help : String) :
    FailsOnly IsOfTemplate (pageContext set r help) := by
  refine failsOnly_bind (isOfTemplate_metadataContext r) fun metadata _ => ?_
  refine failsOnly_bind (failsOnly_mapM fun e _ => isOfTemplate_renderEntity set e) ?_
  intro entities _
  exact failsOnly_ok _

section

variable {files : FileTree} {directory : Option Path} {P : Failure → Prop}

/-- What finding the two sets of a page fails with, and what comes of templates, is all that rendering
it fails with. -/
theorem failsOnly_render {r : Registry} {template : Option String}
    (htemplate : ∀ failure, IsOfTemplate failure → P failure)
    (hchosen : ∀ name, askedName files directory r template = .ok name →
      FailsOnly P (find files directory name))
    (hmetadata : FailsOnly P (find files directory metadataName)) :
    FailsOnly P (render files directory r template).outcome := by
  have hname : FailsOnly P (askedName files directory r template) := by
    unfold askedName
    split
    · exact failsOnly_mapError (fun fault => htemplate _ (.fault fault)) _
    · exact failsOnly_ok _
  have hhelp (set : HelpTemplate) : FailsOnly P (metadataHelp files directory r set) := by
    unfold metadataHelp
    split
    · exact failsOnly_ok ""
    · refine failsOnly_bind hmetadata fun metadataSet _ => ?_
      refine failsOnly_bind ((isOfTemplate_metadataContext r).imp htemplate) fun context _ => ?_
      exact (isOfTemplate_fillOrFail metadataSet.template context).imp htemplate
  unfold render
  simp only [Logged.outcome_bind, Logged.outcome_of, Logged.outcome_note, ok_bind_eq]
  refine failsOnly_bind hname fun name hasked => ?_
  refine failsOnly_bind (hchosen name hasked) fun set _ => ?_
  refine failsOnly_bind (hhelp set) fun help _ => ?_
  refine failsOnly_bind ((isOfTemplate_pageContext set r help).imp htemplate) fun context _ => ?_
  exact (isOfTemplate_fillOrFail set.template context).imp htemplate

end

/-! ## Where a set is found -/

variable (files : FileTree) (directory : Option Path)

/-- There is a file with a name in the directory, if there is a directory. -/
def isInDirectory (name : String) : Except Fault Bool :=
  match directory with
  | some d => files.isFile (d.below name)
  | none => .ok false

/-- What a name of a set stands for: the file with that name in the directory, if there is one, and
else the set built in. -/
inductive Locates (name : String) : Except Failure HelpTemplate → Prop where
  | inDirectory {d : Path} (given : directory = some d)
      (present : files.isFile (d.below name) = .ok true) : Locates name (load files (d.below name))
  | builtIn {set : HelpTemplate} (absent : isInDirectory files directory name = .ok false)
      (named : builtin? name = some set) : Locates name (.ok set)

/-- There is a set with a name, in the directory or built in. -/
def HasSet (name : String) : Prop :=
  isInDirectory files directory name = .ok true ∨ (builtin? name).isSome

/-- The names that may be chosen for a kind of plugin. -/
def namesForKind (kind : String) : List String :=
  [if kind = "agent" then rpcName else kind ++ "-help.yaml", metadataName]

/-- The file system can say of each name that may be chosen whether it is that of a file. -/
def Answers (kind : String) : Prop :=
  ∀ name ∈ namesForKind kind, ∃ answer, isInDirectory files directory name = .ok answer

variable {files directory}

theorem builtin?_isSome_iff (name : String) :
    (builtin? name).isSome ↔ name = metadataName ∨ name = rpcName := by
  rw [builtin?]
  split
  · simp [*]
  · split
    · simp [*]
    · simp [*]

theorem hasSet_metadataName : HasSet files directory metadataName :=
  .inr ((builtin?_isSome_iff metadataName).mpr (.inl rfl))

theorem hasSet_rpcName : HasSet files directory rpcName :=
  .inr ((builtin?_isSome_iff rpcName).mpr (.inr rfl))

/-! ## Choosing -/

theorem nameForKind_agent : nameForKind files directory "agent" = .ok rpcName := rfl

/-- The set of its own that a kind may have is chosen if it is in the directory or built in. -/
theorem nameForKind_eq {kind : String} (h : kind ≠ "agent") : nameForKind files directory kind =
    isInDirectory files directory (kind ++ "-help.yaml") >>= fun own =>
      .ok (if own ∨ (builtin? (kind ++ "-help.yaml")).isSome then kind ++ "-help.yaml"
        else metadataName) := by
  have hchoice (own : Bool) : (if own then pure (kind ++ "-help.yaml")
      else if (builtin? (kind ++ "-help.yaml")).isSome then pure (kind ++ "-help.yaml")
      else pure metadataName : Except Fault String) =
        .ok (if own ∨ (builtin? (kind ++ "-help.yaml")).isSome then kind ++ "-help.yaml"
          else metadataName) := by
    cases own <;> cases (builtin? (kind ++ "-help.yaml")).isSome <;> rfl
  unfold nameForKind
  rw [if_neg h]
  cases directory with
  | none => exact hchoice false
  | some d => exact congrArg (files.isFile (d.below (kind ++ "-help.yaml")) >>= ·) (funext hchoice)

/-- What is chosen for a kind is one of the names that may be, and there is a set with that name. -/
theorem hasSet_of_nameForKind {kind name : String}
    (h : nameForKind files directory kind = .ok name) :
    name ∈ namesForKind kind ∧ HasSet files directory name := by
  by_cases hagent : kind = "agent"
  · subst hagent
    rw [nameForKind_agent] at h
    cases h
    exact ⟨List.mem_cons_self, hasSet_rpcName⟩
  · rw [nameForKind_eq hagent] at h
    obtain ⟨own, hown, hname⟩ := bind_eq_ok_iff.mp h
    rw [namesForKind, if_neg hagent]
    split at hname
    · rename_i hset
      cases hname
      refine ⟨List.mem_cons_self, ?_⟩
      obtain rfl | hbuiltin := hset
      · exact .inl hown
      · exact .inr hbuiltin
    · cases hname
      exact ⟨List.mem_cons_of_mem _ List.mem_cons_self, hasSet_metadataName⟩

/-- A name is chosen for every kind when the file system answers. -/
theorem exists_nameForKind {kind : String} (h : Answers files directory kind) :
    ∃ name, nameForKind files directory kind = .ok name := by
  by_cases hagent : kind = "agent"
  · subst hagent
    exact ⟨rpcName, nameForKind_agent⟩
  · have hmem : kind ++ "-help.yaml" ∈ namesForKind kind := by
      rw [namesForKind, if_neg hagent]
      exact List.mem_cons_self
    obtain ⟨own, hown⟩ := h _ hmem
    rw [nameForKind_eq hagent, hown]
    exact ⟨_, rfl⟩

/-- Without a directory, two kinds of plugins have pages of their own. -/
theorem nameForKind_none (files : FileTree) (kind : String) : nameForKind files none kind =
    .ok (if kind = "agent" ∨ kind = "rpc" then rpcName else metadataName) := by
  by_cases hagent : kind = "agent"
  · subst hagent
    rw [nameForKind_agent, if_pos (.inl rfl)]
  · have hrpc : kind ++ "-help.yaml" = rpcName ↔ kind = "rpc" := by
      rw [show rpcName = "rpc" ++ "-help.yaml" by decide, String.append_left_inj]
    have hbuiltin : (builtin? (kind ++ "-help.yaml")).isSome ↔
        kind ++ "-help.yaml" = metadataName ∨ kind = "rpc" := by
      rw [builtin?_isSome_iff, hrpc]
    rw [nameForKind_eq hagent, isInDirectory, ok_bind_eq]
    by_cases hown : kind = "rpc"
    · rw [if_pos (.inr (hbuiltin.mpr (.inr hown))), if_pos (.inr hown), hrpc.mpr hown]
    · rw [if_neg (not_or.mpr ⟨hagent, hown⟩)]
      split
      · rename_i hset
        have hnamed := hbuiltin.mp (hset.resolve_left Bool.false_ne_true)
        rw [hnamed.resolve_right hown]
      · rfl

/-! ## Looking up -/

/-- No built-in set is named by a path of its own. -/
theorem isAbsolute_of_builtin? {name : String} (h : (builtin? name).isSome) :
    (Path.ofText name).isAbsolute = false := by
  obtain rfl | rfl := (builtin?_isSome_iff name).mp h
  · decide +kernel
  · decide +kernel

/-- A set that there is is looked up in the directory, and else among those built in. -/
theorem find_eq {name : String} (h : HasSet files directory name) : find files directory name =
    Failure.ofFault (isInDirectory files directory name) >>= fun inFile =>
      if inFile then load files (pathOf directory name)
      else match builtin? name with
        | some set => .ok set
        | none => .error (.configuration (.templateNotFound name (pathOf directory name).text)) := by
  have hbuiltin : (if (Path.ofText name).isAbsolute then none else builtin? name) = builtin? name := by
    cases hname : builtin? name with
    | none => exact ite_self none
    | some set =>
      have hset : (builtin? name).isSome := by rw [hname, Option.isSome_some]
      rw [isAbsolute_of_builtin? hset, if_neg Bool.false_ne_true]
  unfold find
  dsimp only
  rw [hbuiltin]
  cases directory with
  | some d =>
    rw [Option.isSome_some, Bool.or_true]
    rfl
  | none =>
    have hrelative : (pathOf none name).isAbsolute = false := by
      apply isAbsolute_of_builtin?
      obtain hown | hset := h
      · cases hown
      · exact hset
    rw [hrelative]
    rfl

/-- A set that is built in is found under its name. -/
theorem find_builtin (files : FileTree) {name : String} {set : HelpTemplate}
    (h : builtin? name = some set) : find files none name = .ok set := by
  have hset : HasSet files none name := .inr (Option.isSome_of_eq_some h)
  rw [find_eq hset, h]
  rfl

theorem find_metadataName (files : FileTree) : find files none metadataName = .ok metadataTemplate :=
  find_builtin files (if_pos rfl)

theorem find_rpcName (files : FileTree) : find files none rpcName = .ok rpcTemplate := by
  apply find_builtin
  rw [builtin?, if_neg (by decide), if_pos rfl]

/-- The look-up of a set that there is either finds it, or the file system cannot say whether there is
a file. -/
theorem locates_or_fault {name : String} (h : HasSet files directory name) :
    Locates files directory name (find files directory name) ∨
      ∃ fault, isInDirectory files directory name = .error fault ∧
        find files directory name = .error (.fault fault) := by
  have hfind := find_eq h
  cases hin : isInDirectory files directory name with
  | error fault =>
    rw [hin] at hfind
    exact .inr ⟨fault, rfl, hfind⟩
  | ok inFile =>
    have hanswer : Failure.ofFault (.ok inFile : Except Fault Bool) = .ok inFile := rfl
    rw [hin, hanswer, ok_bind_eq] at hfind
    left
    rw [hfind]
    cases inFile with
    | true =>
      cases directory with
      | none => cases hin
      | some d =>
        rw [if_pos rfl]
        exact .inDirectory rfl hin
    | false =>
      have hset : (builtin? name).isSome := by
        obtain hown | hset := h
        · rw [hin] at hown
          cases hown
        · exact hset
      obtain ⟨set, hnamed⟩ := Option.isSome_iff_exists.mp hset
      rw [if_neg Bool.false_ne_true, hnamed]
      exact .builtIn hin hnamed

theorem Locates.isOfTemplate {name : String} {found : Except Failure HelpTemplate}
    (h : Locates files directory name found) : FailsOnly IsOfTemplate found := by
  cases h with
  | inDirectory given present => exact isOfTemplate_load files _
  | builtIn absent named => exact failsOnly_ok _

/-- What the look-up of a set that there is can fail with. -/
theorem isOfTemplate_find {name : String} (h : HasSet files directory name) :
    FailsOnly IsOfTemplate (find files directory name) := by
  obtain hlocates | ⟨fault, -, hfind⟩ := locates_or_fault h
  · exact hlocates.isOfTemplate
  · rw [hfind]
    exact failsOnly_error (.fault fault)

/-! ## Agreement -/

/-- The failure reports that there is no set of templates with the name asked for. -/
def Misses (failure : Failure) : Prop :=
  ∃ report, failure.report? = some report ∧ report.code = Code.helpTemplateNotFound.text

theorem IsOfTemplate.not_misses {failure : Failure} (h : IsOfTemplate failure) : ¬ Misses failure := by
  intro ⟨report, hreport, hcode⟩
  have hother : Code.invalidHelpTemplate.text ≠ Code.helpTemplateNotFound.text := by decide +kernel
  cases h with
  | fault fault => cases hreport
  | unreadable path fault =>
    cases hreport
    exact hother hcode
  | shapeless path =>
    cases hreport
    exact hother hcode
  | badField fault =>
    cases hreport
    exact hother hcode

/-- The name of a set is chosen where the look-up finds it. For every registry of any kind of plugin,
any directory or none, and any files: rendering without a named template never fails because a set is
missing; and as long as the file system answers, a name is chosen, and both its set and that of the
metadata are found, in the directory if there is such a file and else among those built in. -/
theorem find_chosen (files : FileTree) (directory : Option Path) (r : Registry)
    {template : Option String} (hnone : template.getD "" = "") :
    FailsOnly (fun failure => ¬ Misses failure) (render files directory r template).outcome ∧
      (Answers files directory r.pluginKind →
        (∃ name, nameForKind files directory r.pluginKind = .ok name ∧
          askedName files directory r template = .ok name ∧
          Locates files directory name (find files directory name)) ∧
        Locates files directory metadataName (find files directory metadataName)) := by
  have hasked : askedName files directory r template =
      Failure.ofFault (nameForKind files directory r.pluginKind) := by
    unfold askedName
    rw [hnone]
    rfl
  constructor
  · refine failsOnly_render (fun failure => IsOfTemplate.not_misses) ?_ ?_
    · intro name hname
      rw [hasked] at hname
      obtain ⟨-, hset⟩ := hasSet_of_nameForKind (mapError_eq_ok_iff.mp hname)
      exact (isOfTemplate_find hset).imp fun failure => IsOfTemplate.not_misses
    · exact (isOfTemplate_find hasSet_metadataName).imp fun failure => IsOfTemplate.not_misses
  · intro hanswers
    have hlocates {name : String} (hmem : name ∈ namesForKind r.pluginKind)
        (hset : HasSet files directory name) :
        Locates files directory name (find files directory name) := by
      obtain hlocates | ⟨fault, hfault, -⟩ := locates_or_fault hset
      · exact hlocates
      · obtain ⟨answer, hanswer⟩ := hanswers name hmem
        rw [hanswer] at hfault
        cases hfault
    constructor
    · obtain ⟨name, hname⟩ := exists_nameForKind hanswers
      obtain ⟨hmem, hset⟩ := hasSet_of_nameForKind hname
      exact ⟨name, hname, hasked.trans (mapError_eq_ok_iff.mpr hname), hlocates hmem hset⟩
    · exact hlocates (List.mem_cons_of_mem _ List.mem_cons_self) hasSet_metadataName

/-- A directory with a set for plugins of the kind `site/v1.2`. -/
def siteFiles : FileTree where
  working := ["srv"]
  nodes := [(["srv", "templates"], .directory), (["srv", "templates", "site"], .directory),
    (["srv", "templates", "site", "v1.2-help.yaml"], .file (Text.encodeUtf8 "template: usage"))]

theorem find_chosen_site :
    let directory := some (Path.ofText "templates")
    let r : Registry := { (default : Registry) with pluginKind := "site/v1.2" }
    Answers siteFiles directory r.pluginKind ∧
      nameForKind siteFiles directory r.pluginKind = .ok "site/v1.2-help.yaml" ∧
      FailsOnly (fun failure => ¬ Misses failure) (render siteFiles directory r none).outcome ∧
      Locates siteFiles directory "site/v1.2-help.yaml"
        (find siteFiles directory "site/v1.2-help.yaml") := by
  intro directory r
  have hown : isInDirectory siteFiles directory "site/v1.2-help.yaml" = .ok true := by rfl
  have hmetadata : isInDirectory siteFiles directory metadataName = .ok false := by rfl
  have hanswers : Answers siteFiles directory r.pluginKind := by
    intro name hname
    obtain rfl | hname := List.mem_cons.mp hname
    · exact ⟨true, hown⟩
    · cases List.mem_singleton.mp hname
      exact ⟨false, hmetadata⟩
  have hchosen : nameForKind siteFiles directory r.pluginKind = .ok "site/v1.2-help.yaml" := by
    have hname : r.pluginKind ++ "-help.yaml" = "site/v1.2-help.yaml" := by decide
    rw [nameForKind_eq (show r.pluginKind ≠ "agent" by decide), hname, hown, ok_bind_eq]
    exact congrArg Except.ok (if_pos (.inl rfl))
  have hnone : (none : Option String).getD "" = "" := rfl
  obtain ⟨hfails, hfound⟩ := find_chosen siteFiles directory r hnone
  obtain ⟨⟨name, hname, -, hlocates⟩, -⟩ := hfound hanswers
  rw [hchosen] at hname
  cases hname
  exact ⟨hanswers, hchosen, hfails, hlocates⟩

end Help

end PluginDescriptor
