import PluginDescriptor.Proofs.Descriptor.Reached

/-!
# What primitives fail with

A primitive fails with a problem of its own, which tells what is wrong with its step. Two faults come
through: that of comparing the host with a version, and that of showing a number that is too long.
Whether these leak is left open (`Leaks`); with it, `Execution.failsOnly_perform` says all that a step
can fail with.
-/

set_option autoImplicit false

namespace PluginDescriptor

/-- The primitive that declares a kind of fields. -/
def Role.primitive : Role → Primitive
  | input => .input
  | output => .output

/-- The primitive that a problem is about, if it is about a single one. -/
def Problem.primitive? : Problem → Option Primitive
  | metadataRepeated | metadataLacks _ | badTimeout _ => some .metadata
  | unknownRequirement _ | badMinimum _ | hostTooOld _ _ => some .requires
  | actionUnnamed | actionUndescribed _ | badDisplay _ _ => some .action
  | queryUndescribed => some .dataquery
  | inputLacks _ _ _ | textInputLacks _ _ _ | choiceInputLacks _ _ | badInput _ _ _ _ => some .input
  | outputLacks _ _ _ => some .output
  | noEntity role _ => some role.primitive
  | _ => none

/-- The argument that the problem is about, if it is about one, has a text for a name. -/
def Problem.namesText (problem : Problem) : Bool :=
  match problem.facts.argument with
  | .null | .str _ => true
  | _ => false

/-- How a primitive fails: with a problem of its own, or with a fault that leaks. -/
inductive Fails (subject : Subject) (Leaks : Fault → Prop) (primitive : Primitive) :
    Failure → Prop where
  | reported (problem : Problem) (own : problem.primitive? = some primitive)
      (named : problem.namesText = true) :
      Fails subject Leaks primitive (.descriptor problem (some subject))
  | leaked (fault : Fault) (leaks : Leaks fault) : Fails subject Leaks primitive (.fault fault)

/-- A problem that is about a primitive has not the code of lacking metadata. -/
theorem Problem.code_ne_of_primitive? {problem : Problem} {primitive : Primitive}
    (h : problem.primitive? = some primitive) : problem.code ≠ .missingMetadata := by
  intro hcode
  cases problem with
  | noMetadata => cases h
  | _ => cases hcode

/-! ## What can be shown -/

section

variable (Leaks : Fault → Prop)

/-- The value can be written out, unless the fault of doing so leaks. -/
def Showable (v : Value) : Prop := v.isWritable = true ∨ Leaks .numberTooLong

/-- All keys and values can be written out, unless the fault of doing so leaks. -/
def AreShowable (entries : Entries) : Prop :=
  Value.areEntriesWritable entries = true ∨ Leaks .numberTooLong

end

variable {Leaks : Fault → Prop}

theorem AreShowable.of_mem {entries : Entries} (h : AreShowable Leaks entries)
    {entry : Value × Value} (hmem : entry ∈ entries) :
    Showable Leaks entry.1 ∧ Showable Leaks entry.2 := by
  obtain hwritable | hleaks := h
  · have hentry := (Value.areEntriesWritable_iff entries).mp hwritable entry hmem
    exact ⟨.inl hentry.1, .inl hentry.2⟩
  · exact ⟨.inr hleaks, .inr hleaks⟩

theorem showable_map_iff {entries : Entries} :
    Showable Leaks (.map entries) ↔ AreShowable Leaks entries := Iff.rfl

theorem Showable.of_mem_list {items : List Value} (h : Showable Leaks (.list items)) {v : Value}
    (hmem : v ∈ items) : Showable Leaks v :=
  h.imp_left fun hwritable => (Value.areWritable_iff items).mp hwritable v hmem

/-- If not all that can be shown can be written out, the fault of doing so leaks. -/
theorem leaks_of_not_writable {values : List Value} (h : ∀ v ∈ values, Showable Leaks v)
    (hlong : ¬ values.all Value.isWritable = true) : Leaks .numberTooLong := by
  by_contra hcontained
  have hwritable : ∀ v ∈ values, v.isWritable = true := fun v hv =>
    (h v hv).resolve_right hcontained
  exact hlong (List.all_eq_true.mpr hwritable)

/-- What stands under a key can be shown, and so can what stands in for it. -/
theorem AreShowable.getD {entries : Entries} (h : AreShowable Leaks entries) (key : String)
    {default : Value} (hdefault : default.isWritable = true) :
    Showable Leaks ((entries.find? key).getD default) := by
  cases hfind : entries.find? key with
  | none => exact .inl hdefault
  | some v =>
    unfold Fields.find? Fields.get? at hfind
    obtain ⟨entry, hentry, rfl⟩ := Option.map_eq_some_iff.mp hfind
    exact (h.of_mem (List.mem_of_find?_eq_some hentry)).2

/-! ## Primitives -/

namespace Draft

variable {α : Type} (d : Draft)

/-- A primitive fails with its problem, if what the problem shows can be shown. -/
theorem failsOnly_fail {problem : Problem} {primitive : Primitive}
    (hown : problem.primitive? = some primitive) (hnamed : problem.namesText = true)
    (hshown : ∀ v ∈ problem.shown, Showable Leaks v) :
    FailsOnly (Fails d.subject Leaks primitive) (d.fail problem : Except Failure α) := by
  refine failsOnly_error ?_
  unfold Failure.ofProblem
  split
  · exact .reported problem hown hnamed
  · rename_i hlong
    exact .leaked .numberTooLong (leaks_of_not_writable hshown hlong)

variable {properties : Entries}

theorem failsOnly_declareMetadata (h : AreShowable Leaks properties) :
    FailsOnly (Fails d.subject Leaks .metadata) (d.declareMetadata properties) := by
  rw [declareMetadata_eq]
  split
  · exact d.failsOnly_fail rfl rfl (List.forall_mem_nil _)
  split
  · exact d.failsOnly_fail rfl rfl (List.forall_mem_nil _)
  simp only
  split
  · exact failsOnly_ok _
  · have htimeout : Showable Leaks ((properties.find? "timeout").getD .null) := h.getD _ rfl
    exact d.failsOnly_fail rfl rfl (List.forall_mem_singleton.mpr htimeout)

theorem failsOnly_statedMinimum {version : Value} (h : Showable Leaks version) :
    FailsOnly (Fails d.subject Leaks .requires) (d.statedMinimum version) := by
  have hfail : FailsOnly (Fails d.subject Leaks .requires)
      (d.fail (.badMinimum version) : Except Failure String) :=
    d.failsOnly_fail rfl rfl (List.forall_mem_singleton.mpr h)
  unfold statedMinimum
  split
  · split
    · exact hfail
    · exact failsOnly_ok _
  · exact hfail

theorem failsOnly_noteRequirements {requirements : Entries} (h : AreShowable Leaks requirements) :
    FailsOnly (Fails d.subject Leaks .requires) (d.noteRequirements requirements).2 := by
  induction requirements generalizing d with
  | nil => exact failsOnly_ok ()
  | cons entry rest ih =>
    obtain ⟨kind, version⟩ := entry
    have hentry := h.of_mem List.mem_cons_self
    have hrest : AreShowable Leaks rest := by
      refine h.imp_left fun hwritable => ?_
      rw [Value.areEntriesWritable, Bool.and_eq_true] at hwritable
      exact hwritable.2
    rw [noteRequirements_cons]
    split
    · exact d.failsOnly_fail rfl rfl (List.forall_mem_singleton.mpr hentry.1)
    · split
      · exact ih { d with minimum := _ } hrest
      · rename_i failure hfailure
        exact failsOnly_error (d.failsOnly_statedMinimum hentry.2 failure hfailure)

theorem failsOnly_checkRequirements
    (h : ∀ minimum fault, d.minimum = some minimum → Version.isDevelopment d.host = false →
      Version.order d.host minimum = .error fault → Leaks fault) :
    FailsOnly (Fails d.subject Leaks .requires) d.checkRequirements := by
  unfold checkRequirements
  split
  · exact failsOnly_ok ()
  · rename_i minimum hminimum
    split
    · exact failsOnly_ok ()
    · rename_i hrelease
      refine failsOnly_bind ?_ fun o ho => ?_
      · intro failure hfailure
        cases horder : Version.order d.host minimum with
        | ok o =>
          rw [horder] at hfailure
          cases hfailure
        | error fault =>
          rw [horder] at hfailure
          cases hfailure
          exact .leaked fault (h minimum fault hminimum (by simpa using hrelease) horder)
      · split
        · exact d.failsOnly_fail rfl rfl (List.forall_mem_nil _)
        · exact failsOnly_ok ()

theorem failsOnly_declareRequirements {requirements : Entries}
    (hshow : AreShowable Leaks requirements)
    (horder : ∀ minimum fault, (∀ entry ∈ requirements, Grammar.IsRequirement entry) →
      (Grammar.lastMinimum requirements).or d.minimum = some minimum →
        Version.isDevelopment d.host = false →
          Version.order d.host minimum = .error fault → Leaks fault) :
    FailsOnly (Fails d.subject Leaks .requires) (d.declareRequirements requirements).2 := by
  have hnote := d.failsOnly_noteRequirements hshow
  rw [declareRequirements_eq]
  split
  · rename_i noted hnoted
    obtain ⟨hentries, rfl⟩ := (noteRequirements_eq_ok_iff d noted requirements).mp hnoted
    exact failsOnly_checkRequirements _ fun minimum fault => horder minimum fault hentries
  · rename_i noted failure hnoted
    rw [hnoted] at hnote
    exact hnote

theorem failsOnly_declareAction (h : AreShowable Leaks properties) :
    FailsOnly (Fails d.subject Leaks .action) (d.declareAction properties) := by
  have hunnamed :
      FailsOnly (Fails d.subject Leaks .action) (d.fail .actionUnnamed : Except Failure String) :=
    d.failsOnly_fail rfl rfl (List.forall_mem_nil _)
  rw [declareAction_eq]
  refine failsOnly_bind ?_ fun name _ => failsOnly_bind ?_ fun description _ =>
    failsOnly_bind ?_ fun display _ => failsOnly_ok _
  · unfold actionName
    split
    · split
      · exact hunnamed
      · exact failsOnly_ok _
    · exact hunnamed
  · unfold actionDescription
    split
    · exact failsOnly_ok _
    · exact d.failsOnly_fail rfl rfl (List.forall_mem_nil _)
  · have hdisplay : Showable Leaks
        ((properties.find? "display").getD (.str Display.failed.text)) := h.getD _ rfl
    unfold actionDisplay
    simp only
    split
    · exact failsOnly_ok _
    · exact d.failsOnly_fail rfl rfl (List.forall_mem_singleton.mpr hdisplay)

theorem failsOnly_declareQuery :
    FailsOnly (Fails d.subject Leaks .dataquery) (d.declareQuery properties) := by
  rw [declareQuery_eq]
  split
  · exact failsOnly_ok _
  · exact d.failsOnly_fail rfl rfl (List.forall_mem_nil _)

/-! ### Arguments and results -/

section

variable {entity name : String}

theorem failsOnly_activeEntity (current : Option String) (role : Role) :
    FailsOnly (Fails d.subject Leaks role.primitive) (d.activeEntity current role (.str name)) := by
  unfold activeEntity
  split
  · exact failsOnly_ok _
  · exact d.failsOnly_fail rfl rfl (List.forall_mem_singleton.mpr (.inl rfl))

/-- A property of the wrong kind is shown with the name of its argument. -/
theorem failsOnly_badInput {property : InputProperty} {given : Value}
    (h : Showable Leaks given) :
    FailsOnly (Fails d.subject Leaks .input)
      (d.fail (.badInput entity (.str name) property given) : Except Failure α) :=
  d.failsOnly_fail rfl rfl (List.forall_mem_cons.mpr
    ⟨.inl rfl, List.forall_mem_singleton.mpr h⟩)

theorem failsOnly_textInput (h : AreShowable Leaks properties) :
    FailsOnly (Fails d.subject Leaks .input) (d.textInput entity (.str name) properties) := by
  unfold textInput
  split
  · exact d.failsOnly_fail rfl rfl (List.forall_mem_nil _)
  refine failsOnly_bind ?_ fun validation _ => failsOnly_bind ?_ fun maxlength _ => failsOnly_ok _
  · have hvalidation : Showable Leaks
        ((properties.find? InputProperty.validation.text).getD .null) := h.getD _ rfl
    unfold textValidation
    split
    · exact failsOnly_ok _
    · exact d.failsOnly_badInput hvalidation
  · have hmaxlength : Showable Leaks
        ((properties.find? InputProperty.maxlength.text).getD .null) := h.getD _ rfl
    unfold textMaxlength
    split
    · rename_i most hmost
      rw [hmost] at hmaxlength
      split
      · exact d.failsOnly_badInput hmaxlength
      · exact failsOnly_ok _
    · exact d.failsOnly_badInput hmaxlength

theorem failsOnly_choiceInput (h : AreShowable Leaks properties) :
    FailsOnly (Fails d.subject Leaks .input) (d.choiceInput entity (.str name) properties) := by
  have hlist : Showable Leaks ((properties.find? InputProperty.list.text).getD .null) :=
    h.getD _ rfl
  unfold choiceInput
  split
  · exact d.failsOnly_fail rfl rfl (List.forall_mem_nil _)
  · exact failsOnly_ok _
  · rename_i other _ hother
    rw [hother] at hlist
    exact d.failsOnly_badInput hlist

theorem failsOnly_inputSpec (h : AreShowable Leaks properties) :
    FailsOnly (Fails d.subject Leaks .input) (d.inputSpec entity (.str name) properties) := by
  unfold inputSpec
  split
  · exact d.failsOnly_fail rfl rfl (List.forall_mem_singleton.mpr (.inl rfl))
  refine failsOnly_bind ?_ fun type _ => failsOnly_bind ?_ fun optional _ => ?_
  · have htype : Showable Leaks ((properties.find? InputProperty.type.text).getD .null) :=
      h.getD _ rfl
    unfold inputType
    split
    · exact failsOnly_ok _
    · exact d.failsOnly_badInput htype
  · have hoptional : Showable Leaks
        ((properties.find? InputProperty.optional.text).getD .null) := h.getD _ rfl
    unfold inputOptional
    split
    · exact failsOnly_ok _
    · exact failsOnly_ok _
    · exact d.failsOnly_badInput hoptional
  · unfold typedInput
    split
    · exact failsOnly_bind (d.failsOnly_textInput h) fun _ _ => failsOnly_ok _
    split
    · exact failsOnly_bind (d.failsOnly_choiceInput h) fun _ _ => failsOnly_ok _
    · exact failsOnly_ok _

theorem failsOnly_outputSpec :
    FailsOnly (Fails d.subject Leaks .output) (d.outputSpec entity (.str name) properties) := by
  unfold outputSpec
  split
  · exact d.failsOnly_fail rfl rfl (List.forall_mem_singleton.mpr (.inl rfl))
  · exact failsOnly_ok _

end

end Draft

namespace Execution

variable {subject : Subject} {host : String}

/-! ## Steps -/

theorem failsOnly_declareInput (s : State) {argument : String × Entries}
    (h : AreShowable Leaks argument.2) :
    FailsOnly (Fails s.draft.subject Leaks .input) (s.declareInput argument) := by
  rw [State.declareInput, Draft.declareInput_eq]
  refine failsOnly_bind (failsOnly_bind (s.draft.failsOnly_activeEntity _ _) fun _ _ =>
    failsOnly_bind (s.draft.failsOnly_inputSpec h) fun _ _ => failsOnly_ok _) fun _ _ => ?_
  exact failsOnly_ok _

theorem failsOnly_declareOutput (s : State) (argument : String × Entries) :
    FailsOnly (Fails s.draft.subject Leaks .output) (s.declareOutput argument) := by
  rw [State.declareOutput, Draft.declareOutput_eq]
  refine failsOnly_bind (failsOnly_bind (s.draft.failsOnly_activeEntity _ _) fun _ _ =>
    failsOnly_bind s.draft.failsOnly_outputSpec fun _ _ => failsOnly_ok _) fun _ _ => ?_
  exact failsOnly_ok _

theorem subject_updateCurrent (s : State) (f : Entity → Entity) :
    (s.updateCurrent f).draft.subject = s.draft.subject := by
  unfold State.updateCurrent
  split <;> rfl

theorem subject_of_declareInput {s s' : State} {argument : String × Entries}
    (h : s.declareInput argument = .ok s') : s'.draft.subject = s.draft.subject := by
  obtain ⟨-, rfl⟩ := (State.declareInput_eq_ok_iff s s' argument).mp h
  exact subject_updateCurrent s _

theorem subject_of_declareOutput {s s' : State} {argument : String × Entries}
    (h : s.declareOutput argument = .ok s') : s'.draft.subject = s.draft.subject := by
  obtain ⟨-, rfl⟩ := (State.declareOutput_eq_ok_iff s s' argument).mp h
  exact subject_updateCurrent s _

/-- What a run of steps keeps: what it is about, and that the least version is one that was
stated. -/
structure Keeps (subject : Subject) (host : String) (Stated : String → Prop) (s : State) :
    Prop where
  subject : s.draft.subject = subject
  host : s.draft.host = host
  minimum : ∀ minimum, s.draft.minimum = some minimum → Stated minimum

/-- The requirements of a step state a version. -/
def States (step : Step) (minimum : String) : Prop :=
  (Value.str hostRequirement, Value.str minimum) ∈ step.requirements

/-- The last version that acceptable requirements state is stated by one of them. -/
theorem mem_of_lastMinimum {requirements : Entries} {minimum : String}
    (hentries : ∀ entry ∈ requirements, Grammar.IsRequirement entry)
    (h : Grammar.lastMinimum requirements = some minimum) :
    (Value.str hostRequirement, Value.str minimum) ∈ requirements := by
  unfold Grammar.lastMinimum at h
  obtain ⟨⟨kind, version⟩, hentry, hversion⟩ := List.mem_filterMap.mp (List.mem_of_getLast? h)
  obtain ⟨rfl, other, rfl, -⟩ := hentries _ hentry
  cases hversion
  exact hentry

theorem isRequirement_of_admits {s : State} {step : Step} (h : s.Admits step) :
    ∀ entry ∈ step.requirements, Grammar.IsRequirement entry := by
  cases step with
  | requires requirements => exact h.1
  | _ => exact List.forall_mem_nil _

section

variable {Stated : String → Prop} {s s' : State} {step : Step}

/-- A step that is admitted keeps what a run keeps. -/
theorem Keeps.after (hs : Keeps subject host Stated s)
    (hstates : ∀ minimum, States step minimum → Stated minimum) (h : perform s step = .ok s') :
    Keeps subject host Stated s' := by
  obtain ⟨hadmits, rfl⟩ := (perform_eq_ok_iff s step s').mp h
  have hentries := isRequirement_of_admits hadmits
  rw [State.after_eq]
  refine ⟨hs.subject, hs.host, fun minimum hminimum => ?_⟩
  obtain hlast | ⟨-, hearlier⟩ := Option.or_eq_some_iff.mp hminimum
  · exact hstates minimum (mem_of_lastMinimum hentries hlast)
  · exact hs.minimum minimum hearlier

/-- A step fails with a problem of its primitive, unless a comparison or a number that is shown raises
a fault. -/
theorem failsOnly_perform (hs : Keeps subject host Stated s)
    (hshow : Showable Leaks step.argument)
    (hstates : ∀ minimum, States step minimum → Stated minimum)
    (hleaks : ∀ minimum fault, Stated minimum → Version.isDevelopment host = false →
      Version.order host minimum = .error fault → Leaks fault) :
    FailsOnly (Fails subject Leaks step.primitive) (perform s step) := by
  obtain ⟨rfl, rfl, hminimum⟩ := hs
  unfold perform
  cases step with
  | metadata fields =>
    have hfields := s.draft.failsOnly_declareMetadata (showable_map_iff.mp hshow)
    exact failsOnly_bind hfields fun _ _ => failsOnly_ok _
  | requires requirements =>
    refine failsOnly_map (s.draft.failsOnly_declareRequirements (showable_map_iff.mp hshow) ?_)
    intro minimum fault hentries hnoted
    refine hleaks minimum fault ?_
    obtain hlast | ⟨-, hearlier⟩ := Option.or_eq_some_iff.mp hnoted
    · exact hstates minimum (mem_of_lastMinimum hentries hlast)
    · exact hminimum minimum hearlier
  | usage text => exact failsOnly_ok _
  | action properties =>
    have hproperties := s.draft.failsOnly_declareAction (showable_map_iff.mp hshow)
    exact failsOnly_bind hproperties fun _ _ => failsOnly_ok _
  | dataquery properties =>
    exact failsOnly_bind s.draft.failsOnly_declareQuery fun _ _ => failsOnly_ok _
  | input arguments =>
    have hsubject : ∀ argument ∈ arguments, ∀ t t' : State, t.draft.subject = s.draft.subject →
        t.declareInput argument = .ok t' → t'.draft.subject = s.draft.subject :=
      fun _ _ _ _ ht h => (subject_of_declareInput h).trans ht
    refine (failsOnly_foldlM hsubject (fun argument hmem t ht => ?_) rfl).1
    have hargument : (Value.str argument.1, Value.map argument.2) ∈
        Step.spelledArguments arguments := List.mem_map.mpr ⟨argument, hmem, rfl⟩
    rw [← ht]
    have hentry := (showable_map_iff.mp hshow).of_mem hargument
    exact failsOnly_declareInput t (showable_map_iff.mp hentry.2)
  | output arguments =>
    have hsubject : ∀ argument ∈ arguments, ∀ t t' : State, t.draft.subject = s.draft.subject →
        t.declareOutput argument = .ok t' → t'.draft.subject = s.draft.subject :=
      fun _ _ _ _ ht h => (subject_of_declareOutput h).trans ht
    refine (failsOnly_foldlM hsubject (fun argument _ t ht => ?_) rfl).1
    rw [← ht]
    exact failsOnly_declareOutput t argument

end

/-! ## Registries -/

/-- Only a draft without metadata makes no registry. -/
theorem build_eq_error_iff (d : Draft) (e : Failure) :
    d.build = .error e ↔ d.metadata = none ∧ e = .descriptor .noMetadata (some d.subject) := by
  rw [Draft.build]
  cases d.metadata with
  | some fields => simp
  | none =>
    have hfail : (d.fail .noMetadata : Except Failure Registry) =
        .error (.descriptor .noMetadata (some d.subject)) := rfl
    simp only [hfail, Except.error.injEq, true_and]
    exact eq_comm

end Execution

end PluginDescriptor
