import PluginDescriptor.Proofs.Descriptor.Failing

/-!
# What loading a descriptor fails with

A text that is no descriptor is to be reported as such: malformed, with an unsupported requirement,
or for a later host. Every problem of a primitive is of this kind (`Fails.leaves`), and so is that of
a document without the shape of a descriptor. `Execution.execute_contained` names the faults that leave
nevertheless: a scalar that cannot be converted, a version that cannot be compared, and a number that
is too long to be shown; and those of texts with values that have no end, are too deep, or hold half of
a surrogate pair, which are set apart.
-/

set_option autoImplicit false

namespace PluginDescriptor

/-- The problem is one of those that a text can have as a descriptor. -/
def Problem.IsLoading (problem : Problem) : Prop :=
  problem.errorClass = .malformed ∨ problem.errorClass = .requirement ∨
    problem.errorClass = .versionTooOld

/-- A problem of a primitive is one of those. -/
theorem Problem.isLoading_of_primitive? {problem : Problem} {primitive : Primitive}
    (h : problem.primitive? = some primitive) : problem.IsLoading := by
  cases problem with
  | unknownRequirement _ => exact .inr (.inl rfl)
  | hostTooOld _ _ => exact .inr (.inr rfl)
  | _ => first | exact .inl rfl | cases h

/-- How loading fails: with a problem of the descriptor, or with a fault that leaks. -/
inductive Leaves (subject : Subject) (Leaks : Fault → Prop) : Failure → Prop where
  | reported (problem : Problem) (loading : problem.IsLoading) (named : problem.namesText = true) :
      Leaves subject Leaks (.descriptor problem (some subject))
  | leaked (fault : Fault) (leaks : Leaks fault) : Leaves subject Leaks (.fault fault)

variable {Leaks : Fault → Prop}

theorem Fails.leaves {subject : Subject} {primitive : Primitive} {failure : Failure}
    (h : Fails subject Leaks primitive failure) : Leaves subject Leaks failure := by
  cases h with
  | reported problem own named =>
    exact .reported problem (Problem.isLoading_of_primitive? own) named
  | leaked fault leaks => exact .leaked fault leaks

/-! ## The shape of a document -/

namespace Shape

/-- All that the texts of misfits show can be shown. -/
def AllShowable (Leaks : Fault → Prop) (found : List Misfit) : Prop :=
  ∀ m ∈ found, ∀ v ∈ m.shown, Showable Leaks v

theorem allShowable_nil : AllShowable Leaks [] := List.forall_mem_nil _

theorem allShowable_append {found others : List Misfit} (h : AllShowable Leaks found)
    (h' : AllShowable Leaks others) : AllShowable Leaks (found ++ others) :=
  List.forall_mem_append.mpr ⟨h, h'⟩

theorem allShowable_flatMap {β : Type} {things : List β} {f : β → List Misfit}
    (h : ∀ b ∈ things, AllShowable Leaks (f b)) : AllShowable Leaks (things.flatMap f) := by
  intro m hm
  obtain ⟨b, hb, hmb⟩ := List.mem_flatMap.mp hm
  exact h b hb m hmb

/-- A misfit that shows one value. -/
theorem allShowable_singleton {m : Misfit} {v : Value} (hm : m.shown = [v])
    (h : Showable Leaks v) : AllShowable Leaks [m] := by
  refine List.forall_mem_singleton.mpr ?_
  rw [hm]
  exact List.forall_mem_singleton.mpr h

variable {path : List Value} {v : Value} {entries : Entries}

theorem allShowable_mapping (h : Showable Leaks v) : AllShowable Leaks (mapping path v) := by
  unfold mapping
  split
  · exact allShowable_nil
  · exact allShowable_singleton rfl h

theorem allShowable_text (h : Showable Leaks v) : AllShowable Leaks (text path v) := by
  unfold text
  split
  · exact allShowable_nil
  · exact allShowable_singleton rfl h

theorem allShowable_nonEmpty (h : AreShowable Leaks entries) :
    AllShowable Leaks (nonEmpty path entries) := by
  unfold nonEmpty
  split
  · exact allShowable_singleton rfl (showable_map_iff.mpr h)
  · exact allShowable_nil

theorem allShowable_arguments (h : Showable Leaks v) :
    AllShowable Leaks (arguments path v) := by
  unfold arguments
  split
  · rename_i entries
    have hentries := showable_map_iff.mp h
    refine allShowable_append (allShowable_append (allShowable_nonEmpty hentries) ?_) ?_
    · exact allShowable_flatMap fun e he => allShowable_text (hentries.of_mem he).1
    · exact allShowable_flatMap fun e he => allShowable_mapping (hentries.of_mem he).2
  · exact allShowable_singleton rfl h

theorem allShowable_argument (h : Showable Leaks v) (p : Primitive) :
    AllShowable Leaks (argument path v p) := by
  cases p with
  | usage => exact allShowable_text h
  | input => exact allShowable_arguments h
  | output => exact allShowable_arguments h
  | _ => exact allShowable_mapping h

theorem allShowable_strangers (h : AreShowable Leaks entries) :
    AllShowable Leaks (strangers path entries) := by
  have hkeys : ∀ k ∈ ((entries.map (·.1)).filter fun k => !isPrimitive k).mergeSort
      (fun a b => a.text ≤ b.text), Showable Leaks k := by
    intro k hk
    rw [List.mem_mergeSort] at hk
    obtain ⟨entry, hentry, rfl⟩ := List.mem_map.mp (List.mem_filter.mp hk).1
    exact (h.of_mem hentry).1
  unfold strangers
  simp only
  split
  · exact allShowable_nil
  · exact List.forall_mem_singleton.mpr hkeys

theorem allShowable_step (h : Showable Leaks v) : AllShowable Leaks (step path v) := by
  unfold step
  split
  · rename_i entries
    have hentries := showable_map_iff.mp h
    refine allShowable_append (allShowable_append (allShowable_append
      (allShowable_nonEmpty hentries) ?_) ?_) (allShowable_strangers hentries)
    · split
      · exact allShowable_singleton rfl h
      · exact allShowable_nil
    · refine allShowable_flatMap fun p _ => ?_
      split
      · rename_i w hfind
        have hvalue : Showable Leaks ((Fields.find? entries p.text).getD .null) :=
          hentries.getD _ rfl
        rw [hfind] at hvalue
        exact allShowable_argument hvalue p
      · exact allShowable_nil
  · exact allShowable_singleton rfl h

theorem allShowable_misfits {document : Value} (h : Showable Leaks document) :
    AllShowable Leaks (misfits document) := by
  unfold misfits
  split
  · rename_i values
    refine allShowable_flatMap fun entry hentry => allShowable_step ?_
    exact h.of_mem_list (List.fst_mem_of_mem_zipIdx hentry)
  · exact allShowable_singleton rfl h

theorem isLoading_of_check {document : Value} {problem : Problem}
    (h : check document = .error problem) : problem.IsLoading := by
  obtain ⟨_, _, rfl⟩ := exists_badShape_of_check h
  exact .inl rfl

theorem namesText_of_check {document : Value} {problem : Problem}
    (h : check document = .error problem) : problem.namesText = true := by
  obtain ⟨_, _, rfl⟩ := exists_badShape_of_check h
  rfl

end Shape

namespace Execution

variable {subject : Subject} {host : String}

theorem failsOnly_stepsOf {document : Value} (h : Showable Leaks document) :
    FailsOnly (Leaves subject Leaks) (stepsOf subject document) := by
  have hshown : ∀ v ∈ Shape.shown document, Showable Leaks v := by
    intro v hv
    obtain ⟨m, hm, hvm⟩ := List.mem_flatMap.mp hv
    exact Shape.allShowable_misfits h m hm v hvm
  unfold stepsOf
  split
  · exact failsOnly_ok _
  · rename_i problem hcheck
    refine failsOnly_error ?_
    unfold misfitFailure
    split
    · exact .reported problem (Shape.isLoading_of_check hcheck) (Shape.namesText_of_check hcheck)
    · rename_i hlong
      exact .leaked .numberTooLong (leaks_of_not_writable hshown hlong)

/-! ## Runs -/

theorem showable_of_spells {document : Value} {steps : List Step} (h : Spells document steps)
    (hshow : Showable Leaks document) : ∀ step ∈ steps, Showable Leaks step.argument := by
  intro step hmem
  cases h with
  | nothing => cases hmem
  | list steps _ =>
    have hspelling : Showable Leaks step.spelling :=
      hshow.of_mem_list (List.mem_map.mpr ⟨step, hmem, rfl⟩)
    exact ((showable_map_iff.mp hspelling).of_mem List.mem_cons_self).2

/-- A document fails with a problem of the descriptor, unless a comparison with a version that it
states, or a number in it that is too long, raises a fault. -/
theorem failsOnly_executeDocument {document : Value} (hshow : Showable Leaks document)
    (hleaks : ∀ steps step minimum fault, Spells document steps → step ∈ steps →
      States step minimum → Version.isDevelopment host = false →
        Version.order host minimum = .error fault → Leaks fault) :
    FailsOnly (Leaves subject Leaks) (executeDocument subject host document).outcome := by
  unfold executeDocument
  rw [Logged.outcome_bind, Logged.outcome_of]
  refine failsOnly_bind (failsOnly_stepsOf hshow) fun steps hsteps => ?_
  have hspells : Spells document steps := (stepsOf_eq_ok_iff subject document steps).mp hsteps
  -- The run keeps that every version that counts is stated by one of the steps.
  let Stated : String → Prop := fun minimum => ∃ step ∈ steps, States step minimum
  have hstart : Keeps subject host Stated (State.start subject host) :=
    ⟨rfl, rfl, fun _ h => by cases h⟩
  have hkeeps : ∀ step ∈ steps, ∀ s s', Keeps subject host Stated s → perform s step = .ok s' →
      Keeps subject host Stated s' := fun step hmem s s' hs h =>
    hs.after (fun minimum hstates => ⟨step, hmem, hstates⟩) h
  have hfails : ∀ step ∈ steps, ∀ s, Keeps subject host Stated s →
      FailsOnly (Leaves subject Leaks) (perform s step) := fun step hmem s hs =>
    (failsOnly_perform hs (showable_of_spells hspells hshow step hmem)
      (fun minimum hstates => ⟨step, hmem, hstates⟩)
      fun minimum fault ⟨other, hother, hstates⟩ =>
        hleaks steps other minimum fault hspells hother hstates).imp fun _ => Fails.leaves
  obtain ⟨hrun, hend⟩ := failsOnly_foldlM hkeeps hfails hstart
  rw [Logged.outcome_bind, outcome_runSteps]
  refine failsOnly_bind hrun fun final hfinal failure hfailure => ?_
  obtain ⟨-, rfl⟩ := (build_eq_error_iff final.draft failure).mp hfailure
  rw [(hend final hfinal).subject]
  exact .reported .noMetadata (.inl rfl) rfl

/-- The faults that leave when a text is loaded: a scalar that cannot be converted, what comparing the
host with a version that the text states raises, and a number too long to be shown. Two more are those
of texts whose values are not followed here. Collections that lie inside each other too deeply, through
aliases too, or hold themselves make the program break off where it follows them to their end; a text
with half of a surrogate pair does not make it fail, but no text here holds one. -/
inductive Escapes (host source : String) : Fault → Prop where
  | converting (fault : Fault) (unread : Value.ofYaml source = .error fault)
      (foreign : fault ≠ .notYaml) (bounded : fault ≠ .tooDeep) (whole : fault ≠ .loneSurrogate) :
      Escapes host source fault
  | nesting (unread : Value.ofYaml source = .error .tooDeep) : Escapes host source .tooDeep
  | halving (unread : Value.ofYaml source = .error .loneSurrogate) :
      Escapes host source .loneSurrogate
  | comparing (document : Value) (steps : List Step) (step : Step) (minimum : String)
      (fault : Fault) (read : Value.ofYaml source = .ok document) (spells : Spells document steps)
      (present : step ∈ steps) (states : States step minimum)
      (release : Version.isDevelopment host = false)
      (raises : Version.order host minimum = .error fault) : Escapes host source fault
  | showing (document : Value) (read : Value.ofYaml source = .ok document)
      (overlong : document.isWritable = false) : Escapes host source .numberTooLong

theorem readDocument_eq_ok {subject : Subject} {source : String} {document : Value}
    (h : readDocument subject source = .ok document) : Value.ofYaml source = .ok document := by
  unfold readDocument at h
  split at h
  · rename_i read hread
    cases h
    exact hread
  · cases h
  · cases h

/-- What a text declares is what the document that it holds declares. -/
theorem outcome_execute {source : String} {document : Value}
    (h : Value.ofYaml source = .ok document) (subject : Subject) (host : String) :
    (execute subject host source).outcome = (executeDocument subject host document).outcome := by
  rw [execute, Logged.outcome_bind, Logged.outcome_of, readDocument, h]
  rfl

/-- The registry of a text is that of a document that the text holds. -/
theorem exists_document {subject : Subject} {host source : String} {r : Registry}
    (h : (execute subject host source).outcome = .ok r) : ∃ document,
      Value.ofYaml source = .ok document ∧
        (executeDocument subject host document).outcome = .ok r := by
  rw [execute, Logged.outcome_bind, Logged.outcome_of] at h
  obtain ⟨document, hread, hexecute⟩ := bind_eq_ok_iff.mp h
  exact ⟨document, readDocument_eq_ok hread, hexecute⟩

/-- What reading a text raises besides bad syntax is one of the faults that leave. -/
theorem escapes_of_unread (host : String) {source : String} {fault : Fault}
    (hunread : Value.ofYaml source = .error fault) (hforeign : fault ≠ .notYaml) :
    Escapes host source fault := by
  by_cases hdeep : fault = .tooDeep
  · subst hdeep
    exact .nesting hunread
  · by_cases hhalf : fault = .loneSurrogate
    · subst hhalf
      exact .halving hunread
    · exact .converting fault hunread hforeign hdeep hhalf

theorem failsOnly_readDocument {subject : Subject} {host source : String} :
    FailsOnly (Leaves subject (Escapes host source)) (readDocument subject source) := by
  unfold readDocument
  split
  · exact failsOnly_ok _
  · exact failsOnly_error (.reported _ (.inl rfl) rfl)
  · rename_i fault hforeign hunread
    have hother : fault ≠ .notYaml := fun h => hforeign (h ▸ rfl)
    exact failsOnly_error (.leaked fault (escapes_of_unread host hunread hother))

/-- Loading a text gives a registry or an error about the descriptor, and otherwise one of the
faults that escape. -/
theorem execute_contained (subject : Subject) (host source : String) :
    (∃ registry, (execute subject host source).outcome = .ok registry) ∨
    (∃ problem, (execute subject host source).outcome =
      .error (.descriptor problem (some subject)) ∧ problem.IsLoading) ∨
    ∃ fault, (execute subject host source).outcome = .error (.fault fault) ∧
      Escapes host source fault := by
  have hfails : FailsOnly (Leaves subject (Escapes host source))
      (execute subject host source).outcome := by
    unfold execute
    rw [Logged.outcome_bind, Logged.outcome_of]
    refine failsOnly_bind (failsOnly_readDocument) fun document hdocument => ?_
    have hread := readDocument_eq_ok hdocument
    refine failsOnly_executeDocument ?_ ?_
    · cases hwritable : document.isWritable with
      | true => exact .inl hwritable
      | false => exact .inr (.showing document hread hwritable)
    · intro steps step minimum fault hspells hmem hstates hrelease horder
      exact .comparing document steps step minimum fault hread hspells hmem hstates hrelease horder
  cases houtcome : (execute subject host source).outcome with
  | ok registry => exact .inl ⟨registry, rfl⟩
  | error failure =>
    cases hfails failure houtcome with
    | reported problem hloading => exact .inr (.inl ⟨problem, rfl, hloading⟩)
    | leaked fault hescapes => exact .inr (.inr ⟨fault, rfl, hescapes⟩)

/-- What reading raises besides bad syntax leaves as it is. -/
theorem outcome_execute_of_unread (subject : Subject) (host : String) {source : String}
    {fault : Fault} (hunread : Value.ofYaml source = .error fault) (hforeign : fault ≠ .notYaml) :
    (execute subject host source).outcome = .error (.fault fault) := by
  have hread : readDocument subject source = .error (.fault fault) := by
    unfold readDocument
    rw [hunread]
    cases fault with
    | notYaml => exact (hforeign rfl).elim
    | _ => rfl
  unfold execute
  rw [Logged.outcome_bind, Logged.outcome_of, hread]
  rfl

/-- A scalar that looks like a date and is none is not reported as a malformed descriptor. -/
theorem execute_leaks_noDate :
    (execute { kind := "agent", name := "echo", path := none } "2.0.0"
      "- usage: 2024-02-30").outcome =
        .error (.fault (.badValue "day is out of range for month")) := by
  have hfault : (tryCatch ((Value.ofYaml "- usage: 2024-02-30").map fun _ => false) fun fault =>
      pure (fault == .badValue "day is out of range for month")).toOption = some true := by
    decide +kernel
  cases hunread : Value.ofYaml "- usage: 2024-02-30" with
  | ok v =>
    rw [hunread] at hfault
    cases hfault
  | error fault =>
    rw [hunread] at hfault
    have hbad : (fault == .badValue "day is out of range for month") = true :=
      Option.some.inj hfault
    cases fault with
    | badValue text =>
      have htext : text = "day is out of range for month" := eq_of_beq hbad
      rw [htext] at hunread
      exact outcome_execute_of_unread _ _ hunread (by simp)
    | _ => cases hbad

end Execution

end PluginDescriptor
