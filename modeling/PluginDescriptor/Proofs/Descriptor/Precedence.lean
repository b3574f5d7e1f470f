import Mathlib.Algebra.Group.Int.Defs
import PluginDescriptor.Proofs.Descriptor.Failing

/-!
# Which failure is reported

A document that spells no steps is refused before any of its steps is run. One that spells steps
fails as the first of its steps that fails, whatever comes after that step, and lacks metadata only if
no step fails (`Execution.executeDocument_precedence`).
-/

set_option autoImplicit false

namespace PluginDescriptor

namespace Execution

variable {subject : Subject} {host : String}

/-- A step never fails for lack of metadata. -/
theorem code_ne_of_perform {s : State} {step : Step} {problem : Problem} {about : Option Subject}
    (h : perform s step = .error (.descriptor problem about)) : problem.code ≠ .missingMetadata := by
  -- any fault may leak, for it has no code
  have hkeeps : Keeps s.draft.subject s.draft.host (fun _ => True) s :=
    ⟨rfl, rfl, fun _ _ => trivial⟩
  have hfails : FailsOnly (Fails s.draft.subject (fun _ => True) step.primitive)
      (perform s step) :=
    failsOnly_perform hkeeps (.inr trivial) (fun _ _ => trivial) fun _ _ _ _ _ => trivial
  cases hfails _ h with
  | reported _ own => exact Problem.code_ne_of_primitive? own

/-! ## Documents -/

/-- A document that spells no steps is refused for its shape. Nothing is run: no step leaves its
notice, and the host does not matter. -/
theorem executeDocument_of_not_spells (subject : Subject) {document : Value}
    (h : ¬ ∃ steps, Spells document steps) :
    ∃ problem : Problem, problem.errorClass = .malformed ∧
      problem.code = .invalidDescriptorStructure ∧ ∀ host, executeDocument subject host document =
        Logged.fail (misfitFailure subject document problem) := by
  cases hcheck : Shape.check document with
  | ok values =>
    obtain ⟨steps, hspells, -⟩ := (Shape.check_eq_ok_iff document values).mp hcheck
    exact (h ⟨steps, hspells⟩).elim
  | error problem =>
    obtain ⟨location, text, rfl⟩ := Shape.exists_badShape_of_check hcheck
    refine ⟨.badShape location text, rfl, rfl, fun host => ?_⟩
    have hsteps : stepsOf subject document =
        .error (misfitFailure subject document (.badShape location text)) := by
      rw [stepsOf, hcheck]
    rw [executeDocument, hsteps]
    rfl

/-- The state reached holds no metadata exactly when no step declares any. -/
theorem metadata_reached_eq_none_iff (steps : List Step) :
    (reached subject host steps).draft.metadata = none ↔
      ∀ step ∈ steps, step.primitive ≠ .metadata := by
  rw [metadata_reached, List.getLast?_eq_none_iff, List.filterMap_eq_nil_iff]
  refine forall₂_congr fun step _ => ?_
  cases step <;> simp [Step.metadata?, Step.primitive]

/-- A document fails as the first of its steps that fails; if none does, it fails when no step
declares metadata. -/
theorem outcome_eq_error_iff {document : Value} {steps : List Step} (h : Spells document steps)
    (e : Failure) :
    (executeDocument subject host document).outcome = .error e ↔
      StopsWith perform (State.start subject host) steps e ∨
      (∃ final, steps.foldlM perform (State.start subject host) = .ok final) ∧
        (∀ step ∈ steps, step.primitive ≠ .metadata) ∧
          e = .descriptor .noMetadata (some subject) := by
  rw [outcome_executeDocument h, bind_eq_error_iff, foldlM_eq_error_iff]
  refine or_congr_right ?_
  have hend : ∀ final, steps.foldlM perform (State.start subject host) = .ok final →
      (final.draft.build = .error e ↔ (∀ step ∈ steps, step.primitive ≠ .metadata) ∧
        e = .descriptor .noMetadata (some subject)) := by
    intro final hfinal
    obtain ⟨-, rfl⟩ := (foldlM_eq_ok_iff perform_eq_ok_iff steps _ final).mp hfinal
    have hreached : steps.foldl State.after (State.start subject host) =
        reached subject host steps := rfl
    rw [hreached, build_eq_error_iff, metadata_reached_eq_none_iff, subject_reached]
  constructor
  · rintro ⟨final, hfinal, hbuild⟩
    exact ⟨⟨final, hfinal⟩, (hend final hfinal).mp hbuild⟩
  · rintro ⟨⟨final, hfinal⟩, hlacks⟩
    exact ⟨final, hfinal, (hend final hfinal).mpr hlacks⟩

/-- What follows the step that a row stops at does not matter. -/
theorem outcome_of_stops {before : List Step} {step : Step} {mid : State} {e : Failure}
    (hbefore : before.foldlM perform (State.start subject host) = .ok mid)
    (hstep : perform mid step = .error e) {document : Value} {more : List Step}
    (h : Spells document (before ++ step :: more)) :
    (executeDocument subject host document).outcome = .error e :=
  (outcome_eq_error_iff h e).mpr (.inl ⟨before, step, more, mid, rfl, hbefore, hstep⟩)

/-- Only a document all of whose steps succeed is refused for lacking metadata. -/
theorem lacksMetadata_iff {document : Value} {steps : List Step} (h : Spells document steps) :
    (∃ problem about, (executeDocument subject host document).outcome =
      .error (.descriptor problem about) ∧ problem.code = .missingMetadata) ↔
      (∃ final, steps.foldlM perform (State.start subject host) = .ok final) ∧
        ∀ step ∈ steps, step.primitive ≠ .metadata := by
  constructor
  · rintro ⟨problem, about, houtcome, hcode⟩
    rcases (outcome_eq_error_iff h _).mp houtcome with ⟨_, step, _, mid, -, -, hstep⟩ | hlacks
    · exact (code_ne_of_perform hstep hcode).elim
    · exact ⟨hlacks.1, hlacks.2.1⟩
  · rintro ⟨hfinal, hlacks⟩
    exact ⟨.noMetadata, some subject, (outcome_eq_error_iff h _).mpr (.inr ⟨hfinal, hlacks, rfl⟩),
      rfl⟩

/-- The failure of a document. One that spells no steps is refused for its shape before anything is
run, unless a number that the message would show is too long. One that spells steps fails as the
first of its steps that fails, and within a step for arguments or results as the first of these;
what follows that step does not matter; and metadata are found lacking just when no step fails and
none declares them. -/
theorem executeDocument_precedence (subject : Subject) (host : String) (document : Value) :
    ((¬ ∃ steps, Spells document steps) →
      if (Shape.shown document).all Value.isWritable then
        ∃ problem : Problem, problem.errorClass = .malformed ∧
          problem.code = .invalidDescriptorStructure ∧
          executeDocument subject host document = Logged.fail (.descriptor problem (some subject))
      else executeDocument subject host document = Logged.fail (.fault .numberTooLong)) ∧
    ∀ steps, Spells document steps →
      (∀ e, (executeDocument subject host document).outcome = .error e ↔
        StopsWith perform (State.start subject host) steps e ∨
        (∃ final, steps.foldlM perform (State.start subject host) = .ok final) ∧
          (∀ step ∈ steps, step.primitive ≠ .metadata) ∧
            e = .descriptor .noMetadata (some subject)) ∧
      (∀ s arguments e, perform s (.input arguments) = .error e ↔
        StopsWith State.declareInput s arguments e) ∧
      (∀ s arguments e, perform s (.output arguments) = .error e ↔
        StopsWith State.declareOutput s arguments e) ∧
      (∀ before step rest mid e, steps = before ++ step :: rest →
        before.foldlM perform (State.start subject host) = .ok mid → perform mid step = .error e →
          ∀ more other, Spells other (before ++ step :: more) →
            (executeDocument subject host other).outcome = .error e) ∧
      ((∃ problem about, (executeDocument subject host document).outcome =
        .error (.descriptor problem about) ∧ problem.code = .missingMetadata) ↔
        (∃ final, steps.foldlM perform (State.start subject host) = .ok final) ∧
          ∀ step ∈ steps, step.primitive ≠ .metadata) := by
  refine ⟨fun hmisfit => ?_, fun steps hspells => ⟨outcome_eq_error_iff hspells,
    fun s arguments e => foldlM_eq_error_iff arguments s e,
    fun s arguments e => foldlM_eq_error_iff arguments s e, ?_, lacksMetadata_iff hspells⟩⟩
  · obtain ⟨problem, hclass, hcode, hrefused⟩ := executeDocument_of_not_spells subject hmisfit
    rw [hrefused host, misfitFailure]
    split
    · exact ⟨problem, hclass, hcode, rfl⟩
    · rfl
  · intro before step rest mid e _ hbefore hstep more other hother
    exact outcome_of_stops hbefore hstep hother

/-- A requirement that the host does not meet, followed by what is no step. -/
def lateMisfit : Value :=
  .list [(Step.requires [(.str hostRequirement, .str "2.0")]).spelling, .str "no step"]

/-- Two steps that fail. -/
def twiceFailing : List Step := [.usage "run it", .action [], .dataquery []]

theorem executeDocument_precedence_late :
    let subject : Subject := { kind := "agent", name := "echo", path := none }
    (∃ problem : Problem, problem.errorClass = .malformed ∧
      problem.code = .invalidDescriptorStructure ∧
      executeDocument subject "1.0" lateMisfit = Logged.fail (.descriptor problem (some subject))) ∧
    (executeDocument subject "1.0" (.list (twiceFailing.map Step.spelling))).outcome =
      .error (.descriptor .actionUnnamed (some subject)) := by
  intro subject
  have hmisfit : ¬ ∃ steps, Spells lateMisfit steps := by
    rintro ⟨steps, hsteps⟩
    have hnone : (Shape.check lateMisfit).toOption.isSome = false := by decide +kernel
    rw [(Shape.check_eq_ok_iff lateMisfit _).mpr ⟨steps, hsteps, rfl⟩] at hnone
    cases hnone
  have hwritable : (Shape.shown lateMisfit).all Value.isWritable = true := by decide +kernel
  have hspells : Spells (.list (twiceFailing.map Step.spelling)) twiceFailing :=
    .list twiceFailing (by simp [twiceFailing, Step.NamesSomething])
  refine ⟨?_, ?_⟩
  · have hrefused := (executeDocument_precedence subject "1.0" lateMisfit).1 hmisfit
    rwa [if_pos hwritable] at hrefused
  · obtain ⟨hfails, -⟩ := (executeDocument_precedence subject "1.0" _).2 twiceFailing hspells
    exact (hfails _).mpr (.inl ⟨[.usage "run it"], .action [], [.dataquery []], _, rfl, rfl, rfl⟩)

/-- A number that is too long to be shown hides that a document has not the shape of a descriptor. -/
theorem executeDocument_hides_misfit :
    let document : Value := .list [.int (16 ^ 3600)]
    (¬ ∃ steps, Spells document steps) ∧
      (executeDocument { kind := "agent", name := "echo", path := none } "2.0.0" document).outcome =
        .error (.fault .numberTooLong) := by
  intro document
  have hmisfit : ¬ ∃ steps, Spells document steps := by
    rintro ⟨steps, hsteps⟩
    have hcheck := (Shape.check_eq_ok_iff document _).mpr ⟨steps, hsteps, rfl⟩
    cases hcheck
  have hlong : (Shape.shown document).all Value.isWritable = false := by decide +kernel
  refine ⟨hmisfit, ?_⟩
  obtain ⟨problem, -, -, hrefused⟩ := executeDocument_of_not_spells
    { kind := "agent", name := "echo", path := none } hmisfit
  rw [hrefused "2.0.0", misfitFailure, hlong]
  rfl

end Execution

end PluginDescriptor
