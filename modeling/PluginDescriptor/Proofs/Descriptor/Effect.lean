import PluginDescriptor.Proofs.Descriptor.Grammar
import PluginDescriptor.Proofs.Descriptor.Spelling

/-!
# What a run of steps does

A step is admitted in a state or it fails, and one that is admitted has a fixed effect. This is said
once (`Execution.perform_eq_ok_iff`), and with it a run of steps succeeds exactly when each step is
admitted in the state that the steps before it reach. The state reached is a plain fold of effects,
so that what it holds can be told without asking whether anything failed.
-/

set_option autoImplicit false

namespace PluginDescriptor

/-- The entity with an argument declared. -/
def Entity.withInput (e : Entity) (argument : String × Entries) : Entity :=
  { e with inputs :=
      e.inputs.put (.str argument.1) (InputSpec.ofProperties (.str argument.1) argument.2) }

/-- The entity with a field of results declared. -/
def Entity.withOutput (e : Entity) (argument : String × Entries) : Entity :=
  { e with outputs :=
      e.outputs.put (.str argument.1) (OutputSpec.ofProperties (.str argument.1) argument.2) }

@[simp] theorem Entity.name_withInput (e : Entity) (argument : String × Entries) :
    (e.withInput argument).name = e.name := rfl

@[simp] theorem Entity.name_withOutput (e : Entity) (argument : String × Entries) :
    (e.withOutput argument).name = e.name := rfl

/-- The entity of a declaration, without arguments and results. -/
def Declaration.entity (e : Declaration) : Entity :=
  { name := e.name, kind := e.kind, description := e.description, display := e.display,
    inputs := [], outputs := [] }

namespace Execution

namespace State

/-- The state with the entity that was named last changed. -/
def updateCurrent (s : State) (f : Entity → Entity) : State :=
  match s.current with
  | some name => { s with draft := s.draft.updateEntity name f }
  | none => s

/-- The state after an entity is named. -/
def activate (s : State) : Option Declaration → State
  | some e =>
    { draft := s.draft.activate e.name e.kind e.description e.display, current := some e.name }
  | none => s

/-- The state after a step that is admitted. -/
def after (s : State) : Step → State
  | .metadata fields => { s with draft := { s.draft with metadata := some fields } }
  | .requires requirements =>
    { s with draft :=
        { s.draft with minimum := (Grammar.lastMinimum requirements).or s.draft.minimum } }
  | .usage text => { s with draft := { s.draft with usage := text } }
  | .action properties => s.activate (Step.action properties).declaration?
  | .dataquery properties => s.activate (Step.dataquery properties).declaration?
  | .input arguments => s.updateCurrent fun e => arguments.foldl Entity.withInput e
  | .output arguments => s.updateCurrent fun e => arguments.foldl Entity.withOutput e

/-- The step can be run in the state. -/
def Admits (s : State) : Step → Prop
  | .metadata fields => s.draft.metadata = none ∧ Grammar.IsMetadata fields
  | .requires requirements =>
    (∀ entry ∈ requirements, Grammar.IsRequirement entry) ∧
      Grammar.Meets s.draft.host ((Grammar.lastMinimum requirements).or s.draft.minimum)
  | .usage _ => True
  | .action properties => Grammar.IsAction properties
  | .dataquery properties => Grammar.IsQuery properties
  | .input arguments => ∀ argument ∈ arguments, s.current.isSome ∧ Grammar.IsInput argument.2
  | .output arguments => ∀ argument ∈ arguments, s.current.isSome ∧ Grammar.IsOutput argument.2

/-! ## Arguments and results -/

@[simp] theorem current_updateCurrent (s : State) (f : Entity → Entity) :
    (s.updateCurrent f).current = s.current := by
  rw [updateCurrent]
  split <;> rfl

theorem updateCurrent_id (s : State) : s.updateCurrent (fun e => e) = s := by
  rw [updateCurrent]
  split
  · simp [Draft.updateEntity]
  · rfl

/-- Changes of the entity named last add up, as long as its name stays. -/
theorem updateCurrent_updateCurrent (s : State) (f g : Entity → Entity)
    (hname : ∀ e, (f e).name = e.name) :
    (s.updateCurrent f).updateCurrent g = s.updateCurrent fun e => g (f e) := by
  obtain ⟨draft, current⟩ := s
  cases current with
  | none => rfl
  | some name =>
    simp only [updateCurrent, Draft.updateEntity, List.map_map, State.mk.injEq, and_true]
    congr 1
    refine List.map_congr_left fun e _ => ?_
    by_cases he : e.name = name <;> simp [he, hname]

/-- Declaring things of the entity named last one by one is one change of it. -/
theorem foldl_updateCurrent (declare : Entity → String × Entries → Entity)
    (hname : ∀ e argument, (declare e argument).name = e.name) (s : State)
    (arguments : Named Entries) :
    arguments.foldl (fun s argument => s.updateCurrent fun e => declare e argument) s =
      s.updateCurrent fun e => arguments.foldl declare e := by
  induction arguments generalizing s with
  | nil => exact (updateCurrent_id s).symm
  | cons argument rest ih =>
    rw [List.foldl_cons, ih, updateCurrent_updateCurrent s _ _ fun e => hname e argument]
    rfl

theorem declareInput_eq_ok_iff (s s' : State) (argument : String × Entries) :
    s.declareInput argument = .ok s' ↔
      (s.current.isSome ∧ Grammar.IsInput argument.2) ∧
        s' = s.updateCurrent fun e => e.withInput argument := by
  obtain ⟨draft, current⟩ := s
  cases current with
  | none =>
    simp [declareInput, Draft.declareInput_eq, Draft.activeEntity, Draft.fail, bind, Except.bind]
  | some name =>
    simp only [declareInput, Draft.declareInput_eq, Draft.activeEntity, bind_eq_ok_iff, Prod.exists,
      Draft.inputSpec_eq_ok_iff, Except.ok.injEq, exists_eq_left', Option.isSome_some, true_and]
    constructor
    · rintro ⟨_, _, ⟨_, ⟨hinput, rfl⟩, hdraft⟩, hend⟩
      cases hdraft
      cases hend
      exact ⟨hinput, rfl⟩
    · rintro ⟨hinput, rfl⟩
      exact ⟨_, _, ⟨_, ⟨hinput, rfl⟩, rfl⟩, rfl⟩

theorem declareOutput_eq_ok_iff (s s' : State) (argument : String × Entries) :
    s.declareOutput argument = .ok s' ↔
      (s.current.isSome ∧ Grammar.IsOutput argument.2) ∧
        s' = s.updateCurrent fun e => e.withOutput argument := by
  obtain ⟨draft, current⟩ := s
  cases current with
  | none =>
    simp [declareOutput, Draft.declareOutput_eq, Draft.activeEntity, Draft.fail, bind, Except.bind]
  | some name =>
    simp only [declareOutput, Draft.declareOutput_eq, Draft.activeEntity, bind_eq_ok_iff, Prod.exists,
      Draft.outputSpec_eq_ok_iff, Except.ok.injEq, exists_eq_left', Option.isSome_some, true_and]
    constructor
    · rintro ⟨_, _, ⟨_, ⟨houtput, rfl⟩, hdraft⟩, hend⟩
      cases hdraft
      cases hend
      exact ⟨houtput, rfl⟩
    · rintro ⟨houtput, rfl⟩
      exact ⟨_, _, ⟨_, ⟨houtput, rfl⟩, rfl⟩, rfl⟩

end State

/-- A row of declarations under one entity succeeds when there is an entity and each of them is
acceptable; their order has no say in it. -/
theorem foldlM_declare_eq_ok_iff {declare : State → String × Entries → Except Failure State}
    {Acceptable : Entries → Prop} {change : Entity → String × Entries → Entity}
    (hname : ∀ e argument, (change e argument).name = e.name)
    (hdeclare : ∀ s argument s', declare s argument = .ok s' ↔
      (s.current.isSome ∧ Acceptable argument.2) ∧ s' = s.updateCurrent fun e => change e argument)
    (s s' : State) (arguments : Named Entries) :
    arguments.foldlM declare s = .ok s' ↔
      (∀ argument ∈ arguments, s.current.isSome ∧ Acceptable argument.2) ∧
        s' = s.updateCurrent fun e => arguments.foldl change e := by
  rw [foldlM_eq_ok_iff hdeclare, State.foldl_updateCurrent change hname]
  have hcurrent : ∀ (before : Named Entries) (s : State),
      (before.foldl (fun s argument => s.updateCurrent fun e => change e argument) s).current =
        s.current := by
    intro before s
    rw [State.foldl_updateCurrent change hname, State.current_updateCurrent]
  simp only [hcurrent]
  refine and_congr_left' ⟨fun h argument hmem => ?_, fun h before argument rest hrow => ?_⟩
  · obtain ⟨before, rest, hrow⟩ := List.append_of_mem hmem
    exact h before argument rest hrow
  · exact h argument (hrow ▸ List.mem_append_right before List.mem_cons_self)

/-! ## Steps -/

/-- A step succeeds exactly when the state admits it, and then it has its effect. -/
theorem perform_eq_ok_iff (s : State) (step : Step) (s' : State) :
    perform s step = .ok s' ↔ s.Admits step ∧ s' = s.after step := by
  cases step with
  | metadata fields =>
    simp only [perform, bind_eq_ok_iff, Draft.declareMetadata_eq_ok_iff, State.Admits, State.after]
    constructor
    · rintro ⟨_, ⟨hnone, hfields, rfl⟩, hend⟩
      cases hend
      exact ⟨⟨hnone, hfields⟩, rfl⟩
    · rintro ⟨⟨hnone, hfields⟩, rfl⟩
      exact ⟨_, ⟨hnone, hfields, rfl⟩, rfl⟩
  | requires requirements =>
    have hperform : perform s (.requires requirements) = .ok s' ↔
        ∃ d, s.draft.declareRequirements requirements = (d, .ok ()) ∧ s' = { s with draft := d } := by
      rw [perform]
      cases s.draft.declareRequirements requirements with
      | mk d outcome => cases outcome <;> simp [Except.map, eq_comm]
    simp only [hperform, Draft.declareRequirements_eq_ok_iff, State.Admits, State.after]
    constructor
    · rintro ⟨d, ⟨hentries, hmeets, rfl⟩, rfl⟩
      exact ⟨⟨hentries, hmeets⟩, rfl⟩
    · rintro ⟨⟨hentries, hmeets⟩, rfl⟩
      exact ⟨_, ⟨hentries, hmeets, rfl⟩, rfl⟩
  | usage text =>
    simp only [perform, Except.ok.injEq, State.Admits, State.after, true_and]
    exact eq_comm
  | action properties =>
    simp only [perform, bind_eq_ok_iff, Prod.exists, Draft.declareAction_eq_ok_iff, State.Admits,
      State.after, Draft.isAction_iff]
    constructor
    · rintro ⟨d, name, ⟨e, he, hne, rfl, rfl⟩, hend⟩
      cases hend
      exact ⟨⟨e, he, hne⟩, by rw [he]; rfl⟩
    · rintro ⟨⟨e, he, hne⟩, rfl⟩
      exact ⟨_, _, ⟨e, he, hne, rfl, rfl⟩, by rw [he]; rfl⟩
  | dataquery properties =>
    simp only [perform, bind_eq_ok_iff, Prod.exists, Draft.declareQuery_eq_ok_iff, State.Admits,
      State.after, Draft.isQuery_iff]
    constructor
    · rintro ⟨d, name, ⟨e, he, rfl, rfl⟩, hend⟩
      cases hend
      exact ⟨⟨e, he⟩, by rw [he]; rfl⟩
    · rintro ⟨⟨e, he⟩, rfl⟩
      exact ⟨_, _, ⟨e, he, rfl, rfl⟩, by rw [he]; rfl⟩
  | input arguments =>
    exact foldlM_declare_eq_ok_iff Entity.name_withInput
      (fun s a s' => State.declareInput_eq_ok_iff s s' a) s s' arguments
  | output arguments =>
    exact foldlM_declare_eq_ok_iff Entity.name_withOutput
      (fun s a s' => State.declareOutput_eq_ok_iff s s' a) s s' arguments

/-! ## Runs -/

theorem outcome_runSteps (s : State) (steps : List Step) :
    (runSteps s steps).outcome = steps.foldlM perform s := by
  induction steps generalizing s with
  | nil => rfl
  | cons step rest ih =>
    rw [runSteps, Logged.outcome_bind, List.foldlM_cons]
    simp only [ih]
    rfl

/-- The state that steps reach from nothing. -/
def reached (subject : Subject) (host : String) (steps : List Step) : State :=
  steps.foldl State.after (State.start subject host)

/-- Each step is admitted in the state that the steps before it reach. -/
def AllAdmitted (subject : Subject) (host : String) (steps : List Step) : Prop :=
  ∀ before step rest, steps = before ++ step :: rest → (reached subject host before).Admits step

theorem build_eq_ok_iff (d : Draft) (r : Registry) :
    d.build = .ok r ↔ ∃ fields, d.metadata = some fields ∧
      r = { pluginName := d.subject.name, pluginKind := d.subject.kind, path := d.subject.path,
            metadata := Value.freezeEntries fields, minimum := d.minimum, entities := d.entities,
            usage := d.usage } := by
  rw [Draft.build]
  cases d.metadata with
  | none => simp [Draft.fail]
  | some fields =>
    simp only [Except.ok.injEq, Option.some.injEq, exists_eq_left']
    exact eq_comm

/-- The outcome of a document is that of the steps it spells. -/
theorem outcome_executeDocument {subject : Subject} {host : String} {document : Value}
    {steps : List Step} (h : Spells document steps) :
    (executeDocument subject host document).outcome =
      steps.foldlM perform (State.start subject host) >>= fun s => s.draft.build := by
  have hsteps := (stepsOf_eq_ok_iff subject document steps).mpr h
  rw [executeDocument, Logged.outcome_bind, Logged.outcome_of, hsteps, ok_bind_eq,
    Logged.outcome_bind, outcome_runSteps]
  rfl

/-- A document declares a registry exactly when it spells steps that are all admitted, and then the
registry is what the state reached holds. -/
theorem executeDocument_eq_ok_iff (subject : Subject) (host : String) (document : Value)
    (r : Registry) :
    (executeDocument subject host document).outcome = .ok r ↔
      ∃ steps, Spells document steps ∧ AllAdmitted subject host steps ∧
        (reached subject host steps).draft.build = .ok r := by
  have hrun : ∀ steps s', (runSteps (State.start subject host) steps).outcome = .ok s' ↔
      AllAdmitted subject host steps ∧ s' = reached subject host steps := by
    intro steps s'
    rw [outcome_runSteps, foldlM_eq_ok_iff perform_eq_ok_iff]
    rfl
  simp only [executeDocument, Logged.outcome_bind, Logged.outcome_of, bind_eq_ok_iff,
    stepsOf_eq_ok_iff, hrun]
  constructor
  · rintro ⟨steps, hsteps, _, ⟨hadmitted, rfl⟩, hbuild⟩
    exact ⟨steps, hsteps, hadmitted, hbuild⟩
  · rintro ⟨steps, hsteps, hadmitted, hbuild⟩
    exact ⟨steps, hsteps, _, ⟨hadmitted, rfl⟩, hbuild⟩

end Execution

end PluginDescriptor
