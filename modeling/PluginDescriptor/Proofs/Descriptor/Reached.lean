import Mathlib.Data.List.Basic
import Mathlib.Data.List.Induction
import PluginDescriptor.Proofs.Descriptor.Effect

/-!
# What the state reached holds

A run of steps leaves behind a metadata mapping, a least version, a usage text, the entity named last
and a row of entities. Each of these can be read off the steps without running them, and each is found
by induction from the end of the run: what one step adds (`State.after_eq`), and then what all steps
have added (`entityNames_reached`, `describes_of_mem_reached` and so on).
-/

set_option autoImplicit false

namespace PluginDescriptor

/-! ## Reading steps -/

namespace Step

/-- The metadata that a step declares. -/
def metadata? : Step → Option Entries
  | metadata fields => some fields
  | _ => none

/-- The requirements that a step declares. -/
def requirements : Step → Entries
  | requires requirements => requirements
  | _ => []

/-- The usage that a step declares. -/
def usage? : Step → Option String
  | usage text => some text
  | _ => none

/-- The arguments that a step declares. -/
def inputs : Step → Named Entries
  | input arguments => arguments
  | _ => []

/-- The fields of results that a step declares. -/
def outputs : Step → Named Entries
  | output arguments => arguments
  | _ => []

/-- The name of the entity that a step names. -/
def entityName? (step : Step) : Option String := step.declaration?.map (·.name)

/-- An entity with what a step declares under it. -/
def addedTo (step : Step) (e : Entity) : Entity :=
  step.outputs.foldl Entity.withOutput (step.inputs.foldl Entity.withInput e)

/-- The entity that a step adds to those that have these names: none if it names one of them. -/
def newEntities (names : List String) (step : Step) : List Entity :=
  match step.declaration? with
  | some d => if d.name ∈ names then [] else [d.entity]
  | none => []

end Step

/-- The name of the entity that steps name last. -/
def lastEntity? (steps : List Step) : Option String := (steps.filterMap Step.entityName?).getLast?

/-- What steps declare under a name: all that belongs to a step before which this name is the last
one. -/
def owned (part : Step → Named Entries) (name : String) (steps : List Step) : Named Entries :=
  steps.zipIdx.flatMap fun (step, i) =>
    if lastEntity? (steps.take i) = some name then part step else []

/-- The first step that names an entity, and what it says about it. -/
def FirstDeclares (steps : List Step) (name : String) (d : Declaration) : Prop :=
  ∃ before step rest, steps = before ++ step :: rest ∧ step.declaration? = some d ∧ d.name = name ∧
    ∀ earlier ∈ before, earlier.entityName? ≠ some name

/-- Arguments as they are declared. -/
def inputSpecs (arguments : Named Entries) : Named InputSpec :=
  arguments.map fun (name, properties) => (name, InputSpec.ofProperties (.str name) properties)

/-- Fields of results as they are declared. -/
def outputSpecs (arguments : Named Entries) : Named OutputSpec :=
  arguments.map fun (name, properties) => (name, OutputSpec.ofProperties (.str name) properties)

/-- An entity is what steps declare under its name: kind, description and display are those of the
first step that names it, and its arguments and results are all those that are declared while it is
the entity named last, each name once where it is first used, with its last properties. -/
structure Describes (steps : List Step) (e : Entity) : Prop where
  origin : ∃ d, FirstDeclares steps e.name d ∧ e.kind = d.kind ∧ e.description = d.description ∧
    e.display = d.display
  inputs : e.inputs = .ofNamed (inputSpecs (owned Step.inputs e.name steps)).gathered
  outputs : e.outputs = .ofNamed (outputSpecs (owned Step.outputs e.name steps)).gathered

@[simp] theorem lastEntity?_concat (steps : List Step) (step : Step) :
    lastEntity? (steps ++ [step]) = step.entityName?.or (lastEntity? steps) := by
  rw [lastEntity?, List.filterMap_append, List.getLast?_append]
  cases h : step.entityName? <;> simp [lastEntity?, h]

theorem mem_of_lastEntity? {steps : List Step} {name : String} (h : lastEntity? steps = some name) :
    name ∈ steps.filterMap Step.entityName? :=
  List.mem_of_getLast? h

/-- What one more step adds to what is declared under a name. -/
theorem owned_concat (part : Step → Named Entries) (name : String) (steps : List Step)
    (step : Step) :
    owned part name (steps ++ [step]) =
      owned part name steps ++ if lastEntity? steps = some name then part step else [] := by
  have hbefore : ∀ s i, (s, i) ∈ steps.zipIdx → (steps ++ [step]).take i = steps.take i := by
    intro s i hmem
    exact List.take_append_of_le_length (Nat.le_of_lt (List.snd_lt_of_mem_zipIdx hmem))
  rw [owned, List.zipIdx_append, List.flatMap_append]
  -- the steps before keep their places, so that what is named last before them stays the same
  congr 1
  · refine List.flatMap_congr ?_
    rintro ⟨s, i⟩ hmem
    simp only [hbefore s i hmem]
  · simp

/-- Nothing is declared under a name that no step names. -/
theorem owned_eq_nil (part : Step → Named Entries) {name : String} {steps : List Step}
    (h : name ∉ steps.filterMap Step.entityName?) : owned part name steps = [] := by
  rw [owned, List.flatMap_eq_nil_iff]
  rintro ⟨step, i⟩ -
  refine if_neg fun hlast => h ?_
  have hmem := mem_of_lastEntity? hlast
  exact (List.take_sublist i steps).filterMap Step.entityName? |>.subset hmem

/-- What is declared under a name is declared by one of the steps. -/
theorem exists_step_of_mem_owned {part : Step → Named Entries} {name : String} {steps : List Step}
    {argument : String × Entries} (h : argument ∈ owned part name steps) :
    ∃ step ∈ steps, argument ∈ part step := by
  obtain ⟨⟨step, i⟩, hmem, hargument⟩ := List.mem_flatMap.mp h
  refine ⟨step, List.fst_mem_of_mem_zipIdx hmem, ?_⟩
  simp only at hargument
  split at hargument
  · exact hargument
  · cases hargument

theorem FirstDeclares.append {steps : List Step} {name : String} {d : Declaration}
    (h : FirstDeclares steps name d) (more : List Step) : FirstDeclares (steps ++ more) name d := by
  obtain ⟨before, step, rest, rfl, hd, hname, hfirst⟩ := h
  exact ⟨before, step, rest ++ more, by simp, hd, hname, hfirst⟩

/-! ## What a step adds to an entity -/

theorem foldl_withInput (arguments : Named Entries) (e : Entity) (declared : Named InputSpec)
    (h : e.inputs = .ofNamed (Named.ofList declared)) :
    arguments.foldl Entity.withInput e =
      { e with inputs := .ofNamed (Named.ofList (declared ++ inputSpecs arguments)) } := by
  induction arguments generalizing e declared with
  | nil => simp [inputSpecs, ← h]
  | cons argument rest ih =>
    obtain ⟨name, properties⟩ := argument
    have hput : (e.withInput (name, properties)).inputs = .ofNamed
        (Named.ofList (declared ++ [(name, InputSpec.ofProperties (.str name) properties)])) := by
      rw [Entity.withInput, h, Fields.put_ofNamed, Named.ofList_concat]
    rw [List.foldl_cons, ih _ _ hput, List.append_assoc]
    rfl

theorem foldl_withOutput (arguments : Named Entries) (e : Entity) (declared : Named OutputSpec)
    (h : e.outputs = .ofNamed (Named.ofList declared)) :
    arguments.foldl Entity.withOutput e =
      { e with outputs := .ofNamed (Named.ofList (declared ++ outputSpecs arguments)) } := by
  induction arguments generalizing e declared with
  | nil => simp [outputSpecs, ← h]
  | cons argument rest ih =>
    obtain ⟨name, properties⟩ := argument
    have hput : (e.withOutput (name, properties)).outputs = .ofNamed
        (Named.ofList (declared ++ [(name, OutputSpec.ofProperties (.str name) properties)])) := by
      rw [Entity.withOutput, h, Fields.put_ofNamed, Named.ofList_concat]
    rw [List.foldl_cons, ih _ _ hput, List.append_assoc]
    rfl

/-- A step adds its arguments and results to an entity, and changes nothing else of it. -/
theorem Step.addedTo_eq (step : Step) (e : Entity) {inputs : Named InputSpec}
    {outputs : Named OutputSpec} (hinputs : e.inputs = .ofNamed (Named.ofList inputs))
    (houtputs : e.outputs = .ofNamed (Named.ofList outputs)) :
    step.addedTo e =
      { e with
        inputs := .ofNamed (Named.ofList (inputs ++ inputSpecs step.inputs))
        outputs := .ofNamed (Named.ofList (outputs ++ outputSpecs step.outputs)) } := by
  rw [addedTo, foldl_withInput _ _ _ hinputs]
  exact foldl_withOutput _ _ _ houtputs

/-- Declaring things of an entity keeps its name. -/
theorem name_foldl {declare : Entity → String × Entries → Entity}
    (hname : ∀ e argument, (declare e argument).name = e.name) (arguments : Named Entries)
    (e : Entity) : (arguments.foldl declare e).name = e.name := by
  induction arguments generalizing e with
  | nil => rfl
  | cons argument rest ih => rw [List.foldl_cons, ih, hname]

theorem Step.name_addedTo (step : Step) (e : Entity) : (step.addedTo e).name = e.name := by
  unfold addedTo
  rw [name_foldl Entity.name_withOutput, name_foldl Entity.name_withInput]

theorem Step.newEntities_eq_nil {step : Step} (names : List String) (h : step.declaration? = none) :
    step.newEntities names = [] := by
  rw [newEntities, h]

theorem Step.mem_newEntities_iff {step : Step} {names : List String} {e : Entity} :
    e ∈ step.newEntities names ↔
      ∃ d, step.declaration? = some d ∧ d.name ∉ names ∧ e = d.entity := by
  rw [newEntities]
  cases step.declaration? with
  | none => simp
  | some d => by_cases h : d.name ∈ names <;> simp [h]

/-- An entity that a step changes is described by all steps before it and the step. -/
theorem Describes.addedTo {steps : List Step} {e : Entity} (h : Describes steps e) (step : Step)
    (hlast : lastEntity? steps = some e.name) : Describes (steps ++ [step]) (step.addedTo e) := by
  obtain ⟨⟨d, hfirst, hkind, hdescription, hdisplay⟩, hinputs, houtputs⟩ := h
  rw [← Named.ofList_eq_gathered] at hinputs houtputs
  rw [step.addedTo_eq e hinputs houtputs]
  refine ⟨⟨d, hfirst.append [step], hkind, hdescription, hdisplay⟩, ?_, ?_⟩
  · simp only [owned_concat, hlast, if_true, inputSpecs, List.map_append, Named.ofList_eq_gathered]
  · simp only [owned_concat, hlast, if_true, outputSpecs, List.map_append, Named.ofList_eq_gathered]

/-- An entity that is not the one named last stays described when a step follows. -/
theorem Describes.concat {steps : List Step} {e : Entity} (h : Describes steps e) (step : Step)
    (hlast : lastEntity? steps ≠ some e.name) : Describes (steps ++ [step]) e := by
  obtain ⟨⟨d, hfirst, hsame⟩, hinputs, houtputs⟩ := h
  refine ⟨⟨d, hfirst.append [step], hsame⟩, ?_, ?_⟩
  · rw [owned_concat, if_neg hlast, List.append_nil, hinputs]
  · rw [owned_concat, if_neg hlast, List.append_nil, houtputs]

/-- An entity that no step has named before is described by the step that names it. -/
theorem describes_entity {steps : List Step} {step : Step} {d : Declaration}
    (hd : step.declaration? = some d) (hnew : d.name ∉ steps.filterMap Step.entityName?) :
    Describes (steps ++ [step]) d.entity := by
  have hlast : lastEntity? steps ≠ some d.name := fun h => hnew (mem_of_lastEntity? h)
  have howned : ∀ part, owned part d.name (steps ++ [step]) = [] := by
    intro part
    rw [owned_concat, owned_eq_nil part hnew, if_neg hlast, List.append_nil]
  have hfirst : ∀ earlier ∈ steps, earlier.entityName? ≠ some d.name :=
    fun earlier hmem hname => hnew (List.mem_filterMap.mpr ⟨earlier, hmem, hname⟩)
  refine ⟨⟨d, ⟨steps, step, [], rfl, hd, rfl, hfirst⟩, rfl, rfl, rfl⟩, ?_, ?_⟩
  · rw [Declaration.entity, howned]
    rfl
  · rw [Declaration.entity, howned]
    rfl

/-! ## What a step adds to a state -/

namespace Execution

namespace State

/-- The entities with what a step adds to the one named last, and with the one that it adds. -/
def entitiesAfter (s : State) (step : Step) : List Entity :=
  (s.draft.entities.map fun e => if s.current = some e.name then step.addedTo e else e) ++
    step.newEntities (s.draft.entities.map (·.name))

theorem names_entitiesAfter (s : State) (step : Step) :
    (s.entitiesAfter step).map (·.name) = s.draft.entities.map (·.name) ++
      step.entityName?.toList.filter fun name => name ∉ s.draft.entities.map (·.name) := by
  have hkept : (s.draft.entities.map fun e =>
      if s.current = some e.name then step.addedTo e else e).map (·.name) =
        s.draft.entities.map (·.name) := by
    rw [List.map_map]
    refine List.map_congr_left fun e _ => ?_
    by_cases h : s.current = some e.name <;> simp [h, Step.name_addedTo]
  rw [entitiesAfter, List.map_append, hkept, Step.newEntities, Step.entityName?]
  generalize s.draft.entities.map (·.name) = names
  cases step.declaration? with
  | none => rfl
  | some d => by_cases h : d.name ∈ names <;> simp [h, Declaration.entity]

theorem activate_eq (s : State) (d : Declaration) :
    s.activate (some d) =
      { draft := { s.draft with entities := s.draft.entities ++
          if d.name ∈ s.draft.entities.map (·.name) then [] else [d.entity] }
        current := some d.name } := by
  have hentity : (s.draft.entity? d.name).isSome ↔ d.name ∈ s.draft.entities.map (·.name) := by
    simp [Draft.entity?]
  rw [activate, Draft.activate]
  simp only [hentity]
  split
  · simp
  · rfl

theorem updateCurrent_eq (s : State) (f : Entity → Entity) :
    s.updateCurrent f = { s with
      draft := { s.draft with
        entities := s.draft.entities.map fun e => if s.current = some e.name then f e else e } } := by
  obtain ⟨draft, current⟩ := s
  cases current with
  | none => simp [updateCurrent]
  | some name =>
    have hname : ∀ e : Entity, some name = some e.name ↔ e.name = name := fun e => by
      rw [Option.some.injEq, eq_comm]
    simp only [updateCurrent, Draft.updateEntity, hname]

/-- All that a step does: it puts what it declares before what was declared, adds arguments and
results to the entity named last, and adds an entity when it names a new one. -/
theorem after_eq (s : State) (step : Step) :
    s.after step =
      { draft :=
          { subject := s.draft.subject
            host := s.draft.host
            metadata := step.metadata?.or s.draft.metadata
            minimum := (Grammar.lastMinimum step.requirements).or s.draft.minimum
            entities := s.entitiesAfter step
            usage := step.usage?.getD s.draft.usage }
        current := step.entityName?.or s.current } := by
  have hkeep : step.inputs = [] → step.outputs = [] →
      s.entitiesAfter step =
        s.draft.entities ++ step.newEntities (s.draft.entities.map (·.name)) := by
    intro hinputs houtputs
    simp [entitiesAfter, Step.addedTo, hinputs, houtputs]
  have hactivate : step.inputs = [] → step.outputs = [] → s.activate step.declaration? =
      { draft := { s.draft with entities := s.entitiesAfter step }
        current := step.entityName?.or s.current } := by
    intro hinputs houtputs
    rw [hkeep hinputs houtputs, Step.newEntities, Step.entityName?]
    cases step.declaration? with
    | none => simp [activate]
    | some d => exact activate_eq s d
  cases step with
  | metadata fields =>
    rw [hkeep rfl rfl, Step.newEntities_eq_nil _ rfl, List.append_nil]
    rfl
  | requires requirements =>
    rw [hkeep rfl rfl, Step.newEntities_eq_nil _ rfl, List.append_nil]
    rfl
  | usage text =>
    rw [hkeep rfl rfl, Step.newEntities_eq_nil _ rfl, List.append_nil]
    rfl
  | action properties => exact hactivate rfl rfl
  | dataquery properties => exact hactivate rfl rfl
  | input arguments =>
    rw [after, updateCurrent_eq, entitiesAfter, Step.newEntities_eq_nil _ rfl, List.append_nil]
    rfl
  | output arguments =>
    rw [after, updateCurrent_eq, entitiesAfter, Step.newEntities_eq_nil _ rfl, List.append_nil]
    rfl

end State

/-! ## What all steps add -/

variable (subject : Subject) (host : String) (steps : List Step)

theorem reached_concat (step : Step) :
    reached subject host (steps ++ [step]) = (reached subject host steps).after step := by
  rw [reached, List.foldl_append]
  rfl

theorem subject_reached : (reached subject host steps).draft.subject = subject := by
  induction steps using List.reverseRecOn with
  | nil => rfl
  | append_singleton steps step ih => rw [reached_concat, State.after_eq, ih]

theorem host_reached : (reached subject host steps).draft.host = host := by
  induction steps using List.reverseRecOn with
  | nil => rfl
  | append_singleton steps step ih => rw [reached_concat, State.after_eq, ih]

theorem metadata_reached :
    (reached subject host steps).draft.metadata = (steps.filterMap Step.metadata?).getLast? := by
  induction steps using List.reverseRecOn with
  | nil => rfl
  | append_singleton steps step ih =>
    rw [reached_concat, State.after_eq, ih, List.filterMap_append, List.getLast?_append]
    cases h : step.metadata? <;> simp [h]

theorem minimum_reached :
    (reached subject host steps).draft.minimum =
      Grammar.lastMinimum (steps.flatMap Step.requirements) := by
  induction steps using List.reverseRecOn with
  | nil => rfl
  | append_singleton steps step ih =>
    rw [reached_concat, State.after_eq, ih, List.flatMap_append, List.flatMap_singleton,
      Grammar.lastMinimum_append]

theorem usage_reached :
    (reached subject host steps).draft.usage = (steps.filterMap Step.usage?).getLast?.getD "" := by
  induction steps using List.reverseRecOn with
  | nil => rfl
  | append_singleton steps step ih =>
    rw [reached_concat, State.after_eq, ih, List.filterMap_append, List.getLast?_append]
    cases h : step.usage? <;> simp [h]

theorem current_reached : (reached subject host steps).current = lastEntity? steps := by
  induction steps using List.reverseRecOn with
  | nil => rfl
  | append_singleton steps step ih =>
    rw [reached_concat, State.after_eq, ih, lastEntity?_concat]

/-- All of the draft but its entities, at once. -/
theorem draft_reached :
    (reached subject host steps).draft =
      { subject, host
        metadata := (steps.filterMap Step.metadata?).getLast?
        minimum := Grammar.lastMinimum (steps.flatMap Step.requirements)
        entities := (reached subject host steps).draft.entities
        usage := (steps.filterMap Step.usage?).getLast?.getD "" } := by
  rw [← metadata_reached subject host, ← minimum_reached subject host,
    ← usage_reached subject host]
  have hsubject := subject_reached subject host steps
  have hhost := host_reached subject host steps
  generalize (reached subject host steps).draft = d at hsubject hhost ⊢
  subst hsubject hhost
  rfl

/-- The entities are those that are named, each once, in the order in which they are first named. -/
theorem entityNames_reached :
    (reached subject host steps).draft.entities.map (·.name) =
      (steps.filterMap Step.entityName?).eraseDups := by
  induction steps using List.reverseRecOn with
  | nil => rfl
  | append_singleton steps step ih =>
    rw [reached_concat, State.after_eq]
    simp only [State.names_entitiesAfter, ih, List.mem_eraseDups, List.filterMap_append]
    generalize steps.filterMap Step.entityName? = names
    cases hname : step.entityName? with
    | none => simp [hname]
    | some name =>
      rw [List.filterMap_cons_some hname, List.filterMap_nil, eraseDups_concat]
      by_cases hmem : name ∈ names <;> simp [hmem]

theorem nodup_entityNames_reached :
    ((reached subject host steps).draft.entities.map (·.name)).Nodup := by
  rw [entityNames_reached]
  exact nodup_eraseDups _

/-- Each entity of the state reached is what the steps declare under its name. -/
theorem describes_of_mem_reached (e : Entity) (h : e ∈ (reached subject host steps).draft.entities) :
    Describes steps e := by
  induction steps using List.reverseRecOn generalizing e with
  | nil => cases h
  | append_singleton steps step ih =>
    rw [reached_concat, State.after_eq] at h
    -- the entity was there and may have been added to, or the step has just named it
    rcases List.mem_append.mp h with hkept | hnew
    · obtain ⟨e, hmem, rfl⟩ := List.mem_map.mp hkept
      rw [current_reached]
      by_cases hlast : lastEntity? steps = some e.name
      · rw [if_pos hlast]
        exact (ih e hmem).addedTo step hlast
      · rw [if_neg hlast]
        exact (ih e hmem).concat step hlast
    · rw [entityNames_reached] at hnew
      obtain ⟨d, hd, hfresh, rfl⟩ := Step.mem_newEntities_iff.mp hnew
      exact describes_entity hd fun hmem => hfresh (List.mem_eraseDups.mpr hmem)

end Execution

end PluginDescriptor
