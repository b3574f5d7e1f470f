import PluginDescriptor.Proofs.Descriptor.Reached

/-!
# Which documents are accepted

A document declares a registry exactly when it spells steps that make a descriptor
(`Execution.accepts_iff`). What makes a descriptor is said of the list of steps as a whole, without
running it: there is one metadata step, each step holds what its primitive asks for, and arguments
and results come after an entity.
-/

set_option autoImplicit false

namespace PluginDescriptor

/-- The step names an entity. -/
def Step.NamesEntity : Step → Prop
  | action _ => True
  | dataquery _ => True
  | _ => False

/-- The step declares something under the entity named last. -/
def Step.NeedsEntity : Step → Prop
  | input _ => True
  | output _ => True
  | _ => False

namespace Grammar

/-- Steps that make a descriptor for a host. -/
structure IsDescriptor (host : String) (steps : List Step) : Prop where
  metadata : ∃ fields, steps.filterMap Step.metadata? = [fields] ∧ IsMetadata fields
  requires : ∀ requirements, .requires requirements ∈ steps → IsRequirements host requirements
  actions : ∀ properties, .action properties ∈ steps → IsAction properties
  queries : ∀ properties, .dataquery properties ∈ steps → IsQuery properties
  inputs : ∀ arguments, .input arguments ∈ steps → ∀ argument ∈ arguments, IsInput argument.2
  outputs : ∀ arguments, .output arguments ∈ steps → ∀ argument ∈ arguments, IsOutput argument.2
  placed : ∀ before step rest, steps = before ++ step :: rest → step.NeedsEntity →
    ∃ earlier ∈ before, earlier.NamesEntity

/-- A host that meets the requirements of each step meets those of all steps together. -/
theorem meets_of_each {host : String} {steps : List Step}
    (h : ∀ step ∈ steps, Meets host (lastMinimum step.requirements)) :
    Meets host (lastMinimum (steps.flatMap Step.requirements)) := by
  induction steps using List.reverseRecOn with
  | nil =>
    intro version hversion
    cases hversion
  | append_singleton steps step ih =>
    have hearlier := ih fun s hs => h s (List.mem_append_left _ hs)
    have hlast := h step (List.mem_append_right _ List.mem_cons_self)
    rw [List.flatMap_append, List.flatMap_singleton, lastMinimum_append]
    cases hminimum : lastMinimum step.requirements with
    | none => exact hearlier
    | some minimum => rwa [hminimum] at hlast

/-- The host of a descriptor meets what any of its steps requires. -/
theorem IsDescriptor.meets {host : String} {steps : List Step} (h : IsDescriptor host steps)
    {step : Step} (hmem : step ∈ steps) : Meets host (lastMinimum step.requirements) := by
  cases step with
  | requires requirements => exact (h.requires requirements hmem).met
  | _ =>
    intro version hversion
    cases hversion

/-- What all steps of a descriptor require together is acceptable, and is met. -/
theorem IsDescriptor.isRequirements {host : String} {steps : List Step}
    (h : IsDescriptor host steps) : IsRequirements host (steps.flatMap Step.requirements) := by
  refine ⟨fun entry hentry => ?_, meets_of_each fun step hmem => h.meets hmem⟩
  obtain ⟨step, hmem, hstep⟩ := List.mem_flatMap.mp hentry
  cases step with
  | requires requirements => exact (h.requires requirements hmem).entries entry hstep
  | _ => cases hstep

/-- Among steps that make a descriptor, one that names an entity gives it a name. -/
theorem IsDescriptor.entityName?_isSome {host : String} {steps : List Step}
    (h : IsDescriptor host steps) {step : Step} (hmem : step ∈ steps) (hnames : step.NamesEntity) :
    step.entityName?.isSome := by
  cases step with
  | action properties =>
    obtain ⟨e, he, -⟩ := (Draft.isAction_iff properties).mp (h.actions properties hmem)
    rw [Step.entityName?, he]
    rfl
  | dataquery properties =>
    obtain ⟨e, he⟩ := (Draft.isQuery_iff properties).mp (h.queries properties hmem)
    rw [Step.entityName?, he]
    rfl
  | _ => exact hnames.elim

end Grammar

theorem Step.namesEntity_of_isSome {step : Step} (h : step.entityName?.isSome) :
    step.NamesEntity := by
  cases step with
  | action properties => trivial
  | dataquery properties => trivial
  | _ => cases h

theorem lastEntity?_isSome_iff (steps : List Step) :
    (lastEntity? steps).isSome ↔ ∃ step ∈ steps, step.entityName?.isSome := by
  unfold lastEntity?
  rw [List.getLast?_isSome, ne_eq, List.filterMap_eq_nil_iff]
  simp [Option.isSome_iff_ne_none]

namespace Execution

open Grammar

variable {subject : Subject} {host : String} {steps : List Step}

/-- A run that ends with a step is admitted when the steps before it are, and the step after them. -/
theorem allAdmitted_concat_iff (step : Step) :
    AllAdmitted subject host (steps ++ [step]) ↔
      AllAdmitted subject host steps ∧ (reached subject host steps).Admits step := by
  constructor
  · intro h
    refine ⟨fun before earlier rest hsplit => ?_, h steps step [] rfl⟩
    exact h before earlier (rest ++ [step]) (by rw [hsplit, List.append_assoc, List.cons_append])
  · rintro ⟨hearlier, hlast⟩ before admitted rest hsplit
    rcases List.eq_nil_or_concat' rest with rfl | ⟨rest, last, rfl⟩
    · obtain ⟨rfl, hstep⟩ := List.append_inj' hsplit rfl
      cases hstep
      exact hlast
    · rw [← List.cons_append, ← List.append_assoc] at hsplit
      exact hearlier before admitted rest (List.append_inj' hsplit rfl).1

/-- Metadata are declared once at most, and what is declared is what the state holds. -/
theorem metadata_of_allAdmitted (h : AllAdmitted subject host steps) :
    steps.filterMap Step.metadata? = (reached subject host steps).draft.metadata.toList := by
  induction steps using List.reverseRecOn with
  | nil => rfl
  | append_singleton steps step ih =>
    obtain ⟨hearlier, hlast⟩ := (allAdmitted_concat_iff step).mp h
    rw [List.filterMap_append, ih hearlier, reached_concat, State.after_eq]
    cases step with
    | metadata fields =>
      have hnone : (reached subject host steps).draft.metadata = none := hlast.1
      simp [Step.metadata?, hnone]
    | _ => simp [Step.metadata?]

/-- Each step of a run that is admitted is admitted somewhere in it. -/
theorem AllAdmitted.admits_of_mem (h : AllAdmitted subject host steps) {step : Step}
    (hmem : step ∈ steps) :
    ∃ before, (∀ earlier ∈ before, earlier ∈ steps) ∧ (reached subject host before).Admits step := by
  obtain ⟨before, rest, hsplit⟩ := List.append_of_mem hmem
  refine ⟨before, fun earlier hearlier => ?_, h before step rest hsplit⟩
  rw [hsplit]
  exact List.mem_append_left _ hearlier

/-- Steps name an entity before one that declares something under it is admitted. -/
theorem AllAdmitted.lastEntity?_isSome (hnames : ∀ step ∈ steps, step.NamesSomething)
    (h : AllAdmitted subject host steps) {before rest : List Step} {step : Step}
    (hsplit : steps = before ++ step :: rest) (hneeds : step.NeedsEntity) :
    (lastEntity? before).isSome := by
  have hadmits := h before step rest hsplit
  have hnames := hnames step (hsplit ▸ List.mem_append_cons_self)
  rw [← current_reached subject host]
  cases step with
  | input arguments =>
    obtain ⟨argument, hargument⟩ := List.exists_mem_of_ne_nil arguments hnames
    exact (hadmits argument hargument).1
  | output arguments =>
    obtain ⟨argument, hargument⟩ := List.exists_mem_of_ne_nil arguments hnames
    exact (hadmits argument hargument).1
  | _ => exact hneeds.elim

/-- Steps that are all admitted and end with metadata make a descriptor. -/
theorem isDescriptor_of_allAdmitted (hnames : ∀ step ∈ steps, step.NamesSomething)
    (h : AllAdmitted subject host steps) {fields : Entries}
    (hmetadata : (reached subject host steps).draft.metadata = some fields) :
    IsDescriptor host steps where
  metadata := by
    have hone := metadata_of_allAdmitted h
    rw [hmetadata, Option.toList_some] at hone
    have hmem : Step.metadata fields ∈ steps := by
      obtain ⟨step, hstep, hdeclares⟩ :=
        List.mem_filterMap.mp (hone ▸ List.mem_cons_self : fields ∈ steps.filterMap Step.metadata?)
      cases step with
      | metadata _ =>
        cases hdeclares
        exact hstep
      | _ => cases hdeclares
    obtain ⟨before, -, -, hfields⟩ := h.admits_of_mem hmem
    exact ⟨fields, hone, hfields⟩
  requires requirements hmem := by
    obtain ⟨before, -, hentries, hmeets⟩ := h.admits_of_mem hmem
    rw [host_reached] at hmeets
    refine ⟨hentries, fun version hversion => hmeets version ?_⟩
    rw [hversion]
    rfl
  actions properties hmem := by
    obtain ⟨before, -, haction⟩ := h.admits_of_mem hmem
    exact haction
  queries properties hmem := by
    obtain ⟨before, -, hquery⟩ := h.admits_of_mem hmem
    exact hquery
  inputs arguments hmem argument hargument := by
    obtain ⟨before, -, hinputs⟩ := h.admits_of_mem hmem
    exact (hinputs argument hargument).2
  outputs arguments hmem argument hargument := by
    obtain ⟨before, -, houtputs⟩ := h.admits_of_mem hmem
    exact (houtputs argument hargument).2
  placed before step rest hsplit hneeds := by
    have hcurrent := h.lastEntity?_isSome hnames hsplit hneeds
    rw [PluginDescriptor.lastEntity?_isSome_iff] at hcurrent
    obtain ⟨earlier, hmem, hname⟩ := hcurrent
    exact ⟨earlier, hmem, Step.namesEntity_of_isSome hname⟩

/-- All steps of a descriptor are admitted. -/
theorem allAdmitted_of_isDescriptor (h : IsDescriptor host steps) :
    AllAdmitted subject host steps := by
  intro before step rest hsplit
  have hbefore : ∀ earlier ∈ before, earlier ∈ steps := by
    intro earlier hearlier
    rw [hsplit]
    exact List.mem_append_left _ hearlier
  have hmem : step ∈ steps := by
    rw [hsplit]
    exact List.mem_append_cons_self
  have hcurrent : step.NeedsEntity → (reached subject host before).current.isSome := by
    intro hneeds
    obtain ⟨earlier, hearlier, hnames⟩ := h.placed before step rest hsplit hneeds
    rw [current_reached, lastEntity?_isSome_iff]
    exact ⟨earlier, hearlier, h.entityName?_isSome (hbefore earlier hearlier) hnames⟩
  cases step with
  | metadata fields =>
    obtain ⟨only, hone, honly⟩ := h.metadata
    have hdeclares : (Step.metadata fields).metadata? = some fields := rfl
    rw [hsplit, List.filterMap_append, List.filterMap_cons_some hdeclares,
      List.append_eq_singleton_iff] at hone
    rcases hone with ⟨hnone, hrest⟩ | ⟨-, hrest⟩
    · obtain ⟨rfl, -⟩ := List.cons.inj hrest
      refine ⟨?_, honly⟩
      rw [metadata_reached, hnone]
      rfl
    · cases hrest
  | requires requirements =>
    refine ⟨(h.requires requirements hmem).entries, ?_⟩
    rw [host_reached, minimum_reached]
    cases hminimum : lastMinimum requirements with
    | none => exact meets_of_each fun s hs => h.meets (hbefore s hs)
    | some minimum =>
      have hmeets := (h.requires requirements hmem).met
      rwa [hminimum] at hmeets
  | usage text => trivial
  | action properties => exact h.actions properties hmem
  | dataquery properties => exact h.queries properties hmem
  | input arguments =>
    exact fun argument hargument => ⟨hcurrent trivial, h.inputs arguments hmem argument hargument⟩
  | output arguments =>
    exact fun argument hargument => ⟨hcurrent trivial, h.outputs arguments hmem argument hargument⟩

/-- A document is accepted exactly when it spells steps that make a descriptor for the host. -/
theorem accepts_iff (subject : Subject) (host : String) (document : Value) :
    (∃ r, (executeDocument subject host document).outcome = .ok r) ↔
      ∃ steps, Spells document steps ∧ IsDescriptor host steps := by
  simp only [executeDocument_eq_ok_iff, build_eq_ok_iff]
  constructor
  · rintro ⟨r, steps, hspells, hadmitted, fields, hmetadata, -⟩
    exact ⟨steps, hspells, isDescriptor_of_allAdmitted hspells.namesSomething hadmitted hmetadata⟩
  · rintro ⟨steps, hspells, h⟩
    obtain ⟨fields, hone, -⟩ := h.metadata
    have hmetadata : (reached subject host steps).draft.metadata = some fields := by
      rw [metadata_reached, hone]
      rfl
    exact ⟨_, steps, hspells, allAdmitted_of_isDescriptor h, fields, hmetadata, rfl⟩

end Execution

end PluginDescriptor
