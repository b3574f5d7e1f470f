import PluginDescriptor.Proofs.Descriptor.Meaning

/-!
# Steps that change places

What a document declares depends on the order of its steps only where steps have to do with each
other: requirements among themselves, usages among themselves, and what names an entity with what is
declared under it. Arguments and results of an entity have nothing to do with each other. Steps that
are put in another order that keeps these declare the same registry, and where the one order is
accepted so is the other: `Execution.executeDocument_reordered`.
-/

set_option autoImplicit false

namespace PluginDescriptor

/-- The steps of some primitives, in order. -/
def stepsAmong (primitives : List Primitive) (steps : List Step) : List Step :=
  steps.filter fun step => decide (step.primitive ∈ primitives)

/-- The primitives whose steps have to do with each other: requirements, usages, what names entities
with arguments, and what names entities with results. -/
def orderedPrimitives : List (List Primitive) :=
  [[.requires], [.usage], [.action, .dataquery, .input], [.action, .dataquery, .output]]

/-- The same steps in another order, in which steps that have to do with each other keep theirs. -/
structure IsReordering (steps others : List Step) : Prop where
  same : others.Perm steps
  kept : ∀ primitives ∈ orderedPrimitives,
    stepsAmong primitives others = stepsAmong primitives steps

/-- Neither step has to do with the other. -/
def Step.IsIndependent (a b : Step) : Prop :=
  ∀ primitives ∈ orderedPrimitives, a.primitive ∈ primitives → b.primitive ∉ primitives

instance (a b : Step) : Decidable (a.IsIndependent b) :=
  inferInstanceAs (Decidable (∀ _ ∈ _, _ → _))

/-- Lists are equal whose members have the same names in order, if a name tells which member it
is. -/
theorem eq_of_map_eq {α β : Type} {f : α → β} {as bs : List α} (hmap : as.map f = bs.map f)
    (h : ∀ a ∈ as, ∀ b ∈ bs, f a = f b → a = b) : as = bs := by
  induction as generalizing bs with
  | nil => exact (List.map_eq_nil_iff.mp hmap.symm).symm
  | cons a as ih =>
    cases bs with
    | nil => cases hmap
    | cons b bs =>
      obtain ⟨hhead, htail⟩ := List.cons.inj hmap
      rw [h a List.mem_cons_self b List.mem_cons_self hhead,
        ih htail fun a ha b hb => h a (List.mem_cons_of_mem _ ha) b (List.mem_cons_of_mem _ hb)]

/-! ## What can be read off some of the steps -/

section

variable {primitives : List Primitive} {steps others : List Step}

theorem mem_stepsAmong {step : Step} :
    step ∈ stepsAmong primitives steps ↔ step ∈ steps ∧ step.primitive ∈ primitives := by
  rw [stepsAmong, List.mem_filter, decide_eq_true_iff]

theorem stepsAmong_concat (step : Step) :
    stepsAmong primitives (steps ++ [step]) =
      stepsAmong primitives steps ++ if step.primitive ∈ primitives then [step] else [] := by
  rw [stepsAmong, List.filter_append]
  by_cases h : step.primitive ∈ primitives
  · simp [h, stepsAmong]
  · simp [h, stepsAmong]

/-- What only steps of some primitives hold is collected from these. -/
theorem filterMap_stepsAmong {α : Type} {f : Step → Option α}
    (h : ∀ step, (f step).isSome → step.primitive ∈ primitives) :
    (stepsAmong primitives steps).filterMap f = steps.filterMap f := by
  rw [stepsAmong, List.filterMap_filter]
  refine List.filterMap_congr fun step _ => ?_
  split
  · rfl
  · rename_i hother
    refine (Option.not_isSome_iff_eq_none.mp fun hsome => hother ?_).symm
    exact decide_eq_true (h step hsome)

theorem flatMap_stepsAmong {α : Type} {f : Step → List α}
    (h : ∀ step, f step ≠ [] → step.primitive ∈ primitives) :
    (stepsAmong primitives steps).flatMap f = steps.flatMap f := by
  induction steps using List.reverseRecOn with
  | nil => rfl
  | append_singleton steps step ih =>
    rw [stepsAmong_concat, List.flatMap_append, List.flatMap_append, ih]
    split
    · rfl
    · rename_i hother
      have hnone : f step = [] := Classical.not_not.mp fun hne => hother (h step hne)
      simp [hnone]

/-- What is declared under a name is declared by steps of some primitives, if what names entities is
among them. The induction is from the end, since a step belongs to the entity named last before it. -/
theorem owned_stepsAmong {part : Step → Named Entries} (name : String)
    (hnames : ∀ step : Step, step.entityName?.isSome → step.primitive ∈ primitives)
    (hpart : ∀ step, part step ≠ [] → step.primitive ∈ primitives) :
    owned part name (stepsAmong primitives steps) = owned part name steps := by
  induction steps using List.reverseRecOn with
  | nil => rfl
  | append_singleton steps step ih =>
    have hlast : lastEntity? (stepsAmong primitives steps) = lastEntity? steps := by
      rw [lastEntity?, filterMap_stepsAmong hnames, lastEntity?]
    rw [stepsAmong_concat, owned_concat, ← ih]
    split
    · rw [owned_concat, hlast]
    · rename_i hother
      have hnone : part step = [] := Classical.not_not.mp fun hne => hother (hpart step hne)
      rw [List.append_nil, hnone, ite_self, List.append_nil]

/-- A step of the primitives has the same steps of them before it, in any steps that agree on
these. -/
theorem exists_split_of_stepsAmong_eq
    (h : stepsAmong primitives others = stepsAmong primitives steps) {before rest : List Step}
    {step : Step} (hsplit : others = before ++ step :: rest) (hstep : step.primitive ∈ primitives) :
    ∃ earlier later, steps = earlier ++ step :: later ∧
      stepsAmong primitives before = stepsAmong primitives earlier := by
  have hamong : stepsAmong primitives steps =
      stepsAmong primitives before ++ step :: stepsAmong primitives rest := by
    rw [← h, hsplit, stepsAmong, List.filter_append, List.filter_cons, if_pos (decide_eq_true hstep)]
    rfl
  obtain ⟨earlier, later, rfl, hearlier, hlater⟩ := List.filter_eq_append_iff.mp hamong
  obtain ⟨skipped, later, rfl, hskipped, -, -⟩ := List.filter_eq_cons_iff.mp hlater
  refine ⟨earlier ++ skipped, later, by rw [List.append_assoc], ?_⟩
  rw [← hearlier, stepsAmong, List.filter_append, List.filter_eq_nil_iff.mpr hskipped,
    List.append_nil]

end

/-- What the first step that names an entity says about it is the first declaration of that name. -/
theorem FirstDeclares.find?_eq {steps : List Step} {name : String} {d : Declaration}
    (h : FirstDeclares steps name d) :
    (steps.filterMap Step.declaration?).find? (fun e => e.name = name) = some d := by
  obtain ⟨before, step, rest, rfl, hd, hname, hfirst⟩ := h
  rw [List.filterMap_append, List.find?_append, List.filterMap_cons_some hd,
    List.find?_cons_of_pos (by simpa using hname)]
  have hnone : (before.filterMap Step.declaration?).find? (fun e => e.name = name) = none := by
    rw [List.find?_eq_none]
    intro e he hsame
    obtain ⟨earlier, hearlier, hdeclares⟩ := List.mem_filterMap.mp he
    refine hfirst earlier hearlier ?_
    rw [Step.entityName?, hdeclares, Option.map_some, of_decide_eq_true hsame]
  rw [hnone, Option.none_or]

/-! ## Which primitives hold what -/

namespace Step

theorem primitive_of_namesEntity {step : Step} (primitive : Primitive) (h : step.NamesEntity) :
    step.primitive ∈ [.action, .dataquery, primitive] := by
  cases step with
  | action properties => exact List.mem_cons_self
  | dataquery properties => exact List.mem_cons_of_mem _ List.mem_cons_self
  | _ => cases h

theorem primitive_of_entityName? {step : Step} (primitive : Primitive)
    (h : step.entityName?.isSome) : step.primitive ∈ [.action, .dataquery, primitive] :=
  primitive_of_namesEntity primitive (namesEntity_of_isSome h)

end Step

/-! ## What is kept -/

section

variable {steps others : List Step} {primitive : Primitive}

/-- What is declared under a name by steps of a primitive depends on the order of these and of the
steps that name entities. -/
theorem owned_eq_of_stepsAmong_eq {part : Step → Named Entries}
    (h : stepsAmong [.action, .dataquery, primitive] others =
      stepsAmong [.action, .dataquery, primitive] steps)
    (hpart : ∀ step, part step ≠ [] → step.primitive = primitive) (name : String) :
    owned part name others = owned part name steps := by
  have hnames : ∀ step : Step, step.entityName?.isSome →
      step.primitive ∈ [.action, .dataquery, primitive] :=
    fun step => Step.primitive_of_entityName? primitive
  have honly : ∀ step, part step ≠ [] → step.primitive ∈ [.action, .dataquery, primitive] :=
    fun step hne => by simp [hpart step hne]
  rw [← owned_stepsAmong name hnames honly, h, owned_stepsAmong name hnames honly]

/-- A step that comes after one that names an entity does so in the other order. -/
theorem exists_namesEntity_of_stepsAmong_eq
    (h : stepsAmong [.action, .dataquery, primitive] others =
      stepsAmong [.action, .dataquery, primitive] steps)
    {before rest : List Step} {step : Step} (hsplit : others = before ++ step :: rest)
    (hstep : step.primitive = primitive)
    (hplaced : ∀ before rest, steps = before ++ step :: rest →
      ∃ earlier ∈ before, earlier.NamesEntity) :
    ∃ earlier ∈ before, earlier.NamesEntity := by
  obtain ⟨prior, later, hsteps, hsame⟩ :=
    exists_split_of_stepsAmong_eq h hsplit (by simp [hstep])
  obtain ⟨earlier, hearlier, hnames⟩ := hplaced prior later hsteps
  have hmem : earlier ∈ stepsAmong [.action, .dataquery, primitive] before := by
    rw [hsame]
    exact mem_stepsAmong.mpr ⟨hearlier, Step.primitive_of_namesEntity primitive hnames⟩
  exact ⟨earlier, (mem_stepsAmong.mp hmem).1, hnames⟩

end

/-! ## What any order leaves -/

namespace IsReordering

open Grammar

variable {host : String} {steps others : List Step}

/-- Neighbours that have nothing to do with each other can change places. -/
theorem swap (before rest : List Step) {a b : Step} (h : a.IsIndependent b) :
    IsReordering (before ++ a :: b :: rest) (before ++ b :: a :: rest) where
  same := (List.Perm.swap a b rest).append_left before
  kept primitives hordered := by
    have hnot := h primitives hordered
    rw [stepsAmong, stepsAmong, List.filter_append, List.filter_append]
    congr 1
    by_cases ha : a.primitive ∈ primitives
    · simp [ha, hnot ha]
    · simp [List.filter_cons, ha]

/-- A reordering can be reordered again. -/
theorem trans {more : List Step} (h : IsReordering steps others) (h' : IsReordering others more) :
    IsReordering steps more where
  same := h'.same.trans h.same
  kept primitives hordered := (h'.kept primitives hordered).trans (h.kept primitives hordered)

theorem arguments (h : IsReordering steps others) :
    stepsAmong [.action, .dataquery, .input] others =
      stepsAmong [.action, .dataquery, .input] steps :=
  h.kept _ (by decide)

theorem results (h : IsReordering steps others) :
    stepsAmong [.action, .dataquery, .output] others =
      stepsAmong [.action, .dataquery, .output] steps :=
  h.kept _ (by decide)

theorem metadata_eq (h : IsReordering steps others) {fields : Entries}
    (hone : steps.filterMap Step.metadata? = [fields]) :
    others.filterMap Step.metadata? = [fields] := by
  have hperm := h.same.filterMap Step.metadata?
  rwa [hone, List.perm_singleton] at hperm

theorem requirements_eq (h : IsReordering steps others) :
    others.flatMap Step.requirements = steps.flatMap Step.requirements := by
  have honly : ∀ step : Step, step.requirements ≠ [] → step.primitive ∈ [Primitive.requires] := by
    intro step hne
    cases step with
    | requires requirements => exact List.mem_cons_self
    | _ => exact absurd rfl hne
  rw [← flatMap_stepsAmong honly, h.kept _ (by decide), flatMap_stepsAmong honly]

theorem usages_eq (h : IsReordering steps others) :
    others.filterMap Step.usage? = steps.filterMap Step.usage? := by
  have honly : ∀ step : Step, step.usage?.isSome → step.primitive ∈ [Primitive.usage] := by
    intro step hsome
    cases step with
    | usage text => exact List.mem_cons_self
    | _ => cases hsome
  rw [← filterMap_stepsAmong honly, h.kept _ (by decide), filterMap_stepsAmong honly]

theorem declarations_eq (h : IsReordering steps others) :
    others.filterMap Step.declaration? = steps.filterMap Step.declaration? := by
  have honly : ∀ step : Step, step.declaration?.isSome →
      step.primitive ∈ [.action, .dataquery, .input] := by
    intro step hsome
    refine Step.primitive_of_entityName? .input ?_
    rwa [Step.entityName?, Option.isSome_map]
  rw [← filterMap_stepsAmong honly, h.kept _ (by decide), filterMap_stepsAmong honly]

theorem entityNames_eq (h : IsReordering steps others) :
    others.filterMap Step.entityName? = steps.filterMap Step.entityName? := by
  have hnames : ∀ row : List Step, row.filterMap Step.entityName? =
      (row.filterMap Step.declaration?).map (·.name) := fun row => List.map_filterMap.symm
  rw [hnames, hnames, h.declarations_eq]

theorem ownedInputs_eq (h : IsReordering steps others) (name : String) :
    owned Step.inputs name others = owned Step.inputs name steps := by
  refine owned_eq_of_stepsAmong_eq h.arguments (fun step hne => ?_) name
  cases step with
  | input arguments => rfl
  | _ => exact absurd rfl hne

theorem ownedOutputs_eq (h : IsReordering steps others) (name : String) :
    owned Step.outputs name others = owned Step.outputs name steps := by
  refine owned_eq_of_stepsAmong_eq h.results (fun step hne => ?_) name
  cases step with
  | output arguments => rfl
  | _ => exact absurd rfl hne

/-- Steps in both orders say the same of an entity. -/
theorem eq_of_describes (h : IsReordering steps others) {e e' : Entity} (he : Describes others e)
    (he' : Describes steps e') (hname : e.name = e'.name) : e = e' := by
  obtain ⟨⟨d, hfirst, hkind, hdescription, hdisplay⟩, hinputs, houtputs⟩ := he
  obtain ⟨⟨d', hfirst', hkind', hdescription', hdisplay'⟩, hinputs', houtputs'⟩ := he'
  have hd : d = d' := by
    have hfind := hfirst.find?_eq
    rw [h.declarations_eq, hname, hfirst'.find?_eq] at hfind
    exact (Option.some.inj hfind).symm
  subst hd
  rw [hname, h.ownedInputs_eq, ← hinputs'] at hinputs
  rw [hname, h.ownedOutputs_eq, ← houtputs'] at houtputs
  cases e
  cases e'
  rw [Entity.mk.injEq]
  exact ⟨hname, hkind.trans hkind'.symm, hdescription.trans hdescription'.symm,
    hdisplay.trans hdisplay'.symm, hinputs, houtputs⟩

/-- Steps that make a descriptor do so in the other order. -/
theorem isDescriptor (h : IsReordering steps others) (hsteps : IsDescriptor host steps) :
    IsDescriptor host others where
  metadata := by
    obtain ⟨fields, hone, hfields⟩ := hsteps.metadata
    exact ⟨fields, h.metadata_eq hone, hfields⟩
  requires requirements hmem := hsteps.requires requirements (h.same.mem_iff.mp hmem)
  actions properties hmem := hsteps.actions properties (h.same.mem_iff.mp hmem)
  queries properties hmem := hsteps.queries properties (h.same.mem_iff.mp hmem)
  inputs arguments hmem := hsteps.inputs arguments (h.same.mem_iff.mp hmem)
  outputs arguments hmem := hsteps.outputs arguments (h.same.mem_iff.mp hmem)
  placed before step rest hsplit hneeds := by
    have hplaced : ∀ before rest, steps = before ++ step :: rest →
        ∃ earlier ∈ before, earlier.NamesEntity :=
      fun before rest hsteps' => hsteps.placed before step rest hsteps' hneeds
    cases step with
    | input arguments => exact exists_namesEntity_of_stepsAmong_eq h.arguments hsplit rfl hplaced
    | output arguments => exact exists_namesEntity_of_stepsAmong_eq h.results hsplit rfl hplaced
    | _ => exact hneeds.elim

end IsReordering

namespace Execution

variable {subject : Subject} {host : String} {steps others : List Step}

/-- Steps in both orders leave the same entities, in the same order. -/
theorem entities_reordered (h : IsReordering steps others) :
    (reached subject host others).draft.entities = (reached subject host steps).draft.entities := by
  have hnames : (reached subject host others).draft.entities.map (·.name) =
      (reached subject host steps).draft.entities.map (·.name) := by
    rw [entityNames_reached, entityNames_reached, h.entityNames_eq]
  exact eq_of_map_eq hnames fun e he e' he' => h.eq_of_describes
    (describes_of_mem_reached subject host others e he)
    (describes_of_mem_reached subject host steps e' he')

/-- Steps with one metadata step reach the same draft in both orders. -/
theorem draft_reordered (h : IsReordering steps others) {fields : Entries}
    (hone : steps.filterMap Step.metadata? = [fields]) :
    (reached subject host others).draft = (reached subject host steps).draft := by
  rw [draft_reached subject host others, draft_reached subject host steps, entities_reordered h,
    h.metadata_eq hone, hone, h.requirements_eq, h.usages_eq]

/-- Independent steps commute. Where a document declares a registry, its steps declare the same one in
any order that keeps requirements in their order, usages in theirs, and arguments and results each in
theirs among what names entities. -/
theorem executeDocument_reordered (subject : Subject) (host : String) (document : Value)
    (r : Registry) (h : (executeDocument subject host document).outcome = .ok r) :
    ∃ steps, Spells document steps ∧ ∀ others, IsReordering steps others →
      (executeDocument subject host (.list (others.map Step.spelling))).outcome = .ok r := by
  obtain ⟨steps, hspells, hadmitted, hbuild⟩ :=
    (executeDocument_eq_ok_iff subject host document r).mp h
  refine ⟨steps, hspells, fun others hothers => ?_⟩
  obtain ⟨fields, hmetadata, -⟩ := (build_eq_ok_iff _ r).mp hbuild
  have hsteps := isDescriptor_of_allAdmitted hspells.namesSomething hadmitted hmetadata
  have hnamed : ∀ step ∈ others, step.NamesSomething :=
    fun step hmem => hspells.namesSomething step (hothers.same.mem_iff.mp hmem)
  obtain ⟨only, hone, -⟩ := hsteps.metadata
  rw [← draft_reordered hothers hone] at hbuild
  exact (executeDocument_eq_ok_iff subject host _ r).mpr ⟨others, .list others hnamed,
    allAdmitted_of_isDescriptor (hothers.isDescriptor hsteps), hbuild⟩

/-- The metadata of a small descriptor. -/
def stopMetadata : Step :=
  .metadata (metadataKeys.map fun key => (.str key, if key = "timeout" then .int 30 else .str key))

/-- Its action. -/
def stopAction : Step :=
  .action [(.str "name", .str "stop"), (.str "description", .str "Stop")]

/-- The argument of the action. -/
def stopArgument : Step :=
  .input [("force", [
    (.str "prompt", .str "Force"), (.str "description", .str "Force"), (.str "type", .str "boolean")])]

/-- The result of the action. -/
def stopResult : Step :=
  .output [("done", [(.str "description", .str "Done"), (.str "display_as", .str "text")])]

theorem executeDocument_reordered_stop :
    let document (steps : List Step) : Value := .list (steps.map Step.spelling)
    ∃ r, (executeDocument demo "1.0"
        (document [stopMetadata, stopAction, stopArgument, stopResult])).outcome = .ok r ∧
      (executeDocument demo "1.0"
        (document [stopAction, stopResult, stopMetadata, stopArgument])).outcome = .ok r := by
  intro document
  have haccepted : (executeDocument demo "1.0"
      (document [stopMetadata, stopAction, stopArgument, stopResult])).outcome.toOption.isSome := by
    decide +kernel
  obtain ⟨r, hr⟩ := Option.isSome_iff_exists.mp haccepted
  have hok := toOption_eq_some_iff.mp hr
  obtain ⟨steps, hspells, hsame⟩ := executeDocument_reordered _ _ _ r hok
  have hsteps : steps = [stopMetadata, stopAction, stopArgument, stopResult] :=
    hspells.unique (.list _ (by simp [stopMetadata, stopAction, stopArgument, stopResult,
      Step.NamesSomething]))
  subst hsteps
  refine ⟨r, hok, hsame _ ?_⟩
  -- the result goes before the argument, and then the metadata go behind the action and the result
  have hresult : IsReordering [stopMetadata, stopAction, stopArgument, stopResult]
      [stopMetadata, stopAction, stopResult, stopArgument] := .swap [_, _] [] (by decide)
  have haction : IsReordering [stopMetadata, stopAction, stopResult, stopArgument]
      [stopAction, stopMetadata, stopResult, stopArgument] := .swap [] [_, _] (by decide)
  exact (hresult.trans haction).trans (.swap [_] [_] (by decide))

end Execution

end PluginDescriptor
