import PluginDescriptor.Descriptor.Catalog
import PluginDescriptor.Proofs.Descriptor.Declared

/-!
# A registry restated

The plain data of a registry can be turned into a document again: the metadata, the requirement if
there is one, each entity with its arguments and results, and the usage. Run for the same plugin on the
same host, this document declares the same registry (`Execution.restated_eq_ok`).
-/

set_option autoImplicit false

namespace PluginDescriptor

/-! ## From plain data to a document -/

/-- What stands under a key of a mapping. -/
def Value.under (v : Value) (key : String) : Value :=
  match v with
  | .map entries => (Fields.find? entries key).getD .null
  | _ => .null

/-- A step written down, for a primitive with something under its name. -/
def writtenStep (p : Primitive) (v : Value) : Value := .record [(p.text, v)]

/-- A step written down, unless what stands under the name of its primitive is empty. -/
def writtenUnlessEmpty (p : Primitive) (v : Value) : List Value :=
  if v.isTruthy then [writtenStep p v] else []

/-- The steps that declare an entity with its arguments and results, from its plain data. -/
def restatedEntity (plain : Value) : List Value :=
  let naming :=
    if plain.under "kind" = .str EntityKind.query.text then
      writtenStep .dataquery (.record [("description", plain.under "description")])
    else
      writtenStep .action (.record [
        ("name", plain.under "name"),
        ("description", plain.under "description"),
        ("display", plain.under "display")])
  naming :: (writtenUnlessEmpty .input (plain.under "input") ++
    writtenUnlessEmpty .output (plain.under "output"))

/-- The document that declares a registry, from its plain data. -/
def restated (plain : Value) : Value :=
  .list (writtenStep .metadata (plain.under "metadata") ::
    (writtenUnlessEmpty .requires (plain.under "requirements") ++
      (((plain.under "entities").entries?.getD []).flatMap (fun entry => restatedEntity entry.2) ++
        [writtenStep .usage (plain.under "usage")])))

/-! ## The steps that are restated -/

/-- The things under texts. -/
def Fields.named {α : Type} (fields : Fields α) : Named α :=
  fields.filterMap fun (key, a) => key.str?.map (·, a)

@[simp] theorem Fields.named_ofNamed {α : Type} (things : Named α) :
    (ofNamed things).named = things := by
  induction things with
  | nil => rfl
  | cons thing rest ih =>
    rw [ofNamed_cons, named, List.filterMap_cons]
    exact congrArg (thing :: ·) ih

/-- A step for arguments or results, if there are any. -/
def declaring (step : Named Entries → Step) (arguments : Named Entries) : List Step :=
  if arguments.isEmpty then [] else [step arguments]

namespace Entity

/-- The step that names an entity. -/
def naming (e : Entity) : Step :=
  match e.kind with
  | .query => .dataquery (Entries.ofFields [("description", e.description)])
  | .action =>
    .action (Entries.ofFields [
      ("name", .str e.name), ("description", e.description), ("display", .str e.display.text)])

/-- The arguments of an entity, written out. -/
def writtenInputs (e : Entity) : Named Entries :=
  e.inputs.named.map fun (name, s) => (name, s.toEntries)

/-- The fields of results of an entity, written out. -/
def writtenOutputs (e : Entity) : Named Entries :=
  e.outputs.named.map fun (name, s) => (name, s.toEntries)

/-- The steps that declare an entity. -/
def steps (e : Entity) : List Step :=
  e.naming :: (declaring .input e.writtenInputs ++ declaring .output e.writtenOutputs)

end Entity

/-- The steps that declare a registry. -/
def Registry.steps (r : Registry) : List Step :=
  .metadata (Value.thawEntries r.metadata) ::
    ((r.minimum.map fun _ => Step.requires r.requirements).toList ++
      (r.entities.flatMap Entity.steps ++ [.usage r.usage]))

theorem writtenUnlessEmpty_spelledArguments {p : Primitive} (step : Named Entries → Step)
    (hstep : ∀ arguments,
      (step arguments).spelling = writtenStep p (.map (Step.spelledArguments arguments)))
    (arguments : Named Entries) :
    writtenUnlessEmpty p (.map (Step.spelledArguments arguments)) =
      (declaring step arguments).map Step.spelling := by
  cases arguments with
  | nil => rfl
  | cons argument rest =>
    rw [declaring, List.isEmpty_cons, if_neg Bool.false_ne_true, List.map_cons, hstep]
    rfl

/-- The plain data of a declared entity are restated as the steps that declare it. -/
theorem restatedEntity_toValue {e : Entity} (h : e.IsDeclared) :
    restatedEntity e.toValue = e.steps.map Step.spelling := by
  obtain ⟨declared, -, hinputs, -⟩ := h.inputs
  obtain ⟨results, -, houtputs, -⟩ := h.outputs
  have hin : e.toValue.under "input" = .map (Step.spelledArguments e.writtenInputs) := by
    have hunder : e.toValue.under "input" =
        .map (e.inputs.map fun entry => (entry.1, .map entry.2.toEntries)) := rfl
    unfold Entity.writtenInputs Step.spelledArguments
    rw [hunder, hinputs, Fields.named_ofNamed, Fields.ofNamed, List.map_map, List.map_map]
    rfl
  have hout : e.toValue.under "output" = .map (Step.spelledArguments e.writtenOutputs) := by
    have hunder : e.toValue.under "output" =
        .map (e.outputs.map fun entry => (entry.1, .map entry.2.toEntries)) := rfl
    unfold Entity.writtenOutputs Step.spelledArguments
    rw [hunder, houtputs, Fields.named_ofNamed, Fields.ofNamed, List.map_map, List.map_map]
    rfl
  have hnaming : (if e.toValue.under "kind" = .str EntityKind.query.text then
        writtenStep .dataquery (.record [("description", e.toValue.under "description")])
      else
        writtenStep .action (.record [
          ("name", e.toValue.under "name"),
          ("description", e.toValue.under "description"),
          ("display", e.toValue.under "display")])) = e.naming.spelling := by
    have hkind : e.toValue.under "kind" = .str e.kind.text := rfl
    rw [hkind, Entity.naming]
    cases e.kind with
    | action =>
      rw [if_neg (by decide)]
      rfl
    | query =>
      rw [if_pos rfl]
      rfl
  unfold restatedEntity
  rw [hin, hout, hnaming, writtenUnlessEmpty_spelledArguments .input fun _ => rfl,
    writtenUnlessEmpty_spelledArguments .output fun _ => rfl, ← List.map_append, ← List.map_cons]
  rfl

/-- The plain data of a declared registry are restated as the document that spells its steps. -/
theorem restated_toValue {host : String} {r : Registry} (h : r.IsDeclared host) :
    restated r.toValue = .list (r.steps.map Step.spelling) := by
  have hentities : (r.toValue.under "entities").entries?.getD [] =
      r.entities.map fun e => (.str e.name, e.toValue) := rfl
  have hrestated : r.entities.flatMap (fun e => restatedEntity e.toValue) =
      r.entities.flatMap fun e => e.steps.map Step.spelling :=
    List.flatMap_congr fun e he => restatedEntity_toValue (h.entities e he)
  have hrequires : writtenUnlessEmpty .requires (r.toValue.under "requirements") =
      (r.minimum.map fun _ => Step.requires r.requirements).toList.map Step.spelling := by
    have hunder : r.toValue.under "requirements" = .map r.requirements := rfl
    rw [hunder, Registry.requirements]
    cases r.minimum with
    | none => rfl
    | some version => rfl
  unfold restated Registry.steps
  rw [hentities, List.flatMap_map, hrestated, hrequires, List.map_cons, List.map_append,
    List.map_append, List.map_flatMap]
  rfl

/-! ## Running the steps -/

namespace Execution

open Grammar

namespace State

/-- The state with one more entity, which is the one named last. -/
def withEntity (s : State) (e : Entity) : State :=
  { draft := { s.draft with entities := s.draft.entities ++ [e] }, current := some e.name }

/-- A change of the entity named last changes nothing but the entity that came last, if this is the
only one of its name. -/
theorem updateCurrent_withEntity (s : State) (e : Entity) (f : Entity → Entity)
    (hname : (f e).name = e.name) (hnew : e.name ∉ s.draft.entities.map (·.name)) :
    (s.withEntity e).updateCurrent f = s.withEntity (f e) := by
  have hothers : (s.draft.entities.map fun other =>
      if some e.name = some other.name then f other else other) = s.draft.entities := by
    refine (List.map_congr_left fun other hother => ?_).trans (List.map_id _)
    refine if_neg fun hsame => hnew ?_
    rw [Option.some.inj hsame]
    exact List.mem_map_of_mem hother
  rw [updateCurrent_eq]
  unfold withEntity
  simp only [List.map_append, hothers, List.map_cons, List.map_nil, if_true, hname]

end State

/-- The step that names a declared entity says of it what there is to say. -/
theorem declaration?_naming {e : Entity} (h : e.IsDeclared) :
    e.naming.declaration? = some
      { name := e.name, kind := e.kind, description := e.description, display := e.display } := by
  unfold Entity.naming
  cases hkind : e.kind with
  | action => cases e.display <;> rfl
  | query =>
    obtain ⟨hname, hdisplay⟩ := h.query hkind
    rw [hname, hdisplay]
    rfl

/-- Naming a declared entity adds it, without arguments and results. -/
theorem perform_naming (s : State) {e : Entity} (h : e.IsDeclared)
    (hnew : e.name ∉ s.draft.entities.map (·.name)) :
    perform s e.naming = .ok (s.withEntity { e with inputs := [], outputs := [] }) := by
  have hdeclares := declaration?_naming h
  have hnaming : s.Admits e.naming ∧ s.after e.naming = s.activate e.naming.declaration? := by
    unfold Entity.naming at hdeclares ⊢
    cases hkind : e.kind with
    | action =>
      rw [hkind] at hdeclares
      exact ⟨(Draft.isAction_iff _).mpr ⟨_, hdeclares, h.named⟩, rfl⟩
    | query =>
      rw [hkind] at hdeclares
      exact ⟨(Draft.isQuery_iff _).mpr ⟨_, hdeclares⟩, rfl⟩
  refine (perform_eq_ok_iff s _ _).mpr ⟨hnaming.1, ?_⟩
  rw [hnaming.2, hdeclares, State.activate_eq, if_neg hnew]
  rfl

/-- Declaring what an entity has, if it has any, changes the entity that came last. -/
theorem foldlM_declaring (s : State) (e : Entity) (hnew : e.name ∉ s.draft.entities.map (·.name))
    (step : Named Entries → Step) {declare : Entity → String × Entries → Entity}
    (hname : ∀ e argument, (declare e argument).name = e.name) (arguments : Named Entries)
    (hadmits : ∀ s : State, s.current.isSome → s.Admits (step arguments))
    (hafter : ∀ s : State, s.after (step arguments) =
      s.updateCurrent fun e => arguments.foldl declare e) :
    (declaring step arguments).foldlM perform (s.withEntity e) =
      .ok (s.withEntity (arguments.foldl declare e)) := by
  cases arguments with
  | nil => rfl
  | cons argument rest =>
    have hstep : perform (s.withEntity e) (step (argument :: rest)) =
        .ok (s.withEntity ((argument :: rest).foldl declare e)) := by
      refine (perform_eq_ok_iff _ _ _).mpr ⟨hadmits _ rfl, ?_⟩
      rw [hafter, State.updateCurrent_withEntity s e _ (name_foldl hname _ e) hnew]
    exact foldlM_cons_eq_ok hstep rfl

/-- The arguments of an entity that are written out are declared again. -/
theorem inputSpecs_writtenInputs {e : Entity} {declared : Named InputSpec}
    (hinputs : e.inputs = .ofNamed declared)
    (hdeclared : ∀ argument ∈ declared, argument.2.name = .str argument.1 ∧ argument.2.IsDeclared) :
    inputSpecs e.writtenInputs = declared := by
  unfold inputSpecs Entity.writtenInputs
  rw [hinputs, Fields.named_ofNamed, List.map_map]
  refine (List.map_congr_left fun argument hmem => ?_).trans (List.map_id _)
  obtain ⟨hname, hspec⟩ := hdeclared argument hmem
  have hread : InputSpec.ofProperties (.str argument.1) argument.2.toEntries = argument.2 := by
    rw [← hname]
    exact hspec.ofProperties_toEntries
  exact Prod.ext rfl hread

/-- The fields of results of an entity that are written out are declared again. -/
theorem outputSpecs_writtenOutputs {e : Entity} {declared : Named OutputSpec}
    (houtputs : e.outputs = .ofNamed declared)
    (hdeclared : ∀ field ∈ declared, field.2.name = .str field.1) :
    outputSpecs e.writtenOutputs = declared := by
  unfold outputSpecs Entity.writtenOutputs
  rw [houtputs, Fields.named_ofNamed, List.map_map]
  refine (List.map_congr_left fun field hmem => ?_).trans (List.map_id _)
  have hread : OutputSpec.ofProperties (.str field.1) field.2.toEntries = field.2 := by
    rw [← hdeclared field hmem]
    exact field.2.ofProperties_toEntries
  exact Prod.ext rfl hread

/-- The arguments and results of a declared entity are acceptable when they are written out. -/
theorem isInput_of_mem_writtenInputs {e : Entity} (h : e.IsDeclared) {argument : String × Entries}
    (hmem : argument ∈ e.writtenInputs) : IsInput argument.2 := by
  obtain ⟨declared, -, hinputs, hdeclared⟩ := h.inputs
  unfold Entity.writtenInputs at hmem
  rw [hinputs, Fields.named_ofNamed] at hmem
  obtain ⟨argument, hargument, rfl⟩ := List.mem_map.mp hmem
  exact (hdeclared argument hargument).2.isInput_toEntries

theorem isOutput_of_mem_writtenOutputs {e : Entity} {field : String × Entries}
    (hmem : field ∈ e.writtenOutputs) : IsOutput field.2 := by
  obtain ⟨field, -, rfl⟩ := List.mem_map.mp hmem
  exact field.2.isOutput_toEntries

/-- The steps of a declared entity add it. -/
theorem foldlM_entity (s : State) {e : Entity} (h : e.IsDeclared)
    (hnew : e.name ∉ s.draft.entities.map (·.name)) :
    e.steps.foldlM perform s = .ok (s.withEntity e) := by
  obtain ⟨declared, hnodup, hinputs, hdeclared⟩ := h.inputs
  obtain ⟨results, hdistinct, houtputs, hresults⟩ := h.outputs
  -- the entity is named without anything under it, and then gets back its arguments and its results
  have hin : (declaring .input e.writtenInputs).foldlM perform
      (s.withEntity { e with inputs := [], outputs := [] }) =
        .ok (s.withEntity { e with outputs := [] }) := by
    have hall : e.writtenInputs.foldl Entity.withInput { e with inputs := [], outputs := [] } =
        { e with outputs := [] } := by
      rw [foldl_withInput _ _ [] rfl, List.nil_append, inputSpecs_writtenInputs hinputs hdeclared,
        Named.ofList_of_nodup hnodup, ← hinputs]
    have hrun := foldlM_declaring s { e with inputs := [], outputs := [] } hnew .input
      Entity.name_withInput e.writtenInputs (fun _ hcurrent _ hargument =>
        ⟨hcurrent, isInput_of_mem_writtenInputs h hargument⟩) fun _ => rfl
    rwa [hall] at hrun
  have hout : (declaring .output e.writtenOutputs).foldlM perform
      (s.withEntity { e with outputs := [] }) = .ok (s.withEntity e) := by
    have hall : e.writtenOutputs.foldl Entity.withOutput { e with outputs := [] } = e := by
      rw [foldl_withOutput _ _ [] rfl, List.nil_append,
        outputSpecs_writtenOutputs houtputs hresults, Named.ofList_of_nodup hdistinct, ← houtputs]
    have hrun := foldlM_declaring s { e with outputs := [] } hnew .output
      Entity.name_withOutput e.writtenOutputs (fun _ hcurrent _ hfield =>
        ⟨hcurrent, isOutput_of_mem_writtenOutputs hfield⟩) fun _ => rfl
    rwa [hall] at hrun
  exact foldlM_cons_eq_ok (perform_naming s h hnew) (foldlM_append_eq_ok hin hout)

/-- The steps of declared entities with names of their own add these entities, in order. -/
theorem foldlM_entities (s : State) {entities : List Entity} (h : ∀ e ∈ entities, e.IsDeclared)
    (hnodup : ((s.draft.entities ++ entities).map (·.name)).Nodup) :
    ∃ s', (entities.flatMap Entity.steps).foldlM perform s = .ok s' ∧
      s'.draft = { s.draft with entities := s.draft.entities ++ entities } := by
  induction entities generalizing s with
  | nil => exact ⟨s, rfl, by rw [List.append_nil]⟩
  | cons e rest ih =>
    have hnew : e.name ∉ s.draft.entities.map (·.name) := by
      rw [List.map_append, List.nodup_append] at hnodup
      exact fun hmem => hnodup.2.2 _ hmem _ List.mem_cons_self rfl
    have hshift : (s.withEntity e).draft.entities ++ rest = s.draft.entities ++ e :: rest := by
      unfold State.withEntity
      rw [List.append_assoc, List.singleton_append]
    obtain ⟨s', hrun, hdraft⟩ := ih (s.withEntity e) (fun f hf => h f (List.mem_cons_of_mem _ hf))
      (by rwa [hshift])
    refine ⟨s', ?_, ?_⟩
    · rw [List.flatMap_cons]
      exact foldlM_append_eq_ok (foldlM_entity s (h e List.mem_cons_self) hnew) hrun
    · rw [hdraft, hshift]
      rfl

/-- The requirement of a declared registry, if there is one, is noted again. -/
theorem foldlM_requirement {host : String} {r : Registry} (h : r.IsDeclared host) (s : State)
    (hhost : s.draft.host = host) (hnone : s.draft.minimum = none) :
    (r.minimum.map fun _ => Step.requires r.requirements).toList.foldlM perform s =
      .ok { s with draft := { s.draft with minimum := r.minimum } } := by
  cases hminimum : r.minimum with
  | none =>
    obtain ⟨draft, current⟩ := s
    obtain ⟨subject, _, metadata, minimum, entities, usage⟩ := draft
    cases hnone
    rfl
  | some version =>
    obtain ⟨hblank, hsatisfies⟩ := h.minimum version hminimum
    have hrequirements : r.requirements = [(.str hostRequirement, .str version)] := by
      unfold Registry.requirements
      rw [hminimum]
      rfl
    have hlast : lastMinimum [(.str hostRequirement, .str version)] = some version := rfl
    have hstep : perform s (.requires r.requirements) =
        .ok { s with draft := { s.draft with minimum := some version } } := by
      rw [hrequirements]
      refine (perform_eq_ok_iff s _ _).mpr ⟨⟨fun entry hentry => ?_, fun minimum hmin => ?_⟩, rfl⟩
      · rw [List.mem_singleton.mp hentry]
        exact ⟨rfl, version, rfl, hblank⟩
      · rw [hlast, Option.some_or, Option.some.injEq] at hmin
        rw [hhost, ← hmin, hsatisfies]
    exact foldlM_cons_eq_ok hstep rfl

/-- The steps of a registry that is declared for a host lead to what the registry holds. -/
theorem foldlM_registry (subject : Subject) {host : String} {r : Registry} (h : r.IsDeclared host) :
    ∃ s, r.steps.foldlM perform (State.start subject host) = .ok s ∧
      s.draft =
        { subject, host, metadata := some (Value.thawEntries r.metadata), minimum := r.minimum
          entities := r.entities, usage := r.usage } := by
  let declared := (State.start subject host).after (.metadata (Value.thawEntries r.metadata))
  let noted : State := { declared with draft := { declared.draft with minimum := r.minimum } }
  have hmetadata : perform (State.start subject host) (.metadata (Value.thawEntries r.metadata)) =
      .ok declared := (perform_eq_ok_iff _ _ _).mpr ⟨⟨rfl, h.metadata⟩, rfl⟩
  have hrequirement : (r.minimum.map fun _ => Step.requires r.requirements).toList.foldlM perform
      declared = .ok noted := foldlM_requirement h declared rfl rfl
  obtain ⟨s, hentities, hdraft⟩ := foldlM_entities noted h.entities h.names
  have husage : [Step.usage r.usage].foldlM perform s =
      .ok { s with draft := { s.draft with usage := r.usage } } := rfl
  refine ⟨_, foldlM_cons_eq_ok hmetadata (foldlM_append_eq_ok hrequirement
    (foldlM_append_eq_ok hentities husage)), ?_⟩
  rw [hdraft]
  rfl

/-- Steps for arguments and results are there only if there are any. -/
theorem namesSomething_of_mem_declaring {step : Named Entries → Step} {arguments : Named Entries}
    (hstep : arguments ≠ [] → (step arguments).NamesSomething) :
    ∀ s ∈ declaring step arguments, s.NamesSomething := by
  intro s hs
  cases arguments with
  | nil => cases hs
  | cons argument rest =>
    rw [List.mem_singleton.mp hs]
    exact hstep (List.cons_ne_nil argument rest)

theorem namesSomething_entity (e : Entity) : ∀ step ∈ e.steps, step.NamesSomething := by
  intro step hstep
  rcases List.mem_cons.mp hstep with rfl | hstep
  · unfold Entity.naming
    cases e.kind with
    | action => trivial
    | query => trivial
  · rcases List.mem_append.mp hstep with hin | hout
    · exact namesSomething_of_mem_declaring id step hin
    · exact namesSomething_of_mem_declaring id step hout

theorem namesSomething_registry (r : Registry) : ∀ step ∈ r.steps, step.NamesSomething := by
  intro step hstep
  rcases List.mem_cons.mp hstep with rfl | hstep
  · trivial
  rcases List.mem_append.mp hstep with hrequires | hstep
  · obtain ⟨_, -, rfl⟩ := Option.map_eq_some_iff.mp (Option.mem_toList.mp hrequires)
    trivial
  rcases List.mem_append.mp hstep with hentity | husage
  · obtain ⟨e, -, hstep⟩ := List.mem_flatMap.mp hentity
    exact namesSomething_entity e step hstep
  · rw [List.mem_singleton.mp husage]
    trivial

/-- The plain data of a registry that is declared for a host declare the registry there. -/
theorem outcome_restated {host : String} {r : Registry} (h : r.IsDeclared host) :
    (executeDocument (Catalog.subjectOf r) host (restated r.toValue)).outcome = .ok r := by
  have hspells : Spells (restated r.toValue) r.steps := by
    rw [restated_toValue h]
    exact .list r.steps (namesSomething_registry r)
  obtain ⟨s, hrun, hdraft⟩ := foldlM_registry (Catalog.subjectOf r) h
  have hbuild : s.draft.build = .ok r := by
    rw [hdraft]
    unfold Draft.build Catalog.subjectOf
    simp only [h.frozen]
  rw [outcome_executeDocument hspells, hrun]
  exact hbuild

/-- A registry that a document declares is declared again by its plain data, for the same plugin on
the same host. -/
theorem restated_eq_ok (subject : Subject) (host : String) (document : Value) (r : Registry)
    (h : (executeDocument subject host document).outcome = .ok r) :
    (executeDocument subject host (restated r.toValue)).outcome = .ok r := by
  obtain ⟨steps, hspells, hadmitted, hbuild⟩ :=
    (executeDocument_eq_ok_iff subject host document r).mp h
  have hdeclared : r.IsDeclared host :=
    isDeclared_of_allAdmitted hspells.namesSomething hadmitted hbuild
  have hsubject : Catalog.subjectOf r = subject := by
    obtain ⟨fields, -, rfl⟩ := (build_eq_ok_iff _ r).mp hbuild
    exact subject_reached subject host steps
  rw [← hsubject]
  exact outcome_restated hdeclared

theorem restated_eq_ok_twiceNamed :
    ∃ r, (executeDocument demo "1.10" twiceNamed).outcome = .ok r ∧
      (executeDocument demo "1.10" (restated r.toValue)).outcome = .ok r := by
  have hsome : (executeDocument demo "1.10" twiceNamed).outcome.toOption.isSome = true := by
    decide +kernel
  obtain ⟨r, hr⟩ := Option.isSome_iff_exists.mp hsome
  have hok := toOption_eq_some_iff.mp hr
  exact ⟨r, hok, restated_eq_ok _ _ _ r hok⟩

end Execution

end PluginDescriptor
