import PluginDescriptor.Proofs.Descriptor.Containment
import PluginDescriptor.Proofs.Descriptor.Meaning
import PluginDescriptor.Proofs.Yaml.Document

/-!
# What can still be changed in a registry

The metadata and the extra properties of arguments are locked when a descriptor is loaded: they are
frozen at all depths, and only sets in them can still be changed. All else that is declared is stored
as it is written, lists and mappings included. So a registry is closed when nothing open is written
where values are stored and no set where they are locked, and not in general:
`Execution.execute_leavesOpen`.
-/

set_option autoImplicit false

namespace PluginDescriptor

/-- No part of the value can be changed. -/
def Value.IsClosed (v : Value) : Prop := ∀ part, Within part v → part.isOpen = false

/-! ## Where values go -/

/-- The values of an argument that are stored as they are. -/
def InputSpec.stored (s : InputSpec) : List Value :=
  [s.prompt, s.description, s.default] ++ s.allowed.getD []

/-- The values of a field of results, all of which are stored as they are. -/
def OutputSpec.stored (s : OutputSpec) : List Value := [s.description, s.displayAs, s.default]

/-- The values of an entity that are stored as they are. -/
def Entity.stored (e : Entity) : List Value :=
  e.description :: e.inputs.flatMap (·.2.stored) ++ e.outputs.flatMap (·.2.stored)

/-- The values of an entity that are locked. -/
def Entity.locked (e : Entity) : List Value := e.inputs.map fun input => .frozen input.2.extra

namespace Registry

/-- The values of a registry that are stored as they are. -/
def stored (r : Registry) : List Value := r.entities.flatMap Entity.stored

/-- The values of a registry that are locked. -/
def locked (r : Registry) : List Value := .frozen r.metadata :: r.entities.flatMap Entity.locked

/-- Nothing that can be reached in the registry can be changed. -/
def IsClosed (r : Registry) : Prop := ∀ v ∈ r.stored ++ r.locked, v.IsClosed

end Registry

namespace Step

/-- What stands under a key, if anything. -/
def property (properties : Entries) (key : String) : Value := (properties.find? key).getD .null

/-- The properties of an argument that are stored as they are written. -/
def storedInput (properties : Entries) : List Value :=
  [property properties "prompt", property properties "description", property properties "default"] ++
    if property properties "type" = .str "list" then (property properties "list").items?.getD []
    else []

/-- The properties of a field of results that are stored as they are written. -/
def storedOutput (properties : Entries) : List Value :=
  [property properties "description", property properties "display_as",
    property properties "default"]

/-- The values in a step that are stored as they are written. -/
def stored : Step → List Value
  | action properties | dataquery properties => [property properties "description"]
  | input arguments => arguments.flatMap fun argument => storedInput argument.2
  | output arguments => arguments.flatMap fun argument => storedOutput argument.2
  | _ => []

/-- The values in a step that are locked. -/
def locked : Step → List Value
  | metadata fields => [.map fields]
  | input arguments => arguments.map fun argument => .map (Draft.extraProperties argument.2)
  | _ => []

/-! ## Where a step puts its values -/

theorem stored_ofProperties (name : Value) (properties : Entries) :
    (InputSpec.ofProperties name properties).stored = storedInput properties := by
  have hlist : ∀ v : Value, v.str?.getD "" = "list" ↔ v = .str "list" := by
    intro v
    cases v <;> simp [Value.str?]
  unfold InputSpec.stored storedInput InputSpec.ofProperties
  by_cases htype : (properties.find? "type").getD .null = .str "list"
  · simp [hlist, property, htype]
  · simp [hlist, property, htype]

theorem description_mem_stored {step : Step} {d : Declaration} (h : step.declaration? = some d) :
    d.description ∈ step.stored := by
  cases step with
  | action properties =>
    rw [declaration?] at h
    split at h
    · rename_i hdescription _
      cases h
      simp [stored, property, hdescription]
    · cases h
  | dataquery properties =>
    obtain ⟨description, hdescription, rfl⟩ := Option.map_eq_some_iff.mp h
    simp [stored, property, hdescription]
  | _ => cases h

theorem mem_stored_of_input {step : Step} {argument : String × Entries}
    (hargument : argument ∈ step.inputs) {v : Value} (hv : v ∈ storedInput argument.2) :
    v ∈ step.stored := by
  cases step with
  | input arguments => exact List.mem_flatMap.mpr ⟨argument, hargument, hv⟩
  | _ => cases hargument

theorem mem_stored_of_output {step : Step} {argument : String × Entries}
    (hargument : argument ∈ step.outputs) {v : Value} (hv : v ∈ storedOutput argument.2) :
    v ∈ step.stored := by
  cases step with
  | output arguments => exact List.mem_flatMap.mpr ⟨argument, hargument, hv⟩
  | _ => cases hargument

theorem mem_locked_of_input {step : Step} {argument : String × Entries}
    (hargument : argument ∈ step.inputs) :
    .map (Draft.extraProperties argument.2) ∈ step.locked := by
  cases step with
  | input arguments => exact List.mem_map_of_mem hargument
  | _ => cases hargument

/-- What is locked in a step was kept under keys that can be keys, if all of the step was. -/
theorem isKeyed_of_mem_locked {step : Step} (h : step.argument.IsKeyed) {v : Value}
    (hv : v ∈ step.locked) : v.IsKeyed := by
  cases step with
  | metadata fields =>
    rw [List.mem_singleton.mp hv]
    exact h
  | input arguments =>
    obtain ⟨⟨name, properties⟩, hargument, rfl⟩ := List.mem_map.mp hv
    have hproperties := (Value.isKeyed_map_iff.mp h _ (List.mem_map_of_mem hargument)).2
    exact Value.isKeyed_map_iff.mpr fun entry hentry =>
      Value.isKeyed_map_iff.mp hproperties entry (List.mem_filter.mp hentry).1
  | _ => cases hv

end Step

theorem Spells.isKeyed_argument {document : Value} {steps : List Step} (h : Spells document steps)
    (hdocument : document.IsKeyed) {step : Step} (hstep : step ∈ steps) : step.argument.IsKeyed := by
  cases h with
  | nothing => cases hstep
  | list _ _ =>
    have hspelling := hdocument.contents step.spelling (List.mem_map_of_mem hstep)
    exact (Value.isKeyed_map_iff.mp hspelling _ List.mem_cons_self).2

/-! ## Where the values of a registry come from -/

namespace Describes

variable {steps : List Step} {e : Entity}

theorem exists_input (h : Describes steps e) {input : Value × InputSpec}
    (hinput : input ∈ e.inputs) : ∃ step ∈ steps, ∃ argument ∈ step.inputs,
      input.2 = InputSpec.ofProperties (.str argument.1) argument.2 := by
  rw [h.inputs] at hinput
  obtain ⟨declared, hdeclared, rfl⟩ := List.mem_map.mp hinput
  obtain ⟨argument, howned, rfl⟩ := List.mem_map.mp (Named.mem_of_mem_gathered hdeclared)
  obtain ⟨step, hstep, hargument⟩ := exists_step_of_mem_owned howned
  exact ⟨step, hstep, argument, hargument, rfl⟩

theorem exists_output (h : Describes steps e) {output : Value × OutputSpec}
    (houtput : output ∈ e.outputs) : ∃ step ∈ steps, ∃ argument ∈ step.outputs,
      output.2 = OutputSpec.ofProperties (.str argument.1) argument.2 := by
  rw [h.outputs] at houtput
  obtain ⟨declared, hdeclared, rfl⟩ := List.mem_map.mp houtput
  obtain ⟨argument, howned, rfl⟩ := List.mem_map.mp (Named.mem_of_mem_gathered hdeclared)
  obtain ⟨step, hstep, hargument⟩ := exists_step_of_mem_owned howned
  exact ⟨step, hstep, argument, hargument, rfl⟩

/-- What an entity stores is written in a step. -/
theorem exists_stored (h : Describes steps e) {v : Value} (hv : v ∈ e.stored) :
    ∃ step ∈ steps, v ∈ step.stored := by
  rw [Entity.stored, List.cons_append, List.mem_cons, List.mem_append, List.mem_flatMap,
    List.mem_flatMap] at hv
  rcases hv with rfl | ⟨input, hinput, hv⟩ | ⟨output, houtput, hv⟩
  · obtain ⟨d, ⟨before, step, rest, rfl, hd, -, -⟩, -, hdescription, -⟩ := h.origin
    exact ⟨step, List.mem_append_cons_self, hdescription ▸ Step.description_mem_stored hd⟩
  · obtain ⟨step, hstep, argument, hargument, hspec⟩ := h.exists_input hinput
    rw [hspec, Step.stored_ofProperties] at hv
    exact ⟨step, hstep, Step.mem_stored_of_input hargument hv⟩
  · obtain ⟨step, hstep, argument, hargument, hspec⟩ := h.exists_output houtput
    rw [hspec] at hv
    exact ⟨step, hstep, Step.mem_stored_of_output hargument hv⟩

/-- What an entity locks is written in a step, where it is not frozen. -/
theorem exists_locked (h : Describes steps e) {v : Value} (hv : v ∈ e.locked) :
    ∃ step ∈ steps, ∃ w ∈ step.locked, v = w.freeze := by
  obtain ⟨input, hinput, rfl⟩ := List.mem_map.mp hv
  obtain ⟨step, hstep, argument, hargument, hspec⟩ := h.exists_input hinput
  exact ⟨step, hstep, _, Step.mem_locked_of_input hargument, by rw [hspec]; rfl⟩

end Describes

namespace Execution

/-- Where the values of the registry come from that the steps of a descriptor declare. -/
theorem values_of_build {subject : Subject} {host : String} {steps : List Step} {r : Registry}
    (hbuild : (reached subject host steps).draft.build = .ok r) :
    (∀ v ∈ r.stored, ∃ step ∈ steps, v ∈ step.stored) ∧
      ∀ v ∈ r.locked, ∃ step ∈ steps, ∃ w ∈ step.locked, v = w.freeze := by
  obtain ⟨fields, hmetadata, rfl⟩ := (build_eq_ok_iff _ r).mp hbuild
  constructor
  · intro v hv
    obtain ⟨e, he, hv⟩ := List.mem_flatMap.mp hv
    exact (describes_of_mem_reached subject host steps e he).exists_stored hv
  · intro v hv
    rcases List.mem_cons.mp hv with rfl | hv
    · rw [metadata_reached] at hmetadata
      obtain ⟨step, hstep, hdeclares⟩ := List.mem_filterMap.mp (List.mem_of_getLast? hmetadata)
      cases step with
      | metadata _ =>
        cases hdeclares
        exact ⟨_, hstep, _, List.mem_cons_self, rfl⟩
      | _ => cases hdeclares
    · obtain ⟨e, he, hv⟩ := List.mem_flatMap.mp hv
      exact (describes_of_mem_reached subject host steps e he).exists_locked hv

/-- What can still be changed in the registry of a text. What is locked is frozen, so that of its open
parts the sets are left and nothing else; all else is stored as it is written. The registry is closed
if what is stored as it is written is closed, and what is locked holds no set. -/
theorem execute_leavesOpen (subject : Subject) (host source : String) (r : Registry)
    (h : (execute subject host source).outcome = .ok r) :
    ∃ document steps, Value.ofYaml source = .ok document ∧ Spells document steps ∧
      (∀ v ∈ r.stored, ∃ step ∈ steps, v ∈ step.stored) ∧
      (∀ v ∈ r.locked, ∃ step ∈ steps, ∃ w ∈ step.locked, ∀ part, part.isOpen = true →
        (Value.Within part v ↔ (∃ items, part = .set items) ∧ Value.Within part w)) ∧
      ((∀ step ∈ steps, (∀ v ∈ step.stored, v.IsClosed) ∧
        ∀ w ∈ step.locked, ∀ items, ¬ Value.Within (.set items) w) → r.IsClosed) := by
  rw [execute, Logged.outcome_bind, Logged.outcome_of] at h
  obtain ⟨document, hread, hexecute⟩ := bind_eq_ok_iff.mp h
  have hyaml := readDocument_eq_ok hread
  obtain ⟨steps, hspells, -, hbuild⟩ := (executeDocument_eq_ok_iff subject host document r).mp hexecute
  obtain ⟨hstored, hfrozen⟩ := values_of_build hbuild
  have hlocked : ∀ v ∈ r.locked, ∃ step ∈ steps, ∃ w ∈ step.locked, ∀ part, part.isOpen = true →
      (Value.Within part v ↔ (∃ items, part = .set items) ∧ Value.Within part w) := by
    intro v hv
    obtain ⟨step, hstep, w, hw, rfl⟩ := hfrozen v hv
    have hkeyed := hspells.isKeyed_argument (Value.isKeyed_ofYaml hyaml) hstep
    exact ⟨step, hstep, w, hw, fun part hopen =>
      Value.within_freeze_iff (Step.isKeyed_of_mem_locked hkeyed hw) hopen⟩
  refine ⟨document, steps, hyaml, hspells, hstored, hlocked, fun hclosed v hv part hpart => ?_⟩
  rcases List.mem_append.mp hv with hv | hv
  · obtain ⟨step, hstep, hwritten⟩ := hstored v hv
    exact (hclosed step hstep).1 v hwritten part hpart
  · obtain ⟨step, hstep, w, hw, hsets⟩ := hlocked v hv
    by_contra hopen
    obtain ⟨⟨items, rfl⟩, hwithin⟩ := (hsets part (eq_true_of_ne_false hopen)).mp hpart
    exact (hclosed step hstep).2 w hw items hwithin

/-- A descriptor with a set in its metadata, and with a list for the default of an argument. -/
def openSource : String :=
  "\n".intercalate [
    "- metadata:",
    "   name: a",
    "   description: b",
    "   author: c",
    "   license: d",
    "   version: e",
    "   url: f",
    "   timeout: 1",
    "   tags: !!set",
    "    ? g",
    "- action:",
    "   name: a",
    "   description: b",
    "- input:",
    "   x:",
    "    prompt: c",
    "    description: d",
    "    type: e",
    "    default: [1, 2]"]

theorem exists_openRegistry : ∃ r, (execute demo "2.0.0" openSource).outcome = .ok r ∧
    .list [.int 1, .int 2] ∈ r.stored ∧
    .set [.str "g"] ∈ (Value.frozen r.metadata).contents := by
  have haccepted : (execute demo "2.0.0" openSource).outcome.toOption.map (fun r =>
      decide (.list [.int 1, .int 2] ∈ r.stored ∧
        .set [.str "g"] ∈ (Value.frozen r.metadata).contents)) = some true := by
    -- the characters are taken line by line, because those of a long text take long to evaluate
    rw [execute, readDocument, Value.ofYaml, Yaml.Node.parse?, Yaml.Tokens.scan, openSource,
      String.toList_intercalate]
    decide +kernel
  obtain ⟨r, hr, hopen⟩ := Option.map_eq_some_iff.mp haccepted
  exact ⟨r, toOption_eq_some_iff.mp hr, of_decide_eq_true hopen⟩

theorem execute_leavesOpen_default : ∃ r, (execute demo "2.0.0" openSource).outcome = .ok r ∧
    ∃ document steps, Value.ofYaml openSource = .ok document ∧ Spells document steps ∧
      ∃ step ∈ steps, .list [.int 1, .int 2] ∈ step.stored := by
  obtain ⟨r, hr, hdefault, -⟩ := exists_openRegistry
  obtain ⟨document, steps, hread, hspells, hstored, -⟩ := execute_leavesOpen demo "2.0.0" openSource r hr
  exact ⟨r, hr, document, steps, hread, hspells, hstored _ hdefault⟩

/-- A registry is not closed in general: a list is stored for a default, and a set is left in the
metadata. -/
theorem execute_notClosed : ∃ r, (execute demo "2.0.0" openSource).outcome = .ok r ∧
    .list [.int 1, .int 2] ∈ r.stored ∧
    (∃ v ∈ r.locked, Value.Within (.set [.str "g"]) v) ∧ ¬ r.IsClosed := by
  obtain ⟨r, hr, hdefault, htags⟩ := exists_openRegistry
  refine ⟨r, hr, hdefault, ⟨_, List.mem_cons_self, .content htags .here⟩, fun h => ?_⟩
  cases h _ (List.mem_append_left _ hdefault) _ .here

end Execution

end PluginDescriptor
