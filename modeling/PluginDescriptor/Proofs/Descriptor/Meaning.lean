import PluginDescriptor.Proofs.Descriptor.Acceptance
import PluginDescriptor.Proofs.Freezing

/-!
# What an accepted document means

The registry of an accepted document holds what the steps of the document declare, and nothing else
(`Execution.declares_of_eq_ok`). Each part of it is told from the list of steps alone: the names of
entities, what is declared under each name, the metadata, the least version of the host and the usage.
-/

set_option autoImplicit false

namespace PluginDescriptor

/-- A registry is what steps declare. -/
structure Declares (steps : List Step) (r : Registry) : Prop where
  /-- The entities are those that steps name, each once, in the order of their first naming. -/
  names : r.entityNames = (steps.filterMap Step.entityName?).eraseDups
  /-- Each entity is what is declared under its name. -/
  entities : ∀ e ∈ r.entities, Describes steps e
  /-- Arguments and results are all declared under the name of an entity. -/
  owner : ∀ before step rest, steps = before ++ step :: rest → step.NeedsEntity →
    ∃ e ∈ r.entities, lastEntity? before = some e.name
  /-- The usage is the last one, or empty. -/
  usage : r.usage = (steps.filterMap Step.usage?).getLast?.getD ""
  /-- The requirement is the last one, if there is one. -/
  requirements : r.requirements = (steps.flatMap Step.requirements).getLast?.toList
  /-- The metadata are those of the one metadata step. -/
  metadata : ∃ fields, steps.filterMap Step.metadata? = [fields] ∧
    Value.thawEntries r.metadata = Value.plainEntries fields

namespace Grammar

/-- The version that acceptable requirements state is the last of them. -/
theorem lastMinimum_eq_getLast? {requirements : Entries}
    (h : ∀ entry ∈ requirements, IsRequirement entry) :
    (lastMinimum requirements).map (fun version => (Value.str hostRequirement, Value.str version)) =
      requirements.getLast? := by
  rcases List.eq_nil_or_concat' requirements with rfl | ⟨earlier, ⟨kind, version⟩, rfl⟩
  · rfl
  · obtain ⟨hkind, minimum, hversion, -⟩ := h (kind, version) (by simp)
    simp only at hkind hversion
    subst hkind hversion
    rw [lastMinimum_append, List.getLast?_concat]
    rfl

end Grammar

namespace Execution

open Grammar

/-- The registry that is built from the state reached is what the steps declare. -/
theorem declares_of_allAdmitted {subject : Subject} {host : String} {steps : List Step}
    {r : Registry} (hnames : ∀ step ∈ steps, step.NamesSomething) (h : AllAdmitted subject host steps)
    (hbuild : (reached subject host steps).draft.build = .ok r) : Declares steps r := by
  obtain ⟨fields, hmetadata, rfl⟩ := (build_eq_ok_iff _ r).mp hbuild
  have hdescriptor := isDescriptor_of_allAdmitted hnames h hmetadata
  refine ⟨entityNames_reached subject host steps, describes_of_mem_reached subject host steps, ?_,
    usage_reached subject host steps, ?_, ⟨fields, ?_, Value.thawEntries_freezeEntries fields⟩⟩
  · intro before step rest hsplit hneeds
    obtain ⟨name, hname⟩ := Option.isSome_iff_exists.mp (h.lastEntity?_isSome hnames hsplit hneeds)
    have hmem : name ∈ (reached subject host steps).draft.entities.map (·.name) := by
      rw [entityNames_reached, List.mem_eraseDups, hsplit, List.filterMap_append]
      exact List.mem_append_left _ (mem_of_lastEntity? hname)
    obtain ⟨e, he, rfl⟩ := List.mem_map.mp hmem
    exact ⟨e, he, hname⟩
  · rw [Registry.requirements, minimum_reached,
      lastMinimum_eq_getLast? hdescriptor.isRequirements.entries]
  · rw [metadata_of_allAdmitted h, hmetadata]
    rfl

/-- The registry of an accepted document is what the steps that the document spells declare. -/
theorem declares_of_eq_ok (subject : Subject) (host : String) (document : Value) (r : Registry)
    (h : (executeDocument subject host document).outcome = .ok r) :
    ∃ steps, Spells document steps ∧ Declares steps r := by
  obtain ⟨steps, hspells, hadmitted, hbuild⟩ :=
    (executeDocument_eq_ok_iff subject host document r).mp h
  exact ⟨steps, hspells, declares_of_allAdmitted hspells.namesSomething hadmitted hbuild⟩

/-- A plugin without a file. -/
def demo : Subject := { kind := "agent", name := "demo", path := none }

/-- A descriptor that names an action twice, and declares an argument of it twice. -/
def twiceNamed : Value :=
  let record (fields : Named String) : Entries := fields.map fun (key, s) => (.str key, .str s)
  let steps : List Step := [
    .metadata (metadataKeys.map fun key => (.str key, if key = "timeout" then .int 30 else .str key)),
    .requires (record [(hostRequirement, "1.2")]),
    .action (record [("name", "stop"), ("description", "Stop"), ("display", "ok")]),
    .input [("mode", record [("prompt", "Mode"), ("description", "First"), ("type", "boolean")])],
    .action (record [("name", "start"), ("description", "Start")]),
    .action (record [("name", "stop"), ("description", "Stop again")]),
    .input [
      ("force", record [("prompt", "Force"), ("description", "Force"), ("type", "boolean")]),
      ("mode", record [
        ("prompt", "Mode"), ("description", "Second"), ("type", "integer"), ("unit", "s")])],
    .output [("done", record [("description", "Done"), ("display_as", "text")])]]
  .list (steps.map Step.spelling)

theorem declares_of_eq_ok_twiceNamed :
    ∃ r, (executeDocument demo "1.10" twiceNamed).outcome = .ok r ∧
      r.entityNames = ["stop", "start"] ∧ ∃ steps, Spells twiceNamed steps ∧ Declares steps r := by
  have hnames : (executeDocument demo "1.10" twiceNamed).outcome.toOption.map
      Registry.entityNames = some ["stop", "start"] := by
    decide +kernel
  obtain ⟨r, hr, hnames⟩ := Option.map_eq_some_iff.mp hnames
  have hok := toOption_eq_some_iff.mp hr
  exact ⟨r, hok, hnames, declares_of_eq_ok _ _ _ r hok⟩

end Execution

end PluginDescriptor
