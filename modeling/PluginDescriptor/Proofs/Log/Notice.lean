import PluginDescriptor.Log.Record
import PluginDescriptor.Proofs.Error.Report

/-!
# The notices of a computation

Which notices a computation leaves is told from its parts, as is what it fails with: those of the
first part, and those of the rest when the first part has a value (`Logged.notesOnly_bind`). A notice
that becomes a record keeps each of its parts that is something (`find?_recordOf`).
-/

set_option autoImplicit false

namespace PluginDescriptor

namespace Logged

variable {α β : Type} {P : Notice → Prop}

/-- Every notice of the computation has a property. -/
def NotesOnly (P : Notice → Prop) (x : Logged α) : Prop := ∀ n ∈ x.notices, P n

theorem notesOnly_of (outcome : Except Failure α) : NotesOnly P (of outcome) := List.forall_mem_nil P

theorem notesOnly_pure (a : α) : NotesOnly P (pure a : Logged α) := List.forall_mem_nil P

theorem notesOnly_fail (failure : Failure) : NotesOnly P (fail failure : Logged α) :=
  List.forall_mem_nil P

theorem notesOnly_note {n : Notice} (h : P n) : NotesOnly P (note n) := List.forall_mem_singleton.mpr h

theorem notesOnly_bind {x : Logged α} {f : α → Logged β} (hx : NotesOnly P x)
    (hf : ∀ a, x.outcome = .ok a → NotesOnly P (f a)) : NotesOnly P (x >>= f) := by
  obtain ⟨notices, outcome⟩ := x
  cases outcome with
  | ok a => exact List.forall_mem_append.mpr ⟨hx, hf a rfl⟩
  | error failure => exact hx

end Logged

/-- A part of a record that is something is found under its name. -/
theorem find?_recordOf {parts : Named Value} (hnodup : parts.names.Nodup) {name : String} {v : Value}
    (h : (name, v) ∈ parts) (hv : (v != .null) = true) :
    (recordOf parts).find? name = some v := by
  rw [recordOf, Fields.ofFields_eq_ofNamed, Fields.find?_ofNamed]
  apply Named.lookup_of_mem
  · exact hnodup.sublist (List.filter_sublist.map _)
  · exact List.mem_filter.mpr ⟨h, hv⟩

namespace Notice

/-- The record of a notice about a plugin has its kind and its name. -/
theorem find?_record {n : Notice} {kind name : String}
    (h : n.plugin = some { kind := some kind, name := some name }) (time : String) :
    (n.record time).find? "plugin_kind" = some (.str kind) ∧
      (n.record time).find? "plugin_name" = some (.str name) := by
  have hplugin : n.plugin.bind (·.kind) = some kind ∧ n.plugin.bind (·.name) = some name := by
    rw [h]
    exact ⟨rfl, rfl⟩
  unfold record
  rw [hplugin.1, hplugin.2]
  constructor
  · apply find?_recordOf
    · simp [Named.names]
    · simp [Value.ofText?]
    · rfl
  · apply find?_recordOf
    · simp [Named.names]
    · simp [Value.ofText?]
    · rfl

end Notice

end PluginDescriptor
