import PluginDescriptor.Descriptor.Problem
import PluginDescriptor.Proofs.Fields

/-!
# What the context of a report holds

A report puts the facts of its class into its context, each under its own key, as far as they count
as true (`Report.find?_contextOf`). Every class of errors about descriptors has the plugin among its
facts, so a report about a subject with a kind and a name has both (`Problem.names_report`).
-/

set_option autoImplicit false

namespace PluginDescriptor

theorem Value.isTruthy_str {s : String} (h : s ≠ "") : (Value.str s).isTruthy = true := by
  simpa [isTruthy] using h

namespace Facts

/-- No class states two facts under one key. -/
theorem nodup_names_ofClass (facts : Facts) (c : ErrorClass) :
    Named.names (facts.ofClass c) |>.Nodup := by
  cases c <;> simp [ofClass, plugin, Named.names]

/-- An error about a descriptor states the plugin. -/
theorem plugin_subset_ofClass (facts : Facts) {c : ErrorClass} (h : c.isDescriptor = true) :
    facts.plugin ⊆ facts.ofClass c := by
  cases c with
  | general => cases h
  | configuration => cases h
  | settings => cases h
  | descriptor => exact List.Subset.refl _
  | notFound => exact List.Subset.refl _
  | requirement => exact List.subset_cons_self _ _
  | _ => exact List.subset_append_right _ _

end Facts

namespace Report

/-- The facts that a class puts into the context. -/
def stated (c : ErrorClass) (facts : Facts) : Named Value :=
  (facts.ofClass c).filter fun fact => fact.2.isTruthy

theorem contextOf_eq (c : ErrorClass) (given : Entries) (facts : Facts) :
    ∃ before : Entries, contextOf c given facts = before.putAll (Entries.ofFields (stated c facts)) := by
  unfold contextOf stated
  simp only [Entries.putAll, Entries.ofFields, List.foldl_map, List.foldl_filter]
  exact ⟨_, rfl⟩

/-- A fact that counts as true is in the context, under its key. -/
theorem find?_contextOf {c : ErrorClass} (given : Entries) {facts : Facts} {key : String} {v : Value}
    (hfact : (key, v) ∈ facts.ofClass c) (htrue : v.isTruthy = true) :
    Fields.find? (contextOf c given facts) key = some v := by
  have hnodup : (Named.names (stated c facts).reverse).Nodup := by
    rw [Named.names, List.map_reverse, List.Nodup, List.pairwise_reverse]
    refine ((facts.nodup_names_ofClass c).sublist (List.filter_sublist.map _)).imp fun h => ?_
    exact Ne.symm h
  have hmem : (key, v) ∈ (stated c facts).reverse := by
    rw [List.mem_reverse]
    exact List.mem_filter.mpr ⟨hfact, htrue⟩
  obtain ⟨before, hbefore⟩ := contextOf_eq c given facts
  rw [hbefore, Entries.find?_putAll_ofFields, Named.lookup_of_mem hnodup hmem, Option.some_or]

/-- The report has the kind and the name of a plugin in its context. -/
structure Names (r : Report) (kind name : String) : Prop where
  kind : r.context.find? "plugin_kind" = some (.str kind)
  name : r.context.find? "plugin_name" = some (.str name)

/-- A report with facts of a class of errors about descriptors names the plugin of the facts. -/
theorem names_ofFacts {c : ErrorClass} (hc : c.isDescriptor = true) {facts : Facts}
    {kind name : String} (hkind : kind ≠ "") (hname : name ≠ "")
    (hplugin : facts.plugin = [("plugin_kind", .str kind), ("plugin_name", .str name)])
    (message code : String) (given : Entries) (cause : Option Fault) :
    (ofFacts c message code given facts cause).Names kind name := by
  have hstated := facts.plugin_subset_ofClass hc
  rw [hplugin, List.cons_subset, List.cons_subset] at hstated
  obtain ⟨hstatedKind, hstatedName, -⟩ := hstated
  constructor
  · exact find?_contextOf given hstatedKind (Value.isTruthy_str hkind)
  · exact find?_contextOf given hstatedName (Value.isTruthy_str hname)

end Report

namespace Problem

/-- Whatever is wrong with a descriptor or a request is reported as such. -/
theorem isDescriptor_errorClass (problem : Problem) : problem.errorClass.isDescriptor = true := by
  cases problem <;> rfl

/-- What a problem is reported as. -/
theorem errorClass_report (problem : Problem) (about : Option Subject) :
    (problem.report about).errorClass = problem.errorClass := by
  unfold report
  split <;> rfl

/-- A report about a subject names its plugin. -/
theorem names_report (problem : Problem) {s : Subject} (hkind : s.kind ≠ "") (hname : s.name ≠ "") :
    (problem.report (some s)).Names s.kind s.name := by
  have hclass := problem.isDescriptor_errorClass
  unfold report
  split
  · -- the plugin is written over whatever else is known of a refused argument
    constructor
    · rw [Entries.find?_putAll_ofFields]
      rfl
    · rw [Entries.find?_putAll_ofFields]
      rfl
  · apply Report.names_ofFacts hclass hkind hname
    rfl

/-- A report about a subject of a malformed document has its path, when there is one. -/
theorem find?_path_report {problem : Problem} (hmalformed : problem.errorClass = .malformed)
    {s : Subject} {path : String} (hpath : s.path = some path) (hne : path ≠ "") :
    (problem.report (some s)).context.find? "path" = some (.str path) := by
  unfold report
  split
  · cases hmalformed
  · apply Report.find?_contextOf
    · rw [hmalformed, Option.getD_some, hpath]
      exact List.mem_cons_self
    · exact Value.isTruthy_str hne

end Problem

end PluginDescriptor
