import PluginDescriptor.Error.Failure
import PluginDescriptor.Proofs.Fields
import PluginDescriptor.Proofs.Outcome
import PluginDescriptor.Proofs.Value.Json

/-!
# Which errors have a JSON text

The report of an error is texts, but for its context, which holds facts that are given as values: the
name of an argument or of a validator, and the places of settings. The report can be put into JSON
when these can (`Problem.isExpressible_report`, `SettingsProblem.isExpressible_report`).
-/

set_option autoImplicit false

namespace PluginDescriptor

namespace Value

/-- What is put into a mapping under a text leaves it expressible. -/
theorem isExpressible_put {entries : Entries} (h : (map entries).isExpressible = true) (key : String)
    {v : Value} (hv : v.isExpressible = true) :
    (map (Fields.put entries (.str key) v)).isExpressible = true := by
  rw [isExpressible, areEntriesExpressible_iff] at h ⊢
  intro entry hentry
  rcases Fields.mem_put hentry with hkept | ⟨hnew, hkey⟩
  · exact h entry hkept
  · have hentryKey : entry.1 = .str key := hkey.elim id (str_same_iff key entry.1).mp
    rw [hentryKey, hnew]
    exact ⟨rfl, hv⟩

theorem isExpressible_putAll_ofFields {entries : Entries}
    (h : (map entries).isExpressible = true) {fields : List (String × Value)}
    (hfields : ∀ field ∈ fields, field.2.isExpressible = true) :
    (map (entries.putAll (Entries.ofFields fields))).isExpressible = true := by
  induction fields generalizing entries with
  | nil => exact h
  | cons field rest ih =>
    obtain ⟨hfield, hrest⟩ := List.forall_mem_cons.mp hfields
    exact ih (isExpressible_put h field.1 hfield) hrest

end Value

/-! ## Reports -/

namespace Facts

/-- The values of the facts. -/
def values (facts : Facts) : List Value :=
  [facts.path, facts.entity, facts.argument, facts.property, facts.requirement,
    facts.requiredVersion, facts.platformVersion, facts.searchRoots, facts.configPath,
    facts.violations, facts.pluginKind, facts.pluginName]

/-- Each of the facts has a JSON text. -/
def AreExpressible (facts : Facts) : Prop := ∀ v ∈ facts.values, v.isExpressible = true

theorem ofClass_subset_values (facts : Facts) (c : ErrorClass) :
    (facts.ofClass c).map (·.2) ⊆ facts.values := by
  cases c <;> simp [ofClass, plugin, values]

end Facts

namespace Report

/-- The context of the report has a JSON text. -/
def IsExpressible (r : Report) : Prop := (Value.map r.context).isExpressible = true

/-- Apart from its context, a report is texts. -/
theorem isExpressible_toValue_iff (r : Report) (correlation : String) (time : TimeStamp) :
    (r.toValue correlation time).isExpressible = true ↔ r.IsExpressible := by
  rw [toValue, Value.isExpressible_record_iff]
  simp [IsExpressible]

/-- A report of facts that have JSON texts has one. -/
theorem isExpressible_ofFacts (c : ErrorClass) (message code : String) {given : Entries}
    {facts : Facts} (cause : Option Fault) (hgiven : (Value.map given).isExpressible = true)
    (hfacts : facts.AreExpressible) : (ofFacts c message code given facts cause).IsExpressible := by
  have hroots : facts.searchRoots.isExpressible = true := hfacts _ (by simp [Facts.values])
  unfold ofFacts IsExpressible contextOf
  refine List.foldlRecOn (motive := fun es => (Value.map es).isExpressible = true) _ _ ?_ ?_
  · split
    · exact Value.isExpressible_put hgiven _ hroots
    · exact hgiven
  · rintro es hes ⟨key, v⟩ hfact
    have hv : v ∈ facts.values := facts.ofClass_subset_values c (List.mem_map.mpr ⟨_, hfact, rfl⟩)
    dsimp only
    split
    · exact Value.isExpressible_put hes key (hfacts v hv)
    · exact hes

end Report

/-! ## Problems -/

namespace Problem

variable (problem : Problem)

theorem isExpressible_given (about : Subject) :
    (Value.map (problem.given about)).isExpressible = true := by
  have hfields : ∀ fields : List (String × Value),
      (∀ field ∈ fields, field.2.isExpressible = true) →
        (Value.map (Entries.ofFields fields)).isExpressible = true :=
    fun fields => (Value.isExpressible_record_iff fields).mpr
  cases problem with
  | unreadable _ => exact hfields _ (by simp)
  | unknownEntity _ known => exact hfields _ (by simp)
  | _ => rfl

theorem areExpressible_facts (h : problem.facts.argument.isExpressible = true) :
    problem.facts.AreExpressible := by
  unfold Facts.AreExpressible Facts.values
  cases problem <;> simp_all [facts]

/-- An error about an argument that has a JSON text has one itself. -/
theorem isExpressible_report (h : problem.facts.argument.isExpressible = true)
    (about : Option Subject) : (problem.report about).IsExpressible := by
  have hfacts (s : Subject) : Facts.AreExpressible { problem.facts with
      path := .ofText? s.path, pluginKind := .str s.kind, pluginName := .str s.name } := by
    have hown := problem.areExpressible_facts h
    unfold Facts.AreExpressible Facts.values at hown ⊢
    simp only [List.forall_mem_cons] at hown ⊢
    obtain ⟨-, hentity, hargument, hproperty, hrequirement, hrequired, hplatform, hroots, hconfig,
      hviolations, -, -, hnil⟩ := hown
    exact ⟨Value.isExpressible_ofText? s.path, hentity, hargument, hproperty, hrequirement, hrequired,
      hplatform, hroots, hconfig, hviolations, rfl, rfl, hnil⟩
  have hplain (s : Subject) := Report.isExpressible_ofFacts problem.errorClass (problem.message s)
    problem.code.text problem.cause (problem.isExpressible_given s) (hfacts s)
  unfold report
  split
  · exact Value.isExpressible_putAll_ofFields (hplain _)
      (List.forall_mem_cons.mpr ⟨rfl, List.forall_mem_singleton.mpr rfl⟩)
  · exact hplain _

end Problem

namespace Violation

/-- The place of the violation has a JSON text. -/
def IsPlaced (v : Violation) : Prop := ∀ part ∈ v.place, part.isExpressible = true

theorem IsPlaced.isExpressible_toValue {v : Violation} (h : v.IsPlaced) :
    v.toValue.isExpressible = true := by
  have hplace : (Value.list v.place).isExpressible = true := (Value.areExpressible_iff _).mpr h
  rw [toValue, Value.isExpressible_record_iff]
  simp [hplace]

end Violation

namespace SettingsProblem

/-- The values that the error states as they are given have JSON texts. -/
def StatesExpressible : SettingsProblem → Prop
  | validatorUnknown name => name.isExpressible = true
  | violated violations => ∀ v ∈ violations, v.IsPlaced
  | _ => True

/-- An error that states what has a JSON text has one itself. -/
theorem isExpressible_report {problem : SettingsProblem} (h : problem.StatesExpressible) :
    problem.report.IsExpressible := by
  have hgiven : (Value.map problem.given).isExpressible = true := by
    cases problem with
    | validatorUnknown name =>
      exact (Value.isExpressible_record_iff _).mpr (List.forall_mem_singleton.mpr h)
    | _ => rfl
  have hfacts : problem.facts.AreExpressible := by
    unfold Facts.AreExpressible Facts.values
    cases problem with
    | violated violations =>
      have hlist : (Value.list (violations.map Violation.toValue)).isExpressible = true := by
        rw [Value.isExpressible, Value.areExpressible_iff, List.forall_mem_map]
        exact fun v hv => (h v hv).isExpressible_toValue
      simp [facts, hlist]
    | _ => simp [facts]
  exact Report.isExpressible_ofFacts _ _ _ _ hgiven hfacts

end SettingsProblem

/-! ## Failures -/

namespace Failure

/-- The report of the failure, if it has one, has a JSON text. -/
def IsExpressible (failure : Failure) : Prop := ∀ r, failure.report? = some r → r.IsExpressible

theorem isExpressible_fault (fault : Fault) : (Failure.fault fault).IsExpressible :=
  fun _ h => nomatch h

theorem isExpressible_violations (violations : List Violation) :
    (Failure.violations violations).IsExpressible :=
  fun _ h => nomatch h

theorem isExpressible_descriptor {problem : Problem}
    (h : problem.facts.argument.isExpressible = true) (about : Option Subject) :
    (Failure.descriptor problem about).IsExpressible := by
  rintro r hr
  cases hr
  exact problem.isExpressible_report h about

theorem isExpressible_configuration {problem : SettingsProblem} (h : problem.StatesExpressible) :
    (Failure.configuration problem).IsExpressible := by
  rintro r hr
  cases hr
  exact SettingsProblem.isExpressible_report h

end Failure

/-- Whatever the computation fails with has a JSON text, if it is reported at all. -/
abbrev FailsExpressibly {α : Type} (x : Except Failure α) : Prop := FailsOnly Failure.IsExpressible x

section

variable {α : Type}

theorem failsExpressibly_fault (fault : Fault) :
    FailsExpressibly (.error (.fault fault) : Except Failure α) :=
  failsOnly_error (Failure.isExpressible_fault fault)

theorem failsExpressibly_ofFault (x : Except Fault α) : FailsExpressibly (Failure.ofFault x) :=
  failsOnly_mapError Failure.isExpressible_fault x

theorem failsExpressibly_descriptor {problem : Problem}
    (h : problem.facts.argument.isExpressible = true) (about : Option Subject) :
    FailsExpressibly (.error (.descriptor problem about) : Except Failure α) :=
  failsOnly_error (Failure.isExpressible_descriptor h about)

theorem failsExpressibly_configuration {problem : SettingsProblem} (h : problem.StatesExpressible) :
    FailsExpressibly (.error (.configuration problem) : Except Failure α) :=
  failsOnly_error (Failure.isExpressible_configuration h)

end

end PluginDescriptor
