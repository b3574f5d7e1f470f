import PluginDescriptor.Proofs.Command.Failing
import PluginDescriptor.Proofs.Value.Ascii

/-!
# Exit codes

The exit code of a run tells how its work ends, and nothing else about it (`Run.exit_run`): what a run
fails with can be reported in each form, so no report breaks a run off. The work of a check is the same
for every form of what is printed, up to the registry that is shown at its end (`Run.checked`); the form
matters only for whether that registry can be shown (`Run.exit_check`): as text, if the encoding of the
output has its characters, and as JSON, which is ASCII, if it has a JSON text.
-/

set_option autoImplicit false

namespace PluginDescriptor.Command.Run

/-- The exit code for a failure. -/
def failureExit : Failure → Nat
  | .descriptor _ _ => exitDescriptor
  | .configuration _ | .violations _ | .fault _ => exitConfiguration

/-- The exit code for the end of a computation. -/
def exitOf {α : Type} : Except Failure α → Nat
  | .ok _ => exitOk
  | .error failure => failureExit failure

theorem exit_after (errors : String) (o : Outcome) : (after errors o).exit = o.exit := rfl

/-- A report that has a JSON text is written out in each form. -/
theorem exit_reported (stamp : Stamp) (form : OutputForm) (exit : Nat) {r : Report}
    (h : r.IsExpressible) (files : FileTree) : (reported stamp form exit r files).exit = exit := by
  cases form with
  | text => rfl
  | json =>
    have herror : (r.toValue stamp.report stamp.time).isExpressible = true :=
      (r.isExpressible_toValue_iff _ _).mpr h
    have hrecord : (Value.record
        [("ok", .bool false), ("error", r.toValue stamp.report stamp.time)]).isExpressible = true :=
      (Value.isExpressible_record_iff _).mpr
        (List.forall_mem_cons.mpr ⟨rfl, List.forall_mem_singleton.mpr herror⟩)
    obtain ⟨text, htext⟩ := (Value.json_eq_ok_iff JsonStyle.page _).mpr hrecord
    rw [reported, htext]

theorem exit_failed (stamp : Stamp) (form : OutputForm) (table : LogTable) (files : FileTree)
    {failure : Failure} (h : failure.IsExpressible) :
    (failed stamp form table files failure).exit = failureExit failure := by
  cases failure with
  | descriptor problem about => exact exit_reported stamp form _ (h _ rfl) files
  | configuration problem => exact exit_reported stamp form _ (h _ rfl) files
  | violations violations => rfl
  | fault fault => rfl

/-- The files that a run finds once its log is set up. -/
def prepare (files : FileTree) (s : Settings) : Except Failure FileTree :=
  Failure.ofFault (LogTable.ofSettings [] files s.log).2

/-- The work of a run. -/
def ending (encoding : Text.Encoding) (around : Surroundings) (i : Invocation) :
    Except Failure String := do
  let s ← (settings around i).outcome
  let files ← prepare around.files s
  (job encoding (Catalog.ofSettings s) files i).outcome

theorem exit_work (stamp : Stamp) (encoding : Text.Encoding) (i : Invocation) (s : Settings)
    (table : LogTable) (files : FileTree) :
    (work stamp encoding i (Catalog.ofSettings s) table files).exit =
      exitOf (job encoding (Catalog.ofSettings s) files i).outcome := by
  have hjob := failsExpressibly_job encoding s files i
  unfold work
  rw [exit_after, Logged.outcome_inRun]
  cases houtcome : (job encoding (Catalog.ofSettings s) files i).outcome with
  | ok output => rfl
  | error failure => exact exit_failed _ _ _ _ (hjob failure houtcome)

/-- A run exits as its work ends. -/
theorem exit_run (stamp : Stamp) (encoding : Text.Encoding) (around : Surroundings) (i : Invocation) :
    (run stamp encoding around i).exit = exitOf (ending encoding around i) := by
  have hread := failsExpressibly_settings around i
  unfold run ending
  rw [exit_after]
  cases hsettings : (settings around i).outcome with
  | error failure => exact exit_failed _ _ _ _ (hread failure hsettings)
  | ok s =>
    rw [ok_bind_eq, prepare]
    dsimp only
    match LogTable.ofSettings [] around.files s.log with
    | (table, .error fault) => rfl
    | (table, .ok files) => exact exit_work ..

/-! ## Checks -/

/-- The registry that a check loads with some settings, if the request that is to be checked is in
order. -/
def checkedWith (s : Settings) (files : FileTree) (i : Invocation) (entity : Option String)
    (arguments : List String) : Except Failure Registry := do
  let c := Catalog.ofSettings s
  let r ← (c.load (← prepare files s) Version.current i.name i.kind).outcome
  (checkTask c r entity arguments).outcome
  return r

/-- The registry that a check loads, if the request that is to be checked is in order. -/
def checked (around : Surroundings) (i : Invocation) (entity : Option String)
    (arguments : List String) : Except Failure Registry := do
  checkedWith (← (settings around i).outcome) around.files i entity arguments

/-- The registry can be shown in a form. -/
def isShowable (encoding : Text.Encoding) (r : Registry) : OutputForm → Bool
  | .text => Value.areWritable (summarizedKeys.map (metadataValue r)) && encoding.holds (summary r)
  | .json => r.toValue.isExpressible

theorem isExpressible_toValue_iff (r : Registry) :
    r.toValue.isExpressible = true ↔
      (Value.map (Value.thawEntries r.metadata)).isExpressible = true ∧
        ∀ e ∈ r.entities, e.toValue.isExpressible = true := by
  have hrequirements : (Value.map r.requirements).isExpressible = true := by
    unfold Registry.requirements
    cases r.minimum <;> rfl
  have hentities : (Value.map (r.entities.map fun e => (.str e.name, e.toValue))).isExpressible = true ↔
      ∀ e ∈ r.entities, e.toValue.isExpressible = true := by
    rw [Value.isExpressible, Value.areEntriesExpressible_iff, List.forall_mem_map]
    simp only [Value.isExpressibleKey, true_and]
  rw [Registry.toValue, Value.isExpressible_record_iff]
  simp [hrequirements, hentities]

/-- What can be shown as JSON can be shown as text, if the encoding has its characters. -/
theorem isShowable_text {encoding : Text.Encoding} {r : Registry}
    (h : isShowable encoding r .json = true) :
    isShowable encoding r .text = encoding.holds (summary r) := by
  have hmetadata := ((isExpressible_toValue_iff r).mp h).1
  suffices hwritable : Value.areWritable (summarizedKeys.map (metadataValue r)) = true by
    rw [isShowable, hwritable, Bool.true_and]
  rw [Value.areWritable_iff, List.forall_mem_map]
  intro key _
  unfold metadataValue
  cases hfound : Fields.find? r.metadata key with
  | none => rfl
  | some v =>
    have hthawed : Fields.find? (Value.thawEntries r.metadata) key = some v.thaw := by
      rw [Value.find?_thawEntries, hfound]
      rfl
    obtain ⟨k, hmem⟩ := Fields.exists_mem_of_get? hthawed
    rw [Value.isExpressible, Value.areEntriesExpressible_iff] at hmetadata
    have hwritable := v.thaw.isWritable_of_isExpressible (hmetadata (k, v.thaw) hmem).2
    rw [Value.isWritable_thaw] at hwritable
    exact hwritable

theorem printed_eq_ok_iff (encoding : Text.Encoding) {text s : String} :
    printed encoding text = .ok s ↔ encoding.holds text = true ∧ text = s := by
  unfold printed
  cases encoding.holds text with
  | true => simp
  | false => simp

/-- A registry as it is printed in a form. -/
def display (encoding : Text.Encoding) (form : OutputForm) (r : Registry) : Except Failure String :=
  shown form r >>= printed encoding

theorem display_eq_ok_iff (encoding : Text.Encoding) (form : OutputForm) (r : Registry) :
    (∃ s, display encoding form r = .ok s) ↔ isShowable encoding r form = true := by
  unfold display
  simp only [bind_eq_ok_iff, printed_eq_ok_iff]
  cases form with
  | text =>
    rw [shown, isShowable]
    cases Value.areWritable (summarizedKeys.map (metadataValue r)) with
    | true => simp
    | false => simp
  | json =>
    have hrecord : (Value.record [("ok", .bool true), ("descriptor", r.toValue)]).isExpressible =
        r.toValue.isExpressible := by
      rw [Bool.eq_iff_iff, Value.isExpressible_record_iff]
      simp [Value.isExpressible, Value.isWritable]
    rw [shown, isShowable, ← hrecord, ← Value.json_eq_ok_iff JsonStyle.page]
    simp only [Failure.ofFault, mapError_eq_ok_iff]
    constructor
    · rintro ⟨-, text, htext, -⟩
      exact ⟨text, htext⟩
    · rintro ⟨text, htext⟩
      exact ⟨text, text, htext, Value.holds_json encoding htext, rfl⟩

/-- What cannot be printed is a fault. -/
theorem failsOnly_display (encoding : Text.Encoding) (form : OutputForm) (r : Registry) :
    FailsOnly (fun failure => failureExit failure = exitConfiguration)
      (display encoding form r) := by
  refine failsOnly_bind ?_ fun text _ => ?_
  · cases form with
    | text =>
      rw [shown]
      split
      · exact failsOnly_ok _
      · exact failsOnly_error rfl
    | json =>
      rw [shown, Failure.ofFault]
      cases (Value.record [("ok", .bool true), ("descriptor", r.toValue)]).json JsonStyle.page with
      | ok s => exact failsOnly_ok s
      | error fault => exact failsOnly_error rfl
  · unfold printed
    split
    · exact failsOnly_ok _
    · exact failsOnly_error rfl

theorem exitOf_display (encoding : Text.Encoding) (form : OutputForm) (r : Registry) :
    exitOf (display encoding form r) =
      if isShowable encoding r form then exitOk else exitConfiguration := by
  cases h : display encoding form r with
  | ok s =>
    rw [(display_eq_ok_iff encoding form r).mp ⟨s, h⟩]
    rfl
  | error failure =>
    have hno : ¬ isShowable encoding r form = true := by
      rw [← display_eq_ok_iff, h]
      rintro ⟨s, hs⟩
      cases hs
    rw [if_neg hno]
    exact failsOnly_display encoding form r failure h

/-- The work of a check ends with what is displayed of the registry that it loads. -/
theorem ending_check (encoding : Text.Encoding) (around : Surroundings) {i : Invocation}
    {entity : Option String} {arguments : List String} (htask : i.task = .check entity arguments) :
    ending encoding around i =
      checked around i entity arguments >>= display encoding i.form := by
  have hjob (c : Catalog) (files : FileTree) : (job encoding c files i).outcome =
      ((c.load files Version.current i.name i.kind).outcome >>= fun r =>
        (checkTask c r entity arguments).outcome >>= fun _ => display encoding i.form r) := by
    unfold job answer
    rw [htask]
    simp only [Logged.outcome_bind, Logged.outcome_of, bind_assoc, display]
  unfold ending checked checkedWith
  simp only [hjob, bind_assoc, pure_bind]

/-- A check exits as its work ends, and when that ends well, as the form allows. -/
theorem exit_check (stamp : Stamp) (encoding : Text.Encoding) (around : Surroundings) {i : Invocation}
    {entity : Option String} {arguments : List String} (htask : i.task = .check entity arguments) :
    (run stamp encoding around i).exit =
      match checked around i entity arguments with
      | .ok r => if isShowable encoding r i.form then exitOk else exitConfiguration
      | .error failure => failureExit failure := by
  rw [exit_run, ending_check encoding around htask]
  cases checked around i entity arguments with
  | ok r => exact exitOf_display encoding i.form r
  | error failure => rfl

end PluginDescriptor.Command.Run
