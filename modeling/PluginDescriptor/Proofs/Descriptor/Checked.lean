import PluginDescriptor.Descriptor.Drafting
import PluginDescriptor.Proofs.Outcome

/-!
# Primitives as checked changes

A primitive asks the draft all that it may refuse before it writes into it, so that it changes the draft
when it succeeds and leaves it as it was when it fails (`Drafting.KeepsOnFailure`). Only requirements are
noted one by one. For each primitive, what it comes to is spelled out once (`Draft.declareMetadata_eq`
and so on).
-/

set_option autoImplicit false

namespace PluginDescriptor

namespace Drafting

variable {α β : Type} {d : Draft}

/-! ## Computations that fail -/

/-- The draft that a checked change leads to, or the draft as it was. -/
def onSuccess (d : Draft) : Except Failure (Draft × α) → Draft × Except Failure α
  | .ok (after, a) => (after, .ok a)
  | .error failure => (d, .error failure)

/-- A call gives what the checked change gives. -/
theorem onSuccess_snd (d : Draft) (checked : Except Failure (Draft × α)) :
    (onSuccess d checked).2 = checked.map (·.2) := by
  cases checked <;> rfl

theorem result_of_run {x : Drafting α} {checked : Except Failure (Draft × α)}
    (h : x.run d = onSuccess d checked) : x.result d = checked := by
  rw [result, h]
  cases checked <;> rfl

/-- A computation that leaves the draft as it was when it fails. -/
def KeepsOnFailure (x : Drafting α) : Prop :=
  ∀ d failure, (x.run d).2 = .error failure → (x.run d).1 = d

theorem KeepsOnFailure.run_eq {x : Drafting α} (h : KeepsOnFailure x) (d : Draft) :
    x.run d = onSuccess d (x.result d) := by
  have hkept := h d
  rw [result]
  match hrun : x.run d with
  | (after, .ok a) => rfl
  | (after, .error failure) =>
    rw [hrun] at hkept
    have hafter : after = d := hkept failure rfl
    rw [hafter]
    rfl

theorem keepsOnFailure_ask (question : Draft → Except Failure α) :
    KeepsOnFailure (ask question) := fun _ _ _ => rfl

theorem keepsOnFailure_write (change : Draft → Draft) : KeepsOnFailure (write change) := by
  intro d failure h
  cases h

/-- What is made of the value of a computation changes no draft. -/
theorem run_bind_pure (x : Drafting α) (f : α → β) (d : Draft) :
    (x >>= fun a => pure (f a)).run d = ((x.run d).1, (x.run d).2.map f) := by
  simp only [bind, andThen, pure]
  cases x.run d with
  | mk after outcome => cases outcome <;> rfl

theorem KeepsOnFailure.bind_pure {x : Drafting α} (h : KeepsOnFailure x) (f : α → β) :
    KeepsOnFailure (x >>= fun a => pure (f a)) := by
  intro d failure hfailure
  rw [run_bind_pure] at hfailure ⊢
  cases houtcome : (x.run d).2 with
  | ok a =>
    rw [houtcome] at hfailure
    cases hfailure
  | error reason => exact h d reason houtcome

/-- A question comes first in a computation as it does in a checked change. -/
theorem run_ask_bind {question : Draft → Except Failure α} {f : α → Drafting β}
    {g : α → Except Failure (Draft × β)} (h : ∀ a, (f a).run d = onSuccess d (g a)) :
    (ask question >>= f).run d = onSuccess d (question d >>= g) := by
  simp only [bind, andThen, ask]
  cases question d with
  | ok a => exact h a
  | error failure => rfl

theorem run_refuse_bind (problem? : Draft → Option Problem) (f : Unit → Drafting α) (d : Draft) :
    (refuse problem? >>= f).run d =
      match problem? d with
      | some problem => (d, d.fail problem)
      | none => (f ()).run d := by
  simp only [bind, andThen, refuse, ask]
  cases problem? d <;> rfl

theorem keepsOnFailure_ask_bind {question : Draft → Except Failure α} {f : α → Drafting β}
    (h : ∀ a, KeepsOnFailure (f a)) : KeepsOnFailure (ask question >>= f) := by
  intro d failure hfailure
  rw [run_ask_bind fun a => (h a).run_eq d] at hfailure ⊢
  cases hchecked : question d >>= fun a => (f a).result d with
  | ok checked =>
    rw [hchecked] at hfailure
    cases hfailure
  | error _ => rfl

/-! ## Primitives that fail -/

theorem keepsOnFailure_metadata (fields : Entries) : KeepsOnFailure (metadata fields) :=
  keepsOnFailure_ask_bind fun _ => keepsOnFailure_ask_bind fun _ => keepsOnFailure_ask_bind fun _ =>
    keepsOnFailure_write _

theorem keepsOnFailure_action (properties : Entries) : KeepsOnFailure (action properties) :=
  keepsOnFailure_ask_bind fun _ => keepsOnFailure_ask_bind fun _ => keepsOnFailure_ask_bind fun _ =>
    (keepsOnFailure_write _).bind_pure _

theorem keepsOnFailure_dataquery (properties : Entries) : KeepsOnFailure (dataquery properties) :=
  keepsOnFailure_ask_bind fun _ => (keepsOnFailure_write _).bind_pure _

theorem keepsOnFailure_declareUnder (entity : Option String) (role : Role) (argument : Value)
    (specOf : Draft → String → Except Failure α) (put : α → Entity → Entity) :
    KeepsOnFailure (declareUnder entity role argument specOf put) :=
  keepsOnFailure_ask_bind fun _ => keepsOnFailure_ask_bind fun _ => keepsOnFailure_ask_bind fun _ =>
    (keepsOnFailure_write _).bind_pure _

/-- What is declared under an entity is checked before it is put there, and so is its key. -/
theorem run_declareUnder (d : Draft) (entity : Option String) (role : Role) (argument : Value)
    (specOf : Draft → String → Except Failure α) (put : α → Entity → Entity) :
    (declareUnder entity role argument specOf put).run d =
      onSuccess d (do
        let name ← d.activeEntity entity role argument
        let spec ← specOf d name
        let _ ← Failure.ofFault argument.asKey
        return (d.updateEntity name (put spec), spec)) :=
  run_ask_bind fun _ => run_ask_bind fun _ => run_ask_bind fun _ => rfl

end Drafting

/-! ## What the primitives come to -/

namespace Draft

variable (d : Draft)

theorem run_metadata (fields : Entries) :
    (Drafting.metadata fields).run d =
      Drafting.onSuccess d ((d.declareMetadata fields).map fun after => (after, ())) := by
  rw [(Drafting.keepsOnFailure_metadata fields).run_eq, declareMetadata]
  cases (Drafting.metadata fields).result d <;> rfl

theorem declareMetadata_eq (fields : Entries) :
    d.declareMetadata fields =
      if d.metadata.isSome then d.fail .metadataRepeated
      else
        match lacking? fields metadataKeys with
        | some key => d.fail (.metadataLacks key)
        | none =>
          let timeout := (fields.find? "timeout").getD .null
          if isNumber timeout then .ok { d with metadata := some fields }
          else d.fail (.badTimeout timeout) := by
  rw [declareMetadata, Drafting.result, Drafting.metadata, Drafting.run_refuse_bind]
  cases d.metadata.isSome with
  | true => rfl
  | false =>
    simp only [Bool.false_eq_true, if_false, Drafting.run_refuse_bind]
    cases lacking? fields metadataKeys with
    | some key => rfl
    | none =>
      simp only [Option.map_none]
      cases isNumber ((fields.find? "timeout").getD .null) <;> rfl

theorem noteRequirements_cons (kind version : Value) (rest : Entries) :
    d.noteRequirements ((kind, version) :: rest) =
      if kind != .str hostRequirement then (d, d.fail (.unknownRequirement kind))
      else
        match d.statedMinimum version with
        | .ok minimum => noteRequirements { d with minimum := some minimum } rest
        | .error failure => (d, .error failure) := by
  rw [noteRequirements, Drafting.noteRequirements, Drafting.run_refuse_bind]
  cases kind != Value.str hostRequirement with
  | true => rfl
  | false =>
    simp only [Bool.false_eq_true, if_false, bind, Drafting.andThen, Drafting.ask, Drafting.write]
    cases d.statedMinimum version <;> rfl

theorem declareRequirements_eq (requirements : Entries) :
    d.declareRequirements requirements =
      match d.noteRequirements requirements with
      | (noted, .ok ()) => (noted, noted.checkRequirements)
      | (noted, .error failure) => (noted, .error failure) := by
  rw [declareRequirements, Drafting.requires]
  simp only [bind, Drafting.andThen, Drafting.ask, noteRequirements]
  cases (Drafting.noteRequirements requirements).run d with
  | mk noted outcome => cases outcome <;> rfl

theorem declareAction_eq (properties : Entries) :
    d.declareAction properties = do
      let name ← d.actionName properties
      let description ← d.actionDescription name properties
      let display ← d.actionDisplay name properties
      return (d.activate name .action description display, name) :=
  Drafting.result_of_run <| Drafting.run_ask_bind fun _ => Drafting.run_ask_bind fun _ =>
    Drafting.run_ask_bind fun _ => rfl

theorem declareQuery_eq (properties : Entries) :
    d.declareQuery properties =
      match properties.find? "description" with
      | some description => .ok (d.activate queryName .query description .always, queryName)
      | none => d.fail .queryUndescribed := by
  rw [declareQuery, Drafting.result, Drafting.dataquery, Drafting.run_refuse_bind]
  cases properties.find? "description" <;> rfl

/-- A text is usable as a key. -/
theorem asKey_text (s : String) : Failure.ofFault (Value.str s).asKey = .ok (.str s) := rfl

theorem declareInput_eq (entity : Option String) (argument : String) (properties : Entries) :
    d.declareInput entity (.str argument) properties = do
      let name ← d.activeEntity entity .input (.str argument)
      let spec ← d.inputSpec name (.str argument) properties
      return (d.updateEntity name fun e =>
        { e with inputs := e.inputs.put (.str argument) spec }, spec) := by
  rw [declareInput, Drafting.input, Drafting.result_of_run (Drafting.run_declareUnder ..)]
  simp only [asKey_text, ok_bind_eq]

theorem declareOutput_eq (entity : Option String) (argument : String) (properties : Entries) :
    d.declareOutput entity (.str argument) properties = do
      let name ← d.activeEntity entity .output (.str argument)
      let spec ← d.outputSpec name (.str argument) properties
      return (d.updateEntity name fun e =>
        { e with outputs := e.outputs.put (.str argument) spec }, spec) := by
  rw [declareOutput, Drafting.output, Drafting.result_of_run (Drafting.run_declareUnder ..)]
  simp only [asKey_text, ok_bind_eq]

end Draft

end PluginDescriptor
