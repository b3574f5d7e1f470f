import PluginDescriptor.Proofs.Descriptor.Grammar

/-!
# What a call leaves behind

A call writes into a draft as it goes, and still one that fails leaves the draft as it was, but for
requirements, which may leave a version noted (`Call.keepsOnFailure_perform`). All that a call can do to
a draft is listed once (`Draft.Change.of_call`), and what every change keeps, every row of calls keeps.
-/

set_option autoImplicit false

namespace PluginDescriptor

namespace Draft

/-- Noting requirements changes the least version alone, to one of those that they state. -/
theorem noteRequirements_fst (d : Draft) (requirements : Entries) :
    ∃ minimum, (d.noteRequirements requirements).1 = { d with minimum } ∧
      (minimum = d.minimum ∨ ∃ offered, (.str hostRequirement, .str offered) ∈ requirements ∧
        Text.trim offered ≠ "" ∧ minimum = some offered) := by
  induction requirements generalizing d with
  | nil => exact ⟨d.minimum, rfl, .inl rfl⟩
  | cons entry rest ih =>
    obtain ⟨kind, version⟩ := entry
    by_cases hkind : kind = .str hostRequirement
    · subst hkind
      cases hstated : d.statedMinimum version with
      | error failure =>
        refine ⟨d.minimum, ?_, .inl rfl⟩
        simp [noteRequirements_cons, hstated]
      | ok stated =>
        obtain ⟨rfl, hblank⟩ := (statedMinimum_eq_ok_iff d version stated).mp hstated
        obtain ⟨minimum, hnoted, hminimum⟩ := ih { d with minimum := some stated }
        refine ⟨minimum, ?_, .inr ?_⟩
        · simpa [noteRequirements_cons, hstated] using hnoted
        · rcases hminimum with rfl | ⟨offered, hmem, hoffered⟩
          · exact ⟨stated, List.mem_cons_self, hblank, rfl⟩
          · exact ⟨offered, List.mem_cons_of_mem _ hmem, hoffered⟩
    · refine ⟨d.minimum, ?_, .inl rfl⟩
      simp [noteRequirements_cons, hkind]

theorem declareRequirements_fst (d : Draft) (requirements : Entries) :
    (d.declareRequirements requirements).1 = (d.noteRequirements requirements).1 := by
  rw [declareRequirements_eq]
  cases d.noteRequirements requirements with
  | mk noted outcome => cases outcome <;> rfl

end Draft

namespace Call

/-- All calls but requirements leave the draft as it was when they fail. -/
theorem keepsOnFailure_perform {c : Call} (h : ∀ requirements, c ≠ .requires requirements) :
    Drafting.KeepsOnFailure c.perform := by
  cases c with
  | metadata fields => exact (Drafting.keepsOnFailure_metadata fields).bind_pure _
  | requires requirements => exact (h requirements rfl).elim
  | checkRequirements => exact (Drafting.keepsOnFailure_ask _).bind_pure _
  | usage text => exact (Drafting.keepsOnFailure_write _).bind_pure _
  | action properties => exact (Drafting.keepsOnFailure_action properties).bind_pure _
  | dataquery properties => exact (Drafting.keepsOnFailure_dataquery properties).bind_pure _
  | input entity argument properties => exact (Drafting.keepsOnFailure_declareUnder _ _ _ _ _).bind_pure _
  | output entity argument properties => exact (Drafting.keepsOnFailure_declareUnder _ _ _ _ _).bind_pure _
  | build => exact (Drafting.keepsOnFailure_ask _).bind_pure _

theorem after_requires (d : Draft) (requirements : Entries) :
    after d (.requires requirements) = (d.declareRequirements requirements).1 := by
  rw [after, perform, Drafting.run_bind_pure, Draft.declareRequirements]

end Call

/-! ## All that calls can do -/

/-- All that a call can make of a draft: nothing, or one of a few changes whose properties were found
acceptable. -/
inductive Draft.Change (d : Draft) : Draft → Prop where
  | nothing : Change d d
  | metadata {fields : Entries} (unset : d.metadata = none)
      (acceptable : Grammar.IsMetadata fields) : Change d { d with metadata := some fields }
  | minimum {offered : String} (stated : Text.trim offered ≠ "") :
      Change d { d with minimum := some offered }
  | usage (text : String) : Change d (d.declareUsage text)
  | entity {step : Step} {e : Declaration} (declared : step.declaration? = some e)
      (named : e.name ≠ "") : Change d (d.activate e.name e.kind e.description e.display)
  | input (name : String) (argument : Value) {properties : Entries}
      (acceptable : Grammar.IsInput properties) :
      Change d (d.updateEntity name fun e =>
        { e with inputs := e.inputs.put argument (InputSpec.ofProperties argument properties) })
  | output (name : String) (argument : Value) {properties : Entries}
      (acceptable : Grammar.IsOutput properties) :
      Change d (d.updateEntity name fun e =>
        { e with outputs := e.outputs.put argument (OutputSpec.ofProperties argument properties) })

namespace Draft.Change

variable {d d' : Draft}

/-- A checked change that is made of a draft, or not made. -/
theorem of_checked {α β : Type} {x : Drafting α} {checked : Except Failure (Draft × α)} (f : α → β)
    (hx : x.run d = Drafting.onSuccess d checked)
    (h : ∀ after a, checked = .ok (after, a) → d.Change after) :
    d.Change ((x >>= fun a => pure (f a)).run d).1 := by
  rw [Drafting.run_bind_pure, hx]
  cases hchecked : checked with
  | ok result => exact h result.1 result.2 hchecked
  | error _ => exact nothing

/-- Something declared under an entity, or not declared. -/
theorem of_declareUnder {α β : Type} {entity : Option String} {role : Role} {argument : Value}
    {specOf : Draft → String → Except Failure α} {put : α → Entity → Entity} (f : α → β)
    (h : ∀ name spec, specOf d name = .ok spec → d.Change (d.updateEntity name (put spec))) :
    d.Change ((Drafting.declareUnder entity role argument specOf put >>=
      fun a => pure (f a)).run d).1 := by
  refine of_checked f (Drafting.run_declareUnder d entity role argument specOf put)
    fun after spec hchecked => ?_
  obtain ⟨name, -, hnamed⟩ := bind_eq_ok_iff.mp hchecked
  obtain ⟨declared, hdeclared, hkey⟩ := bind_eq_ok_iff.mp hnamed
  obtain ⟨_, -, hend⟩ := bind_eq_ok_iff.mp hkey
  cases hend
  exact h name spec hdeclared

/-- What a call makes of a draft is one of the changes. -/
theorem of_call (d : Draft) (c : Call) : d.Change (c.after d) := by
  cases c with
  | metadata fields =>
    refine of_checked _ (d.run_metadata fields) fun after _ hchecked => ?_
    obtain ⟨declared, hdeclared, hend⟩ := map_eq_ok_iff.mp hchecked
    cases hend
    obtain ⟨hunset, hfields, rfl⟩ := (Draft.declareMetadata_eq_ok_iff d after fields).mp hdeclared
    exact metadata hunset hfields
  | requires requirements =>
    rw [Call.after_requires, Draft.declareRequirements_fst]
    obtain ⟨least, hnoted, hleast⟩ := d.noteRequirements_fst requirements
    rw [hnoted]
    rcases hleast with rfl | ⟨offered, -, hblank, rfl⟩
    · exact nothing
    · exact minimum hblank
  | checkRequirements =>
    rw [Call.after, Call.perform, Drafting.run_bind_pure]
    exact nothing
  | usage text => exact usage text
  | action properties =>
    refine of_checked _ ((Drafting.keepsOnFailure_action properties).run_eq d)
      fun after name hchecked => ?_
    obtain ⟨e, he, hne, -, rfl⟩ :=
      (Draft.declareAction_eq_ok_iff d after properties name).mp hchecked
    exact entity he hne
  | dataquery properties =>
    have hquery : queryName ≠ "" := by decide
    refine of_checked _ ((Drafting.keepsOnFailure_dataquery properties).run_eq d)
      fun after name hchecked => ?_
    obtain ⟨e, he, -, rfl⟩ := (Draft.declareQuery_eq_ok_iff d after properties name).mp hchecked
    obtain ⟨description, -, rfl⟩ := Option.map_eq_some_iff.mp he
    exact entity he hquery
  | input handle argument properties =>
    refine of_declareUnder _ fun name spec hspec => ?_
    obtain ⟨hinput, rfl⟩ := (Draft.inputSpec_eq_ok_iff d name argument properties spec).mp hspec
    exact input name argument hinput
  | output handle argument properties =>
    refine of_declareUnder _ fun name spec hspec => ?_
    obtain ⟨houtput, rfl⟩ := (Draft.outputSpec_eq_ok_iff d name argument properties spec).mp hspec
    exact output name argument houtput
  | build =>
    rw [Call.after, Call.perform, Drafting.run_bind_pure]
    exact nothing

end Draft.Change

namespace Call

/-- What every change of a draft keeps, every row of calls keeps. -/
theorem afterAll_keeps {Kept : Draft → Prop} (hkeeps : ∀ d d', Kept d → d.Change d' → Kept d')
    {d : Draft} (hd : Kept d) (calls : List Call) : Kept (afterAll d calls) := by
  induction calls generalizing d with
  | nil => exact hd
  | cons c rest ih => exact ih (hkeeps d _ hd (.of_call d c))

/-! ## Calls that fail, and metadata that stay -/

/-- Requirements change the least version alone, to one that they offer. -/
theorem after_requires_eq (d : Draft) (requirements : Entries) :
    ∃ minimum, after d (.requires requirements) = { d with minimum } ∧
      (minimum = d.minimum ∨ ∃ offered, (.str hostRequirement, .str offered) ∈ requirements ∧
        minimum = some offered) := by
  rw [after_requires, Draft.declareRequirements_fst]
  obtain ⟨minimum, hnoted, hminimum⟩ := d.noteRequirements_fst requirements
  refine ⟨minimum, hnoted, hminimum.imp_right ?_⟩
  rintro ⟨offered, hmem, -, hoffered⟩
  exact ⟨offered, hmem, hoffered⟩

theorem metadata_change {d d' : Draft} {fields : Entries} (hset : d.metadata = some fields)
    (h : d.Change d') : d'.metadata = some fields := by
  cases h with
  | metadata hunset => cases hset.symm.trans hunset
  | entity hdeclared hnamed =>
    unfold Draft.activate
    split <;> exact hset
  | _ => exact hset

/-- Metadata that are accepted are those of the draft. -/
theorem metadata_of_outcome {d : Draft} {fields : Entries}
    (h : (Call.metadata fields).outcome d = .ok none) :
    (after d (.metadata fields)).metadata = some fields := by
  have hrun := d.run_metadata fields
  rw [outcome, perform, Drafting.run_bind_pure, hrun] at h
  rw [after, perform, Drafting.run_bind_pure, hrun]
  cases hdeclared : d.declareMetadata fields with
  | ok d' =>
    obtain ⟨-, -, rfl⟩ := (Draft.declareMetadata_eq_ok_iff d d' fields).mp hdeclared
    rfl
  | error failure =>
    rw [hdeclared] at h
    cases h

/-- A call that fails leaves the draft as it was, and requirements, whether they fail or not, change
the least version alone, to one that they offer. Metadata that are accepted are those of every
registry that is built after any further calls. -/
theorem draft_kept (d : Draft) :
    (∀ c failure, outcome d c = .error failure → (∀ requirements, c ≠ .requires requirements) →
      after d c = d) ∧
    (∀ requirements, ∃ minimum, after d (.requires requirements) = { d with minimum } ∧
      (minimum = d.minimum ∨ ∃ offered, (.str hostRequirement, .str offered) ∈ requirements ∧
        minimum = some offered)) ∧
    ∀ fields calls, outcome d (.metadata fields) = .ok none →
      ∃ r, (afterAll (after d (.metadata fields)) calls).build = .ok r ∧
        r.metadata = Value.freezeEntries fields := by
  refine ⟨fun c failure hfailure hother => ?_, after_requires_eq d, fun fields calls haccepted => ?_⟩
  · exact keepsOnFailure_perform hother d failure hfailure
  · have hset := afterAll_keeps (fun _ _ hd hchange => metadata_change hd hchange)
      (metadata_of_outcome haccepted) calls
    rw [Draft.build, hset]
    exact ⟨_, rfl, rfl⟩

/-- An action without a name fails, a version that the host does not meet stays noted, and the
metadata are set once. -/
theorem draft_kept_onOldHost :
    let d := Draft.empty { kind := "agent", name := "echo", path := none } "1.0"
    let unnamed := Call.action []
    let newer := Call.requires [(.str "platform-version", .str "2.0"), (.str "os", .str "any")]
    let fields := Entries.ofFields (metadataKeys.map fun key => (key, .int 1))
    (∃ failure, outcome d unnamed = .error failure ∧ after d unnamed = d) ∧
    (∃ failure minimum, outcome d newer = .error failure ∧ after d newer = { d with minimum }) ∧
    outcome d (.metadata fields) = .ok none ∧
    ∃ r, (afterAll (after d (.metadata fields)) [unnamed, newer, .metadata []]).build = .ok r ∧
      r.metadata = Value.freezeEntries fields := by
  intro d unnamed newer fields
  obtain ⟨hfailed, hnoted, hset⟩ := draft_kept d
  have hunnamed : outcome d unnamed = .error (.descriptor .actionUnnamed (some d.subject)) := rfl
  have htrim : (Text.trim "2.0").isEmpty = false := by decide +kernel
  have hnewer : outcome d newer =
      .error (.descriptor (.unknownRequirement (.str "os")) (some d.subject)) := by
    have hrun : (Drafting.requires _).run d = d.declareRequirements
        [(.str "platform-version", .str "2.0"), (.str "os", .str "any")] := rfl
    rw [outcome, perform, Drafting.run_bind_pure, hrun, Draft.declareRequirements_eq]
    simp only [Draft.noteRequirements_cons, Draft.statedMinimum, htrim]
    rfl
  have haccepted : outcome d (.metadata fields) = .ok none := rfl
  obtain ⟨minimum, hminimum, -⟩ := hnoted _
  refine ⟨⟨_, hunnamed, hfailed _ _ hunnamed (by simp [unnamed])⟩, ⟨_, minimum, hnewer, hminimum⟩,
    haccepted, hset fields _ haccepted⟩

end Call

end PluginDescriptor
