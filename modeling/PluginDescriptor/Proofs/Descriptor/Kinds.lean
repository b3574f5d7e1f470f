import PluginDescriptor.Proofs.Descriptor.Reordering
import PluginDescriptor.Proofs.Descriptor.Soundness

/-!
# Kinds of entities

Actions and the query share one table of names, and the first declaration of a name says what its
entity is: its kind, its description and its policy. Later ones of the same name only name it again
(`Call.declared_afterAll`). The query has a fixed name, and an action may take that name as well; unless
the two meet in one draft, every entity is of the kind of each declaration that hands it out
(`Execution.kinds_apart`).
-/

set_option autoImplicit false

namespace PluginDescriptor

/-- The kind of entity that a step declares. -/
def Step.entityKind? : Step → Option EntityKind
  | .action _ => some .action
  | .dataquery _ => some .query
  | _ => none

/-- What an entity was declared as. -/
def Entity.declaration (e : Entity) : Declaration :=
  { name := e.name, kind := e.kind, description := e.description, display := e.display }

/-- The step that a call takes, when it declares an entity. -/
def Call.step? : Call → Option Step
  | .action properties => some (.action properties)
  | .dataquery properties => some (.dataquery properties)
  | _ => none

/-- What a call says about the entity that it names. -/
def Call.declaration? (c : Call) : Option Declaration := c.step?.bind Step.declaration?

/-- The kind of entity that a call declares. -/
def Call.entityKind? (c : Call) : Option EntityKind := c.step?.bind Step.entityKind?

/-- The query is declared, and so is an action that has its name. -/
def Declaration.Mixed (declared : List Declaration) : Prop :=
  (∃ d ∈ declared, d.kind = .action ∧ d.name = queryName) ∧ ∃ d ∈ declared, d.kind = .query

instance (declared : List Declaration) : Decidable (Declaration.Mixed declared) :=
  inferInstanceAs (Decidable (_ ∧ _))

/-! ## Declarations -/

namespace Step

/-- What a step declares is of its kind. -/
theorem entityKind?_of_declaration? {step : Step} {d : Declaration}
    (h : step.declaration? = some d) : step.entityKind? = some d.kind := by
  cases step with
  | action properties =>
    rw [declaration?] at h
    split at h
    · cases h
      rfl
    · cases h
  | dataquery properties =>
    obtain ⟨description, -, rfl⟩ := Option.map_eq_some_iff.mp h
    rfl
  | _ => cases h

theorem entityKind?_isSome_iff (step : Step) : step.entityKind?.isSome ↔ step.NamesEntity := by
  cases step <;> simp [entityKind?, NamesEntity]

end Step

namespace Declaration

/-- Only the query is declared as a query. -/
def IsFair (declared : List Declaration) : Prop :=
  ∀ d ∈ declared, d.kind = .query → d.name = queryName ∧ d.display = .always

theorem isFair_steps (steps : List Step) : IsFair (steps.filterMap Step.declaration?) := by
  intro d hd hquery
  obtain ⟨step, -, hstep⟩ := List.mem_filterMap.mp hd
  exact Execution.name_of_query hstep hquery

theorem isFair_calls (calls : List Call) : IsFair (calls.filterMap Call.declaration?) := by
  intro d hd hquery
  obtain ⟨c, -, hc⟩ := List.mem_filterMap.mp hd
  obtain ⟨step, -, hstep⟩ := Option.bind_eq_some_iff.mp hc
  exact Execution.name_of_query hstep hquery

/-- Declarations of one name are of one kind, unless the query is mixed with an action. -/
theorem kind_eq_of_not_mixed {declared : List Declaration} (hfair : IsFair declared)
    (hmixed : ¬ Mixed declared) {d e : Declaration} (hd : d ∈ declared) (he : e ∈ declared)
    (hname : d.name = e.name) : d.kind = e.kind := by
  cases hkind : d.kind with
  | action =>
    cases hother : e.kind with
    | action => rfl
    | query =>
      obtain ⟨hquery, -⟩ := hfair e he hother
      exact (hmixed ⟨⟨d, hd, hkind, hname.trans hquery⟩, e, he, hother⟩).elim
  | query =>
    cases hother : e.kind with
    | action =>
      obtain ⟨hquery, -⟩ := hfair d hd hkind
      exact (hmixed ⟨⟨e, he, hother, hname.symm.trans hquery⟩, d, hd, hkind⟩).elim
    | query => rfl

/-- The first declaration of a name, when there is one that hands the name out. -/
theorem exists_first {declared : List Declaration} {d : Declaration} (hd : d ∈ declared) :
    ∃ first ∈ declared, first.name = d.name ∧
      declared.find? (fun e => e.name = d.name) = some first := by
  have hfound : (declared.find? fun e => e.name = d.name).isSome :=
    List.find?_isSome.mpr ⟨d, hd, decide_eq_true rfl⟩
  obtain ⟨first, hfirst⟩ := Option.isSome_iff_exists.mp hfound
  have hname := List.find?_some hfirst
  exact ⟨first, List.mem_of_find?_eq_some hfirst, of_decide_eq_true hname, hfirst⟩

end Declaration

/-! ## Calls -/

namespace Draft

variable {d : Draft}

/-- What the entity with a name was declared as. -/
def declared? (d : Draft) (name : String) : Option Declaration := (d.entity? name).map Entity.declaration

/-- Changing what is declared under an entity leaves all entities what they were declared as. -/
theorem declared?_updateEntity (d : Draft) (changed : String) {f : Entity → Entity}
    (hf : ∀ e, (f e).declaration = e.declaration) (name : String) :
    (d.updateEntity changed f).declared? name = d.declared? name := by
  have hname : ∀ e, (f e).name = e.name := fun e => congrArg Declaration.name (hf e)
  unfold declared? entity? updateEntity
  generalize d.entities = entities
  induction entities with
  | nil => rfl
  | cons e rest ih =>
    have hkept : (if e.name = changed then f e else e).declaration = e.declaration := by
      split
      · exact hf e
      · rfl
    have hsame : (if e.name = changed then f e else e).name = e.name :=
      congrArg Declaration.name hkept
    rw [List.map_cons, List.find?_cons, List.find?_cons, hsame]
    by_cases he : e.name = name
    · simp only [he, decide_true]
      exact congrArg some (he ▸ hkept)
    · simp only [he, decide_false]
      exact ih

/-- A name is declared as it was before, or else as it is named now. -/
theorem declared?_activate (d : Draft) (e : Declaration) (name : String) :
    (d.activate e.name e.kind e.description e.display).declared? name =
      (d.declared? name).or (if e.name = name then some e else none) := by
  unfold activate declared?
  split
  · rename_i hthere
    by_cases hname : e.name = name
    · obtain ⟨held, hheld⟩ := Option.isSome_iff_exists.mp (hname ▸ hthere)
      rw [hheld]
      rfl
    · rw [if_neg hname, Option.or_none]
  · rename_i hnew
    unfold entity? at hnew ⊢
    rw [List.find?_append, List.find?_singleton]
    by_cases hname : e.name = name
    · subst hname
      have hnone := Option.not_isSome_iff_eq_none.mp hnew
      rw [hnone]
      simp [Entity.declaration]
    · simp [hname]

end Draft

namespace Drafting

variable {α : Type} {d : Draft}

/-- What holds of a draft and of the one that a checked change leads to, holds of the one left. -/
theorem onSuccess_keeps {P : Draft → Prop} {checked : Except Failure (Draft × α)} (hd : P d)
    (h : ∀ after a, checked = .ok (after, a) → P after) : P (onSuccess d checked).1 := by
  cases checked with
  | error failure => exact hd
  | ok result => exact h result.1 result.2 rfl

/-- Declaring something under an entity leaves all entities what they were declared as. -/
theorem declared?_declareUnder (d : Draft) (entity : Option String) (role : Role) (argument : Value)
    (specOf : Draft → String → Except Failure α) (put : α → Entity → Entity)
    (hput : ∀ a e, (put a e).declaration = e.declaration) (name : String) :
    ((declareUnder entity role argument specOf put).run d).1.declared? name = d.declared? name := by
  rw [run_declareUnder]
  refine onSuccess_keeps (P := fun after => after.declared? name = d.declared? name) rfl ?_
  intro after a hchecked
  obtain ⟨changed, -, hspec⟩ := bind_eq_ok_iff.mp hchecked
  obtain ⟨spec, -, hkey⟩ := bind_eq_ok_iff.mp hspec
  obtain ⟨_, -, hend⟩ := bind_eq_ok_iff.mp hkey
  cases hend
  exact d.declared?_updateEntity changed (hput a) name

end Drafting

namespace Call

variable {c : Call} {name : String}

/-- A call that declares an entity makes one checked change: it names the entity and hands the name
out, when there is one. -/
theorem exists_declaring (d : Draft) {step : Step} (hstep : c.step? = some step) :
    ∃ checked : Except Failure (Draft × String),
      c.after d = (Drafting.onSuccess d checked).1 ∧
      c.outcome d = (Drafting.onSuccess d checked).2.map some ∧
      ∀ after name, checked = .ok (after, name) ↔ ∃ e, step.declaration? = some e ∧ e.name ≠ "" ∧
        name = e.name ∧ after = d.activate e.name e.kind e.description e.display := by
  cases c with
  | action properties =>
    cases hstep
    refine ⟨d.declareAction properties, ?_, ?_, fun after => d.declareAction_eq_ok_iff after properties⟩
    · rw [after, perform, Drafting.run_bind_pure,
        (Drafting.keepsOnFailure_action properties).run_eq, Draft.declareAction]
    · rw [outcome, perform, Drafting.run_bind_pure,
        (Drafting.keepsOnFailure_action properties).run_eq, Draft.declareAction]
  | dataquery properties =>
    cases hstep
    refine ⟨d.declareQuery properties, ?_, ?_, fun after name => ?_⟩
    · rw [after, perform, Drafting.run_bind_pure,
        (Drafting.keepsOnFailure_dataquery properties).run_eq, Draft.declareQuery]
    · rw [outcome, perform, Drafting.run_bind_pure,
        (Drafting.keepsOnFailure_dataquery properties).run_eq, Draft.declareQuery]
    · have hnamed : ∀ e, (Step.dataquery properties).declaration? = some e → e.name ≠ "" := by
        intro e he
        obtain ⟨description, -, rfl⟩ := Option.map_eq_some_iff.mp he
        exact (by decide : queryName ≠ "")
      rw [d.declareQuery_eq_ok_iff]
      refine exists_congr fun e => and_congr_right fun he => ?_
      rw [and_iff_right (hnamed e he)]
  | _ => cases hstep

/-- Any other call hands out nothing, and leaves entities what they were declared as. -/
theorem not_declaring (d : Draft) (hstep : c.step? = none) (name : String) :
    c.outcome d ≠ .ok (some name) ∧ (c.after d).declared? name = d.declared? name := by
  have hnothing : ∀ {α : Type} (x : Drafting α),
      ((x >>= fun _ => pure (none : Option String)).run d).2 ≠ .ok (some name) := by
    intro α x h
    rw [Drafting.run_bind_pure] at h
    obtain ⟨a, -, hsome⟩ := map_eq_ok_iff.mp h
    cases hsome
  cases c with
  | action properties => cases hstep
  | dataquery properties => cases hstep
  | metadata fields =>
    refine ⟨hnothing _, ?_⟩
    rw [after, perform, Drafting.run_bind_pure, Draft.run_metadata]
    refine Drafting.onSuccess_keeps (P := fun after => after.declared? name = d.declared? name) rfl ?_
    intro after _ hchecked
    obtain ⟨changed, hdeclared, hend⟩ := map_eq_ok_iff.mp hchecked
    cases hend
    obtain ⟨-, -, rfl⟩ := (d.declareMetadata_eq_ok_iff after fields).mp hdeclared
    rfl
  | requires requirements =>
    refine ⟨hnothing _, ?_⟩
    obtain ⟨minimum, hminimum, -⟩ := after_requires_eq d requirements
    rw [hminimum]
    rfl
  | input entity argument properties =>
    refine ⟨hnothing _, ?_⟩
    rw [after, perform, Drafting.run_bind_pure, Drafting.input]
    apply Drafting.declared?_declareUnder
    exact fun _ _ => rfl
  | output entity argument properties =>
    refine ⟨hnothing _, ?_⟩
    rw [after, perform, Drafting.run_bind_pure, Drafting.output]
    apply Drafting.declared?_declareUnder
    exact fun _ _ => rfl
  | usage text => exact ⟨hnothing _, rfl⟩
  | checkRequirements =>
    refine ⟨hnothing _, ?_⟩
    rw [after, perform, Drafting.run_bind_pure]
    rfl
  | build =>
    refine ⟨hnothing _, ?_⟩
    rw [after, perform, Drafting.run_bind_pure]
    rfl

/-- A call hands out a name exactly when it declares an entity of that name, which is not empty. -/
theorem outcome_eq_ok_some_iff (d : Draft) (c : Call) (name : String) :
    c.outcome d = .ok (some name) ↔ name ≠ "" ∧ ∃ e, c.declaration? = some e ∧ e.name = name := by
  cases hstep : c.step? with
  | none =>
    refine iff_of_false (not_declaring d hstep name).1 ?_
    rintro ⟨-, e, he, -⟩
    rw [declaration?, hstep] at he
    cases he
  | some step =>
    obtain ⟨checked, -, houtcome, hchecked⟩ := exists_declaring d hstep
    have hdeclaration : c.declaration? = step.declaration? := by
      rw [declaration?, hstep]
      rfl
    rw [houtcome, hdeclaration]
    cases hresult : checked with
    | error failure =>
      refine iff_of_false (fun h => by cases h) ?_
      rintro ⟨hne, e, he, rfl⟩
      have hok := (hchecked _ e.name).mpr ⟨e, he, hne, rfl, rfl⟩
      rw [hresult] at hok
      cases hok
    | ok result =>
      obtain ⟨e, he, hne, hname, -⟩ := (hchecked result.1 result.2).mp hresult
      have hhanded : (Drafting.onSuccess d (.ok result)).2.map some = .ok (some result.2) := rfl
      rw [hhanded, hname, he]
      constructor
      · intro h
        cases h
        exact ⟨hne, e, rfl, rfl⟩
      · rintro ⟨-, f, hf, rfl⟩
        cases hf
        rfl

/-- A call keeps what was declared under a name, and else declares what it says itself. -/
theorem declared?_after (d : Draft) (c : Call) (hname : name ≠ "") :
    (c.after d).declared? name =
      (d.declared? name).or (c.declaration?.toList.find? fun e => e.name = name) := by
  cases hstep : c.step? with
  | none =>
    have hnothing : c.declaration? = none := by
      rw [declaration?, hstep]
      rfl
    rw [(not_declaring d hstep name).2, hnothing]
    exact Option.or_none.symm
  | some step =>
    obtain ⟨checked, hafter, -, hchecked⟩ := exists_declaring d hstep
    have hdeclaration : c.declaration? = step.declaration? := by
      rw [declaration?, hstep]
      rfl
    rw [hafter, hdeclaration]
    cases hresult : checked with
    | error failure =>
      have hnone : (step.declaration?.toList.find? fun e => e.name = name) = none := by
        rw [List.find?_eq_none]
        intro e he hsame
        have hsame := of_decide_eq_true hsame
        have hok := (hchecked _ e.name).mpr
          ⟨e, Option.mem_toList.mp he, hsame ▸ hname, rfl, rfl⟩
        rw [hresult] at hok
        cases hok
      rw [hnone, Option.or_none]
      rfl
    | ok result =>
      obtain ⟨e, he, -, -, hchanged⟩ := (hchecked result.1 result.2).mp hresult
      have hleft : (Drafting.onSuccess d (.ok result)).1 = result.1 := rfl
      rw [hleft, hchanged, Draft.declared?_activate, he, Option.toList_some, List.find?_singleton]
      by_cases hsame : e.name = name <;> simp [hsame]

/-- The first declaration of a name in a row of calls says what its entity is declared as. -/
theorem declared?_afterAll (d : Draft) (calls : List Call) (hname : name ≠ "") :
    (afterAll d calls).declared? name =
      (d.declared? name).or ((calls.filterMap declaration?).find? fun e => e.name = name) := by
  induction calls generalizing d with
  | nil => exact (Option.or_none).symm
  | cons c rest ih =>
    have hrow : (c :: rest).filterMap declaration? = c.declaration?.toList ++ rest.filterMap declaration? := by
      rw [List.filterMap_cons]
      cases c.declaration? <;> rfl
    rw [afterAll, List.foldl_cons, ← afterAll, ih, declared?_after d c hname, hrow, List.find?_append,
      Option.or_assoc]

theorem entityKind?_of_declaration? {e : Declaration} (h : c.declaration? = some e) :
    c.entityKind? = some e.kind := by
  obtain ⟨step, hstep, hdeclared⟩ := Option.bind_eq_some_iff.mp h
  rw [entityKind?, hstep]
  exact Step.entityKind?_of_declaration? hdeclared

/-- Each name that is handed out, in a row of calls on a new draft, is at the end that of an entity of
the kind that the call declares, and the results of a query are always shown. -/
def HandlesFit (subject : Subject) (host : String) (calls : List Call) : Prop :=
  ∀ before c rest kind name, calls = before ++ c :: rest → c.entityKind? = some kind →
    c.outcome (afterAll (Draft.empty subject host) before) = .ok (some name) →
      ∃ e, (afterAll (Draft.empty subject host) calls).entity? name = some e ∧ e.kind = kind ∧
        (kind = .query → e.display = .always)

/-- What a call declares is, after all calls, what the first declaration of the name says. -/
theorem entity?_afterAll (subject : Subject) (host : String) {calls : List Call} {declared : Declaration}
    (h : declared ∈ calls.filterMap declaration?) (hne : declared.name ≠ "") :
    ∃ e, (afterAll (Draft.empty subject host) calls).entity? declared.name = some e ∧
      e.declaration ∈ calls.filterMap declaration? ∧ e.declaration.name = declared.name := by
  obtain ⟨first, hmem, hname, hfirst⟩ := Declaration.exists_first h
  have hdeclared := declared?_afterAll (Draft.empty subject host) calls hne
  have hempty : (Draft.empty subject host).declared? declared.name = none := rfl
  rw [hempty, Option.none_or, hfirst] at hdeclared
  obtain ⟨e, he, rfl⟩ := Option.map_eq_some_iff.mp hdeclared
  exact ⟨e, he, hmem, hname⟩

/-- All names that calls hand out fit their calls unless the query is mixed with an action. -/
theorem handlesFit_iff (subject : Subject) (host : String) (calls : List Call) :
    HandlesFit subject host calls ↔ ¬ Declaration.Mixed (calls.filterMap declaration?) := by
  have hfair := Declaration.isFair_calls calls
  constructor
  · rintro hfit ⟨⟨action, haction, hkind, hname⟩, query, hquery, hother⟩
    -- both hand out the one name, whose entity cannot be of both kinds
    have hhanded : ∀ declared ∈ calls.filterMap declaration?, declared.name = queryName →
        ∃ e, (afterAll (Draft.empty subject host) calls).entity? queryName = some e ∧
          e.kind = declared.kind := by
      intro declared hdeclared hqueryName
      obtain ⟨c, hc, hdeclares⟩ := List.mem_filterMap.mp hdeclared
      obtain ⟨before, rest, hsplit⟩ := List.append_of_mem hc
      have houtcome : c.outcome (afterAll (Draft.empty subject host) before) = .ok (some queryName) :=
        (outcome_eq_ok_some_iff _ c queryName).mpr ⟨by decide, declared, hdeclares, hqueryName⟩
      obtain ⟨e, he, hfits, -⟩ :=
        hfit before c rest declared.kind queryName hsplit (entityKind?_of_declaration? hdeclares)
          houtcome
      exact ⟨e, he, hfits⟩
    obtain ⟨e, he, heKind⟩ := hhanded action haction hname
    obtain ⟨f, hf, hfKind⟩ := hhanded query hquery (hfair query hquery hother).1
    rw [he, Option.some.injEq] at hf
    rw [hf, hfKind, hother, hkind] at heKind
    cases heKind
  · intro hmixed before c rest kind name hsplit hkind houtcome
    obtain ⟨hne, declared, hdeclares, rfl⟩ := (outcome_eq_ok_some_iff _ c name).mp houtcome
    have hdeclared : declared ∈ calls.filterMap declaration? :=
      List.mem_filterMap.mpr ⟨c, hsplit ▸ List.mem_append_cons_self, hdeclares⟩
    obtain ⟨e, he, hfirst, hname⟩ := entity?_afterAll subject host hdeclared hne
    have hsame : e.kind = declared.kind :=
      Declaration.kind_eq_of_not_mixed hfair hmixed hfirst hdeclared hname
    rw [entityKind?_of_declaration? hdeclares, Option.some.injEq] at hkind
    have hfits : e.kind = kind := hsame.trans hkind
    exact ⟨e, he, hfits, fun hquery => (hfair _ hfirst (hfits.trans hquery)).2⟩

end Call

/-! ## Documents -/

/-- What a step declares under the entity named last is declared by an entity. -/
def Step.BelongsTo (step : Step) (e : Entity) : Prop :=
  (∀ argument ∈ step.inputs, (e.input? (.str argument.1)).isSome) ∧
    ∀ field ∈ step.outputs, (e.output? (.str field.1)).isSome

namespace Execution

/-- What a step declares is declared under the name that was named last before it. -/
theorem mem_owned {part : Step → Named Entries} {name : String} {before rest : List Step} {step : Step}
    (hlast : lastEntity? before = some name) {argument : String × Entries} (h : argument ∈ part step) :
    argument ∈ owned part name (before ++ step :: rest) := by
  refine List.mem_flatMap.mpr ⟨(step, before.length), ?_, ?_⟩
  · rw [List.mem_zipIdx_iff_getElem?]
    simp
  · simp only [List.take_left, hlast, if_true]
    exact h

/-- What is gathered under names is found under each of them. -/
theorem isSome_get?_gathered {α : Type} {things : Named α} {name : String} (h : name ∈ things.names) :
    (Fields.get? (Fields.ofNamed things.gathered) (.str name)).isSome := by
  have hfound : Fields.get? (Fields.ofNamed things.gathered) (.str name) =
      things.gathered.lookup name := Fields.find?_ofNamed _ name
  rw [hfound, Named.lookup_isSome_iff, Named.names_gathered]
  exact List.mem_eraseDups.mpr h

/-- What a step of a descriptor declares belongs to the entity that was named last before it. -/
theorem belongsTo_of_declares {steps : List Step} {r : Registry} (h : Declares steps r)
    {before rest : List Step} {step : Step} (hsplit : steps = before ++ step :: rest)
    (hneeds : step.NeedsEntity) :
    ∃ e ∈ r.entities, lastEntity? before = some e.name ∧ step.BelongsTo e := by
  obtain ⟨e, he, hlast⟩ := h.owner before step rest hsplit hneeds
  have hdescribes := h.entities e he
  refine ⟨e, he, hlast, fun argument hargument => ?_, fun field hfield => ?_⟩
  · have howned : argument ∈ owned Step.inputs e.name steps := hsplit ▸ mem_owned hlast hargument
    rw [Entity.input?, hdescribes.inputs]
    refine isSome_get?_gathered ?_
    rw [inputSpecs, Named.names, List.map_map]
    exact List.mem_map_of_mem howned
  · have howned : field ∈ owned Step.outputs e.name steps := hsplit ▸ mem_owned hlast hfield
    rw [Entity.output?, hdescribes.outputs]
    refine isSome_get?_gathered ?_
    rw [outputSpecs, Named.names, List.map_map]
    exact List.mem_map_of_mem howned

/-- The entity named last is the one that the nearest step before names that declares an entity. -/
theorem lastEntity?_of_nearest {before between : List Step} {namer : Step} {name : String}
    (hname : namer.entityName? = some name) (hbetween : ∀ s ∈ between, s.entityKind? = none) :
    lastEntity? (before ++ namer :: between) = some name := by
  have hnothing : between.filterMap Step.entityName? = [] := by
    rw [List.filterMap_eq_nil_iff]
    intro s hs
    cases hdeclared : s.declaration? with
    | none => rw [Step.entityName?, hdeclared, Option.map_none]
    | some d =>
      have hkind := Step.entityKind?_of_declaration? hdeclared
      rw [hbetween s hs] at hkind
      cases hkind
  rw [lastEntity?, List.filterMap_append, List.filterMap_cons_some hname, hnothing,
    List.getLast?_concat]

/-- The entity of a descriptor has the kind of each step that names it, unless the query is mixed with
an action. -/
theorem kind_eq_of_declares {steps : List Step} {r : Registry} (h : Declares steps r)
    (hmixed : ¬ Declaration.Mixed (steps.filterMap Step.declaration?)) {e : Entity}
    (he : e ∈ r.entities) {namer : Step} (hnamer : namer ∈ steps) {d : Declaration}
    (hd : namer.declaration? = some d) (hname : d.name = e.name) :
    e.kind = d.kind ∧ (d.kind = .query → e.display = .always) := by
  have hfair := Declaration.isFair_steps steps
  obtain ⟨first, ⟨before, step, rest, hsplit, hfirst, hfirstName, -⟩, hkind, -, hdisplay⟩ :=
    (h.entities e he).origin
  have hfirstMem : first ∈ steps.filterMap Step.declaration? :=
    List.mem_filterMap.mpr ⟨step, hsplit ▸ List.mem_append_cons_self, hfirst⟩
  have hdMem : d ∈ steps.filterMap Step.declaration? := List.mem_filterMap.mpr ⟨namer, hnamer, hd⟩
  have hsame : first.kind = d.kind :=
    Declaration.kind_eq_of_not_mixed hfair hmixed hfirstMem hdMem (hfirstName.trans hname.symm)
  refine ⟨hkind.trans hsame, fun hquery => ?_⟩
  rw [hdisplay]
  exact (hfair first hfirstMem (hsame.trans hquery)).2

/-- Kinds of entities stay apart unless the query is mixed with an action that has its name. In every
row of calls on a new draft, all names that are handed out are those of entities of the kind declared,
exactly when the calls do not mix them. In every document that is accepted and does not mix them,
arguments and results belong to an entity of the kind that the nearest step before them declares, and
the results of a query are always shown. -/
theorem kinds_apart (subject : Subject) (host : String) :
    (∀ calls, Call.HandlesFit subject host calls ↔
      ¬ Declaration.Mixed (calls.filterMap Call.declaration?)) ∧
    ∀ document r, (executeDocument subject host document).outcome = .ok r →
      ∃ steps, Spells document steps ∧ Declares steps r ∧
        (¬ Declaration.Mixed (steps.filterMap Step.declaration?) →
          ∀ before namer between step rest kind,
            steps = before ++ namer :: (between ++ step :: rest) → namer.entityKind? = some kind →
            (∀ s ∈ between, s.entityKind? = none) → step.NeedsEntity →
              ∃ e ∈ r.entities, step.BelongsTo e ∧ e.kind = kind ∧
                (kind = .query → e.display = .always)) := by
  refine ⟨Call.handlesFit_iff subject host, fun document r h => ?_⟩
  obtain ⟨steps, hspells, hadmitted, hbuild⟩ :=
    (executeDocument_eq_ok_iff subject host document r).mp h
  have hdeclares := declares_of_allAdmitted hspells.namesSomething hadmitted hbuild
  obtain ⟨fields, hmetadata, -⟩ := (build_eq_ok_iff _ r).mp hbuild
  have hdescriptor := isDescriptor_of_allAdmitted hspells.namesSomething hadmitted hmetadata
  refine ⟨steps, hspells, hdeclares, ?_⟩
  intro hmixed before namer between step rest kind hsplit hkind hbetween hneeds
  have hnamer : namer ∈ steps := hsplit ▸ List.mem_append_cons_self
  have hnames : namer.NamesEntity :=
    (Step.entityKind?_isSome_iff namer).mp (Option.isSome_of_eq_some hkind)
  obtain ⟨name, hname⟩ :=
    Option.isSome_iff_exists.mp (hdescriptor.entityName?_isSome hnamer hnames)
  obtain ⟨d, hd, rfl⟩ := Option.map_eq_some_iff.mp hname
  have hsplitStep : steps = (before ++ namer :: between) ++ step :: rest := by
    rw [hsplit, List.append_assoc, List.cons_append]
  obtain ⟨e, he, hlast, hbelongs⟩ := belongsTo_of_declares hdeclares hsplitStep hneeds
  rw [lastEntity?_of_nearest hname hbetween, Option.some.injEq] at hlast
  obtain ⟨hfits, halways⟩ := kind_eq_of_declares hdeclares hmixed he hnamer hd hlast
  rw [Step.entityKind?_of_declaration? hd, Option.some.injEq] at hkind
  exact ⟨e, he, hbelongs, hfits.trans hkind, fun hquery => halways (hkind.trans hquery)⟩

/-- The properties of an action and of a query. -/
def namedProperties (name : String) : Entries :=
  Entries.ofFields [("name", .str name), ("description", .str "Described")]

/-- Calls that declare the query twice and an action of another name. -/
def apartCalls : List Call :=
  [.dataquery (namedProperties "uptime"), .action (namedProperties "restart"),
    .dataquery (namedProperties "again")]

theorem kinds_apart_queryTwice :
    Call.HandlesFit demo "1.10" apartCalls ∧
      (Call.afterAll (Draft.empty demo "1.10") apartCalls).entities.map
        (fun e => (e.name, e.kind, e.display)) =
          [("data", .query, .always), ("restart", .action, .failed)] := by
  obtain ⟨hcalls, -⟩ := kinds_apart demo "1.10"
  have hunmixed : ¬ Declaration.Mixed (apartCalls.filterMap Call.declaration?) := by decide
  exact ⟨(hcalls apartCalls).mpr hunmixed, by rfl⟩

/-- Steps that declare an action with the name of the query, the query, and an argument of it. -/
def sharedName : Value :=
  let steps : List Step := [
    .metadata (metadataKeys.map fun key => (.str key, if key = "timeout" then .int 30 else .str key)),
    .action (namedProperties "data"),
    .dataquery (namedProperties "uptime"),
    .input [("unit", Entries.ofFields
      [("prompt", .str "Unit"), ("description", .str "Unit"), ("type", .str "boolean")])]]
  .list (steps.map Step.spelling)

/-- After an action that has the name of the query, the query is handed out as an action, whose results
are shown on failure only, and in a document its arguments belong to that action. -/
theorem query_handedOutAsAction :
    let before := Call.afterAll (Draft.empty demo "1.10") [.action (namedProperties "data")]
    let query := Call.dataquery (namedProperties "uptime")
    query.outcome before = .ok (some "data") ∧
      ((query.after before).entity? "data").map (fun e => (e.kind, e.display)) =
        some (.action, .failed) ∧
      (executeDocument demo "1.10" sharedName).outcome.toOption.map
        (fun r => r.entities.map fun e => (e.name, e.kind, e.inputs.map (·.1))) =
          some [("data", .action, [.str "unit"])] := by
  intro before query
  exact ⟨rfl, rfl, by decide +kernel⟩

end Execution

end PluginDescriptor
