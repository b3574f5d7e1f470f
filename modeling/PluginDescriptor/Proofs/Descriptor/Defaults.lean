import PluginDescriptor.Proofs.Descriptor.Declared
import PluginDescriptor.Proofs.Descriptor.Request

/-!
# Requests with defaults filled in

An argument that is not supplied is absent, and one that is supplied as nothing is not: a default
stands in for the first only. What is filled in goes behind the supplied arguments, and it is judged
like any supplied value once a request is checked. Both sides meet in the main statement,
`Request.withDefaults_composes`.
-/

set_option autoImplicit false

namespace PluginDescriptor

/-- The arguments of an entity that a document declares stand under distinct names. -/
theorem Execution.distinct_inputs {subject : Subject} {host : String} {document : Value}
    {r : Registry} (h : (executeDocument subject host document).outcome = .ok r) :
    ∀ e ∈ r.entities, e.inputs.Distinct := by
  intro e he
  obtain ⟨inputs, hnodup, hinputs, -⟩ := ((isDeclared_of_executeDocument h).entities e he).inputs
  rw [hinputs]
  exact Fields.distinct_ofNamed hnodup

namespace Request

variable {modules : Modules} {t : Validators} {about : Option Subject} {e : Entity}
  {arguments : Entries}

/-- The argument is not supplied, and it has a default. -/
def HasStandIn (arguments : Entries) (input : Value × InputSpec) : Prop :=
  arguments.get? input.1 = none ∧ input.2.default ≠ .null

instance (input : Value × InputSpec) : Decidable (HasStandIn arguments input) :=
  inferInstanceAs (Decidable (_ ∧ _))

/-- The defaults that stand in for arguments that are not supplied, in the order of declaration. -/
def standIns (inputs : Fields InputSpec) (arguments : Entries) : Entries :=
  (inputs.filter fun input => decide (HasStandIn arguments input)).map fun input =>
    (input.1, input.2.default)

/-- How an argument can be in order, once defaults are filled in. -/
inductive InOrder (modules : Modules) (t : Validators) (e : Entity) (arguments : Entries)
    (input : Value × InputSpec) : Prop where
  | supplied (value : Value) (given : arguments.get? input.1 = some value)
      (accepted :
        (checkArgument modules t none e.name input.1 input.2 value).outcome = .ok ())
  | filledIn (absent : arguments.get? input.1 = none) (declared : input.2.default ≠ .null)
      (accepted :
        (checkArgument modules t none e.name input.1 input.2 input.2.default).outcome = .ok ())
  | leftOut (absent : arguments.get? input.1 = none) (undeclared : input.2.default = .null)
      (optional : input.2.optional = true)

/-! ## What is filled in -/

theorem standIns_cons (input : Value × InputSpec) (rest : Fields InputSpec) :
    standIns (input :: rest) arguments =
      if HasStandIn arguments input then (input.1, input.2.default) :: standIns rest arguments
      else standIns rest arguments := by
  unfold standIns
  rw [List.filter_cons]
  by_cases h : HasStandIn arguments input
  · rw [if_pos h, if_pos (decide_eq_true h), List.map_cons]
  · rw [if_neg h, if_neg fun hdue => h (of_decide_eq_true hdue)]

/-- Supplying one argument does not change what stands in for the others. -/
theorem standIns_append_singleton {inputs : Fields InputSpec} {name : Value} (value : Value)
    (h : ∀ input ∈ inputs, input.1.same name = false) :
    standIns inputs (arguments ++ [(name, value)]) = standIns inputs arguments := by
  unfold standIns
  congr 1
  refine List.filter_congr fun input hinput => decide_eq_decide.mpr ?_
  have hget : Fields.get? (arguments ++ [(name, value)]) input.1 = arguments.get? input.1 := by
    rw [Fields.get?_append, Fields.get?_cons, h input hinput]
    exact Option.or_none
  unfold HasStandIn
  rw [hget]

/-- One step of filling in puts the default of an argument at the end, if the argument needs one and
has one. -/
def fillIn (supplied : Entries) (input : Value × InputSpec) : Entries :=
  if HasStandIn supplied input then supplied ++ [(input.1, input.2.default)] else supplied

theorem withDefaults_eq_foldl (e : Entity) (arguments : Entries) :
    withDefaults e arguments = e.inputs.foldl fillIn arguments := by
  unfold withDefaults
  congr 1
  funext supplied ⟨name, spec⟩
  by_cases habsent : supplied.get? name = none
  · simp [fillIn, HasStandIn, Fields.has, habsent, Fields.put_of_get?_eq_none, ite_not]
  · simp [fillIn, HasStandIn, Fields.has, habsent, Option.isSome_iff_ne_none.mpr habsent]

/-- The induction is on the declared arguments; each default that is filled in is supplied for those
after it. -/
theorem foldl_fillIn {inputs : Fields InputSpec} (hinputs : inputs.Distinct) (supplied : Entries) :
    inputs.foldl fillIn supplied = supplied ++ standIns inputs supplied := by
  induction inputs generalizing supplied with
  | nil => exact (List.append_nil supplied).symm
  | cons input rest ih =>
    obtain ⟨-, hothers, hrest⟩ := Fields.distinct_cons_iff.mp hinputs
    rw [List.foldl_cons, ih hrest, standIns_cons, fillIn]
    split
    · rw [standIns_append_singleton input.2.default fun other hother => (hothers other hother).2,
        List.append_assoc, List.singleton_append]
    · rfl

/-- The defaults that stand in go behind what is supplied, and nothing else changes. -/
theorem withDefaults_eq (he : e.inputs.Distinct) (arguments : Entries) :
    withDefaults e arguments = arguments ++ standIns e.inputs arguments := by
  rw [withDefaults_eq_foldl, foldl_fillIn he]

/-- What stands in stands under the names of arguments. -/
theorem get?_standIns_eq_none {inputs : Fields InputSpec} {name : Value}
    (h : ∀ input ∈ inputs, name.same input.1 = false) :
    (standIns inputs arguments).get? name = none := by
  refine Fields.get?_eq_none fun entry hentry => ?_
  obtain ⟨input, hinput, rfl⟩ := List.mem_map.mp hentry
  exact h input (List.mem_filter.mp hinput).1

/-- Under the name of an argument, what stands in is its default, if it needs one and has one. -/
theorem get?_standIns {inputs : Fields InputSpec} (hinputs : inputs.Distinct)
    {input : Value × InputSpec} (hinput : input ∈ inputs) :
    (standIns inputs arguments).get? input.1 =
      if HasStandIn arguments input then some input.2.default else none := by
  induction inputs with
  | nil => cases hinput
  | cons first rest ih =>
    obtain ⟨hitself, hothers, hrest⟩ := Fields.distinct_cons_iff.mp hinputs
    rw [standIns_cons]
    rcases List.mem_cons.mp hinput with rfl | hlater
    · split
      · rw [Fields.get?_cons, if_pos hitself]
      · exact get?_standIns_eq_none fun other hother => (hothers other hother).1
    · rw [← ih hrest hlater]
      split
      · rw [Fields.get?_cons, if_neg (Bool.not_eq_true _ ▸ (hothers input hlater).2)]
      · rfl

theorem get?_withDefaults (he : e.inputs.Distinct) {input : Value × InputSpec}
    (hinput : input ∈ e.inputs) :
    (withDefaults e arguments).get? input.1 = (arguments.get? input.1).or
      (if input.2.default = .null then none else some input.2.default) := by
  rw [withDefaults_eq he, Fields.get?_append, get?_standIns he hinput]
  cases hget : arguments.get? input.1 with
  | some value => rfl
  | none => simp [HasStandIn, hget, ite_not]

/-- Where defaults are filled in, none is left to fill in. -/
theorem standIns_withDefaults (he : e.inputs.Distinct) :
    standIns e.inputs (withDefaults e arguments) = [] := by
  unfold standIns
  rw [List.map_eq_nil_iff, List.filter_eq_nil_iff]
  intro input hinput hdue
  obtain ⟨habsent, hdefault⟩ := of_decide_eq_true hdue
  rw [get?_withDefaults he hinput, if_neg hdefault] at habsent
  cases hget : arguments.get? input.1 <;> simp [hget] at habsent

/-! ## What a request comes to -/

theorem inOrder_iff_of_supplied {input : Value × InputSpec} {value : Value}
    (hgiven : arguments.get? input.1 = some value) :
    InOrder modules t e arguments input ↔
      (checkArgument modules t none e.name input.1 input.2 value).outcome = .ok () := by
  constructor
  · rintro (⟨other, hother, haccepted⟩ | ⟨habsent, -, -⟩ | ⟨habsent, -, -⟩)
    · rw [hgiven] at hother
      cases hother
      exact haccepted
    · rw [hgiven] at habsent
      cases habsent
    · rw [hgiven] at habsent
      cases habsent
  · exact .supplied value hgiven

theorem inOrder_iff_of_hasStandIn {input : Value × InputSpec} (h : HasStandIn arguments input) :
    InOrder modules t e arguments input ↔
      (checkArgument modules t none e.name input.1 input.2 input.2.default).outcome = .ok () := by
  constructor
  · rintro (⟨_, hgiven, -⟩ | ⟨-, -, haccepted⟩ | ⟨-, hundeclared, -⟩)
    · rw [h.1] at hgiven
      cases hgiven
    · exact haccepted
    · exact (h.2 hundeclared).elim
  · exact .filledIn h.1 h.2

theorem inOrder_iff_of_leftOut {input : Value × InputSpec}
    (habsent : arguments.get? input.1 = none) (hundeclared : input.2.default = .null) :
    InOrder modules t e arguments input ↔ input.2.optional = true := by
  constructor
  · rintro (⟨_, hgiven, -⟩ | ⟨-, hdeclared, -⟩ | ⟨-, -, hoptional⟩)
    · rw [habsent] at hgiven
      cases hgiven
    · exact (hdeclared hundeclared).elim
    · exact hoptional
  · exact .leftOut habsent hundeclared

/-- An argument passes both rounds of a request, with defaults filled in, when it is in order. -/
theorem passes_withDefaults_iff (he : e.inputs.Distinct) {input : Value × InputSpec}
    (hinput : input ∈ e.inputs) :
    (¬ IsMissing (withDefaults e arguments) input ∧
        Accepts modules t e (withDefaults e arguments) input) ↔
      InOrder modules t e arguments input := by
  unfold IsMissing Accepts
  rw [get?_withDefaults he hinput]
  cases hget : arguments.get? input.1 with
  | some value =>
    rw [inOrder_iff_of_supplied hget]
    simp
  | none =>
    by_cases hdefault : input.2.default = .null
    · rw [inOrder_iff_of_leftOut hget hdefault]
      simp [hdefault, InputSpec.required]
    · rw [inOrder_iff_of_hasStandIn ⟨hget, hdefault⟩]
      simp [hdefault]

/-- Filling in defaults and checking a request go together. What is supplied stays as it is, nothing
included; behind it, in the order of declaration, stand the defaults of the arguments that are not
supplied and have one; filling in twice changes nothing more. On a loaded table, the request that
comes of it is accepted exactly when each declared argument is in order: its supplied value is
accepted, or its default is, which was not checked before, or it has neither and is optional. -/
theorem withDefaults_composes (modules : Modules) (t : Validators) (ht : t.isLoaded)
    (about : Option Subject) (e : Entity) (he : e.inputs.Distinct) (arguments : Entries) :
    withDefaults e arguments = arguments ++ standIns e.inputs arguments ∧
    (∀ key value, arguments.get? key = some value →
      (withDefaults e arguments).get? key = some value) ∧
    withDefaults e (withDefaults e arguments) = withDefaults e arguments ∧
    ((check modules t about e (withDefaults e arguments)).outcome = .ok () ↔
      ∀ input ∈ e.inputs, InOrder modules t e arguments input) := by
  refine ⟨withDefaults_eq he arguments, fun key value hvalue => ?_, ?_, ?_⟩
  · rw [withDefaults_eq he, Fields.get?_append, hvalue]
    rfl
  · rw [withDefaults_eq he, standIns_withDefaults he, List.append_nil]
  · rw [outcome_check_eq_ok_iff ht, ← forall₂_and]
    exact forall₂_congr fun input hinput => passes_withDefaults_iff he hinput

/-- An action that can be given a message, and a delay of which the default is known. -/
def announce : Entity :=
  { name := "announce", kind := .action, description := .str "Announce", display := .ok
    inputs := .ofNamed [
      ("message", (plainInput "message" "string" true).2),
      ("delay", { (plainInput "delay" "integer" false).2 with default := .int 5 })]
    outputs := [] }

/-- A message that is left out is in order, and one that is supplied as nothing stays and is
refused. -/
theorem withDefaults_composes_announce :
    let t : Validators := { custom := [], loaded := some Validator.builtin }
    ((check [] t none announce (withDefaults announce [])).outcome = .ok () ∧
      withDefaults announce [] = [(.str "delay", .int 5)]) ∧
    ((check [] t none announce (withDefaults announce [(.str "message", .null)])).outcome ≠ .ok () ∧
      withDefaults announce [(.str "message", .null)] =
        [(.str "message", .null), (.str "delay", .int 5)]) := by
  intro t
  have hdistinct : announce.inputs.Distinct := Fields.distinct_ofNamed (by decide)
  obtain ⟨hnone, -, -, haccepted⟩ := withDefaults_composes [] t rfl none announce hdistinct []
  obtain ⟨hnull, -, -, hrefused⟩ :=
    withDefaults_composes [] t rfl none announce hdistinct [(.str "message", .null)]
  refine ⟨⟨haccepted.mpr fun input hinput => ?_, hnone⟩, fun h => ?_, hnull⟩
  · simp only [announce, Fields.ofNamed_cons, List.mem_cons] at hinput
    rcases hinput with rfl | rfl | hnil
    · exact .leftOut rfl rfl rfl
    · exact .filledIn rfl (by decide) rfl
    · cases hnil
  · have hmessage := (inOrder_iff_of_supplied rfl).mp (hrefused.mp h _ List.mem_cons_self)
    cases hmessage

end Request

end PluginDescriptor
