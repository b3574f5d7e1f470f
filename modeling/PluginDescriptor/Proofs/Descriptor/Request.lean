import Mathlib.Data.List.Find
import PluginDescriptor.Descriptor.Request
import PluginDescriptor.Proofs.Outcome

/-!
# What decides a request

A request is checked against a loaded table in two rounds over the declared arguments: first whether
those that have to be given are there, then the values that are given. Which check decides, and that
nothing else has a say in it, is the main statement, `Request.check_decided`.
-/

set_option autoImplicit false

namespace PluginDescriptor

/-- The first of a row that has a property. -/
def First {α : Type} (P : α → Prop) (row : List α) (a : α) : Prop :=
  ∃ before rest, row = before ++ a :: rest ∧ P a ∧ ∀ b ∈ before, ¬ P b

/-- The first of a row is the one in front, if that has the property, and else the first of the
rest. -/
theorem first_cons_iff {α : Type} {P : α → Prop} {b : α} {row : List α} {a : α} :
    First P (b :: row) a ↔ (P b ∧ a = b) ∨ (¬ P b ∧ First P row a) := by
  constructor
  · rintro ⟨before, rest, hrow, ha, hbefore⟩
    cases before with
    | nil =>
      obtain ⟨rfl, -⟩ := List.cons.inj hrow
      exact .inl ⟨ha, rfl⟩
    | cons c before =>
      obtain ⟨rfl, htail⟩ := List.cons.inj hrow
      obtain ⟨hb, hbefore⟩ := List.forall_mem_cons.mp hbefore
      exact .inr ⟨hb, before, rest, htail, ha, hbefore⟩
  · rintro (⟨hb, rfl⟩ | ⟨hb, before, rest, rfl, ha, hbefore⟩)
    · exact ⟨[], row, rfl, hb, fun c hc => (List.not_mem_nil hc).elim⟩
    · exact ⟨b :: before, rest, rfl, ha, List.forall_mem_cons.mpr ⟨hb, hbefore⟩⟩

theorem not_first_nil {α : Type} {P : α → Prop} (a : α) : ¬ First P [] a := by
  rintro ⟨before, rest, hrow, -⟩
  simp at hrow

/-- The first of a row of images is the image of the first. -/
theorem first_map_iff {α β : Type} {P : β → Prop} (f : α → β) {row : List α} {b : β} :
    First P (row.map f) b ↔ ∃ a, First (fun a => P (f a)) row a ∧ b = f a := by
  induction row with
  | nil => simp [not_first_nil]
  | cons a row ih =>
    rw [List.map_cons, first_cons_iff, ih]
    simp only [first_cons_iff]
    constructor
    · rintro (⟨ha, rfl⟩ | ⟨ha, c, hc, rfl⟩)
      · exact ⟨a, .inl ⟨ha, rfl⟩, rfl⟩
      · exact ⟨c, .inr ⟨ha, hc⟩, rfl⟩
    · rintro ⟨c, ⟨ha, rfl⟩ | ⟨ha, hc⟩, rfl⟩
      · exact .inl ⟨ha, rfl⟩
      · exact .inr ⟨ha, c, hc, rfl⟩

/-- A failure as that of a request about a plugin: what refuses an argument is about the plugin, and
all else stays. -/
def Failure.onBehalf (about : Option Subject) : Failure → Failure
  | descriptor problem _ => descriptor problem about
  | failure => failure

namespace Request

variable (modules : Modules) (t : Validators) (about : Option Subject) (e : Entity)
  (arguments : Entries)

/-- The argument has to be given and is not. -/
def IsMissing (input : Value × InputSpec) : Prop :=
  input.2.required ∧ arguments.get? input.1 = none

instance (input : Value × InputSpec) : Decidable (IsMissing arguments input) :=
  inferInstanceAs (Decidable (_ ∧ _))

/-- The value that is given for the argument, if one is, is accepted by itself. -/
def Accepts (input : Value × InputSpec) : Prop :=
  ∀ value, arguments.get? input.1 = some value →
    (checkArgument modules t none e.name input.1 input.2 value).outcome = .ok ()

/-- Why a request is refused: the first argument that is missing, whatever the values, or else the
first argument whose value is refused by itself. -/
inductive Refused : Failure → Prop where
  | missing (input : Value × InputSpec) (first : First (IsMissing arguments) e.inputs input) :
      Refused (.descriptor (.missingInput e.name input.1) about)
  | value (present : ∀ input ∈ e.inputs, ¬ IsMissing arguments input)
      (input : Value × InputSpec) (value : Value) (failure : Failure)
      (first : First (fun input => ¬ Accepts modules t e arguments input) e.inputs input)
      (given : arguments.get? input.1 = some value)
      (refused :
        (checkArgument modules t none e.name input.1 input.2 value).outcome = .error failure) :
      Refused (failure.onBehalf about)

/-- The verdict on the value that is given for an argument, if one is. -/
def verdict (input : Value × InputSpec) : Except Failure Unit :=
  match arguments.get? input.1 with
  | none => .ok ()
  | some value => checkValue t about e.name input.1 input.2 value

variable {modules t about e arguments}

/-! ## Loaded tables -/

theorem outcome_checkArgument (ht : t.isLoaded) (entity : String) (key : Value) (spec : InputSpec)
    (value : Value) :
    (checkArgument modules t about entity key spec value).outcome =
      checkValue t about entity key spec value := by
  rw [checkArgument, Validators.load_of_isLoaded ht]
  rfl

/-- A value is refused on behalf of a plugin as it is refused by itself. -/
theorem checkValue_about (entity : String) (key : Value) (spec : InputSpec) (value : Value) :
    checkValue t about entity key spec value =
      (checkValue t none entity key spec value).mapError (Failure.onBehalf about) := by
  unfold checkValue
  cases judge t spec value with
  | ok _ => rfl
  | error failure =>
    unfold blame
    cases failure <;> rfl

/-- The values are checked one by one, in the order of declaration. -/
theorem outcome_checkSupplied (ht : t.isLoaded) (inputs : List (Value × InputSpec)) :
    (checkSupplied modules t about e arguments inputs).outcome =
      inputs.forM (verdict t about e arguments) := by
  induction inputs with
  | nil => rfl
  | cons input rest ih =>
    obtain ⟨name, spec⟩ := input
    rw [checkSupplied, forM_cons_eq]
    unfold verdict at ih ⊢
    cases hgiven : arguments.get? name with
    | none => exact ih
    | some value =>
      simp only
      rw [Logged.outcome_bind, outcome_checkArgument ht, Validators.afterLoad_of_isLoaded ht, ih]

/-- The arguments that have to be given are looked for in the order of declaration. -/
theorem missing?_eq :
    missing? e arguments =
      (List.find? (fun input => decide (IsMissing arguments input)) e.inputs).map (·.1) := by
  unfold missing? Entity.requiredInputs
  rw [List.find?_map, List.find?_filter]
  congr 1
  refine List.find?_congr fun input _ => ?_
  have hmissing : IsMissing arguments input ↔
      input.2.required = true ∧ arguments.get? input.1 = none := Iff.rfl
  rw [Bool.eq_iff_iff, decide_eq_true_iff, decide_eq_true_iff, hmissing]
  simp [Fields.has]

/-- A request fails at the first argument that is missing, or else as its values do. -/
theorem outcome_check (ht : t.isLoaded) :
    (check modules t about e arguments).outcome =
      match List.find? (fun input => decide (IsMissing arguments input)) e.inputs with
      | some input => .error (.descriptor (.missingInput e.name input.1) about)
      | none => e.inputs.forM (verdict t about e arguments) := by
  unfold check
  rw [missing?_eq]
  cases List.find? (fun input => decide (IsMissing arguments input)) e.inputs with
  | some input => rfl
  | none =>
    have hnotices : ∀ x : Logged Unit, (x >>= fun _ =>
        { notices := undeclaredNotices e arguments, outcome := .ok () }).outcome = x.outcome := by
      intro x
      rw [Logged.outcome_bind]
      cases x.outcome <;> rfl
    exact (hnotices _).trans (outcome_checkSupplied ht e.inputs)

/-! ## Verdicts -/

theorem verdict_eq_ok_iff (ht : t.isLoaded) (input : Value × InputSpec) :
    verdict t about e arguments input = .ok () ↔ Accepts modules t e arguments input := by
  unfold verdict Accepts
  cases arguments.get? input.1 with
  | none =>
    constructor
    · intro _ value hvalue
      cases hvalue
    · exact fun _ => rfl
  | some value =>
    simp only [Option.some.injEq, forall_eq', outcome_checkArgument ht]
    rw [checkValue_about]
    cases checkValue t none e.name input.1 input.2 value with
    | ok _ => exact ⟨fun _ => rfl, fun _ => rfl⟩
    | error failure =>
      constructor
      · intro h
        cases h
      · intro h
        cases h

theorem verdict_eq_error_iff (ht : t.isLoaded) (input : Value × InputSpec) (failure : Failure) :
    verdict t about e arguments input = .error failure ↔ ∃ value raised,
      arguments.get? input.1 = some value ∧
        (checkArgument modules t none e.name input.1 input.2 value).outcome = .error raised ∧
          failure = raised.onBehalf about := by
  unfold verdict
  cases arguments.get? input.1 with
  | none =>
    constructor
    · intro h
      cases h
    · rintro ⟨value, raised, hvalue, -⟩
      cases hvalue
  | some value =>
    simp only [Option.some.injEq, exists_and_left, exists_eq_left', outcome_checkArgument ht]
    rw [checkValue_about]
    cases checkValue t none e.name input.1 input.2 value with
    | ok _ =>
      constructor
      · intro h
        cases h
      · rintro ⟨raised, hraised, -⟩
        cases hraised
    | error raised =>
      constructor
      · intro h
        cases h
        exact ⟨raised, rfl, rfl⟩
      · rintro ⟨_, hraised, rfl⟩
        cases hraised
        rfl

theorem find?_isMissing_eq_none_iff (inputs : List (Value × InputSpec)) :
    List.find? (fun input => decide (IsMissing arguments input)) inputs = none ↔
      ∀ input ∈ inputs, ¬ IsMissing arguments input := by
  rw [List.find?_eq_none]
  simp only [decide_eq_true_iff]

theorem find?_isMissing_eq_some_iff (inputs : List (Value × InputSpec)) (input : Value × InputSpec) :
    List.find? (fun input => decide (IsMissing arguments input)) inputs = some input ↔
      First (IsMissing arguments) inputs input := by
  rw [List.find?_eq_some_iff_append, decide_eq_true_iff]
  constructor
  · rintro ⟨hmissing, before, rest, hrow, hbefore⟩
    refine ⟨before, rest, hrow, hmissing, fun b hb hmissing => ?_⟩
    have hnot := hbefore b hb
    rw [decide_eq_true hmissing] at hnot
    cases hnot
  · rintro ⟨before, rest, hrow, hmissing, hbefore⟩
    refine ⟨hmissing, before, rest, hrow, fun b hb => ?_⟩
    rw [decide_eq_false (hbefore b hb)]
    rfl

/-! ## Requests -/

/-- A request is accepted when nothing is missing and every value that is given is accepted. -/
theorem outcome_check_eq_ok_iff (ht : t.isLoaded) :
    (check modules t about e arguments).outcome = .ok () ↔
      (∀ input ∈ e.inputs, ¬ IsMissing arguments input) ∧
        ∀ input ∈ e.inputs, Accepts modules t e arguments input := by
  have hverdict : ∀ input, verdict t about e arguments input = .ok () ↔
      Accepts modules t e arguments input := verdict_eq_ok_iff ht
  rw [outcome_check ht, ← find?_isMissing_eq_none_iff]
  cases List.find? (fun input => decide (IsMissing arguments input)) e.inputs with
  | some input =>
    constructor
    · intro h
      cases h
    · rintro ⟨h, -⟩
      cases h
  | none =>
    simp only [true_and, forM_eq_ok_iff, hverdict]

/-- A request is refused for the first argument that is missing, or else for the first value that is
refused. -/
theorem outcome_check_eq_error_iff (ht : t.isLoaded) (failure : Failure) :
    (check modules t about e arguments).outcome = .error failure ↔
      Refused modules t about e arguments failure := by
  have haccepts : ∀ input, verdict t about e arguments input = .ok () ↔
      Accepts modules t e arguments input := verdict_eq_ok_iff ht
  have hrefuses : ∀ input failure, verdict t about e arguments input = .error failure ↔
      ∃ value raised, arguments.get? input.1 = some value ∧
        (checkArgument modules t none e.name input.1 input.2 value).outcome = .error raised ∧
          failure = raised.onBehalf about := verdict_eq_error_iff ht
  rw [outcome_check ht]
  cases hfind : List.find? (fun input => decide (IsMissing arguments input)) e.inputs with
  | some input =>
    have hfirst := (find?_isMissing_eq_some_iff e.inputs input).mp hfind
    constructor
    · intro h
      cases h
      exact .missing input hfirst
    · rintro (⟨other, hother⟩ | ⟨hpresent, -⟩)
      · rw [(find?_isMissing_eq_some_iff e.inputs other).mpr hother] at hfind
        cases hfind
        rfl
      · rw [(find?_isMissing_eq_none_iff e.inputs).mpr hpresent] at hfind
        cases hfind
  | none =>
    have hpresent := (find?_isMissing_eq_none_iff e.inputs).mp hfind
    simp only [forM_eq_error_iff, haccepts]
    constructor
    · rintro ⟨before, input, rest, hrow, hbefore, herror⟩
      obtain ⟨value, raised, hvalue, hraised, rfl⟩ := (hrefuses input failure).mp herror
      have hrefused : ¬ Accepts modules t e arguments input := by
        intro haccepts
        rw [haccepts value hvalue] at hraised
        cases hraised
      exact .value hpresent input value raised
        ⟨before, rest, hrow, hrefused, fun b hb hnot => hnot (hbefore b hb)⟩ hvalue hraised
    · rintro (⟨input, hfirst⟩ | ⟨-, input, value, raised, hfirst, hvalue, hraised⟩)
      · rw [(find?_isMissing_eq_some_iff e.inputs input).mpr hfirst] at hfind
        cases hfind
      · obtain ⟨before, rest, hrow, -, hbefore⟩ := hfirst
        exact ⟨before, input, rest, hrow, fun b hb => not_not.mp (hbefore b hb),
          (hrefuses input _).mpr ⟨value, raised, hvalue, hraised, rfl⟩⟩

/-- Only the values under declared names have a say in the outcome. -/
theorem outcome_check_congr (ht : t.isLoaded) {others : Entries}
    (h : ∀ input ∈ e.inputs, others.get? input.1 = arguments.get? input.1) :
    (check modules t about e others).outcome = (check modules t about e arguments).outcome := by
  have hmissing : List.find? (fun input => decide (IsMissing others input)) e.inputs =
      List.find? (fun input => decide (IsMissing arguments input)) e.inputs := by
    refine List.find?_congr fun input hmem => ?_
    have hsame : IsMissing others input ↔ IsMissing arguments input := by
      unfold IsMissing
      rw [h input hmem]
    exact decide_eq_decide.mpr hsame
  have hvalues : e.inputs.forM (verdict t about e others) =
      e.inputs.forM (verdict t about e arguments) := by
    refine forM_congr fun input hmem => ?_
    unfold verdict
    rw [h input hmem]
  rw [outcome_check ht, outcome_check ht, hmissing, hvalues]

/-- What decides a request, on a loaded table: it is accepted when nothing is missing and each value
that is given is accepted by itself; it is refused for the first argument that is missing, whatever
the values, and otherwise for the first value that is refused; and arguments that are not declared
have no say in it, nor has the order in which arguments are given. -/
theorem check_decided (modules : Modules) (t : Validators) (ht : t.isLoaded) (about : Option Subject)
    (e : Entity) (arguments : Entries) :
    ((check modules t about e arguments).outcome = .ok () ↔
      (∀ input ∈ e.inputs, ¬ IsMissing arguments input) ∧
        ∀ input ∈ e.inputs, Accepts modules t e arguments input) ∧
    (∀ failure, (check modules t about e arguments).outcome = .error failure ↔
      Refused modules t about e arguments failure) ∧
    ∀ others : Entries, (∀ input ∈ e.inputs, others.get? input.1 = arguments.get? input.1) →
      (check modules t about e others).outcome = (check modules t about e arguments).outcome :=
  ⟨outcome_check_eq_ok_iff ht, outcome_check_eq_error_iff ht, fun _ h => outcome_check_congr ht h⟩

/-- An argument of a type under a name. -/
def plainInput (name type : String) (optional : Bool) : Value × InputSpec :=
  (.str name, {
    name := .str name, prompt := .str name, description := .str name, type, default := .null, optional
    validation := none, maxlength := none, allowed := none, extra := [] })

/-- An action that has to be told whether to use force, and may be given a delay. -/
def restart : Entity :=
  { name := "restart", kind := .action, description := .str "Restart", display := .ok
    inputs := [plainInput "force" "boolean" false, plainInput "delay" "integer" true], outputs := [] }

theorem check_decided_restart :
    let t : Validators := { custom := [], loaded := some Validator.builtin }
    (check [] t none restart [(.str "delay", .str "none")]).outcome =
        .error (.descriptor (.missingInput "restart" (.str "force")) none) ∧
      (check [] t none restart [(.str "unknown", .null), (.str "force", .bool true)]).outcome =
        (check [] t none restart [(.str "force", .bool true)]).outcome := by
  intro t
  constructor
  · obtain ⟨-, hrefused, -⟩ := check_decided [] t rfl none restart [(.str "delay", .str "none")]
    have hfirst : First (IsMissing [(.str "delay", .str "none")]) restart.inputs
        (plainInput "force" "boolean" false) :=
      ⟨[], _, rfl, ⟨rfl, rfl⟩, fun b hb => (List.not_mem_nil hb).elim⟩
    exact (hrefused _).mpr (.missing _ hfirst)
  · obtain ⟨-, -, hsame⟩ := check_decided [] t rfl none restart [(.str "force", .bool true)]
    refine hsame _ fun input hmem => ?_
    simp only [restart, List.mem_cons, List.not_mem_nil, or_false] at hmem
    rcases hmem with rfl | rfl
    · rfl
    · rfl

end Request

end PluginDescriptor
