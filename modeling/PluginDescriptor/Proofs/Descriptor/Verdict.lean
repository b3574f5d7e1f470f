import PluginDescriptor.Proofs.Descriptor.Request

/-!
# The verdict on a value

A value given for an argument is admitted, or it is refused on account of the argument, or the check
fails because the configuration is at fault. `Request.checkArgument_decided` says which, for every
declaration, every value and every table of validators: each check is one of the table's, and only
the first that fails has a say. What a validator raises is never passed on as it is, unless it
blames the configuration.
-/

set_option autoImplicit false

namespace PluginDescriptor

namespace Pattern

theorem searchFrom_eq_true_iff (start : Nat → Bool) (place room : Nat) :
    searchFrom start place room = true ↔ ∃ n ≤ room, start (place + n) = true := by
  induction room generalizing place with
  | zero =>
    have hzero : ∀ n, n ≤ 0 ↔ n = 0 := fun n => Nat.le_zero
    simp [searchFrom, hzero]
  | succ room ih =>
    rw [searchFrom, Bool.or_eq_true, ih]
    constructor
    · rintro (h | ⟨n, hn, h⟩)
      · exact ⟨0, by omega, h⟩
      · exact ⟨n + 1, by omega, by rwa [show place + (n + 1) = place + 1 + n by omega]⟩
    · rintro ⟨n, hn, h⟩
      cases n with
      | zero => exact .inl h
      | succ n => exact .inr ⟨n, by omega, by rwa [show place + 1 + n = place + (n + 1) by omega]⟩

/-- A search tries every place, the end of the text included. -/
theorem Expression.search_eq_true_iff (e : Expression) (s : String) :
    e.search s = true ↔ ∃ place ≤ s.length, e.matchesAt s.toList.toArray place = true := by
  unfold search
  rw [searchFrom_eq_true_iff]
  simp [String.length_toList]

end Pattern

namespace Request

/-! ## What is asked of a value -/

section

variable (vs : Named Validator) (spec : InputSpec)

/-- There is a validator of the name, and it accepts the value. -/
def Passes (name : String) (value : Value) : Prop :=
  ∃ v, vs.lookup name = some v ∧ v.check value = .ok ()

/-- There is no validator of the name, or it blames the configuration. -/
inductive Unsettled (name : String) (value : Value) : Prop where
  | unknown (missing : vs.lookup name = none)
  | raised (v : Validator) (problem : SettingsProblem) (found : vs.lookup name = some v)
      (raises : v.check value = .error (.configuration problem))

/-- The pattern that the declaration of a text states, which is empty for none. -/
def patternOf : String := spec.validation.getD ""

/-- The declaration is that of a text, the value passes as one, and is not too long. -/
structure Fits (s : String) : Prop where
  isText : spec.type = "string"
  passes : Passes vs "string" (.str s)
  bounded : spec.maxlength.getD 0 = 0 ∨ (s.length : Int) ≤ spec.maxlength.getD 0

/-- A pattern accepts a text: the validator of that name does, or else, read as a regular
expression, it matches somewhere. -/
inductive Matches (pattern : String) (s : String) : Prop where
  | named (v : Validator) (found : vs.lookup pattern = some v) (accepts : v.check (.str s) = .ok ())
  | somewhere (unnamed : vs.lookup pattern = none) (e : Pattern.Expression)
      (parsed : Pattern.Expression.parse pattern = .ok e) (place : Nat) (inside : place ≤ s.length)
      (found : e.matchesAt s.toList.toArray place = true)

/-- What is admitted, for each kind of declaration. -/
inductive Admits : Value → Prop where
  | text (s : String) (fits : Fits vs spec s)
      (pattern : patternOf spec = "" ∨ Matches vs (patternOf spec) s) : Admits (.str s)
  | choice (value item : Value) (isChoice : spec.type = "list")
      (offered : item ∈ spec.allowed.getD []) (kind : item.kindName = value.kindName)
      (equal : item.same value = true) : Admits value
  | typed (value : Value) (notText : spec.type ≠ "string") (notChoice : spec.type ≠ "list")
      (passes : Passes vs spec.type value) : Admits value

/-- Where the configuration is at fault, in the first check that fails: the validator of the type,
or the pattern, of a text that is admitted otherwise. A pattern that cannot be compiled counts if it
is malformed; one that is too large is taken for a fault of the value. -/
inductive Misconfigured : Value → Prop where
  | type (value : Value) (notChoice : spec.type ≠ "list")
      (unsettled : Unsettled vs spec.type value) : Misconfigured value
  | named (s : String) (fits : Fits vs spec s) (stated : patternOf spec ≠ "") (v : Validator)
      (problem : SettingsProblem) (found : vs.lookup (patternOf spec) = some v)
      (raises : v.check (.str s) = .error (.configuration problem)) : Misconfigured (.str s)
  | malformed (s : String) (fits : Fits vs spec s) (stated : patternOf spec ≠ "")
      (unnamed : vs.lookup (patternOf spec) = none) (problem : String) (position : Option Nat)
      (broken : Pattern.Expression.parse (patternOf spec) = .error (.malformed problem position)) :
      Misconfigured (.str s)

end

/-! ## The checks of a table -/

/-- A check fails because the configuration is at fault. -/
def Blames (x : Except Failure Unit) : Prop := ∃ problem, x = .error (.configuration problem)

theorem not_blames_ok : ¬ Blames (.ok ()) := by
  rintro ⟨problem, h⟩
  cases h

/-- Of two checks, one after the other, the second has a say only if the first is passed. -/
theorem blames_bind_iff {x : Except Failure Unit} {f : Unit → Except Failure Unit} :
    Blames (x >>= f) ↔ Blames x ∨ x = .ok () ∧ Blames (f ()) := by
  cases x with
  | ok a =>
    constructor
    · exact fun h => .inr ⟨rfl, h⟩
    · rintro (h | ⟨-, h⟩)
      · exact (not_blames_ok h).elim
      · exact h
  | error failure =>
    constructor
    · exact .inl
    · rintro (h | ⟨h, -⟩)
      · exact h
      · cases h

section

variable (custom : Named String) (vs : Named Validator)

/-- A loaded table. -/
def loadedTable (custom : Named String) (vs : Named Validator) : Validators :=
  { custom, loaded := some vs }

theorem validate_loadedTable (value : Value) (name : String) :
    (loadedTable custom vs).validate value (.str name) =
      match vs.lookup name with
      | some v => v.check value
      | none => .error (.configuration (.validatorUnknown (.str name))) := by
  have hget : (loadedTable custom vs).get (.str name) =
      match vs.lookup name with
      | some v => .ok v
      | none => .error (.configuration (.validatorUnknown (.str name))) := rfl
  unfold Validators.validate
  rw [hget]
  cases vs.lookup name <;> rfl

theorem checkPattern_loadedTable (value : Value) (pattern : String) :
    (loadedTable custom vs).checkPattern value (.str pattern) =
      match vs.lookup pattern with
      | some v => v.check value
      | none => Validators.checkMatch value pattern := by
  have hhas : (loadedTable custom vs).has (.str pattern) = .ok (vs.lookup pattern).isSome := rfl
  have hvalidate := validate_loadedTable custom vs value pattern
  unfold Validators.checkPattern
  rw [hhas, hvalidate]
  cases vs.lookup pattern <;> rfl

variable {custom vs}

theorem validate_eq_ok_iff (value : Value) (name : String) :
    (loadedTable custom vs).validate value (.str name) = .ok () ↔ Passes vs name value := by
  rw [validate_loadedTable]
  unfold Passes
  cases vs.lookup name with
  | none => simp
  | some v => simp

theorem blames_validate_iff (value : Value) (name : String) :
    Blames ((loadedTable custom vs).validate value (.str name)) ↔ Unsettled vs name value := by
  rw [validate_loadedTable]
  cases hfound : vs.lookup name with
  | none => exact iff_of_true ⟨_, rfl⟩ (.unknown hfound)
  | some v =>
    constructor
    · rintro ⟨problem, h⟩
      exact .raised v problem hfound h
    · rintro (hmissing | ⟨v', problem, hfound', h⟩)
      · rw [hfound] at hmissing
        cases hmissing
      · rw [hfound] at hfound'
        cases hfound'
        exact ⟨problem, h⟩

/-- A length is checked of texts only, and not at all when the bound is zero. -/
theorem checkLength_str (s : String) (most : Int) :
    (loadedTable custom vs).checkLength (.str s) (.int most) =
      if most = 0 ∨ (s.length : Int) ≤ most then .ok ()
      else Validator.refuse
        s!"value should be at most {(Value.int most).text} characters long, got {s.length}" := by
  unfold Validators.checkLength
  simp only [Value.isMoreThan, Value.isTruthy]
  by_cases hzero : most = 0
  · subst hzero
    rfl
  · have htruthy : (most != 0) = true := by simpa using hzero
    by_cases hlong : most < s.length
    · have hnot : ¬ (most = 0 ∨ (s.length : Int) ≤ most) := by omega
      simp only [htruthy, hlong, decide_true, if_neg hnot]
      rfl
    · have hfits : most = 0 ∨ (s.length : Int) ≤ most := by omega
      simp only [htruthy, hlong, decide_false, if_pos hfits]
      rfl

theorem checkLength_eq_ok_iff (value : Value) (most : Int) :
    (loadedTable custom vs).checkLength value (.int most) = .ok () ↔
      ∃ s, value = .str s ∧ (most = 0 ∨ (s.length : Int) ≤ most) := by
  constructor
  · intro h
    cases value with
    | str s =>
      rw [checkLength_str] at h
      split at h
      · rename_i hfits
        exact ⟨s, rfl, hfits⟩
      · cases h
    | _ => cases h
  · rintro ⟨s, rfl, hfits⟩
    rw [checkLength_str, if_pos hfits]

theorem not_blames_checkLength (value : Value) (most : Int) :
    ¬ Blames ((loadedTable custom vs).checkLength value (.int most)) := by
  rintro ⟨problem, h⟩
  cases value with
  | str s =>
    rw [checkLength_str] at h
    split at h <;> cases h
  | _ => cases h

theorem checkMatch_eq_ok_iff (s pattern : String) :
    Validators.checkMatch (.str s) pattern = .ok () ↔
      ∃ e, Pattern.Expression.parse pattern = .ok e ∧ e.search s = true := by
  unfold Validators.checkMatch
  cases Pattern.Expression.parse pattern with
  | error fault => simp
  | ok e =>
    simp only [Except.ok.injEq, exists_eq_left']
    split
    · rename_i hfound
      exact iff_of_true rfl hfound
    · rename_i hfound
      exact iff_of_false (fun h => by cases h) hfound

/-- Of the patterns that cannot be compiled, only the malformed ones are blamed on the
configuration. -/
theorem blames_checkMatch_iff (s pattern : String) :
    Blames (Validators.checkMatch (.str s) pattern) ↔ ∃ problem position,
      Pattern.Expression.parse pattern = .error (.malformed problem position) := by
  unfold Validators.checkMatch Blames
  cases Pattern.Expression.parse pattern with
  | error fault => cases fault <;> simp [Validators.patternFailure]
  | ok e =>
    simp only
    split
    · simp
    · simp [Validator.refuse]

theorem checkPattern_eq_ok_iff (s pattern : String) :
    (loadedTable custom vs).checkPattern (.str s) (.str pattern) = .ok () ↔
      Matches vs pattern s := by
  rw [checkPattern_loadedTable]
  cases hnamed : vs.lookup pattern with
  | some v =>
    constructor
    · exact fun h => .named v hnamed h
    · rintro (⟨v', hv', haccepts⟩ | ⟨hnone, -⟩)
      · rw [hnamed] at hv'
        cases hv'
        exact haccepts
      · rw [hnamed] at hnone
        cases hnone
  | none =>
    simp only [checkMatch_eq_ok_iff, Pattern.Expression.search_eq_true_iff]
    constructor
    · rintro ⟨e, hparsed, place, hinside, hfound⟩
      exact .somewhere hnamed e hparsed place hinside hfound
    · rintro (⟨v', hv', -⟩ | ⟨-, e, hparsed, place, hinside, hfound⟩)
      · rw [hnamed] at hv'
        cases hv'
      · exact ⟨e, hparsed, place, hinside, hfound⟩

theorem blames_checkPattern_iff (s pattern : String) :
    Blames ((loadedTable custom vs).checkPattern (.str s) (.str pattern)) ↔
      (∃ v problem, vs.lookup pattern = some v ∧
        v.check (.str s) = .error (.configuration problem)) ∨
      (vs.lookup pattern = none ∧ ∃ problem position,
        Pattern.Expression.parse pattern = .error (.malformed problem position)) := by
  rw [checkPattern_loadedTable]
  cases vs.lookup pattern with
  | some v => simp [Blames]
  | none => simp [blames_checkMatch_iff]

theorem checkMembership_loadedTable (value : Value) (allowed : List Value) :
    (loadedTable custom vs).checkMembership value (.tuple allowed) =
      if !allowed.any fun item => item.kindName == value.kindName && item.same value then
        if !Value.areWritable allowed then .error (.fault .numberTooLong)
        else Validator.refuse s!"value should be one of {Value.listed allowed}"
      else .ok () := by
  have hcheck : (loadedTable custom vs).checkMembership value (.tuple allowed) =
      if !allowed.any fun item => item.kindName == value.kindName && item.same value then do
        if !Value.areWritable allowed then throw (.fault .numberTooLong)
        Validator.refuse s!"value should be one of {Value.listed allowed}"
      else pure () := rfl
  rw [hcheck]
  cases Value.areWritable allowed <;> rfl

theorem checkMembership_eq_ok_iff (value : Value) (allowed : List Value) :
    (loadedTable custom vs).checkMembership value (.tuple allowed) = .ok () ↔
      ∃ item ∈ allowed, item.kindName = value.kindName ∧ item.same value = true := by
  have hany : (allowed.any fun item => item.kindName == value.kindName && item.same value) = true ↔
      ∃ item ∈ allowed, item.kindName = value.kindName ∧ item.same value = true := by
    simp [List.any_eq_true]
  rw [checkMembership_loadedTable, ← hany]
  cases allowed.any fun item => item.kindName == value.kindName && item.same value with
  | true => exact iff_of_true rfl rfl
  | false =>
    refine iff_of_false ?_ Bool.false_ne_true
    intro h
    cases hwritable : Value.areWritable allowed with
    | true =>
      rw [hwritable] at h
      cases h
    | false =>
      rw [hwritable] at h
      cases h

theorem not_blames_checkMembership (value : Value) (allowed : List Value) :
    ¬ Blames ((loadedTable custom vs).checkMembership value (.tuple allowed)) := by
  rintro ⟨problem, h⟩
  rw [checkMembership_loadedTable] at h
  split at h
  · split at h <;> cases h
  · cases h

end

/-! ## Judging -/

section

variable {custom : Named String} {vs : Named Validator} {t : Validators} {spec : InputSpec}

theorem judge_text (h : spec.type = "string") (value : Value) :
    judge t spec value = (t.validate value (.str "string") >>= fun _ =>
      t.checkLength value (.int (spec.maxlength.getD 0)) >>= fun _ =>
        if patternOf spec = "" then .ok () else t.checkPattern value (.str (patternOf spec))) := by
  unfold judge patternOf
  rw [if_pos h]
  cases spec.validation with
  | none => rfl
  | some pattern =>
    by_cases hempty : pattern = ""
    · subst hempty
      rfl
    · have hne : pattern.isEmpty = false := by simpa using hempty
      simp only [Option.getD_some, hne, if_neg hempty]
      rfl

theorem judge_choice (h : spec.type = "list") (value : Value) :
    judge t spec value = t.checkMembership value (.tuple (spec.allowed.getD [])) := by
  have hother : spec.type ≠ "string" := by
    rw [h]
    decide
  unfold judge
  rw [if_neg hother, if_pos h]

theorem judge_typed (htext : spec.type ≠ "string") (hchoice : spec.type ≠ "list") (value : Value) :
    judge t spec value = t.validate value (.str spec.type) := by
  unfold judge
  rw [if_neg htext, if_neg hchoice]

/-- A text is accepted when it passes each check: that of its type, of its length and of its
pattern. -/
theorem judge_text_eq_ok_iff (h : spec.type = "string") (value : Value) :
    judge (loadedTable custom vs) spec value = .ok () ↔ ∃ s, value = .str s ∧ Fits vs spec s ∧
      (patternOf spec = "" ∨ Matches vs (patternOf spec) s) := by
  rw [judge_text h, bind_eq_ok_iff]
  constructor
  · rintro ⟨⟨⟩, hpasses, hrest⟩
    obtain ⟨⟨⟩, hlength, hpattern⟩ := bind_eq_ok_iff.mp hrest
    obtain ⟨s, rfl, hbounded⟩ := (checkLength_eq_ok_iff _ _).mp hlength
    have hfits : Fits vs spec s := ⟨h, (validate_eq_ok_iff _ _).mp hpasses, hbounded⟩
    refine ⟨s, rfl, hfits, ?_⟩
    split at hpattern
    · rename_i hempty
      exact .inl hempty
    · exact .inr ((checkPattern_eq_ok_iff _ _).mp hpattern)
  · rintro ⟨s, rfl, hfits, hpattern⟩
    have hlength : (loadedTable custom vs).checkLength (.str s) (.int (spec.maxlength.getD 0)) =
        .ok () := (checkLength_eq_ok_iff _ _).mpr ⟨s, rfl, hfits.bounded⟩
    refine ⟨(), (validate_eq_ok_iff _ _).mpr hfits.passes, bind_eq_ok_iff.mpr ⟨(), hlength, ?_⟩⟩
    by_cases hempty : patternOf spec = ""
    · rw [if_pos hempty]
    · rw [if_neg hempty]
      exact (checkPattern_eq_ok_iff _ _).mpr (hpattern.resolve_left hempty)

/-- The check of a text is blamed on the configuration by the validator of its type, or by the
pattern, which is reached only once everything else is passed. -/
theorem blames_judge_text_iff (h : spec.type = "string") (value : Value) :
    Blames (judge (loadedTable custom vs) spec value) ↔ Unsettled vs "string" value ∨
      ∃ s, value = .str s ∧ Fits vs spec s ∧ patternOf spec ≠ "" ∧
        Blames ((loadedTable custom vs).checkPattern (.str s) (.str (patternOf spec))) := by
  rw [judge_text h, blames_bind_iff, blames_validate_iff, validate_eq_ok_iff, blames_bind_iff,
    checkLength_eq_ok_iff]
  refine or_congr_right ?_
  constructor
  · rintro ⟨hpasses, hlength | ⟨⟨s, rfl, hbounded⟩, hpattern⟩⟩
    · exact (not_blames_checkLength _ _ hlength).elim
    · split at hpattern
      · exact (not_blames_ok hpattern).elim
      · rename_i hstated
        exact ⟨s, rfl, ⟨h, hpasses, hbounded⟩, hstated, hpattern⟩
  · rintro ⟨s, rfl, hfits, hstated, hpattern⟩
    rw [if_neg hstated]
    exact ⟨hfits.passes, .inr ⟨⟨s, rfl, hfits.bounded⟩, hpattern⟩⟩

theorem judge_eq_ok_iff (value : Value) :
    judge (loadedTable custom vs) spec value = .ok () ↔ Admits vs spec value := by
  by_cases htext : spec.type = "string"
  · have hnotChoice : spec.type ≠ "list" := by
      rw [htext]
      decide
    rw [judge_text_eq_ok_iff htext]
    constructor
    · rintro ⟨s, rfl, hfits, hpattern⟩
      exact .text s hfits hpattern
    · rintro (⟨s, hfits, hpattern⟩ | ⟨_, item, hchoice, -⟩ | ⟨_, hnotText, -⟩)
      · exact ⟨s, rfl, hfits, hpattern⟩
      · exact (hnotChoice hchoice).elim
      · exact (hnotText htext).elim
  by_cases hchoice : spec.type = "list"
  · rw [judge_choice hchoice, checkMembership_eq_ok_iff]
    constructor
    · rintro ⟨item, hoffered, hkind, hequal⟩
      exact .choice value item hchoice hoffered hkind hequal
    · rintro (⟨s, hfits, -⟩ | ⟨_, item, -, hoffered, hkind, hequal⟩ | ⟨_, -, hnotChoice, -⟩)
      · exact (htext hfits.isText).elim
      · exact ⟨item, hoffered, hkind, hequal⟩
      · exact (hnotChoice hchoice).elim
  rw [judge_typed htext hchoice, validate_eq_ok_iff]
  constructor
  · exact .typed value htext hchoice
  · rintro (⟨s, hfits, -⟩ | ⟨_, item, hchoice', -⟩ | ⟨_, -, -, hpasses⟩)
    · exact (htext hfits.isText).elim
    · exact (hchoice hchoice').elim
    · exact hpasses

theorem blames_judge_iff (value : Value) :
    Blames (judge (loadedTable custom vs) spec value) ↔ Misconfigured vs spec value := by
  by_cases htext : spec.type = "string"
  · have hnotChoice : spec.type ≠ "list" := by
      rw [htext]
      decide
    rw [blames_judge_text_iff htext]
    constructor
    · rintro (hunsettled | ⟨s, rfl, hfits, hstated, hpattern⟩)
      · exact .type value hnotChoice (htext ▸ hunsettled)
      · obtain ⟨v, problem, hfound, hraises⟩ | ⟨hunnamed, problem, position, hbroken⟩ :=
          (blames_checkPattern_iff _ _).mp hpattern
        · exact .named s hfits hstated v problem hfound hraises
        · exact .malformed s hfits hstated hunnamed problem position hbroken
    · rintro (⟨_, -, hunsettled⟩ | ⟨s, hfits, hstated, v, problem, hfound, hraises⟩ |
        ⟨s, hfits, hstated, hunnamed, problem, position, hbroken⟩)
      · exact .inl (htext ▸ hunsettled)
      · exact .inr ⟨s, rfl, hfits, hstated,
          (blames_checkPattern_iff _ _).mpr (.inl ⟨v, problem, hfound, hraises⟩)⟩
      · exact .inr ⟨s, rfl, hfits, hstated,
          (blames_checkPattern_iff _ _).mpr (.inr ⟨hunnamed, problem, position, hbroken⟩)⟩
  -- Beyond texts only the validator of the type can blame the configuration.
  have honly : Misconfigured vs spec value ↔
      spec.type ≠ "list" ∧ Unsettled vs spec.type value := by
    constructor
    · rintro (⟨_, hnotChoice, hunsettled⟩ | ⟨s, hfits, -⟩ | ⟨s, hfits, -⟩)
      · exact ⟨hnotChoice, hunsettled⟩
      · exact (htext hfits.isText).elim
      · exact (htext hfits.isText).elim
    · rintro ⟨hnotChoice, hunsettled⟩
      exact .type value hnotChoice hunsettled
  rw [honly]
  by_cases hchoice : spec.type = "list"
  · rw [judge_choice hchoice]
    exact iff_of_false (not_blames_checkMembership _ _) fun h => h.1 hchoice
  · rw [judge_typed htext hchoice, blames_validate_iff]
    exact ⟨fun h => ⟨hchoice, h⟩, fun h => h.2⟩

/-! ## Verdicts -/

/-- Any failure that does not blame the configuration becomes a refusal of the argument. -/
theorem blame_refuses_iff {about : Option Subject} {entity : String} {key : Value}
    {x : Except Failure Unit} :
    (∃ text, blame about entity key x =
        .error (.descriptor (.refusedInput entity key text) about)) ↔
      ¬ x = .ok () ∧ ¬ Blames x := by
  cases x with
  | ok _ =>
    refine iff_of_false ?_ fun h => h.1 rfl
    rintro ⟨text, h⟩
    cases h
  | error failure =>
    cases failure with
    | configuration problem =>
      refine iff_of_false ?_ fun h => h.2 ⟨problem, rfl⟩
      rintro ⟨text, h⟩
      cases h
    | descriptor problem subject => exact iff_of_true ⟨_, rfl⟩ (by simp [Blames])
    | violations violations => exact iff_of_true ⟨_, rfl⟩ (by simp [Blames])
    | fault fault => exact iff_of_true ⟨_, rfl⟩ (by simp [Blames])

theorem blame_eq_ok_iff {about : Option Subject} {entity : String} {key : Value}
    {x : Except Failure Unit} : blame about entity key x = .ok () ↔ x = .ok () := by
  cases x with
  | ok _ => exact Iff.rfl
  | error failure => cases failure <;> simp [blame, Failure.isConfiguration]

theorem blames_blame_iff {about : Option Subject} {entity : String} {key : Value}
    {x : Except Failure Unit} : Blames (blame about entity key x) ↔ Blames x := by
  cases x with
  | ok _ => exact Iff.rfl
  | error failure => cases failure <;> simp [blame, Blames, Failure.isConfiguration]

/-- The check of a value has three outcomes: it is accepted if it is admitted, the configuration is
blamed if it is at fault, and in all other cases the argument is refused, by name and for its
entity. -/
theorem checkArgument_decided (modules : Modules) (custom : Named String) (vs : Named Validator)
    (about : Option Subject) (entity : String) (key : Value) (spec : InputSpec) (value : Value) :
    let outcome := (checkArgument modules { custom, loaded := some vs } about entity key spec
      value).outcome
    (outcome = .ok () ↔ Admits vs spec value) ∧
    ((∃ problem, outcome = .error (.configuration problem)) ↔ Misconfigured vs spec value) ∧
    ((∃ text, outcome = .error (.descriptor (.refusedInput entity key text) about)) ↔
      ¬ Admits vs spec value ∧ ¬ Misconfigured vs spec value) := by
  have houtcome :
      (checkArgument modules (loadedTable custom vs) about entity key spec value).outcome =
        blame about entity key (judge (loadedTable custom vs) spec value) :=
    outcome_checkArgument rfl entity key spec value
  have haccepts : judge (loadedTable custom vs) spec value = .ok () ↔ Admits vs spec value :=
    judge_eq_ok_iff value
  have hblames : Blames (judge (loadedTable custom vs) spec value) ↔ Misconfigured vs spec value :=
    blames_judge_iff value
  intro outcome
  rw [show outcome = _ from houtcome, blame_eq_ok_iff, blame_refuses_iff, ← haccepts, ← hblames]
  exact ⟨Iff.rfl, blames_blame_iff, Iff.rfl⟩

/-- A declaration of a text whose pattern asks for more repetitions than can be counted. -/
def repeatedInput : InputSpec :=
  { name := .str "code", prompt := .str "code", description := .str "code", type := "string"
    default := .null, optional := false, validation := some "a{4294967296}", maxlength := some 0
    allowed := none, extra := [] }

/-- The pattern cannot be compiled, and yet it is the argument that is refused. -/
theorem checkArgument_blames_argument :
    Pattern.Expression.parse "a{4294967296}" = .error .tooLarge ∧
      (checkArgument [] { custom := [], loaded := some Validator.builtin } none "restart"
        (.str "code") repeatedInput (.str "a")).outcome =
          .error (.descriptor (.refusedInput "restart" (.str "code")
            "the repetition number is too large") none) := by
  have hlarge : (match Pattern.Expression.parse "a{4294967296}" with
      | .error .tooLarge => true
      | _ => false) = true := by
    decide +kernel
  have hparse : Pattern.Expression.parse "a{4294967296}" = .error .tooLarge := by
    generalize Pattern.Expression.parse "a{4294967296}" = parsed at hlarge ⊢
    split at hlarge
    · rfl
    · cases hlarge
  have hmatch : Validators.checkMatch (.str "a") "a{4294967296}" =
      .error (.fault (.tooLarge "the repetition number is too large")) := by
    unfold Validators.checkMatch
    rw [hparse]
    rfl
  have hpattern :
      (loadedTable [] Validator.builtin).checkPattern (.str "a") (.str "a{4294967296}") =
        .error (.fault (.tooLarge "the repetition number is too large")) := by
    have hunnamed : List.lookup "a{4294967296}" Validator.builtin = none :=
      Option.isNone_iff_eq_none.mp (by decide +kernel)
    rw [checkPattern_loadedTable, hunnamed]
    exact hmatch
  have hjudge : judge (loadedTable [] Validator.builtin) repeatedInput (.str "a") =
      .error (.fault (.tooLarge "the repetition number is too large")) := by
    have hpasses :
        (loadedTable [] Validator.builtin).validate (.str "a") (.str "string") = .ok () := by
      rw [validate_loadedTable]
      rfl
    have hlength : (loadedTable [] Validator.builtin).checkLength (.str "a")
        (.int (repeatedInput.maxlength.getD 0)) = .ok () := rfl
    have hstated : patternOf repeatedInput ≠ "" := by
      unfold patternOf repeatedInput
      decide
    rw [judge_text rfl, hpasses]
    simp only [hlength, if_neg hstated, bind, Except.bind]
    exact hpattern
  refine ⟨hparse, ?_⟩
  rw [outcome_checkArgument rfl]
  exact congrArg (blame none "restart" (.str "code")) hjudge

end

end Request

end PluginDescriptor
