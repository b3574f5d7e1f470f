import PluginDescriptor.Descriptor.Execution
import PluginDescriptor.Proofs.Fields

/-!
# How a document spells steps

A step is written down as a mapping with one entry: the name of its primitive, and what the primitive
is to be run on. A document spells a list of steps when it is the list of these mappings, and a text
without a document spells no steps. The main statement is that the check of the shape lets through
exactly the documents that spell steps, and reads off just the steps that they spell:
`Execution.stepsOf_eq_ok_iff`.
-/

set_option autoImplicit false

namespace PluginDescriptor

namespace Step

/-- Names with their properties, written down as a mapping from texts to mappings. -/
def spelledArguments (arguments : Named Entries) : Entries :=
  arguments.map fun (name, properties) => (.str name, .map properties)

/-- What is written under the name of the primitive. -/
def argument : Step → Value
  | metadata fields => .map fields
  | requires requirements => .map requirements
  | usage text => .str text
  | action properties => .map properties
  | dataquery properties => .map properties
  | input arguments => .map (spelledArguments arguments)
  | output arguments => .map (spelledArguments arguments)

/-- A step written down: a mapping with the name of a primitive as its only key. -/
def spelling (step : Step) : Value := .record [(step.primitive.text, step.argument)]

/-- A step for arguments or for results names at least one. -/
def NamesSomething : Step → Prop
  | input arguments => arguments ≠ []
  | output arguments => arguments ≠ []
  | _ => True

end Step

/-- A document spells steps: it lists them, or there is neither a document nor a step. -/
inductive Spells : Value → List Step → Prop where
  | nothing : Spells .null []
  | list (steps : List Step) (named : ∀ step ∈ steps, step.NamesSomething) :
      Spells (.list (steps.map Step.spelling)) steps

/-! ## Reading back what is written -/

namespace Step

theorem arguments?_spelledArguments (arguments : Named Entries) :
    arguments? (spelledArguments arguments) = some arguments := by
  induction arguments with
  | nil => rfl
  | cons argument rest ih =>
    obtain ⟨name, properties⟩ := argument
    have hcons : spelledArguments ((name, properties) :: rest) =
        (Value.str name, Value.map properties) :: spelledArguments rest := rfl
    rw [hcons, arguments?, List.mapM_cons]
    rw [arguments?] at ih
    rw [ih]
    rfl

theorem ofText?_text (p : Primitive) : Primitive.ofText? p.text = some p := by
  cases p <;> decide

theorem ofPrimitive?_argument (step : Step) :
    ofPrimitive? step.primitive step.argument = some step := by
  cases step with
  | input arguments => simp [primitive, argument, ofPrimitive?, arguments?_spelledArguments]
  | output arguments => simp [primitive, argument, ofPrimitive?, arguments?_spelledArguments]
  | _ => rfl

/-- What is written down for a step is read as that step. -/
theorem ofValue?_spelling (step : Step) : ofValue? step.spelling = some step := by
  have h : ofValue? step.spelling =
      (Primitive.ofText? step.primitive.text).bind fun p => ofPrimitive? p step.argument := rfl
  rw [h, ofText?_text, Option.bind_some, ofPrimitive?_argument]

theorem filterMap_ofValue?_spelling (steps : List Step) :
    (steps.map spelling).filterMap ofValue? = steps := by
  induction steps with
  | nil => rfl
  | cons step rest ih => rw [List.map_cons, List.filterMap_cons, ofValue?_spelling, ih]

/-- Values each of which something is mapped to are what a list is mapped to. -/
theorem exists_map_eq {α β : Type} {f : α → β} {P : α → Prop} {values : List β}
    (h : ∀ v ∈ values, ∃ a, P a ∧ v = f a) :
    ∃ row : List α, (∀ a ∈ row, P a) ∧ values = row.map f := by
  induction values with
  | nil => exact ⟨[], by simp, rfl⟩
  | cons v rest ih =>
    obtain ⟨a, ha, rfl⟩ := h v List.mem_cons_self
    obtain ⟨row, hrow, rfl⟩ := ih fun w hw => h w (List.mem_cons_of_mem _ hw)
    exact ⟨a :: row, List.forall_mem_cons.mpr ⟨ha, hrow⟩, rfl⟩

end Step

/-- A document spells one list of steps at most. -/
theorem Spells.unique {document : Value} {steps others : List Step} (h : Spells document steps)
    (h' : Spells document others) : steps = others := by
  cases h with
  | nothing =>
    cases h'
    rfl
  | list _ _ =>
    generalize hdocument : Value.list (steps.map Step.spelling) = document at h'
    cases h' with
    | nothing => cases hdocument
    | list _ _ =>
      have hmap : steps.map Step.spelling = others.map Step.spelling := Value.list.inj hdocument
      rw [← Step.filterMap_ofValue?_spelling steps, hmap, Step.filterMap_ofValue?_spelling]

/-- The steps that a document spells name something where they have to. -/
theorem Spells.namesSomething {document : Value} {steps : List Step} (h : Spells document steps) :
    ∀ step ∈ steps, step.NamesSomething := by
  cases h with
  | nothing => exact fun step hmem => (List.not_mem_nil hmem).elim
  | list _ hnamed => exact hnamed

/-! ## What has no misfits -/

namespace Shape

theorem mapping_eq_nil_iff (path : List Value) (v : Value) :
    mapping path v = [] ↔ ∃ entries, v = .map entries := by
  cases v <;> simp [mapping]

theorem text_eq_nil_iff (path : List Value) (v : Value) : text path v = [] ↔ ∃ s, v = .str s := by
  cases v <;> simp [text]

theorem nonEmpty_eq_nil_iff (path : List Value) (entries : Entries) :
    nonEmpty path entries = [] ↔ entries ≠ [] := by
  cases entries <;> simp [nonEmpty]

theorem arguments_eq_nil_iff (path : List Value) (v : Value) :
    arguments path v = [] ↔
      ∃ declared : Named Entries, declared ≠ [] ∧ v = .map (Step.spelledArguments declared) := by
  constructor
  · intro h
    cases v with
    | map entries =>
      simp only [arguments, List.append_eq_nil_iff, List.flatMap_eq_nil_iff, nonEmpty_eq_nil_iff,
        text_eq_nil_iff, mapping_eq_nil_iff] at h
      obtain ⟨⟨hne, htexts⟩, hmappings⟩ := h
      have hentries : ∀ entry ∈ entries, ∃ declaration : String × Entries,
          True ∧ entry = (Value.str declaration.1, Value.map declaration.2) := by
        intro entry hentry
        obtain ⟨name, hname⟩ := htexts entry hentry
        obtain ⟨properties, hproperties⟩ := hmappings entry hentry
        exact ⟨(name, properties), trivial, Prod.ext hname hproperties⟩
      obtain ⟨declared, -, rfl⟩ := Step.exists_map_eq hentries
      refine ⟨declared, ?_, rfl⟩
      rintro rfl
      exact hne rfl
    | _ => simp [arguments] at h
  · rintro ⟨declared, hne, rfl⟩
    simp only [arguments, List.append_eq_nil_iff, List.flatMap_eq_nil_iff, nonEmpty_eq_nil_iff,
      text_eq_nil_iff, mapping_eq_nil_iff, Step.spelledArguments, List.mem_map, ne_eq,
      List.map_eq_nil_iff]
    refine ⟨⟨hne, ?_⟩, ?_⟩
    · rintro entry ⟨declaration, -, rfl⟩
      exact ⟨_, rfl⟩
    · rintro entry ⟨declaration, -, rfl⟩
      exact ⟨_, rfl⟩

/-- What stands under the name of a primitive fits exactly when a step of the primitive is written
down by it. -/
theorem argument_eq_nil_iff (path : List Value) (v : Value) (p : Primitive) :
    argument path v p = [] ↔ ∃ s : Step, s.primitive = p ∧ s.NamesSomething ∧ v = s.argument := by
  constructor
  · intro h
    cases p with
    | metadata =>
      obtain ⟨fields, rfl⟩ := (mapping_eq_nil_iff path v).mp h
      exact ⟨.metadata fields, rfl, trivial, rfl⟩
    | requires =>
      obtain ⟨requirements, rfl⟩ := (mapping_eq_nil_iff path v).mp h
      exact ⟨.requires requirements, rfl, trivial, rfl⟩
    | usage =>
      obtain ⟨s, rfl⟩ := (text_eq_nil_iff path v).mp h
      exact ⟨.usage s, rfl, trivial, rfl⟩
    | action =>
      obtain ⟨properties, rfl⟩ := (mapping_eq_nil_iff path v).mp h
      exact ⟨.action properties, rfl, trivial, rfl⟩
    | dataquery =>
      obtain ⟨properties, rfl⟩ := (mapping_eq_nil_iff path v).mp h
      exact ⟨.dataquery properties, rfl, trivial, rfl⟩
    | input =>
      obtain ⟨declared, hne, rfl⟩ := (arguments_eq_nil_iff path v).mp h
      exact ⟨.input declared, rfl, hne, rfl⟩
    | output =>
      obtain ⟨declared, hne, rfl⟩ := (arguments_eq_nil_iff path v).mp h
      exact ⟨.output declared, rfl, hne, rfl⟩
  · rintro ⟨s, rfl, hnames, rfl⟩
    cases s with
    | input declared => exact (arguments_eq_nil_iff path _).mpr ⟨declared, hnames, rfl⟩
    | output declared => exact (arguments_eq_nil_iff path _).mpr ⟨declared, hnames, rfl⟩
    | _ => rfl

theorem isPrimitive_iff (v : Value) : isPrimitive v = true ↔ ∃ p : Primitive, v = .str p.text := by
  cases v with
  | str s =>
    rw [isPrimitive, Option.isSome_iff_exists]
    constructor
    · rintro ⟨p, hp⟩
      have hs : (p.text == s) = true := List.find?_some (p := fun q : Primitive => q.text == s) hp
      exact ⟨p, congrArg Value.str (beq_iff_eq.mp hs).symm⟩
    · rintro ⟨p, hp⟩
      exact ⟨p, Value.str.inj hp ▸ Step.ofText?_text p⟩
  | _ => simp [isPrimitive]

theorem strangers_eq_nil_iff (path : List Value) (entries : Entries) :
    strangers path entries = [] ↔ ∀ entry ∈ entries, ∃ p : Primitive, entry.1 = .str p.text := by
  have hsorted : strangers path entries = [] ↔
      ((entries.map (·.1)).filter fun k => !isPrimitive k).mergeSort (fun a b => a.text ≤ b.text) =
        [] := by
    rw [strangers]
    split <;> simp_all
  rw [hsorted, ← List.length_eq_zero_iff, List.length_mergeSort, List.length_eq_zero_iff,
    List.filter_eq_nil_iff]
  simp [isPrimitive_iff]

/-- Each primitive is among all primitives. -/
theorem mem_all (p : Primitive) : p ∈ Primitive.all := by cases p <;> decide

theorem text_injective {p q : Primitive} (h : p.text = q.text) : p = q := by
  have hp := Step.ofText?_text p
  rw [h, Step.ofText?_text] at hp
  exact (Option.some.inj hp).symm

/-- What stands in the place of a step fits exactly when a step is written down there. -/
theorem step_eq_nil_iff (path : List Value) (v : Value) :
    step path v = [] ↔ ∃ s : Step, s.NamesSomething ∧ v = s.spelling := by
  constructor
  · intro h
    cases v with
    | map entries =>
      simp only [step, List.append_eq_nil_iff, nonEmpty_eq_nil_iff, strangers_eq_nil_iff,
        List.flatMap_eq_nil_iff] at h
      obtain ⟨⟨⟨hne, hone⟩, hargument⟩, hkeys⟩ := h
      obtain ⟨⟨k, x⟩, rfl⟩ : ∃ entry, entries = [entry] := by
        match entries, hne, hone with
        | [entry], _, _ => exact ⟨entry, rfl⟩
      obtain ⟨p, hp⟩ := hkeys (k, x) List.mem_cons_self
      have hfit := hargument p (mem_all p)
      rw [Fields.find?_cons, if_pos hp] at hfit
      obtain ⟨s, rfl, hnames, rfl⟩ := (argument_eq_nil_iff _ x p).mp hfit
      exact ⟨s, hnames, congrArg (fun key => Value.map [(key, s.argument)]) hp⟩
    | _ => simp [step] at h
  · rintro ⟨s, hnames, rfl⟩
    have hspelling : s.spelling = .map [(.str s.primitive.text, s.argument)] := rfl
    simp only [hspelling, step, List.append_eq_nil_iff, nonEmpty_eq_nil_iff, strangers_eq_nil_iff,
      List.flatMap_eq_nil_iff]
    refine ⟨⟨⟨by simp, by simp⟩, ?_⟩, ?_⟩
    · intro p _
      rw [Fields.find?_cons, Fields.find?_nil]
      by_cases hp : s.primitive = p
      · subst hp
        rw [if_pos rfl]
        exact (argument_eq_nil_iff _ _ _).mpr ⟨s, rfl, hnames, rfl⟩
      · rw [if_neg fun h => hp (text_injective (Value.str.inj h))]
    · intro entry hentry
      exact ⟨s.primitive, congrArg Prod.fst (List.mem_singleton.mp hentry)⟩

/-- A document without misfits is a list of steps that are written down. -/
theorem misfits_eq_nil_iff (document : Value) :
    misfits document = [] ↔ ∃ steps : List Step,
      (∀ s ∈ steps, s.NamesSomething) ∧ document = .list (steps.map Step.spelling) := by
  constructor
  · intro h
    cases document with
    | list values =>
      rw [misfits, List.flatMap_eq_nil_iff] at h
      have hvalues : ∀ v ∈ values, ∃ s : Step, s.NamesSomething ∧ v = s.spelling := by
        intro v hv
        obtain ⟨i, hi⟩ := List.getElem?_of_mem hv
        exact (step_eq_nil_iff _ v).mp (h (v, i) (List.mk_mem_zipIdx_iff_getElem?.mpr hi))
      obtain ⟨steps, hnames, rfl⟩ := Step.exists_map_eq hvalues
      exact ⟨steps, hnames, rfl⟩
    | _ => simp [misfits] at h
  · rintro ⟨steps, hnames, rfl⟩
    rw [misfits, List.flatMap_eq_nil_iff]
    rintro ⟨v, i⟩ hv
    obtain ⟨s, hs, rfl⟩ := List.mem_map.mp (List.fst_mem_of_mem_zipIdx hv)
    exact (step_eq_nil_iff _ _).mpr ⟨s, hnames s hs, rfl⟩

theorem worst?_eq_none_iff (found : List Misfit) : worst? found = none ↔ found = [] := by
  cases found <;> simp [worst?]

/-- The check refuses a document for its shape. -/
theorem exists_badShape_of_check {document : Value} {problem : Problem}
    (h : check document = .error problem) :
    ∃ location text, problem = .badShape location text := by
  unfold check at h
  split at h
  · cases h
  · split at h
    · cases h
      exact ⟨_, _, rfl⟩
    · cases h
    · cases h

/-- The check lets a document through when there is none, or when it lists steps. -/
theorem check_eq_ok_iff (document : Value) (values : List Value) :
    check document = .ok values ↔
      ∃ steps, Spells document steps ∧ values = steps.map Step.spelling := by
  by_cases hnull : document = .null
  · subst hnull
    constructor
    · intro h
      exact ⟨[], .nothing, (Except.ok.inj h).symm⟩
    · rintro ⟨steps, hsteps, rfl⟩
      cases hsteps
      rfl
  · have hcheck : check document = .ok values ↔
        misfits document = [] ∧ document = .list values := by
      cases hworst : worst? (misfits document) with
      | none =>
        have hnil := (worst?_eq_none_iff _).mp hworst
        obtain ⟨steps, -, rfl⟩ := (misfits_eq_nil_iff document).mp hnil
        simp [check, worst?, hnil]
      | some m =>
        have hne : misfits document ≠ [] := fun h => by simp [h, worst?] at hworst
        cases document with
        | null => exact absurd rfl hnull
        | _ => simp [check, hworst, hne]
    rw [hcheck, misfits_eq_nil_iff]
    constructor
    · rintro ⟨⟨steps, hnames, rfl⟩, hvalues⟩
      exact ⟨steps, .list steps hnames, (Value.list.inj hvalues).symm⟩
    · rintro ⟨steps, hsteps, rfl⟩
      cases hsteps with
      | nothing => exact absurd rfl hnull
      | list _ hnames => exact ⟨⟨steps, hnames, rfl⟩, rfl⟩

end Shape

/-- The steps of a document are the steps that it spells, and one that spells none is refused. -/
theorem Execution.stepsOf_eq_ok_iff (subject : Subject) (document : Value) (steps : List Step) :
    Execution.stepsOf subject document = .ok steps ↔ Spells document steps := by
  rw [Execution.stepsOf]
  cases hcheck : Shape.check document with
  | ok values =>
    obtain ⟨spelled, hspelled, rfl⟩ := (Shape.check_eq_ok_iff document values).mp hcheck
    simp only [Step.filterMap_ofValue?_spelling, Except.ok.injEq]
    constructor
    · rintro rfl
      exact hspelled
    · exact hspelled.unique
  | error problem =>
    simp only [reduceCtorEq, false_iff]
    intro h
    have hok : Shape.check document = .ok (steps.map Step.spelling) :=
      (Shape.check_eq_ok_iff document _).mpr ⟨steps, h, rfl⟩
    rw [hcheck] at hok
    cases hok

end PluginDescriptor
