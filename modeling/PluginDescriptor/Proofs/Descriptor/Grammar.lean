import PluginDescriptor.Descriptor.Shape
import PluginDescriptor.Proofs.Descriptor.Checked
import PluginDescriptor.Proofs.Fields
import PluginDescriptor.Proofs.Version.Order

/-!
# What the primitives accept

For each primitive, what has to hold of the properties it is run on, and what it declares when that
holds. Nothing here refers to how a draft checks its properties; that a draft accepts just these, and
what it then holds, is said once for each primitive (`Draft.declareMetadata_eq_ok_iff` and so on).
-/

set_option autoImplicit false

namespace PluginDescriptor

namespace Value

/-- The text that a value is. -/
def str? : Value → Option String
  | .str s => some s
  | _ => none

/-- The whole number that a value is. -/
def int? : Value → Option Int
  | .int i => some i
  | _ => none

/-- The items of the list that a value is. -/
def items? : Value → Option (List Value)
  | .list items => some items
  | _ => none

end Value

namespace Grammar

/-- Metadata: all of its keys are there, and the time-out is a whole or fractional number. -/
structure IsMetadata (fields : Entries) : Prop where
  keys : ∀ key ∈ metadataKeys, (fields.find? key).isSome
  timeout :
    (∃ i, fields.find? "timeout" = some (.int i)) ∨ ∃ x, fields.find? "timeout" = some (.float x)

/-- A requirement: the version of the host, as a text that is not blank. -/
def IsRequirement (entry : Value × Value) : Prop :=
  entry.1 = .str hostRequirement ∧ ∃ minimum, entry.2 = .str minimum ∧ Text.trim minimum ≠ ""

/-- The version that requirements state, the last one if there are several. A mapping has each key
once, so that there is one at most. -/
def lastMinimum (requirements : Entries) : Option String :=
  (requirements.filterMap fun entry => entry.2.str?).getLast?

/-- Of requirements that follow others, the last one counts. -/
theorem lastMinimum_append (as bs : Entries) :
    lastMinimum (as ++ bs) = (lastMinimum bs).or (lastMinimum as) := by
  rw [lastMinimum, List.filterMap_append, List.getLast?_append]
  rfl

/-- A host that meets a least version, if there is one. -/
def Meets (host : String) (minimum : Option String) : Prop :=
  ∀ version, minimum = some version → Version.satisfies host version = .ok true

/-- Requirements that a host meets. -/
structure IsRequirements (host : String) (requirements : Entries) : Prop where
  entries : ∀ entry ∈ requirements, IsRequirement entry
  met : Meets host (lastMinimum requirements)

/-- An action: a name, a description, and a policy for showing results, if any. -/
structure IsAction (properties : Entries) : Prop where
  name : ∃ name, properties.find? "name" = some (.str name) ∧ name ≠ ""
  description : (properties.find? "description").isSome
  display : ∀ given, properties.find? "display" = some given →
    given = .str "ok" ∨ given = .str "failed" ∨ given = .str "always"

/-- A query: a description. -/
def IsQuery (properties : Entries) : Prop := (properties.find? "description").isSome

/-- The properties of an argument: what every argument has, and what its type asks for besides. -/
structure IsInput (properties : Entries) : Prop where
  keys : ∀ key ∈ ["prompt", "description", "type"], (properties.find? key).isSome
  type : ∃ type, properties.find? "type" = some (.str type)
  optional : ∀ given, properties.find? "optional" = some given → given = .null ∨ ∃ b, given = .bool b
  text : properties.find? "type" = some (.str "string") →
    (∃ pattern, properties.find? "validation" = some (.str pattern)) ∧
      ∃ most, properties.find? "maxlength" = some (.int most) ∧ 0 ≤ most
  choice : properties.find? "type" = some (.str "list") →
    ∃ items, properties.find? "list" = some (.list items)

/-- The properties of a field of results. -/
structure IsOutput (properties : Entries) : Prop where
  keys : ∀ key ∈ ["description", "display_as"], (properties.find? key).isSome

end Grammar

/-! ## What is declared -/

/-- What a step says about the entity that it names. -/
structure Declaration where
  name : String
  kind : EntityKind
  description : Value
  display : Display
  deriving Repr

/-- The entity that a step names, and what it says about it. -/
def Step.declaration? : Step → Option Declaration
  | .action properties =>
    match properties.find? "name", properties.find? "description",
      Display.ofValue? ((properties.find? "display").getD (.str Display.failed.text)) with
    | some (.str name), some description, some display =>
      some { name, kind := .action, description, display }
    | _, _, _ => none
  | .dataquery properties =>
    (properties.find? "description").map fun description =>
      { name := queryName, kind := .query, description, display := .always }
  | _ => none

/-- The argument that properties declare: prompt, description and default are taken as they are, what
only one type has is there for that type alone, and all that has no meaning of its own is kept
read-only. -/
def InputSpec.ofProperties (name : Value) (properties : Entries) : InputSpec :=
  let property (key : String) : Value := (properties.find? key).getD .null
  let type := (property "type").str?.getD ""
  { name
    prompt := property "prompt"
    description := property "description"
    type
    default := property "default"
    optional := property "optional" = .bool true
    validation := if type = "string" then (property "validation").str? else none
    maxlength := if type = "string" then (property "maxlength").int? else none
    allowed := if type = "list" then (property "list").items? else none
    extra := Value.freezeEntries (Draft.extraProperties properties) }

/-- The field of results that properties declare. -/
def OutputSpec.ofProperties (name : Value) (properties : Entries) : OutputSpec :=
  let property (key : String) : Value := (properties.find? key).getD .null
  { name, description := property "description", displayAs := property "display_as",
    default := property "default" }

namespace Draft

open Grammar

theorem lacking?_eq_none_iff (entries : Entries) (keys : List String) :
    lacking? entries keys = none ↔ ∀ key ∈ keys, (entries.find? key).isSome := by
  simp [lacking?, List.find?_eq_none, Option.isSome_iff_ne_none]

/-! ## Metadata and requirements -/

theorem isNumber_getD_iff (given : Option Value) :
    isNumber (given.getD .null) = true ↔
      (∃ i, given = some (.int i)) ∨ ∃ x, given = some (.float x) := by
  rcases given with _ | v
  · simp [isNumber]
  · cases v <;> simp [isNumber]

theorem declareMetadata_eq_ok_iff (d d' : Draft) (fields : Entries) :
    d.declareMetadata fields = .ok d' ↔
      d.metadata = none ∧ IsMetadata fields ∧ d' = { d with metadata := some fields } := by
  rw [declareMetadata_eq]
  cases hset : d.metadata with
  | some _ => simp [fail]
  | none =>
    have hfields : IsMetadata fields ↔ lacking? fields metadataKeys = none ∧
        isNumber ((fields.find? "timeout").getD .null) = true := by
      rw [lacking?_eq_none_iff, isNumber_getD_iff]
      exact ⟨fun h => ⟨h.keys, h.timeout⟩, fun h => ⟨h.1, h.2⟩⟩
    rw [hfields]
    cases lacking? fields metadataKeys with
    | some key => simp [fail]
    | none =>
      cases hnumber : isNumber ((fields.find? "timeout").getD .null) with
      | false => simp [hnumber, fail]
      | true =>
        simp only [hnumber, Option.isSome_none, Bool.false_eq_true, if_false, if_true,
          Except.ok.injEq, true_and]
        exact eq_comm

theorem statedMinimum_eq_ok_iff (d : Draft) (version : Value) (minimum : String) :
    d.statedMinimum version = .ok minimum ↔ version = .str minimum ∧ Text.trim minimum ≠ "" := by
  cases version with
  | str s =>
    rw [statedMinimum, Value.str.injEq, ne_eq, ← String.isEmpty_iff]
    split
    · rename_i hblank
      constructor
      · intro h
        cases h
      · rintro ⟨rfl, hne⟩
        exact absurd hblank hne
    · rename_i hblank
      constructor
      · intro h
        cases h
        exact ⟨rfl, hblank⟩
      · rintro ⟨rfl, -⟩
        rfl
  | _ => simp [statedMinimum, fail]

/-- A requirement in front is what counts, unless another one follows or there was one before. -/
theorem lastMinimum_cons (kind : Value) (minimum : String) (rest : Entries)
    (earlier : Option String) :
    (lastMinimum ((kind, .str minimum) :: rest)).or earlier =
      (lastMinimum rest).or (some minimum) := by
  rw [← List.singleton_append, lastMinimum_append, Option.or_assoc]
  rfl

/-- Requirements are noted when each of them is acceptable, and then the last one stands. -/
theorem noteRequirements_eq_ok_iff (d d' : Draft) (requirements : Entries) :
    d.noteRequirements requirements = (d', .ok ()) ↔
      (∀ entry ∈ requirements, IsRequirement entry) ∧
        d' = { d with minimum := (lastMinimum requirements).or d.minimum } := by
  induction requirements generalizing d with
  | nil =>
    have hnil : d.noteRequirements [] = (d, .ok ()) := rfl
    simp [hnil, lastMinimum, eq_comm]
  | cons entry rest ih =>
    obtain ⟨kind, version⟩ := entry
    by_cases hkind : kind = .str hostRequirement
    · subst hkind
      cases hstated : d.statedMinimum version with
      | error failure =>
        have hversion : ¬ IsRequirement (.str hostRequirement, version) := by
          rintro ⟨-, minimum, hminimum⟩
          rw [(statedMinimum_eq_ok_iff d version minimum).mpr hminimum] at hstated
          cases hstated
        simp [noteRequirements_cons, hstated, hversion]
      | ok minimum =>
        obtain ⟨rfl, hne⟩ := (statedMinimum_eq_ok_iff d version minimum).mp hstated
        have hrequirement : IsRequirement (.str hostRequirement, .str minimum) :=
          ⟨rfl, minimum, rfl, hne⟩
        simp only [noteRequirements_cons, bne_self_eq_false, Bool.false_eq_true, if_false, hstated]
        rw [ih, List.forall_mem_cons, lastMinimum_cons]
        simp [hrequirement]
    · have hother : ¬ IsRequirement (kind, version) := fun h => hkind h.1
      simp [noteRequirements_cons, hkind, hother, fail]

/-- The host is checked against the least version that is noted. -/
theorem checkRequirements_eq_ok_iff (d : Draft) :
    d.checkRequirements = .ok () ↔ Meets d.host d.minimum := by
  rw [checkRequirements]
  cases hminimum : d.minimum with
  | none => simp [Meets, pure, Except.pure]
  | some version =>
    have hmeets : Meets d.host (some version) ↔ Version.satisfies d.host version = .ok true :=
      ⟨fun h => h version rfl, fun h v hv => Option.some.inj hv ▸ h⟩
    rw [hmeets, Version.satisfies_eq_ok_true_iff]
    by_cases hdev : Version.isDevelopment d.host = true
    · simp [hdev, pure, Except.pure]
    · cases horder : Version.order d.host version with
      | error fault => simp [hdev, horder, Failure.ofFault, Except.mapError, bind, Except.bind]
      | ok o =>
        cases o <;>
          simp [hdev, horder, Failure.ofFault, Except.mapError, bind, Except.bind, pure, Except.pure,
            fail]

theorem declareRequirements_eq_ok_iff (d d' : Draft) (requirements : Entries) :
    d.declareRequirements requirements = (d', .ok ()) ↔
      (∀ entry ∈ requirements, IsRequirement entry) ∧
        Meets d.host ((lastMinimum requirements).or d.minimum) ∧
        d' = { d with minimum := (lastMinimum requirements).or d.minimum } := by
  rw [declareRequirements_eq]
  cases hnoted : d.noteRequirements requirements with
  | mk noted outcome =>
    cases outcome with
    | error failure =>
      simp only [Prod.mk.injEq, reduceCtorEq, and_false, false_iff, not_and]
      intro hentries
      have h := (noteRequirements_eq_ok_iff d _ requirements).mpr ⟨hentries, rfl⟩
      rw [hnoted] at h
      cases h
    | ok _ =>
      obtain ⟨hentries, rfl⟩ := (noteRequirements_eq_ok_iff d noted requirements).mp hnoted
      simp only [Prod.mk.injEq, checkRequirements_eq_ok_iff]
      constructor
      · rintro ⟨rfl, hmeets⟩
        exact ⟨hentries, hmeets, rfl⟩
      · rintro ⟨-, hmeets, rfl⟩
        exact ⟨rfl, hmeets⟩

/-! ## Entities -/

theorem display_ofValue?_isSome_iff (given : Value) :
    (Display.ofValue? given).isSome ↔
      given = .str "ok" ∨ given = .str "failed" ∨ given = .str "always" := by
  unfold Display.ofValue?
  split <;> simp_all

/-- An action is named, described and shown in a known way exactly when it declares an entity under a
name that is not empty. -/
theorem isAction_iff (properties : Entries) :
    IsAction properties ↔ ∃ e, (Step.action properties).declaration? = some e ∧ e.name ≠ "" := by
  constructor
  · rintro ⟨⟨name, hname, hne⟩, hdescription, hdisplay⟩
    obtain ⟨description, hdescription⟩ := Option.isSome_iff_exists.mp hdescription
    have hshown : (Display.ofValue?
        ((properties.find? "display").getD (.str Display.failed.text))).isSome := by
      rw [display_ofValue?_isSome_iff]
      cases hgiven : properties.find? "display" with
      | none => exact .inr (.inl rfl)
      | some given => exact hdisplay given hgiven
    obtain ⟨display, hshown⟩ := Option.isSome_iff_exists.mp hshown
    exact ⟨{ name, kind := .action, description, display },
      by simp [Step.declaration?, hname, hdescription, hshown], hne⟩
  · rintro ⟨e, he, hne⟩
    rw [Step.declaration?] at he
    split at he
    · rename_i name description display hname hdescription hshown
      cases he
      refine ⟨⟨name, hname, hne⟩, by rw [hdescription]; rfl, fun given hgiven => ?_⟩
      rw [hgiven, Option.getD_some] at hshown
      exact (display_ofValue?_isSome_iff given).mp (by rw [hshown]; rfl)
    · cases he

theorem actionName_eq_ok_iff (d : Draft) (properties : Entries) (name : String) :
    d.actionName properties = .ok name ↔ properties.find? "name" = some (.str name) ∧ name ≠ "" := by
  rw [actionName]
  split
  · rename_i given hgiven
    rw [hgiven, ne_eq, ← String.isEmpty_iff]
    split <;> rename_i hempty
    · simp only [fail, reduceCtorEq, Option.some.injEq, Value.str.injEq, false_iff, not_and,
        Bool.not_eq_true, Bool.not_eq_false]
      rintro rfl
      exact hempty
    · simp only [Except.ok.injEq, Option.some.injEq, Value.str.injEq, iff_self_and]
      rintro rfl
      exact hempty
  · rename_i hother
    simp only [fail, reduceCtorEq, false_iff, not_and]
    exact fun hname => absurd hname (hother name)

theorem actionDescription_eq_ok_iff (d : Draft) (name : String) (properties : Entries)
    (description : Value) :
    d.actionDescription name properties = .ok description ↔
      properties.find? "description" = some description := by
  rw [actionDescription]
  cases properties.find? "description" <;> simp [fail]

theorem actionDisplay_eq_ok_iff (d : Draft) (name : String) (properties : Entries)
    (display : Display) :
    d.actionDisplay name properties = .ok display ↔
      Display.ofValue? ((properties.find? "display").getD (.str Display.failed.text)) =
        some display := by
  rw [actionDisplay]
  split <;> simp_all [fail]

theorem declareAction_eq_ok_iff (d d' : Draft) (properties : Entries) (name : String) :
    d.declareAction properties = .ok (d', name) ↔
      ∃ e, (Step.action properties).declaration? = some e ∧ e.name ≠ "" ∧ name = e.name ∧
        d' = d.activate e.name e.kind e.description e.display := by
  simp only [declareAction_eq, bind_eq_ok_iff, actionName_eq_ok_iff, actionDescription_eq_ok_iff,
    actionDisplay_eq_ok_iff]
  constructor
  · rintro ⟨_, ⟨hname, hne⟩, description, hdescription, display, hdisplay, hend⟩
    cases hend
    exact ⟨{ name, kind := .action, description, display },
      by simp [Step.declaration?, hname, hdescription, hdisplay], hne, rfl, rfl⟩
  · rintro ⟨e, he, hne, rfl, rfl⟩
    rw [Step.declaration?] at he
    split at he
    · rename_i n description display hname hdescription hdisplay
      cases he
      exact ⟨n, ⟨hname, hne⟩, description, hdescription, display, hdisplay, rfl⟩
    · cases he

theorem isQuery_iff (properties : Entries) :
    IsQuery properties ↔ ∃ e, (Step.dataquery properties).declaration? = some e := by
  rw [IsQuery, Step.declaration?, ← Option.isSome_iff_exists, Option.isSome_map]

theorem declareQuery_eq_ok_iff (d d' : Draft) (properties : Entries) (name : String) :
    d.declareQuery properties = .ok (d', name) ↔
      ∃ e, (Step.dataquery properties).declaration? = some e ∧ name = e.name ∧
        d' = d.activate e.name e.kind e.description e.display := by
  rw [declareQuery_eq, Step.declaration?]
  cases properties.find? "description" with
  | none => simp [fail]
  | some description =>
    simp only [Option.map_some, Except.ok.injEq, Prod.mk.injEq, Option.some.injEq, exists_eq_left']
    constructor
    · rintro ⟨rfl, rfl⟩
      exact ⟨rfl, rfl⟩
    · rintro ⟨rfl, rfl⟩
      exact ⟨rfl, rfl⟩

/-! ## Arguments and results -/

theorem inputType_eq_ok_iff (d : Draft) (entity : String) (argument : Value) (properties : Entries)
    (type : String) :
    d.inputType entity argument properties = .ok type ↔
      properties.find? "type" = some (.str type) := by
  simp only [inputType, InputProperty.text]
  rcases properties.find? "type" with _ | given
  · simp [fail]
  · cases given <;> simp [fail]

theorem inputOptional_eq_ok_iff (d : Draft) (entity : String) (argument : Value)
    (properties : Entries) (optional : Bool) :
    d.inputOptional entity argument properties = .ok optional ↔
      (∀ given, properties.find? "optional" = some given → given = .null ∨ ∃ b, given = .bool b) ∧
        optional = decide ((properties.find? "optional").getD .null = .bool true) := by
  simp only [inputOptional, InputProperty.text]
  rcases properties.find? "optional" with _ | given
  · simp [eq_comm]
  · cases given with
    | bool b => cases b <;> simp [eq_comm]
    | _ => simp [fail, eq_comm]

theorem textValidation_eq_ok_iff (d : Draft) (entity : String) (argument : Value)
    (properties : Entries) (pattern : String) :
    d.textValidation entity argument properties = .ok pattern ↔
      properties.find? "validation" = some (.str pattern) := by
  simp only [textValidation, InputProperty.text]
  rcases properties.find? "validation" with _ | given
  · simp [fail]
  · cases given <;> simp [fail]

theorem textMaxlength_eq_ok_iff (d : Draft) (entity : String) (argument : Value)
    (properties : Entries) (most : Int) :
    d.textMaxlength entity argument properties = .ok most ↔
      properties.find? "maxlength" = some (.int most) ∧ 0 ≤ most := by
  simp only [textMaxlength, InputProperty.text]
  rcases properties.find? "maxlength" with _ | given
  · simp [fail]
  · cases given with
    | int i =>
      by_cases hi : i < 0
      · simp only [Option.getD_some, hi, if_true, fail, reduceCtorEq, Option.some.injEq,
          Value.int.injEq, false_iff, not_and]
        rintro rfl
        omega
      · simp only [Option.getD_some, hi, if_false, Except.ok.injEq, Option.some.injEq,
          Value.int.injEq, iff_self_and]
        rintro rfl
        omega
    | _ => simp [fail]

theorem textInput_eq_ok_iff (d : Draft) (entity : String) (argument : Value) (properties : Entries)
    (pattern : String) (most : Int) :
    d.textInput entity argument properties = .ok (pattern, most) ↔
      properties.find? "validation" = some (.str pattern) ∧
        properties.find? "maxlength" = some (.int most) ∧ 0 ≤ most := by
  rw [textInput]
  split
  · rename_i key hkey
    simp only [fail, reduceCtorEq, false_iff, not_and]
    intro hvalidation hmost
    have hlack := List.find?_some hkey
    have hmem := List.mem_of_find?_eq_some hkey
    simp only [textInputKeys, List.mem_cons, List.not_mem_nil, or_false] at hmem
    rcases hmem with rfl | rfl <;> simp_all [InputProperty.text]
  · simp only [bind_eq_ok_iff, textValidation_eq_ok_iff, textMaxlength_eq_ok_iff]
    constructor
    · rintro ⟨p, hp, m, hm, hend⟩
      cases hend
      exact ⟨hp, hm⟩
    · rintro ⟨hp, hm⟩
      exact ⟨pattern, hp, most, hm, rfl⟩

theorem choiceInput_eq_ok_iff (d : Draft) (entity : String) (argument : Value) (properties : Entries)
    (items : List Value) :
    d.choiceInput entity argument properties = .ok items ↔
      properties.find? "list" = some (.list items) := by
  simp only [choiceInput, InputProperty.text]
  rcases properties.find? "list" with _ | given
  · simp [fail]
  · cases given <;> simp [fail]

/-- What a type asks for is there, and is declared for that type alone. -/
theorem typedInput_eq_ok_iff (d : Draft) (entity : String) (properties : Entries)
    (plain spec : InputSpec) :
    d.typedInput entity properties plain = .ok spec ↔
      (plain.type = "string" ∧ ∃ pattern most,
        properties.find? "validation" = some (.str pattern) ∧
          properties.find? "maxlength" = some (.int most) ∧ 0 ≤ most ∧
          spec = { plain with validation := some pattern, maxlength := some most }) ∨
      (plain.type = "list" ∧ ∃ items, properties.find? "list" = some (.list items) ∧
        spec = { plain with allowed := some items }) ∨
      (plain.type ≠ "string" ∧ plain.type ≠ "list" ∧ spec = plain) := by
  rw [typedInput]
  by_cases hstring : plain.type = "string"
  · have hlist : plain.type ≠ "list" := by rw [hstring]; decide
    rw [if_pos hstring]
    simp only [bind_eq_ok_iff, Prod.exists, textInput_eq_ok_iff, hstring, true_and, ne_eq,
      not_true_eq_false, false_and, or_false, (by decide : ¬ "string" = "list")]
    constructor
    · rintro ⟨pattern, most, ⟨hp, hm, hle⟩, hend⟩
      cases hend
      exact ⟨pattern, most, hp, hm, hle, rfl⟩
    · rintro ⟨pattern, most, hp, hm, hle, rfl⟩
      exact ⟨pattern, most, ⟨hp, hm, hle⟩, rfl⟩
  · rw [if_neg hstring]
    by_cases hlist : plain.type = "list"
    · rw [if_pos hlist]
      simp only [bind_eq_ok_iff, choiceInput_eq_ok_iff, hlist, true_and, ne_eq, not_true_eq_false,
        false_and, and_false, or_false, false_or, (by decide : ¬ "list" = "string")]
      constructor
      · rintro ⟨items, hitems, hend⟩
        cases hend
        exact ⟨items, hitems, rfl⟩
      · rintro ⟨items, hitems, rfl⟩
        exact ⟨items, hitems, rfl⟩
    · rw [if_neg hlist]
      simp only [Except.ok.injEq, hstring, hlist, false_and, false_or, ne_eq, not_false_eq_true,
        true_and]
      exact eq_comm

theorem inputSpec_eq_ok_iff (d : Draft) (entity : String) (argument : Value) (properties : Entries)
    (spec : InputSpec) :
    d.inputSpec entity argument properties = .ok spec ↔
      IsInput properties ∧ spec = InputSpec.ofProperties argument properties := by
  rw [inputSpec]
  cases hkeys : lacking? properties inputKeys with
  | some key =>
    simp only [fail, reduceCtorEq, false_iff, not_and]
    intro hinput
    rw [(lacking?_eq_none_iff properties inputKeys).mpr hinput.keys] at hkeys
    cases hkeys
  | none =>
    have hall := (lacking?_eq_none_iff properties inputKeys).mp hkeys
    simp only [bind_eq_ok_iff, inputType_eq_ok_iff, inputOptional_eq_ok_iff, typedInput_eq_ok_iff]
    constructor
    · rintro ⟨type, htype, optional, ⟨hoptional, rfl⟩, hspec⟩
      rcases hspec with ⟨rfl, pattern, most, hp, hm, hle, rfl⟩ | ⟨rfl, items, hitems, rfl⟩ |
        ⟨hstring, hlist, rfl⟩
      · refine ⟨⟨hall, ⟨_, htype⟩, hoptional, fun _ => ⟨⟨pattern, hp⟩, most, hm, hle⟩, ?_⟩, ?_⟩
        · simp [htype]
        · simp [InputSpec.ofProperties, htype, hp, hm, Value.str?, Value.int?]
      · refine ⟨⟨hall, ⟨_, htype⟩, hoptional, ?_, fun _ => ⟨items, hitems⟩⟩, ?_⟩
        · simp [htype]
        · simp [InputSpec.ofProperties, htype, hitems, Value.str?, Value.items?]
      · refine ⟨⟨hall, ⟨_, htype⟩, hoptional, ?_, ?_⟩, ?_⟩
        · simp [htype, hstring]
        · simp [htype, hlist]
        · simp [InputSpec.ofProperties, htype, hstring, hlist, Value.str?]
    · rintro ⟨hinput, rfl⟩
      obtain ⟨type, htype⟩ := hinput.type
      refine ⟨type, htype, _, ⟨hinput.optional, rfl⟩, ?_⟩
      by_cases hstring : type = "string"
      · subst hstring
        obtain ⟨⟨pattern, hp⟩, most, hm, hle⟩ := hinput.text htype
        refine .inl ⟨rfl, pattern, most, hp, hm, hle, ?_⟩
        simp [InputSpec.ofProperties, htype, hp, hm, Value.str?, Value.int?]
      · by_cases hlist : type = "list"
        · subst hlist
          obtain ⟨items, hitems⟩ := hinput.choice htype
          refine .inr (.inl ⟨rfl, items, hitems, ?_⟩)
          simp [InputSpec.ofProperties, htype, hitems, Value.str?, Value.items?]
        · refine .inr (.inr ⟨hstring, hlist, ?_⟩)
          simp [InputSpec.ofProperties, htype, hstring, hlist, Value.str?]

theorem outputSpec_eq_ok_iff (d : Draft) (entity : String) (argument : Value) (properties : Entries)
    (spec : OutputSpec) :
    d.outputSpec entity argument properties = .ok spec ↔
      IsOutput properties ∧ spec = OutputSpec.ofProperties argument properties := by
  have hkeys : IsOutput properties ↔ lacking? properties outputKeys = none := by
    rw [lacking?_eq_none_iff]
    exact ⟨fun h => h.keys, fun h => ⟨h⟩⟩
  rw [hkeys, outputSpec]
  cases lacking? properties outputKeys with
  | some key => simp [fail]
  | none => simp [OutputSpec.ofProperties, eq_comm]

end Draft

end PluginDescriptor
