import PluginDescriptor.Proofs.Descriptor.Calls
import PluginDescriptor.Proofs.Descriptor.Declared

/-!
# What every draft holds

Whatever is called on a draft, in whatever order and with whatever properties, and whether the calls
fail or not, what the draft holds is well-formed: the metadata are complete, the version that is
required is a text, and every entity, argument and field of results stands under its own name, with
what its kind or type asks for and nothing else. Each change of a draft keeps this
(`Draft.IsSound.change`), and so all calls do (`Draft.isSound_afterAll`).
-/

set_option autoImplicit false

namespace PluginDescriptor

/-! ## Well-formed declarations -/

/-- Things stand under their own names, and no two names are equal. -/
structure Fields.UnderOwnNames {α : Type} (name : α → Value) (entries : Fields α) : Prop where
  own : ∀ entry ∈ entries, entry.1 = name entry.2 ∨ (name entry.2).same entry.1 = true
  apart : entries.Apart

/-- An argument has what its type asks for, nothing that only another type has, and no extra property
that has a meaning of its own. -/
structure InputSpec.IsSound (s : InputSpec) : Prop where
  text : s.type = "string" →
    (∃ pattern most, s.validation = some pattern ∧ s.maxlength = some most ∧ 0 ≤ most) ∧
      s.allowed = none
  choice : s.type = "list" →
    (∃ items, s.allowed = some items) ∧ s.validation = none ∧ s.maxlength = none
  other : s.type ≠ "string" → s.type ≠ "list" →
    s.validation = none ∧ s.maxlength = none ∧ s.allowed = none
  extra : ∀ key ∈ Draft.knownInputKeys, s.extra.find? key = none

/-- An entity has a name, the only query has a fixed name and a fixed policy, and what is declared
under the entity stands under its own names. -/
structure Entity.IsSound (e : Entity) : Prop where
  named : e.name ≠ ""
  query : e.kind = .query → e.name = queryName ∧ e.display = .always
  inputs : e.inputs.UnderOwnNames InputSpec.name
  outputs : e.outputs.UnderOwnNames OutputSpec.name
  specs : ∀ entry ∈ e.inputs, entry.2.IsSound

/-- A draft holds what is acceptable, and entities with names of their own. -/
structure Draft.IsSound (d : Draft) : Prop where
  metadata : ∀ fields, d.metadata = some fields → Grammar.IsMetadata fields
  minimum : ∀ version, d.minimum = some version → Text.trim version ≠ ""
  names : (d.entities.map (·.name)).Nodup
  entities : ∀ e ∈ d.entities, e.IsSound

/-- A registry holds what is acceptable, and entities with names of their own. -/
structure Registry.IsSound (r : Registry) : Prop where
  metadata : Grammar.IsMetadata r.metadata
  requirements : ∀ entry ∈ r.requirements, Grammar.IsRequirement entry
  names : r.entityNames.Nodup
  entities : ∀ e ∈ r.entities, e.IsSound

/-! ## Things under their own names -/

namespace Fields

variable {α : Type} {name : α → Value} {entries : Fields α}

/-- Something that is put under its own name stands there. -/
theorem UnderOwnNames.put (h : entries.UnderOwnNames name) {key : Value} {a : α}
    (hname : name a = key) : (entries.put key a).UnderOwnNames name := by
  subst hname
  refine ⟨fun entry hentry => ?_, h.apart.put _ a⟩
  rcases mem_put hentry with hkept | ⟨rfl, hkey⟩
  · exact h.own entry hkept
  · exact hkey

end Fields

/-! ## Arguments and entities -/

/-- What acceptable properties declare is well-formed. -/
theorem InputSpec.isSound_ofProperties (name : Value) {properties : Entries}
    (h : Grammar.IsInput properties) : (ofProperties name properties).IsSound := by
  have hdeclared := isDeclared_ofProperties name h
  have hlist : ∀ type, type = "list" → type ≠ "string" := by
    rintro _ rfl
    decide
  refine ⟨fun hstring => ⟨hdeclared.text hstring, hdeclared.noChoice ?_⟩,
    fun hchoice => ⟨hdeclared.choice hchoice, hdeclared.noText (hlist _ hchoice)⟩,
    fun hstring hchoice => ?_, fun key hkey => ?_⟩
  · exact fun hchoice => hlist _ hchoice hstring
  · obtain ⟨hvalidation, hmaxlength⟩ := hdeclared.noText hstring
    exact ⟨hvalidation, hmaxlength, hdeclared.noChoice hchoice⟩
  · obtain ⟨extras, hextra⟩ := hdeclared.extra
    rw [hextra, Value.find?_freezeEntries, Draft.find?_extraProperties hkey]
    rfl

namespace Entity.IsSound

variable {e : Entity}

theorem withInput (h : e.IsSound) (argument : Value) {properties : Entries}
    (hinput : Grammar.IsInput properties) :
    IsSound { e with
      inputs := e.inputs.put argument (InputSpec.ofProperties argument properties) } := by
  refine { h with inputs := h.inputs.put rfl, specs := fun entry hentry => ?_ }
  rcases Fields.mem_put hentry with hkept | ⟨hnew, -⟩
  · exact h.specs entry hkept
  · rw [hnew]
    exact InputSpec.isSound_ofProperties argument hinput

theorem withOutput (h : e.IsSound) (argument : Value) (properties : Entries) :
    IsSound { e with
      outputs := e.outputs.put argument (OutputSpec.ofProperties argument properties) } :=
  { h with outputs := h.outputs.put rfl }

end Entity.IsSound

/-- What is declared about an entity without arguments and results is well-formed. -/
theorem Declaration.isSound_entity {step : Step} {e : Declaration}
    (hdeclared : step.declaration? = some e) (hnamed : e.name ≠ "") : e.entity.IsSound where
  named := hnamed
  query := Execution.name_of_query hdeclared
  inputs := ⟨by simp [entity], List.Pairwise.nil⟩
  outputs := ⟨by simp [entity], List.Pairwise.nil⟩
  specs := by simp [entity]

/-! ## Drafts -/

/-- Acceptable metadata are acceptable when they are frozen: numbers stay as they are. -/
theorem Grammar.IsMetadata.freezeEntries {fields : Entries} (h : IsMetadata fields) :
    IsMetadata (Value.freezeEntries fields) := by
  refine ⟨fun key hkey => ?_, ?_⟩
  · rw [Value.find?_freezeEntries, Option.isSome_map]
    exact h.keys key hkey
  · rw [Value.find?_freezeEntries]
    refine h.timeout.imp ?_ ?_
    · rintro ⟨i, hi⟩
      exact ⟨i, by rw [hi]; rfl⟩
    · rintro ⟨x, hx⟩
      exact ⟨x, by rw [hx]; rfl⟩

namespace Draft

variable {d d' : Draft}

theorem isSound_empty (subject : Subject) (host : String) : (empty subject host).IsSound where
  metadata _ h := by cases h
  minimum _ h := by cases h
  names := List.Pairwise.nil
  entities _ h := by cases h

/-- A change of an entity that keeps its name and its form keeps the form of the draft. -/
theorem IsSound.updateEntity (h : d.IsSound) (name : String) {f : Entity → Entity}
    (hname : ∀ e, (f e).name = e.name) (hsound : ∀ e, e.IsSound → (f e).IsSound) :
    (d.updateEntity name f).IsSound := by
  refine { h with names := ?_, entities := fun e he => ?_ }
  · have hkept : (d.updateEntity name f).entities.map (·.name) = d.entities.map (·.name) := by
      rw [Draft.updateEntity, List.map_map]
      refine List.map_congr_left fun e _ => ?_
      by_cases he : e.name = name <;> simp [he, hname]
    rw [hkept]
    exact h.names
  · obtain ⟨e, hmem, rfl⟩ := List.mem_map.mp he
    split
    · exact hsound e (h.entities e hmem)
    · exact h.entities e hmem

/-- An entity that is named is added, or was there. -/
theorem IsSound.activate (h : d.IsSound) {e : Declaration} (hsound : e.entity.IsSound) :
    (d.activate e.name e.kind e.description e.display).IsSound := by
  rw [Draft.activate]
  split
  · exact h
  · rename_i hnew
    have hfresh : ∀ f ∈ d.entities, f.name ≠ e.name := by
      simpa [entity?] using hnew
    refine { h with names := ?_, entities := fun f hf => ?_ }
    · rw [List.map_append, List.nodup_append]
      refine ⟨h.names, List.pairwise_singleton _ _, ?_⟩
      simpa using hfresh
    · rcases List.mem_append.mp hf with hkept | hadded
      · exact h.entities f hkept
      · rw [List.mem_singleton.mp hadded]
        exact hsound

/-- Each change keeps a draft well-formed. -/
theorem IsSound.change (h : d.IsSound) (hchange : d.Change d') : d'.IsSound := by
  cases hchange with
  | nothing => exact h
  | metadata unset acceptable =>
    refine { h with metadata := fun fields hfields => ?_ }
    cases hfields
    exact acceptable
  | minimum stated =>
    refine { h with minimum := fun version hversion => ?_ }
    cases hversion
    exact stated
  | usage text => exact { h with }
  | entity declared named => exact h.activate (Declaration.isSound_entity declared named)
  | input name argument acceptable =>
    exact h.updateEntity name (fun _ => rfl) fun _ he => he.withInput argument acceptable
  | output name argument acceptable =>
    exact h.updateEntity name (fun _ => rfl) fun _ he => he.withOutput argument _

/-- What is built of a well-formed draft is well-formed. -/
theorem IsSound.build (h : d.IsSound) {r : Registry} (hbuild : d.build = .ok r) : r.IsSound := by
  obtain ⟨fields, hfields, rfl⟩ := (Execution.build_eq_ok_iff d r).mp hbuild
  refine ⟨(h.metadata fields hfields).freezeEntries, fun entry hentry => ?_, h.names, h.entities⟩
  obtain ⟨version, hversion, rfl⟩ := Option.map_eq_some_iff.mp (Option.mem_toList.mp hentry)
  exact ⟨rfl, version, rfl, h.minimum version hversion⟩

/-- Whatever is called on a draft, it is well-formed, and so is every registry that is built of it. -/
theorem isSound_afterAll (subject : Subject) (host : String) (calls : List Call) :
    (Call.afterAll (empty subject host) calls).IsSound ∧
      ∀ r, (Call.afterAll (empty subject host) calls).build = .ok r → r.IsSound := by
  have hsound := Call.afterAll_keeps (fun _ _ => IsSound.change) (isSound_empty subject host) calls
  exact ⟨hsound, fun _ => hsound.build⟩

/-- Calls on one draft: an argument is declared again under an equal name, with a truth value for a
number and then as a choice, and two calls fail on the way. -/
def mixedCalls : List Call :=
  let common := Entries.ofFields [("prompt", .str "?"), ("description", .null)]
  let text := common ++ Entries.ofFields [("type", .str "string"), ("validation", .str "noEmpty")]
  [.input none (.int 1) common,
    .action (Entries.ofFields [("name", .str "restart"), ("description", .null)]),
    .metadata (Entries.ofFields (metadataKeys.map fun key => (key, .int 1))),
    .input (some "restart") (.int 1) (text ++ Entries.ofFields [("maxlength", .int 0)]),
    .input (some "restart") (.bool true) (text ++ Entries.ofFields [("maxlength", .bool true)]),
    .input (some "restart") (.bool true)
      (common ++ Entries.ofFields [("type", .str "list"), ("list", .list []), ("unit", .str "s")])]

theorem isSound_afterAll_mixedCalls :
    let d := Call.afterAll (empty { kind := "agent", name := "echo", path := none } "2.0.0") mixedCalls
    d.IsSound ∧ ∃ r, d.build = .ok r ∧ r.IsSound ∧
      r.entities.map (·.inputs.map (·.2.type)) = [["list"]] := by
  intro d
  obtain ⟨hdraft, hregistry⟩ :=
    isSound_afterAll { kind := "agent", name := "echo", path := none } "2.0.0" mixedCalls
  refine ⟨hdraft, _, rfl, hregistry _ rfl, ?_⟩
  decide +kernel

end Draft

end PluginDescriptor
