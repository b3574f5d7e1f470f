import PluginDescriptor.Proofs.Descriptor.Meaning

/-!
# Declared arguments, entities and registries

What holds of all that an accepted document declares: of arguments (`InputSpec.IsDeclared`), of
entities (`Entity.IsDeclared`) and of registries (`Execution.isDeclared_of_executeDocument`). A
declared argument written out as properties is acceptable, and is read back as it was
(`InputSpec.IsDeclared.ofProperties_toEntries`).
-/

set_option autoImplicit false

namespace PluginDescriptor

/-- An argument that is declared: what only one type has is there for that type alone, and what has no
meaning of its own is frozen. -/
structure InputSpec.IsDeclared (s : InputSpec) : Prop where
  text : s.type = "string" →
    ∃ pattern most, s.validation = some pattern ∧ s.maxlength = some most ∧ 0 ≤ most
  choice : s.type = "list" → ∃ items, s.allowed = some items
  noText : s.type ≠ "string" → s.validation = none ∧ s.maxlength = none
  noChoice : s.type ≠ "list" → s.allowed = none
  extra : ∃ properties, s.extra = Value.freezeEntries (Draft.extraProperties properties)

/-- An entity that is declared: the only query has a fixed name and a fixed policy, and arguments and
results stand under their own names, each of which is used once. -/
structure Entity.IsDeclared (e : Entity) : Prop where
  named : e.name ≠ ""
  query : e.kind = .query → e.name = queryName ∧ e.display = .always
  inputs : ∃ declared : Named InputSpec, declared.names.Nodup ∧ e.inputs = .ofNamed declared ∧
    ∀ argument ∈ declared, argument.2.name = .str argument.1 ∧ argument.2.IsDeclared
  outputs : ∃ declared : Named OutputSpec, declared.names.Nodup ∧ e.outputs = .ofNamed declared ∧
    ∀ field ∈ declared, field.2.name = .str field.1

/-- A registry that is declared for a host: its metadata are frozen, the host meets its least version,
and its entities have names of their own. -/
structure Registry.IsDeclared (host : String) (r : Registry) : Prop where
  metadata : Grammar.IsMetadata (Value.thawEntries r.metadata)
  frozen : Value.freezeEntries (Value.thawEntries r.metadata) = r.metadata
  minimum : ∀ version, r.minimum = some version →
    Text.trim version ≠ "" ∧ Version.satisfies host version = .ok true
  names : r.entityNames.Nodup
  entities : ∀ e ∈ r.entities, e.IsDeclared

/-! ## Extra properties -/

namespace Draft

/-- What has a meaning of its own is no extra property. -/
theorem find?_extraProperties {key : String} (h : key ∈ knownInputKeys) (properties : Entries) :
    Fields.find? (extraProperties properties) key = none := by
  rw [Fields.find?_eq_none_iff]
  intro hmem
  obtain ⟨⟨k, v⟩, hentry, hk⟩ := List.mem_map.mp hmem
  simp only at hk
  subst hk
  have hkept := (List.mem_filter.mp hentry).2
  simp [h] at hkept

theorem extraProperties_extraProperties (properties : Entries) :
    extraProperties (extraProperties properties) = extraProperties properties := by
  unfold extraProperties
  rw [List.filter_filter]
  simp

/-- Which properties are extra does not depend on their values. -/
theorem extraProperties_plainEntries (properties : Entries) :
    extraProperties (Value.plainEntries properties) =
      Value.plainEntries (extraProperties properties) := by
  rw [Value.plainEntries_eq_map, Value.plainEntries_eq_map, extraProperties, List.filter_map]
  rfl

/-- Properties that have a meaning of their own are dropped. -/
theorem extraProperties_ofFields {fields : Named Value}
    (h : ∀ name ∈ fields.names, name ∈ knownInputKeys) :
    extraProperties (Entries.ofFields fields) = [] := by
  unfold extraProperties
  rw [List.filter_eq_nil_iff]
  intro entry hentry
  obtain ⟨⟨name, v⟩, hfield, rfl⟩ := List.mem_map.mp hentry
  have hknown := h name (List.mem_map.mpr ⟨_, hfield, rfl⟩)
  simp [hknown]

end Draft

/-! ## Arguments -/

namespace InputSpec

open Grammar

/-- What properties declare is a declared argument. -/
theorem isDeclared_ofProperties (name : Value) {properties : Entries} (h : IsInput properties) :
    (ofProperties name properties).IsDeclared := by
  obtain ⟨type, htype⟩ := h.type
  have hgiven : (ofProperties name properties).type = type := by
    simp [ofProperties, htype, Value.str?]
  refine ⟨fun hstring => ?_, fun hlist => ?_, fun hstring => ?_, fun hlist => ?_, properties, rfl⟩
  · obtain rfl : type = "string" := hgiven.symm.trans hstring
    obtain ⟨⟨pattern, hpattern⟩, most, hmost, hle⟩ := h.text htype
    exact ⟨pattern, most, by simp [ofProperties, htype, hpattern, Value.str?],
      by simp [ofProperties, htype, hmost, Value.str?, Value.int?], hle⟩
  · obtain rfl : type = "list" := hgiven.symm.trans hlist
    obtain ⟨items, hitems⟩ := h.choice htype
    exact ⟨items, by simp [ofProperties, htype, hitems, Value.str?, Value.items?]⟩
  · rw [hgiven] at hstring
    simp [ofProperties, htype, hstring, Value.str?]
  · rw [hgiven] at hlist
    simp [ofProperties, htype, hlist, Value.str?]

/-- The properties of an argument that have a meaning of their own. -/
def ownFields (s : InputSpec) : Named Value :=
  [("prompt", s.prompt), ("description", s.description), ("type", .str s.type),
    ("default", s.default), ("optional", .bool s.optional)] ++
  if s.type = "string" then
    [("validation", .ofText? s.validation), ("maxlength", ofInt? s.maxlength)]
  else if s.type = "list" then [("list", .list (s.allowed.getD []))]
  else []

theorem names_ownFields (s : InputSpec) :
    s.ownFields.names.Nodup ∧ ∀ name ∈ s.ownFields.names, name ∈ Draft.knownInputKeys := by
  unfold ownFields
  split
  · refine ⟨by simp, ?_⟩
    simp [Draft.knownInputKeys, Draft.inputKeys, Draft.textInputKeys, InputProperty.text]
  · split
    · exact ⟨by simp, by simp [Draft.knownInputKeys, Draft.inputKeys]⟩
    · exact ⟨by simp, by simp [Draft.knownInputKeys, Draft.inputKeys]⟩

/-- An argument is written out as its extra properties, into which its own are put. -/
theorem toEntries_eq_putAll (s : InputSpec) : s.toEntries =
    Entries.putAll (Value.thawEntries s.extra) (Entries.ofFields s.ownFields) := by
  have hown : Entries.ofFields [
      ("prompt", s.prompt), ("description", s.description), ("type", .str s.type),
      ("default", s.default), ("optional", .bool s.optional)] ++ s.typeFields =
        Entries.ofFields s.ownFields := by
    unfold typeFields ownFields
    by_cases hstring : s.type = "string"
    · rw [if_pos hstring, if_pos hstring]
      rfl
    · rw [if_neg hstring, if_neg hstring]
      by_cases hlist : s.type = "list"
      · rw [if_pos hlist, if_pos hlist]
        rfl
      · rw [if_neg hlist, if_neg hlist]
        rfl
  rw [toEntries, hown]

/-- A declared argument is written out as its extra properties, followed by its own. -/
theorem IsDeclared.toEntries_eq {s : InputSpec} (h : s.IsDeclared) :
    s.toEntries = Value.thawEntries s.extra ++ Entries.ofFields s.ownFields := by
  obtain ⟨properties, hextra⟩ := h.extra
  rw [toEntries_eq_putAll]
  refine Entries.putAll_ofFields s.names_ownFields.1 fun name hname => ?_
  rw [hextra, Value.thawEntries_freezeEntries, Value.find?_plainEntries,
    Draft.find?_extraProperties (s.names_ownFields.2 name hname)]
  rfl

/-- Under a name that has a meaning is what the argument has of its own. -/
theorem IsDeclared.find?_toEntries {s : InputSpec} (h : s.IsDeclared) {key : String}
    (hkey : key ∈ Draft.knownInputKeys) : s.toEntries.find? key = s.ownFields.lookup key := by
  obtain ⟨properties, hextra⟩ := h.extra
  rw [h.toEntries_eq, Fields.find?_append, hextra, Value.thawEntries_freezeEntries,
    Value.find?_plainEntries, Draft.find?_extraProperties hkey, Fields.ofFields_eq_ofNamed,
    Fields.find?_ofNamed]
  rfl

/-- What is extra about an argument that is written out is what is extra about the argument. -/
theorem IsDeclared.extraProperties_toEntries {s : InputSpec} (h : s.IsDeclared) :
    Value.freezeEntries (Draft.extraProperties s.toEntries) = s.extra := by
  obtain ⟨properties, hextra⟩ := h.extra
  have hextras : Draft.extraProperties s.toEntries =
      Draft.extraProperties (Value.thawEntries s.extra) := by
    rw [h.toEntries_eq]
    unfold Draft.extraProperties
    rw [List.filter_append]
    have hown := Draft.extraProperties_ofFields s.names_ownFields.2
    unfold Draft.extraProperties at hown
    rw [hown, List.append_nil]
  rw [hextras, hextra, Value.thawEntries_freezeEntries, Draft.extraProperties_plainEntries,
    Draft.extraProperties_extraProperties, Value.freezeEntries_plainEntries]

theorem IsDeclared.find?_common {s : InputSpec} (h : s.IsDeclared) :
    s.toEntries.find? "prompt" = some s.prompt ∧
      s.toEntries.find? "description" = some s.description ∧
      s.toEntries.find? "type" = some (.str s.type) ∧
      s.toEntries.find? "default" = some s.default ∧
      s.toEntries.find? "optional" = some (.bool s.optional) := by
  refine ⟨?_, ?_, ?_, ?_, ?_⟩
  all_goals
    rw [h.find?_toEntries (by decide)]
    rfl

theorem IsDeclared.find?_text {s : InputSpec} (h : s.IsDeclared) (hstring : s.type = "string") :
    s.toEntries.find? "validation" = some (.ofText? s.validation) ∧
      s.toEntries.find? "maxlength" = some (ofInt? s.maxlength) := by
  rw [h.find?_toEntries (by decide), h.find?_toEntries (by decide), ownFields, if_pos hstring]
  exact ⟨rfl, rfl⟩

theorem IsDeclared.find?_choice {s : InputSpec} (h : s.IsDeclared) (hlist : s.type = "list") :
    s.toEntries.find? "list" = some (.list (s.allowed.getD [])) := by
  have hstring : s.type ≠ "string" := by rw [hlist]; decide
  rw [h.find?_toEntries (by decide), ownFields, if_neg hstring, if_pos hlist]
  rfl

/-- A declared argument that is written out is acceptable. -/
theorem IsDeclared.isInput_toEntries {s : InputSpec} (h : s.IsDeclared) : IsInput s.toEntries := by
  obtain ⟨hprompt, hdescription, htype, -, hoptional⟩ := h.find?_common
  have hgiven : ∀ type, s.toEntries.find? "type" = some (.str type) → s.type = type := by
    intro type hfind
    rw [htype] at hfind
    exact Value.str.inj (Option.some.inj hfind)
  refine ⟨fun key hkey => ?_, ⟨s.type, htype⟩, fun given hfind => ?_, fun hfind => ?_,
    fun hfind => ?_⟩
  · simp only [List.mem_cons, List.not_mem_nil, or_false] at hkey
    rcases hkey with rfl | rfl | rfl
    · rw [hprompt, Option.isSome_some]
    · rw [hdescription, Option.isSome_some]
    · rw [htype, Option.isSome_some]
  · rw [hoptional] at hfind
    exact .inr ⟨s.optional, (Option.some.inj hfind).symm⟩
  · have hstring := hgiven "string" hfind
    obtain ⟨hvalidation, hmaxlength⟩ := h.find?_text hstring
    obtain ⟨pattern, most, hpattern, hmost, hle⟩ := h.text hstring
    rw [hpattern] at hvalidation
    rw [hmost] at hmaxlength
    exact ⟨⟨pattern, hvalidation⟩, most, hmaxlength, hle⟩
  · exact ⟨_, h.find?_choice (hgiven "list" hfind)⟩

/-- A declared argument that is written out is read back as it was. -/
theorem IsDeclared.ofProperties_toEntries {s : InputSpec} (h : s.IsDeclared) :
    ofProperties s.name s.toEntries = s := by
  obtain ⟨hprompt, hdescription, htype, hdefault, hoptional⟩ := h.find?_common
  have htext : (Value.str s.type).str?.getD "" = s.type := rfl
  have hvalidation : (if s.type = "string" then
      ((s.toEntries.find? "validation").getD .null).str? else none) = s.validation := by
    split
    · rename_i hstring
      obtain ⟨pattern, -, hpattern, -⟩ := h.text hstring
      rw [(h.find?_text hstring).1, hpattern]
      rfl
    · rename_i hstring
      exact (h.noText hstring).1.symm
  have hmaxlength : (if s.type = "string" then
      ((s.toEntries.find? "maxlength").getD .null).int? else none) = s.maxlength := by
    split
    · rename_i hstring
      obtain ⟨-, most, -, hmost, -⟩ := h.text hstring
      rw [(h.find?_text hstring).2, hmost]
      rfl
    · rename_i hstring
      exact (h.noText hstring).2.symm
  have hallowed : (if s.type = "list" then
      ((s.toEntries.find? "list").getD .null).items? else none) = s.allowed := by
    split
    · rename_i hlist
      obtain ⟨items, hitems⟩ := h.choice hlist
      rw [h.find?_choice hlist, hitems]
      rfl
    · rename_i hlist
      exact (h.noChoice hlist).symm
  unfold ofProperties
  simp only [hprompt, hdescription, htype, hdefault, hoptional, Option.getD_some, htext, hvalidation,
    hmaxlength, hallowed, h.extraProperties_toEntries, Value.bool.injEq, Bool.decide_eq_true]

end InputSpec

/-! ## Fields of results -/

namespace OutputSpec

theorem isOutput_toEntries (s : OutputSpec) : Grammar.IsOutput s.toEntries := by
  refine ⟨fun key hkey => ?_⟩
  simp only [List.mem_cons, List.not_mem_nil, or_false] at hkey
  rcases hkey with rfl | rfl
  · rfl
  · rfl

/-- A field of results that is written out is read back as it was. -/
theorem ofProperties_toEntries (s : OutputSpec) : ofProperties s.name s.toEntries = s := rfl

end OutputSpec

/-! ## Entities and registries -/

namespace Execution

open Grammar

variable {subject : Subject} {host : String} {steps : List Step}

/-- Arguments that are gathered from a descriptor are declared, each under its own name. -/
theorem declared_inputs (h : IsDescriptor host steps) (name : String) :
    ∀ argument ∈ (inputSpecs (owned Step.inputs name steps)).gathered,
      argument.2.name = .str argument.1 ∧ argument.2.IsDeclared := by
  intro argument hargument
  obtain ⟨⟨n, properties⟩, howned, rfl⟩ := List.mem_map.mp (Named.mem_of_mem_gathered hargument)
  obtain ⟨step, hstep, hinput⟩ := exists_step_of_mem_owned howned
  cases step with
  | input arguments =>
    exact ⟨rfl, InputSpec.isDeclared_ofProperties _ (h.inputs arguments hstep _ hinput)⟩
  | _ => cases hinput

theorem declared_outputs (name : String) :
    ∀ field ∈ (outputSpecs (owned Step.outputs name steps)).gathered,
      field.2.name = .str field.1 := by
  intro field hfield
  obtain ⟨⟨n, properties⟩, -, rfl⟩ := List.mem_map.mp (Named.mem_of_mem_gathered hfield)
  rfl

/-- What names an entity in a descriptor gives it a name that is not empty. -/
theorem name_ne_empty (h : IsDescriptor host steps) {step : Step} (hmem : step ∈ steps)
    {d : Declaration} (hd : step.declaration? = some d) : d.name ≠ "" := by
  cases step with
  | action properties =>
    obtain ⟨d', hd', hne⟩ := (Draft.isAction_iff properties).mp (h.actions properties hmem)
    rw [hd, Option.some.injEq] at hd'
    rwa [hd']
  | dataquery properties =>
    have hquery : queryName ≠ "" := by decide
    obtain ⟨description, -, rfl⟩ := Option.map_eq_some_iff.mp hd
    exact hquery
  | _ => cases hd

/-- A query has a fixed name and a fixed policy. -/
theorem name_of_query {step : Step} {d : Declaration} (hd : step.declaration? = some d)
    (hquery : d.kind = .query) : d.name = queryName ∧ d.display = .always := by
  cases step with
  | action properties =>
    rw [Step.declaration?] at hd
    split at hd
    · cases hd
      cases hquery
    · cases hd
  | dataquery properties =>
    obtain ⟨description, -, rfl⟩ := Option.map_eq_some_iff.mp hd
    exact ⟨rfl, rfl⟩
  | _ => cases hd

/-- An entity that is what the steps of a descriptor declare under its name is declared. -/
theorem isDeclared_of_describes (h : IsDescriptor host steps) {e : Entity} (he : Describes steps e) :
    e.IsDeclared := by
  obtain ⟨d, ⟨before, step, rest, hsplit, hd, hname, -⟩, hkind, -, hdisplay⟩ := he.origin
  have hmem : step ∈ steps := by
    rw [hsplit]
    exact List.mem_append_cons_self
  refine ⟨hname ▸ name_ne_empty h hmem hd, fun hquery => ?_,
    ⟨_, ?_, he.inputs, declared_inputs h e.name⟩, ⟨_, ?_, he.outputs, declared_outputs e.name⟩⟩
  · rw [← hname, hdisplay]
    exact name_of_query hd (hkind ▸ hquery)
  · rw [Named.names_gathered]
    exact nodup_eraseDups _
  · rw [Named.names_gathered]
    exact nodup_eraseDups _

/-- What is read back from acceptable metadata that are frozen is acceptable. -/
theorem isMetadata_plainEntries {fields : Entries} (h : IsMetadata fields) :
    IsMetadata (Value.plainEntries fields) := by
  refine ⟨fun key hkey => ?_, ?_⟩
  · rw [Value.find?_plainEntries, Option.isSome_map]
    exact h.keys key hkey
  · rw [Value.find?_plainEntries]
    rcases h.timeout with ⟨i, hi⟩ | ⟨x, hx⟩
    · exact .inl ⟨i, by rw [hi]; rfl⟩
    · exact .inr ⟨x, by rw [hx]; rfl⟩

/-- The version that acceptable requirements state is not blank, and the host meets it. -/
theorem minimum_of_isRequirements {requirements : Entries} (h : IsRequirements host requirements)
    {version : String} (hversion : lastMinimum requirements = some version) :
    Text.trim version ≠ "" ∧ Version.satisfies host version = .ok true := by
  obtain ⟨⟨kind, v⟩, hentry, hv⟩ := List.mem_filterMap.mp (List.mem_of_getLast? hversion)
  obtain ⟨-, minimum, hminimum, hblank⟩ := h.entries _ hentry
  simp only at hminimum
  subst hminimum
  cases hv
  exact ⟨hblank, h.met version hversion⟩

/-- The registry of an accepted document is a declared one. -/
theorem isDeclared_of_allAdmitted {r : Registry} (hnames : ∀ step ∈ steps, step.NamesSomething)
    (h : AllAdmitted subject host steps)
    (hbuild : (reached subject host steps).draft.build = .ok r) : r.IsDeclared host := by
  obtain ⟨fields, hmetadata, rfl⟩ := (build_eq_ok_iff _ r).mp hbuild
  have hdescriptor := isDescriptor_of_allAdmitted hnames h hmetadata
  have hfields : IsMetadata fields := by
    obtain ⟨only, hone, honly⟩ := hdescriptor.metadata
    rw [metadata_reached, hone, List.getLast?_singleton, Option.some.injEq] at hmetadata
    exact hmetadata ▸ honly
  refine ⟨?_, Value.freezeEntries_thawEntries_freezeEntries fields, fun version hversion => ?_,
    nodup_entityNames_reached subject host steps, fun e he => ?_⟩
  · rw [Value.thawEntries_freezeEntries]
    exact isMetadata_plainEntries hfields
  · rw [minimum_reached] at hversion
    exact minimum_of_isRequirements hdescriptor.isRequirements hversion
  · exact isDeclared_of_describes hdescriptor (describes_of_mem_reached subject host steps e he)

theorem isDeclared_of_executeDocument {document : Value} {r : Registry}
    (h : (executeDocument subject host document).outcome = .ok r) : r.IsDeclared host := by
  obtain ⟨steps, hspells, hadmitted, hbuild⟩ :=
    (executeDocument_eq_ok_iff subject host document r).mp h
  exact isDeclared_of_allAdmitted hspells.namesSomething hadmitted hbuild

end Execution

end PluginDescriptor
