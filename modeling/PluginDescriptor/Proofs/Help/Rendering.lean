import Mathlib.Algebra.Group.Int.Defs
import PluginDescriptor.Proofs.Descriptor.Declared
import PluginDescriptor.Proofs.Help.Filling
import PluginDescriptor.Proofs.Help.Finding

/-!
# Rendering with the built-in sets

The built-in sets name nothing that a page does not have. Rendering with them ends in one of two ways
(`Help.Ends`): with a page; or with a failure, because a value on the page holds a whole number of too
many digits. Which of them it is can be told from the registry, for each that a document declares
(`Help.render_declared`). Extra properties of arguments may stand under keys of any kind.
-/

set_option autoImplicit false

namespace PluginDescriptor

/-! ## What is on a page -/

/-- The metadata with their keys written out. -/
def Registry.statedMetadata (r : Registry) : Named Value :=
  r.metadata.map fun (key, v) => (key.text, v)

/-- What the metadata state under a text. The last one counts if several keys are written alike. -/
def Registry.stated (r : Registry) (key : String) : Value :=
  (r.statedMetadata.reverse.lookup key).getD .null

/-- The values of metadata that are written out. -/
def Registry.metadataValues (r : Registry) : List Value :=
  Help.statedName r :: r.metadata.map (·.1) ++ metadataKeys.map r.stated

/-- The values of an argument that are written out. -/
def InputSpec.pageValues (s : InputSpec) : List Value :=
  [s.name, s.description, s.prompt] ++ Help.detailValues s

/-- The values of a field of results that are written out. -/
def OutputSpec.pageValues (s : OutputSpec) : List Value := [s.name, s.description, s.displayAs]

/-- The values of an entity that are written out. -/
def Entity.pageValues (e : Entity) : List Value :=
  e.description :: e.inputs.flatMap (·.2.pageValues) ++ e.outputs.flatMap (·.2.pageValues)

namespace Help

/-- The values of a plugin that are written out with a set. -/
def pageValues (set : String) (r : Registry) : List Value :=
  r.metadataValues ++ if set = rpcName then r.entities.flatMap Entity.pageValues else []

/-- The name of the set that a page is rendered with. -/
def setName (r : Registry) (template : Option String) : String :=
  template.getD (if r.pluginKind = "agent" ∨ r.pluginKind = "rpc" then rpcName else metadataName)

/-! ## How a part of a page ends -/

/-- The failures when a value cannot be written out: before it is filled in, and when it is. -/
def unwritable : List Failure :=
  [.fault .numberTooLong, .configuration (.badTemplateField .numberTooLong)]

/-- A computation is done, if values can be written out, or else it fails for that reason. -/
inductive Ends {α : Type} (writable : Prop) : Except Failure α → Prop where
  | done {a : α} (h : writable) : Ends writable (.ok a)
  | notWritable {e : Failure} (he : e ∈ unwritable) (h : ¬ writable) : Ends writable (.error e)

namespace Ends

variable {α β : Type} {writable writable' : Prop} {x : Except Failure α}

theorem ok (a : α) : Ends True (.ok a) := .done trivial

theorem congr (h : Ends writable x) (hwritable : writable ↔ writable') : Ends writable' x := by
  rwa [← propext hwritable]

theorem bind {f : α → Except Failure β} (hx : Ends writable x)
    (hf : ∀ a, x = .ok a → Ends writable' (f a)) : Ends (writable ∧ writable') (x >>= f) := by
  cases hx with
  | @done a hwritable => exact (hf a rfl).congr ⟨fun h => ⟨hwritable, h⟩, And.right⟩
  | notWritable he h => exact .notWritable he fun hboth => h hboth.1

/-- A row ends as its things do, one after the other. -/
theorem mapM {f : β → Except Failure α} {W : β → Prop} {row : List β}
    (h : ∀ b ∈ row, Ends (W b) (f b)) : Ends (∀ b ∈ row, W b) (row.mapM f) := by
  induction row with
  | nil => exact .done (by simp)
  | cons b row ih =>
    obtain ⟨hb, hrow⟩ := List.forall_mem_cons.mp h
    rw [List.mapM_cons]
    refine (hb.bind fun a _ => (ih hrow).bind fun rest _ => ok (a :: rest)).congr ?_
    rw [List.forall_mem_cons, and_true]

/-- A computation has a value if values can be written out. -/
theorem exists_iff (h : Ends writable x) : (∃ a, x = .ok a) ↔ writable := by
  cases h with
  | done h => exact ⟨fun _ => h, fun _ => ⟨_, rfl⟩⟩
  | notWritable _ h =>
    refine ⟨?_, fun hwritable => (h hwritable).elim⟩
    rintro ⟨a, ha⟩
    cases ha

/-- Each failure has its reason. -/
theorem of_error (h : Ends writable x) {e : Failure} (hx : x = .error e) :
    e ∈ unwritable ∧ ¬ writable := by
  cases h with
  | done => cases hx
  | notWritable he h =>
    cases hx
    exact ⟨he, h⟩

/-- What cannot be written out leads to a failure that says so. -/
theorem exists_error (h : Ends writable x) (hnot : ¬ writable) : ∃ e ∈ unwritable, x = .error e := by
  cases h with
  | done hwritable => exact (hnot hwritable).elim
  | notWritable he _ => exact ⟨_, he, rfl⟩

end Ends

/-- Pieces are filled in from values, one of them for each name, that can be written out. -/
theorem ends_fillOrFail {p : Pieces} (hp : p.areSimple = true) {context : Entries}
    {values : List Value} (hvalues : p.names.map context.find? = values.map some) :
    Ends (∀ v ∈ values, v.isWritable = true) (fillOrFail p.template context) := by
  have hparts : p.parts.map (fun part => context.find? part.2) = values.map some := by
    rw [← hvalues, Pieces.names, List.map_map]
    rfl
  obtain ⟨s, hs⟩ := filledParts_eq context p.last hparts
  rw [fillOrFail, fill_template hp, hs]
  by_cases hwritable : Value.areWritable values = true
  · rw [if_pos hwritable]
    exact .done ((Value.areWritable_iff values).mp hwritable)
  · rw [if_neg hwritable]
    exact .notWritable (by simp [unwritable, Fault.numberTooLong])
      fun h => hwritable ((Value.areWritable_iff values).mpr h)

/-- What is done when values can be written out, and fails when they cannot. -/
theorem ends_ifWritable {α : Type} (values : List Value) (a : α) :
    Ends (∀ v ∈ values, v.isWritable = true)
      (if Value.areWritable values then .ok a else .error (.fault .numberTooLong)) := by
  rw [← Value.areWritable_iff]
  split
  · rename_i h
    exact .done h
  · rename_i h
    exact .notWritable (by simp [unwritable]) h

/-- A part that has a template is filled in. -/
theorem fillPart_of_isTruthy {s : String} (h : (Value.str s).isTruthy = true)
    (context : Except Failure Entries) : fillPart (.str s) context = context >>= fillOrFail s := by
  rw [fillPart, h]
  rfl

theorem fillPart_ok {s : String} (h : (Value.str s).isTruthy = true) (context : Entries) :
    fillPart (.str s) (.ok context) = fillOrFail s context :=
  fillPart_of_isTruthy h (.ok context)

/-! ## Parts of a page -/

theorem renderInput_eq (s : InputSpec) : renderInput rpcTemplate s =
    inputDetails s >>= fun details => fillOrFail inputPieces.template
      (s.toEntries.putAll (Entries.ofFields [("name", s.name), ("details", .str details)])) := by
  rw [renderInput, rpcTemplate_eq.2.2.1,
    fillPart_of_isTruthy (isTruthy_template (p := inputPieces) nofun), bind_assoc]
  simp only [pure_bind]

/-- What the part about an argument names. No extra property stands in the way. -/
theorem find?_inputNames {s : InputSpec} (h : s.IsDeclared) (details : String) :
    inputPieces.names.map (Fields.find? <| s.toEntries.putAll <|
        Entries.ofFields [("name", s.name), ("details", .str details)]) =
      [s.name, s.description, s.prompt, .str s.type, .bool s.optional, .str details].map some := by
  obtain ⟨hprompt, hdescription, htype, -, hoptional⟩ := h.find?_common
  simp [inputPieces, Pieces.names, Entries.find?_putAll_ofFields, hprompt, hdescription, htype,
    hoptional, Named.lookup_cons_eq]

/-- The part about an argument. -/
theorem ends_renderInput {s : InputSpec} (h : s.IsDeclared) :
    Ends (∀ v ∈ s.pageValues, v.isWritable = true) (renderInput rpcTemplate s) := by
  have hfill (details : String) : Ends
      (∀ v ∈ [s.name, s.description, s.prompt], v.isWritable = true)
      (fillOrFail inputPieces.template
        (s.toEntries.putAll (Entries.ofFields [("name", s.name), ("details", .str details)]))) := by
    refine (ends_fillOrFail areSimple_inputPieces (find?_inputNames h details)).congr ?_
    simp [Value.isWritable]
  rw [renderInput_eq]
  -- the details are written out before the template is filled in
  refine ((ends_ifWritable (detailValues s) (detailText s)).bind
    fun details _ => hfill details).congr ?_
  rw [InputSpec.pageValues, List.forall_mem_append, and_comm]

theorem renderOutput_eq (s : OutputSpec) : renderOutput rpcTemplate s =
    fillOrFail outputPieces.template (s.toEntries.put (.str "name") s.name) := by
  rw [renderOutput, rpcTemplate_eq.2.2.2,
    fillPart_ok (isTruthy_template (p := outputPieces) nofun)]

/-- What the part about a field of results names. -/
theorem find?_outputNames (s : OutputSpec) :
    outputPieces.names.map (Fields.find? (s.toEntries.put (.str "name") s.name)) =
      [s.name, s.description, s.displayAs].map some := by
  simp [outputPieces, Pieces.names, Fields.find?_put, OutputSpec.toEntries, Entries.ofFields,
    Fields.find?_cons]

/-- The part about a field of results. -/
theorem ends_renderOutput (s : OutputSpec) :
    Ends (∀ v ∈ s.pageValues, v.isWritable = true) (renderOutput rpcTemplate s) := by
  rw [renderOutput_eq]
  exact ends_fillOrFail areSimple_outputPieces (find?_outputNames s)

theorem renderEntity_eq (e : Entity) : renderEntity rpcTemplate e =
    (e.inputs.mapM fun argument => renderInput rpcTemplate argument.2) >>= fun inputs =>
      (e.outputs.mapM fun field => renderOutput rpcTemplate field.2) >>= fun outputs =>
        fillOrFail entityPieces.template (Entries.ofFields (entityFields e inputs outputs)) := by
  rw [renderEntity, rpcTemplate_eq.2.1,
    fillPart_of_isTruthy (isTruthy_template (p := entityPieces) nofun)]
  simp only [bind_assoc, pure_bind]

/-- What the part about an entity names. -/
theorem find?_entityNames (e : Entity) (inputs outputs : List String) :
    entityPieces.names.map (Fields.find? (Entries.ofFields (entityFields e inputs outputs))) =
      [.str e.name, .str (Text.replicate (e.name.length + " action:".length) "-"), e.description,
        .str (String.join inputs), .str (String.join outputs)].map some := by
  simp [entityPieces, Pieces.names, entityFields, Entries.ofFields, Fields.find?_cons]

/-- The arguments of a declared entity are declared. -/
theorem isDeclared_inputs {e : Entity} (h : e.IsDeclared) :
    ∀ argument ∈ e.inputs, argument.2.IsDeclared := by
  obtain ⟨declared, -, hinputs, hdeclared⟩ := h.inputs
  intro argument hargument
  rw [hinputs] at hargument
  obtain ⟨named, hnamed, rfl⟩ := List.mem_map.mp hargument
  exact (hdeclared named hnamed).2

/-- The part about an entity. -/
theorem ends_renderEntity {e : Entity} (h : e.IsDeclared) :
    Ends (∀ v ∈ e.pageValues, v.isWritable = true) (renderEntity rpcTemplate e) := by
  have hfill (inputs outputs : List String) : Ends (e.description.isWritable = true)
      (fillOrFail entityPieces.template (Entries.ofFields (entityFields e inputs outputs))) := by
    refine (ends_fillOrFail areSimple_entityPieces (find?_entityNames e inputs outputs)).congr ?_
    simp [Value.isWritable]
  have hrenderInputs : Ends
      (∀ argument ∈ e.inputs, ∀ v ∈ argument.2.pageValues, v.isWritable = true)
      (e.inputs.mapM fun argument => renderInput rpcTemplate argument.2) :=
    Ends.mapM fun argument hargument => ends_renderInput (isDeclared_inputs h argument hargument)
  have hrenderOutputs : Ends (∀ field ∈ e.outputs, ∀ v ∈ field.2.pageValues, v.isWritable = true)
      (e.outputs.mapM fun field => renderOutput rpcTemplate field.2) :=
    Ends.mapM fun field _ => ends_renderOutput field.2
  rw [renderEntity_eq]
  refine (hrenderInputs.bind fun inputs _ => hrenderOutputs.bind fun outputs _ =>
    hfill inputs outputs).congr ?_
  rw [Entity.pageValues, List.cons_append, List.forall_mem_cons, List.forall_mem_append,
    List.forall_mem_flatMap, List.forall_mem_flatMap]
  tauto

/-! ## Metadata -/

/-- The metadata by name, and a rule. -/
def shownMetadata (r : Registry) : Entries :=
  (Entries.ofList (Entries.ofFields r.statedMetadata)).put (.str "rule")
    (.str (Text.replicate (statedName r).text.length "="))

theorem metadataContext_eq (r : Registry) : metadataContext r =
    if Value.areWritable (statedName r :: r.metadata.map (·.1)) then .ok (shownMetadata r)
    else .error (.fault .numberTooLong) := by
  have hfields : Entries.ofFields r.statedMetadata =
      r.metadata.map fun (key, v) => (Value.str key.text, v) := by
    rw [Entries.ofFields, Registry.statedMetadata, List.map_map]
    rfl
  rw [metadataContext, shownMetadata, hfields]

theorem ends_metadataContext (r : Registry) :
    Ends (∀ v ∈ statedName r :: r.metadata.map (·.1), v.isWritable = true) (metadataContext r) := by
  rw [metadataContext_eq]
  exact ends_ifWritable _ _

theorem eq_of_metadataContext {r : Registry} {context : Entries}
    (h : metadataContext r = .ok context) : context = shownMetadata r := by
  rw [metadataContext_eq] at h
  split at h
  · exact (Except.ok.inj h).symm
  · cases h

/-- The metadata have the keys that a page of metadata names. -/
def StatesAll (r : Registry) : Prop := ∀ key ∈ metadataKeys, (r.metadata.find? key).isSome

theorem find?_shownMetadata {r : Registry} (h : StatesAll r) {key : String}
    (hkey : key ∈ metadataKeys) : (shownMetadata r).find? key = some (r.stated key) := by
  have hrule : key ≠ "rule" := by
    rintro rfl
    revert hkey
    decide
  have hstated : (r.statedMetadata.reverse.lookup key).isSome := by
    rw [Named.lookup_isSome_iff]
    obtain ⟨entry, hentry, hk⟩ := List.mem_map.mp ((Fields.find?_isSome_iff _ key).mp (h key hkey))
    refine List.mem_map.mpr ⟨(entry.1.text, entry.2), ?_, ?_⟩
    · exact List.mem_reverse.mpr (List.mem_map_of_mem hentry)
    · rw [hk]
      rfl
  obtain ⟨v, hv⟩ := Option.isSome_iff_exists.mp hstated
  rw [shownMetadata, Fields.find?_put, if_neg hrule, Entries.ofList,
    Entries.find?_putAll_ofFields, Registry.stated, hv]
  rfl

/-- What a page of metadata names, whatever else it could name. -/
theorem find?_metadataNames {r : Registry} (h : StatesAll r) (more : Named Value)
    (hmore : ∀ name ∈ metadataPieces.names, name ∉ more.names) :
    metadataPieces.names.map (Fields.find? ((shownMetadata r).putAll (Entries.ofFields more))) =
      [r.stated "name", .str (Text.replicate (statedName r).text.length "="),
        r.stated "description", r.stated "author", r.stated "version", r.stated "license",
        r.stated "timeout", r.stated "url"].map some := by
  have hfind : ∀ name ∈ metadataPieces.names,
      Fields.find? ((shownMetadata r).putAll (Entries.ofFields more)) name =
        (shownMetadata r).find? name := by
    intro name hname
    have hnone : more.reverse.lookup name = none := by
      rw [Named.lookup_eq_none_iff, Named.names, List.map_reverse, List.mem_reverse]
      exact hmore name hname
    rw [Entries.find?_putAll_ofFields, hnone, Option.none_or]
  have hrule : (shownMetadata r).find? "rule" =
      some (.str (Text.replicate (statedName r).text.length "=")) := by
    rw [shownMetadata, Fields.find?_put, if_pos rfl]
  have hstated : ∀ key ∈ metadataKeys, (shownMetadata r).find? key = some (r.stated key) :=
    fun key hkey => find?_shownMetadata h hkey
  rw [List.map_congr_left hfind]
  simp only [metadataKeys, List.forall_mem_cons] at hstated
  simp [metadataPieces, Pieces.names, hrule, hstated]

/-- A page of metadata is filled in, whatever else its template could name. -/
theorem ends_fillMetadata {r : Registry} (h : StatesAll r) (more : Named Value)
    (hmore : ∀ name ∈ metadataPieces.names, name ∉ more.names) :
    Ends (∀ v ∈ metadataKeys.map r.stated, v.isWritable = true)
      (fillOrFail metadataTemplate.template
        ((shownMetadata r).putAll (Entries.ofFields more))) := by
  rw [metadataTemplate_eq]
  refine (ends_fillOrFail areSimple_metadataPieces (find?_metadataNames h more hmore)).congr ?_
  simp only [metadataKeys, List.map_cons, List.map_nil, List.forall_mem_cons, Value.isWritable]
  tauto

/-! ## Pages -/

/-- The set asked for is the one named, or that of the plugin's kind. -/
theorem askedName_eq (files : FileTree) (r : Registry) {template : Option String}
    (h : ∀ name, template = some name → (builtin? name).isSome) :
    askedName files none r template = .ok (setName r template) := by
  cases template with
  | none => exact congrArg Failure.ofFault (nameForKind_none files r.pluginKind)
  | some name =>
    rcases (builtin?_isSome_iff name).mp (h name rfl) with rfl | rfl
    · rfl
    · rfl

theorem setName_eq_or (r : Registry) {template : Option String}
    (h : ∀ name, template = some name → (builtin? name).isSome) :
    setName r template = metadataName ∨ setName r template = rpcName := by
  cases template with
  | none =>
    rw [setName, Option.getD_none]
    split
    · exact .inr rfl
    · exact .inl rfl
  | some name => exact (builtin?_isSome_iff name).mp (h name rfl)

theorem outcome_render {files : FileTree} {r : Registry} {template : Option String} {name : String}
    {set : HelpTemplate} (hname : askedName files none r template = .ok name)
    (hset : find files none name = .ok set) : (render files none r template).outcome =
      metadataHelp files none r set >>= fun help =>
        pageContext set r help >>= fillOrFail set.template := by
  simp only [render, Logged.outcome_bind, Logged.outcome_of, Logged.outcome_note, ok_bind_eq, hname,
    hset]

/-- How a page ends when its parts do. -/
theorem ends_page {set : HelpTemplate} {r : Registry} {help : String} {W writable : Prop}
    (hentities : Ends W (r.entities.mapM (renderEntity set)))
    (hfill : ∀ entities, Ends writable (fillOrFail set.template
      ((shownMetadata r).putAll (Entries.ofFields (pageFields r help entities))))) :
    Ends ((∀ v ∈ statedName r :: r.metadata.map (·.1), v.isWritable = true) ∧ W ∧ writable)
      (pageContext set r help >>= fillOrFail set.template) := by
  rw [pageContext]
  simp only [bind_assoc, pure_bind]
  refine (ends_metadataContext r).bind fun metadata hmetadata => hentities.bind fun entities _ => ?_
  rw [eq_of_metadataContext hmetadata]
  exact hfill entities

/-- The values of metadata are those shown before and in the page. -/
theorem forall_metadataValues_iff (r : Registry) (P : Value → Prop) :
    (∀ v ∈ r.metadataValues, P v) ↔
      (∀ v ∈ statedName r :: r.metadata.map (·.1), P v) ∧ ∀ v ∈ metadataKeys.map r.stated, P v :=
  List.forall_mem_append

/-- A page with the set for metadata. -/
theorem ends_metadataPage {r : Registry} (h : StatesAll r) (help : String) :
    Ends (∀ v ∈ r.metadataValues, v.isWritable = true)
      (pageContext metadataTemplate r help >>= fillOrFail metadataTemplate.template) := by
  have hentities : Ends (∀ e ∈ r.entities, True) (r.entities.mapM (renderEntity metadataTemplate)) :=
    Ends.mapM fun e _ => Ends.ok ""
  have hfill (entities : List String) := ends_fillMetadata h (pageFields r help entities)
    (by simp [metadataPieces, Pieces.names, pageFields])
  refine (ends_page hentities hfill).congr ?_
  rw [forall_metadataValues_iff]
  simp

/-- What a page of a plugin with entities names. -/
theorem find?_rpcNames (r : Registry) (help : String) (entities : List String) :
    rpcPieces.names.map
        (Fields.find? ((shownMetadata r).putAll (Entries.ofFields (pageFields r help entities)))) =
      [.str help, .str r.usage, .str (Text.join " " r.entityNames),
        .str (String.join entities)].map some := by
  simp [rpcPieces, Pieces.names, pageFields, Entries.find?_putAll_ofFields, Named.lookup_cons_eq]

/-- A page with the set for plugins with entities. -/
theorem ends_rpcPage {r : Registry} (h : ∀ e ∈ r.entities, e.IsDeclared) (help : String) :
    Ends ((∀ v ∈ statedName r :: r.metadata.map (·.1), v.isWritable = true) ∧
        ∀ v ∈ r.entities.flatMap Entity.pageValues, v.isWritable = true)
      (pageContext rpcTemplate r help >>= fillOrFail rpcTemplate.template) := by
  have hfill (entities : List String) : Ends True (fillOrFail rpcTemplate.template
      ((shownMetadata r).putAll (Entries.ofFields (pageFields r help entities)))) := by
    rw [rpcTemplate_eq.1]
    refine (ends_fillOrFail areSimple_rpcPieces (find?_rpcNames r help entities)).congr ?_
    simp [Value.isWritable]
  have hentities := Ends.mapM fun e he => ends_renderEntity (h e he)
  refine (ends_page hentities hfill).congr ?_
  rw [and_true, List.forall_mem_flatMap]

theorem ends_metadataHelp (files : FileTree) {r : Registry} (h : StatesAll r) :
    Ends (∀ v ∈ r.metadataValues, v.isWritable = true) (metadataHelp files none r rpcTemplate) := by
  have hother : rpcTemplate.name ≠ metadataName := by decide
  rw [metadataHelp, if_neg hother, find_metadataName, ok_bind_eq]
  refine ((ends_metadataContext r).bind fun metadata hmetadata => ?_).congr
    (forall_metadataValues_iff r _).symm
  rw [eq_of_metadataContext hmetadata]
  exact ends_fillMetadata h [] (by simp)

/-- The metadata that a document declares have the keys that a page names. -/
theorem statesAll_of_isDeclared {host : String} {r : Registry} (h : r.IsDeclared host) :
    StatesAll r := by
  intro key hkey
  have hfound := h.metadata.keys key hkey
  rwa [Value.find?_thawEntries, Option.isSome_map] at hfound

/-- How rendering a declared registry ends. -/
theorem ends_render {host : String} {r : Registry} (h : r.IsDeclared host) (files : FileTree)
    {template : Option String} (htemplate : ∀ name, template = some name → (builtin? name).isSome) :
    Ends (∀ v ∈ pageValues (setName r template) r, v.isWritable = true)
      (render files none r template).outcome := by
  have hstates := statesAll_of_isDeclared h
  have hasked := askedName_eq files r htemplate
  rcases setName_eq_or r htemplate with hname | hname
  · -- a page of metadata names no other page of metadata
    have hother : metadataName ≠ rpcName := by decide
    have hhelp : metadataHelp files none r metadataTemplate = .ok "" := if_pos rfl
    rw [hname] at hasked
    rw [outcome_render hasked (find_metadataName files), hhelp, ok_bind_eq, hname]
    refine (ends_metadataPage hstates "").congr ?_
    simp [pageValues, hother]
  · -- the metadata are rendered on their own first, and then once more for what the page can name
    rw [hname] at hasked
    rw [outcome_render hasked (find_rpcName files), hname]
    refine ((ends_metadataHelp files hstates).bind fun help _ =>
      ends_rpcPage h.entities help).congr ?_
    rw [pageValues, if_pos rfl, List.forall_mem_append, forall_metadataValues_iff]
    tauto

/-- Rendering a registry that a document declares, with no directory and with no set or a built-in one
named. There is a page exactly when its values can be written out, whatever keys the metadata and the
arguments have, and there is no other failure than that of a value that cannot. -/
theorem render_declared (subject : Subject) (host : String) (document : Value) (r : Registry)
    (h : (Execution.executeDocument subject host document).outcome = .ok r) (files : FileTree)
    (template : Option String)
    (htemplate : ∀ name, template = some name → (builtin? name).isSome) :
    ((∃ page, (render files none r template).outcome = .ok page) ↔
      ∀ v ∈ pageValues (setName r template) r, v.isWritable = true) ∧
    ∀ e, (render files none r template).outcome = .error e →
      e ∈ unwritable ∧ ¬ ∀ v ∈ pageValues (setName r template) r, v.isWritable = true := by
  have hends := ends_render (Execution.isDeclared_of_executeDocument h) files htemplate
  exact ⟨hends.exists_iff, fun e he => hends.of_error he⟩

theorem render_declared_twiceNamed :
    ∃ r, (Execution.executeDocument Execution.demo "1.10" Execution.twiceNamed).outcome = .ok r ∧
      (∀ name, some metadataName = some name → (builtin? name).isSome) ∧
      ∀ files, (∃ page, (render files none r none).outcome = .ok page) ∧
        ∃ page, (render files none r (some metadataName)).outcome = .ok page := by
  let executed := (Execution.executeDocument Execution.demo "1.10" Execution.twiceNamed).outcome
  have hshown : executed.toOption.map (fun r => decide (
      (∀ v ∈ pageValues (setName r none) r, v.isWritable = true) ∧
        ∀ v ∈ pageValues metadataName r, v.isWritable = true)) = some true := by
    decide +kernel
  obtain ⟨r, hr, hshown⟩ := Option.map_eq_some_iff.mp hshown
  obtain ⟨hrpc, hmetadata⟩ := of_decide_eq_true hshown
  have hok := toOption_eq_some_iff.mp hr
  have hnamed : ∀ name, some metadataName = some name → (builtin? name).isSome := by
    intro name hname
    exact (builtin?_isSome_iff name).mpr (.inl (Option.some.inj hname).symm)
  refine ⟨r, hok, hnamed, fun files => ⟨?_, ?_⟩⟩
  · exact (render_declared _ _ _ r hok files none (by simp)).1.mpr hrpc
  · exact (render_declared _ _ _ r hok files (some metadataName) hnamed).1.mpr hmetadata

/-- A descriptor whose metadata give the timeout as a whole number of too many digits. -/
def longTimed : Value :=
  let fields := metadataKeys.map fun key => (key, if key = "timeout" then .int (16 ^ 3600) else .str key)
  .list [Step.spelling (.metadata (Entries.ofFields fields))]

theorem render_longTimed_fails :
    ∃ r, (Execution.executeDocument Execution.demo "1.10" longTimed).outcome = .ok r ∧
      ∀ files, ∀ template ∈ [none, some metadataName, some rpcName],
        ∃ e ∈ unwritable, (render files none r template).outcome = .error e := by
  have hshown : (Execution.executeDocument Execution.demo "1.10" longTimed).outcome.toOption.map
      (fun r => decide (∀ template ∈ [none, some metadataName, some rpcName],
        ¬ ∀ v ∈ pageValues (setName r template) r, v.isWritable = true)) = some true := by
    decide +kernel
  obtain ⟨r, hr, hshown⟩ := Option.map_eq_some_iff.mp hshown
  have hnot := of_decide_eq_true hshown
  have hok := toOption_eq_some_iff.mp hr
  refine ⟨r, hok, fun files template htemplate => ?_⟩
  have hbuiltin : ∀ name, template = some name → (builtin? name).isSome := by
    rintro name rfl
    exact (builtin?_isSome_iff name).mpr (by simpa using htemplate)
  have hends : Ends _ (render files none r template).outcome :=
    ends_render (Execution.isDeclared_of_executeDocument hok) files hbuiltin
  exact hends.exists_error (hnot template htemplate)

end Help

end PluginDescriptor
