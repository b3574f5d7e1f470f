import PluginDescriptor.Proofs.Descriptor.Containment
import PluginDescriptor.Proofs.Help.Rendering
import PluginDescriptor.Proofs.Value.Word
import PluginDescriptor.Proofs.Yaml.Document

/-!
# What is on a help page, word for word

A page is the text of its template with each field replaced once by a text: that of a value, or that
of parts of the page, which are templates with their fields replaced in turn. What is put in is not
read again (`Help.replaceFields`), so braces in a descriptor are on the page as they are written, and
name nothing. That rendering gives this page and no other, for each registry that a text declares, is
`Help.execute_rendersVerbatim`.
-/

set_option autoImplicit false

namespace PluginDescriptor

theorem Spells.keysApart_argument {document : Value} {steps : List Step} (h : Spells document steps)
    (hdocument : document.KeysApart) {step : Step} (hstep : step ∈ steps) :
    step.argument.KeysApart := by
  cases h with
  | nothing => cases hstep
  | list _ _ =>
    have hspelling := hdocument.contents step.spelling (List.mem_map_of_mem hstep)
    exact hspelling.contents step.argument List.mem_cons_self

namespace Help

/-! ## Replacing fields -/

/-- The characters of a template with its fields replaced. While a field is open, `name` holds what has
been read of its name. -/
def replaced (texts : Named String) : Option (List Char) → List Char → List Char
  | _, [] => []
  | none, c :: rest =>
    if c = '\x7b' then replaced texts (some []) rest else c :: replaced texts none rest
  | some name, c :: rest =>
    if c = '\x7d' then ((texts.lookup (String.ofList name)).getD "").toList ++ replaced texts none rest
    else replaced texts (some (name ++ [c])) rest

/-- A template with each name in braces replaced by the text that the name stands for. -/
def replaceFields (texts : Named String) (template : String) : String :=
  String.ofList (replaced texts none template.toList)

/-- A piece of a template, with the text that its name stands for. -/
def replacedPart (texts : Named String) (part : String × String) : List Char :=
  part.1.toList ++ ((texts.lookup part.2).getD "").toList

/-- Up to a brace, characters are copied. -/
theorem replaced_plain (texts : Named String) {plain : List Char} (h : '\x7b' ∉ plain)
    (rest : List Char) : replaced texts none (plain ++ rest) = plain ++ replaced texts none rest := by
  induction plain with
  | nil => rfl
  | cons c plain ih =>
    obtain ⟨hc, hplain⟩ := List.ne_and_not_mem_of_not_mem_cons h
    rw [List.cons_append, replaced, if_neg (Ne.symm hc), ih hplain, List.cons_append]

/-- A name in braces is replaced. -/
theorem replaced_name (texts : Named String) (read : List Char) {name : List Char}
    (h : '\x7d' ∉ name) (rest : List Char) :
    replaced texts (some read) (name ++ '\x7d' :: rest) =
      ((texts.lookup (String.ofList (read ++ name))).getD "").toList ++ replaced texts none rest := by
  induction name generalizing read with
  | nil => rw [List.nil_append, replaced, if_pos rfl, List.append_nil]
  | cons c name ih =>
    obtain ⟨hc, hname⟩ := List.ne_and_not_mem_of_not_mem_cons h
    rw [List.cons_append, replaced, if_neg (Ne.symm hc), ih (read ++ [c]) hname, List.append_assoc,
      List.singleton_append]

theorem not_mem_of_isPlain {plain : String} (h : Pieces.isPlain plain = true) :
    '\x7b' ∉ plain.toList := by
  intro hmem
  exact absurd (List.all_eq_true.mp h _ hmem) (by decide)

theorem not_mem_of_isName {name : String} (h : Pieces.isName name = true) : '\x7d' ∉ name.toList := by
  intro hmem
  rw [Pieces.isName, Bool.and_eq_true] at h
  exact absurd (List.all_eq_true.mp h.2 _ hmem) (by decide)

/-- Simple pieces have their fields replaced piece by piece. -/
theorem replaced_pieces (texts : Named String) {parts : List (String × String)} {last : String}
    (hparts : ∀ part ∈ parts, Pieces.isPlain part.1 = true ∧ Pieces.isName part.2 = true)
    (hlast : Pieces.isPlain last = true) :
    replaced texts none (parts.flatMap Pieces.writtenPart ++ last.toList) =
      parts.flatMap (replacedPart texts) ++ last.toList := by
  induction parts with
  | nil =>
    have hend := replaced_plain texts (not_mem_of_isPlain hlast) []
    rwa [List.append_nil, replaced, List.append_nil] at hend
  | cons part parts ih =>
    obtain ⟨plain, name⟩ := part
    obtain ⟨⟨hplain, hname⟩, hrest⟩ := List.forall_mem_cons.mp hparts
    have hpart : Pieces.writtenPart (plain, name) ++ (parts.flatMap Pieces.writtenPart ++ last.toList) =
        plain.toList ++ '\x7b' ::
          (name.toList ++ '\x7d' :: (parts.flatMap Pieces.writtenPart ++ last.toList)) := by
      simp [Pieces.writtenPart]
    rw [List.flatMap_cons, List.append_assoc, hpart, replaced_plain texts (not_mem_of_isPlain hplain),
      replaced, if_pos rfl, replaced_name texts [] (not_mem_of_isName hname), List.nil_append,
      String.ofList_toList, ih hrest]
    simp [replacedPart]

theorem valueText_eq_ok {context : Entries} {name s : String} (h : valueText context name = .ok s) :
    (context.find? name).map Value.text = some s := by
  unfold valueText at h
  split at h
  · rename_i v hfound
    rw [writeOut] at h
    split at h
    · rw [hfound, Option.map_some, Except.ok.inj h]
    · cases h
  · cases h

/-- What is filled in from values is the template with its fields replaced by their texts. -/
theorem toList_filledParts {context : Entries} {texts : Named String} {last s : String}
    {parts : List (String × String)}
    (htexts : ∀ part ∈ parts, texts.lookup part.2 = (context.find? part.2).map Value.text)
    (h : filledParts context last parts = .ok s) :
    s.toList = parts.flatMap (replacedPart texts) ++ last.toList := by
  induction parts generalizing s with
  | nil =>
    cases h
    rfl
  | cons part parts ih =>
    obtain ⟨plain, name⟩ := part
    obtain ⟨hpart, hparts⟩ := List.forall_mem_cons.mp htexts
    obtain ⟨value, hvalue, hrest⟩ := bind_eq_ok_iff.mp h
    obtain ⟨more, hmore, hend⟩ := bind_eq_ok_iff.mp hrest
    cases hend
    have htext : texts.lookup name = some value := hpart.trans (valueText_eq_ok hvalue)
    simp only [String.toList_append, ih hparts hmore, List.flatMap_cons, replacedPart, htext,
      Option.getD_some, List.append_assoc]

/-- If pieces are filled in, from values under their names, they have their fields replaced by the
texts of these values. -/
theorem eq_replaceFields {p : Pieces} (hp : p.areSimple = true) {context : Entries}
    {values : List Value} (hvalues : p.names.map context.find? = values.map some)
    {texts : Named String} (htexts : (p.names.map fun name => texts.lookup name) = values.map fun v => some v.text)
    {s : String} (h : fillOrFail p.template context = .ok s) : s = replaceFields texts p.template := by
  have hfill : fill p.template context = .ok s := by
    unfold fillOrFail at h
    split at h
    · rename_i filled hfilled
      cases h
      exact hfilled
    · split at h <;> cases h
  have hall : (p.names.map fun name => texts.lookup name) =
      p.names.map fun name => (context.find? name).map Value.text := by
    have hmapped := congrArg (List.map (Option.map Value.text)) hvalues
    rw [List.map_map, List.map_map] at hmapped
    exact htexts.trans hmapped.symm
  rw [fill_template hp] at hfill
  rw [Pieces.areSimple, Bool.and_eq_true, List.all_eq_true] at hp
  have hparts : ∀ part ∈ p.parts, Pieces.isPlain part.1 = true ∧ Pieces.isName part.2 = true :=
    fun part hpart => Bool.and_eq_true_iff.mp (hp.1 part hpart)
  have hfound : ∀ part ∈ p.parts, texts.lookup part.2 = (context.find? part.2).map Value.text :=
    fun part hpart => List.map_inj_left.mp hall part.2 (List.mem_map_of_mem hpart)
  rw [replaceFields, Pieces.template, String.toList_ofList, replaced_pieces texts hparts hp.2,
    ← toList_filledParts hfound hfill, String.ofList_toList]

example : replaceFields [("a", "\x7bb\x7d"), ("b", "c")] "\x7ba\x7d and \x7bb\x7d" = "\x7bb\x7d and c" := by
  decide

/-! ## The texts of a page -/

/-- The block about an argument. -/
def inputBlock (s : InputSpec) : String :=
  replaceFields [("name", s.name.text), ("description", s.description.text),
    ("prompt", s.prompt.text), ("type", s.type), ("optional", (Value.bool s.optional).text),
    ("details", detailText s)] rpcTemplate.input.text

/-- The block about a field of results. -/
def outputBlock (s : OutputSpec) : String :=
  replaceFields [("name", s.name.text), ("description", s.description.text),
    ("display_as", s.displayAs.text)] rpcTemplate.output.text

/-- The block about an entity, with the blocks of its arguments and results. -/
def entityBlock (e : Entity) : String :=
  replaceFields [("name", e.name),
    ("rule", Text.replicate (e.name.length + " action:".length) "-"),
    ("description", e.description.text),
    ("inputs", String.join (e.inputs.map fun argument => inputBlock argument.2)),
    ("outputs", String.join (e.outputs.map fun field => outputBlock field.2))]
    rpcTemplate.entity.text

/-- The text of what the metadata state under a text. -/
def metadataText (r : Registry) (key : String) : String :=
  ((r.metadata.find? key).getD .null).text

/-- The block of metadata. -/
def metadataBlock (r : Registry) : String :=
  replaceFields (("rule", Text.replicate (metadataText r "name").length "=") ::
    metadataKeys.map fun key => (key, metadataText r key)) metadataTemplate.template

/-- A page that is rendered with a set. -/
def pageText (set : String) (r : Registry) : String :=
  if set = rpcName then
    replaceFields [("metadata_help", metadataBlock r), ("usage", r.usage),
      ("entity_names", Text.join " " r.entityNames),
      ("entities", String.join (r.entities.map entityBlock))] rpcTemplate.template
  else metadataBlock r

/-! ## Parts of a page -/

theorem eq_inputBlock {s : InputSpec} (h : s.IsDeclared) {block : String}
    (hblock : renderInput rpcTemplate s = .ok block) : block = inputBlock s := by
  rw [renderInput_eq] at hblock
  obtain ⟨details, hdetails, hfill⟩ := bind_eq_ok_iff.mp hblock
  have htext : detailText s = details := by
    rw [inputDetails] at hdetails
    split at hdetails
    · exact Except.ok.inj hdetails
    · cases hdetails
  rw [inputBlock, rpcTemplate_eq.2.2.1, htext]
  exact eq_replaceFields areSimple_inputPieces (find?_inputNames h details) rfl hfill

theorem eq_outputBlock {s : OutputSpec} {block : String}
    (hblock : renderOutput rpcTemplate s = .ok block) : block = outputBlock s := by
  rw [renderOutput_eq] at hblock
  rw [outputBlock, rpcTemplate_eq.2.2.2]
  exact eq_replaceFields areSimple_outputPieces (find?_outputNames s) rfl hblock

theorem eq_entityBlock {e : Entity} (h : e.IsDeclared) {block : String}
    (hblock : renderEntity rpcTemplate e = .ok block) : block = entityBlock e := by
  rw [renderEntity_eq] at hblock
  obtain ⟨inputs, hinputs, hrest⟩ := bind_eq_ok_iff.mp hblock
  obtain ⟨outputs, houtputs, hfill⟩ := bind_eq_ok_iff.mp hrest
  have hinputBlocks := eq_map_of_mapM_eq_ok hinputs
    fun argument hargument block => eq_inputBlock (isDeclared_inputs h argument hargument)
  have houtputBlocks := eq_map_of_mapM_eq_ok houtputs fun field _ block => eq_outputBlock
  rw [entityBlock, rpcTemplate_eq.2.1, ← hinputBlocks, ← houtputBlocks]
  exact eq_replaceFields areSimple_entityPieces (find?_entityNames e inputs outputs) rfl hfill

/-! ## Metadata

Metadata are found under the texts of their keys, and a key that is no text has a text too. But the
keys that a page names are words. -/

theorem isWord_of_mem_metadataKeys : ∀ key ∈ metadataKeys, Text.IsWord key := by
  have hkeys : metadataKeys.all (fun key =>
      key != "" && key.toList.all Char.isLower && key != "nan" && key != "inf") = true := by
    decide +kernel
  intro key hkey
  have hall := List.all_eq_true.mp hkeys key hkey
  simp only [Bool.and_eq_true, bne_iff_ne, List.all_eq_true] at hall
  obtain ⟨⟨⟨hnonempty, hletters⟩, hnotNan⟩, hnotInf⟩ := hall
  exact ⟨hnonempty, hletters, hnotNan, hnotInf⟩

/-- Under a word, metadata state what stands under it and nothing else. -/
theorem stated_eq {r : Registry} (hapart : Fields.Apart r.metadata) {key : String}
    (hword : Text.IsWord key) : r.stated key = (r.metadata.find? key).getD .null := by
  have hlookup : r.statedMetadata.reverse.lookup key = r.metadata.find? key := by
    cases hfound : r.statedMetadata.reverse.lookup key with
    | none =>
      rw [eq_comm, Fields.find?_eq_none_iff]
      intro hmem
      obtain ⟨⟨k, v⟩, hentry, rfl⟩ := List.mem_map.mp hmem
      refine (Named.lookup_eq_none_iff _ key).mp hfound (List.mem_map.mpr ⟨(key, v), ?_, rfl⟩)
      exact List.mem_reverse.mpr (List.mem_map_of_mem hentry)
    | some v =>
      obtain ⟨⟨k, w⟩, hentry, hstated⟩ :=
        List.mem_map.mp (List.mem_reverse.mp (Named.mem_of_lookup hfound))
      cases hstated
      rw [eq_comm, ← Fields.mem_iff_find? hapart]
      have hk : k = .str k.text := Value.eq_str_of_text hword rfl
      rwa [← hk]
  rw [Registry.stated, hlookup]

theorem eq_metadataBlock {r : Registry} (h : StatesAll r) (hapart : Fields.Apart r.metadata)
    (more : Named Value) (hmore : ∀ name ∈ metadataPieces.names, name ∉ more.names) {block : String}
    (hblock : fillOrFail metadataTemplate.template
      ((shownMetadata r).putAll (Entries.ofFields more)) = .ok block) : block = metadataBlock r := by
  have hstated : ∀ key ∈ metadataKeys, (r.stated key).text = metadataText r key :=
    fun key hkey => congrArg Value.text (stated_eq hapart (isWord_of_mem_metadataKeys key hkey))
  have hname : (statedName r).text = metadataText r "name" := by
    obtain ⟨name, hname⟩ := Option.isSome_iff_exists.mp (h "name" (by decide))
    rw [statedName, metadataText, hname]
    rfl
  simp only [metadataKeys, List.forall_mem_cons] at hstated
  rw [metadataTemplate_eq] at hblock
  rw [metadataBlock, metadataTemplate_eq, ← hname]
  refine eq_replaceFields areSimple_metadataPieces (find?_metadataNames h more hmore) ?_ hblock
  simp [metadataPieces, Pieces.names, metadataKeys, Named.lookup_cons_eq, hstated]
  rfl

/-- In the metadata of a document without repeated keys, no key is repeated. -/
theorem apart_metadata {subject : Subject} {host : String} {document : Value} {r : Registry}
    (hdocument : document.KeysApart)
    (h : (Execution.executeDocument subject host document).outcome = .ok r) :
    Fields.Apart r.metadata := by
  obtain ⟨steps, hspells, -, hbuild⟩ :=
    (Execution.executeDocument_eq_ok_iff subject host document r).mp h
  obtain ⟨fields, hmetadata, rfl⟩ := (Execution.build_eq_ok_iff _ r).mp hbuild
  rw [Execution.metadata_reached] at hmetadata
  obtain ⟨step, hstep, hfields⟩ := List.mem_filterMap.mp (List.mem_of_getLast? hmetadata)
  have hargument : step.argument = .map fields := by
    cases step with
    | metadata _ =>
      cases hfields
      rfl
    | _ => cases hfields
  have hfieldsApart : Fields.Apart fields :=
    hspells.keysApart_argument hdocument hstep fields (hargument ▸ .here)
  rwa [Fields.Apart, Value.freezeEntries_eq_map, List.map_map]

/-! ## Pages -/

theorem eq_of_pageContext {set : HelpTemplate} {r : Registry} {help : String} {context : Entries}
    (h : pageContext set r help = .ok context) : ∃ entities,
      r.entities.mapM (renderEntity set) = .ok entities ∧
        context = (shownMetadata r).putAll (Entries.ofFields (pageFields r help entities)) := by
  obtain ⟨metadata, hmetadata, hrest⟩ := bind_eq_ok_iff.mp h
  obtain ⟨entities, hentities, hend⟩ := bind_eq_ok_iff.mp hrest
  cases hend
  exact ⟨entities, hentities, by rw [eq_of_metadataContext hmetadata]⟩

/-- The page that rendering a declared registry gives, if it gives one. -/
theorem eq_pageText {host : String} {r : Registry} (h : r.IsDeclared host)
    (hapart : Fields.Apart r.metadata) {files : FileTree} {template : Option String}
    (htemplate : ∀ name, template = some name → (builtin? name).isSome) {page : String}
    (hpage : (render files none r template).outcome = .ok page) :
    page = pageText (setName r template) r := by
  have hstates := statesAll_of_isDeclared h
  have hasked := askedName_eq files r htemplate
  rcases setName_eq_or r htemplate with hname | hname
  · have hother : metadataName ≠ rpcName := by decide
    rw [hname] at hasked
    rw [outcome_render hasked (find_metadataName files)] at hpage
    obtain ⟨help, -, hrest⟩ := bind_eq_ok_iff.mp hpage
    obtain ⟨context, hcontext, hfill⟩ := bind_eq_ok_iff.mp hrest
    obtain ⟨entities, -, rfl⟩ := eq_of_pageContext hcontext
    rw [hname, pageText, if_neg hother]
    exact eq_metadataBlock hstates hapart (pageFields r help entities)
      (by simp [metadataPieces, Pieces.names, pageFields]) hfill
  · rw [hname] at hasked
    rw [outcome_render hasked (find_rpcName files)] at hpage
    obtain ⟨help, hhelp, hrest⟩ := bind_eq_ok_iff.mp hpage
    obtain ⟨context, hcontext, hfill⟩ := bind_eq_ok_iff.mp hrest
    obtain ⟨entities, hentities, rfl⟩ := eq_of_pageContext hcontext
    have hblock : help = metadataBlock r := by
      have hnot : rpcTemplate.name ≠ metadataName := by decide
      rw [metadataHelp, if_neg hnot, find_metadataName, ok_bind_eq] at hhelp
      obtain ⟨metadata, hmetadata, hfill⟩ := bind_eq_ok_iff.mp hhelp
      rw [eq_of_metadataContext hmetadata] at hfill
      exact eq_metadataBlock hstates hapart [] (by simp) hfill
    have hblocks : entities = r.entities.map entityBlock :=
      eq_map_of_mapM_eq_ok hentities fun e he _ => eq_entityBlock (h.entities e he)
    rw [rpcTemplate_eq.1] at hfill
    rw [hname, pageText, if_pos rfl, rpcTemplate_eq.1, ← hblocks, ← hblock]
    exact eq_replaceFields areSimple_rpcPieces (find?_rpcNames r help entities) rfl hfill

/-- Rendering a registry that a text declares, with no directory and with no set or a built-in one
named. If all values on the page can be written out, the page is the template with each field replaced
once by the text of its value: blocks of entities, arguments and results stand in the order in which
steps declare them. If not, there is a failure that says that a number has too many digits; there is no
other failure. -/
theorem execute_rendersVerbatim (subject : Subject) (host source : String) (r : Registry)
    (h : (Execution.execute subject host source).outcome = .ok r) (files : FileTree)
    (template : Option String)
    (htemplate : ∀ name, template = some name → (builtin? name).isSome) :
    (∃ document steps, Value.ofYaml source = .ok document ∧ Spells document steps ∧
      Declares steps r) ∧
    ((∀ v ∈ pageValues (setName r template) r, v.isWritable = true) →
      (render files none r template).outcome = .ok (pageText (setName r template) r)) ∧
    ((¬ ∀ v ∈ pageValues (setName r template) r, v.isWritable = true) →
      ∃ e ∈ unwritable, (render files none r template).outcome = .error e) := by
  obtain ⟨document, hyaml, hexecute⟩ := Execution.exists_document h
  obtain ⟨steps, hspells, hdeclares⟩ := Execution.declares_of_eq_ok subject host document r hexecute
  have hdeclared := Execution.isDeclared_of_executeDocument hexecute
  have hapart := apart_metadata (Value.keysApart_ofYaml hyaml) hexecute
  have hends := ends_render hdeclared files htemplate
  refine ⟨⟨document, steps, hyaml, hspells, hdeclares⟩, fun hwritable => ?_, hends.exists_error⟩
  obtain ⟨page, hpage⟩ := hends.exists_iff.mpr hwritable
  rw [hpage, eq_pageText hdeclared hapart htemplate hpage]

/-- A descriptor with names of fields in braces wherever a text is put into a page. -/
def bracedSource : String :=
  "\n".intercalate [
    "- metadata:",
    "   name: '\x7brule\x7d'",
    "   description: '\x7busage!r\x7d'",
    "   author: '\x7d\x7b'",
    "   license: d",
    "   version: e",
    "   url: f",
    "   timeout: 1",
    "- usage: '\x7bentities\x7d'",
    "- action:",
    "   name: a",
    "   description: '\x7binputs\x7d'",
    "- input:",
    "   x:",
    "    prompt: '\x7bname\x7d'",
    "    description: '\x7bdetails'",
    "    type: t",
    "    default: '\x7b\x7d'",
    "    details: h"]

theorem execute_rendersVerbatim_braces :
    ∃ r, (Execution.execute Execution.demo "2.0.0" bracedSource).outcome = .ok r ∧
      r.usage = "\x7bentities\x7d" ∧
      ∀ files, (render files none r none).outcome = .ok (pageText rpcName r) := by
  have haccepted : (Execution.execute Execution.demo "2.0.0" bracedSource).outcome.toOption.map
      (fun r => decide (r.usage = "\x7bentities\x7d" ∧ setName r none = rpcName ∧
        ∀ v ∈ pageValues (setName r none) r, v.isWritable = true)) = some true := by
    -- the characters are taken line by line, because those of a long text take long to evaluate
    rw [Execution.execute, Execution.readDocument, Value.ofYaml, Yaml.Node.parse?, Yaml.Tokens.scan,
      bracedSource, String.toList_intercalate]
    decide +kernel
  obtain ⟨r, hr, hshown⟩ := Option.map_eq_some_iff.mp haccepted
  obtain ⟨husage, hname, hwritable⟩ := of_decide_eq_true hshown
  have hok := toOption_eq_some_iff.mp hr
  refine ⟨r, hok, husage, fun files => ?_⟩
  obtain ⟨-, hpage, -⟩ := execute_rendersVerbatim _ _ _ r hok files none (by simp)
  rw [hpage hwritable, hname]

/-- All extra properties that a page shows stand under texts. -/
def HasTextKeys (set : String) (r : Registry) : Prop :=
  set = rpcName → ∀ e ∈ r.entities, ∀ argument ∈ e.inputs, argument.2.extra.HasTextKeys

instance (set : String) (r : Registry) : Decidable (HasTextKeys set r) :=
  inferInstanceAs (Decidable (set = rpcName → ∀ e ∈ r.entities, ∀ argument ∈ e.inputs,
    argument.2.extra.HasTextKeys))

/-- A descriptor with an argument whose default is a whole number of too many digits. -/
def longNumbered : Value :=
  let record (fields : Named String) : Entries := fields.map fun (key, s) => (.str key, .str s)
  let steps : List Step := [
    .metadata (metadataKeys.map fun key => (.str key, if key = "timeout" then .int 30 else .str key)),
    .action (record [("name", "power"), ("description", "Switch the power")]),
    .input [("level", record [("prompt", "Level"), ("description", "The level"), ("type", "integer")] ++
      [(.str "default", .int (16 ^ 3600))])]]
  .list (steps.map Step.spelling)

theorem render_longNumbered_fails :
    ∃ r, (Execution.executeDocument Execution.demo "1.10" longNumbered).outcome = .ok r ∧
      (∀ source, Value.ofYaml source = .ok longNumbered →
        (Execution.execute Execution.demo "1.10" source).outcome = .ok r) ∧
      HasTextKeys (setName r none) r ∧
      ∀ files, ∃ e ∈ unwritable, (render files none r none).outcome = .error e := by
  have hshown : (Execution.executeDocument Execution.demo "1.10" longNumbered).outcome.toOption.map
      (fun r => decide (HasTextKeys (setName r none) r ∧
        ¬ ∀ v ∈ pageValues (setName r none) r, v.isWritable = true)) = some true := by
    decide +kernel
  obtain ⟨r, hr, hshown⟩ := Option.map_eq_some_iff.mp hshown
  obtain ⟨hkeys, hnot⟩ := of_decide_eq_true hshown
  have hok := toOption_eq_some_iff.mp hr
  refine ⟨r, hok, fun source hsource => ?_, hkeys, fun files => ?_⟩
  · rw [Execution.outcome_execute hsource, hok]
  · have hends : Ends _ (render files none r none).outcome :=
      ends_render (Execution.isDeclared_of_executeDocument hok) files (by simp)
    exact hends.exists_error hnot

end Help

end PluginDescriptor
