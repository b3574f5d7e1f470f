import PluginDescriptor.Proofs.Fields
import PluginDescriptor.Proofs.Outcome
import PluginDescriptor.Settings.Model

/-!
# What settings that are read hold

A setting that was read obeys its rules, whether it was given or has its usual value. The namespace
and the extension are texts that can be part of the name of a step (`Settings.isPathStep_of_ofEntries`).
-/

set_option autoImplicit false

namespace PluginDescriptor

namespace Checked

variable {α : Type}

theorem require_eq_ok_iff {holds : α → Bool} {text : α → String} {x : Checked α} {a : α} :
    require holds text x = .ok a ↔ x = .ok a ∧ holds a = true := by
  cases x with
  | error violations => simp [require]
  | ok b =>
    rw [require]
    split
    · rename_i hb
      simp only [Except.ok.injEq, iff_self_and]
      rintro rfl
      exact hb
    · rename_i hb
      simp only [refuse, reduceCtorEq, Except.ok.injEq, false_iff, not_and]
      rintro rfl
      exact hb

theorem someText_eq_ok_iff {v : Value} {s : String} :
    someText v = .ok s ↔ text v = .ok s ∧ s ≠ "" := by
  rw [someText]
  cases text v with
  | error violations => simp
  | ok t =>
    simp only
    split
    · rename_i ht
      simp only [refuse, reduceCtorEq, Except.ok.injEq, false_iff, not_and]
      rintro rfl
      exact fun hs => hs (String.isEmpty_iff.mp ht)
    · rename_i ht
      simp only [Except.ok.injEq, iff_self_and]
      rintro rfl
      exact fun hs => ht (String.isEmpty_iff.mpr hs)

/-- A field has its usual value, or what is read from what is given. -/
theorem field_eq_ok_iff {entries : Entries} {key : String} {usual a : α} {read : Value → Checked α} :
    field entries key usual read = .ok a ↔
      (entries.find? key = none ∧ a = usual) ∨ ∃ v, entries.find? key = some v ∧ read v = .ok a := by
  rw [field]
  cases Fields.find? entries key with
  | none => simp [eq_comm]
  | some v => simp [within, mapError_eq_ok_iff]

/-- What is given for a field is read. -/
theorem read_of_field {entries : Entries} {key : String} {usual a : α} {read : Value → Checked α}
    {v : Value} (hv : entries.find? key = some v) (h : field entries key usual read = .ok a) :
    read v = .ok a := by
  rw [field, hv] at h
  exact mapError_eq_ok_iff.mp h

/-- Entries that have the same under a key are read in the same way there. -/
theorem field_congr {entries others : Entries} {key : String} {usual a b : α}
    {read : Value → Checked α} (hsame : entries.find? key = others.find? key)
    (ha : field entries key usual read = .ok a) (hb : field others key usual read = .ok b) :
    a = b := by
  rw [field, hsame] at ha
  rw [field] at hb
  exact Except.ok.inj (ha.symm.trans hb)

/-! ## Rows and mappings of texts -/

/-- All items are read when each of them is. -/
theorem all_eq_ok_iff {row : List (Checked α)} {as : List α} :
    all row = .ok as ↔ row = as.map .ok := by
  induction row generalizing as with
  | nil => cases as <;> simp [all]
  | cons x row ih =>
    rw [all, apply_eq_ok_iff]
    constructor
    · rintro ⟨_, rest, hx, hrest, rfl⟩
      obtain ⟨a, rfl, rfl⟩ := map_eq_ok_iff.mp hx
      rw [ih.mp hrest, List.map_cons]
    · intro h
      cases as with
      | nil => cases h
      | cons a rest =>
        obtain ⟨rfl, hrest⟩ := List.cons.inj h
        exact ⟨List.cons a, rest, rfl, ih.mpr hrest, rfl⟩

/-- A list of texts is read as it is. -/
theorem list_text (texts : List String) : list text (.list (texts.map .str)) = .ok texts := by
  refine all_eq_ok_iff.mpr (List.ext_getElem (by simp) fun i hi hi' => ?_)
  simp [text, within, Except.mapError]

/-- What is read as a text is the text itself, or spells it as bytes. -/
theorem text_eq_ok_iff {v : Value} {s : String} : text v = .ok s ↔
    v = .str s ∨ ∃ bytes, v = .bytes bytes ∧ Text.decodeUtf8 bytes = .ok s.toList := by
  cases v with
  | str t => simp [text]
  | bytes bytes =>
    rw [text]
    simp only [reduceCtorEq, false_or, Value.bytes.injEq, exists_eq_left']
    cases Text.decodeUtf8 bytes with
    | ok cs =>
      simp only [Except.ok.injEq]
      constructor
      · rintro rfl
        exact String.toList_ofList.symm
      · rintro rfl
        exact String.ofList_toList
    | error e => simp [refuse]
  | _ => simp [text, refuse]

/-- The entries whose keys and values are read as texts. -/
def spelled (entries : Entries) : Named String :=
  entries.filterMap fun (key, v) =>
    match text key, text v with
    | .ok name, .ok s => some (name, s)
    | _, _ => none

theorem spelled_cons (key v : Value) (rest : Entries) : spelled ((key, v) :: rest) =
    (match text key, text v with
      | .ok name, .ok s => some (name, s)
      | _, _ => none).toList ++ spelled rest := by
  rw [spelled, List.filterMap_cons]
  split <;> simp_all [spelled]

/-- An entry of a mapping from texts, as it is read. -/
def entryOf (key v : Value) : Checked (String × String) :=
  within (placeOf key) (apply ((within (.str "[key]") (text key)).map Prod.mk) (text v))

theorem entryOf_eq_ok_iff {key v : Value} {name s : String} :
    entryOf key v = .ok (name, s) ↔ text key = .ok name ∧ text v = .ok s := by
  rw [entryOf, within, mapError_eq_ok_iff, apply_eq_ok_iff]
  simp only [map_eq_ok_iff, within, mapError_eq_ok_iff]
  constructor
  · rintro ⟨_, value, ⟨read, hkey, rfl⟩, hv, hpair⟩
    cases hpair
    exact ⟨hkey, hv⟩
  · rintro ⟨hkey, hv⟩
    exact ⟨_, s, ⟨name, hkey, rfl⟩, hv, rfl⟩

theorem eq_spelled {entries : Entries} {pairs : Named String}
    (h : (entries.map fun (key, v) => entryOf key v) = pairs.map .ok) :
    pairs = spelled entries := by
  induction entries generalizing pairs with
  | nil => exact List.map_eq_nil_iff.mp h.symm
  | cons entry rest ih =>
    obtain ⟨key, v⟩ := entry
    cases pairs with
    | nil => cases h
    | cons pair pairs =>
      obtain ⟨hentry, hrest⟩ := List.cons.inj h
      obtain ⟨hkey, hv⟩ := entryOf_eq_ok_iff.mp hentry
      rw [spelled_cons, hkey, hv, ih hrest]
      rfl

/-- A mapping from texts is read entry by entry, and of equal names the last one counts. -/
theorem eq_of_named_text {v : Value} {entries : Entries} {paths : Named String}
    (hv : v.entries? = some entries) (h : named text v = .ok paths) :
    paths = Named.ofList (spelled entries) := by
  have hread : (all (entries.map fun (key, v) => entryOf key v)).map Named.ofList = .ok paths := by
    cases v with
    | map entries =>
      cases hv
      exact h
    | frozen entries =>
      cases hv
      exact h
    | _ => cases hv
  obtain ⟨pairs, hpairs, rfl⟩ := map_eq_ok_iff.mp hread
  rw [eq_spelled (all_eq_ok_iff.mp hpairs)]

/-- What is read as a mapping is one. -/
theorem entries?_of_named_text {v : Value} {paths : Named String}
    (h : named text v = .ok paths) : ∃ entries, v.entries? = some entries := by
  cases v with
  | map entries => exact ⟨entries, rfl⟩
  | frozen entries => exact ⟨entries, rfl⟩
  | _ => cases h

/-- An entry counts for its name unless a later one is spelled the same. -/
theorem lookup_spelled_cons (key v : Value) (rest : Entries) (name : String) :
    List.lookup name (spelled ((key, v) :: rest)).reverse =
      ((spelled rest).reverse.lookup name).or (List.lookup name (spelled [(key, v)])) := by
  have hone : (spelled [(key, v)]).reverse = spelled [(key, v)] := by
    rw [spelled_cons, spelled, List.filterMap_nil, List.append_nil]
    cases (match text key, text v with
      | .ok name, .ok s => some (name, s)
      | _, _ => none) <;> rfl
  rw [← List.singleton_append, spelled, List.filterMap_append, List.reverse_append,
    List.lookup_append]
  exact congrArg _ (congrArg (List.lookup name) hone)

/-- An entry under another text does not count for a name. -/
theorem lookup_spelled_singleton {name other : String} (v : Value) (hne : name ≠ other) :
    List.lookup name (spelled [(.str other, v)]) = none := by
  rw [spelled_cons]
  cases hv : text v <;> simp [text, spelled, hne]

/-- A text that is put under another text leaves what is spelled under a name. -/
theorem lookup_spelled_put (entries : Entries) {name other : String} (v : Value)
    (hne : name ≠ other) :
    (spelled (Fields.put entries (.str other) v)).reverse.lookup name =
      (spelled entries).reverse.lookup name := by
  induction entries with
  | nil =>
    rw [Fields.put, lookup_spelled_cons, lookup_spelled_singleton v hne]
    rfl
  | cons entry rest ih =>
    obtain ⟨key, old⟩ := entry
    rw [Fields.put_cons]
    split
    · rename_i hkey
      subst hkey
      rw [lookup_spelled_cons, lookup_spelled_cons, lookup_spelled_singleton v hne,
        lookup_spelled_singleton old hne]
    · rw [lookup_spelled_cons, lookup_spelled_cons, ih]

/-- Keys that are not read as a name leave nothing under it. -/
theorem lookup_spelled_eq_none {entries : Entries} {name : String}
    (h : ∀ entry ∈ entries, text entry.1 ≠ .ok name) :
    (spelled entries).reverse.lookup name = none := by
  rw [Named.lookup_eq_none_iff, Named.names, List.map_reverse, List.mem_reverse]
  intro hmem
  obtain ⟨⟨other, s⟩, hpair, rfl⟩ := List.mem_map.mp hmem
  obtain ⟨⟨key, v⟩, hentry, hread⟩ := List.mem_filterMap.mp hpair
  dsimp only at hread
  split at hread
  · rename_i hkey _
    cases hread
    exact h _ hentry hkey
  · cases hread

/-- A text under a name is what is spelled under it, if no later key is read as the name. -/
theorem lookup_spelled_of_find? {entries : Entries} {name s : String}
    (h : entries.find? name = some (.str s))
    (hlater : ∀ before after, entries = before ++ (.str name, .str s) :: after →
      ∀ entry ∈ after, text entry.1 ≠ .ok name) :
    (spelled entries).reverse.lookup name = some s := by
  induction entries with
  | nil => cases h
  | cons entry rest ih =>
    obtain ⟨key, v⟩ := entry
    rw [Fields.find?_cons] at h
    rw [lookup_spelled_cons]
    split at h
    · rename_i hkey
      cases h
      subst hkey
      rw [lookup_spelled_eq_none (hlater [] rest rfl)]
      simp [spelled, text]
    · rw [ih h fun before after hrest => hlater ((key, v) :: before) after (by rw [hrest]; rfl)]
      rfl

end Checked

namespace Settings

/-- A text that was read as the name of a step. -/
theorem pathStep_eq_ok {v : Value} {s : String} (h : pathStep v = .ok s) :
    s ≠ "" ∧ isPathStep s = true := by
  obtain ⟨hread, hstep⟩ := Checked.require_eq_ok_iff.mp h
  exact ⟨(Checked.someText_eq_ok_iff.mp hread).2, hstep⟩

/-- A field for the name of a step holds one, if its usual value is one. -/
theorem pathStep_of_field {entries : Entries} {key usual s : String}
    (husual : usual ≠ "" ∧ isPathStep usual = true)
    (h : Checked.field entries key usual pathStep = .ok s) : s ≠ "" ∧ isPathStep s = true := by
  rcases Checked.field_eq_ok_iff.mp h with ⟨-, rfl⟩ | ⟨v, -, hv⟩
  · exact husual
  · exact pathStep_eq_ok hv

/-- Settings are read from entries field by field. -/
structure IsReadFrom (s : Settings) (entries : Entries) : Prop where
  log : Checked.field entries "logging_config" ({} : Settings).log logSection = .ok s.log
  roots : Checked.field entries "plugin_search_paths" ({} : Settings).roots searchRoots = .ok s.roots
  space : Checked.field entries "descriptor_namespace" ({} : Settings).space pathStep = .ok s.space
  extension : Checked.field entries "descriptor_extension" ({} : Settings).extension pathStep =
    .ok s.extension
  templates : Checked.field entries "help_template_dir" ({} : Settings).templates
    (Checked.optional Checked.text) = .ok s.templates
  host : Checked.field entries "platform_version" ({} : Settings).host version = .ok s.host
  validators : Checked.field entries "validators" ({} : Settings).validators validatorPaths =
    .ok s.validators

theorem isReadFrom_of_ofEntries {entries : Entries} {s : Settings} (h : ofEntries entries = .ok s) :
    s.IsReadFrom entries := by
  rw [ofEntries, given] at h
  split at h
  · have hread := mapError_eq_ok_iff.mp h
    obtain ⟨_, _, hhost, hvalidators, rfl⟩ := Checked.apply_eq_ok_iff.mp hread
    obtain ⟨_, _, htemplates, hversion, rfl⟩ := Checked.apply_eq_ok_iff.mp hhost
    obtain ⟨_, _, hextensions, htemplate, rfl⟩ := Checked.apply_eq_ok_iff.mp htemplates
    obtain ⟨_, _, hspaces, hextension, rfl⟩ := Checked.apply_eq_ok_iff.mp hextensions
    obtain ⟨_, _, hroots, hspace, rfl⟩ := Checked.apply_eq_ok_iff.mp hspaces
    obtain ⟨_, _, hlogs, hroot, rfl⟩ := Checked.apply_eq_ok_iff.mp hroots
    obtain ⟨_, hlog, rfl⟩ := map_eq_ok_iff.mp hlogs
    exact ⟨hlog, hroot, hspace, hextension, htemplate, hversion, hvalidators⟩
  · cases h

/-- The namespace and the extension of settings that are read can be names of steps. -/
theorem isPathStep_of_ofEntries {entries : Entries} {s : Settings} (h : ofEntries entries = .ok s) :
    (s.space ≠ "" ∧ isPathStep s.space = true) ∧
      s.extension ≠ "" ∧ isPathStep s.extension = true := by
  have hread := isReadFrom_of_ofEntries h
  exact ⟨pathStep_of_field (by decide) hread.space, pathStep_of_field (by decide) hread.extension⟩

/-- Search roots that are given as a list of texts are read as they are. -/
theorem searchRoots_texts (roots : List String) :
    searchRoots (.list (roots.map .str)) = .ok roots :=
  Checked.list_text roots

theorem version_str (s : String) : version (.str s) = .ok (some s) := rfl

theorem validatorPaths_eq_ok {v : Value} {paths : Named String} (h : validatorPaths v = .ok paths) :
    ∃ entries, v.entries? = some entries ∧ paths = Named.ofList (Checked.spelled entries) := by
  have hnamed := (Checked.require_eq_ok_iff.mp h).1
  obtain ⟨entries, hentries⟩ := Checked.entries?_of_named_text hnamed
  exact ⟨entries, hentries, Checked.eq_of_named_text hentries hnamed⟩

end Settings

end PluginDescriptor
