import PluginDescriptor.Proofs.Settings.Reading
import PluginDescriptor.Proofs.Settings.Reloading
import PluginDescriptor.Settings.Plan

/-!
# Explicit settings

Explicit settings are a source above all others, so that they are laid over what the others hold
(`Plan.section_of_build`): what is set counts as it was set last, and all else stays what it is without
them. This is so but for the names of validators in two cases. A name may also be spelled as bytes in
another source, and of both spellings the later one counts; and validators that a source gives as a
read-only mapping are not merged but replaced (`Plan.setAll_settled`).
-/

set_option autoImplicit false

namespace PluginDescriptor

namespace Plan

/-- The search roots that were set last. -/
def lastRoots? (settings : List Setting) : Option (List String) :=
  (settings.filterMap Setting.roots?).getLast?

/-- The version that was set last. -/
def lastHost? (settings : List Setting) : Option String :=
  (settings.filterMap Setting.host?).getLast?

/-- The paths of validators that were set, with their names. -/
def paths (settings : List Setting) : Named String := settings.filterMap Setting.validator?

/-- The path of a validator that was set last. -/
def lastPath? (settings : List Setting) (name : String) : Option String :=
  (paths settings).reverse.lookup name

/-- A mapping of texts, put under their names one after the other. -/
def textsUnder (things : Named String) : Entries :=
  Entries.putAll [] (Entries.ofFields (things.map fun (name, text) => (name, .str text)))

theorem textsUnder_concat (things : Named String) (name text : String) :
    textsUnder (things ++ [(name, text)]) =
      Fields.put (textsUnder things) (.str name) (.str text) := by
  simp [textsUnder, Entries.putAll, Entries.ofFields]

theorem mem_textsUnder {things : Named String} {entry : Value × Value}
    (h : entry ∈ textsUnder things) :
    ∃ name ∈ things.names, ∃ text, entry = (.str name, .str text) := by
  induction things using List.reverseRecOn with
  | nil => cases h
  | append_singleton things thing ih =>
    obtain ⟨name, text⟩ := thing
    rw [textsUnder_concat] at h
    rw [Named.names_append]
    rcases Fields.mem_put h with hmem | ⟨hvalue, hkey⟩
    · obtain ⟨other, hother, rest⟩ := ih hmem
      exact ⟨other, List.mem_append_left _ hother, rest⟩
    · have hname : entry.1 = .str name :=
        hkey.elim id fun hsame => (Value.str_same_iff name entry.1).mp hsame
      exact ⟨name, by simp, text, Prod.ext hname hvalue⟩

theorem isMapping_textsUnder (things : Named String) : (textsUnder things).IsMapping := by
  induction things using List.reverseRecOn with
  | nil => exact .nil
  | append_singleton things thing ih =>
    rw [textsUnder_concat]
    exact ih.put rfl (Value.isProper_of_key rfl)

theorem find?_textsUnder (things : Named String) (name : String) :
    (textsUnder things).find? name = (things.reverse.lookup name).map .str := by
  induction things using List.reverseRecOn with
  | nil => rfl
  | append_singleton things thing ih =>
    obtain ⟨other, text⟩ := thing
    rw [textsUnder_concat, Fields.find?_put, ih, List.reverse_append, List.reverse_singleton,
      List.singleton_append, Named.lookup_cons_eq]
    split <;> rfl

/-! ## What a plan sets -/

section Concat

variable (settings : List Setting) (last : Setting)

theorem setAll_concat (p : Plan) :
    p.setAll (settings ++ [last]) = (p.setAll settings).set last := by
  rw [setAll, List.foldl_append]
  rfl

theorem lastRoots?_concat :
    lastRoots? (settings ++ [last]) = last.roots?.or (lastRoots? settings) := by
  rw [lastRoots?, List.filterMap_append, List.getLast?_append]
  cases h : last.roots? <;> simp [h, lastRoots?]

theorem lastHost?_concat :
    lastHost? (settings ++ [last]) = last.host?.or (lastHost? settings) := by
  rw [lastHost?, List.filterMap_append, List.getLast?_append]
  cases h : last.host? <;> simp [h, lastHost?]

theorem paths_concat : paths (settings ++ [last]) = paths settings ++ last.validator?.toList := by
  rw [paths, List.filterMap_append]
  cases h : last.validator? <;> simp [h, paths]

end Concat

theorem sources_setAll (p : Plan) (settings : List Setting) :
    (p.setAll settings).sources = p.sources := by
  induction settings using List.reverseRecOn with
  | nil => rfl
  | append_singleton settings last ih =>
    rw [setAll_concat, ← ih]
    cases last with
    | roots roots =>
      rw [set, withRoots]
      split <;> rfl
    | host version => rfl
    | validator name path => rfl

/-- A mapping holds explicit settings. -/
structure Sets (settings : List Setting) (explicit : Entries) : Prop where
  mapping : explicit.IsMapping
  roots : explicit.find? "plugin_search_paths" =
    (lastRoots? settings).map fun roots => .list (roots.map .str)
  host : explicit.find? "platform_version" = (lastHost? settings).map .str
  validators : explicit.find? "validators" =
    if paths settings = [] then none else some (.map (textsUnder (paths settings)))
  others : ∀ name, name ≠ "plugin_search_paths" → name ≠ "platform_version" → name ≠ "validators" →
    explicit.find? name = none

theorem sets_nil : Sets [] [] := ⟨.nil, rfl, rfl, rfl, fun _ _ _ _ => rfl⟩

namespace Sets

variable {settings : List Setting} {explicit : Entries}

theorem concat_roots (h : Sets settings explicit) {roots : List String} (hroots : roots ≠ []) :
    Sets (settings ++ [.roots roots])
      (Fields.put explicit (.str "plugin_search_paths") (.list (roots.map .str))) where
  mapping := h.mapping.put rfl fun _ hmap => by cases hmap
  roots := by
    simp [Fields.find?_put, lastRoots?_concat, Setting.roots?, hroots]
  host := by
    simp [Fields.find?_put, lastHost?_concat, Setting.host?, h.host]
  validators := by
    simp [Fields.find?_put, paths_concat, Setting.validator?, h.validators]
  others name hroots hhost hvalidators := by
    simp [Fields.find?_put, hroots, h.others name hroots hhost hvalidators]

/-- No search roots at all leave everything as it was. -/
theorem concat_noRoots (h : Sets settings explicit) : Sets (settings ++ [.roots []]) explicit where
  mapping := h.mapping
  roots := by
    simp [lastRoots?_concat, Setting.roots?, h.roots]
  host := by
    simp [lastHost?_concat, Setting.host?, h.host]
  validators := by
    simp [paths_concat, Setting.validator?, h.validators]
  others := h.others

theorem concat_host (h : Sets settings explicit) (version : String) :
    Sets (settings ++ [.host version])
      (Fields.put explicit (.str "platform_version") (.str version)) where
  mapping := h.mapping.put rfl (Value.isProper_of_key rfl)
  roots := by
    simp [Fields.find?_put, lastRoots?_concat, Setting.roots?, h.roots]
  host := by
    simp [Fields.find?_put, lastHost?_concat, Setting.host?]
  validators := by
    simp [Fields.find?_put, paths_concat, Setting.validator?, h.validators]
  others name hroots hhost hvalidators := by
    simp [Fields.find?_put, hhost, h.others name hroots hhost hvalidators]

theorem concat_validator (h : Sets settings explicit) (name path : String) :
    Sets (settings ++ [.validator name path])
      (Fields.put explicit (.str "validators")
        (.map (Fields.put (textsUnder (paths settings)) (.str name) (.str path)))) where
  mapping :=
    h.mapping.put rfl (Value.isProper_map_iff.mpr
      ((isMapping_textsUnder (paths settings)).put rfl (Value.isProper_of_key rfl)))
  roots := by
    simp [Fields.find?_put, lastRoots?_concat, Setting.roots?, h.roots]
  host := by
    simp [Fields.find?_put, lastHost?_concat, Setting.host?, h.host]
  validators := by
    simp [Fields.find?_put, paths_concat, textsUnder_concat, Setting.validator?]
  others name hroots hhost hvalidators := by
    simp [Fields.find?_put, hvalidators, h.others name hroots hhost hvalidators]

end Sets

theorem sets_setAll {p : Plan} (hplan : p.explicit = []) (settings : List Setting) :
    Sets settings (p.setAll settings).explicit := by
  induction settings using List.reverseRecOn with
  | nil => exact hplan ▸ sets_nil
  | append_singleton settings last ih =>
    rw [setAll_concat]
    cases last with
    | roots roots =>
      rw [set, withRoots]
      split
      · rename_i hnone
        exact List.isEmpty_iff.mp hnone ▸ ih.concat_noRoots
      · rename_i hsome
        exact ih.concat_roots fun hnil => hsome (List.isEmpty_iff.mpr hnil)
    | host version => exact ih.concat_host version
    | validator name path =>
      have hput := ih.concat_validator name path
      rw [set, withValidator, ih.validators]
      by_cases hnone : paths settings = []
      · rw [hnone] at hput
        rw [if_pos hnone]
        exact hput
      · rw [if_neg hnone]
        exact hput

/-! ## Explicit settings above all others -/

/-- The settings of the framework that merged settings hold, of which there are none if its section is
no mapping. -/
def sectionOf (raw : Entries) : Entries :=
  match Loaded.frameworkSection raw with
  | .map entries => entries
  | _ => []

theorem frameworkSection_of_settingsOf {raw : Entries} {s : Settings}
    (h : Loaded.settingsOf raw = .ok s) :
    Loaded.frameworkSection raw = .map (sectionOf raw) ∧ Settings.ofEntries (sectionOf raw) = .ok s := by
  unfold Loaded.settingsOf at h
  unfold sectionOf
  split at h
  · rename_i entries hsection
    rw [hsection]
    split at h
    · cases h
    · exact ⟨rfl, h⟩
  · cases h

theorem sectionOf_eq {raw entries : Entries}
    (h : Fields.get? raw (.str Environment.frameworkSection) = some (.map entries)) :
    sectionOf raw = entries := by
  rw [sectionOf, Loaded.frameworkSection, h]
  rfl

theorem sectionOf_eq_nil {raw : Entries}
    (h : ¬ ∃ entries, Fields.get? raw (.str Environment.frameworkSection) = some (.map entries)) :
    sectionOf raw = [] := by
  rw [sectionOf, Loaded.frameworkSection]
  cases hplace : Fields.get? raw (.str Environment.frameworkSection) with
  | none => rfl
  | some v =>
    cases v with
    | map entries => exact (h ⟨entries, hplace⟩).elim
    | _ => rfl

theorem isMapping_sectionOf {raw : Entries} (h : raw.IsMapping) : (sectionOf raw).IsMapping := by
  by_cases hmap : ∃ entries,
      Fields.get? raw (.str Environment.frameworkSection) = some (.map entries)
  · obtain ⟨entries, hentries⟩ := hmap
    rw [sectionOf_eq hentries]
    exact Value.isProper_map_iff.mp (h.get? hentries)
  · rw [sectionOf_eq_nil hmap]
    exact .nil

/-- Merged settings are, within the section of the framework, a mapping laid over what others hold
there. -/
def IsLaidOver (explicit base raw : Entries) : Prop :=
  ∀ name, (sectionOf raw).find? name =
    match explicit.find? name with
    | none => (sectionOf base).find? name
    | some v => some (Value.over ((sectionOf base).find? name) v)

/-- What a layer sets within the section of the framework is laid over what is there. -/
theorem isLaidOver_merge {base explicit : Entries} (hbase : base.IsMapping)
    (hexplicit : explicit.IsMapping) :
    IsLaidOver explicit base (Entries.merge base
      (Entries.ofFields [(Environment.frameworkSection, .map explicit)])) := by
  intro name
  have hkeyed : Fields.Keyed
      (Entries.ofFields [(Environment.frameworkSection, Value.map explicit)]) := by
    simp [Entries.ofFields, Fields.Keyed, Value.changeable?]
  have hmerged := Entries.get?_merge hbase.keyed hkeyed (List.pairwise_singleton _ _)
    (.str Environment.frameworkSection)
  have hplace : Fields.get? (Entries.ofFields [(Environment.frameworkSection, .map explicit)])
      (.str Environment.frameworkSection) = some (.map explicit) := rfl
  rw [hplace] at hmerged
  by_cases hmap : ∃ below,
      Fields.get? base (.str Environment.frameworkSection) = some (.map below)
  · obtain ⟨below, hbelow⟩ := hmap
    have hproper := Value.isProper_map_iff.mp (hbase.get? hbelow)
    rw [hbelow] at hmerged
    dsimp only at hmerged
    rw [Entries.over_map_map] at hmerged
    rw [sectionOf_eq hmerged, sectionOf_eq hbelow]
    exact Entries.get?_merge hproper.keyed hexplicit.keyed hexplicit.apart (.str name)
  · dsimp only at hmerged
    rw [Entries.over_eq_self fun below hbelow => (hmap ⟨below, hbelow⟩).elim] at hmerged
    rw [sectionOf_eq hmerged, sectionOf_eq_nil hmap, Fields.find?_nil]
    cases explicit.find? name with
    | none => rfl
    | some v =>
      have hself : Value.over none v = v := Entries.over_eq_self fun below h => by cases h
      exact congrArg some hself.symm

theorem allSources_eq {p : Plan} (hplan : p.explicit = []) (settings : List Setting) :
    (p.setAll settings).allSources = p.allSources ++
      (if (p.setAll settings).explicit.isEmpty then []
        else [.explicit (p.setAll settings).explicit Source.explicitPriority]) := by
  rw [allSources, allSources, sources_setAll, hplan]
  simp

theorem allSources_ne_nil (p : Plan) : p.allSources ≠ [] := by
  intro h
  simp only [allSources, List.append_eq_nil_iff] at h
  obtain ⟨⟨hsources, henvironment⟩, -⟩ := h
  rw [hsources] at henvironment
  cases henvironment

/-- A configuration that is built has all sources, and holds what is made of them. -/
theorem outcome_build_eq_ok_iff {around : Surroundings} {p : Plan} {c : Configuration} :
    (p.build around).outcome = .ok c ↔ c.sources = p.allSources ∧
      ∃ layers, (Loaded.inOrder p.allSources).map (Source.read around) = layers.map .ok ∧
        Loaded.ofRaw (Entries.mergeAll layers) = .ok c.current := by
  rw [build, Configuration.ofSources, if_neg fun hnil => allSources_ne_nil p (List.isEmpty_iff.mp hnil),
    Configuration.outcome_reload, map_eq_ok_iff]
  simp only [Loaded.outcome_ofSources_eq_ok_iff]
  constructor
  · rintro ⟨loaded, hloaded, rfl⟩
    exact ⟨rfl, hloaded⟩
  · cases c with
    | mk sources current =>
      rintro ⟨rfl, hloaded⟩
      exact ⟨current, hloaded, rfl⟩

/-- The merged settings that a configuration holds when it is built, and what they mean. -/
theorem loaded_of_build {around : Surroundings} {p : Plan} {c : Configuration}
    (h : (p.build around).outcome = .ok c) :
    ∃ layers, (Loaded.inOrder p.allSources).map (Source.read around) = layers.map .ok ∧
      c.current.raw = Entries.mergeAll layers ∧
      Loaded.settingsOf c.current.raw = .ok c.current.settings := by
  obtain ⟨-, layers, hlayers, hraw⟩ := outcome_build_eq_ok_iff.mp h
  obtain ⟨hsettings, -, hmerged, -⟩ := Loaded.ofRaw_eq_ok_iff.mp hraw
  exact ⟨layers, hlayers, hmerged, hmerged.symm ▸ hsettings⟩

/-- All sources but the explicit settings, none of them above those, hold mappings. -/
structure IsLower (p : Plan) : Prop where
  explicit : p.explicit = []
  priority : ∀ source ∈ p.sources, source.priority ≤ Source.explicitPriority
  mapping : ∀ source ∈ p.sources, source.IsMapping

theorem IsLower.allSources {p : Plan} (h : p.IsLower) :
    ∀ source ∈ p.allSources, source.priority ≤ Source.explicitPriority ∧ source.IsMapping := by
  intro source hsource
  rw [Plan.allSources, h.explicit] at hsource
  rcases List.mem_append.mp hsource with hsource | hsource
  · rcases List.mem_append.mp hsource with hsource | hsource
    · exact ⟨h.priority source hsource, h.mapping source hsource⟩
    · split at hsource
      · cases hsource
      · rw [List.mem_singleton.mp hsource]
        exact ⟨by decide, trivial⟩
  · cases hsource

/-- What is built from a plan holds in the section of the framework what is set, laid over what the
other sources hold there. -/
theorem section_of_build {around : Surroundings} {p : Plan} (hp : p.IsLower)
    {settings : List Setting} {c : Configuration}
    (h : ((p.setAll settings).build around).outcome = .ok c) :
    ∃ layers, (Loaded.inOrder p.allSources).map (Source.read around) = layers.map .ok ∧
      (sectionOf (Entries.mergeAll layers)).IsMapping ∧ (sectionOf c.current.raw).IsMapping ∧
      IsLaidOver (p.setAll settings).explicit (Entries.mergeAll layers) c.current.raw := by
  obtain ⟨all, hall, hraw, -⟩ := loaded_of_build h
  have hsets := sets_setAll hp.explicit settings
  rw [hraw]
  rw [allSources_eq hp.explicit] at hall
  split at hall
  · rename_i hnone
    rw [List.isEmpty_iff.mp hnone]
    rw [List.append_nil] at hall
    have hbase := isMapping_sectionOf (Entries.isMapping_mergeAll
      (Loaded.isMapping_of_read (fun source hs => (hp.allSources source hs).2) hall))
    exact ⟨all, hall, hbase, hbase, fun name => rfl⟩
  · rename_i hsome
    have htop : ∀ source ∈ p.allSources, source.priority ≤
        (Source.explicit (p.setAll settings).explicit Source.explicitPriority).priority :=
      fun source hs => (hp.allSources source hs).1
    rw [Loaded.inOrder_concat htop, List.map_append] at hall
    obtain ⟨layers, tops, rfl, hlayers, htops⟩ := List.map_eq_append_iff.mp hall.symm
    obtain ⟨top, rfl, htop⟩ := List.map_eq_singleton_iff.mp htops
    have hread : top = Entries.ofFields
        [(Environment.frameworkSection, .map (p.setAll settings).explicit)] := by
      rw [Source.read, if_neg hsome] at htop
      exact Except.ok.inj htop
    have hbase := Entries.isMapping_mergeAll
      (Loaded.isMapping_of_read (fun source hs => (hp.allSources source hs).2) hlayers.symm)
    have hlayer : Entries.IsMapping (Fields.put [] (.str Environment.frameworkSection)
        (.map (p.setAll settings).explicit)) :=
      .put .nil rfl (Value.isProper_map_iff.mpr hsets.mapping)
    rw [Entries.mergeAll_concat, hread]
    exact ⟨layers, hlayers.symm, isMapping_sectionOf hbase,
      isMapping_sectionOf (Entries.isMapping_merge hbase hlayer),
      isLaidOver_merge hbase hsets.mapping⟩

/-! ## Validators -/

/-- Texts that are laid over a mapping leave what is spelled there under other names. -/
theorem lookup_spelled_merge (base : Entries) {layer : List (Value × Value)} {name : String}
    (h : ∀ entry ∈ layer, ∃ other, other ≠ name ∧ ∃ text, entry = (.str other, .str text)) :
    (Checked.spelled (Entries.merge base layer)).reverse.lookup name =
      (Checked.spelled base).reverse.lookup name := by
  induction layer generalizing base with
  | nil => rfl
  | cons entry rest ih =>
    obtain ⟨⟨other, hother, text, rfl⟩, hrest⟩ := List.forall_mem_cons.mp h
    rw [Entries.merge, ih _ hrest]
    exact Checked.lookup_spelled_put base _ hother.symm

/-- What stands under a name in what was given so far, for a name that nothing is laid over. -/
def spelledIn (below : Option Value) (name : String) : Option String :=
  match below with
  | some (.map entries) => (Checked.spelled entries).reverse.lookup name
  | _ => none

/-- Texts under names, laid over a value, are a mapping: the names have these texts there, and other
names what they had. -/
theorem over_textsUnder {below : Option Value} (hbelow : ∀ v, below = some v → v.IsProper)
    (things : Named String) :
    ∃ entries : Entries, Value.over below (.map (textsUnder things)) = .map entries ∧
      (∀ name text, things.reverse.lookup name = some text →
        entries.find? name = some (.str text)) ∧
      ∀ name, things.reverse.lookup name = none →
        (Checked.spelled entries).reverse.lookup name = spelledIn below name := by
  have hmapping := isMapping_textsUnder things
  have hothers : ∀ name, things.reverse.lookup name = none → ∀ entry ∈ textsUnder things,
      ∃ other, other ≠ name ∧ ∃ text, entry = (.str other, .str text) := by
    intro name hnone entry hentry
    obtain ⟨other, hother, text, rfl⟩ := mem_textsUnder hentry
    refine ⟨other, ?_, text, rfl⟩
    rintro rfl
    rw [Named.lookup_eq_none_iff, Named.names, List.map_reverse, List.mem_reverse] at hnone
    exact hnone hother
  by_cases hmap : ∃ base, below = some (.map base)
  · obtain ⟨base, rfl⟩ := hmap
    have hbase := Value.isProper_map_iff.mp (hbelow _ rfl)
    refine ⟨_, Entries.over_map_map base _, fun name text htext => ?_, fun name hnone => ?_⟩
    · have hget := Entries.get?_merge hbase.keyed hmapping.keyed hmapping.apart (.str name)
      have hfound : Fields.get? (textsUnder things) (.str name) = some (.str text) := by
        have hfind := find?_textsUnder things name
        rwa [htext] at hfind
      rw [hfound] at hget
      exact hget
    · exact lookup_spelled_merge base (hothers name hnone)
  · refine ⟨_, Entries.over_eq_self fun base hbase => (hmap ⟨base, hbase⟩).elim,
      fun name text htext => ?_, fun name hnone => ?_⟩
    · rw [find?_textsUnder, htext]
      rfl
    · have hnothing : spelledIn below name = none := by
        unfold spelledIn
        split
        · rename_i entries
          exact (hmap ⟨entries, rfl⟩).elim
        · rfl
      rw [hnothing]
      refine Checked.lookup_spelled_eq_none fun entry hentry htext => ?_
      obtain ⟨other, hother, text, rfl⟩ := hothers name hnone entry hentry
      exact hother (Except.ok.inj htext)

/-- The validators that are read, if some are set: those set have their paths, and others are read as
from what others hold. -/
theorem validators_of_isLaidOver {settings : List Setting} {explicit base raw : Entries} {s : Settings}
    (hsets : Sets settings explicit) (hsome : paths settings ≠ [])
    (hbase : (sectionOf base).IsMapping) (hover : IsLaidOver explicit base raw)
    (hread : s.IsReadFrom (sectionOf raw)) :
    ∃ entries : Entries, (sectionOf raw).find? "validators" = some (.map entries) ∧
      s.validators = Named.ofList (Checked.spelled entries) ∧
      (∀ name path, lastPath? settings name = some path →
        entries.find? name = some (.str path)) ∧
      ∀ name, lastPath? settings name = none →
        (Checked.spelled entries).reverse.lookup name =
          spelledIn ((sectionOf base).find? "validators") name := by
  have hproper : ∀ v, (sectionOf base).find? "validators" = some v → v.IsProper :=
    fun v hv => hbase.get? hv
  obtain ⟨entries, hentries, hfound, hothers⟩ := over_textsUnder hproper (paths settings)
  have hplace : (sectionOf raw).find? "validators" = some (.map entries) := by
    rw [hover, hsets.validators, if_neg hsome, ← hentries]
  obtain ⟨_, hmap, hpaths⟩ :=
    Settings.validatorPaths_eq_ok (Checked.read_of_field hplace hread.validators)
  cases hmap
  exact ⟨entries, hplace, hpaths, hfound, hothers⟩

/-- The validators that merged settings hold. -/
def validatorsOf (raw : Entries) : Entries :=
  (((sectionOf raw).find? "validators").bind Value.entries?).getD []

/-- A later key of the validators spells a name as bytes. -/
def Respelled (raw : Entries) (name : String) : Prop :=
  ∃ before v after bytes w, validatorsOf raw = before ++ (.str name, v) :: after ∧
    (Value.bytes bytes, w) ∈ after ∧ Text.decodeUtf8 bytes = .ok name.toList

/-- The validators are a read-only mapping. -/
def HoldsFrozen (raw : Entries) : Prop :=
  ∃ entries, (sectionOf raw).find? "validators" = some (.frozen entries)

/-- The validators that are read, unless a read-only mapping holds them. -/
theorem lookup_validators_eq_spelledIn {raw : Entries} {s : Settings}
    (hread : s.IsReadFrom (sectionOf raw)) (hfrozen : ¬ HoldsFrozen raw) (name : String) :
    s.validators.lookup name = spelledIn ((sectionOf raw).find? "validators") name := by
  rcases Checked.field_eq_ok_iff.mp hread.validators with ⟨habsent, husual⟩ | ⟨v, hv, hpath⟩
  · rw [habsent, husual]
    rfl
  · obtain ⟨others, hentries, hpaths⟩ := Settings.validatorPaths_eq_ok hpath
    rw [hv, hpaths, Named.lookup_ofList]
    cases v with
    | map entries =>
      cases hentries
      rfl
    | frozen entries => exact (hfrozen ⟨entries, hv⟩).elim
    | _ => cases hentries

/-- A name that is not respelled is read once. -/
theorem lookup_spelled_validatorsOf {raw : Entries} {name path : String}
    (hmapping : (validatorsOf raw).IsMapping) (hkept : ¬ Respelled raw name)
    (hfound : (validatorsOf raw).find? name = some (.str path)) :
    (Checked.spelled (validatorsOf raw)).reverse.lookup name = some path := by
  refine Checked.lookup_spelled_of_find? hfound fun before after hsplit entry hentry htext => ?_
  obtain ⟨key, w⟩ := entry
  rcases Checked.text_eq_ok_iff.mp htext with rfl | ⟨bytes, rfl, hbytes⟩
  · -- the same text twice is ruled out in a mapping
    have hapart := hmapping.apart
    rw [hsplit, Fields.Apart, List.map_append, List.map_cons] at hapart
    have hlater := (List.pairwise_append.mp hapart).2.1
    have hdiffers := (List.pairwise_cons.mp hlater).1 (.str name) (List.mem_map.mpr ⟨_, hentry, rfl⟩)
    rw [(Value.str_same_iff name _).mpr rfl] at hdiffers
    cases hdiffers
  · exact hkept ⟨before, .str path, after, bytes, w, hsplit, hentry, hbytes⟩

/-! ## The explicit settings of what is built -/

/-- A configuration has the explicit settings, each as it was set last. -/
structure HasSettings (settings : List Setting) (c : Configuration) : Prop where
  roots : ∀ roots, lastRoots? settings = some roots → c.current.settings.roots = roots
  host : ∀ version, lastHost? settings = some version → c.current.settings.host = some version
  validators : ∀ name path, lastPath? settings name = some path → ¬ Respelled c.current.raw name →
    c.current.settings.validators.lookup name = some path

/-- A configuration agrees with another one on everything that is not set explicitly. -/
structure AgreesBut (settings : List Setting) (c lower : Configuration) : Prop where
  log : c.current.settings.log = lower.current.settings.log
  space : c.current.settings.space = lower.current.settings.space
  extension : c.current.settings.extension = lower.current.settings.extension
  templates : c.current.settings.templates = lower.current.settings.templates
  roots : lastRoots? settings = none → c.current.settings.roots = lower.current.settings.roots
  host : lastHost? settings = none → c.current.settings.host = lower.current.settings.host
  /-- Validators under names that are not set, unless the mapping that holds them is replaced. -/
  validators : ∀ name, lastPath? settings name = none →
    (HoldsFrozen lower.current.raw → paths settings = []) →
    c.current.settings.validators.lookup name = lower.current.settings.validators.lookup name
  /-- A read-only mapping of validators is replaced as soon as one is set. -/
  replaced : ∀ name, lastPath? settings name = none → HoldsFrozen lower.current.raw →
    paths settings ≠ [] → c.current.settings.validators.lookup name = none

variable {around : Surroundings} {p : Plan} {settings : List Setting} {c lower : Configuration}

theorem hasSettings_of_build (hp : p.IsLower)
    (h : ((p.setAll settings).build around).outcome = .ok c) : HasSettings settings c := by
  obtain ⟨layers, -, hbase, hmapping, hfind⟩ := section_of_build hp h
  obtain ⟨-, -, -, hsettings⟩ := loaded_of_build h
  have hsets := sets_setAll hp.explicit settings
  have hread := Settings.isReadFrom_of_ofEntries (frameworkSection_of_settingsOf hsettings).2
  -- what is set and is no mapping stands in the section as it is
  have hscalar : ∀ name v, (p.setAll settings).explicit.find? name = some v → ¬ v.IsMap →
      (sectionOf c.current.raw).find? name = some v := by
    intro name v hset hv
    rw [hfind, hset]
    exact congrArg some (Entries.over_eq_self fun _ _ => hv)
  refine ⟨fun roots hroots => ?_, fun version hversion => ?_, fun name path hpath hkept => ?_⟩
  · have hset : (p.setAll settings).explicit.find? "plugin_search_paths" =
        some (.list (roots.map .str)) := by
      rw [hsets.roots, hroots]
      rfl
    have hroot := Checked.read_of_field
      (hscalar _ _ hset fun ⟨_, hmap⟩ => by cases hmap) hread.roots
    exact Except.ok.inj (hroot.symm.trans (Settings.searchRoots_texts roots))
  · have hset : (p.setAll settings).explicit.find? "platform_version" = some (.str version) := by
      rw [hsets.host, hversion]
      rfl
    have hhost := Checked.read_of_field
      (hscalar _ _ hset fun ⟨_, hmap⟩ => by cases hmap) hread.host
    exact Except.ok.inj (hhost.symm.trans (Settings.version_str version))
  · have hsome : paths settings ≠ [] := by
      intro hnone
      rw [lastPath?, hnone] at hpath
      cases hpath
    obtain ⟨entries, hplace, hpaths, hfound, -⟩ :=
      validators_of_isLaidOver hsets hsome hbase hfind hread
    have hvalidators : validatorsOf c.current.raw = entries := by
      rw [validatorsOf, hplace]
      rfl
    have hproper : (validatorsOf c.current.raw).IsMapping :=
      hvalidators ▸ Value.isProper_map_iff.mp (hmapping.get? hplace)
    rw [hpaths, Named.lookup_ofList, ← hvalidators]
    exact lookup_spelled_validatorsOf hproper hkept (hvalidators ▸ hfound name path hpath)

theorem agreesBut_of_build (hp : p.IsLower)
    (h : ((p.setAll settings).build around).outcome = .ok c)
    (hlower : (p.build around).outcome = .ok lower) : AgreesBut settings c lower := by
  obtain ⟨layers, hlayers, hbase, -, hfind⟩ := section_of_build hp h
  obtain ⟨-, -, -, hsettings⟩ := loaded_of_build h
  obtain ⟨others, hothers, hlowerRaw, hlowerSettings⟩ := loaded_of_build hlower
  -- both are made of the same layers
  have hsame : others = layers := by
    rw [hlayers] at hothers
    exact ((List.map_inj_right fun _ _ => Except.ok.inj).mp hothers).symm
  subst hsame
  rw [← hlowerRaw] at hfind hbase
  have hsets := sets_setAll hp.explicit settings
  have hread := Settings.isReadFrom_of_ofEntries (frameworkSection_of_settingsOf hsettings).2
  have hlowerRead := Settings.isReadFrom_of_ofEntries (frameworkSection_of_settingsOf hlowerSettings).2
  -- what is not set stands in the section as in the other one
  have hkept : ∀ name, (p.setAll settings).explicit.find? name = none →
      (sectionOf c.current.raw).find? name = (sectionOf lower.current.raw).find? name := by
    intro name hunset
    rw [hfind, hunset]
  have hunset := hsets.others
  refine ⟨?_, ?_, ?_, ?_, fun hroots => ?_, fun hhost => ?_, fun name hname hfrozen => ?_,
    fun name hname ⟨others, hothers⟩ hsome => ?_⟩
  · exact Checked.field_congr (hkept _ (hunset _ (by decide) (by decide) (by decide)))
      hread.log hlowerRead.log
  · exact Checked.field_congr (hkept _ (hunset _ (by decide) (by decide) (by decide)))
      hread.space hlowerRead.space
  · exact Checked.field_congr (hkept _ (hunset _ (by decide) (by decide) (by decide)))
      hread.extension hlowerRead.extension
  · exact Checked.field_congr (hkept _ (hunset _ (by decide) (by decide) (by decide)))
      hread.templates hlowerRead.templates
  · have hnone : (p.setAll settings).explicit.find? "plugin_search_paths" = none := by
      rw [hsets.roots, hroots]
      rfl
    exact Checked.field_congr (hkept _ hnone) hread.roots hlowerRead.roots
  · have hnone : (p.setAll settings).explicit.find? "platform_version" = none := by
      rw [hsets.host, hhost]
      rfl
    exact Checked.field_congr (hkept _ hnone) hread.host hlowerRead.host
  · by_cases hnone : paths settings = []
    · have hvalidators : (p.setAll settings).explicit.find? "validators" = none := by
        rw [hsets.validators, if_pos hnone]
      rw [Checked.field_congr (hkept _ hvalidators) hread.validators hlowerRead.validators]
    · obtain ⟨entries, -, hpaths, -, hothers⟩ :=
        validators_of_isLaidOver hsets hnone hbase hfind hread
      rw [hpaths, Named.lookup_ofList, hothers name hname]
      exact (lookup_validators_eq_spelledIn hlowerRead (fun h => hnone (hfrozen h)) name).symm
  · obtain ⟨entries, -, hpaths, -, hrest⟩ := validators_of_isLaidOver hsets hsome hbase hfind hread
    rw [hpaths, Named.lookup_ofList, hrest name hname, hothers]
    rfl

/-- Explicit settings win over all other sources, as they were set last, and only where they are set:
everything else is as it is without them, if this can be built. Validators are an exception where a
name is also spelled as bytes, and where they are given as a read-only mapping. -/
theorem setAll_settled (hp : p.IsLower) (h : ((p.setAll settings).build around).outcome = .ok c) :
    HasSettings settings c ∧
      ∀ lower, (p.build around).outcome = .ok lower → AgreesBut settings c lower :=
  ⟨hasSettings_of_build hp h, fun _ hlower => agreesBut_of_build hp h hlower⟩

/-- An environment without variables, and no files. -/
def bareSurroundings : Surroundings := { files := default, environment := [] }

/-- Settings of a version and two validators. -/
def lowerSettings : Entries :=
  (setAll {} [.host "1.0", .validator "port" "loose:port", .validator "host" "loose:host"]).explicit

/-- A plan with these settings below the environment. -/
def lowerPlan : Plan := { sources := [.explicit lowerSettings 100] }

/-- The version is set twice, and one of the two validators once. -/
def higherSettings : List Setting := [.host "2.0", .validator "port" "strict:port", .host "3.0"]

/-- What is merged from them. -/
def lowerRaw : Entries := Entries.ofFields [(Environment.frameworkSection, .map lowerSettings)]

/-- What is merged from them and the settings above. -/
def higherRaw : Entries := Entries.merge lowerRaw (Entries.ofFields
  [(Environment.frameworkSection, .map (setAll {} higherSettings).explicit)])

/-- A plan with one source of settings below the environment. -/
theorem isLower_singleton {settings : Entries} (h : settings.IsMapping) :
    IsLower { sources := [.explicit settings 100] } := by
  refine ⟨rfl, fun source hsource => ?_, fun source hsource => ?_⟩
  · rw [List.mem_singleton.mp hsource]
    exact (by decide : (100 : Int) ≤ 300)
  · rw [List.mem_singleton.mp hsource]
    exact h

/-- A plan whose sources are given in the order of their priorities is built from what they hold. -/
theorem build_of_pairwise (layers : List Entries) {loaded : Loaded}
    (horder : p.allSources.Pairwise fun a b => a.priority ≤ b.priority)
    (hlayers : p.allSources.map (Source.read around) = layers.map .ok)
    (hraw : Loaded.ofRaw (Entries.mergeAll layers) = .ok loaded) :
    (p.build around).outcome = .ok { sources := p.allSources, current := loaded } := by
  refine outcome_build_eq_ok_iff.mpr ⟨rfl, layers, ?_, hraw⟩
  rw [Loaded.inOrder_of_pairwise horder, hlayers]

/-- The version is the last one set, and the validator that is not set is as it is without the
settings. -/
theorem setAll_settled_higher :
    ∃ c lower, ((lowerPlan.setAll higherSettings).build bareSurroundings).outcome = .ok c ∧
      (lowerPlan.build bareSurroundings).outcome = .ok lower ∧
      c.current.settings.host = some "3.0" ∧
      c.current.settings.validators.lookup "port" = some "strict:port" ∧
      c.current.settings.validators.lookup "host" =
        lower.current.settings.validators.lookup "host" := by
  have hbuild : ∃ settings, ((lowerPlan.setAll higherSettings).build bareSurroundings).outcome =
      .ok { sources := (lowerPlan.setAll higherSettings).allSources,
            current := { raw := higherRaw, settings, warnings := [] } } :=
    ⟨_, build_of_pairwise [_, _, _] (by decide +kernel) rfl rfl⟩
  have hlower : ∃ settings, (lowerPlan.build bareSurroundings).outcome =
      .ok { sources := lowerPlan.allSources,
            current := { raw := lowerRaw, settings, warnings := [] } } :=
    ⟨_, build_of_pairwise [_, _] (by decide +kernel) rfl rfl⟩
  obtain ⟨settings, hbuild⟩ := hbuild
  obtain ⟨lowerSettings, hlower⟩ := hlower
  have hplan : lowerPlan.IsLower := isLower_singleton (sets_setAll rfl _).mapping
  obtain ⟨hset, hagrees⟩ := setAll_settled hplan hbuild
  refine ⟨_, _, hbuild, hlower, hset.host "3.0" (by decide), hset.validators "port" _ (by decide) ?_,
    (hagrees _ hlower).validators "host" (by decide) ?_⟩
  · rintro ⟨before, v, after, bytes, w, hsplit, hmem, -⟩
    have htexts : ∀ entry ∈ validatorsOf higherRaw, entry.1 = .str "port" ∨ entry.1 = .str "host" := by
      decide +kernel
    have hbytes : (Value.bytes bytes, w) ∈ validatorsOf higherRaw := by
      rw [hsplit]
      exact List.mem_append_right _ (List.mem_cons_of_mem _ hmem)
    rcases htexts _ hbytes with h | h <;> cases h
  · rintro ⟨entries, hentries⟩
    cases hentries

/-- Settings of a validator, whose name is also spelled as bytes. -/
def respelledSettings : Entries :=
  Fields.put [] (.str "validators") (.map
    (Fields.put (textsUnder [("port", "loose:port")]) (.bytes [112, 111, 114, 116])
      (.str "looser:port")))

/-- A plan with these settings below the environment. -/
def respelledPlan : Plan := { sources := [.explicit respelledSettings 100] }

/-- A name that another source also spells as bytes does not have the path that is set. -/
theorem setAll_loses_respelled :
    respelledPlan.IsLower ∧
    ∃ c, ((respelledPlan.setAll [.validator "port" "strict:port"]).build bareSurroundings).outcome =
        .ok c ∧
      lastPath? [.validator "port" "strict:port"] "port" = some "strict:port" ∧
      c.current.settings.validators.lookup "port" = some "looser:port" := by
  have hsettings : respelledSettings.IsMapping :=
    Entries.IsMapping.nil.put rfl (Value.isProper_map_iff.mpr
      ((isMapping_textsUnder _).put rfl (Value.isProper_of_key rfl)))
  exact ⟨isLower_singleton hsettings, _,
    build_of_pairwise [_, _, _] (by decide +kernel) rfl rfl, by decide, rfl⟩

end Plan

end PluginDescriptor
