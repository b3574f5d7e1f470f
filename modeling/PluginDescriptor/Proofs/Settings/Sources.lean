import PluginDescriptor.Proofs.Outcome
import PluginDescriptor.Proofs.Settings.Layering
import PluginDescriptor.Proofs.Yaml.Document
import PluginDescriptor.Settings.Loaded

/-!
# Settings of several sources

Every source holds a well-formed mapping: a file because of how documents are read, the environment
because its variables are put in one by one, and explicit settings if they are one
(`Source.isMapping_read`). The sources are read in the order of their priorities, and what they hold
is merged in this order; so the merged configuration holds a setting of one source exactly when no
source after it overrides it (`Loaded.layered`).
-/

set_option autoImplicit false

namespace PluginDescriptor

/-! ## The environment -/

namespace Environment

/-- The value of a variable is a text, a list, a truth value or a number. -/
theorem not_isMap_valueOf (name text : String) : ¬ (valueOf name text).IsMap := by
  rintro ⟨entries, h⟩
  unfold valueOf at h
  split at h
  · cases h
  · cases h
  · split at h
    · cases h
    · split at h
      · cases h
      · split at h <;> cases h

/-- Something that holds of the empty mapping, of what is left when a value is put under a text, and of
each mapping inside. -/
structure IsKept (P : Entries → Prop) : Prop where
  nil : P []
  put : ∀ {entries : Entries} (name : String) {v : Value}, P entries →
    (∀ inner, v = .map inner → P inner) → P (Fields.put entries (.str name) v)
  find : ∀ {entries : Entries} {name : String} {inner : Entries}, P entries →
    Fields.find? entries name = some (.map inner) → P inner

theorem isKept_isMapping : IsKept Entries.IsMapping where
  nil := .nil
  put _ _ h hv := h.put rfl hv
  find h hinner := Value.isProper_map_iff.mp (h.get? hinner)

namespace IsKept

variable {P : Entries → Prop} (kept : IsKept P) {entries : Entries} {v : Value}

include kept

theorem putMap (h : P entries) (name : String) {inner : Entries} (hinner : P inner) :
    P (Fields.put entries (.str name) (.map inner)) := by
  apply kept.put name h
  rintro other hother
  cases hother
  exact hinner

theorem putLeaf (h : P entries) (name : String) (hv : ¬ v.IsMap) :
    P (Fields.put entries (.str name) v) :=
  kept.put name h fun inner hinner => (hv ⟨inner, hinner⟩).elim

theorem putBelow (steps : List String) (last : String) (hv : ¬ v.IsMap) (h : P entries) :
    P (putBelow entries steps last v) := by
  induction steps generalizing entries with
  | nil => exact kept.putLeaf h last hv
  | cons step rest ih =>
    rw [Environment.putBelow]
    refine kept.putMap h step (ih ?_)
    split
    · rename_i inner hinner
      exact kept.find h hinner
    · exact kept.nil

/-- A change of the mapping under a key keeps what the change of a mapping keeps. -/
theorem within {key : String} {fault : Value → Fault} {change : Entries → Except Fault Entries}
    {result : Entries} (h : P entries)
    (hchange : ∀ inner changed, P inner → change inner = .ok changed → P changed)
    (hresult : within entries key fault change = .ok result) : P result := by
  have hput : ∀ inner : Entries, P inner →
      (change inner).map (fun changed => Fields.put entries (.str key) (.map changed)) = .ok result →
      P result := by
    intro inner hinner hput
    obtain ⟨changed, hchanged, rfl⟩ := map_eq_ok_iff.mp hput
    exact kept.putMap h key (hchange inner changed hinner hchanged)
  rw [Environment.within] at hresult
  split at hresult
  · exact hput [] kept.nil hresult
  · rename_i inner hinner
    exact hput inner (kept.find h hinner) hresult
  · cases hresult

theorem place {slot : Slot} {result : Entries} (h : P entries) (hv : ¬ v.IsMap)
    (hresult : place entries slot v = .ok result) : P result := by
  cases slot with
  | whole name =>
    cases hresult
    exact kept.putLeaf h name hv
  | field name =>
    refine kept.within h (fun inner changed hinner hchanged => ?_) hresult
    cases hchanged
    exact kept.putLeaf hinner name hv
  | member group name =>
    refine kept.within h (fun inner changed hinner hchanged => ?_) hresult
    refine kept.within hinner (fun members placed hmembers hplaced => ?_) hchanged
    cases hplaced
    exact kept.putLeaf hmembers name hv
  | nested top steps last =>
    refine kept.within h (fun inner changed hinner hchanged => ?_) hresult
    cases hchanged
    exact kept.putBelow steps last hv hinner

/-- What the variables keep one after the other holds of the settings of the environment. -/
theorem read {lead : String} {environment : Environment} {result : Entries}
    (h : read lead environment = .ok result) : P result := by
  refine foldlM_keeps ?_ kept.nil h
  rintro ⟨variable_, text⟩ - entries placed hentries hplaced
  dsimp only at hplaced
  split at hplaced
  · rename_i name _
    exact kept.place hentries (not_isMap_valueOf name text) hplaced
  · cases hplaced
    exact hentries

end IsKept

/-- The settings of the environment are a mapping. -/
theorem isMapping_read {lead : String} {environment : Environment} {result : Entries}
    (h : read lead environment = .ok result) : result.IsMapping :=
  isKept_isMapping.read h

end Environment

/-! ## Sources -/

namespace Source

/-- Explicit settings are a mapping, and so is what a source of another kind finds. -/
def IsMapping : Source → Prop
  | explicit settings _ => settings.IsMapping
  | other _ find _ => ∀ around layer, find around = .ok layer → layer.IsMapping
  | _ => True

theorem isMapping_readFile {files : FileTree} {path : Path} {layer : Entries}
    (h : readFile files path = .ok layer) : layer.IsMapping := by
  obtain ⟨found, -, hrest⟩ := bind_eq_ok_iff.mp h
  split at hrest
  · cases hrest
  · obtain ⟨document, hdocument, hend⟩ := bind_eq_ok_iff.mp hrest
    obtain ⟨text, -, hyaml⟩ := bind_eq_ok_iff.mp (mapError_eq_ok_iff.mp hdocument)
    split at hend
    · cases hend
      exact Value.isProper_map_iff.mp (Value.isProper_ofYaml hyaml)
    · split at hend
      · cases hend
      · cases hend
        exact .nil

/-- What a source holds is a mapping. -/
theorem isMapping_read {around : Surroundings} {source : Source} {layer : Entries}
    (hsource : source.IsMapping) (h : source.read around = .ok layer) : layer.IsMapping := by
  cases source with
  | file path priority => exact isMapping_readFile h
  | environment lead priority => exact Environment.isMapping_read (mapError_eq_ok_iff.mp h)
  | explicit settings priority =>
    cases h
    split
    · exact .nil
    · have hput : Entries.IsMapping
          (Fields.put [] (.str Environment.frameworkSection) (.map settings)) :=
        .put .nil rfl (Value.isProper_map_iff.mpr hsource)
      exact hput
  | other kind find priority => exact hsource around layer h

end Source

namespace Loaded

/-! ## The order of sources -/

theorem priority_trans (a b c : Source) (hab : decide (a.priority ≤ b.priority) = true)
    (hbc : decide (b.priority ≤ c.priority) = true) : decide (a.priority ≤ c.priority) = true :=
  decide_eq_true (Int.le_trans (of_decide_eq_true hab) (of_decide_eq_true hbc))

theorem priority_total (a b : Source) :
    (decide (a.priority ≤ b.priority) || decide (b.priority ≤ a.priority)) = true := by
  simpa using Int.le_total a.priority b.priority

theorem pairwise_inOrder (sources : List Source) :
    (inOrder sources).Pairwise fun a b => a.priority ≤ b.priority :=
  (List.pairwise_mergeSort priority_trans priority_total sources).imp of_decide_eq_true

/-- Sources of one priority are read in the order in which they are given. -/
theorem filter_inOrder (sources : List Source) (p : Int) :
    (inOrder sources).filter (·.priority = p) = sources.filter (·.priority = p) := by
  have hequal : ∀ source ∈ sources.filter (·.priority = p), source.priority = p := fun source h =>
    of_decide_eq_true (List.mem_filter.mp h).2
  have hsorted : (sources.filter (·.priority = p)).Pairwise fun a b =>
      decide (a.priority ≤ b.priority) = true :=
    List.pairwise_of_forall_mem_list fun a ha b hb =>
      decide_eq_true (le_of_eq ((hequal a ha).trans (hequal b hb).symm))
  -- they are in order as they are given, so sorting leaves them in this order
  have hkept : (sources.filter (·.priority = p)).Sublist (inOrder sources) :=
    List.sublist_mergeSort priority_trans priority_total hsorted List.filter_sublist
  have hagain := hkept.filter (·.priority = p)
  rw [List.filter_filter] at hagain
  simp only [Bool.and_self] at hagain
  exact (hagain.eq_of_length ((List.mergeSort_perm sources _).filter _).length_eq.symm).symm

theorem mem_of_filter {as bs : List Source}
    (h : ∀ p, as.filter (·.priority = p) = bs.filter (·.priority = p)) {source : Source}
    (hsource : source ∈ as) : source ∈ bs := by
  have hmem : source ∈ as.filter (·.priority = source.priority) :=
    List.mem_filter.mpr ⟨hsource, decide_eq_true rfl⟩
  rw [h] at hmem
  exact (List.mem_filter.mp hmem).1

/-- Sources in the order of their priorities are determined by those of each priority. -/
theorem eq_of_pairwise_of_filter {as bs : List Source}
    (has : as.Pairwise fun a b => a.priority ≤ b.priority)
    (hbs : bs.Pairwise fun a b => a.priority ≤ b.priority)
    (h : ∀ p, as.filter (·.priority = p) = bs.filter (·.priority = p)) : as = bs := by
  induction as generalizing bs with
  | nil =>
    have hnone : ∀ b, b ∉ bs := fun b hb =>
      List.not_mem_nil (mem_of_filter (fun p => (h p).symm) hb)
    exact (List.eq_nil_iff_forall_not_mem.mpr hnone).symm
  | cons a as ih =>
    obtain ⟨hahead, hasRest⟩ := List.pairwise_cons.mp has
    cases bs with
    | nil => exact (List.not_mem_nil (mem_of_filter h List.mem_cons_self)).elim
    | cons b bs =>
      obtain ⟨hbehind, hbsRest⟩ := List.pairwise_cons.mp hbs
      -- both begin with the least priority, and so with the first source of it
      have hle : a.priority ≤ b.priority := by
        rcases List.mem_cons.mp (mem_of_filter (fun p => (h p).symm) List.mem_cons_self) with rfl | hb
        · exact Int.le_refl _
        · exact hahead b hb
      have hge : b.priority ≤ a.priority := by
        rcases List.mem_cons.mp (mem_of_filter h List.mem_cons_self) with rfl | ha
        · exact Int.le_refl _
        · exact hbehind a ha
      have hpriority : b.priority = a.priority := Int.le_antisymm hge hle
      have hfirst := h a.priority
      simp only [List.filter_cons, hpriority, decide_true, if_true, List.cons.injEq] at hfirst
      obtain ⟨rfl, -⟩ := hfirst
      refine congrArg (a :: ·) (ih hasRest hbsRest fun p => ?_)
      have hp := h p
      simp only [List.filter_cons] at hp
      split at hp
      · exact (List.cons.inj hp).2
      · exact hp

/-- Sources that are given in the order of their priorities are read in this order. -/
theorem inOrder_of_pairwise {sources : List Source}
    (h : sources.Pairwise fun a b => a.priority ≤ b.priority) : inOrder sources = sources :=
  List.mergeSort_of_pairwise (h.imp decide_eq_true)

/-- A source that no other one is above is read last. -/
theorem inOrder_concat {sources : List Source} {top : Source}
    (h : ∀ source ∈ sources, source.priority ≤ top.priority) :
    inOrder (sources ++ [top]) = inOrder sources ++ [top] := by
  refine eq_of_pairwise_of_filter (pairwise_inOrder _) ?_ fun p => ?_
  · refine List.pairwise_append.mpr ⟨pairwise_inOrder sources, List.pairwise_singleton _ top, ?_⟩
    intro source hsource other hother
    rw [List.mem_singleton.mp hother]
    exact h source (List.mem_mergeSort.mp hsource)
  · rw [filter_inOrder, List.filter_append, List.filter_append, filter_inOrder]

theorem outcome_noteFailure {α : Type} (what : String) (outcome : Except Failure α) :
    (noteFailure what outcome).outcome = outcome := by
  cases outcome <;> rfl

/-- Reading sources gives what each of them holds, or the failure of the first at fault. -/
theorem outcome_readAll (around : Surroundings) (sources : List Source) :
    (readAll around sources).outcome = sources.mapM (Source.read around) := by
  induction sources with
  | nil => rfl
  | cons source rest ih =>
    simp only [readAll, Logged.outcome_bind, Logged.outcome_pure, outcome_noteFailure,
      List.mapM_cons, ih]
    rfl

theorem outcome_noteWarnings (messages : List String) :
    (noteWarnings messages).outcome = .ok () := by
  induction messages with
  | nil => rfl
  | cons message rest ih =>
    rw [noteWarnings, Logged.outcome_bind, Logged.outcome_note]
    exact ih

/-- Sources that all hold something are merged and checked. -/
theorem outcome_ofSources {around : Surroundings} {sources : List Source} {layers : List Entries}
    (h : (inOrder sources).map (Source.read around) = layers.map .ok) :
    (ofSources around sources).outcome = ofRaw (Entries.mergeAll layers) := by
  have hread : (readAll around (inOrder sources)).outcome = .ok layers :=
    (outcome_readAll around (inOrder sources)).trans ((mapM_eq_ok_iff _ _).mpr h)
  simp only [ofSources, Logged.outcome_bind, Logged.outcome_pure, hread, outcome_noteFailure,
    outcome_noteWarnings]
  exact bind_pure (ofRaw (Entries.mergeAll layers))

/-- Merged settings pass the check when they mean something for the framework, and the sections that
nobody knows can be written out in warnings. -/
theorem validate_eq_ok_iff {raw : Entries} {warnings : List String} :
    validate raw = .ok warnings ↔ (∃ settings, settingsOf raw = .ok settings) ∧
      Value.areWritable (unknownSections raw) = true ∧ warnings = unknownWarnings raw := by
  rw [validate]
  split
  · rename_i fault hfault
    simp [hfault]
  · split
    · rename_i hwritable
      rw [map_eq_ok_iff]
      simp [hwritable, eq_comm]
    · rename_i hwritable
      simp [hwritable]

/-- What the section of the framework means when it is checked, it means again when the settings are
built from it. -/
theorem given_of_settingsOf {raw : Entries} {settings : Settings}
    (h : settingsOf raw = .ok settings) : given raw = .ok settings := by
  unfold settingsOf at h
  unfold given
  split at h
  · rename_i entries hsection
    rw [hsection]
    split at h
    · cases h
    · exact h
  · cases h

/-- Settings are built from merged settings that pass the check. -/
theorem ofRaw_eq_ok_iff {raw : Entries} {loaded : Loaded} :
    ofRaw raw = .ok loaded ↔ settingsOf raw = .ok loaded.settings ∧
      Value.areWritable (unknownSections raw) = true ∧ loaded.raw = raw ∧
      loaded.warnings = unknownWarnings raw := by
  rw [ofRaw, bind_eq_ok_iff]
  constructor
  · rintro ⟨warnings, hvalidate, hrest⟩
    obtain ⟨settings, hgiven, hend⟩ := bind_eq_ok_iff.mp hrest
    obtain ⟨⟨checked, hchecked⟩, hwritable, rfl⟩ := validate_eq_ok_iff.mp hvalidate
    cases hend
    cases hgiven.symm.trans (given_of_settingsOf hchecked)
    exact ⟨hchecked, hwritable, rfl, rfl⟩
  · cases loaded with
    | mk loadedRaw settings warnings =>
      intro h
      obtain ⟨hsettings, hwritable, hraw, hwarnings⟩ := h
      dsimp only at hsettings hraw hwarnings
      subst hraw hwarnings
      refine ⟨_, validate_eq_ok_iff.mpr ⟨⟨settings, hsettings⟩, hwritable, rfl⟩, ?_⟩
      exact bind_eq_ok_iff.mpr ⟨settings, given_of_settingsOf hsettings, rfl⟩

theorem raw_ofRaw {raw : Entries} {loaded : Loaded} (h : ofRaw raw = .ok loaded) :
    loaded.raw = raw :=
  (ofRaw_eq_ok_iff.mp h).2.2.1

/-- What is made of sources is made of what each of them holds. -/
theorem outcome_ofSources_eq_ok_iff {around : Surroundings} {sources : List Source}
    {loaded : Loaded} : (ofSources around sources).outcome = .ok loaded ↔
      ∃ layers, (inOrder sources).map (Source.read around) = layers.map .ok ∧
        ofRaw (Entries.mergeAll layers) = .ok loaded := by
  constructor
  · intro h
    have hfirst := h
    rw [ofSources, Logged.outcome_bind, outcome_readAll] at hfirst
    obtain ⟨layers, hread, -⟩ := bind_eq_ok_iff.mp hfirst
    have hlayers := (mapM_eq_ok_iff _ _).mp hread
    exact ⟨layers, hlayers, (outcome_ofSources hlayers).symm.trans h⟩
  · rintro ⟨layers, hlayers, hraw⟩
    exact (outcome_ofSources hlayers).trans hraw

/-- What sources hold are mappings. -/
theorem isMapping_of_read {around : Surroundings} {sources : List Source} {layers : List Entries}
    (hsources : ∀ source ∈ sources, source.IsMapping)
    (h : (inOrder sources).map (Source.read around) = layers.map .ok) :
    ∀ layer ∈ layers, layer.IsMapping := by
  intro layer hlayer
  have hmem : Except.ok layer ∈ (inOrder sources).map (Source.read around) :=
    h ▸ List.mem_map_of_mem hlayer
  obtain ⟨source, hsource, hread⟩ := List.mem_map.mp hmem
  exact Source.isMapping_read (hsources source (List.mem_mergeSort.mp hsource)) hread

/-- Sources are read by priority, and of equal priority as they are given. What they hold are
mappings, which are merged in this order and checked. However many mappings are merged, the result
holds a setting exactly when one of them holds it and none that is laid over this one overrides its
path. -/
theorem layered {around : Surroundings} {sources : List Source}
    (hsources : ∀ source ∈ sources, source.IsMapping) :
    ((inOrder sources).Pairwise (fun a b => a.priority ≤ b.priority) ∧
      ∀ p, (inOrder sources).filter (·.priority = p) = sources.filter (·.priority = p)) ∧
    (∀ layers, (inOrder sources).map (Source.read around) = layers.map .ok →
      (∀ layer ∈ layers, layer.IsMapping) ∧
      (ofSources around sources).outcome = ofRaw (Entries.mergeAll layers) ∧
      ∀ loaded, (ofSources around sources).outcome = .ok loaded →
        loaded.raw = Entries.mergeAll layers) ∧
    ∀ layers : List Entries, (∀ layer ∈ layers, layer.IsMapping) → ∀ path v, ¬ v.IsMap →
      ((Entries.mergeAll layers).HoldsAt path v ↔
        ∃ below layer above, layers = below ++ layer :: above ∧ layer.HoldsAt path v ∧
          ∀ later ∈ above, ¬ later.Overrides path) := by
  refine ⟨⟨pairwise_inOrder sources, filter_inOrder sources⟩, fun layers hlayers => ?_,
    fun layers hlayers path v hv => Entries.holdsAt_mergeAll hlayers hv⟩
  have houtcome := outcome_ofSources hlayers
  refine ⟨isMapping_of_read hsources hlayers, houtcome, fun loaded hloaded => ?_⟩
  exact raw_ofRaw (houtcome ▸ hloaded)

/-- The environment sets the version of the platform. -/
def versionedSurroundings : Surroundings :=
  { files := default, environment := [("POLARIS_DDL_FRAMEWORK_PLATFORM_VERSION", "2.0")] }

/-- Explicit settings of a version and a namespace. -/
def lowerSettings : Entries :=
  Entries.ofFields [("platform_version", .str "1.0"), ("descriptor_namespace", .str "acme")]

/-- The environment, and explicit settings of a lower priority that are given after it. -/
def stackedSources : List Source := [Source.usualEnvironment, .explicit lowerSettings 100]

/-- What the explicit settings hold. -/
def lowerLayer : Entries :=
  Entries.ofFields [(Environment.frameworkSection, .map lowerSettings)]

/-- What the environment holds. -/
def upperLayer : Entries :=
  Entries.ofFields [(Environment.frameworkSection,
    .map (Entries.ofFields [("platform_version", .str "2.0")]))]

theorem read_versionedSurroundings :
    Source.usualEnvironment.read versionedSurroundings = .ok upperLayer := by
  have hname : Environment.nameAfter? Environment.usualLead
      "POLARIS_DDL_FRAMEWORK_PLATFORM_VERSION" = some "framework_platform_version" := by
    decide +kernel
  have hslot : Environment.Slot.ofName "framework_platform_version" =
      .field "platform_version" := by
    decide +kernel
  have hfield : Environment.frameworkField? "framework_platform_version" =
      some "platform_version" := by
    decide +kernel
  have hvalue : Environment.valueOf "framework_platform_version" "2.0" = .str "2.0" := by
    simp [Environment.valueOf, hfield]
  simp only [Source.usualEnvironment, Source.read, versionedSurroundings, Environment.read,
    List.foldlM_cons, List.foldlM_nil, hname, hslot, hvalue]
  rfl

/-- The version counts as in the environment; the namespace, which it does not set, is kept. -/
theorem layered_stacked :
    (∀ source ∈ stackedSources, source.IsMapping) ∧
    (inOrder stackedSources).map (Source.read versionedSurroundings) =
      [lowerLayer, upperLayer].map .ok ∧
    (Entries.mergeAll [lowerLayer, upperLayer]).HoldsAt
      [.str "framework", .str "platform_version"] (.str "2.0") ∧
    (Entries.mergeAll [lowerLayer, upperLayer]).HoldsAt
      [.str "framework", .str "descriptor_namespace"] (.str "acme") := by
  have hscalar : ∀ text : String, ¬ (Value.str text).IsMap := by
    rintro text ⟨entries, hentries⟩
    cases hentries
  have hsettings : lowerSettings.IsMapping := by
    constructor
    · simp [lowerSettings, Entries.ofFields, Fields.Keyed, Value.changeable?]
    · simp [lowerSettings, Entries.ofFields, Fields.Apart, Value.same, Value.sameWith]
    · simp [lowerSettings, Entries.ofFields]
  have hsources : ∀ source ∈ stackedSources, source.IsMapping := by
    intro source hsource
    rcases List.mem_cons.mp hsource with rfl | hsource
    · trivial
    · rw [List.mem_singleton.mp hsource]
      exact hsettings
  have horder : inOrder stackedSources = stackedSources.reverse := by
    simp [inOrder, stackedSources, List.mergeSort, Source.priority, Source.usualEnvironment,
      Source.environmentPriority]
  have hlayers : (inOrder stackedSources).map (Source.read versionedSurroundings) =
      [lowerLayer, upperLayer].map .ok := by
    rw [horder]
    exact congrArg₂ (fun a b => [a, b]) rfl read_versionedSurroundings
  obtain ⟨-, hread, hholds⟩ := @layered versionedSurroundings stackedSources hsources
  have hmapping := (hread _ hlayers).1
  refine ⟨hsources, hlayers, ?_, ?_⟩
  · refine (hholds _ hmapping _ _ (hscalar "2.0")).mpr ⟨[lowerLayer], upperLayer, [], rfl, rfl, ?_⟩
    exact List.forall_mem_nil _
  · refine (hholds _ hmapping _ _ (hscalar "acme")).mpr ⟨[], lowerLayer, [upperLayer], rfl, rfl, ?_⟩
    intro later hlater hover
    rw [List.mem_singleton.mp hlater, Entries.overrides_cons_iff] at hover
    obtain ⟨framework, hframework, hinner⟩ := hover
    cases hframework
    obtain ⟨_, hnothing, -⟩ := Entries.overrides_cons_iff.mp (hinner _ rfl)
    cases hnothing

end Loaded

end PluginDescriptor
