import PluginDescriptor.Proofs.Settings.Enumeration
import PluginDescriptor.Proofs.Text.Split

/-!
# Where the variables of the environment land

The name of a variable says where its value belongs (`Environment.LeadsTo`), and every name leads to
one place (`Environment.leadsTo_iff`). If no place that a variable leads to is, or lies below, the
place of another one, then reading the environment gives the values of the variables at their places
and nothing else (`Source.read_lands`).
-/

set_option autoImplicit false

namespace PluginDescriptor

namespace Environment

/-! ## The places of names -/

/-- Where a name leads. Its section is what is before the first underscore; a name without an
underscore, or with nothing behind it, leads to the section as a whole. In the framework's section, the
names of its settings are taken as they are, and so is what follows the name of a group of settings.
Elsewhere there is one step for each of the parts between underscores. -/
inductive LeadsTo : String → List String → Prop where
  | whole {top : String} (htop : '_' ∉ top.toList) : LeadsTo top [top]
  | wholeOpen {top : String} (htop : '_' ∉ top.toList) : LeadsTo (top ++ "_") [top]
  | field {name : String} (hname : name ∈ frameworkFields) :
      LeadsTo (frameworkSection ++ "_" ++ name) [frameworkSection, name]
  | member {group : String} (hgroup : group ∈ frameworkGroups) (name : String) :
      LeadsTo (frameworkSection ++ "_" ++ (group ++ "_" ++ name)) [frameworkSection, group, name]
  | nested {top : String} {parts : List String} (htop : '_' ∉ top.toList)
      (hparts : ∀ part ∈ parts, '_' ∉ part.toList) (hrest : Text.join "_" parts ≠ "")
      (hother : top = frameworkSection → Text.join "_" parts ∉ frameworkFields ∧
        ∀ group ∈ frameworkGroups, ∀ name, Text.join "_" parts ≠ group ++ "_" ++ name) :
      LeadsTo (top ++ "_" ++ Text.join "_" parts) (top :: parts)

namespace Slot

variable {top rest : String}

theorem toList_append_sep (top rest : String) :
    (top ++ "_" ++ rest).toList = top.toList ++ '_' :: rest.toList := by
  simp

/-- A name without an underscore. -/
theorem ofName_whole (htop : '_' ∉ top.toList) : ofName top = .whole top := by
  rw [ofName, Text.cutAt_of_not_mem htop]
  simp

/-- A name whose only underscore ends it. -/
theorem ofName_wholeOpen (htop : '_' ∉ top.toList) : ofName (top ++ "_") = .whole top := by
  have hname : (top ++ "_").toList = top.toList ++ '_' :: [] := by simp
  rw [ofName, hname, Text.cutAt_append htop]
  simp

/-- A name that goes on behind its first underscore. -/
theorem ofName_append (htop : '_' ∉ top.toList) (hrest : rest ≠ "") :
    ofName (top ++ "_" ++ rest) =
      if top = frameworkSection then
        if frameworkFields.contains rest then .field rest
        else (memberOf? rest).elim (below top rest) fun (group, name) => .member group name
      else below top rest := by
  rw [ofName, toList_append_sep, Text.cutAt_append htop]
  cases hlist : rest.toList with
  | nil => exact (hrest (String.toList_eq_nil_iff.mp hlist)).elim
  | cons c cs =>
    have hgiven : String.ofList (c :: cs) = rest := by rw [← hlist, String.ofList_toList]
    dsimp only
    rw [hgiven, String.ofList_toList]
    cases memberOf? rest <;> rfl

theorem memberOf?_eq_some_iff {group name : String} :
    memberOf? rest = some (group, name) ↔
      group ∈ frameworkGroups ∧ rest = group ++ "_" ++ name := by
  have hlead : ∀ group name, Text.dropLead? (group.toList ++ ['_']) rest.toList = some name ↔
      rest = group ++ "_" ++ String.ofList name := by
    intro group name
    rw [Text.dropLead?_eq_some_iff, ← String.toList_inj]
    simp
  constructor
  · intro h
    obtain ⟨other, hgroup, hmember⟩ := List.exists_of_findSome?_eq_some h
    obtain ⟨letters, hletters, hend⟩ := Option.map_eq_some_iff.mp hmember
    cases hend
    exact ⟨hgroup, (hlead _ _).mp hletters⟩
  · rintro ⟨hgroup, hrest⟩
    have hfound := (hlead group name.toList).mpr (by rw [String.ofList_toList]; exact hrest)
    simp only [frameworkGroups, List.mem_cons, List.not_mem_nil, or_false] at hgroup
    rcases hgroup with rfl | rfl
    · rw [memberOf?, frameworkGroups, List.findSome?_cons, hfound, Option.map_some,
        String.ofList_toList]
    · have hother : Text.dropLead? ("logging_config".toList ++ ['_']) rest.toList = none := by
        rw [hrest, toList_append_sep]
        rfl
      rw [memberOf?, frameworkGroups, List.findSome?_cons, hother, Option.map_none,
        List.findSome?_cons, hfound, Option.map_some, String.ofList_toList]

/-- Below a section there is a step for each part of the rest of a name. -/
theorem path_below (top rest : String) :
    (below top rest).path = top :: (Text.splitAt '_' rest.toList).map String.ofList := by
  have hne : (Text.splitAt '_' rest.toList).map String.ofList ≠ [] := by
    rw [ne_eq, List.map_eq_nil_iff]
    exact Text.splitAt_ne_nil _ _
  rw [below, path, List.getLast?_eq_some_getLast hne, Option.getD_some, List.cons_append,
    List.dropLast_concat_getLast]

/-- The name of a setting in a group is not that of a setting of the framework. -/
theorem not_mem_frameworkFields {group : String} (hgroup : group ∈ frameworkGroups) (name : String) :
    group ++ "_" ++ name ∉ frameworkFields := by
  have hfields : ∀ field ∈ frameworkFields, memberOf? field = none := by decide
  intro hfield
  have hmember : memberOf? (group ++ "_" ++ name) = some (group, name) :=
    memberOf?_eq_some_iff.mpr ⟨hgroup, rfl⟩
  rw [hfields _ hfield] at hmember
  cases hmember

theorem ofName_field {name : String} (hname : name ∈ frameworkFields) :
    ofName (frameworkSection ++ "_" ++ name) = .field name := by
  have hne : name ≠ "" := by
    rintro rfl
    revert hname
    decide
  rw [ofName_append (by decide) hne, if_pos rfl, if_pos (List.contains_iff_mem.mpr hname)]

theorem ofName_member {group : String} (hgroup : group ∈ frameworkGroups) (name : String) :
    ofName (frameworkSection ++ "_" ++ (group ++ "_" ++ name)) = .member group name := by
  have hne : group ++ "_" ++ name ≠ "" := by simp
  have hfield := not_mem_frameworkFields hgroup name
  have hmember : memberOf? (group ++ "_" ++ name) = some (group, name) :=
    memberOf?_eq_some_iff.mpr ⟨hgroup, rfl⟩
  rw [ofName_append (by decide) hne, if_pos rfl,
    if_neg fun h => hfield (List.contains_iff_mem.mp h), hmember, Option.elim_some]

theorem ofName_below (htop : '_' ∉ top.toList) (hrest : rest ≠ "")
    (hother : top = frameworkSection → rest ∉ frameworkFields ∧
      ∀ group ∈ frameworkGroups, ∀ name, rest ≠ group ++ "_" ++ name) :
    ofName (top ++ "_" ++ rest) = below top rest := by
  rw [ofName_append htop hrest]
  by_cases hsection : top = frameworkSection
  · obtain ⟨hfield, hgroups⟩ := hother hsection
    have hmember : memberOf? rest = none := by
      rw [Option.eq_none_iff_forall_ne_some]
      rintro ⟨group, name⟩ hmember
      obtain ⟨hgroup, hname⟩ := memberOf?_eq_some_iff.mp hmember
      exact hgroups group hgroup name hname
    rw [if_pos hsection, if_neg fun h => hfield (List.contains_iff_mem.mp h), hmember,
      Option.elim_none]
  · rw [if_neg hsection]

end Slot

/-- Parts without underscores are what is between the underscores that join them. -/
theorem splitAt_join {parts : List String} (hparts : ∀ part ∈ parts, '_' ∉ part.toList)
    (hne : parts ≠ []) :
    (Text.splitAt '_' (Text.join "_" parts).toList).map String.ofList = parts := by
  have hpieces : ∀ piece ∈ parts.map String.toList, '_' ∉ piece := by
    simpa using hparts
  have hsplit := Text.splitAt_intercalate hpieces fun hnil => hne (List.map_eq_nil_iff.mp hnil)
  have hlist : (Text.join "_" parts).toList = ['_'].intercalate (parts.map String.toList) :=
    String.toList_intercalate
  rw [hlist, hsplit]
  simp [Function.comp_def]

/-- Every name leads somewhere. -/
theorem exists_leadsTo (name : String) : ∃ path, LeadsTo name path := by
  rcases Text.cutAt_cases '_' name.toList with ⟨hwhole, -⟩ | ⟨before, rest, htop, hname, -⟩
  · exact ⟨_, .whole hwhole⟩
  · obtain ⟨top, rfl⟩ : ∃ top : String, top.toList = before := ⟨.ofList before, by simp⟩
    obtain ⟨last, rfl⟩ : ∃ last : String, last.toList = rest := ⟨.ofList rest, by simp⟩
    obtain rfl : name = top ++ "_" ++ last := by
      rw [← String.toList_inj, hname, Slot.toList_append_sep]
    by_cases hlast : last = ""
    · rw [hlast, String.append_empty]
      exact ⟨_, .wholeOpen htop⟩
    by_cases hfield : top = frameworkSection ∧ last ∈ frameworkFields
    · obtain ⟨rfl, hmem⟩ := hfield
      exact ⟨_, .field hmem⟩
    by_cases hmember : top = frameworkSection ∧
        ∃ group ∈ frameworkGroups, ∃ member, last = group ++ "_" ++ member
    · obtain ⟨rfl, group, hgroup, member, rfl⟩ := hmember
      exact ⟨_, .member hgroup member⟩
    -- nothing is left but to go step by step, from one underscore to the next
    have hjoin : Text.join "_" ((Text.splitAt '_' last.toList).map String.ofList) = last :=
      Text.join_splitAt rfl last
    have hparts : ∀ part ∈ (Text.splitAt '_' last.toList).map String.ofList,
        '_' ∉ part.toList := by
      intro part hpart
      obtain ⟨piece, hpiece, rfl⟩ := List.mem_map.mp hpart
      rw [String.toList_ofList]
      exact Text.not_mem_of_mem_splitAt hpiece
    rw [← hjoin] at hlast hfield hmember ⊢
    refine ⟨_, .nested htop hparts hlast fun hsection => ⟨fun hmem => hfield ⟨hsection, hmem⟩, ?_⟩⟩
    exact fun group hgroup member heq => hmember ⟨hsection, group, hgroup, member, heq⟩

/-- Where a name leads is the path of its slot. -/
theorem LeadsTo.path_ofName {name : String} {path : List String} (h : LeadsTo name path) :
    (Slot.ofName name).path = path := by
  cases h with
  | whole htop => rw [Slot.ofName_whole htop, Slot.path]
  | wholeOpen htop => rw [Slot.ofName_wholeOpen htop, Slot.path]
  | field hname => rw [Slot.ofName_field hname, Slot.path]
  | member hgroup name => rw [Slot.ofName_member hgroup, Slot.path]
  | nested htop hparts hrest hother =>
    rw [Slot.ofName_below htop hrest hother, Slot.path_below, splitAt_join hparts]
    rintro rfl
    exact hrest rfl

/-- Every name leads to one place. -/
theorem leadsTo_iff (name : String) (path : List String) :
    LeadsTo name path ↔ (Slot.ofName name).path = path := by
  constructor
  · exact LeadsTo.path_ofName
  · rintro rfl
    obtain ⟨path, hpath⟩ := exists_leadsTo name
    rwa [hpath.path_ofName]

/-! ## Variables and their places -/

variable {lead : String} {environment : Environment}

/-- A variable gives a value its place: its name is the lead, in upper case, and what follows, in lower
case, leads to the place. -/
def Gives (lead : String) (x : String × String) (path : List String) (v : Value) : Prop :=
  ∃ suffix, x.1 = Text.upper lead ++ suffix ∧ LeadsTo (Text.lower suffix) path ∧
    v = valueOf (Text.lower suffix) x.2

/-- No place that a variable leads to is, or lies below, the place of another one. -/
def PlacesApart (lead : String) (environment : Environment) : Prop :=
  environment.Pairwise fun x y => ∀ path v other w, Gives lead x path v → Gives lead y other w →
    ¬ Overlap path other

theorem nameAfter?_eq_some_iff {variable_ name : String} :
    nameAfter? lead variable_ = some name ↔
      ∃ suffix, variable_ = Text.upper lead ++ suffix ∧ name = Text.lower suffix := by
  rw [nameAfter?, Option.map_eq_some_iff]
  constructor
  · rintro ⟨rest, hrest, rfl⟩
    refine ⟨String.ofList rest, ?_, rfl⟩
    rw [← String.toList_inj, Text.dropLead?_eq_some_iff.mp hrest]
    simp
  · rintro ⟨suffix, rfl, rfl⟩
    refine ⟨suffix.toList, Text.dropLead?_eq_some_iff.mpr (by simp), ?_⟩
    rw [String.ofList_toList]

/-- The place that a variable gives a value is that of its slot. -/
theorem gives_iff {x : String × String} {path : List String} {v : Value} :
    Gives lead x path v ↔ ∃ slot, settingOf? lead x = some (slot, v) ∧ slot.path = path := by
  simp only [settingOf?, Option.map_eq_some_iff, nameAfter?_eq_some_iff, Gives, leadsTo_iff,
    Prod.mk.injEq]
  constructor
  · rintro ⟨suffix, hname, hpath, rfl⟩
    exact ⟨_, ⟨_, ⟨suffix, hname, rfl⟩, rfl, rfl⟩, hpath⟩
  · rintro ⟨_, ⟨_, ⟨suffix, hname, rfl⟩, rfl, rfl⟩, hpath⟩
    exact ⟨suffix, hname, hpath, rfl⟩

theorem overlapping_iff {x y : String × String} :
    Overlapping lead x y ↔
      ∃ path v other w, Gives lead x path v ∧ Gives lead y other w ∧ Overlap path other := by
  simp only [gives_iff]
  constructor
  · rintro ⟨slot, hslot, slot', hslot', hoverlap⟩
    obtain ⟨v, hv⟩ := slotOf?_eq_some_iff.mp hslot
    obtain ⟨w, hw⟩ := slotOf?_eq_some_iff.mp hslot'
    exact ⟨_, v, _, w, ⟨slot, hv, rfl⟩, ⟨slot', hw, rfl⟩, hoverlap⟩
  · rintro ⟨_, v, _, w, ⟨slot, hv, rfl⟩, ⟨slot', hw, rfl⟩, hoverlap⟩
    exact ⟨slot, slotOf?_eq_some_iff.mpr ⟨v, hv⟩, slot', slotOf?_eq_some_iff.mpr ⟨w, hw⟩, hoverlap⟩

/-- Places are apart when no two variables overlap. -/
theorem placesApart_iff :
    PlacesApart lead environment ↔ environment.Pairwise fun x y => ¬ Overlapping lead x y := by
  constructor
  · refine List.Pairwise.imp fun hapart hoverlapping => ?_
    obtain ⟨path, v, other, w, hx, hy, hoverlap⟩ := overlapping_iff.mp hoverlapping
    exact hapart path v other w hx hy hoverlap
  · refine List.Pairwise.imp fun hnot path v other w hx hy hoverlap => ?_
    exact hnot (overlapping_iff.mpr ⟨path, v, other, w, hx, hy, hoverlap⟩)

namespace PlacesApart

/-- Places that are apart are open: no variable goes through the place of another one. -/
theorem isOpen (h : PlacesApart lead environment) : IsOpen lead environment :=
  (placesApart_iff.mp h).imp fun hapart hblocks => hapart hblocks.overlapping

/-- Of variables whose places are apart, a path overlaps with that of one at most. -/
theorem eq_of_overlap (h : PlacesApart lead environment) {x y : String × String}
    (hx : x ∈ environment) (hy : y ∈ environment) {path other : List String} {v w : Value}
    (hpath : Gives lead x path v) (hother : Gives lead y other w) (hoverlap : Overlap path other) :
    x = y := by
  have hpair := placesApart_iff.mp h
  have hall := List.Pairwise.forall_of_forall_of_flip
    (R := fun x y => x = y ∨ ¬ Overlapping lead x y) (fun _ _ => .inl rfl)
    (hpair.imp .inr) (hpair.imp fun hnot => .inr fun hover => hnot hover.symm)
  refine (hall hx hy).resolve_right fun hnot => hnot ?_
  exact overlapping_iff.mpr ⟨path, v, other, w, hpath, hother, hoverlap⟩

end PlacesApart

/-- A variable gives one value one place. -/
theorem Gives.unique {x : String × String} {path other : List String} {v w : Value}
    (h : Gives lead x path v) (hother : Gives lead x other w) : path = other ∧ v = w := by
  obtain ⟨slot, hslot, rfl⟩ := gives_iff.mp h
  obtain ⟨slot', hslot', rfl⟩ := gives_iff.mp hother
  rw [hslot] at hslot'
  cases hslot'
  exact ⟨rfl, rfl⟩

theorem touches_iff {q : List String} {x : String × String} :
    Touches lead q x ↔ ∃ path v, Gives lead x path v ∧ Overlap path q := by
  simp only [gives_iff]
  constructor
  · rintro ⟨slot, v, hslot, hoverlap⟩
    exact ⟨_, v, ⟨slot, hslot, rfl⟩, hoverlap⟩
  · rintro ⟨_, v, ⟨slot, hslot, rfl⟩, hoverlap⟩
    exact ⟨slot, v, hslot, hoverlap⟩

/-- What the variables settle at a path: nothing, if no path overlaps with it, or else what one of
those does whose paths overlap with it. -/
theorem foldl_settled_cases (lead : String) (environment : Environment) (q : List String)
    (before : Option Found) :
    (∀ x ∈ environment, ¬ Touches lead q x) ∧ environment.foldl (settled lead q) before = before ∨
      ∃ x ∈ environment, ∃ path v, Gives lead x path v ∧ Overlap path q ∧
        environment.foldl (settled lead q) before = overwritten path v q none := by
  rcases forall_not_or_exists_last (Touches lead q) environment with
    hnone | ⟨earlier, x, later, rfl, hx, hlater⟩
  · exact .inl ⟨hnone, foldl_settled_of_not_touches hnone before⟩
  · rw [foldl_settled_of_last hx hlater]
    obtain ⟨slot, v, hslot, hoverlap⟩ := hx
    rw [settled_of_settingOf? hslot]
    exact .inr ⟨x, List.mem_append_cons_self, _, v, gives_iff.mpr ⟨slot, hslot, rfl⟩, hoverlap, rfl⟩

end Environment

/-! ## What is read -/

theorem overwritten_eq_leaf_iff {path q : List String} {v w : Value} :
    overwritten path v q none = some (.leaf w) ↔ path = q ∧ v = w := by
  constructor
  · intro h
    obtain rfl := eq_of_overwritten_eq_leaf h
    rw [overwritten, if_pos List.prefix_rfl, if_pos rfl, Option.some.injEq, Found.leaf.injEq] at h
    exact ⟨rfl, h⟩
  · rintro ⟨rfl, rfl⟩
    rw [overwritten, if_pos List.prefix_rfl, if_pos rfl]

/-- A mapping is found where the path goes on. -/
theorem overwritten_eq_mapping_iff {path q : List String} {v : Value} :
    overwritten path v q none = some .mapping ↔ q <+: path ∧ ¬ path <+: q := by
  unfold overwritten
  by_cases hbelow : path <+: q
  · rw [if_pos hbelow]
    split <;> simp [hbelow]
  · rw [if_neg hbelow]
    split
    · rename_i habove
      simp [habove, hbelow]
    · rename_i habove
      simp [habove]

/-- Mappings in mappings that hold certain values at certain paths and nothing else. All keys are
texts; a value that is no mapping is found at just these paths, and a mapping is found where one of
them goes on. -/
structure Entries.HoldsOnly (leaves : List String → Value → Prop) (entries : Entries) : Prop where
  mapping : entries.IsMapping
  textual : entries.IsTextual
  leaf : ∀ path v, entries.foundAt? path = some (.leaf v) ↔ leaves path v
  inner : ∀ path, path ≠ [] → (entries.foundAt? path = some .mapping ↔
    ∃ whole v, leaves whole v ∧ path <+: whole ∧ path ≠ whole)

namespace Environment

variable {lead : String} {environment : Environment}

/-- In an empty mapping nothing is found but the mapping itself. -/
theorem foundAt?_empty {path : List String} (h : path ≠ []) : Entries.foundAt? [] path = none := by
  cases path with
  | nil => exact (h rfl).elim
  | cons key rest => rfl

theorem read_holdsOnly (h : PlacesApart lead environment) :
    ∃ entries, read lead environment = .ok entries ∧
      entries.HoldsOnly fun path v => ∃ x ∈ environment, Gives lead x path v := by
  obtain ⟨entries, hread, hfound⟩ := read_of_isOpen h.isOpen
  refine ⟨entries, hread, isMapping_read hread, isKept_isTextual.read hread, fun path w => ?_,
    fun path hne => ?_⟩
  · rw [hfound]
    rcases foldl_settled_cases lead environment path (Entries.foundAt? [] path) with
      ⟨hnone, hsettled⟩ | ⟨x, hx, place, v, hgives, hoverlap, hsettled⟩
    · rw [hsettled]
      constructor
      · intro hleaf
        cases path <;> cases hleaf
      · rintro ⟨y, hy, hgiven⟩
        exact (hnone y hy (touches_iff.mpr ⟨path, w, hgiven, .inl List.prefix_rfl⟩)).elim
    · rw [hsettled, overwritten_eq_leaf_iff]
      constructor
      · rintro ⟨rfl, rfl⟩
        exact ⟨x, hx, hgives⟩
      · rintro ⟨y, hy, hgiven⟩
        obtain rfl := h.eq_of_overlap hx hy hgives hgiven hoverlap
        exact hgives.unique hgiven
  · rw [hfound]
    rcases foldl_settled_cases lead environment path (Entries.foundAt? [] path) with
      ⟨hnone, hsettled⟩ | ⟨x, hx, place, v, hgives, hoverlap, hsettled⟩
    · rw [hsettled, foundAt?_empty hne]
      refine iff_of_false (by simp) ?_
      rintro ⟨whole, w, ⟨y, hy, hgiven⟩, hbegins, -⟩
      exact hnone y hy (touches_iff.mpr ⟨whole, w, hgiven, .inr hbegins⟩)
    · rw [hsettled, overwritten_eq_mapping_iff]
      constructor
      · rintro ⟨hbegins, hnot⟩
        refine ⟨place, v, ⟨x, hx, hgives⟩, hbegins, ?_⟩
        rintro rfl
        exact hnot List.prefix_rfl
      · rintro ⟨whole, w, ⟨y, hy, hgiven⟩, hbegins, hother⟩
        -- the place that the path overlaps with goes on from it, or else the other one would too
        have hnot : ¬ place <+: path := by
          intro hplace
          obtain rfl := h.eq_of_overlap hx hy hgives hgiven (.inl (hplace.trans hbegins))
          obtain ⟨rfl, -⟩ := hgives.unique hgiven
          exact hother (hbegins.eq_of_length_le hplace.length_le)
        exact ⟨hoverlap.resolve_left hnot, hnot⟩

end Environment

namespace Source

/-- If no place that a variable leads to is, or lies below, the place of another one, then the
environment is read without a fault, and what is read holds the value of each variable at its place
and nothing else. -/
theorem read_lands (files : FileTree) (lead : String) (priority : Int) {environment : Environment}
    (h : Environment.PlacesApart lead environment) :
    ∃ entries, (Source.environment lead priority).read ⟨files, environment⟩ = .ok entries ∧
      entries.HoldsOnly fun path v => ∃ x ∈ environment, Environment.Gives lead x path v := by
  obtain ⟨entries, hread, hholds⟩ := Environment.read_holdsOnly h
  exact ⟨entries, congrArg Failure.ofFault hread, hholds⟩

/-- Variables whose places are apart, and one that is no setting. -/
def scatteredVariables : Environment :=
  [("POLARIS_DDL_EXTRA_RETRY_LIMIT", "3"), ("HOME", "/root"),
    ("POLARIS_DDL_FRAMEWORK_LOGGING_CONFIG_FILE_PATH", "ddl.log"), ("POLARIS_DDL_DEBUG_", "true"),
    ("POLARIS_DDL_FRAMEWORK_PLATFORM_VERSION", "2.10"), ("POLARIS_DDL_EXTRA_RETRY_DELAY", "none")]

/-- The settings that they are. -/
def scatteredSettings : Entries :=
  Entries.ofFields [
    ("extra", .record [("retry", .record [("limit", .int 3), ("delay", .str "none")])]),
    ("framework", .record [("logging_config", .record [("file_path", .str "ddl.log")]),
      ("platform_version", .str "2.10")]),
    ("debug", .bool true)]

theorem read_lands_scattered :
    Environment.PlacesApart Environment.usualLead scatteredVariables ∧
    usualEnvironment.read ⟨default, scatteredVariables⟩ = .ok scatteredSettings ∧
    scatteredSettings.HoldsOnly fun path v =>
      ∃ x ∈ scatteredVariables, Environment.Gives Environment.usualLead x path v := by
  have hapart : Environment.PlacesApart Environment.usualLead scatteredVariables :=
    Environment.placesApart_iff.mpr (by decide +kernel)
  obtain ⟨entries, hread, hholds⟩ :=
    read_lands default Environment.usualLead environmentPriority hapart
  have hsettings : scatteredVariables.filterMap (Environment.settingOf? Environment.usualLead) =
      [(.nested "extra" ["retry"] "limit", .int 3),
        (.member "logging_config" "file_path", .str "ddl.log"), (.whole "debug", .bool true),
        (.field "platform_version", .str "2.10"), (.nested "extra" ["retry"] "delay", .str "none")] := by
    decide +kernel
  have hplaced : Environment.read Environment.usualLead scatteredVariables =
      .ok scatteredSettings := by
    rw [Environment.read_eq, hsettings]
    rfl
  have hsame : scatteredSettings = entries := by
    rw [Source.read, hplaced] at hread
    exact Except.ok.inj hread
  exact ⟨hapart, congrArg Failure.ofFault hplaced, hsame ▸ hholds⟩

end Source

end PluginDescriptor
