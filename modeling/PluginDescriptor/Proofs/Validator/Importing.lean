import PluginDescriptor.Proofs.Text.Split
import PluginDescriptor.Proofs.Validator.Calls

/-!
# Validators that cannot be imported

A custom validator is taken from a module, which is imported after the packages around it. When a table
is loaded, all of its custom validators can be taken so, or the first one that cannot is reported as an
error about the configuration (`Validators.load_unloaded`). Two kinds of fault leave unreported: a name
that begins with a point, and what the code of a module raises besides failing to import or to find
something.
-/

set_option autoImplicit false

namespace PluginDescriptor

namespace Modules

variable {modules : Modules} {name outer part : String} {m : Module}

/-! ## Names of modules -/

/-- The text names a package around the module of this name. -/
def IsAround (outer name : String) : Prop := outer.toList ++ ['.'] <+: name.toList

/-- The name of what is inside a package. -/
def inside (outer part : String) : String := outer ++ "." ++ part

theorem toList_inside (outer part : String) :
    (inside outer part).toList = outer.toList ++ '.' :: part.toList := by
  simp [inside]

/-- A name has no point, or what is behind its last one has none. -/
theorem name_cases (name : String) :
    '.' ∉ name.toList ∨ ∃ outer part, '.' ∉ part.toList ∧ name = inside outer part := by
  cases hbefore : Text.beforeLast? '.' name.toList with
  | none => exact .inl ((Text.beforeLast?_eq_none_iff _ _).mp hbefore)
  | some before =>
    obtain ⟨after, hname, hafter⟩ := (Text.beforeLast?_eq_some_iff _ _ _).mp hbefore
    refine .inr ⟨.ofList before, .ofList after, by rwa [String.toList_ofList], ?_⟩
    rw [← String.toList_inj, toList_inside, hname, String.toList_ofList, String.toList_ofList]

/-- What holds of names without points, and passes from a package to what is inside it, holds of every
name. -/
theorem name_induction {P : String → Prop} (single : ∀ name, '.' ∉ name.toList → P name)
    (within : ∀ outer part, '.' ∉ part.toList → P outer → P (inside outer part)) (name : String) :
    P name := by
  induction hlength : name.length using Nat.strongRecOn generalizing name with
  | ind n ih =>
    obtain hsingle | ⟨outer, part, hpart, rfl⟩ := name_cases name
    · exact single name hsingle
    · refine within outer part hpart (ih outer.length ?_ outer rfl)
      rw [← hlength, ← String.length_toList, ← String.length_toList, toList_inside,
        List.length_append, List.length_cons]
      omega

theorem not_isAround_of_not_mem (h : '.' ∉ name.toList) (outer : String) : ¬ IsAround outer name := by
  rintro ⟨rest, hrest⟩
  exact h (hrest ▸ by simp)

/-- Around what is inside a package are the package and what is around it. -/
theorem isAround_inside_iff (hpart : '.' ∉ part.toList) (p : String) :
    IsAround p (inside outer part) ↔ p = outer ∨ IsAround p outer := by
  rw [IsAround, toList_inside]
  constructor
  · rintro ⟨rest, hrest⟩
    rw [List.append_assoc, List.singleton_append] at hrest
    obtain ⟨x, houter, hx⟩ | ⟨x, hp, hx⟩ := List.append_eq_append_iff.mp hrest
    · cases x with
      | nil => exact .inl (String.toList_inj.mp (by simpa using houter.symm))
      | cons c x =>
        obtain ⟨rfl, -⟩ := List.cons.inj hx
        exact .inr ⟨x, by simp [houter]⟩
    · cases x with
      | nil => exact .inl (String.toList_inj.mp (by simpa using hp))
      | cons c x =>
        obtain ⟨-, hbehind⟩ := List.cons.inj hx
        exact (hpart (hbehind ▸ by simp)).elim
  · rintro (rfl | ⟨rest, hrest⟩)
    · exact ⟨part.toList, by simp⟩
    · exact ⟨rest ++ '.' :: part.toList, by simp [← hrest]⟩

theorem lineage_of_not_mem (h : '.' ∉ name.toList) : lineage name = [name] := by
  rw [lineage, Text.splitAt_of_not_mem h]
  simp [Text.join]

/-- A package and what is around it come before what is inside it. -/
theorem lineage_inside (hpart : '.' ∉ part.toList) :
    lineage (inside outer part) = lineage outer ++ [inside outer part] := by
  have hsplit : Text.splitAt '.' (inside outer part).toList =
      Text.splitAt '.' outer.toList ++ [part.toList] := by
    rw [toList_inside, Text.splitAt_append, Text.splitAt_of_not_mem hpart]
  have hjoin := Text.join_splitAt (show ".".toList = ['.'] from rfl) (inside outer part)
  rw [hsplit] at hjoin
  rw [lineage, lineage, hsplit, List.length_append, List.length_singleton, List.range_succ,
    List.map_append]
  congr 1
  · refine List.map_congr_left fun i hi => ?_
    rw [List.take_append_of_le_length (List.mem_range.mp hi)]
  · rw [List.map_singleton, List.take_of_length_le (by simp), hjoin]

/-! ## Importing a module -/

/-- The package of this name can be imported. -/
def IsEntered (modules : Modules) (name : String) : Prop :=
  ∃ m, modules.find? name = some m ∧ m.fault = none ∧ m.isPackage = true

/-- All packages around the module of this name can be imported. -/
def IsReached (modules : Modules) (name : String) : Prop :=
  ∀ outer, IsAround outer name → modules.IsEntered outer

/-- The name leads to a module: to it through packages, and its own code runs. -/
structure Imports (modules : Modules) (name : String) (m : Module) : Prop where
  reached : modules.IsReached name
  found : modules.find? name = some m
  runs : m.fault = none

/-- Importing fails on the way to the module of this name: at the first package around it, or at the
module itself, that there is not, that is in no package, or whose code fails. -/
inductive Stops (modules : Modules) (name : String) : Fault → Prop where
  | missing {inner : String} (on : inner = name ∨ IsAround inner name)
      (reached : modules.IsReached inner) (unknown : modules.find? inner = none) :
      Stops modules name (.noModule ("No module named " ++ Text.quoted inner))
  | raises {inner : String} {m : Module} {fault : Fault} (on : inner = name ∨ IsAround inner name)
      (reached : modules.IsReached inner) (found : modules.find? inner = some m)
      (raised : m.fault = some fault) : Stops modules name fault
  | plain {outer part : String} {m : Module} (single : '.' ∉ part.toList)
      (on : inside outer part = name ∨ IsAround (inside outer part) name)
      (imports : modules.Imports outer m) (plain : m.isPackage = false) :
      Stops modules name (.noModule ("No module named " ++ Text.quoted (inside outer part) ++ "; " ++
        Text.quoted m.name ++ " is not a package"))

/-- What stops on the way to a package stops on the way to what is inside it. -/
theorem Stops.inside {fault : Fault} (hpart : '.' ∉ part.toList) (h : Stops modules outer fault) :
    Stops modules (inside outer part) fault := by
  have hon : ∀ {p}, p = outer ∨ IsAround p outer →
      p = Modules.inside outer part ∨ IsAround p (Modules.inside outer part) :=
    fun hp => .inr ((isAround_inside_iff hpart _).mpr hp)
  cases h with
  | missing on reached unknown => exact .missing (hon on) reached unknown
  | raises on reached found raised => exact .raises (hon on) reached found raised
  | plain single on imports plain => exact .plain single (hon on) imports plain

/-- What stops on the way to a module is no way to it. -/
theorem Stops.not_imports {fault : Fault} (h : Stops modules name fault) (m : Module) :
    ¬ modules.Imports name m := by
  rintro ⟨hreached, hfound, hruns⟩
  cases h with
  | missing on _ unknown =>
    obtain rfl | haround := on
    · cases hfound.symm.trans unknown
    · obtain ⟨m', hfound', -⟩ := hreached _ haround
      cases hfound'.symm.trans unknown
  | raises on _ found raised =>
    obtain rfl | haround := on
    · cases hfound.symm.trans found
      cases hruns.symm.trans raised
    · obtain ⟨m', hfound', hruns', -⟩ := hreached _ haround
      cases hfound'.symm.trans found
      cases hruns'.symm.trans raised
  | @plain outer part outerModule single on imports plain =>
    have haround : IsAround outer name := by
      have houter : IsAround outer (Modules.inside outer part) :=
        (isAround_inside_iff single outer).mpr (.inl rfl)
      obtain rfl | ⟨rest, hrest⟩ := on
      · exact houter
      · rw [toList_inside] at hrest
        exact ⟨part.toList ++ '.' :: rest, by simp [← hrest]⟩
    obtain ⟨m', hfound', -, hpackage⟩ := hreached _ haround
    cases hfound'.symm.trans imports.found
    cases hpackage.symm.trans plain

/-- One module is looked for, in a package if in any. -/
theorem enter_cases {around : Option Module} (hpackage : ∀ m, around = some m → m.isPackage = true)
    (hreached : modules.IsReached name) :
    (∃ m, modules.Imports name m ∧ modules.enter around name = .ok m) ∨
      ∃ fault, Stops modules name fault ∧ modules.enter around name = .error fault := by
  have hnone : (around.filter fun m => !m.isPackage) = none := by
    refine Option.filter_eq_none_iff.mpr fun m hm => ?_
    rw [hpackage m hm]
    exact Bool.false_ne_true
  unfold enter
  rw [hnone]
  dsimp only
  cases hfound : modules.find? name with
  | none => exact .inr ⟨_, .missing (.inl rfl) hreached hfound, rfl⟩
  | some m =>
    dsimp only
    cases hruns : m.fault with
    | none => exact .inl ⟨m, ⟨hreached, hfound, hruns⟩, rfl⟩
    | some fault => exact .inr ⟨fault, .raises (.inl rfl) hreached hfound hruns, rfl⟩

/-- Going down to a module finds it, or stops on the way. -/
theorem descend_lineage (modules : Modules) (name : String) :
    (∃ m, modules.Imports name m ∧ modules.descend none (lineage name) = .ok (some m)) ∨
      ∃ fault, Stops modules name fault ∧
        modules.descend none (lineage name) = .error fault := by
  induction name using name_induction with
  | single name hname =>
    have hreached : modules.IsReached name :=
      fun outer haround => (not_isAround_of_not_mem hname outer haround).elim
    rw [lineage_of_not_mem hname, descend, List.foldlM_cons]
    have hnone : ∀ m : Module, none = some m → m.isPackage = true := nofun
    obtain ⟨m, himports, henter⟩ | ⟨fault, hstops, henter⟩ := enter_cases hnone hreached
    · exact .inl ⟨m, himports, by rw [henter]; rfl⟩
    · exact .inr ⟨fault, hstops, by rw [henter]; rfl⟩
  | within outer part hpart ih =>
    rw [lineage_inside hpart, descend, List.foldlM_append]
    rw [descend] at ih
    obtain ⟨outerModule, himports, houter⟩ | ⟨fault, hstops, houter⟩ := ih
    · rw [houter, ok_bind_eq, List.foldlM_cons]
      cases hpackage : outerModule.isPackage with
      | true =>
        have hreached : modules.IsReached (inside outer part) := by
          intro p haround
          obtain rfl | hfurther := (isAround_inside_iff hpart p).mp haround
          · exact ⟨outerModule, himports.found, himports.runs, hpackage⟩
          · exact himports.reached p hfurther
        have hone : ∀ m, some outerModule = some m → m.isPackage = true := by
          rintro m ⟨⟩
          exact hpackage
        obtain ⟨m, himports, henter⟩ | ⟨fault, hstops, henter⟩ := enter_cases hone hreached
        · exact .inl ⟨m, himports, by rw [henter]; rfl⟩
        · exact .inr ⟨fault, hstops, by rw [henter]; rfl⟩
      | false =>
        refine .inr ⟨_, .plain hpart (.inl rfl) himports hpackage, ?_⟩
        have henter : modules.enter (some outerModule) (inside outer part) =
            .error (.noModule ("No module named " ++ Text.quoted (inside outer part) ++ "; " ++
              Text.quoted outerModule.name ++ " is not a package")) := by
          unfold enter
          rw [Option.filter_some, hpackage]
          rfl
        rw [henter]
        rfl
    · refine .inr ⟨fault, hstops.inside hpart, ?_⟩
      rw [houter]
      rfl

/-- The name begins with a point. -/
def IsRelative (name : String) : Prop := name.toList.head? = some '.'

instance (name : String) : Decidable (IsRelative name) :=
  inferInstanceAs (Decidable (name.toList.head? = some '.'))

theorem hasLead_point_iff : Text.hasLead "." name = true ↔ IsRelative name := by
  unfold Text.hasLead IsRelative
  rw [Option.isSome_iff_exists]
  constructor
  · rintro ⟨rest, hrest⟩
    rw [Text.dropLead?_eq_some_iff.mp hrest]
    rfl
  · intro h
    obtain ⟨rest, hrest⟩ := List.head?_eq_some_iff.mp h
    exact ⟨rest, Text.dropLead?_eq_some_iff.mpr hrest⟩

/-- What a module with a relative name is refused with. -/
def relativeFault (name : String) : Fault :=
  let shown := Text.quoted name
  .badKind s!"the 'package' argument is required to perform a relative import for {shown}"

theorem load_of_isRelative (h : IsRelative name) :
    modules.load name = .error (relativeFault name) := by
  rw [load, if_pos (hasLead_point_iff.mpr h)]
  rfl

/-- A name that is not relative leads to a module, or importing stops on the way. -/
theorem load_cases (modules : Modules) (h : ¬ IsRelative name) :
    (∃ m, modules.Imports name m ∧ modules.load name = .ok m) ∨
      ∃ fault, Stops modules name fault ∧ modules.load name = .error fault := by
  have habsolute : ¬ Text.hasLead "." name = true := fun hlead => h (hasLead_point_iff.mp hlead)
  obtain ⟨m, himports, hdescend⟩ | ⟨fault, hstops, hdescend⟩ := descend_lineage modules name
  · refine .inl ⟨m, himports, ?_⟩
    rw [load, if_neg habsolute, hdescend]
    rfl
  · refine .inr ⟨fault, hstops, ?_⟩
    rw [load, if_neg habsolute, hdescend]
    rfl

/-! ## Paths -/

/-- A path names a module and a member: they stand before and after its first colon. -/
structure Names (path moduleName memberName : String) : Prop where
  shape : path.toList = moduleName.toList ++ ':' :: memberName.toList
  first : ':' ∉ moduleName.toList
  hasModule : moduleName ≠ ""
  hasMember : memberName ≠ ""

theorem memberPath?_eq_some_iff {path moduleName memberName : String} :
    memberPath? path = some (moduleName, memberName) ↔ Names path moduleName memberName := by
  unfold memberPath?
  constructor
  · intro h
    obtain ⟨-, hcut⟩ | ⟨before, rest, hfirst, hpath, hcut⟩ := Text.cutAt_cases ':' path.toList
    · rw [hcut] at h
      split at h
      · rename_i hpair
        cases congrArg Prod.snd hpair
      · cases h
    · rw [hcut] at h
      cases before with
      | nil => cases h
      | cons c before =>
        cases rest with
        | nil => cases h
        | cons d rest =>
          cases h
          refine ⟨by simp [hpath], by rwa [String.toList_ofList], ?_, ?_⟩
          · exact fun hempty => by simpa using congrArg String.toList hempty
          · exact fun hempty => by simpa using congrArg String.toList hempty
  · rintro ⟨hshape, hfirst, hmodule, hmember⟩
    rw [hshape, Text.cutAt_append hfirst]
    obtain ⟨c, before, hbefore⟩ :=
      List.exists_cons_of_ne_nil fun h => hmodule (String.toList_eq_nil_iff.mp h)
    obtain ⟨d, rest, hrest⟩ :=
      List.exists_cons_of_ne_nil fun h => hmember (String.toList_eq_nil_iff.mp h)
    rw [hbefore, hrest]
    dsimp only
    rw [← hbefore, ← hrest, String.ofList_toList, String.ofList_toList]

/-- What a member that a module does not have is refused with. -/
def lackFault (m : Module) (memberName : String) : Fault :=
  let shown := Text.quoted m.name
  let memberShown := Text.quoted memberName
  .noAttribute s!"module {shown} has no attribute {memberShown}"

theorem member_of_load {moduleName : String} {m : Module} (h : modules.load moduleName = .ok m)
    (memberName : String) :
    modules.member moduleName memberName =
      match m.members.lookup memberName with
      | some found => .ok found
      | none => .error (lackFault m memberName) := by
  rw [member, h]
  rfl

end Modules

namespace Validators

variable {modules : Modules} {name path : String}

open Modules

/-- The path of a custom validator leads to it. -/
def Offers (modules : Modules) (path : String) (v : Validator) : Prop :=
  ∃ moduleName memberName m, Names path moduleName memberName ∧ ¬ IsRelative moduleName ∧
    modules.Imports moduleName m ∧ m.members.lookup memberName = some (.callable v)

/-- The fault says that something cannot be imported or has no such attribute. -/
def IsCaught (fault : Fault) : Prop :=
  (∃ text, fault = .noModule text) ∨ ∃ text, fault = .noAttribute text

/-- What loading a custom validator fails with. -/
inductive Refused (modules : Modules) (name path : String) : Failure → Prop where
  /-- The path names no module and member. -/
  | malformed (shapeless : ∀ moduleName memberName, ¬ Names path moduleName memberName) :
      Refused modules name path (.configuration (.validatorPathMalformed name path))
  /-- The module cannot be imported. -/
  | notImported {moduleName memberName : String} {fault : Fault}
      (names : Names path moduleName memberName) (absolute : ¬ IsRelative moduleName)
      (stops : Stops modules moduleName fault) (caught : IsCaught fault) :
      Refused modules name path (.configuration (.validatorNotImported name path fault))
  /-- The module has no such member. -/
  | lacking {moduleName memberName : String} {m : Module}
      (names : Names path moduleName memberName) (absolute : ¬ IsRelative moduleName)
      (imports : modules.Imports moduleName m) (lacks : m.members.lookup memberName = none) :
      Refused modules name path
        (.configuration (.validatorNotImported name path (lackFault m memberName)))
  /-- The member is nothing to call. -/
  | notCallable {moduleName memberName : String} {m : Module}
      (names : Names path moduleName memberName) (absolute : ¬ IsRelative moduleName)
      (imports : modules.Imports moduleName m) (holds : m.members.lookup memberName = some .other) :
      Refused modules name path (.configuration (.validatorNotCallable name path))
  /-- The code of a module fails in another way, which leaves as it is, -/
  | raised {moduleName memberName : String} {fault : Fault}
      (names : Names path moduleName memberName) (absolute : ¬ IsRelative moduleName)
      (stops : Stops modules moduleName fault) (foreign : ¬ IsCaught fault) :
      Refused modules name path (.fault fault)
  /-- and so does a name of a module that begins with a point. -/
  | relative {moduleName memberName : String} (names : Names path moduleName memberName)
      (relative : IsRelative moduleName) :
      Refused modules name path (.fault (relativeFault moduleName))

/-- What is reported about a custom validator has one code. -/
theorem Refused.code {problem : SettingsProblem}
    (h : Refused modules name path (.configuration problem)) :
    problem.code = Code.validatorNotFound.text := by
  cases h <;> rfl

theorem fetch_of_names {moduleName memberName : String} (h : Names path moduleName memberName) :
    fetch modules name path =
      match modules.member moduleName memberName with
      | .ok (.callable v) => .ok v
      | .ok .other => .error (.configuration (.validatorNotCallable name path))
      | .error (.noModule text) =>
        .error (.configuration (.validatorNotImported name path (.noModule text)))
      | .error (.noAttribute text) =>
        .error (.configuration (.validatorNotImported name path (.noAttribute text)))
      | .error fault => .error (.fault fault) := by
  rw [fetch, memberPath?_eq_some_iff.mpr h]
  rfl

/-- A custom validator whose module cannot be imported is refused. -/
theorem fetch_of_fault {moduleName memberName : String} {fault : Fault}
    (hnames : Names path moduleName memberName) (hload : modules.load moduleName = .error fault) :
    (IsCaught fault ∧ fetch modules name path =
        .error (.configuration (.validatorNotImported name path fault))) ∨
      (¬ IsCaught fault ∧ fetch modules name path = .error (.fault fault)) := by
  have hmember : modules.member moduleName memberName = .error fault := by
    rw [Modules.member, hload]
    rfl
  rw [fetch_of_names hnames, hmember]
  cases fault with
  | noModule text => exact .inl ⟨.inl ⟨text, rfl⟩, rfl⟩
  | noAttribute text => exact .inl ⟨.inr ⟨text, rfl⟩, rfl⟩
  | _ => exact .inr ⟨by rintro (⟨_, ⟨⟩⟩ | ⟨_, ⟨⟩⟩), rfl⟩

/-- A custom validator is taken from where its path leads, or refused. -/
theorem fetch_cases (modules : Modules) (name path : String) :
    (∃ v, Offers modules path v ∧ fetch modules name path = .ok v) ∨
      ∃ failure, Refused modules name path failure ∧ fetch modules name path = .error failure := by
  cases hpath : memberPath? path with
  | none =>
    have hshapeless : ∀ moduleName memberName, ¬ Names path moduleName memberName :=
      fun _ _ hnames => by cases hpath.symm.trans (memberPath?_eq_some_iff.mpr hnames)
    refine .inr ⟨_, .malformed hshapeless, ?_⟩
    rw [fetch, hpath]
    rfl
  | some names =>
    obtain ⟨moduleName, memberName⟩ := names
    have hnames := memberPath?_eq_some_iff.mp hpath
    by_cases hrelative : IsRelative moduleName
    · obtain ⟨hcaught, -⟩ | ⟨-, hfetch⟩ := fetch_of_fault hnames (load_of_isRelative hrelative)
      · rcases hcaught with ⟨_, ⟨⟩⟩ | ⟨_, ⟨⟩⟩
      · exact .inr ⟨_, .relative hnames hrelative, hfetch⟩
    · obtain ⟨m, himports, hload⟩ | ⟨fault, hstops, hload⟩ := load_cases modules hrelative
      · have hmember := member_of_load hload memberName
        cases hlookup : m.members.lookup memberName with
        | none =>
          refine .inr ⟨_, .lacking hnames hrelative himports hlookup, ?_⟩
          rw [fetch_of_names hnames, hmember, hlookup]
          rfl
        | some found =>
          cases found with
          | callable v =>
            refine .inl ⟨v, ⟨moduleName, memberName, m, hnames, hrelative, himports, hlookup⟩, ?_⟩
            rw [fetch_of_names hnames, hmember, hlookup]
          | other =>
            refine .inr ⟨_, .notCallable hnames hrelative himports hlookup, ?_⟩
            rw [fetch_of_names hnames, hmember, hlookup]
      · obtain ⟨hcaught, hfetch⟩ | ⟨hforeign, hfetch⟩ := fetch_of_fault hnames hload
        · exact .inr ⟨_, .notImported hnames hrelative hstops hcaught, hfetch⟩
        · exact .inr ⟨_, .raised hnames hrelative hstops hforeign, hfetch⟩

/-- What a path leads to is taken. -/
theorem Offers.fetch_eq {v : Validator} (h : Offers modules path v) (name : String) :
    fetch modules name path = .ok v := by
  obtain ⟨moduleName, memberName, m, hnames, habsolute, himports, hlookup⟩ := h
  obtain ⟨m', himports', hload⟩ | ⟨fault, hstops, -⟩ := load_cases modules habsolute
  · cases himports.found.symm.trans himports'.found
    rw [fetch_of_names hnames, member_of_load hload, hlookup]
  · exact (hstops.not_imports m himports).elim

/-! ## Loading -/

/-- If all custom validators are where their paths lead, a table is loaded. Otherwise loading fails at
the first that is not: with an error about the configuration that says that there is no such validator,
unless the name of its module begins with a point or the code of a module fails in another way than
importing does. -/
theorem load_unloaded (modules : Modules) (custom : Named String) :
    ((∀ entry ∈ custom, ∃ v, Offers modules entry.2 v) ∧
      ∃ loaded, ((unloaded custom).load modules).outcome = .ok loaded) ∨
    ∃ before name path rest failure, custom = before ++ (name, path) :: rest ∧
      (∀ entry ∈ before, ∃ v, Offers modules entry.2 v) ∧ (¬ ∃ v, Offers modules path v) ∧
      Refused modules name path failure ∧
      (∀ problem, failure = .configuration problem →
        problem.code = Code.validatorNotFound.text) ∧
      ((unloaded custom).load modules).outcome = .error failure := by
  have hload : ((unloaded custom).load modules).outcome =
      (fetchAll modules custom).map fun vs => { unloaded custom with loaded := some vs } :=
    outcome_load
  have hoffers : ∀ {row : Named String} {s vs : Named Validator},
      row.foldlM (fun vs entry => return Named.assign entry.1 (← fetch modules entry.1 entry.2) vs) s =
        Except.ok vs → ∀ entry ∈ row, ∃ v, Offers modules entry.2 v := by
    intro row s vs h entry hentry
    obtain ⟨mid, after, hstep⟩ := exists_of_foldlM_eq_ok h hentry
    obtain ⟨v, hfetch, -⟩ := bind_eq_ok_iff.mp hstep
    obtain ⟨v, hv, -⟩ | ⟨failure, -, hfail⟩ := fetch_cases modules entry.1 entry.2
    · exact ⟨v, hv⟩
    · cases hfetch.symm.trans hfail
  cases hfetch : fetchAll modules custom with
  | ok vs =>
    refine .inl ⟨hoffers hfetch, { unloaded custom with loaded := some vs }, ?_⟩
    rw [hload, hfetch]
    rfl
  | error failure =>
    obtain ⟨before, ⟨name, path⟩, rest, mid, rfl, hbefore, hstep⟩ :=
      (foldlM_eq_error_iff custom Validator.builtin failure).mp hfetch
    have hfail : fetch modules name path = .error failure := by
      obtain hfail | ⟨v, -, hend⟩ := bind_eq_error_iff.mp hstep
      · exact hfail
      · cases hend
    have hnone : ¬ ∃ v, Offers modules path v := by
      rintro ⟨v, hv⟩
      cases (hv.fetch_eq name).symm.trans hfail
    obtain ⟨v, hv, -⟩ | ⟨failure', hrefused, hfail'⟩ := fetch_cases modules name path
    · exact (hnone ⟨v, hv⟩).elim
    · cases hfail.symm.trans hfail'
      have hcode : ∀ problem, failure = .configuration problem →
          problem.code = Code.validatorNotFound.text := by
        rintro problem rfl
        exact hrefused.code
      refine .inr ⟨before, name, path, rest, failure, rfl, hoffers hbefore, hnone, hrefused, hcode, ?_⟩
      rw [hload, hfetch]
      rfl

/-- A custom validator in a module whose name begins with a point. -/
theorem load_relative :
    ((unloaded [("bad", ".x:y")]).load Modules.standard).outcome =
      .error (.fault (.badKind
        "the 'package' argument is required to perform a relative import for '.x'")) := by
  have hnames : Names ".x:y" ".x" "y" := ⟨by decide, by decide, by decide, by decide⟩
  have hquoted : Text.quoted ".x" = "'.x'" := by decide +kernel
  have hload : Modules.standard.load ".x" = .error (.badKind
      "the 'package' argument is required to perform a relative import for '.x'") := by
    have hrelative : IsRelative ".x" := by decide
    rw [load_of_isRelative hrelative, relativeFault, hquoted]
    rfl
  have hfetch : fetch Modules.standard "bad" ".x:y" = .error (.fault (.badKind
      "the 'package' argument is required to perform a relative import for '.x'")) := by
    obtain ⟨hcaught, -⟩ | ⟨-, hfetch⟩ := fetch_of_fault hnames hload
    · rcases hcaught with ⟨_, ⟨⟩⟩ | ⟨_, ⟨⟩⟩
    · exact hfetch
  rw [outcome_load, unloaded, fetchAll, List.foldlM_cons]
  dsimp only
  rw [hfetch]
  rfl

end Validators

end PluginDescriptor
