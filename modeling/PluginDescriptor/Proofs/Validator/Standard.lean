import PluginDescriptor.Proofs.Outcome
import PluginDescriptor.Proofs.Validator.Calls

/-!
# Validators that raise faults alone

A validator may fail in any way, with an error about configuration too. Those that come with the
library raise faults alone (`Modules.arePlain_standard`), and so do all that a table loads from modules
of such validators (`Validators.arePlain_of_load`).
-/

set_option autoImplicit false

namespace PluginDescriptor

/-- The failure is a fault. -/
def Failure.IsFault (failure : Failure) : Prop := ∃ fault, failure = .fault fault

/-- The validator raises faults alone. -/
def Validator.IsPlain (v : Validator) : Prop := ∀ value, FailsOnly Failure.IsFault (v.check value)

namespace Validator

theorem failsOnly_refuse {α : Type} (text : String) :
    FailsOnly Failure.IsFault (refuse text : Except Failure α) :=
  failsOnly_error ⟨_, rfl⟩

theorem failsOnly_unless {accepted : Prop} [Decidable accepted] (text : String) :
    FailsOnly Failure.IsFault (if accepted then .ok () else refuse text) := by
  split
  · exact failsOnly_ok ()
  · exact failsOnly_refuse text

theorem isPlain_ofKind (label what : String) (accepts : Value → Bool) :
    (ofKind label what accepts).IsPlain :=
  fun _ => failsOnly_unless _

theorem isPlain_ofText (label : String) {test : String → Except Failure Unit}
    (htest : ∀ s, FailsOnly Failure.IsFault (test s)) : (ofText label test).IsPlain := by
  intro value
  refine failsOnly_bind (isPlain_ofKind _ _ _ value) fun _ _ => ?_
  split
  · exact htest _
  · exact failsOnly_ok ()

theorem isPlain_shellsafe : shellsafe.IsPlain := by
  refine isPlain_ofText _ fun s => ?_
  split
  · exact failsOnly_refuse _
  · exact failsOnly_ok ()

theorem isPlain_builtin : ∀ entry ∈ builtin, entry.2.IsPlain := by
  have hkind := isPlain_ofKind
  have hipv4 : ipv4.IsPlain := isPlain_ofText _ fun _ => failsOnly_unless _
  have hipv6 : ipv6.IsPlain := isPlain_ofText _ fun _ => failsOnly_unless _
  simp only [builtin, List.forall_mem_cons]
  exact ⟨hkind _ _ _, hkind _ _ _, hkind _ _ _, hkind _ _ _, hkind _ _ _, hkind _ _ _, hkind _ _ _,
    isPlain_shellsafe, hipv4, hipv6, List.forall_mem_nil _⟩

theorem isPlain_hostname : hostname.IsPlain := fun _ => failsOnly_unless _

theorem isPlain_port : port.IsPlain := by
  intro value
  refine failsOnly_bind ?_ fun n _ => failsOnly_unless _
  cases wholeNumber value with
  | ok n => exact failsOnly_ok n
  | error fault => exact failsOnly_error ⟨fault, rfl⟩

end Validator

/-! ## Modules -/

/-- All validators of the module raise faults alone. -/
def Module.IsPlain (m : Module) : Prop :=
  ∀ member ∈ m.members, ∀ v, member.2 = .callable v → v.IsPlain

namespace Modules

/-- All validators of the modules raise faults alone. -/
def ArePlain (modules : Modules) : Prop := ∀ m ∈ modules, m.IsPlain

theorem arePlain_standard : standard.ArePlain := by
  have hpackage (name : String) : Module.IsPlain { name, isPackage := true, members := [] } :=
    List.forall_mem_nil _
  have hvalidators {vs : List Validator} (h : ∀ v ∈ vs, v.IsPlain) (name other : String) :
      Module.IsPlain {
        name, isPackage := false
        members := (other, .other) :: vs.map fun v => (v.label, .callable v) } := by
    have hother : ∀ v, Member.other = .callable v → v.IsPlain := fun _ h => nomatch h
    refine List.forall_mem_cons.mpr ⟨hother, List.forall_mem_map.mpr ?_⟩
    rintro v hv _ ⟨⟩
    exact h v hv
  have hbuiltin : ∀ v ∈ Validator.builtin.map (·.2), v.IsPlain :=
    List.forall_mem_map.mpr Validator.isPlain_builtin
  have hcustom : ∀ v ∈ [Validator.hostname, Validator.port], v.IsPlain :=
    List.forall_mem_cons.mpr
      ⟨Validator.isPlain_hostname, List.forall_mem_singleton.mpr Validator.isPlain_port⟩
  simp only [ArePlain, standard, List.forall_mem_cons]
  exact ⟨hpackage _, hpackage _, hpackage _, hvalidators hbuiltin _ _, hpackage _, hpackage _,
    hvalidators hcustom _ _, List.forall_mem_nil _⟩

variable {modules : Modules}

theorem mem_of_enter {outer : Option Module} {name : String} {m : Module}
    (h : modules.enter outer name = .ok m) : m ∈ modules := by
  unfold enter at h
  dsimp only at h
  split at h
  · cases h
  · split at h
    · cases h
    · rename_i found hfound
      split at h
      · cases h
        exact List.mem_of_find?_eq_some hfound
      · cases h

/-- Going down the modules that can be found ends at one of them. -/
theorem mem_of_descend {names : List String} {outer found : Option Module}
    (houter : ∀ m, outer = some m → m ∈ modules) (h : modules.descend outer names = .ok found) :
    ∀ m, found = some m → m ∈ modules := by
  refine foldlM_keeps (I := fun outer => ∀ m, outer = some m → m ∈ modules) ?_ houter h
  rintro name - s s' - hstep m rfl
  obtain ⟨next, hnext, hend⟩ := bind_eq_ok_iff.mp hstep
  cases hend
  exact mem_of_enter hnext

/-- A validator that is found in plain modules is plain. -/
theorem ArePlain.isPlain_of_member (hplain : modules.ArePlain) {name memberName : String}
    {v : Validator} (h : modules.member name memberName = .ok (.callable v)) : v.IsPlain := by
  unfold member load at h
  obtain ⟨m, hm, hmember⟩ := bind_eq_ok_iff.mp h
  have hfound : m ∈ modules := by
    split at hm
    · cases hm
    · obtain ⟨found, hdescend, hfound⟩ := bind_eq_ok_iff.mp hm
      split at hfound
      · cases hfound
        refine mem_of_descend ?_ hdescend m rfl
        rintro m ⟨⟩
      · cases hfound
  split at hmember
  · rename_i found hlookup
    cases hmember
    obtain ⟨before, after, hmembers, -⟩ := List.lookup_eq_some_iff.mp hlookup
    exact hplain m hfound (memberName, .callable v) (hmembers ▸ List.mem_append_cons_self) v rfl
  · cases hmember

end Modules

/-! ## Tables -/

namespace Validators

/-- All validators that the table holds raise faults alone. -/
def ArePlain (t : Validators) : Prop :=
  ∀ vs, t.loaded = some vs → ∀ name v, vs.lookup name = some v → v.IsPlain

theorem arePlain_unloaded (custom : Named String) : (unloaded custom).ArePlain :=
  fun _ h => nomatch h

variable {modules : Modules}

theorem isPlain_of_fetch (hplain : modules.ArePlain) {name path : String} {v : Validator}
    (h : fetch modules name path = .ok v) : v.IsPlain := by
  unfold fetch at h
  split at h
  · split at h
    · rename_i found hmember
      cases h
      exact hplain.isPlain_of_member hmember
    all_goals cases h
  · cases h

/-- A plain table that is loaded from plain modules stays plain. -/
theorem ArePlain.load {t loaded : Validators} (ht : t.ArePlain) (hplain : modules.ArePlain)
    (h : (t.load modules).outcome = .ok loaded) : loaded.ArePlain := by
  rw [outcome_load] at h
  split at h
  · cases h
    exact ht
  · obtain ⟨vs, hvs, rfl⟩ := map_eq_ok_iff.mp h
    rintro _ ⟨⟩ name v hlookup
    rw [lookup_fetchAll hvs, Option.or_eq_some_iff] at hlookup
    obtain himported | ⟨-, hbuiltin⟩ := hlookup
    · obtain ⟨path, -, hfetch⟩ := Option.bind_eq_some_iff.mp himported
      exact isPlain_of_fetch hplain (toOption_eq_some_iff.mp hfetch)
    · obtain ⟨before, after, hrow, -⟩ := List.lookup_eq_some_iff.mp hbuiltin
      exact Validator.isPlain_builtin (name, v) (hrow ▸ List.mem_append_cons_self)

theorem ArePlain.afterLoad {t : Validators} (ht : t.ArePlain) (hplain : modules.ArePlain) :
    (t.afterLoad modules).ArePlain := by
  unfold Validators.afterLoad
  split
  · rename_i loaded hloaded
    exact ht.load hplain hloaded
  · exact ht

end Validators

end PluginDescriptor
