import PluginDescriptor.Proofs.Error.Expressible
import PluginDescriptor.Proofs.Outcome
import PluginDescriptor.Settings.Model

/-!
# Where settings are of the wrong form

The place of a setting is named by texts and numbers of 64 bits, whatever the keys of the mappings are
that it stands in (`Checked.isExpressible_placeOf`). So the place of every violation that is found when
settings are read has a JSON text (`Settings.failsOnly_read`).
-/

set_option autoImplicit false

namespace PluginDescriptor

namespace Checked

variable {α β : Type}

/-- All that is wrong is at places that have JSON texts. -/
def ArePlaced (violations : List Violation) : Prop := ∀ v ∈ violations, v.IsPlaced

/-- A number of 64 bits is not too long to be written out. -/
theorem isExpressible_of_isPlace {i : Int} (h : i.natAbs ≤ placeBound.natAbs) :
    (Value.int i).isExpressible = true := by
  have hbound : placeBound.natAbs < Nat.pow 10 19 := by decide
  have hdigits {n : Nat} (hn : 19 ≤ n) : Nat.pow 10 19 ≤ Nat.pow 10 n :=
    Nat.pow_le_pow_right (by decide) hn
  have hlong : 19 ≤ Text.maxDigits := by decide
  rw [Value.isExpressible, Value.isWritable]
  · exact decide_eq_true (Nat.lt_of_le_of_lt h (Nat.lt_of_lt_of_le hbound (hdigits hlong)))
  all_goals exact fun _ hother => nomatch hother

/-- A key or a position has a name that has a JSON text. -/
theorem isExpressible_placeOf (key : Value) : (placeOf key).isExpressible = true := by
  cases key with
  | int i =>
    rw [placeOf]
    split
    · rename_i hi
      refine isExpressible_of_isPlace ?_
      omega
    · rfl
  | bool b =>
    refine isExpressible_of_isPlace ?_
    cases b <;> decide
  | _ => rfl

/-! ## Readers -/

theorem failsOnly_refuse (text rule : String) : FailsOnly ArePlaced (refuse text rule : Checked α) := by
  refine failsOnly_error (List.forall_mem_singleton.mpr ?_)
  exact List.forall_mem_nil _

theorem faults_of_failsOnly {x : Checked α} (hx : FailsOnly ArePlaced x) : ArePlaced (faults x) := by
  cases x with
  | ok a => exact List.forall_mem_nil _
  | error violations => exact hx violations rfl

theorem failsOnly_apply {f : Checked (α → β)} {x : Checked α} (hf : FailsOnly ArePlaced f)
    (hx : FailsOnly ArePlaced x) : FailsOnly ArePlaced (apply f x) := by
  unfold apply
  split
  · exact failsOnly_ok _
  · exact failsOnly_error
      (List.forall_mem_append.mpr ⟨faults_of_failsOnly hf, faults_of_failsOnly hx⟩)

theorem failsOnly_all {xs : List (Checked α)} (h : ∀ x ∈ xs, FailsOnly ArePlaced x) :
    FailsOnly ArePlaced (all xs) := by
  induction xs with
  | nil => exact failsOnly_ok _
  | cons x rest ih =>
    obtain ⟨hx, hrest⟩ := List.forall_mem_cons.mp h
    exact failsOnly_apply (failsOnly_map hx) (ih hrest)

theorem failsOnly_within {key : Value} (hkey : key.isExpressible = true) {x : Checked α}
    (hx : FailsOnly ArePlaced x) : FailsOnly ArePlaced (within key x) := by
  cases x with
  | ok a => exact failsOnly_ok a
  | error violations =>
    refine failsOnly_error (List.forall_mem_map.mpr fun v hv => ?_)
    exact List.forall_mem_cons.mpr ⟨hkey, hx violations rfl v hv⟩

theorem failsOnly_require {holds : α → Bool} {text : α → String} {x : Checked α}
    (hx : FailsOnly ArePlaced x) : FailsOnly ArePlaced (require holds text x) := by
  unfold require
  split
  · split
    · exact failsOnly_ok _
    · exact failsOnly_refuse _ _
  · exact failsOnly_error (hx _ rfl)

theorem failsOnly_text (v : Value) : FailsOnly ArePlaced (text v) := by
  unfold text
  split
  · exact failsOnly_ok _
  · split
    · exact failsOnly_ok _
    · exact failsOnly_refuse _ _
  · exact failsOnly_refuse _ _

theorem failsOnly_someText (v : Value) : FailsOnly ArePlaced (someText v) := by
  have htext := failsOnly_text v
  unfold someText
  split
  · split
    · exact failsOnly_refuse _ _
    · exact failsOnly_ok _
  · rename_i violations hv
    exact failsOnly_error (htext violations hv)

theorem failsOnly_oneOf (choices : Named α) (v : Value) : FailsOnly ArePlaced (oneOf choices v) := by
  have htext := failsOnly_text v
  unfold oneOf
  split
  · split
    · exact failsOnly_ok _
    · exact failsOnly_refuse _ _
  · rename_i violations hv
    exact failsOnly_error (htext violations hv)

section

variable {read : Value → Checked α} (hread : ∀ v, FailsOnly ArePlaced (read v))

include hread

theorem failsOnly_optional (v : Value) : FailsOnly ArePlaced (optional read v) := by
  unfold optional
  split
  · exact failsOnly_ok _
  · exact failsOnly_map (hread v)

theorem failsOnly_list (v : Value) : FailsOnly ArePlaced (list read v) := by
  have hitems (items : List Value) : FailsOnly ArePlaced
      (all (items.mapIdx fun i item => within (placeOf (.int i)) (read item))) := by
    refine failsOnly_all fun x hx => ?_
    obtain ⟨i, hi, rfl⟩ := List.mem_mapIdx.mp hx
    exact failsOnly_within (isExpressible_placeOf _) (hread _)
  unfold list
  split
  · exact hitems _
  · exact hitems _
  · exact hitems _
  · exact failsOnly_refuse _ _

theorem failsOnly_named (v : Value) : FailsOnly ArePlaced (named read v) := by
  have hentries (entries : Entries) : FailsOnly ArePlaced (all (entries.map fun entry =>
      within (placeOf entry.1)
        (apply ((within (.str "[key]") (text entry.1)).map Prod.mk) (read entry.2)))) := by
    refine failsOnly_all (List.forall_mem_map.mpr fun entry _ => ?_)
    refine failsOnly_within (isExpressible_placeOf entry.1) (failsOnly_apply ?_ (hread entry.2))
    exact failsOnly_map (failsOnly_within rfl (failsOnly_text entry.1))
  unfold named
  split
  · exact failsOnly_map (hentries _)
  · exact failsOnly_map (hentries _)
  · exact failsOnly_refuse _ _

theorem failsOnly_field (entries : Entries) (key : String) (usual : α) :
    FailsOnly ArePlaced (field entries key usual read) := by
  unfold field
  split
  · exact failsOnly_ok _
  · exact failsOnly_within rfl (hread _)

end

end Checked

open Checked

/-! ## Settings -/

theorem LogSettings.failsOnly_read (entries : Entries) :
    FailsOnly ArePlaced (LogSettings.read entries) := by
  refine failsOnly_require
    (failsOnly_apply (failsOnly_apply (failsOnly_apply (failsOnly_map ?_) ?_) ?_) ?_)
  · exact failsOnly_field (failsOnly_oneOf _) entries _ _
  · exact failsOnly_field (failsOnly_oneOf _) entries _ _
  · exact failsOnly_field (failsOnly_oneOf _) entries _ _
  · exact failsOnly_field (failsOnly_optional failsOnly_text) entries _ _

namespace Settings

theorem failsOnly_logSection (v : Value) : FailsOnly ArePlaced (logSection v) := by
  unfold logSection
  split
  · exact LogSettings.failsOnly_read _
  · exact LogSettings.failsOnly_read _
  · exact failsOnly_refuse _ _

theorem failsOnly_searchRoots (v : Value) : FailsOnly ArePlaced (searchRoots v) := by
  unfold searchRoots
  split
  · exact failsOnly_ok _
  · exact failsOnly_list failsOnly_text _

theorem failsOnly_pathStep (v : Value) : FailsOnly ArePlaced (pathStep v) :=
  failsOnly_require (failsOnly_someText v)

theorem failsOnly_version (v : Value) : FailsOnly ArePlaced (version v) := by
  unfold version
  split
  · exact failsOnly_ok _
  · split
    · exact failsOnly_ok _
    · exact failsOnly_refuse _ _

theorem failsOnly_validatorPaths (v : Value) : FailsOnly ArePlaced (validatorPaths v) :=
  failsOnly_require (failsOnly_named failsOnly_text v)

/-- All that is wrong with settings is at places that have JSON texts. -/
theorem failsOnly_read (entries : Entries) : FailsOnly ArePlaced (Settings.read entries) := by
  unfold Settings.read
  refine failsOnly_apply (failsOnly_apply (failsOnly_apply (failsOnly_apply (failsOnly_apply
    (failsOnly_apply (failsOnly_map ?_) ?_) ?_) ?_) ?_) ?_) ?_
  · exact failsOnly_field failsOnly_logSection entries _ _
  · exact failsOnly_field failsOnly_searchRoots entries _ _
  · exact failsOnly_field failsOnly_pathStep entries _ _
  · exact failsOnly_field failsOnly_pathStep entries _ _
  · exact failsOnly_field (failsOnly_optional failsOnly_text) entries _ _
  · exact failsOnly_field failsOnly_version entries _ _
  · exact failsOnly_field failsOnly_validatorPaths entries _ _

/-- Settings that are given one by one fail with what is wrong with them, or with a fault. -/
inductive Refuses : Failure → Prop where
  | violated {violations : List Violation} (placed : ArePlaced violations) :
      Refuses (.violations violations)
  | faulty (fault : Fault) : Refuses (.fault fault)

theorem Refuses.isExpressible {failure : Failure} (h : Refuses failure) : failure.IsExpressible := by
  cases h with
  | violated placed => exact Failure.isExpressible_violations _
  | faulty fault => exact Failure.isExpressible_fault fault

theorem failsOnly_ofEntries (entries : Entries) : FailsOnly Refuses (ofEntries entries) := by
  have hread := failsOnly_read entries
  unfold ofEntries given
  split
  · cases hentries : Settings.read entries with
    | ok s => exact failsOnly_ok s
    | error violations => exact failsOnly_error (.violated (hread violations hentries))
  · exact failsOnly_error (.faulty _)

end Settings

end PluginDescriptor
