import PluginDescriptor.Descriptor.Work
import PluginDescriptor.Proofs.Log.Notice

/-!
# Blocks are undone, and records name their plugin

Whatever is done inside a block, and however it ends, the variables hold afterwards what they held
before. So a load or a check, which is a block about its plugin, sets the tags of all that is left
until it ends: none of the computations inside says anything else about the plugin
(`Logged.IsUntagged`). Both are shown for every nesting of blocks (`Work.tracks_perform`).
-/

set_option autoImplicit false

namespace PluginDescriptor

/-- The notices of the computation do not say which plugin they are about. -/
def Logged.IsUntagged {α : Type} (x : Logged α) : Prop :=
  x.NotesOnly fun n => n.plugin = none

open Logged

/-! ## What is left during a load or a check -/

namespace Execution

/-- A step leaves notices that are not tagged. -/
theorem isUntagged_runStep (s : State) (step : Step) : (runStep s step).IsUntagged := by
  have hrequires (requirements : Entries) :
      ∀ n ∈ requiresNotices s.draft requirements, n.plugin = none := by
    unfold requiresNotices requirementNotices
    split
    · split
      · exact List.forall_mem_singleton.mpr rfl
      · exact List.forall_mem_nil _
    · exact List.forall_mem_nil _
  unfold runStep stepNotices
  cases step with
  | requires requirements => exact List.forall_mem_cons.mpr ⟨rfl, hrequires requirements⟩
  | _ => exact List.forall_mem_singleton.mpr rfl

theorem isUntagged_runSteps (s : State) (steps : List Step) : (runSteps s steps).IsUntagged := by
  induction steps generalizing s with
  | nil => exact notesOnly_pure s
  | cons step rest ih => exact notesOnly_bind (isUntagged_runStep s step) fun s' _ => ih s'

theorem isUntagged_execute (s : Subject) (host source : String) :
    (execute s host source).IsUntagged := by
  unfold execute executeDocument
  refine notesOnly_bind (notesOnly_of _) fun document _ => ?_
  refine notesOnly_bind (notesOnly_of _) fun steps _ => ?_
  exact notesOnly_bind (isUntagged_runSteps _ steps) fun final _ => notesOnly_of _

end Execution

theorem Catalog.isUntagged_run (files : FileTree) (host : String) (s : Subject) (p : Path) :
    (run files host s p).IsUntagged := by
  unfold run
  refine notesOnly_bind (notesOnly_of _) fun source _ => ?_
  refine notesOnly_bind (Execution.isUntagged_execute s host source) fun r _ => ?_
  exact notesOnly_bind (notesOnly_note rfl) fun _ _ => notesOnly_pure r

theorem Validators.isUntagged_load (modules : Modules) (t : Validators) :
    (t.load modules).IsUntagged := by
  unfold load
  split
  · exact notesOnly_pure t
  · refine notesOnly_bind (notesOnly_of _) fun vs _ => ?_
    exact notesOnly_bind (notesOnly_note rfl) fun _ _ => notesOnly_pure _

namespace Request

variable (modules : Modules) (about : Option Subject) (e : Entity) (arguments : Entries)

theorem isUntagged_checkSupplied (t : Validators) (inputs : List (Value × InputSpec)) :
    (checkSupplied modules t about e arguments inputs).IsUntagged := by
  induction inputs generalizing t with
  | nil => exact notesOnly_pure ()
  | cons input rest ih =>
    rw [checkSupplied]
    split
    · exact ih t
    · refine notesOnly_bind ?_ fun _ _ => ih _
      unfold checkArgument
      exact notesOnly_bind (Validators.isUntagged_load modules t) fun loaded _ => notesOnly_of _

theorem isUntagged_check (t : Validators) :
    (check modules t about e arguments).IsUntagged := by
  have hundeclared : ∀ n ∈ undeclaredNotices e arguments, n.plugin = none := by
    intro n hn
    obtain ⟨entry, -, rfl⟩ := List.mem_map.mp hn
    rfl
  unfold check
  dsimp only
  split
  · exact notesOnly_bind (notesOnly_fail _) fun _ _ =>
      notesOnly_bind (isUntagged_checkSupplied modules about e arguments t e.inputs) fun _ _ =>
        hundeclared
  · exact notesOnly_bind (isUntagged_checkSupplied modules about e arguments t e.inputs) fun _ _ =>
      hundeclared

end Request

/-! ## Blocks -/

namespace Work

/-- What was left during a load or a check becomes a record with its kind and its name. -/
def Left.IsNamed (l : Left) : Prop :=
  ∀ s, l.during = some s → ∀ time,
    (l.notice.record time).find? "plugin_kind" = some (.str s.kind) ∧
      (l.notice.record time).find? "plugin_name" = some (.str s.name)

/-- The variables hold what they held in a context, and all that was left during loads and checks is
named. -/
structure Done.Tracks (c : LogContext) (done : Done) : Prop where
  restored : done.context = c
  named : ∀ l ∈ done.left, l.IsNamed

/-- Notices that no load and no check leaves. -/
theorem tracks_leaving {α : Type} (x : Logged α) (c : LogContext) :
    (leaving none x c).Tracks c := by
  refine ⟨rfl, fun l hl s hs => ?_⟩
  obtain ⟨n, -, rfl⟩ := List.mem_map.mp hl
  cases hs

/-- A block undoes what it has set, if what is done inside undoes what it sets itself. -/
theorem tracks_within {b : LogBlock} {body : LogContext → Done}
    (hbody : ∀ c, (body c).Tracks c) (c : LogContext) : (within b body c).Tracks c := by
  obtain ⟨hrestored, hnamed⟩ := hbody (b.enter c).1
  refine ⟨?_, hnamed⟩
  calc (within b body c).context
      = LogBlock.leave (body (b.enter c).1).context (b.enter c).2 := rfl
    _ = LogBlock.leave (b.enter c).1 (b.enter c).2 := by rw [hrestored]
    _ = c := b.leave_enter c

/-- All that a load or a check leaves is named for its subject. -/
theorem tracks_onBehalf {α : Type} (s : Subject) {x : Logged α} (hx : x.IsUntagged)
    (c : LogContext) : (onBehalf s x c).Tracks c := by
  refine ⟨LogBlock.leave_enter (.plugin s.tag) c, fun l hl s' hs => ?_⟩
  obtain ⟨n, hn, rfl⟩ := List.mem_map.mp hl
  cases hs
  refine Notice.find?_record ?_
  have huntagged : n.plugin = none := hx n hn
  simp only [LogContext.tag, huntagged, Option.getD_none]
  rfl

mutual

theorem tracks_perform : (w : Work) → (c : LogContext) → (w.perform c).Tracks c
  | log n, c => tracks_leaving (Logged.note n) c
  | fail failure, c => tracks_leaving (Logged.fail failure : Logged Unit) c
  | interpret files host p name kind, c => by
    rw [perform]
    exact tracks_onBehalf _ (Catalog.isUntagged_run files host _ p) c
  | check catalog modules r entity arguments, c => by
    rw [perform]
    split
    · exact tracks_leaving _ c
    · exact tracks_onBehalf _ (Request.isUntagged_check modules _ _ arguments _) c
  | block b body, c => by
    rw [perform]
    exact tracks_within (tracks_performAll body) c
  | attempt body, c => by
    obtain ⟨hrestored, hnamed⟩ := tracks_performAll body c
    rw [perform]
    exact ⟨hrestored, hnamed⟩

theorem tracks_performAll : (work : List Work) → (c : LogContext) → (performAll work c).Tracks c
  | [], c => by
    rw [performAll]
    exact ⟨rfl, List.forall_mem_nil _⟩
  | w :: rest, c => by
    obtain ⟨hrestored, hnamed⟩ := tracks_perform w c
    rw [performAll]
    dsimp only
    split
    · exact ⟨hrestored, hnamed⟩
    · obtain ⟨hlater, hlaterNamed⟩ := tracks_performAll rest c
      rw [hrestored]
      exact ⟨hlater, List.forall_mem_append.mpr ⟨hnamed, hlaterNamed⟩⟩

end

/-! ## Loads and checks as they are logged -/

/-- Notices that are tagged with a plugin once they are all there are tagged as in a block about it. -/
theorem leaving_about {α : Type} (s : Subject) (x : Logged α) (c : LogContext) :
    leaving (some s) (x.about s.tag) c = onBehalf s x c := by
  have hcontext : (onBehalf s x c).context = c := LogBlock.leave_enter (.plugin s.tag) c
  have hleft : (leaving (some s) (x.about s.tag) c).left = (onBehalf s x c).left := by
    simp only [leaving, onBehalf, within, Logged.about, Logged.mapNotices, List.map_map]
    rfl
  calc leaving (some s) (x.about s.tag) c
      = { context := c, left := (onBehalf s x c).left, outcome := (onBehalf s x c).outcome } := by
        rw [← hleft]
        rfl
    _ = onBehalf s x c := by rw [← hcontext]; rfl

/-- In a context, all that is done in blocks is undone, and loads and checks are logged under their
plugin. -/
structure IsExact (c : LogContext) : Prop where
  /-- After any work, and however it ends, the variables hold what they held before. -/
  restored : ∀ work, (performAll work c).context = c
  /-- So they do after each block. -/
  block : ∀ b body, ((block b body).perform c).context = c
  /-- Every record of a load or a check has the kind and the name of its subject. -/
  named : ∀ work, ∀ l ∈ (performAll work c).left, l.IsNamed
  /-- A load leaves the notices of `Catalog.interpret`, and ends as that does. -/
  loads : ∀ files host p name kind, (interpret files host p name kind).perform c =
    leaving (some (Catalog.subjectAt p name kind)) (Catalog.interpret files host p name kind) c
  /-- A check leaves the notices of `Catalog.checkRequest`, and ends as that does. -/
  checks : ∀ catalog modules r entity arguments,
    (check catalog modules r entity arguments).perform c =
      leaving (some (Catalog.subjectOf r)) (catalog.checkRequest modules r entity arguments) c

/-- Whatever the variables hold. -/
theorem isExact (c : LogContext) : IsExact c where
  restored work := (tracks_performAll work c).restored
  block b body := (tracks_perform (.block b body) c).restored
  named work := (tracks_performAll work c).named
  loads files host p name kind := by
    rw [perform, Catalog.interpret, leaving_about]
  checks catalog modules r entity arguments := by
    rw [perform, Catalog.checkRequest]
    cases Catalog.entity r entity with
    | error failure => rfl
    | ok e => exact (leaving_about _ _ c).symm

end Work

end PluginDescriptor
