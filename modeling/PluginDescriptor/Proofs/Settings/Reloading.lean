import PluginDescriptor.Proofs.Settings.Sources
import PluginDescriptor.Settings.Configuration

/-!
# Reading sources again

What a configuration holds is changed piece by piece while its sources are read, but nothing that can
fail comes after the first change: the warnings are kept once the settings have passed their check,
and settings that pass it are built a second time without fault. So reading them either leaves what
is held alone or replaces all of it (`Loading.run_fromSources`). Whatever has happened to a
configuration before, it holds what came of the last time its sources were read without fault, but
for what has been changed in place since then inside the merged settings
(`Configuration.reloads_atomic`).
-/

set_option autoImplicit false

namespace PluginDescriptor

namespace Logged

variable {α β : Type}

theorem bind_of_ok {x : Logged α} {a : α} (h : x.outcome = .ok a) (f : α → Logged β) :
    x >>= f = { f a with notices := x.notices ++ (f a).notices } := by
  cases x with
  | mk notices outcome =>
    cases h
    rfl

theorem bind_of_error {x : Logged α} {failure : Failure} (h : x.outcome = .error failure)
    (f : α → Logged β) : x >>= f = { notices := x.notices, outcome := .error failure } := by
  cases x with
  | mk notices outcome =>
    cases h
    rfl

end Logged

namespace Loading

variable {α β : Type} {around : Surroundings} {sources : List Source} {held : Loaded}

theorem run_aside_of_ok {x : Logged α} {a : α} (h : x.outcome = .ok a) (f : α → Loading β) :
    (aside x >>= f).run held = (((f a).run held).1,
      { ((f a).run held).2 with notices := x.notices ++ ((f a).run held).2.notices }) := by
  cases x with
  | mk notices outcome =>
    cases h
    rfl

theorem run_aside_of_error {x : Logged α} {failure : Failure} (h : x.outcome = .error failure)
    (f : α → Loading β) :
    (aside x >>= f).run held = (held, { notices := x.notices, outcome := .error failure }) := by
  cases x with
  | mk notices outcome =>
    cases h
    rfl

theorem run_write_bind (change : Loaded → Loaded) (f : Unit → Loading β) :
    (write change >>= f).run held = (f ()).run (change held) := rfl

theorem run_fromRaw_of_error {raw : Entries} {failure : Failure}
    (h : Loaded.ofRaw raw = .error failure) : (fromRaw raw).run held =
      (held, Loaded.noteFailure "Configuration validation failed" (.error failure)) := by
  rw [Loaded.ofRaw, bind_eq_error_iff] at h
  obtain hcheck | ⟨warnings, hcheck, hrest⟩ := h
  · rw [fromRaw, hcheck]
    rfl
  · -- the settings have passed the check, so that building them again cannot fail
    obtain ⟨⟨settings, hsettings⟩, -, -⟩ := Loaded.validate_eq_ok_iff.mp hcheck
    rw [Loaded.given_of_settingsOf hsettings] at hrest
    cases hrest

theorem run_fromRaw_of_ok {raw : Entries} {loaded : Loaded} (h : Loaded.ofRaw raw = .ok loaded) :
    (fromRaw raw).run held = (loaded, Loaded.noteWarnings loaded.warnings) := by
  rw [Loaded.ofRaw] at h
  obtain ⟨warnings, hcheck, hrest⟩ := bind_eq_ok_iff.mp h
  obtain ⟨settings, hgiven, hend⟩ := bind_eq_ok_iff.mp hrest
  cases hend
  have hnoted : (Loaded.noteFailure "Configuration validation failed" (.ok warnings)).outcome =
      .ok warnings := rfl
  have hwarned := Loaded.outcome_noteWarnings warnings
  have hbuilt : (Logged.of (Loaded.given raw)).outcome = .ok settings := hgiven
  rw [fromRaw, hcheck, run_aside_of_ok hnoted, run_write_bind, run_aside_of_ok hwarned,
    run_write_bind, run_aside_of_ok hbuilt]
  generalize Loaded.noteWarnings warnings = noted at hwarned
  cases noted with
  | mk notices outcome =>
    cases hwarned
    simp [write, Loaded.noteFailure, Logged.ok, Logged.of]

/-- Reading sources leaves what is held alone if it fails, and otherwise replaces all of it by what is
made of them. -/
theorem run_fromSources : (fromSources around sources).run held =
    ((Loaded.ofSources around sources).outcome.toOption.getD held,
      Loaded.ofSources around sources >>= fun _ => .ok ()) := by
  rw [fromSources, Loaded.ofSources]
  cases hread : (Loaded.readAll around (Loaded.inOrder sources)).outcome with
  | error failure =>
    rw [run_aside_of_error hread, Logged.bind_of_error hread]
    rfl
  | ok layers =>
    rw [run_aside_of_ok hread, Logged.bind_of_ok hread]
    cases hraw : Loaded.ofRaw (Entries.mergeAll layers) with
    | error failure =>
      rw [run_fromRaw_of_error hraw]
      rfl
    | ok loaded =>
      have hnoted : (Loaded.noteFailure "Configuration validation failed" (.ok loaded)).outcome =
          .ok loaded := rfl
      have hwarned := Loaded.outcome_noteWarnings loaded.warnings
      rw [run_fromRaw_of_ok hraw, Logged.bind_of_ok hnoted, Logged.bind_of_ok hwarned]
      generalize Loaded.noteWarnings loaded.warnings = noted at hwarned
      cases noted with
      | mk notices outcome =>
        cases hwarned
        simp [Loaded.noteFailure, Logged.ok, bind, Logged.andThen, pure, Except.toOption]

end Loading

namespace Loaded

/-- There is a warning of every section but that of the framework, in the order of the sections. -/
def IsWarned (held : Loaded) : Prop :=
  held.warnings =
    (held.raw.filter fun (key, _) => !key.same (.str Environment.frameworkSection)).map
      fun (key, _) => s!"Unknown configuration key: {key.text}"

/-- What is held is made of sources as they are. -/
structure IsMadeOf (around : Surroundings) (sources : List Source) (held : Loaded) : Prop where
  /-- The merged settings are what all sources hold, laid over each other by priority. -/
  merged : ∃ layers, (inOrder sources).map (Source.read around) = layers.map .ok ∧
    held.raw = Entries.mergeAll layers
  /-- The settings of the framework are built from its section. -/
  built : given held.raw = .ok held.settings
  warned : held.IsWarned

theorem unknownWarnings_eq (raw : Entries) : unknownWarnings raw =
    (raw.filter fun (key, _) => !key.same (.str Environment.frameworkSection)).map
      fun (key, _) => s!"Unknown configuration key: {key.text}" := by
  rw [unknownWarnings, unknownSections, List.filter_map, List.map_map]
  rfl

theorem isMadeOf_of_outcome {around : Surroundings} {sources : List Source} {loaded : Loaded}
    (h : (ofSources around sources).outcome = .ok loaded) : loaded.IsMadeOf around sources := by
  obtain ⟨layers, hlayers, hraw⟩ := outcome_ofSources_eq_ok_iff.mp h
  obtain ⟨hsettings, -, hmerged, hwarnings⟩ := ofRaw_eq_ok_iff.mp hraw
  refine ⟨⟨layers, hlayers, hmerged⟩, ?_, ?_⟩
  · rw [hmerged]
    exact given_of_settingsOf hsettings
  · rw [IsWarned, hwarnings, hmerged]
    exact unknownWarnings_eq _

/-- Sections stay what they are when values inside them are changed. -/
theorem IsWarned.revalued {held : Loaded} (h : held.IsWarned) (change : Value → Value → Value) :
    (held.revalued change).IsWarned := by
  unfold IsWarned at h
  rw [IsWarned, Loaded.revalued, List.filter_map, List.map_map]
  exact h

end Loaded

namespace Configuration

variable {around : Surroundings} {c : Configuration}

theorem attempt_eq : c.attempt around =
    ({ c with current := (Loaded.ofSources around c.sources).outcome.toOption.getD c.current },
      Loaded.ofSources around c.sources >>= fun _ => .ok ()) := by
  rw [attempt, Loading.run_fromSources]

theorem outcome_reload : (c.reload around).outcome =
    (Loaded.ofSources around c.sources).outcome.map fun current => { c with current } := by
  rw [reload, attempt_eq]
  simp only [Logged.outcome_bind, Logged.outcome_pure]
  cases h : (Loaded.ofSources around c.sources).outcome <;> rfl

theorem afterReload_eq : c.afterReload around =
    { c with current := (Loaded.ofSources around c.sources).outcome.toOption.getD c.current } := by
  rw [afterReload, attempt_eq]

namespace Event

/-- The sources that a configuration has after an event. -/
def sources (c : Configuration) : Event → List Source
  | vary sources _ => sources
  | add _ source => c.sources ++ [source]
  | reload _ => c.sources

/-- An event that reads the sources comes to the end of it. -/
def Loads (c : Configuration) (event : Event) : Prop :=
  event.around?.isSome = true ∧ event.outcome c = .ok ()

/-- What is held, after the values that an event changes in place. -/
def revalued (held : Loaded) : Event → Loaded
  | vary _ change => held.revalued change
  | _ => held

/-- What is held, after the values that events change in place. -/
def revaluedBy (events : List Event) (held : Loaded) : Loaded := events.foldl revalued held

theorem settings_revaluedBy (events : List Event) (held : Loaded) :
    (revaluedBy events held).settings = held.settings := by
  induction events generalizing held with
  | nil => rfl
  | cons event rest ih =>
    have hevent : (event.revalued held).settings = held.settings := by cases event <;> rfl
    exact (ih (event.revalued held)).trans hevent

theorem warnings_revaluedBy (events : List Event) (held : Loaded) :
    (revaluedBy events held).warnings = held.warnings := by
  induction events generalizing held with
  | nil => rfl
  | cons event rest ih =>
    have hevent : (event.revalued held).warnings = held.warnings := by cases event <;> rfl
    exact (ih (event.revalued held)).trans hevent

theorem isWarned_revaluedBy (events : List Event) {held : Loaded} (h : held.IsWarned) :
    (revaluedBy events held).IsWarned := by
  induction events generalizing held with
  | nil => exact h
  | cons event rest ih =>
    cases event with
    | vary sources change => exact ih (h.revalued change)
    | add around source => exact ih h
    | reload around => exact ih h

/-- An event is all or nothing to what a configuration holds. -/
structure IsAtomic (c : Configuration) (event : Event) : Prop where
  /-- One that fails changes nothing. -/
  failed : ∀ failure, event.outcome c = .error failure → (event.after c).current = c.current
  /-- One that reads the sources replaces everything by what is made of them. -/
  loaded : ∀ around, event.around? = some around → event.outcome c = .ok () →
    (event.after c).current.IsMadeOf around (event.after c).sources
  /-- One that does not read the sources changes nothing but values inside the merged settings. -/
  unread : event.around? = none → ∃ change, (event.after c).current = c.current.revalued change

theorem sources_after (event : Event) : (event.after c).sources = event.sources c := by
  cases event with
  | vary sources change => rfl
  | add around source =>
    rw [after, afterAdding, afterReload_eq]
    rfl
  | reload around =>
    rw [after, afterReload_eq]
    rfl

/-- How an event ends that reads the sources, and what is held after it. -/
theorem step {event : Event} (h : event.around? = some around) :
    event.outcome c = (Loaded.ofSources around (event.sources c)).outcome.map (fun _ => ()) ∧
    (event.after c).current =
      (Loaded.ofSources around (event.sources c)).outcome.toOption.getD c.current := by
  cases event with
  | vary sources change => cases h
  | add around source =>
    cases h
    rw [outcome, addSource, outcome_reload, map_map_eq, after, afterAdding, afterReload_eq]
    exact ⟨rfl, rfl⟩
  | reload around =>
    cases h
    rw [outcome, outcome_reload, map_map_eq, after, afterReload_eq]
    exact ⟨rfl, rfl⟩

theorem isAtomic (c : Configuration) (event : Event) : event.IsAtomic c := by
  cases haround : event.around? with
  | none =>
    cases event with
    | vary sources change =>
      refine ⟨fun failure h => ?_, fun around h => ?_, fun _ => ⟨change, rfl⟩⟩
      · cases h
      · cases h
    | add around source => cases haround
    | reload around => cases haround
  | some around =>
    obtain ⟨houtcome, hcurrent⟩ := step (c := c) haround
    cases hload : (Loaded.ofSources around (event.sources c)).outcome with
    | error failure =>
      rw [hload] at houtcome hcurrent
      refine ⟨fun _ _ => hcurrent, fun _ _ hok => ?_, fun hnone => ?_⟩
      · cases houtcome.symm.trans hok
      · cases haround.symm.trans hnone
    | ok loaded =>
      rw [hload] at houtcome hcurrent
      refine ⟨fun failure hfailed => ?_, fun around' haround' _ => ?_, fun hnone => ?_⟩
      · cases houtcome.symm.trans hfailed
      · cases haround.symm.trans haround'
        rw [hcurrent, sources_after]
        exact Loaded.isMadeOf_of_outcome hload
      · cases haround.symm.trans hnone

theorem current_after_of_not_loads {event : Event} (h : ¬ event.Loads c) :
    (event.after c).current = event.revalued c.current := by
  have hfailed (haround : event.around?.isSome = true) : (event.after c).current = c.current := by
    cases houtcome : event.outcome c with
    | error failure => exact (isAtomic c event).failed failure houtcome
    | ok u => exact (h ⟨haround, houtcome⟩).elim
  cases event with
  | vary sources change => rfl
  | add around source => exact hfailed rfl
  | reload around => exact hfailed rfl

/-- None of a row of events reads the sources to the end. -/
def NoneLoads : Configuration → List Event → Prop
  | _, [] => True
  | c, event :: rest => ¬ event.Loads c ∧ NoneLoads (event.after c) rest

/-- What a configuration holds after a row of events is made by one of them, the last that reads the
sources to the end, and if none does, it is what was held before; but for the values that are changed
in place after that. -/
theorem current_afterAll (c : Configuration) (events : List Event) :
    NoneLoads c events ∧ (afterAll c events).current = revaluedBy events c.current ∨
    ∃ earlier event later around made, events = earlier ++ event :: later ∧
      event.around? = some around ∧ event.outcome (afterAll c earlier) = .ok () ∧
      NoneLoads (event.after (afterAll c earlier)) later ∧
      Loaded.IsMadeOf around (event.sources (afterAll c earlier)) made ∧
      (afterAll c events).current = revaluedBy later made := by
  induction events generalizing c with
  | nil => exact .inl ⟨trivial, rfl⟩
  | cons first rest ih =>
    obtain ⟨hnone, hkept⟩ | ⟨earlier, event, later, around, made, rfl, hlast⟩ := ih (first.after c)
    · by_cases hfirst : first.Loads c
      · obtain ⟨hsome, hok⟩ := hfirst
        obtain ⟨around, haround⟩ := Option.isSome_iff_exists.mp hsome
        have hmade := (isAtomic c first).loaded around haround hok
        rw [sources_after] at hmade
        exact .inr ⟨[], first, rest, around, _, rfl, haround, hok, hnone, hmade, hkept⟩
      · rw [current_after_of_not_loads hfirst] at hkept
        exact .inl ⟨⟨hfirst, hnone⟩, hkept⟩
    · exact .inr ⟨first :: earlier, event, later, around, made, rfl, hlast⟩

end Event

/-- Whatever has happened to a configuration, each event that follows is all or nothing to what it
holds: the merged settings, those of the framework and the warnings. All of these are made by the last
event that read the sources to the end, of the sources as they were then. Since then, the settings of
the framework, the warnings and the sections have stayed as they were; values inside the merged
settings have been changed in place, if at all, by those who share them. -/
theorem reloads_atomic (c : Configuration) (events : List Event) :
    (∀ event : Event, event.IsAtomic (Event.afterAll c events)) ∧
    (Event.NoneLoads c events ∧
        (Event.afterAll c events).current = Event.revaluedBy events c.current ∨
      ∃ earlier event later around made, events = earlier ++ event :: later ∧
        event.around? = some around ∧ event.outcome (Event.afterAll c earlier) = .ok () ∧
        Event.NoneLoads (event.after (Event.afterAll c earlier)) later ∧
        Loaded.IsMadeOf around (event.sources (Event.afterAll c earlier)) made ∧
        (Event.afterAll c events).current = Event.revaluedBy later made ∧
        (Event.afterAll c events).current.settings = made.settings ∧
        (Event.afterAll c events).current.warnings = made.warnings ∧
        (Event.afterAll c events).current.IsWarned) := by
  refine ⟨Event.isAtomic (Event.afterAll c events), ?_⟩
  obtain hnone | ⟨earlier, event, later, around, made, hevents, haround, hok, hnone, hmade, hcurrent⟩ :=
    Event.current_afterAll c events
  · exact .inl hnone
  · refine .inr ⟨earlier, event, later, around, made, hevents, haround, hok, hnone, hmade, hcurrent, ?_⟩
    rw [hcurrent]
    exact ⟨Event.settings_revaluedBy later made, Event.warnings_revaluedBy later made,
      Event.isWarned_revaluedBy later hmade.warned⟩

end Configuration

end PluginDescriptor
