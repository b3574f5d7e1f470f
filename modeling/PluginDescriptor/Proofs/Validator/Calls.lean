import PluginDescriptor.Proofs.Named
import PluginDescriptor.Proofs.Outcome
import PluginDescriptor.Validator.Call

/-!
# What a table of validators answers

The table that calls leave is told from the calls alone (`Validators.afterAll_unloaded`): it is loaded
once one of them loads it and all custom validators can be imported, and then the validators that were
registered since stand over the imported ones, and these over the built-in ones. How every call is
answered after any others, failing ones among them, is the main statement, `Validators.behaves_afterAll`.
-/

set_option autoImplicit false

namespace PluginDescriptor.Validators

variable {modules : Modules} {custom : Named String} {t : Validators}

/-! ## Importing -/

/-- The custom validator of a name. Of several paths for a name the last counts. -/
def imported? (modules : Modules) (custom : Named String) (name : String) : Option Validator :=
  (custom.reverse.lookup name).bind fun path => (fetch modules name path).toOption

/-- What is put into a table when it is loaded: custom validators stand over built-in ones. -/
theorem lookup_fetchAll {vs : Named Validator} (h : fetchAll modules custom = .ok vs)
    (name : String) :
    vs.lookup name = (imported? modules custom name).or (Validator.builtin? name) := by
  induction custom using List.reverseRecOn generalizing vs with
  | nil =>
    cases h
    rfl
  | append_singleton custom entry ih =>
    obtain ⟨n, path⟩ := entry
    rw [fetchAll, List.foldlM_append] at h
    obtain ⟨earlier, hearlier, hlast⟩ := bind_eq_ok_iff.mp h
    obtain ⟨assigned, hassigned, hend⟩ := bind_eq_ok_iff.mp hlast
    obtain ⟨v, hv, hput⟩ := bind_eq_ok_iff.mp hassigned
    cases hput
    cases hend
    rw [Named.lookup_assign, ih hearlier, imported?, imported?, List.reverse_append,
      List.reverse_singleton, List.singleton_append, Named.lookup_cons_eq]
    by_cases hn : name = n
    · subst hn
      simp [hv, Except.toOption]
    · rw [if_neg hn, if_neg hn]

theorem nodup_names_fetchAll {vs : Named Validator} (h : fetchAll modules custom = .ok vs) :
    (Named.names vs).Nodup := by
  have hbuiltin : (Named.names Validator.builtin).Nodup := by decide
  refine foldlM_keeps (I := fun vs => (Named.names vs).Nodup) ?_ hbuiltin h
  rintro ⟨name, path⟩ - earlier later hearlier hlater
  obtain ⟨v, -, hend⟩ := bind_eq_ok_iff.mp hlater
  cases hend
  exact Named.nodup_names_assign hearlier name v

/-! ## One call -/

theorem outcome_load : (t.load modules).outcome =
    if t.isLoaded then .ok t
    else (fetchAll modules t.custom).map fun vs => { t with loaded := some vs } := by
  rw [load]
  split
  · rfl
  · rw [Logged.outcome_bind, Logged.outcome_of]
    cases fetchAll modules t.custom <;> rfl

/-- After an attempt to load it, a table holds what it held, or else what can be imported. -/
theorem afterLoad_eq : t.afterLoad modules =
    { t with loaded := t.loaded.or (fetchAll modules t.custom).toOption } := by
  rw [afterLoad, outcome_load, isLoaded]
  cases t with
  | mk paths loaded =>
    cases loaded with
    | some vs => rfl
    | none => cases fetchAll modules paths <;> rfl

namespace Call

/-- A validator is put over what a table holds once it is loaded. -/
theorem after_register (name : String) (v : Validator) : (register name v).after modules t =
    { t with loaded := (t.loaded.or (fetchAll modules t.custom).toOption).map (.assign name v) } := by
  rw [after, Validators.register, Logged.outcome_bind, outcome_load, afterLoad_eq, isLoaded]
  cases t with
  | mk paths loaded =>
    cases loaded with
    | some vs => rfl
    | none => cases fetchAll modules paths <;> rfl

/-- Loading and registering succeed on a loaded table, and elsewhere when all custom validators can
be imported. -/
theorem outcome_of_loads {c : Call} (hc : c.loads = true) : c.outcome modules t =
    if t.isLoaded then .ok .done else (fetchAll modules t.custom).map fun _ => .done := by
  cases c with
  | load =>
    rw [outcome, outcome_load]
    split
    · rfl
    · cases fetchAll modules t.custom <;> rfl
  | register name v =>
    rw [outcome, Validators.register, Logged.outcome_bind, outcome_load]
    split
    · rfl
    · cases fetchAll modules t.custom <;> rfl
  | _ => cases hc

/-- Questions leave a table as it is. -/
theorem after_of_not_loads {c : Call} (hc : c.loads = false) : c.after modules t = t := by
  cases c with
  | load => cases hc
  | register name v => cases hc
  | _ => rfl

/-- An unloaded table answers no question. -/
theorem outcome_of_not_loads {c : Call} (hc : c.loads = false) (ht : t.loaded = none) :
    c.outcome modules t = .error (.configuration .validatorsNotLoaded) := by
  have hrequired : t.required = .error (.configuration .validatorsNotLoaded) := by
    rw [required, ht]
  cases c with
  | load => cases hc
  | register name v => cases hc
  | has name => rw [outcome, Validators.has, hrequired]; rfl
  | names => rw [outcome, Validators.names, hrequired]; rfl
  | get name => rw [outcome, Validators.get, hrequired]; rfl
  | validate value name => rw [outcome, Validators.validate, Validators.get, hrequired]; rfl

/-! ## All calls -/

/-- What calls have put into a table, in order. -/
def registered (calls : List Call) : Named Validator := calls.filterMap registration?

/-- Validators put over others one after the other. -/
def putAll (vs more : Named Validator) : Named Validator :=
  more.foldl (fun vs (name, v) => Named.assign name v vs) vs

/-- What a table that is unloaded at first holds after calls: nothing before one of them loads it, or
if something cannot be imported. -/
def held (modules : Modules) (custom : Named String) (calls : List Call) :
    Option (Named Validator) :=
  (fetchAll modules custom).toOption.bind fun vs =>
    if calls.any loads then some (putAll vs (registered calls)) else none

/-- Nothing is registered without loading the table. -/
theorem registered_eq_nil {calls : List Call} (h : calls.any loads = false) :
    registered calls = [] := by
  rw [registered, List.filterMap_eq_nil_iff]
  intro c hc
  have hloads : ¬ c.loads = true := List.any_eq_false.mp h c hc
  cases c with
  | register name v => exact (hloads rfl).elim
  | _ => rfl

/-- Once a table is loaded, it holds what was registered, over what was imported. -/
theorem held_or (calls : List Call) :
    (held modules custom calls).or (fetchAll modules custom).toOption =
      (fetchAll modules custom).toOption.map fun vs => putAll vs (registered calls) := by
  rw [held]
  cases (fetchAll modules custom).toOption with
  | none => rfl
  | some vs =>
    cases h : calls.any loads with
    | true => simp
    | false => simp [registered_eq_nil h, putAll]

theorem held_concat_load (calls : List Call) : held modules custom (calls ++ [load]) =
    (held modules custom calls).or (fetchAll modules custom).toOption := by
  rw [held_or, held]
  have hnone : [load].filterMap registration? = [] := rfl
  cases (fetchAll modules custom).toOption <;> simp [loads, registered, hnone]

theorem held_concat_register (calls : List Call) (name : String) (v : Validator) :
    held modules custom (calls ++ [register name v]) =
      ((held modules custom calls).or (fetchAll modules custom).toOption).map
        (Named.assign name v) := by
  rw [held_or, held]
  cases (fetchAll modules custom).toOption <;>
    simp [loads, registered, registration?, putAll]

theorem held_concat_of_not_loads (calls : List Call) {c : Call} (hc : c.loads = false) :
    held modules custom (calls ++ [c]) = held modules custom calls := by
  have hnone : c.registration? = none := by
    cases c with
    | register name v => cases hc
    | _ => rfl
  simp [held, registered, hc, hnone]

theorem afterAll_concat (calls : List Call) (c : Call) :
    afterAll modules t (calls ++ [c]) = c.after modules (afterAll modules t calls) := by
  rw [afterAll, List.foldl_append]
  rfl

/-- The table that calls leave, told from the calls. -/
theorem afterAll_unloaded (calls : List Call) :
    afterAll modules (unloaded custom) calls = { custom, loaded := held modules custom calls } := by
  induction calls using List.reverseRecOn with
  | nil =>
    rw [held]
    cases fetchAll modules custom <;> rfl
  | append_singleton calls c ih =>
    rw [afterAll_concat, ih]
    cases c with
    | load => rw [held_concat_load, after, afterLoad_eq]
    | register name v => rw [held_concat_register, after_register]
    | _ => rw [after_of_not_loads rfl, held_concat_of_not_loads calls rfl]

end Call

/-! ## Answers -/

open Call

/-- The validator of a name after calls on a table that was unloaded at first: the one registered
last, or else the imported one, or else the built-in one. -/
def inForce? (modules : Modules) (custom : Named String) (calls : List Call) (name : String) :
    Option Validator :=
  ((registered calls).reverse.lookup name).or
    ((imported? modules custom name).or (Validator.builtin? name))

theorem lookup_held {calls : List Call} {vs : Named Validator}
    (h : held modules custom calls = some vs) (name : String) :
    vs.lookup name = inForce? modules custom calls name := by
  obtain ⟨base, hbase, hvs⟩ := Option.bind_eq_some_iff.mp h
  split at hvs
  · cases hvs
    rw [putAll, Named.lookup_foldl_assign, lookup_fetchAll (toOption_eq_some_iff.mp hbase), inForce?]
  · cases hvs

theorem nodup_names_held {calls : List Call} {vs : Named Validator}
    (h : held modules custom calls = some vs) : (Named.names vs).Nodup := by
  obtain ⟨base, hbase, hvs⟩ := Option.bind_eq_some_iff.mp h
  split at hvs
  · cases hvs
    exact Named.nodup_names_foldl_assign (nodup_names_fetchAll (toOption_eq_some_iff.mp hbase)) _
  · cases hvs

/-- Names in order stand in the order of texts, none of them twice, if none is there twice. -/
theorem pairwise_sortedNames {vs : Named Validator} (h : (Named.names vs).Nodup) :
    (sortedNames vs).Pairwise (· < ·) := by
  have hsorted : (sortedNames vs).Pairwise fun a b => decide (a ≤ b) = true := by
    refine List.pairwise_mergeSort (fun a b c hab hbc => ?_) (fun a b => ?_) _
    · exact decide_eq_true (String.le_trans (of_decide_eq_true hab) (of_decide_eq_true hbc))
    · simpa using String.le_total a b
  have hapart : (sortedNames vs).Nodup := (List.mergeSort_perm _ _).nodup_iff.mpr h
  exact (hsorted.and hapart).imp fun hab => Std.lt_of_le_of_ne (of_decide_eq_true hab.1) hab.2

theorem mem_sortedNames {vs : Named Validator} {name : String} :
    name ∈ sortedNames vs ↔ (vs.lookup name).isSome = true := by
  rw [Named.lookup_isSome_iff]
  exact List.mem_mergeSort

/-- How a table answers when these validators are in force. -/
structure Answers (modules : Modules) (t : Validators) (inForce : String → Option Validator) :
    Prop where
  has : ∀ name, (Call.has (.str name)).outcome modules t = .ok (.truth (inForce name).isSome)
  get : ∀ name, (Call.get (.str name)).outcome modules t =
    match inForce name with
    | some v => .ok (.validator v)
    | none => .error (.configuration (.validatorUnknown (.str name)))
  validate : ∀ value name, (Call.validate value (.str name)).outcome modules t =
    match inForce name with
    | some v => (v.check value).map fun _ => .done
    | none => .error (.configuration (.validatorUnknown (.str name)))
  /-- The names are those of validators in force, in the order of texts, each once. -/
  names : ∃ row, Call.names.outcome modules t = .ok (.names row) ∧ row.Pairwise (· < ·) ∧
    ∀ name, name ∈ row ↔ (inForce name).isSome = true

theorem required_of_loaded {vs : Named Validator} (ht : t.loaded = some vs) :
    t.required = .ok vs := by
  rw [required, ht]

/-- A loaded table finds a validator by its name. -/
theorem get_of_loaded {vs : Named Validator} (ht : t.loaded = some vs) (name : String) :
    t.get (.str name) =
      match vs.lookup name with
      | some v => .ok v
      | none => .error (.configuration (.validatorUnknown (.str name))) := by
  rw [Validators.get, required_of_loaded ht]
  show (match vs.lookup name with
    | some v => pure v
    | none => throw (.configuration (.validatorUnknown (.str name))) : Except Failure Validator) = _
  split <;> rfl

/-- A table answers by what it holds. -/
theorem answers_lookup {vs : Named Validator} (ht : t.loaded = some vs)
    (hapart : (Named.names vs).Nodup) : Answers modules t fun name => vs.lookup name := by
  have hrequired := required_of_loaded ht
  have hget := get_of_loaded ht
  refine ⟨fun name => ?_, fun name => ?_, fun value name => ?_,
    sortedNames vs, ?_, pairwise_sortedNames hapart, fun name => mem_sortedNames⟩
  · rw [Call.outcome, Validators.has, hrequired]
    rfl
  · rw [Call.outcome, hget]
    split <;> rfl
  · rw [Call.outcome, Validators.validate, hget]
    cases vs.lookup name <;> rfl
  · rw [Call.outcome, Validators.names, hrequired]
    rfl

/-- How a table that was unloaded at first behaves after calls. -/
structure Behaves (modules : Modules) (custom : Named String) (calls : List Call) (t : Validators) :
    Prop where
  /-- The table is loaded once a call that loads it has succeeded. -/
  loaded : t.isLoaded = true ↔ ∃ before, ∃ c : Call, ∃ rest, calls = before ++ c :: rest ∧ c.loads = true ∧
    c.outcome modules (afterAll modules (unloaded custom) before) = .ok .done
  /-- Until then it answers no question. -/
  refused : t.isLoaded = false → ∀ c : Call, c.loads = false →
    c.outcome modules t = .error (.configuration .validatorsNotLoaded)
  /-- A call that fails to load it leaves it unloaded and holding nothing. -/
  failing : ∀ (c : Call) failure, c.loads = true → c.outcome modules t = .error failure →
    c.after modules t = unloaded custom
  /-- Once loaded it stays loaded, and loading it again changes nothing. -/
  stays : t.isLoaded = true → Call.load.outcome modules t = .ok .done ∧ Call.load.after modules t = t ∧
    ∀ c : Call, (c.after modules t).isLoaded = true
  /-- Then registered validators stand over imported ones, and these over built-in ones. -/
  answers : t.isLoaded = true → Answers modules t (inForce? modules custom calls)
  /-- No name is lost. -/
  kept : ∀ more name, (Call.has (.str name)).outcome modules t = .ok (.truth true) →
    (Call.has (.str name)).outcome modules (afterAll modules t more) = .ok (.truth true)

/-- A name with a validator has one after more calls. -/
theorem inForce?_append {calls : List Call} (more : List Call) {name : String}
    (h : (inForce? modules custom calls name).isSome = true) :
    (inForce? modules custom (calls ++ more) name).isSome = true := by
  have hsplit : registered (calls ++ more) = registered calls ++ registered more :=
    List.filterMap_append
  rw [inForce?, Option.isSome_or, Bool.or_eq_true] at h ⊢
  refine h.imp_left fun hregistered => ?_
  rw [Named.lookup_isSome_iff, Named.names, List.map_reverse, List.mem_reverse] at hregistered ⊢
  rw [hsplit, List.map_append]
  exact List.mem_append_left _ hregistered

theorem isLoaded_afterAll_iff (calls : List Call) :
    (afterAll modules (unloaded custom) calls).isLoaded = true ↔
      (∃ vs, fetchAll modules custom = .ok vs) ∧ ∃ c ∈ calls, c.loads = true := by
  rw [afterAll_unloaded, isLoaded, held, ← List.any_eq_true]
  cases fetchAll modules custom with
  | error failure => simp [Except.toOption]
  | ok vs => cases calls.any loads <;> simp [Except.toOption]

/-- A call that loads the table succeeds, whatever the calls before it, when all custom validators
can be imported. -/
theorem outcome_eq_ok_iff_of_loads {c : Call} (hc : c.loads = true) (calls : List Call) :
    c.outcome modules (afterAll modules (unloaded custom) calls) = .ok .done ↔
      ∃ vs, fetchAll modules custom = .ok vs := by
  rw [outcome_of_loads hc]
  split
  · rename_i hloaded
    exact iff_of_true rfl ((isLoaded_afterAll_iff calls).mp hloaded).1
  · rw [afterAll_unloaded, map_eq_ok_iff]
    simp

/-- The table is loaded exactly when some call that loads it has succeeded. -/
theorem isLoaded_afterAll_iff_succeeded (calls : List Call) :
    (afterAll modules (unloaded custom) calls).isLoaded = true ↔
      ∃ before, ∃ c : Call, ∃ rest, calls = before ++ c :: rest ∧ c.loads = true ∧
        c.outcome modules (afterAll modules (unloaded custom) before) = .ok .done := by
  rw [isLoaded_afterAll_iff]
  constructor
  · rintro ⟨hfetched, c, hmem, hc⟩
    obtain ⟨before, rest, hsplit⟩ := List.append_of_mem hmem
    exact ⟨before, c, rest, hsplit, hc, (outcome_eq_ok_iff_of_loads hc before).mpr hfetched⟩
  · rintro ⟨before, c, rest, rfl, hc, hok⟩
    exact ⟨(outcome_eq_ok_iff_of_loads hc before).mp hok, c, List.mem_append_cons_self, hc⟩

/-- More calls do not unload the table. -/
theorem isLoaded_afterAll_append {calls : List Call} (more : List Call)
    (h : (afterAll modules (unloaded custom) calls).isLoaded = true) :
    (afterAll modules (unloaded custom) (calls ++ more)).isLoaded = true := by
  obtain ⟨hfetched, c, hmem, hc⟩ := (isLoaded_afterAll_iff calls).mp h
  exact (isLoaded_afterAll_iff _).mpr ⟨hfetched, c, List.mem_append_left _ hmem, hc⟩

/-- Until the table is loaded it answers no question. -/
theorem outcome_afterAll_of_not_isLoaded {calls : List Call} {c : Call} (hc : c.loads = false)
    (h : (afterAll modules (unloaded custom) calls).isLoaded = false) :
    c.outcome modules (afterAll modules (unloaded custom) calls) =
      .error (.configuration .validatorsNotLoaded) :=
  outcome_of_not_loads hc (Option.isNone_iff_eq_none.mp (Option.isSome_eq_false_iff.mp h))

/-- A call can only fail to load the table because something cannot be imported, so that nothing is
ever held. -/
theorem after_of_outcome_eq_error {calls : List Call} {c : Call} {failure : Failure}
    (hc : c.loads = true)
    (h : c.outcome modules (afterAll modules (unloaded custom) calls) = .error failure) :
    c.after modules (afterAll modules (unloaded custom) calls) = unloaded custom := by
  have hnothing : (fetchAll modules custom).toOption = none := by
    cases hfetched : fetchAll modules custom with
    | error _ => rfl
    | ok vs =>
      rw [(outcome_eq_ok_iff_of_loads hc calls).mpr ⟨vs, hfetched⟩] at h
      cases h
  rw [← afterAll_concat, afterAll_unloaded, held, hnothing]
  rfl

/-- Once loaded, the table answers by the validators in force. -/
theorem answers_afterAll {calls : List Call}
    (h : (afterAll modules (unloaded custom) calls).isLoaded = true) :
    Answers modules (afterAll modules (unloaded custom) calls) (inForce? modules custom calls) := by
  rw [afterAll_unloaded] at h ⊢
  obtain ⟨vs, hvs⟩ := Option.isSome_iff_exists.mp h
  have hlookup : (fun name => vs.lookup name) = inForce? modules custom calls :=
    funext (lookup_held hvs)
  rw [← hlookup]
  exact answers_lookup hvs (nodup_names_held hvs)

/-- A name that the table knows stays known. -/
theorem has_afterAll_append {calls : List Call} (more : List Call) {name : String}
    (h : (Call.has (.str name)).outcome modules (afterAll modules (unloaded custom) calls) =
      .ok (.truth true)) :
    (Call.has (.str name)).outcome modules (afterAll modules (unloaded custom) (calls ++ more)) =
      .ok (.truth true) := by
  cases hloaded : (afterAll modules (unloaded custom) calls).isLoaded with
  | false =>
    rw [outcome_afterAll_of_not_isLoaded rfl hloaded] at h
    cases h
  | true =>
    rw [(answers_afterAll hloaded).has, Except.ok.injEq, Answer.truth.injEq] at h
    rw [(answers_afterAll (isLoaded_afterAll_append more hloaded)).has, inForce?_append more h]

/-- A table that was unloaded at first refuses every question until it is loaded, all or nothing; then
it stays loaded and knows every name by what was put under it last, and no name is lost. -/
theorem behaves_afterAll (modules : Modules) (custom : Named String) (calls : List Call) :
    Behaves modules custom calls (afterAll modules (unloaded custom) calls) where
  loaded := isLoaded_afterAll_iff_succeeded calls
  refused := fun h c hc => outcome_afterAll_of_not_isLoaded hc h
  failing := fun c failure hc h => after_of_outcome_eq_error hc h
  stays := by
    intro h
    refine ⟨?_, afterLoad_of_isLoaded h, fun c => ?_⟩
    · rw [outcome_of_loads rfl, if_pos h]
    · rw [← afterAll_concat]
      exact isLoaded_afterAll_append [c] h
  answers := answers_afterAll
  kept := by
    intro more name h
    have hafter : afterAll modules (afterAll modules (unloaded custom) calls) more =
        afterAll modules (unloaded custom) (calls ++ more) := by
      rw [afterAll, afterAll, afterAll, List.foldl_append]
    rw [hafter]
    exact has_afterAll_append more h

end PluginDescriptor.Validators
