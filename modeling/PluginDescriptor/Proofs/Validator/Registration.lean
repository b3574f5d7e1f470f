import PluginDescriptor.Proofs.Descriptor.Verdict
import PluginDescriptor.Proofs.Validator.Calls

/-!
# Registering disturbs nothing else

What a value is judged by is looked up in the table under few names: that of its type and, for texts,
that of its pattern, which may be no name at all. Judging depends on nothing else in the table
(`Request.judge_congr`), and a call on a loaded table changes it under the name that it registers and
under no other. So registering a validator leaves every verdict as it was that does not ask for its
name (`Request.checkArgument_register`), and so do any number of calls for whole requests
(`Request.check_afterAll`). Built-in validators that rest on others do not look these up.
-/

set_option autoImplicit false

namespace PluginDescriptor

namespace Validators

/-! ## Tables that agree -/

/-- Two loaded tables hold the same validators under these names. -/
structure AgreeOn (names : List String) (t u : Validators) : Prop where
  loaded : t.isLoaded = true
  loaded' : u.isLoaded = true
  lookup : ∀ name ∈ names, (t.loaded.bind (·.lookup name)) = u.loaded.bind (·.lookup name)

/-- The validators of tables that agree. -/
theorem AgreeOn.exists_loaded {names : List String} {t u : Validators} (h : AgreeOn names t u) :
    ∃ vs ws, t = Request.loadedTable t.custom vs ∧ u = Request.loadedTable u.custom ws ∧
      ∀ name ∈ names, vs.lookup name = ws.lookup name := by
  obtain ⟨ht, hu, hlookup⟩ := h
  obtain ⟨vs, hvs⟩ := Option.isSome_iff_exists.mp ht
  obtain ⟨ws, hws⟩ := Option.isSome_iff_exists.mp hu
  refine ⟨vs, ws, ?_, ?_, ?_⟩
  · rw [Request.loadedTable, ← hvs]
  · rw [Request.loadedTable, ← hws]
  · intro name hname
    have hsame := hlookup name hname
    rwa [hvs, hws] at hsame

theorem AgreeOn.mono {names fewer : List String} {t u : Validators} (h : AgreeOn names t u)
    (hfewer : ∀ name ∈ fewer, name ∈ names) : AgreeOn fewer t u :=
  ⟨h.loaded, h.loaded', fun name hname => h.lookup name (hfewer name hname)⟩

theorem AgreeOn.trans {names : List String} {t u w : Validators} (h : AgreeOn names t u)
    (h' : AgreeOn names u w) : AgreeOn names t w :=
  ⟨h.loaded, h'.loaded', fun name hname => (h.lookup name hname).trans (h'.lookup name hname)⟩

/-- Tables that agree on a name answer alike about it. -/
theorem AgreeOn.get {name : String} {t u : Validators} (h : AgreeOn [name] t u) :
    t.get (.str name) = u.get (.str name) := by
  obtain ⟨vs, ws, ht, hu, hlookup⟩ := h.exists_loaded
  have hvs : t.loaded = some vs := by rw [ht, Request.loadedTable]
  have hws : u.loaded = some ws := by rw [hu, Request.loadedTable]
  rw [get_of_loaded hvs, get_of_loaded hws, hlookup name (List.mem_singleton.mpr rfl)]

theorem AgreeOn.validate {name : String} {t u : Validators} (h : AgreeOn [name] t u)
    (value : Value) : t.validate value (.str name) = u.validate value (.str name) := by
  unfold Validators.validate
  rw [h.get]

/-! ## Calls -/

variable {modules : Modules}

theorem loaded_after_register {t : Validators} {vs : Named Validator} (hvs : t.loaded = some vs)
    (name : String) (f : Validator) :
    ((Call.register name f).after modules t).loaded = some (.assign name f vs) := by
  rw [Call.after_register, hvs]
  rfl

/-- A call on a loaded table leaves what is under a name alone, unless it registers it. -/
theorem agreeOn_after {t : Validators} (ht : t.isLoaded = true) (c : Call) {names : List String}
    (hnames : ∀ name f, c.registration? = some (name, f) → name ∉ names) :
    AgreeOn names t (c.after modules t) := by
  cases c with
  | register name f =>
    obtain ⟨vs, hvs⟩ := Option.isSome_iff_exists.mp ht
    have hafter : ((Call.register name f).after modules t).loaded = some (.assign name f vs) :=
      loaded_after_register hvs name f
    refine ⟨ht, Option.isSome_of_eq_some hafter, fun other hother => ?_⟩
    have hne : other ≠ name := fun heq => hnames name f rfl (heq ▸ hother)
    rw [hafter, hvs, Option.bind_some, Option.bind_some, Named.lookup_assign, if_neg hne]
  | load =>
    have hafter : Call.load.after modules t = t := afterLoad_of_isLoaded ht
    rw [hafter]
    exact ⟨ht, ht, fun other _ => rfl⟩
  | _ => exact ⟨ht, ht, fun other _ => rfl⟩

/-- Calls on a loaded table leave what is under names alone that none of them registers. -/
theorem agreeOn_afterAll {names : List String} (calls : List Call)
    (hnames : ∀ c ∈ calls, ∀ name f, c.registration? = some (name, f) → name ∉ names)
    {t : Validators} (ht : t.isLoaded = true) : AgreeOn names t (Call.afterAll modules t calls) := by
  induction calls generalizing t with
  | nil => exact ⟨ht, ht, fun other _ => rfl⟩
  | cons c calls ih =>
    obtain ⟨hfirst, hrest⟩ := List.forall_mem_cons.mp hnames
    have hstep : AgreeOn names t (c.after modules t) := agreeOn_after ht c hfirst
    exact hstep.trans (ih hrest hstep.loaded')

end Validators

namespace Request

open Validators

/-! ## What judging asks for -/

/-- The names that a table is asked for when a value is judged by a declaration. -/
def consulted (spec : InputSpec) : List String :=
  if spec.type = "string" then
    if patternOf spec = "" then ["string"] else ["string", patternOf spec]
  else if spec.type = "list" then []
  else [spec.type]

variable {modules : Modules} {t u : Validators}

/-- Judging depends on a table by what is under the names that it asks for. -/
theorem judge_congr {spec : InputSpec} (h : AgreeOn (consulted spec) t u) (value : Value) :
    judge t spec value = judge u spec value := by
  obtain ⟨vs, ws, ht, hu, hlookup⟩ := h.exists_loaded
  rw [ht, hu]
  by_cases htext : spec.type = "string"
  · rw [consulted, if_pos htext] at hlookup
    rw [judge_text htext, judge_text htext, validate_loadedTable, validate_loadedTable]
    by_cases hpattern : patternOf spec = ""
    · rw [if_pos hpattern, List.forall_mem_singleton] at hlookup
      rw [if_pos hpattern, if_pos hpattern, hlookup]
      rfl
    · rw [if_neg hpattern, List.forall_mem_cons, List.forall_mem_singleton] at hlookup
      obtain ⟨hstring, hnamed⟩ := hlookup
      rw [if_neg hpattern, if_neg hpattern, checkPattern_loadedTable, checkPattern_loadedTable,
        hstring, hnamed]
      rfl
  · by_cases hchoice : spec.type = "list"
    · rw [judge_choice hchoice, judge_choice hchoice, checkMembership_loadedTable,
        checkMembership_loadedTable]
    · rw [consulted, if_neg htext, if_neg hchoice, List.forall_mem_singleton] at hlookup
      rw [judge_typed htext hchoice, judge_typed htext hchoice, validate_loadedTable,
        validate_loadedTable, hlookup]

theorem checkArgument_of_isLoaded (ht : t.isLoaded = true) (about : Option Subject)
    (entity : String) (key : Value) (spec : InputSpec) (value : Value) :
    checkArgument modules t about entity key spec value =
      Logged.of (checkValue t about entity key spec value) := by
  rw [checkArgument, load_of_isLoaded ht]
  rfl

/-- A value is accepted, or refused in the same way, by tables that agree on the names asked for. -/
theorem checkArgument_congr {spec : InputSpec} (h : AgreeOn (consulted spec) t u)
    (about : Option Subject) (entity : String) (key value : Value) :
    checkArgument modules t about entity key spec value =
      checkArgument modules u about entity key spec value := by
  rw [checkArgument_of_isLoaded h.loaded, checkArgument_of_isLoaded h.loaded', checkValue,
    checkValue, judge_congr h]

/-- The names that a table is asked for when a request for an entity is checked. -/
def consultedBy (e : Entity) : List String := e.inputs.flatMap fun input => consulted input.2

theorem checkSupplied_congr (about : Option Subject) (e : Entity) (arguments : Entries)
    {inputs : List (Value × InputSpec)}
    (h : AgreeOn (inputs.flatMap fun input => consulted input.2) t u) :
    checkSupplied modules t about e arguments inputs =
      checkSupplied modules u about e arguments inputs := by
  induction inputs with
  | nil => rfl
  | cons input rest ih =>
    obtain ⟨name, spec⟩ := input
    rw [List.flatMap_cons] at h
    have hfirst : AgreeOn (consulted spec) t u :=
      h.mono fun name hname => List.mem_append_left _ hname
    have hrest := ih (h.mono fun name hname => List.mem_append_right _ hname)
    rw [checkSupplied, checkSupplied]
    cases arguments.get? name with
    | none => exact hrest
    | some value =>
      dsimp only
      rw [checkArgument_congr hfirst, afterLoad_of_isLoaded h.loaded, afterLoad_of_isLoaded h.loaded',
        hrest]

/-- A request is judged alike by tables that agree on the names that it asks for. -/
theorem check_congr {e : Entity} (h : AgreeOn (consultedBy e) t u) (about : Option Subject)
    (arguments : Entries) :
    check modules t about e arguments = check modules u about e arguments := by
  unfold check
  rw [checkSupplied_congr about e arguments h]

/-! ## Registering -/

/-- The names asked for are that of the type, but for choices, and the pattern of a text. -/
theorem not_mem_consulted {spec : InputSpec} {name : String}
    (h : spec.type = "list" ∨
      (name ≠ spec.type ∧ (spec.type = "string" → spec.validation ≠ some name))) :
    name ∉ consulted spec := by
  unfold consulted
  split
  · rename_i htext
    obtain hchoice | ⟨htype, hvalidation⟩ := h
    · rw [htext] at hchoice
      exact absurd hchoice (by decide)
    · rw [htext] at htype
      split
      · exact fun hmem => htype (List.mem_singleton.mp hmem)
      · rename_i hpattern
        intro hmem
        obtain hstring | hnamed := List.mem_cons.mp hmem
        · exact htype hstring
        · have hname := List.mem_singleton.mp hnamed
          apply hvalidation htext
          cases hspec : spec.validation with
          | none =>
            rw [patternOf, hspec] at hpattern
            exact absurd rfl hpattern
          | some pattern => rw [hname, patternOf, hspec, Option.getD_some]
  · split
    · exact List.not_mem_nil
    · rename_i hchoice
      obtain hlist | ⟨htype, -⟩ := h
      · exact absurd hlist hchoice
      · exact fun hmem => htype (List.mem_singleton.mp hmem)

/-- Registering a validator on a loaded table disturbs nothing else. It is found under its name; every
other name, that of a built-in validator that others rest on among them, stands for what it stood for;
and any value is accepted or refused as before, with the same error, by a declaration of another type,
unless the type is that of texts and the declaration has the name for its pattern. By a declaration of
choices it is whatever the name. -/
theorem checkArgument_register (modules : Modules) {t : Validators} (ht : t.isLoaded = true)
    (name : String) (f : Validator) :
    let u := (Call.register name f).after modules t
    (Call.register name f).outcome modules t = .ok .done ∧ u.get (.str name) = .ok f ∧
      (∀ other ≠ name, u.get (.str other) = t.get (.str other) ∧
        ∀ value, u.validate value (.str other) = t.validate value (.str other)) ∧
      ∀ spec : InputSpec, (spec.type = "list" ∨
          (name ≠ spec.type ∧ (spec.type = "string" → spec.validation ≠ some name))) →
        ∀ about entity key value, checkArgument modules u about entity key spec value =
          checkArgument modules t about entity key spec value := by
  intro u
  have hagree {names : List String} (hname : name ∉ names) : AgreeOn names t u := by
    apply agreeOn_after ht
    intro other g hother
    cases hother
    exact hname
  refine ⟨?_, ?_, ?_, ?_⟩
  · rw [Call.outcome_of_loads rfl, if_pos ht]
  · obtain ⟨vs, hvs⟩ := Option.isSome_iff_exists.mp ht
    have hafter : u.loaded = some (.assign name f vs) := loaded_after_register hvs name f
    rw [get_of_loaded hafter, Named.lookup_assign, if_pos rfl]
  · intro other hother
    have hone : AgreeOn [other] t u := hagree fun hmem => hother (List.mem_singleton.mp hmem).symm
    exact ⟨hone.get.symm, fun value => (hone.validate value).symm⟩
  · intro spec hspec about entity key value
    have hspecAgree := hagree (not_mem_consulted hspec)
    exact (checkArgument_congr hspecAgree about entity key value).symm

/-- A validator that accepts all values. -/
def lenient : Validator where
  label := "lenient"
  check _ := .ok ()

/-- Letting all values pass for texts does not let them pass where a text without marks is asked for. -/
theorem checkArgument_register_lenient :
    let t := loadedTable [] Validator.builtin
    let u := (Call.register "string" lenient).after Modules.standard t
    let spec : InputSpec := { (default : InputSpec) with type := "shellsafe" }
    t.isLoaded = true ∧ "string" ≠ spec.type ∧ u.validate (.int 1) (.str "string") = .ok () ∧
      u.validate (.int 1) (.str "shellsafe") = Validator.refuse "value should be a string, got int" ∧
      checkArgument Modules.standard u none "echo" (.str "path") spec (.int 1) =
        checkArgument Modules.standard t none "echo" (.str "path") spec (.int 1) := by
  intro t u spec
  have ht : t.isLoaded = true := rfl
  have hother : "string" ≠ spec.type := by decide
  have hrefused : t.validate (.int 1) (.str "shellsafe") =
      Validator.refuse "value should be a string, got int" := rfl
  obtain ⟨-, hstring, hkept, hsame⟩ := checkArgument_register Modules.standard ht "string" lenient
  have hpassed : u.validate (.int 1) (.str "string") = .ok () := by
    unfold Validators.validate
    rw [hstring]
    rfl
  refine ⟨ht, hother, hpassed, ?_, ?_⟩
  · rw [(hkept "shellsafe" (by decide)).2, hrefused]
  · have hspec : spec.type = "string" → spec.validation ≠ some "string" :=
      fun htext => absurd htext.symm hother
    exact hsame spec (.inr ⟨hother, hspec⟩) none "echo" (.str "path") (.int 1)

/-- Whole requests are judged as before after any calls that register no name that they ask for. -/
theorem check_afterAll (ht : t.isLoaded = true) (calls : List Call) (e : Entity)
    (hcalls : ∀ c ∈ calls, ∀ name f, c.registration? = some (name, f) → name ∉ consultedBy e)
    (about : Option Subject) (arguments : Entries) :
    check modules (Call.afterAll modules t calls) about e arguments =
      check modules t about e arguments :=
  (check_congr (agreeOn_afterAll calls hcalls ht) about arguments).symm

end Request

end PluginDescriptor
