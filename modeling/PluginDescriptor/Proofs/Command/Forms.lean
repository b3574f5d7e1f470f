import PluginDescriptor.Proofs.Command.Exit
import PluginDescriptor.Proofs.Command.Options
import PluginDescriptor.Proofs.Settings.Explicit

/-!
# The forms of what is printed

Two command lines that ask for the same in the two forms of output are carried out alike. A check in
JSON exits as one in text does, unless a registry that was loaded can be shown in one of the two forms
only: then the other exits as on a fault, though all is well (`Run.exit_forms`). Descriptors may bring
this about: keys of metadata may be of any kind, and only the values of a few of them are shown as text.
Encodings of the output may as well: those values may have characters that they lack, and JSON escapes
them.

Texts that have half of a surrogate pair among their characters, or a value inside itself, are not
followed to their values here; runs on them are set apart (`Run.IsFollowed`). Arguments, variables and
names of files are texts without such halves.
-/

set_option autoImplicit false

namespace PluginDescriptor.Command

namespace Invocation

/-! ## Lines that differ in the form -/

/-- What is asked for, in a form. -/
def printing (i : Invocation) (form : OutputForm) : Invocation := { i with form }

/-- The form that is asked for. -/
def formOf (outer : Grammar.Reading) : OutputForm :=
  if last? outer "--format" == some "json" then .json else .text

/-- What a reading of the options asks for, in a form. -/
def inForm (outer : Grammar.Reading) (form : OutputForm) : Except Stop Invocation := do
  let (command, rest) := outer.command.getD ("", [])
  let inner ← (commandGrammar command).read rest
  let extras := outer.extras ++ inner.extras
  if !extras.isEmpty then
    let shown := Text.join " " extras
    grammar.misuse s!"unrecognized arguments: {shown}"
  else
    return {
      config := last? outer "--config", roots := all outer "--search-path", form
      kind := (inner.places.lookup "kind").getD "", name := (inner.places.lookup "name").getD ""
      task := if command = "check" then .check (last? inner "--action") (all inner "--arg")
        else .help (last? inner "--template") }

theorem ofLine_eq (line : List String) :
    ofLine line = grammar.read line >>= fun outer => inForm outer (formOf outer) := rfl

theorem last?_behind (given : List (String × String)) (r : Grammar.Reading) (option : String) :
    last? (r.behind given) option = (last? r option).or (given.reverse.lookup option) := by
  unfold last? Grammar.Reading.behind
  rw [List.reverse_append, List.lookup_append]

theorem all_behind (given : List (String × String)) (r : Grammar.Reading) (option : String) :
    all (r.behind given) option = (given.filter (·.1 == option)).map (·.2) ++ all r option := by
  unfold all Grammar.Reading.behind
  rw [List.filter_append, List.map_append]

/-- The options that ask for a form, after others. -/
def withForm (given : List (String × String)) (form : String) : List (String × String) :=
  given ++ [("--format", form)]

theorem lookup_withForm (given : List (String × String)) (form : String) :
    (withForm given form).reverse.lookup "--format" = some form := by
  rw [withForm, List.reverse_append]
  rfl

/-- Options that ask for a form tell nothing else. -/
theorem inForm_withForm (given : List (String × String)) (f f' : String) (r : Grammar.Reading)
    (form : OutputForm) :
    inForm (r.behind (withForm given f)) form = inForm (r.behind (withForm given f')) form := by
  have hconfig : last? (r.behind (withForm given f)) "--config" =
      last? (r.behind (withForm given f')) "--config" := by
    rw [last?_behind, last?_behind, withForm, withForm, List.reverse_append, List.reverse_append]
    rfl
  have hroots : all (r.behind (withForm given f)) "--search-path" =
      all (r.behind (withForm given f')) "--search-path" := by
    rw [all_behind, all_behind, withForm, withForm, List.filter_append, List.filter_append]
    rfl
  unfold inForm
  rw [hconfig, hroots]
  rfl

theorem inForm_eq_map (outer : Grammar.Reading) (form form' : OutputForm) :
    inForm outer form' = (inForm outer form).map (·.printing form') := by
  unfold inForm
  dsimp only
  cases (commandGrammar (outer.command.getD ("", [])).1).read (outer.command.getD ("", [])).2 with
  | error stop => rfl
  | ok inner =>
    rw [ok_bind_eq, ok_bind_eq]
    split
    · rfl
    · rfl

/-- The last option that asks for a form decides; those behind come after all given in front. -/
theorem formOf_withForm (given : List (String × String)) (f : String) (r : Grammar.Reading) :
    formOf (r.behind (withForm given f)) =
      if (last? r "--format").getD f = "json" then .json else .text := by
  unfold formOf
  rw [last?_behind, lookup_withForm]
  cases last? r "--format" with
  | some f => simp
  | none => simp

/-- Two lines whose options in front ask for the two forms, and agree in all other options, ask for
the same in the two forms, or for the same altogether. -/
theorem ofLine_forms {given : List (String × String)} {textFront jsonFront : List String}
    (htext : Grammar.Spells grammar textFront (withForm given "text"))
    (hjson : Grammar.Spells grammar jsonFront (withForm given "json")) (rest : List String) :
    ofLine (textFront ++ rest) = ofLine (jsonFront ++ rest) ∨
      ∃ i : Invocation, ofLine (textFront ++ rest) = .ok (i.printing .text) ∧
        ofLine (jsonFront ++ rest) = .ok (i.printing .json) := by
  rw [ofLine_eq, ofLine_eq, Grammar.read_spelled htext, Grammar.read_spelled hjson]
  cases grammar.read rest with
  | error stop => exact .inl rfl
  | ok r =>
    rw [Except.map, Except.map, ok_bind_eq, ok_bind_eq, formOf_withForm, formOf_withForm,
      inForm_withForm given "json" "text"]
    cases last? r "--format" with
    | some f => exact .inl rfl
    | none =>
      rw [Option.getD_none, Option.getD_none, if_neg (by decide), if_pos rfl,
        inForm_eq_map _ .text .json]
      cases hread : inForm (r.behind (withForm given "text")) .text with
      | error stop => exact .inl rfl
      | ok i =>
        have hsame := inForm_eq_map (r.behind (withForm given "text")) .text .text
        rw [hread] at hsame
        exact .inr ⟨i, hsame, rfl⟩

end Invocation

namespace Run

variable (stamp stamp' : Stamp) (encoding : Text.Encoding) (around : Surroundings)

/-! ## Runs that differ in the form -/

/-- A registry is loaded and the request that is to be checked is in order, but the registry can be
shown in one form only. -/
def HangsOnForm (i : Invocation) (only : OutputForm) : Prop :=
  ∃ entity arguments r, i.task = .check entity arguments ∧
    checked around i entity arguments = .ok r ∧
    ∀ form, isShowable encoding r form = true ↔ form = only

theorem hangsOnForm_printing (i : Invocation) (form only : OutputForm) :
    HangsOnForm encoding around (i.printing form) only ↔ HangsOnForm encoding around i only :=
  Iff.rfl

theorem hangsOnForm_iff {i : Invocation} {entity : Option String} {arguments : List String}
    (htask : i.task = .check entity arguments) (only : OutputForm) :
    HangsOnForm encoding around i only ↔ ∃ r, checked around i entity arguments = .ok r ∧
      ∀ form, isShowable encoding r form = true ↔ form = only := by
  constructor
  · rintro ⟨entity', arguments', r, htask', hr⟩
    cases htask.symm.trans htask'
    exact ⟨r, hr⟩
  · rintro ⟨r, hr⟩
    exact ⟨entity, arguments, r, htask, hr⟩

/-- A check in a form exits as its work does before anything is shown, and then as the form allows. -/
theorem exit_check_printing {i : Invocation} {entity : Option String} {arguments : List String}
    (htask : i.task = .check entity arguments) (form : OutputForm) :
    (run stamp encoding around (i.printing form)).exit =
      match checked around i entity arguments with
      | .ok r => if isShowable encoding r form then exitOk else exitConfiguration
      | .error failure => failureExit failure :=
  exit_check stamp encoding around (i := i.printing form) htask

/-- A help page is shown alike in all forms. -/
theorem ending_help {i : Invocation} {template : Option String} (htask : i.task = .help template)
    (form : OutputForm) : ending encoding around (i.printing form) = ending encoding around i := by
  have hjob (c : Catalog) (files : FileTree) :
      job encoding c files (i.printing form) = job encoding c files i := by
    unfold job answer Invocation.printing
    dsimp only
    rw [htask]
  unfold ending
  simp only [hjob]
  rfl

theorem exit_help {i : Invocation} {template : Option String} (htask : i.task = .help template)
    (form form' : OutputForm) : (run stamp encoding around (i.printing form)).exit =
      (run stamp' encoding around (i.printing form')).exit := by
  rw [exit_run, exit_run, ending_help encoding around htask, ending_help encoding around htask]

/-- There are two forms. -/
theorem form_eq_of_ne {form form' other : OutputForm} (h : form ≠ other) (h' : form' ≠ other) :
    form = form' := by
  revert h h'
  cases form <;> cases form' <;> cases other <;> decide

/-- One exit code does not tell both that all is well and a fault. -/
theorem not_ok_and_fault {exit exit' : Nat} (h : exit = exit') :
    ¬ (exit = exitOk ∧ exit' = exitConfiguration) := by
  rintro ⟨hok, hfault⟩
  have hdiffer : exitOk ≠ exitConfiguration := by decide
  exact hdiffer (hok.symm.trans (h.trans hfault))

theorem exit_eq_ok_iff {showable : Bool} :
    (if showable then exitOk else exitConfiguration) = exitOk ↔ showable = true := by
  cases showable <;> decide

theorem exit_eq_configuration_iff {showable : Bool} :
    (if showable then exitOk else exitConfiguration) = exitConfiguration ↔ ¬ showable = true := by
  cases showable <;> decide

/-- The exit code hangs on the form only between all being well and a fault. -/
theorem exit_printing (i : Invocation) (form form' : OutputForm) :
    let exit := (run stamp encoding around (i.printing form)).exit
    let exit' := (run stamp' encoding around (i.printing form')).exit
    exit = exit' ∨ exit = exitOk ∧ exit' = exitConfiguration ∨
      exit = exitConfiguration ∧ exit' = exitOk := by
  intro exit exit'
  cases htask : i.task with
  | help template => exact .inl (exit_help stamp stamp' encoding around htask form form')
  | check entity arguments =>
    have hexit : exit = _ := exit_check_printing stamp encoding around htask form
    have hexit' : exit' = _ := exit_check_printing stamp' encoding around htask form'
    rw [hexit, hexit']
    cases checked around i entity arguments with
    | error failure => exact .inl rfl
    | ok r =>
      dsimp only
      cases isShowable encoding r form <;> cases isShowable encoding r form' <;> decide

/-- All is well in one form and a fault in the other, if and only if the registry that is loaded can be
shown in the one form only. -/
theorem exit_hangs_iff (i : Invocation) {only other : OutputForm} (hother : other ≠ only) :
    (run stamp encoding around (i.printing only)).exit = exitOk ∧
      (run stamp' encoding around (i.printing other)).exit = exitConfiguration ↔
      HangsOnForm encoding around i only := by
  cases htask : i.task with
  | help template =>
    apply iff_of_false
    · exact not_ok_and_fault (exit_help stamp stamp' encoding around htask only other)
    · rintro ⟨entity, arguments, r, hcheck, -⟩
      rw [htask] at hcheck
      cases hcheck
  | check entity arguments =>
    rw [hangsOnForm_iff encoding around htask, exit_check_printing stamp encoding around htask,
      exit_check_printing stamp' encoding around htask]
    cases checked around i entity arguments with
    | error failure =>
      apply iff_of_false
      · exact not_ok_and_fault rfl
      · rintro ⟨r, hr, -⟩
        cases hr
    | ok r =>
      dsimp only
      rw [exit_eq_ok_iff, exit_eq_configuration_iff]
      constructor
      · rintro ⟨honly, hnot⟩
        refine ⟨r, rfl, fun form => ⟨fun hform => ?_, fun hform => hform ▸ honly⟩⟩
        by_contra hne
        rw [form_eq_of_ne hne hother] at hform
        exact hnot hform
      · rintro ⟨r', hr', hshowable⟩
        cases hr'
        exact ⟨(hshowable only).mpr rfl, fun h => hother ((hshowable other).mp h)⟩

/-! ## Runs of lines -/

/-- How a line without a run ends does not depend on the stamp. -/
theorem exit_runLine_congr {line line' : List String}
    (h : Invocation.ofLine line = Invocation.ofLine line') :
    (runLine stamp encoding around line).exit = (runLine stamp' encoding around line').exit := by
  unfold runLine
  rw [h]
  cases Invocation.ofLine line' with
  | ok i => exact (exit_run stamp encoding around i).trans (exit_run stamp' encoding around i).symm
  | error stop => rfl

theorem runLine_of_ok {line : List String} {i : Invocation} (h : Invocation.ofLine line = .ok i) :
    runLine stamp encoding around line = run stamp encoding around i := by
  unfold runLine
  rw [h]

/-- A check of a descriptor that is in order and has a JSON text ends well in each form, if the encoding
has the characters of its text. -/
theorem exit_of_isExpressible {i : Invocation} {entity : Option String} {arguments : List String}
    {r : Registry} (htask : i.task = .check entity arguments)
    (hchecked : checked around i entity arguments = .ok r)
    (hexpressible : r.toValue.isExpressible = true) (hholds : encoding.holds (summary r) = true) :
    (run stamp encoding around i).exit = exitOk := by
  have hshowable : isShowable encoding r i.form = true := by
    cases i.form with
    | text => exact (isShowable_text hexpressible).trans hholds
    | json => exact hexpressible
  rw [exit_check stamp encoding around htask, hchecked]
  exact if_pos hshowable

/-- Lines that ask for the same altogether do not ask for it in two forms. -/
theorem not_exists_asked {textLine jsonLine : List String} {only : OutputForm}
    (hsame : Invocation.ofLine textLine = Invocation.ofLine jsonLine) :
    ¬ ∃ i, Invocation.ofLine textLine = .ok (i.printing .text) ∧
      Invocation.ofLine jsonLine = .ok (i.printing .json) ∧ HangsOnForm encoding around i only := by
  rintro ⟨i, htext, hjson, -⟩
  rw [hsame, hjson] at htext
  cases congrArg Invocation.form (Except.ok.inj htext)

/-- What lines ask for in two forms hangs on the form as any of what they ask for does. -/
theorem exists_asked_iff {textLine jsonLine : List String} {i : Invocation} {only : OutputForm}
    (htext : Invocation.ofLine textLine = .ok (i.printing .text))
    (hjson : Invocation.ofLine jsonLine = .ok (i.printing .json)) :
    (∃ i, Invocation.ofLine textLine = .ok (i.printing .text) ∧
      Invocation.ofLine jsonLine = .ok (i.printing .json) ∧ HangsOnForm encoding around i only) ↔
      HangsOnForm encoding around i only := by
  refine ⟨?_, fun h => ⟨i, htext, hjson, h⟩⟩
  rintro ⟨i', htext', -, h⟩
  rw [htext, Except.ok.injEq] at htext'
  rwa [← hangsOnForm_printing encoding around i' .text, ← htext'] at h

/-- The fault stands for a text that is not followed to its value, which the program may have one for. -/
def IsUnfollowed (fault : Fault) : Prop := fault = .tooDeep ∨ fault = .loneSurrogate

/-- What a line asks for is done without a text that is not followed to its value. -/
def IsFollowed (line : List String) : Prop :=
  ∀ i fault, Invocation.ofLine line = .ok i → ending encoding around i = .error (.fault fault) →
    ¬ IsUnfollowed fault

/-- Two lines that ask for the two forms, and agree in all else, exit with the same code, except where
they ask to check a descriptor that is in order and can be shown in one form only: then the one in that
form exits as when all is well, and the other as on a fault. -/
theorem exit_forms {given : List (String × String)} {textFront jsonFront : List String}
    (htextFront : Grammar.Spells Invocation.grammar textFront (Invocation.withForm given "text"))
    (hjsonFront : Grammar.Spells Invocation.grammar jsonFront (Invocation.withForm given "json"))
    (rest : List String) :
    let text := (runLine stamp encoding around (textFront ++ rest)).exit
    let json := (runLine stamp' encoding around (jsonFront ++ rest)).exit
    let hangsOn (only : OutputForm) := ∃ i,
      Invocation.ofLine (textFront ++ rest) = .ok (i.printing .text) ∧
      Invocation.ofLine (jsonFront ++ rest) = .ok (i.printing .json) ∧
      HangsOnForm encoding around i only
    (text = json ∨ text = exitOk ∧ json = exitConfiguration ∨
      text = exitConfiguration ∧ json = exitOk) ∧
    (IsFollowed encoding around (textFront ++ rest) →
      (text = exitOk ∧ json = exitConfiguration ↔ hangsOn .text) ∧
      (text = exitConfiguration ∧ json = exitOk ↔ hangsOn .json)) ∧
    (∀ i entity arguments r, Invocation.ofLine (textFront ++ rest) = .ok i →
      i.task = .check entity arguments → checked around i entity arguments = .ok r →
      r.toValue.isExpressible = true → encoding.holds (summary r) = true →
      text = exitOk ∧ json = exitOk) := by
  intro text json hangsOn
  obtain hsame | ⟨i, htext, hjson⟩ := Invocation.ofLine_forms htextFront hjsonFront rest
  · have hexit : text = json := exit_runLine_congr stamp stamp' encoding around hsame
    have hhangs (only : OutputForm) : ¬ hangsOn only := not_exists_asked encoding around hsame
    refine ⟨.inl hexit, fun _ => ⟨iff_of_false ?_ (hhangs _), iff_of_false ?_ (hhangs _)⟩, ?_⟩
    · exact not_ok_and_fault hexit
    · rw [and_comm]
      exact not_ok_and_fault hexit.symm
    · intro i entity arguments r hi htask hchecked hexpressible hholds
      have hok := exit_of_isExpressible stamp encoding around htask hchecked hexpressible hholds
      rw [← runLine_of_ok stamp encoding around hi] at hok
      exact ⟨hok, hexit.symm.trans hok⟩
  · have htextRun : text = (run stamp encoding around (i.printing .text)).exit :=
      congrArg Outcome.exit (runLine_of_ok stamp encoding around htext)
    have hjsonRun : json = (run stamp' encoding around (i.printing .json)).exit :=
      congrArg Outcome.exit (runLine_of_ok stamp' encoding around hjson)
    have hhangs (only : OutputForm) : hangsOn only ↔ HangsOnForm encoding around i only :=
      exists_asked_iff encoding around htext hjson
    rw [htextRun, hjsonRun]
    refine ⟨exit_printing stamp stamp' encoding around i .text .json, fun _ => ⟨?_, ?_⟩, ?_⟩
    · rw [hhangs]
      exact exit_hangs_iff stamp stamp' encoding around i (by decide)
    · rw [hhangs, and_comm]
      exact exit_hangs_iff stamp' stamp encoding around i (by decide)
    · intro i' entity arguments r hi htask hchecked hexpressible hholds
      rw [htext, Except.ok.injEq] at hi
      subst hi
      exact ⟨exit_of_isExpressible stamp encoding around htask hchecked hexpressible hholds,
        exit_of_isExpressible stamp' encoding around (i := i.printing .json) htask hchecked
          hexpressible hholds⟩

/-! ### Descriptors that can be shown in one form only -/

/-- Metadata that have a date for a key. -/
def datedMetadata : String :=
  "name: echo, description: Echo, author: me, license: L, version: 1.0.0, url: u, timeout: 10, 2024-01-02: out"

/-- Metadata with a letter outside ASCII in the description. -/
def accentedMetadata : String :=
  "name: echo, description: \u00C9cho, author: me, license: L, version: 1.0.0, url: u, timeout: 10"

/-- A search root that holds one descriptor, with these metadata. -/
def surroundingsOf (metadata : String) : Surroundings where
  files := {
    working := []
    nodes := [
      (["plugins"], .directory), (["plugins", "polaris"], .directory),
      (["plugins", "polaris", "agent"], .directory),
      (["plugins", "polaris", "agent", "echo.ddl"],
        .file (Text.encodeUtf8 ("- metadata: \x7b" ++ metadata ++ "\x7d")))] }
  environment := []

/-- What is asked for by checking this descriptor. -/
def echoInvocation : Invocation where
  config := none
  roots := ["plugins"]
  form := .text
  kind := "agent"
  name := "echo"
  task := .check none []

/-- The options in front of a line that checks this descriptor. -/
def echoFront (form : String) : List String := ["--search-path", "plugins", "--format", form]

/-- The rest of that line. -/
def echoRest : List String := ["check", "agent", "echo"]

theorem ofLine_echo :
    Invocation.ofLine (echoFront "text" ++ echoRest) = .ok (echoInvocation.printing .text) ∧
      Invocation.ofLine (echoFront "json" ++ echoRest) = .ok (echoInvocation.printing .json) :=
  ⟨toOption_eq_some_iff.mp (by decide +kernel), toOption_eq_some_iff.mp (by decide +kernel)⟩

/-- What these options give. -/
def echoSettings : Entries :=
  Entries.ofFields [(Environment.frameworkSection,
    .map (Entries.ofFields [("plugin_search_paths", .list [.str "plugins"])]))]

/-- The forms in which the descriptor with these metadata can be shown, if it is in order. -/
def formsOf (encoding : Text.Encoding) (metadata : String) : Option (List OutputForm) :=
  (Loaded.ofRaw echoSettings).toOption.bind fun loaded =>
    (checkedWith loaded.settings (surroundingsOf metadata).files echoInvocation none []).toOption.map
      fun r => [.text, .json].filter (isShowable encoding r)

theorem hangsOnForm_of_formsOf {encoding : Text.Encoding} {metadata : String} {only : OutputForm}
    (h : formsOf encoding metadata = some [only]) :
    HangsOnForm encoding (surroundingsOf metadata) echoInvocation only := by
  obtain ⟨loaded, hloaded, hrest⟩ := Option.bind_eq_some_iff.mp h
  obtain ⟨r, hr, hforms⟩ := Option.map_eq_some_iff.mp hrest
  let plan : Plan := Plan.withRoots {} ["plugins"]
  have hbuild : (plan.build (surroundingsOf metadata)).outcome =
      .ok { sources := plan.allSources, current := loaded } :=
    Plan.build_of_pairwise [[], echoSettings] (by decide +kernel) rfl
      (toOption_eq_some_iff.mp hloaded)
  have hsettings : (settings (surroundingsOf metadata) echoInvocation).outcome =
      .ok loaded.settings := by
    have hplan : settings (surroundingsOf metadata) echoInvocation =
        plan.buildSettings (surroundingsOf metadata) := rfl
    rw [hplan, Plan.buildSettings, Logged.outcome_bind, hbuild]
    rfl
  have hchecked : checked (surroundingsOf metadata) echoInvocation none [] = .ok r := by
    rw [checked, hsettings, ok_bind_eq]
    exact toOption_eq_some_iff.mp hr
  refine ⟨none, [], r, rfl, hchecked, fun form => ?_⟩
  have hmem : form ∈ [OutputForm.text, .json].filter (isShowable encoding r) ↔ form ∈ [only] := by
    rw [hforms]
  have hall : form ∈ [OutputForm.text, .json] := by cases form <;> decide
  rw [List.mem_filter, List.mem_singleton] at hmem
  exact (and_iff_right hall).symm.trans hmem

theorem hangsOnForm_dated :
    HangsOnForm .utf8 (surroundingsOf datedMetadata) echoInvocation .text :=
  hangsOnForm_of_formsOf (by decide +kernel)

theorem hangsOnForm_accented :
    HangsOnForm .ascii (surroundingsOf accentedMetadata) echoInvocation .json :=
  hangsOnForm_of_formsOf (by decide +kernel)

theorem spells_echoFront {form : String} (hform : form = "text" ∨ form = "json") :
    Grammar.Spells Invocation.grammar (echoFront form)
      (Invocation.withForm [("--search-path", "plugins")] form) := by
  have hroots : Grammar.IsRead Invocation.grammar "--search-path"
      (.option "--search-path" (some
        { spec := Invocation.textOption "--search-path", name := "--search-path", attached := none })) :=
    ⟨by decide, toOption_eq_some_iff.mp (by decide +kernel)⟩
  have hformat : Grammar.IsRead Invocation.grammar "--format"
      (.option "--format" (some
        { spec := { names := ["--format"], role := .value ["text", "json"] }, name := "--format",
          attached := none })) :=
    ⟨by decide, toOption_eq_some_iff.mp (by decide +kernel)⟩
  have hplain (s : String) (hs : s = "plugins" ∨ s = "text" ∨ s = "json") :
      Grammar.IsRead Invocation.grammar s (.plain s) := by
    rcases hs with rfl | rfl | rfl
    all_goals exact ⟨by decide, rfl⟩
  refine .apart hroots rfl (hplain _ (.inl rfl)) ⟨[], rfl, rfl⟩
    (.apart hformat rfl (hplain _ (.inr hform)) ⟨["text", "json"], rfl, ?_⟩ .none)
  rcases hform with rfl | rfl
  all_goals rfl

/-- The stamp of a run that checks this descriptor. -/
def echoStamp : Stamp where
  time := "2024-01-02T03:04:05.678901+00:00"
  run := "00000000-0000-4000-8000-000000000000"
  report := "00000000-0000-4000-8000-000000000000"

theorem isFollowed_dated :
    IsFollowed .utf8 (surroundingsOf datedMetadata) (echoFront "text" ++ echoRest) := by
  obtain ⟨entity, arguments, r, htask, hchecked, hshowable⟩ := hangsOnForm_dated
  obtain ⟨s, hs⟩ := (display_eq_ok_iff .utf8 .text r).mpr ((hshowable .text).mpr rfl)
  have hending : ending .utf8 (surroundingsOf datedMetadata) (echoInvocation.printing .text) = .ok s := by
    rw [ending_check _ _ (i := echoInvocation.printing .text) htask]
    exact bind_eq_ok_iff.mpr ⟨r, hchecked, hs⟩
  intro i fault hi hfault
  rw [ofLine_echo.1, Except.ok.injEq] at hi
  rw [← hi, hending] at hfault
  cases hfault

/-- The two lines agree in all but the form, the work of both is followed to its end, and their exit
codes differ. -/
theorem exit_forms_dated :
    Grammar.Spells Invocation.grammar (echoFront "text")
        (Invocation.withForm [("--search-path", "plugins")] "text") ∧
      Grammar.Spells Invocation.grammar (echoFront "json")
        (Invocation.withForm [("--search-path", "plugins")] "json") ∧
      IsFollowed .utf8 (surroundingsOf datedMetadata) (echoFront "text" ++ echoRest) ∧
      (runLine echoStamp .utf8 (surroundingsOf datedMetadata) (echoFront "text" ++ echoRest)).exit =
        exitOk ∧
      (runLine echoStamp .utf8 (surroundingsOf datedMetadata) (echoFront "json" ++ echoRest)).exit =
        exitConfiguration := by
  have htext := spells_echoFront (.inl rfl)
  have hjson := spells_echoFront (.inr rfl)
  have hforms := exit_forms echoStamp echoStamp .utf8 (surroundingsOf datedMetadata) htext hjson
    echoRest
  have hasked : ∃ i, Invocation.ofLine (echoFront "text" ++ echoRest) = .ok (i.printing .text) ∧
      Invocation.ofLine (echoFront "json" ++ echoRest) = .ok (i.printing .json) ∧
      HangsOnForm .utf8 (surroundingsOf datedMetadata) i .text :=
    ⟨echoInvocation, ofLine_echo.1, ofLine_echo.2, hangsOnForm_dated⟩
  exact ⟨htext, hjson, isFollowed_dated, (hforms.2.1 isFollowed_dated).1.mpr hasked⟩

/-- The descriptor with a date for a key is in order, as the exit code in text tells, and in JSON the
exit code is that of a fault. Where the output has ASCII alone, it is the other way round for the
descriptor with another letter. -/
theorem exit_dated :
    ((runLine echoStamp .utf8 (surroundingsOf datedMetadata) (echoFront "text" ++ echoRest)).exit = 0 ∧
      (runLine echoStamp .utf8 (surroundingsOf datedMetadata) (echoFront "json" ++ echoRest)).exit =
        2) ∧
    (runLine echoStamp .ascii (surroundingsOf accentedMetadata) (echoFront "json" ++ echoRest)).exit =
        0 ∧
      (runLine echoStamp .ascii (surroundingsOf accentedMetadata)
        (echoFront "text" ++ echoRest)).exit = 2 := by
  simp only [runLine_of_ok echoStamp _ _ ofLine_echo.1, runLine_of_ok echoStamp _ _ ofLine_echo.2]
  exact ⟨(exit_hangs_iff echoStamp echoStamp .utf8 _ echoInvocation (by decide)).mpr
      hangsOnForm_dated,
    (exit_hangs_iff echoStamp echoStamp .ascii _ echoInvocation (by decide)).mpr
      hangsOnForm_accented⟩

end Run

end PluginDescriptor.Command
