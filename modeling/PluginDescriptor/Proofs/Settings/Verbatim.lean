import PluginDescriptor.Proofs.Settings.Landing

/-!
# Texts in the environment

Some settings of the framework are one text each: names, versions and paths. The variable of such a
setting holds its text as it is, also when the text reads as a truth value or a number. The file that
log records go to is the exception: a truth value or a number in its place is held as one
(`Source.read_keepsText`).
-/

set_option autoImplicit false

namespace PluginDescriptor

namespace Environment

/-! ## What texts are read as -/

/-- What follows the lead in the name of the variable for the file that log records go to. -/
def logFileName : String := "framework_logging_config_file_path"

/-- The variables of settings that are one text each, by what follows the lead in their names, with
the places of the settings. -/
def textPlaces : Named (List String) :=
  [("framework_descriptor_namespace", ["framework", "descriptor_namespace"]),
    ("framework_descriptor_extension", ["framework", "descriptor_extension"]),
    ("framework_help_template_dir", ["framework", "help_template_dir"]),
    ("framework_platform_version", ["framework", "platform_version"]),
    (logFileName, ["framework", "logging_config", "file_path"])]

/-- A text can be read as a truth value or as a whole number. -/
inductive ReadsAs (text : String) : Value → Prop where
  | affirmed (h : Text.lower text = "true") : ReadsAs text (.bool true)
  | denied (h : Text.lower text = "false") : ReadsAs text (.bool false)
  | number {i : Int} (h : Text.readInt 10 text = .ok i) : ReadsAs text (.int i)

/-- All of these variables but one are known to hold texts. -/
theorem exists_frameworkField?_of_mem_textPlaces :
    ∀ entry ∈ textPlaces, entry.1 ≠ logFileName →
      ∃ field ∈ frameworkField? entry.1, field ≠ "plugin_search_paths" := by
  decide +kernel

/-- What is known as a text keeps it. -/
theorem valueOf_of_frameworkField? {name field : String} (h : frameworkField? name = some field)
    (hne : field ≠ "plugin_search_paths") (text : String) : valueOf name text = .str text := by
  rw [valueOf, h]
  split
  · rename_i hroots
    exact (hne (Option.some.inj hroots)).elim
  · rfl
  · rename_i hnone
    cases hnone

/-- Anything else keeps its text only if that can be read as nothing else. -/
theorem valueOf_cases {name : String} (h : frameworkField? name = none) (text : String) :
    ReadsAs text (valueOf name text) ∨
      valueOf name text = .str text ∧ ∀ v, ¬ ReadsAs text v := by
  rw [valueOf, h]
  dsimp only
  split
  · rename_i htrue
    exact .inl (.affirmed htrue)
  · rename_i htrue
    split
    · rename_i hfalse
      exact .inl (.denied hfalse)
    · rename_i hfalse
      cases hread : Text.readInt 10 text with
      | ok i => exact .inl (.number hread)
      | error fault =>
        refine .inr ⟨rfl, fun v hv => ?_⟩
        cases hv with
        | affirmed h => exact htrue h
        | denied h => exact hfalse h
        | number h => cases hread.symm.trans h

/-! ## Where they are held -/

/-- The name of each of these variables leads to the place of its setting. -/
theorem path_of_mem_textPlaces :
    ∀ entry ∈ textPlaces, (Slot.ofName entry.1).path = entry.2 := by
  decide +kernel

/-- One of these variables gives its place what its text is read as. -/
theorem gives_of_mem_textPlaces {name : String} {path : List String} (h : (name, path) ∈ textPlaces)
    (lead text : String) {suffix : String} (hsuffix : Text.lower suffix = name) :
    Gives lead (Text.upper lead ++ suffix, text) path (valueOf name text) := by
  refine ⟨suffix, rfl, ?_, by rw [hsuffix]⟩
  rw [hsuffix, leadsTo_iff]
  exact path_of_mem_textPlaces _ h

variable {lead : String}

theorem touches_iff_exists_slotOf? {q : List String} {x : String × String} :
    Touches lead q x ↔ ∃ slot ∈ slotOf? lead x, Overlap slot.path q := by
  constructor
  · rintro ⟨slot, v, hslot, hoverlap⟩
    exact ⟨slot, slotOf?_eq_some_iff.mpr ⟨v, hslot⟩, hoverlap⟩
  · rintro ⟨slot, hslot, hoverlap⟩
    obtain ⟨v, hv⟩ := slotOf?_eq_some_iff.mp hslot
    exact ⟨slot, v, hv, hoverlap⟩

instance (lead : String) (q : List String) (x : String × String) : Decidable (Touches lead q x) :=
  decidable_of_iff' _ touches_iff_exists_slotOf?

/-- The last variable that touches its own place settles what is found there. -/
theorem foundAt?_of_last {x : String × String} {path : List String} {v : Value}
    (hx : Gives lead x path v) {earlier later : Environment}
    (hopen : IsOpen lead (earlier ++ x :: later)) (hlater : ∀ y ∈ later, ¬ Touches lead path y) :
    ∃ entries, read lead (earlier ++ x :: later) = .ok entries ∧
      entries.foundAt? path = some (.leaf v) := by
  obtain ⟨entries, hread, hfound⟩ := read_of_isOpen hopen
  have htouches : Touches lead path x := touches_iff.mpr ⟨path, v, hx, .inl List.prefix_rfl⟩
  obtain ⟨slot, hsetting, rfl⟩ := gives_iff.mp hx
  refine ⟨entries, hread, ?_⟩
  rw [hfound, foldl_settled_of_last htouches hlater, settled_of_settingOf? hsetting]
  exact overwritten_eq_leaf_iff.mpr ⟨rfl, rfl⟩

end Environment

namespace Source

/-- A variable of a setting that is one text is set, among any others. If no variable goes through a
section or a group that one before it has set as a whole, and none after it touches the place of the
setting, then the environment is read without a fault, and the text itself is held at that place. Only
the file that log records go to is held as a truth value or a number, if its text can be read so. -/
theorem read_keepsText (files : FileTree) (lead : String) (priority : Int) {name : String}
    {path : List String} (hplace : (name, path) ∈ Environment.textPlaces) {suffix : String}
    (hsuffix : Text.lower suffix = name) (text : String) {earlier later : Environment}
    (hopen : Environment.IsOpen lead (earlier ++ (Text.upper lead ++ suffix, text) :: later))
    (hlater : ∀ y ∈ later, ¬ Environment.Touches lead path y) :
    ∃ entries v, (Source.environment lead priority).read
        ⟨files, earlier ++ (Text.upper lead ++ suffix, text) :: later⟩ = .ok entries ∧
      entries.foundAt? path = some (.leaf v) ∧
      (name ≠ Environment.logFileName → v = .str text) ∧
      (name = Environment.logFileName → Environment.ReadsAs text v ∨
        v = .str text ∧ ∀ w, ¬ Environment.ReadsAs text w) := by
  have hgives := Environment.gives_of_mem_textPlaces hplace lead text hsuffix
  obtain ⟨entries, hread, hfound⟩ := Environment.foundAt?_of_last hgives hopen hlater
  refine ⟨entries, _, congrArg Failure.ofFault hread, hfound, fun hname => ?_, fun hname => ?_⟩
  · obtain ⟨field, hfield, hne⟩ :=
      Environment.exists_frameworkField?_of_mem_textPlaces _ hplace hname
    exact Environment.valueOf_of_frameworkField? hfield hne text
  · have hnone : Environment.frameworkField? Environment.logFileName = none := by decide +kernel
    exact Environment.valueOf_cases (hname ▸ hnone) text

/-- The version of the host as a numeral with zeros in front, set twice, with a variable of the same
section after it. -/
theorem read_keepsText_version :
    Environment.IsOpen Environment.usualLead
      [("POLARIS_DDL_FRAMEWORK_PLATFORM_VERSION", "2"),
        ("POLARIS_DDL_Framework_Platform_Version", "007"),
        ("POLARIS_DDL_FRAMEWORK_LOGGING_CONFIG_LEVEL", "DEBUG")] ∧
    ∃ entries, usualEnvironment.read ⟨default,
        [("POLARIS_DDL_FRAMEWORK_PLATFORM_VERSION", "2"),
          ("POLARIS_DDL_Framework_Platform_Version", "007"),
          ("POLARIS_DDL_FRAMEWORK_LOGGING_CONFIG_LEVEL", "DEBUG")]⟩ = .ok entries ∧
      entries.foundAt? ["framework", "platform_version"] = some (.leaf (.str "007")) := by
  have hopen : Environment.IsOpen Environment.usualLead
      ([("POLARIS_DDL_FRAMEWORK_PLATFORM_VERSION", "2")] ++
        (Text.upper Environment.usualLead ++ "Framework_Platform_Version", "007") ::
          [("POLARIS_DDL_FRAMEWORK_LOGGING_CONFIG_LEVEL", "DEBUG")]) := by
    decide +kernel
  have hname : Text.upper Environment.usualLead ++ "Framework_Platform_Version" =
      "POLARIS_DDL_Framework_Platform_Version" := by
    decide +kernel
  have hplace : ("framework_platform_version", ["framework", "platform_version"]) ∈
      Environment.textPlaces := by
    decide
  obtain ⟨entries, v, hread, hfound, hkept, -⟩ :=
    read_keepsText default Environment.usualLead environmentPriority hplace (by decide +kernel)
      "007" hopen (by decide +kernel)
  rw [hname] at hopen hread
  exact ⟨hopen, entries, hread, hkept (by decide) ▸ hfound⟩

/-- The file that log records go to does not keep a text that reads as a number. -/
theorem read_numberedLog :
    usualEnvironment.read ⟨default, [("POLARIS_DDL_FRAMEWORK_LOGGING_CONFIG_FILE_PATH", "2024")]⟩ =
      .ok [(.str "framework",
        .map [(.str "logging_config", .map [(.str "file_path", .int 2024)])])] := by
  have hsettings : [("POLARIS_DDL_FRAMEWORK_LOGGING_CONFIG_FILE_PATH", "2024")].filterMap
      (Environment.settingOf? Environment.usualLead) =
        [(.member "logging_config" "file_path", .int 2024)] := by
    decide +kernel
  have hread : Environment.read Environment.usualLead
      [("POLARIS_DDL_FRAMEWORK_LOGGING_CONFIG_FILE_PATH", "2024")] =
        .ok [(.str "framework",
          .map [(.str "logging_config", .map [(.str "file_path", .int 2024)])])] := by
    rw [Environment.read_eq, hsettings]
    rfl
  exact congrArg Failure.ofFault hread

end Source

end PluginDescriptor
