import PluginDescriptor.Proofs.Descriptor.Calls
import PluginDescriptor.Proofs.Descriptor.Declared

/-!
# Declared arguments written out

What is declared of an argument is kept in one of three ways: as a part of every argument, as a part
of the arguments of one type, or among what is extra. Written out, the argument has all of it back
(`Drafting.input_writesOut`), except that what has a meaning for the arguments of another type alone
is lost: it is no part of this argument, and it does not count as extra (`InputSpec.foreignKeys`).
-/

set_option autoImplicit false

namespace PluginDescriptor

namespace InputSpec

/-! ## What is kept and what is lost -/

/-- The properties that have a meaning for the arguments of other types alone. -/
def foreignKeys (type : String) : List String :=
  (if type = "string" then [] else Draft.textInputKeys.map InputProperty.text) ++
    if type = "list" then [] else [InputProperty.list.text]

/-- An argument is written out as the properties that declare it. What has a meaning for arguments is
there as it is declared, and what is extra with lists for tuples and open mappings for read-only ones;
only what has a meaning for the arguments of other types alone is lost. Nothing is added but whether
the argument may be left out, and what it is then. -/
structure WritesOut (properties : Entries) (s : InputSpec) : Prop where
  apart : Fields.Apart s.toEntries
  known : ∀ key v, (.str key, v) ∈ properties → key ∈ Draft.knownInputKeys →
    key ∉ foreignKeys s.type → key ≠ "optional" → (.str key, v) ∈ s.toEntries
  optional : ∀ v, (.str "optional", v) ∈ properties →
    (.str "optional", if v = .null then .bool false else v) ∈ s.toEntries
  extra : ∀ key v, (key, v) ∈ properties → (∀ name ∈ Draft.knownInputKeys, key ≠ .str name) →
    (key, v.plain) ∈ s.toEntries
  lost : ∀ name ∈ foreignKeys s.type, .str name ∉ s.toEntries.map (·.1)
  only : ∀ key ∈ s.toEntries.map (·.1),
    key ∈ properties.map (·.1) ∨ key = .str "default" ∨ key = .str "optional"

/-- What has a meaning for arguments has one for those of a type, or else for those of other types
alone. -/
theorem mem_names_ownFields_iff (s : InputSpec) (key : String) :
    key ∈ s.ownFields.names ↔ key ∈ Draft.knownInputKeys ∧ key ∉ foreignKeys s.type := by
  have hknown : Draft.knownInputKeys =
      ["prompt", "description", "type", "validation", "maxlength", "default", "optional", "list"] :=
    rfl
  rw [hknown]
  by_cases hstring : s.type = "string"
  · have hnames : s.ownFields.names = ["prompt", "description", "type", "default", "optional",
        "validation", "maxlength"] := by
      rw [ownFields, if_pos hstring]
      rfl
    have hforeign : foreignKeys s.type = ["list"] := by rw [hstring]; rfl
    rw [hnames, hforeign]
    grind
  · by_cases hlist : s.type = "list"
    · have hnames : s.ownFields.names =
          ["prompt", "description", "type", "default", "optional", "list"] := by
        rw [ownFields, if_neg hstring, if_pos hlist]
        rfl
      have hforeign : foreignKeys s.type = ["validation", "maxlength"] := by rw [hlist]; rfl
      rw [hnames, hforeign]
      grind
    · have hnames : s.ownFields.names = ["prompt", "description", "type", "default", "optional"] := by
        rw [ownFields, if_neg hstring, if_neg hlist]
        rfl
      have hforeign : foreignKeys s.type = ["validation", "maxlength", "list"] := by
        rw [foreignKeys, if_neg hstring, if_neg hlist]
        rfl
      rw [hnames, hforeign]
      grind

theorem foreignKeys_known {type key : String} (h : key ∈ foreignKeys type) :
    key ∈ Draft.knownInputKeys := by
  have hkeys : ∀ key ∈ Draft.textInputKeys.map InputProperty.text ++ [InputProperty.list.text],
      key ∈ Draft.knownInputKeys := by decide
  refine hkeys key (List.mem_append.mpr ?_)
  rcases List.mem_append.mp h with htext | hlist
  · split at htext
    · cases htext
    · exact .inl htext
  · split at hlist
    · cases hlist
    · exact .inr hlist

/-- Only in texts do the properties of texts have a meaning. -/
theorem eq_string_of_not_foreign {type key : String}
    (hkey : key ∈ Draft.textInputKeys.map InputProperty.text) (h : key ∉ foreignKeys type) :
    type = "string" := by
  by_contra hother
  exact h (List.mem_append_left _ (by rwa [if_neg hother]))

/-- Only in choices does the list of what can be chosen have a meaning. -/
theorem eq_list_of_not_foreign {type : String} (h : "list" ∉ foreignKeys type) : type = "list" := by
  by_contra hother
  exact h (List.mem_append_right _ (by rw [if_neg hother]; exact List.mem_singleton_self _))

end InputSpec

namespace Draft

/-- What has no meaning of its own is extra. -/
theorem mem_extraProperties_iff {properties : Entries} {key v : Value} :
    (key, v) ∈ extraProperties properties ↔
      (key, v) ∈ properties ∧ ∀ name ∈ knownInputKeys, key ≠ .str name := by
  rw [extraProperties, List.mem_filter]
  refine and_congr_right fun _ => ?_
  cases key with
  | str s =>
    simp only [Bool.not_eq_true', List.contains_eq_mem, decide_eq_false_iff_not, ne_eq,
      Value.str.injEq]
    exact ⟨fun h name hname heq => h (heq ▸ hname), fun h hs => h s hs rfl⟩
  | _ => simp

end Draft

namespace InputSpec

open Grammar

variable {properties : Entries} {name : Value}

/-! ## The properties with a meaning of their own -/

/-- The type of an argument is what its properties say. -/
theorem find?_type_ofProperties (name : Value) (h : IsInput properties) :
    properties.find? "type" = some (.str (ofProperties name properties).type) := by
  obtain ⟨type, htype⟩ := h.type
  simp [ofProperties, htype, Value.str?]

/-- What is declared under a key that has a meaning for the argument is written out under it. -/
theorem find?_toEntries_ofProperties (h : IsInput properties) {key : String} {v : Value}
    (hkey : key ∈ Draft.knownInputKeys)
    (hown : key ∉ foreignKeys (ofProperties name properties).type) (hoptional : key ≠ "optional")
    (hfind : properties.find? key = some v) :
    (ofProperties name properties).toEntries.find? key = some v := by
  have hdeclared := isDeclared_ofProperties name h
  have htype := find?_type_ofProperties name h
  obtain ⟨hprompt, hdescription, hgiven, hdefault, -⟩ := hdeclared.find?_common
  have hcases : key ∈ ["prompt", "description", "type", "validation", "maxlength", "default",
      "optional", "list"] := hkey
  simp only [List.mem_cons, List.not_mem_nil, or_false] at hcases
  rcases hcases with rfl | rfl | rfl | rfl | rfl | rfl | rfl | rfl
  · rw [hprompt]
    simp [ofProperties, hfind]
  · rw [hdescription]
    simp [ofProperties, hfind]
  · rw [hgiven, ← htype, hfind]
  · have htext := eq_string_of_not_foreign (by decide) hown
    obtain ⟨⟨pattern, hpattern⟩, -⟩ := h.text (htext ▸ htype)
    rw [(hdeclared.find?_text htext).1, ← hfind, hpattern]
    simp [ofProperties, htext ▸ htype, hpattern, Value.str?, Value.ofText?]
  · have htext := eq_string_of_not_foreign (by decide) hown
    obtain ⟨-, most, hmost, -⟩ := h.text (htext ▸ htype)
    rw [(hdeclared.find?_text htext).2, ← hfind, hmost]
    simp [ofProperties, htext ▸ htype, hmost, Value.str?, Value.int?, ofInt?]
  · rw [hdefault]
    simp [ofProperties, hfind]
  · exact absurd rfl hoptional
  · have hchoice := eq_list_of_not_foreign hown
    obtain ⟨items, hitems⟩ := h.choice (hchoice ▸ htype)
    rw [hdeclared.find?_choice hchoice, ← hfind, hitems]
    simp [ofProperties, hchoice ▸ htype, hitems, Value.str?, Value.items?]

/-- What is written out under a key that has a meaning is declared, but for what need not be. -/
theorem isSome_of_not_foreign (h : IsInput properties) {key : String}
    (hkey : key ∈ Draft.knownInputKeys)
    (hown : key ∉ foreignKeys (ofProperties name properties).type) :
    (properties.find? key).isSome ∨ key = "default" ∨ key = "optional" := by
  have htype := find?_type_ofProperties name h
  have hcases : key ∈ ["prompt", "description", "type", "validation", "maxlength", "default",
      "optional", "list"] := hkey
  simp only [List.mem_cons, List.not_mem_nil, or_false] at hcases
  rcases hcases with rfl | rfl | rfl | rfl | rfl | rfl | rfl | rfl
  · exact .inl (h.keys _ (by decide))
  · exact .inl (h.keys _ (by decide))
  · exact .inl (h.keys _ (by decide))
  · obtain ⟨⟨pattern, hpattern⟩, -⟩ :=
      h.text (eq_string_of_not_foreign (by decide) hown ▸ htype)
    exact .inl (Option.isSome_of_eq_some hpattern)
  · obtain ⟨-, most, hmost, -⟩ := h.text (eq_string_of_not_foreign (by decide) hown ▸ htype)
    exact .inl (Option.isSome_of_eq_some hmost)
  · exact .inr (.inl rfl)
  · exact .inr (.inr rfl)
  · obtain ⟨items, hitems⟩ := h.choice (eq_list_of_not_foreign hown ▸ htype)
    exact .inl (Option.isSome_of_eq_some hitems)

/-! ## All of an argument -/

/-- An argument is written out as what is extra, followed by what has a meaning of its own. -/
theorem toEntries_ofProperties (h : IsInput properties) :
    (ofProperties name properties).toEntries =
      Value.plainEntries (Draft.extraProperties properties) ++
        Entries.ofFields (ofProperties name properties).ownFields := by
  rw [(isDeclared_ofProperties name h).toEntries_eq, ← Value.thawEntries_freezeEntries]
  rfl

theorem keys_toEntries_ofProperties (h : IsInput properties) :
    (ofProperties name properties).toEntries.map (·.1) =
      (Draft.extraProperties properties).map (·.1) ++
        (ofProperties name properties).ownFields.names.map .str := by
  rw [toEntries_ofProperties h, List.map_append, Value.plainEntries_eq_map, List.map_map,
    Entries.ofFields, List.map_map, Named.names, List.map_map]
  rfl

theorem apart_toEntries_ofProperties (name : Value) (hapart : properties.Apart) :
    Fields.Apart (ofProperties name properties).toEntries := by
  have hextra : (Value.thawEntries (ofProperties name properties).extra).map (·.1) =
      (Draft.extraProperties properties).map (·.1) := by
    rw [ofProperties, Value.thawEntries_freezeEntries, Value.plainEntries_eq_map, List.map_map]
    rfl
  rw [toEntries_eq_putAll]
  refine Entries.apart_putAll ?_ _
  rw [Fields.Apart, hextra]
  exact List.Pairwise.sublist (List.filter_sublist.map _) hapart

/-- An argument that acceptable properties declare is written out as they are. -/
theorem writesOut_ofProperties (h : IsInput properties) (hapart : properties.Apart) :
    (ofProperties name properties).WritesOut properties := by
  have houtput := apart_toEntries_ofProperties name hapart
  have hdeclared := isDeclared_ofProperties name h
  refine ⟨houtput, fun key v hmem hkey hown hoptional => ?_, fun v hmem => ?_,
    fun key v hmem hextra => ?_, fun key hforeign => ?_, fun key hkey => ?_⟩
  · have hfind := (Fields.mem_iff_find? hapart).mp hmem
    exact (Fields.mem_iff_find? houtput).mpr
      (find?_toEntries_ofProperties h hkey hown hoptional hfind)
  · have hfind := (Fields.mem_iff_find? hapart).mp hmem
    obtain ⟨-, -, -, -, hoptional⟩ := hdeclared.find?_common
    rw [Fields.mem_iff_find? houtput, hoptional]
    rcases h.optional v hfind with rfl | ⟨b, rfl⟩
    · simp [ofProperties, hfind]
    · simp [ofProperties, hfind]
  · rw [toEntries_ofProperties h, Value.plainEntries_eq_map]
    exact List.mem_append_left _
      (List.mem_map.mpr ⟨(key, v), Draft.mem_extraProperties_iff.mpr ⟨hmem, hextra⟩, rfl⟩)
  · rw [← Fields.find?_eq_none_iff, hdeclared.find?_toEntries (foreignKeys_known hforeign)]
    refine (Named.lookup_eq_none_iff _ key).mpr fun hname => ?_
    exact ((mem_names_ownFields_iff _ key).mp hname).2 hforeign
  · rw [keys_toEntries_ofProperties h, List.mem_append] at hkey
    rcases hkey with hextra | hname
    · exact .inl ((List.filter_sublist.map _).subset hextra)
    · obtain ⟨n, hn, rfl⟩ := List.mem_map.mp hname
      obtain ⟨hknown, hforeign⟩ := (mem_names_ownFields_iff _ n).mp hn
      rcases isSome_of_not_foreign h hknown hforeign with hgiven | rfl | rfl
      · exact .inl ((Fields.find?_isSome_iff properties n).mp hgiven)
      · exact .inr (.inl rfl)
      · exact .inr (.inr rfl)

end InputSpec

namespace Drafting

variable {d : Draft} {entity : Option String} {argument : Value} {properties : Entries}
  {s : InputSpec}

/-- An argument that is accepted has acceptable properties, and is what they declare. -/
theorem ofProperties_of_input (h : ((input entity argument properties).run d).2 = .ok s) :
    Grammar.IsInput properties ∧ s = InputSpec.ofProperties argument properties := by
  rw [input, run_declareUnder, onSuccess_snd, map_eq_ok_iff] at h
  obtain ⟨⟨after, spec⟩, hchecked, rfl⟩ := h
  obtain ⟨name, -, hnamed⟩ := bind_eq_ok_iff.mp hchecked
  obtain ⟨spec, hspec, hkeyed⟩ := bind_eq_ok_iff.mp hnamed
  obtain ⟨-, -, hdone⟩ := bind_eq_ok_iff.mp hkeyed
  cases hdone
  exact (d.inputSpec_eq_ok_iff name argument properties spec).mp hspec

/-- An argument that is accepted, under whatever entity and name, is written out as the properties
that declare it. -/
theorem input_writesOut (hapart : properties.Apart)
    (h : ((input entity argument properties).run d).2 = .ok s) : s.WritesOut properties := by
  obtain ⟨hinput, rfl⟩ := ofProperties_of_input h
  exact InputSpec.writesOut_ofProperties hinput hapart

/-- Properties of a choice, one of which only texts have. -/
def choiceProperties : Entries :=
  Entries.ofFields [("type", .str "list"), ("ui", .record [("steps", .list [.int 1, .int 5])]),
    ("list", .list [.str "on", .str "off"]), ("optional", .null), ("prompt", .str "Power"),
    ("maxlength", .int 3), ("description", .str "The state to switch to")]

/-- A choice is written out with all that is declared of it but the length that only texts have. -/
theorem input_writesOut_choice :
    let d := Draft.empty { kind := "agent", name := "echo", path := none } "2.0.0"
    ∃ s, ((input (some "switch") (.str "power") choiceProperties).run d).2 = .ok s ∧
      s.WritesOut choiceProperties ∧ s.toEntries = Entries.ofFields [
        ("ui", .record [("steps", .list [.int 1, .int 5])]), ("prompt", .str "Power"),
        ("description", .str "The state to switch to"), ("type", .str "list"), ("default", .null),
        ("optional", .bool false), ("list", .list [.str "on", .str "off"])] := by
  intro d
  have hapart : Fields.Apart choiceProperties := by
    unfold Fields.Apart
    decide +kernel
  have hok : ((input (some "switch") (.str "power") choiceProperties).run d).2 =
      .ok (InputSpec.ofProperties (.str "power") choiceProperties) := rfl
  refine ⟨_, hok, input_writesOut hapart hok, ?_⟩
  decide +kernel

/-- Declared properties are lost: the length of an argument that is no text is not written out. -/
theorem input_loses_maxlength :
    let d := Draft.empty { kind := "agent", name := "echo", path := none } "2.0.0"
    let properties := Entries.ofFields [("prompt", .str "P"), ("description", .str "D"),
      ("type", .str "integer"), ("maxlength", .int 5)]
    ∃ s, ((input (some "echo") (.str "count") properties).run d).2 = .ok s ∧
      (.str "maxlength", .int 5) ∈ properties ∧ .str "maxlength" ∉ s.toEntries.map (·.1) :=
  ⟨_, rfl, by decide, by decide +kernel⟩

end Drafting

end PluginDescriptor
