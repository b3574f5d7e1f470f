import PluginDescriptor.Proofs.Outcome
import PluginDescriptor.Proofs.Value.Mapping
import PluginDescriptor.Proofs.Value.Parts
import PluginDescriptor.Yaml.Document

/-!
# The mappings of a YAML document

A document is looked through level by level before its value is built, and a mapping in which a
collection is a key is found at fault there; so when the value is built, keys are scalars. Hence what
holds of all that can be a key, and passes from the parts of a document to its collections, holds of
the document (`Value.ofYaml_induction`): each of its mappings is well-formed (`Value.isProper_ofYaml`),
all its keys can be keys (`Value.isKeyed_ofYaml`), and no mapping holds a key twice
(`Value.keysApart_ofYaml`).
-/

set_option autoImplicit false

namespace PluginDescriptor

namespace Yaml

theorem changeable?_value {fields : TimeText.Fields} {v : Value}
    (h : TimeText.value fields = .ok v) : v.changeable? = none := by
  unfold TimeText.value at h
  split at h
  · obtain ⟨date, -, rfl⟩ := map_eq_ok_iff.mp h
    rfl
  · obtain ⟨moment, -, rfl⟩ := map_eq_ok_iff.mp h
    rfl

/-- The value of a scalar can be a key. -/
theorem changeable?_scalarValue {tag : Tag} {text : String} {v : Value}
    (h : scalarValue tag text = .ok v) : v.changeable? = none := by
  cases tag with
  | null | str =>
    cases h
    rfl
  | bool =>
    rw [scalarValue] at h
    split at h
    · cases h
      rfl
    · cases h
  | int | float =>
    rw [scalarValue] at h
    obtain ⟨_, -, rfl⟩ := map_eq_ok_iff.mp h
    rfl
  | binary =>
    rw [scalarValue, readBinary] at h
    split at h
    · split at h
      · cases h
        rfl
      · cases h
    · cases h
  | moment =>
    rw [scalarValue, readMoment] at h
    split at h
    · cases h
    · exact changeable?_value (mapError_eq_ok_iff.mp h)
  | _ => cases h

namespace Node

/-- The value of what is no collection can be a key. -/
theorem changeable?_plainValue {node : Node} {v : Value} (h : node.plainValue = .ok v) :
    v.changeable? = none := by
  unfold plainValue at h
  split at h
  · cases h
  · cases h
  · cases h
  · obtain ⟨_, -, hthrow⟩ := bind_eq_ok_iff.mp h
    cases hthrow
  · obtain ⟨text, -, hscalar⟩ := bind_eq_ok_iff.mp h
    exact changeable?_scalarValue hscalar

theorem changeable?_plainOrNull (node : Node) :
    (node.plainValue.toOption.getD .null).changeable? = none := by
  cases hplain : node.plainValue with
  | ok v => exact changeable?_plainValue hplain
  | error fault => rfl

/-- What is no collection becomes a value that can be a key. -/
theorem changeable?_build {node : Node} (h : isCollection node.tag = false) (fuel : Nat) :
    (node.build fuel).changeable? = none := by
  cases fuel with
  | zero => rfl
  | succ fuel =>
    have hbuild : node.build (fuel + 1) = node.plainValue.toOption.getD .null := by
      cases node with
      | scalar tag text => cases tag <;> rfl
      | sequence tag items => cases tag <;> first | rfl | cases h
      | mapping tag entries => cases tag <;> first | rfl | cases h
    rw [hbuild]
    exact changeable?_plainOrNull node

/-- A collection is left for later when it is looked at, and so is nothing else. -/
theorem look_eq_ok {node : Node} {later : List Node} (h : node.look = .ok later) :
    (isCollection node.tag = true ∧ later = [node]) ∨
      (isCollection node.tag = false ∧ later = []) := by
  unfold look at h
  split at h
  · rename_i hcollection
    cases h
    exact .inl ⟨hcollection, rfl⟩
  · rename_i hplain
    refine .inr ⟨eq_false_of_ne_true hplain, ?_⟩
    cases hvalue : node.plainValue <;> rw [hvalue] at h <;> cases h
    rfl

/-- An entry that is looked at has no collection for its key. -/
theorem lookEntry_eq_ok {entry : Node × Node} {later : List Node} (h : lookEntry entry = .ok later) :
    isCollection entry.1.tag = false ∧ entry.2.look = .ok later := by
  obtain ⟨keys, hkeys, hrest⟩ := bind_eq_ok_iff.mp h
  rcases look_eq_ok hkeys with ⟨-, rfl⟩ | ⟨hplain, rfl⟩
  · cases hrest
  · exact ⟨hplain, hrest⟩

/-- A property of what can be a key that passes from the parts of a document to its collections. In a
mapping and in a set, keys can be keys. -/
structure IsInherited (P : Value → Prop) : Prop where
  key : ∀ v, v.changeable? = none → P v
  list : ∀ items, (∀ item ∈ items, P item) → P (.list items)
  pair : ∀ key v, P key → P v → P (.tuple [key, v])
  map : ∀ entries, (∀ entry ∈ entries, entry.1.changeable? = none ∧ P entry.2) →
    P (.map (Entries.ofList entries))
  set : ∀ entries, (∀ entry ∈ entries, entry.1.changeable? = none ∧ P entry.2) →
    P (.set ((Entries.ofList entries).map (·.1)))

section

variable {P : Value → Prop} {fuel : Nat}

/-- A node that was looked at has the property if what was left for later has. -/
theorem build_of_look (hP : IsInherited P) {node : Node} {later : List Node}
    (hlook : node.look = .ok later) (hlater : ∀ node ∈ later, P (node.build fuel)) :
    P (node.build fuel) := by
  rcases look_eq_ok hlook with ⟨-, rfl⟩ | ⟨hplain, -⟩
  · exact hlater node List.mem_cons_self
  · exact hP.key _ (changeable?_build hplain fuel)

/-- What is looked at one by one has the property if all that was left for later has. -/
theorem build_of_looks {α : Type} {look : α → Except Fault (List Node)} {row : List α}
    {parts : List (List Node)} (hparts : row.mapM look = .ok parts)
    (hlater : ∀ node ∈ parts.flatten, P (node.build fuel)) {a : α} (ha : a ∈ row) :
    ∃ later, look a = .ok later ∧ ∀ node ∈ later, P (node.build fuel) := by
  obtain ⟨later, hlaterMem, hlook⟩ := exists_of_mapM_eq_ok hparts ha
  exact ⟨later, hlook, fun node hnode => hlater node (List.mem_flatten_of_mem hlaterMem hnode)⟩

/-- A pair that is looked at is a mapping with one entry. -/
theorem lookPair_eq_ok {node : Node} {later : List Node} (h : lookPair node = .ok later) :
    ∃ tag key value keys values, node = .mapping tag [(key, value)] ∧ key.look = .ok keys ∧
      value.look = .ok values ∧ later = keys ++ values := by
  unfold lookPair at h
  split at h
  · obtain ⟨keys, hkeys, hrest⟩ := bind_eq_ok_iff.mp h
    obtain ⟨values, hvalues, hend⟩ := bind_eq_ok_iff.mp hrest
    cases hend
    exact ⟨_, _, _, keys, values, rfl, hkeys, hvalues, rfl⟩
  · cases h

theorem build_item (hP : IsInherited P) {items : List Node} {parts : List (List Node)}
    (hparts : items.mapM look = .ok parts)
    (hlater : ∀ node ∈ parts.flatten, P (node.build fuel)) :
    ∀ item ∈ items.map (build fuel), P item := by
  intro v hv
  obtain ⟨item, hitem, rfl⟩ := List.mem_map.mp hv
  obtain ⟨later, hlook, hrest⟩ := build_of_looks hparts hlater hitem
  exact build_of_look hP hlook hrest

theorem build_entry (hP : IsInherited P) {entries : List (Node × Node)} {parts : List (List Node)}
    (hparts : entries.mapM lookEntry = .ok parts)
    (hlater : ∀ node ∈ parts.flatten, P (node.build fuel)) :
    ∀ entry ∈ entries.map fun entry => (entry.1.build fuel, entry.2.build fuel),
      entry.1.changeable? = none ∧ P entry.2 := by
  intro built hbuilt
  obtain ⟨entry, hentry, rfl⟩ := List.mem_map.mp hbuilt
  obtain ⟨later, hlook, hrest⟩ := build_of_looks hparts hlater hentry
  obtain ⟨hkey, hvalue⟩ := lookEntry_eq_ok hlook
  exact ⟨changeable?_build hkey fuel, build_of_look hP hvalue hrest⟩

/-- The value of a pair: of a mapping with one entry, and of nothing else. -/
def pairValue (fuel : Nat) : Node → Value
  | .mapping _ [(key, value)] => .tuple [key.build fuel, value.build fuel]
  | _ => .null

theorem build_pair (hP : IsInherited P) {items : List Node} {parts : List (List Node)}
    (hparts : items.mapM lookPair = .ok parts)
    (hlater : ∀ node ∈ parts.flatten, P (node.build fuel)) :
    ∀ item ∈ items.map (pairValue fuel), P item := by
  intro v hv
  obtain ⟨item, hitem, rfl⟩ := List.mem_map.mp hv
  obtain ⟨later, hlook, hrest⟩ := build_of_looks hparts hlater hitem
  obtain ⟨tag, key, value, keys, values, rfl, hkeys, hvalues, rfl⟩ := lookPair_eq_ok hlook
  have hkey := build_of_look hP hkeys fun node hnode => hrest node (List.mem_append_left _ hnode)
  have hvalue :=
    build_of_look hP hvalues fun node hnode => hrest node (List.mem_append_right _ hnode)
  exact hP.pair _ _ hkey hvalue

/-- A collection that was looked into has the property if what was left for later has. -/
theorem build_of_lookInto (hP : IsInherited P) {node : Node} {later : List Node}
    (hinto : node.lookInto = .ok later) (hlater : ∀ node ∈ later, P (node.build fuel)) :
    P (node.build (fuel + 1)) := by
  have hmapping : ∀ {entries : List (Node × Node)},
      (do return (← (← mergedEntries entries).mapM lookEntry).flatten : Except Fault (List Node)) =
        .ok later →
      ∃ merged, mergedEntries entries = .ok merged ∧
        ∀ entry ∈ merged.map fun entry => (entry.1.build fuel, entry.2.build fuel),
          entry.1.changeable? = none ∧ P entry.2 := by
    intro entries h
    obtain ⟨merged, hmerged, hrest⟩ := bind_eq_ok_iff.mp h
    obtain ⟨parts, hparts, hend⟩ := bind_eq_ok_iff.mp hrest
    cases hend
    exact ⟨merged, hmerged, build_entry hP hparts hlater⟩
  unfold lookInto at hinto
  split at hinto
  · rename_i tag items htag
    cases htag
    obtain ⟨parts, hparts, hend⟩ := bind_eq_ok_iff.mp hinto
    cases hend
    exact hP.list _ (build_item hP hparts hlater)
  · rename_i tag entries htag
    cases htag
    obtain ⟨merged, hmerged, hentries⟩ := hmapping hinto
    have hbuild : build (fuel + 1) (.mapping .mapping entries) = .map (Entries.ofList
        (merged.map fun entry => (entry.1.build fuel, entry.2.build fuel))) := by
      simp only [build, tag, hmerged, Except.toOption, Option.getD_some]
    rw [hbuild]
    exact hP.map _ hentries
  · rename_i tag entries htag
    cases htag
    obtain ⟨merged, hmerged, hentries⟩ := hmapping hinto
    have hbuild : build (fuel + 1) (.mapping .set entries) = .set ((Entries.ofList
        (merged.map fun entry => (entry.1.build fuel, entry.2.build fuel))).map (·.1)) := by
      simp only [build, tag, hmerged, Except.toOption, Option.getD_some]
    rw [hbuild]
    exact hP.set _ hentries
  · rename_i tag items htag
    cases htag
    obtain ⟨parts, hparts, hend⟩ := bind_eq_ok_iff.mp hinto
    cases hend
    exact hP.list _ (build_pair hP hparts hlater)
  · rename_i tag items htag
    cases htag
    obtain ⟨parts, hparts, hend⟩ := bind_eq_ok_iff.mp hinto
    cases hend
    exact hP.list _ (build_pair hP hparts hlater)
  · cases hinto

/-- When nodes are looked through without a fault, what is built of them has the property. The
induction is on the levels, of which the nodes are the first. -/
theorem build_of_lookThrough (hP : IsInherited P) {pending : List Node}
    (h : lookThrough fuel pending = .ok ()) : ∀ node ∈ pending, P (node.build fuel) := by
  induction fuel generalizing pending with
  | zero => exact fun node _ => hP.key _ rfl
  | succ fuel ih =>
    intro node hnode
    cases pending with
    | nil => cases hnode
    | cons first rest =>
      obtain ⟨levels, hlevels, hthrough⟩ := bind_eq_ok_iff.mp h
      obtain ⟨later, hinto, hlater⟩ := build_of_looks hlevels (ih hthrough) hnode
      exact build_of_lookInto hP hinto hlater

theorem toValue_of_isInherited (hP : IsInherited P) {node : Node} {v : Value}
    (h : node.toValue = .ok v) : P v := by
  obtain ⟨later, hlook, hrest⟩ := bind_eq_ok_iff.mp h
  obtain ⟨_, hthrough, hend⟩ := bind_eq_ok_iff.mp hrest
  cases hend
  exact build_of_look hP hlook (build_of_lookThrough hP hthrough)

end

end Node

end Yaml

namespace Value

/-- What all parts of a document pass on to their collections holds of the document. -/
theorem ofYaml_induction {P : Value → Prop} (hP : Yaml.Node.IsInherited P) {text : String}
    {v : Value} (h : ofYaml text = .ok v) : P v := by
  obtain ⟨root?, -, hroot⟩ := bind_eq_ok_iff.mp h
  cases root? with
  | none =>
    cases hroot
    exact hP.key _ rfl
  | some root => exact Yaml.Node.toValue_of_isInherited hP hroot

theorem isInherited_isProper : Yaml.Node.IsInherited IsProper where
  key _ := isProper_of_key
  list _ _ _ hmap := by cases hmap
  pair _ _ _ _ _ hmap := by cases hmap
  map _ h := isProper_map_iff.mpr (Entries.IsMapping.nil.putAll h)
  set _ _ _ hmap := by cases hmap

theorem isInherited_isKeyed : Yaml.Node.IsInherited IsKeyed where
  key _ := .of_key
  list _ h := .of_contents (fun _ hkey => by cases hkey) h
  pair key v hkey hv := by
    refine .of_contents (fun _ hmem => by cases hmem) fun content hcontent => ?_
    simp only [contents, List.mem_cons, List.not_mem_nil, or_false] at hcontent
    rcases hcontent with rfl | rfl
    · exact hkey
    · exact hv
  map entries h := isKeyed_map_iff.mpr (Entries.forall_putAll (by simp) h)
  set entries h := by
    refine .of_contents (fun key hkey => ?_) fun _ hcontent => by cases hcontent
    obtain ⟨entry, hentry, rfl⟩ := List.mem_map.mp hkey
    exact (Entries.forall_putAll (by simp) h entry hentry).1

theorem isInherited_keysApart : Yaml.Node.IsInherited KeysApart where
  key _ := .of_key
  list _ h := .of_contents (fun _ hmap => by cases hmap) (fun _ hkey => by cases hkey) h
  pair key v hkey hv := by
    refine .of_contents (fun _ hmap => by cases hmap) (fun _ hmem => by cases hmem)
      fun content hcontent => ?_
    simp only [contents, List.mem_cons, List.not_mem_nil, or_false] at hcontent
    rcases hcontent with rfl | rfl
    · exact hkey
    · exact hv
  map entries h := by
    have hnone : Fields.Apart ([] : Entries) := List.Pairwise.nil
    have hall : ∀ entry ∈ Entries.ofList entries, entry.1.changeable? = none ∧ entry.2.KeysApart :=
      Entries.forall_putAll (by simp) h
    refine .of_contents (fun _ hmap => ?_) (fun key hkey => ?_) fun content hcontent => ?_
    · cases hmap
      exact Entries.apart_putAll hnone entries
    · obtain ⟨entry, hentry, rfl⟩ := List.mem_map.mp hkey
      exact (hall entry hentry).1
    · obtain ⟨entry, hentry, rfl⟩ := List.mem_map.mp hcontent
      exact (hall entry hentry).2
  set entries h := by
    refine .of_contents (fun _ hmap => by cases hmap) (fun key hkey => ?_)
      fun _ hcontent => by cases hcontent
    obtain ⟨entry, hentry, rfl⟩ := List.mem_map.mp hkey
    exact (Entries.forall_putAll (by simp) h entry hentry).1

/-- The mappings of a document are well-formed. -/
theorem isProper_ofYaml {text : String} {v : Value} (h : ofYaml text = .ok v) : v.IsProper :=
  ofYaml_induction isInherited_isProper h

/-- What a document keeps as keys can be keys, at all depths. -/
theorem isKeyed_ofYaml {text : String} {v : Value} (h : ofYaml text = .ok v) : v.IsKeyed :=
  ofYaml_induction isInherited_isKeyed h

/-- No mapping of a document holds a key twice, at all depths. -/
theorem keysApart_ofYaml {text : String} {v : Value} (h : ofYaml text = .ok v) : v.KeysApart :=
  ofYaml_induction isInherited_keysApart h

end Value

end PluginDescriptor
