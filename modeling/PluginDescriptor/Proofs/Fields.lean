import PluginDescriptor.Proofs.Named
import PluginDescriptor.Value.Basic

/-!
# Fields under texts

Any value may be a key, but nearly all keys are texts, and a text equals nothing but itself. On keys
that are texts, looking up and putting are those of named things: `Fields.find?_ofNamed` and
`Fields.put_ofNamed` carry every fact about `Named` over.
-/

set_option autoImplicit false

namespace PluginDescriptor

namespace Fields

variable {α : Type}

/-- Named things as fields. -/
def ofNamed (named : Named α) : Fields α := named.map fun (name, a) => (.str name, a)

@[simp] theorem ofNamed_cons (name : String) (a : α) (named : Named α) :
    ofNamed ((name, a) :: named) = (.str name, a) :: ofNamed named := rfl

/-- Entries whose keys are texts are named things as fields. -/
theorem ofFields_eq_ofNamed (fields : Named Value) : Entries.ofFields fields = ofNamed fields := rfl

theorem find?_ofNamed (named : Named α) (name : String) :
    (ofNamed named).find? name = named.lookup name := by
  induction named with
  | nil => rfl
  | cons entry rest ih =>
    obtain ⟨n, a⟩ := entry
    rw [ofNamed_cons, find?_cons, ih, Named.lookup_cons_eq]
    simp only [Value.str.injEq, eq_comm]

theorem get?_cons (k p : Value) (a : α) (rest : Fields α) :
    get? ((k, a) :: rest) p = if p.same k = true then some a else rest.get? p := by
  rw [get?, List.find?_cons]
  cases h : p.same k with
  | true => rfl
  | false => rfl

/-- What is found under a key stands in an entry. -/
theorem exists_mem_of_get? {entries : Fields α} {key : Value} {a : α}
    (h : entries.get? key = some a) : ∃ k, (k, a) ∈ entries := by
  rw [get?, Option.map_eq_some_iff] at h
  obtain ⟨⟨k, b⟩, hfound, rfl⟩ := h
  exact ⟨k, List.mem_of_find?_eq_some hfound⟩

/-- A key that equals none of the keys is not found. -/
theorem get?_eq_none {entries : Fields α} {p : Value}
    (h : ∀ entry ∈ entries, p.same entry.1 = false) : entries.get? p = none := by
  rw [get?, Option.map_eq_none_iff, List.find?_eq_none]
  intro entry hentry
  rw [h entry hentry]
  exact Bool.false_ne_true

/-- What is under a key in a row of two is what is there in the first, or else in the second. -/
theorem get?_append (as bs : Fields α) (key : Value) :
    get? (as ++ bs) key = (as.get? key).or (bs.get? key) := by
  induction as with
  | nil => rfl
  | cons entry rest ih =>
    obtain ⟨k, a⟩ := entry
    rw [List.cons_append, get?_cons, get?_cons, ih]
    split <;> rfl

theorem find?_append (as bs : Fields α) (key : String) :
    find? (as ++ bs) key = (as.find? key).or (bs.find? key) :=
  get?_append as bs (.str key)

/-- A text is found as a key exactly when it is one. -/
theorem find?_isSome_iff (entries : Fields α) (key : String) :
    (entries.find? key).isSome ↔ .str key ∈ entries.map (·.1) := by
  induction entries with
  | nil => simp
  | cons entry rest ih =>
    obtain ⟨k, a⟩ := entry
    rw [find?_cons, List.map_cons, List.mem_cons, ← ih]
    by_cases hk : k = .str key
    · simp [hk]
    · simp [hk, Ne.symm hk]

theorem find?_eq_none_iff (entries : Fields α) (key : String) :
    entries.find? key = none ↔ .str key ∉ entries.map (·.1) := by
  rw [← find?_isSome_iff, Option.not_isSome_iff_eq_none]

theorem put_cons (k : Value) (b : α) (rest : Fields α) (key : String) (a : α) :
    put ((k, b) :: rest) (.str key) a =
      if k = .str key then (k, a) :: rest else (k, b) :: put rest (.str key) a := by
  rw [put]
  simp only [Value.str_same_iff]

/-- What is put under a text is found there, and nothing else is moved. -/
theorem find?_put (entries : Fields α) (key name : String) (a : α) :
    (entries.put (.str key) a).find? name = if name = key then some a else entries.find? name := by
  induction entries with
  | nil =>
    rw [put, find?_cons]
    simp only [Value.str.injEq, eq_comm]
  | cons entry rest ih =>
    obtain ⟨k, b⟩ := entry
    rw [put_cons, find?_cons]
    by_cases hk : k = .str key
    · subst hk
      rw [if_pos rfl, find?_cons]
      by_cases hname : name = key
      · subst hname
        simp
      · have hkey : ¬ key = name := fun h => hname h.symm
        simp [hname, hkey]
    · rw [if_neg hk, find?_cons, ih]
      by_cases hname : name = key
      · subst hname
        simp [hk]
      · simp [hname]

/-- Something under a key that is not there yet goes to the end. -/
theorem put_of_get?_eq_none {entries : Fields α} {key : Value} (a : α)
    (h : entries.get? key = none) : entries.put key a = entries ++ [(key, a)] := by
  induction entries with
  | nil => rfl
  | cons entry rest ih =>
    obtain ⟨k, b⟩ := entry
    rw [get?_cons] at h
    by_cases hk : key.same k = true
    · simp [hk] at h
    · rw [if_neg hk] at h
      rw [put, if_neg hk, ih h, List.cons_append]

theorem put_ofNamed (named : Named α) (name : String) (a : α) :
    (ofNamed named).put (.str name) a = ofNamed (named.assign name a) := by
  induction named with
  | nil => rfl
  | cons entry rest ih =>
    obtain ⟨n, b⟩ := entry
    rw [ofNamed_cons, put_cons, ih, Named.assign]
    by_cases hn : n = name
    · rw [if_pos (congrArg Value.str hn), if_pos hn, ofNamed_cons]
    · rw [if_neg fun h => hn (Value.str.inj h), if_neg hn, ofNamed_cons]

/-! ## Keys of any kind -/

/-- No key equals an earlier one. -/
def Apart (entries : Fields α) : Prop :=
  (entries.map (·.1)).Pairwise fun earlier later => later.same earlier = false

/-- Putting something brings in no key but its own. -/
theorem mem_keys_put {entries : Fields α} {key k : Value} {a : α}
    (h : k ∈ (entries.put key a).map (·.1)) : k ∈ entries.map (·.1) ∨ k = key := by
  induction entries with
  | nil => exact .inr (List.mem_singleton.mp h)
  | cons entry rest ih =>
    obtain ⟨first, b⟩ := entry
    rw [put] at h
    split at h
    · exact .inl h
    · rcases List.mem_cons.mp h with rfl | hrest
      · exact .inl List.mem_cons_self
      · exact (ih hrest).imp_left (List.mem_cons_of_mem _)

/-- What is there after something is put was there, or is the thing, under its key or an equal
one. -/
theorem mem_put {entries : Fields α} {key : Value} {a : α} {entry : Value × α}
    (h : entry ∈ entries.put key a) :
    entry ∈ entries ∨ (entry.2 = a ∧ (entry.1 = key ∨ key.same entry.1 = true)) := by
  induction entries with
  | nil =>
    rw [List.mem_singleton.mp h]
    exact .inr ⟨rfl, .inl rfl⟩
  | cons first rest ih =>
    obtain ⟨k, b⟩ := first
    rw [put] at h
    split at h
    · rename_i hsame
      rcases List.mem_cons.mp h with rfl | hrest
      · exact .inr ⟨rfl, .inr hsame⟩
      · exact .inl (List.mem_cons_of_mem _ hrest)
    · rcases List.mem_cons.mp h with rfl | hrest
      · exact .inl List.mem_cons_self
      · exact (ih hrest).imp_left (List.mem_cons_of_mem _)

/-- Keys stay apart, because a key that equals one of them is not added. -/
theorem Apart.put {entries : Fields α} (h : entries.Apart) (key : Value) (a : α) :
    (entries.put key a).Apart := by
  induction entries with
  | nil => exact List.pairwise_singleton _ _
  | cons entry rest ih =>
    obtain ⟨first, b⟩ := entry
    obtain ⟨hfirst, hrest⟩ := List.pairwise_cons.mp h
    rw [Fields.put]
    split
    · exact h
    · rename_i hother
      refine List.pairwise_cons.mpr ⟨fun k hk => ?_, ih hrest⟩
      rcases mem_keys_put hk with hmem | rfl
      · exact hfirst k hmem
      · exact eq_false_of_ne_true hother

/-- What stands under a text is what is found under it. -/
theorem mem_iff_find? {entries : Fields α} (h : entries.Apart) {key : String} {a : α} :
    (.str key, a) ∈ entries ↔ entries.find? key = some a := by
  induction entries with
  | nil => simp
  | cons entry rest ih =>
    obtain ⟨k, b⟩ := entry
    obtain ⟨hfirst, hrest⟩ := List.pairwise_cons.mp h
    rw [List.mem_cons, find?_cons, ih hrest, Prod.mk.injEq]
    by_cases hk : k = .str key
    · subst hk
      -- the key is not found again, because no later key equals it
      have hagain : find? rest key ≠ some a := fun hfind => by
        have hmem : .str key ∈ rest.map (·.1) :=
          (find?_isSome_iff rest key).mp (Option.isSome_of_eq_some hfind)
        exact absurd (hfirst _ hmem) (by simp [Value.str_same_iff])
      rw [if_pos rfl, Option.some.injEq]
      simp [hagain, eq_comm]
    · rw [if_neg hk]
      simp [Ne.symm hk]

/-- Each key equals itself and none of the others, as texts do that differ. -/
structure Distinct (entries : Fields α) : Prop where
  itself : ∀ entry ∈ entries, entry.1.same entry.1 = true
  others : entries.Pairwise fun a b => a.1.same b.1 = false ∧ b.1.same a.1 = false

theorem distinct_cons_iff {entry : Value × α} {rest : Fields α} :
    Distinct (entry :: rest) ↔ entry.1.same entry.1 = true ∧
      (∀ other ∈ rest, entry.1.same other.1 = false ∧ other.1.same entry.1 = false) ∧
        rest.Distinct := by
  constructor
  · rintro ⟨hitself, hothers⟩
    obtain ⟨hentry, hrest⟩ := List.forall_mem_cons.mp hitself
    obtain ⟨hfirst, hlater⟩ := List.pairwise_cons.mp hothers
    exact ⟨hentry, hfirst, hrest, hlater⟩
  · rintro ⟨hentry, hfirst, hrest, hlater⟩
    exact ⟨List.forall_mem_cons.mpr ⟨hentry, hrest⟩, List.pairwise_cons.mpr ⟨hfirst, hlater⟩⟩

/-- Names that differ are distinct keys. -/
theorem distinct_ofNamed {named : Named α} (h : named.names.Nodup) : (ofNamed named).Distinct := by
  induction named with
  | nil => exact ⟨by simp [ofNamed], List.Pairwise.nil⟩
  | cons entry rest ih =>
    obtain ⟨name, a⟩ := entry
    rw [Named.names_cons, List.nodup_cons] at h
    rw [ofNamed_cons]
    refine distinct_cons_iff.mpr ⟨(Value.str_same_iff name _).mpr rfl, fun other hother => ?_,
      ih h.2⟩
    obtain ⟨⟨n, b⟩, hmem, rfl⟩ := List.mem_map.mp hother
    have hne : n ≠ name := fun hn => h.1 (List.mem_map.mpr ⟨(n, b), hmem, hn⟩)
    simp only [← Bool.not_eq_true, Value.str_same_iff, Value.str.injEq]
    exact ⟨hne, hne.symm⟩

end Fields

namespace Entries

/-- Every key is a text. -/
def HasTextKeys (entries : Entries) : Prop := ∀ entry ∈ entries, entry.1.isText = true

instance (entries : Entries) : Decidable entries.HasTextKeys :=
  inferInstanceAs (Decidable (∀ entry ∈ entries, entry.1.isText = true))

theorem HasTextKeys.exists_str {entries : Entries} (h : entries.HasTextKeys) {key : Value}
    (hkey : key ∈ entries.map (·.1)) : ∃ name, key = .str name := by
  obtain ⟨entry, hentry, rfl⟩ := List.mem_map.mp hkey
  have htext := h entry hentry
  cases hk : entry.1 with
  | str name => exact ⟨name, rfl⟩
  | _ => rw [hk] at htext; cases htext

/-- Texts that are apart differ. -/
theorem HasTextKeys.nodup {entries : Entries} (h : entries.HasTextKeys)
    (hapart : Fields.Apart entries) : (entries.map (·.1)).Nodup := by
  refine hapart.imp_of_mem fun {earlier later} hearlier _ hsame heq => ?_
  obtain ⟨name, rfl⟩ := h.exists_str hearlier
  rw [← heq, (Value.str_same_iff name _).mpr rfl] at hsame
  cases hsame

/-- Something that is put under a text leaves the other keys as they are. -/
theorem hasTextKeys_put_iff (entries : Entries) (key : String) (v : Value) :
    HasTextKeys (entries.put (.str key) v) ↔ entries.HasTextKeys := by
  unfold HasTextKeys
  induction entries with
  | nil => simp [Fields.put, Value.isText]
  | cons entry rest ih =>
    obtain ⟨k, w⟩ := entry
    rw [Fields.put_cons]
    split
    · rename_i hk
      rw [List.forall_mem_cons, List.forall_mem_cons]
    · rw [List.forall_mem_cons, List.forall_mem_cons, ih]

/-- Keys stay apart when entries are put in. -/
theorem apart_putAll {entries : Entries} (h : Fields.Apart entries) (more : Entries) :
    Fields.Apart (entries.putAll more) := by
  induction more generalizing entries with
  | nil => exact h
  | cons entry rest ih => exact ih (h.put entry.1 entry.2)

/-- Under a text is what is put there last, or else what was there. -/
theorem find?_putAll_ofFields (entries : Entries) (fields : Named Value) (name : String) :
    Fields.find? (entries.putAll (ofFields fields)) name =
      (fields.reverse.lookup name).or (entries.find? name) := by
  induction fields using List.reverseRecOn with
  | nil => rfl
  | append_singleton fields field ih =>
    obtain ⟨n, v⟩ := field
    have hlast : entries.putAll (ofFields (fields ++ [(n, v)])) =
        Fields.put (entries.putAll (ofFields fields)) (.str n) v := by
      rw [putAll, ofFields, List.map_append, List.foldl_append]
      rfl
    rw [hlast, Fields.find?_put, ih, List.reverse_append, List.reverse_singleton,
      List.singleton_append, Named.lookup_cons_eq]
    split <;> rfl

/-- Entries under new texts, none of them repeated, go to the end in their order. -/
theorem putAll_ofFields {entries : Entries} {fields : Named Value} (hnodup : fields.names.Nodup)
    (hnew : ∀ name ∈ fields.names, entries.find? name = none) :
    entries.putAll (ofFields fields) = entries ++ ofFields fields := by
  induction fields generalizing entries with
  | nil => simp [putAll, ofFields]
  | cons field rest ih =>
    obtain ⟨name, v⟩ := field
    rw [Named.names_cons, List.nodup_cons] at hnodup
    have hput : entries.put (.str name) v = entries ++ [(Value.str name, v)] :=
      Fields.put_of_get?_eq_none v (hnew name List.mem_cons_self)
    have hrest : putAll (entries ++ [(Value.str name, v)]) (ofFields rest) =
        entries ++ [(Value.str name, v)] ++ ofFields rest := by
      refine ih hnodup.2 fun n hn => ?_
      have hne : ¬ name = n := fun h => hnodup.1 (h ▸ hn)
      rw [Fields.find?_append, hnew n (List.mem_cons_of_mem _ hn), Fields.find?_cons]
      simp [hne]
    calc entries.putAll (ofFields ((name, v) :: rest))
        = putAll (entries.put (.str name) v) (ofFields rest) := rfl
      _ = entries ++ [(Value.str name, v)] ++ ofFields rest := by rw [hput, hrest]
      _ = entries ++ ofFields ((name, v) :: rest) := by
        rw [List.append_assoc, List.singleton_append]
        rfl

end Entries

end PluginDescriptor
