import PluginDescriptor.Log.Call
import PluginDescriptor.Proofs.Named

/-!
# The tree of loggers

Loggers are made when they are asked for, in any order, each with those above it. What a row of calls
makes of the logger with a name is told from the calls alone, by what each of them does to this logger
(`Call.afterAll_linked`): nothing depends on when other loggers were made. The links that are stored are
those that the names prescribe, so that every way up the links is the chain of the name
(`IsLinked.climbs_iff`).
-/

set_option autoImplicit false

namespace PluginDescriptor.LogTable

/-! ## Names -/

theorem parent?_eq_none_iff (name : String) :
    parent? name = none ↔ name = rootName ∨ '.' ∉ name.toList := by
  unfold parent?
  split
  · rename_i hroot
    simp [hroot]
  · rename_i hroot
    rw [Option.map_eq_none_iff, Text.beforeLast?_eq_none_iff]
    simp [hroot]

/-- The name of the logger above is the name without its last part. -/
theorem parent?_eq_some_iff (name above : String) :
    parent? name = some above ↔
      name ≠ rootName ∧ ∃ last : String, '.' ∉ last.toList ∧ name = above ++ "." ++ last := by
  unfold parent?
  split
  · rename_i hroot
    simp [hroot]
  · rename_i hroot
    rw [Option.map_eq_some_iff]
    constructor
    · rintro ⟨before, hbefore, rfl⟩
      obtain ⟨after, hname, hafter⟩ := (Text.beforeLast?_eq_some_iff '.' _ before).mp hbefore
      refine ⟨hroot, String.ofList after, by simpa using hafter, ?_⟩
      rw [← String.toList_inj, hname]
      simp
    · rintro ⟨-, last, hlast, rfl⟩
      refine ⟨above.toList, ?_, String.ofList_toList⟩
      rw [Text.beforeLast?_eq_some_iff]
      exact ⟨last.toList, by simp, hlast⟩

/-- Induction on the way up from a name. -/
theorem climbing {P : String → Prop} (top : ∀ name, parent? name = none → P name)
    (up : ∀ name above, parent? name = some above → P above → P name) (name : String) : P name := by
  induction hlength : name.length using Nat.strongRecOn generalizing name with
  | ind n ih =>
    cases hparent : parent? name with
    | none => exact top name hparent
    | some above =>
      have hshorter := length_lt_of_parent? hparent
      exact up name above hparent (ih above.length (hlength ▸ hshorter) above rfl)

/-- A name and those above it, itself first. -/
def chain (name : String) : List String :=
  match _h : parent? name with
  | none => [name]
  | some above => name :: chain above
termination_by name.length
decreasing_by exact length_lt_of_parent? _h

theorem chain_of_none {name : String} (h : parent? name = none) : chain name = [name] := by
  rw [chain]
  split
  · rfl
  · rename_i above hsome
    rw [h] at hsome
    cases hsome

theorem chain_of_some {name above : String} (h : parent? name = some above) :
    chain name = name :: chain above := by
  rw [chain]
  split
  · rename_i hnone
    rw [h] at hnone
    cases hnone
  · rename_i other hsome
    rw [h] at hsome
    cases hsome
    rfl

theorem mem_chain_self (name : String) : name ∈ chain name := by
  cases h : parent? name with
  | none => rw [chain_of_none h]; exact List.mem_cons_self
  | some above => rw [chain_of_some h]; exact List.mem_cons_self

theorem mem_chain_of_none {name other : String} (h : parent? name = none) :
    other ∈ chain name ↔ other = name := by
  rw [chain_of_none h, List.mem_singleton]

theorem mem_chain_of_some {name above other : String} (h : parent? name = some above) :
    other ∈ chain name ↔ other = name ∨ other ∈ chain above := by
  rw [chain_of_some h, List.mem_cons]

/-- A name is not above itself. -/
theorem not_mem_chain_of_parent? {name above : String} (h : parent? name = some above) :
    name ∉ chain above := by
  have hshorter (other : String) : ∀ a ∈ chain other, a.length ≤ other.length := by
    induction other using climbing with
    | top other hnone =>
      intro a ha
      obtain rfl := (mem_chain_of_none hnone).mp ha
      exact Nat.le_refl _
    | up other next hsome ih =>
      intro a ha
      rcases (mem_chain_of_some hsome).mp ha with rfl | hnext
      · exact Nat.le_refl _
      · have := length_lt_of_parent? hsome
        have := ih a hnext
        omega
  intro hmem
  have := length_lt_of_parent? h
  have := hshorter above name hmem
  omega

/-! ## Asking for a logger -/

/-- A logger that is new. -/
def fresh (name : String) (level : Option Level) : Logger :=
  { level := newLevel name level, above := parent? name }

/-- What asking for a logger makes of another name that has no logger yet. -/
def asked? (name : String) (level : Option Level) (other : String) : Option Logger :=
  if other = name then some (fresh name level)
  else if other ∈ chain name then some (fresh other none)
  else none

theorem asked?_isSome_iff (name : String) (level : Option Level) (other : String) :
    (asked? name level other).isSome ↔ other ∈ chain name := by
  unfold asked?
  split
  · rename_i heq
    simp [heq, mem_chain_self]
  · split <;> simp_all

theorem asked?_of_none {name : String} (hparent : parent? name = none) (level : Option Level)
    (other : String) :
    asked? name level other = if other = name then some (fresh name level) else none := by
  unfold asked?
  split
  · rfl
  · rename_i hother
    rw [if_neg fun h => hother ((mem_chain_of_none hparent).mp h)]

/-- Below the logger itself, the same is made as when the one above it is asked for. -/
theorem asked?_of_some {name above other : String} (hparent : parent? name = some above)
    (hother : other ≠ name) (level : Option Level) :
    asked? name level other = asked? above none other := by
  unfold asked?
  simp only [mem_chain_of_some hparent, hother, false_or, if_false]
  by_cases habove : other = above
  · rw [habove, if_pos rfl, if_pos (mem_chain_self above)]
  · rw [if_neg habove]

theorem lookup_concat (t : LogTable) (name other : String) (l : Logger) :
    List.lookup other (t ++ [(name, l)]) =
      (t.lookup other).or (if other = name then some l else none) := by
  rw [List.lookup_append, Named.lookup_cons_eq]
  rfl

theorem get_of_lookup {t : LogTable} {name : String} {l : Logger} (h : t.lookup name = some l) :
    get t name = l := by
  rw [get, h, Option.getD_some]

theorem ensure_of_mem {t : LogTable} {name : String} (h : name ∈ Named.names t)
    (level : Option Level) : ensure t name level = t := by
  rw [ensure, if_pos ((Named.lookup_isSome_iff t name).mpr h)]

/-- A new logger without another one above it. -/
theorem ensure_of_none {t : LogTable} {name : String} (hnew : name ∉ Named.names t)
    (hparent : parent? name = none) (level : Option Level) :
    ensure t name level = t ++ [(name, fresh name level)] := by
  rw [ensure, if_neg fun h => hnew ((Named.lookup_isSome_iff t name).mp h)]
  dsimp only
  split
  · rw [fresh, hparent]
  · rename_i above hsome
    rw [hparent] at hsome
    cases hsome

/-- A new logger is put into the table before the one above it is asked for, and linked after that. -/
theorem ensure_of_some {t : LogTable} {name above : String} (hnew : name ∉ Named.names t)
    (hparent : parent? name = some above) (level : Option Level) :
    ensure t name level =
      change (ensure (t ++ [(name, { level := newLevel name level })]) above none) name
        fun l => { l with above := some above } := by
  rw [ensure, if_neg fun h => hnew ((Named.lookup_isSome_iff t name).mp h)]
  dsimp only
  split
  · rename_i hnone
    rw [hparent] at hnone
    cases hnone
  · rename_i other hsome
    rw [hparent] at hsome
    cases hsome
    rfl

/-- Each logger on the way up from a name has all those above it. -/
def IsClosedOn (t : LogTable) (row : List String) : Prop :=
  ∀ name ∈ row, name ∈ Named.names t → ∀ above ∈ chain name, above ∈ Named.names t

theorem or_asked?_of_mem {t : LogTable} {name : String} (hclosed : t.IsClosedOn (chain name))
    (hmem : name ∈ Named.names t) (level : Option Level) (other : String) :
    (t.lookup other).or (asked? name level other) = t.lookup other := by
  cases hlookup : t.lookup other with
  | some l => rfl
  | none =>
    have hnew := (Named.lookup_eq_none_iff t other).mp hlookup
    rw [Option.none_or, ← Option.not_isSome_iff_eq_none, asked?_isSome_iff]
    exact fun hother => hnew (hclosed name (mem_chain_self name) hmem other hother)

/-- Putting a new logger into the table leaves the way up from the one above it closed. -/
theorem IsClosedOn.concat {t : LogTable} {name above : String} (hclosed : t.IsClosedOn (chain name))
    (hparent : parent? name = some above) (l : Logger) :
    IsClosedOn (t ++ [(name, l)]) (chain above) := by
  intro a ha hmem b hb
  rw [Named.names_append, List.mem_append] at hmem ⊢
  have hne : a ≠ name := by
    rintro rfl
    exact not_mem_chain_of_parent? hparent ha
  have hat : a ∈ Named.names t := hmem.resolve_right (by simpa using hne)
  exact .inl (hclosed a ((mem_chain_of_some hparent).mpr (.inr ha)) hat b hb)

/-- Asking for a logger leaves those that are there as they are, and makes it and those above it
where they are lacking. -/
theorem lookup_ensure {t : LogTable} {name : String} (hclosed : t.IsClosedOn (chain name))
    (level : Option Level) (other : String) :
    (ensure t name level).lookup other = (t.lookup other).or (asked? name level other) := by
  induction name using climbing generalizing t level other with
  | top name hparent =>
    by_cases hmem : name ∈ Named.names t
    · rw [ensure_of_mem hmem, or_asked?_of_mem hclosed hmem]
    · rw [ensure_of_none hmem hparent, lookup_concat, asked?_of_none hparent]
  | up name above hparent ih =>
    by_cases hmem : name ∈ Named.names t
    · rw [ensure_of_mem hmem, or_asked?_of_mem hclosed hmem]
    · have hnone := (Named.lookup_eq_none_iff t name).mpr hmem
      have hrest := ih (hclosed.concat hparent { level := newLevel name level }) none
      rw [ensure_of_some hmem hparent, change, Named.lookup_assign]
      by_cases hother : other = name
      · subst hother
        have hmade : get (ensure (t ++ [(other, { level := newLevel other level })]) above none) other =
            { level := newLevel other level } := by
          apply get_of_lookup
          rw [hrest, lookup_concat, hnone, if_pos rfl]
          rfl
        rw [if_pos rfl, hmade, hnone, asked?, if_pos rfl, fresh, hparent]
        rfl
      · rw [if_neg hother, hrest, lookup_concat, if_neg hother, Option.or_none,
          asked?_of_some hparent hother]

/-! ## The links -/

/-- There is one logger for a name, each is linked to the one that its name prescribes, and that one is
there. -/
structure IsLinked (t : LogTable) : Prop where
  nodup : (Named.names t).Nodup
  linked : ∀ name l, t.lookup name = some l → l.above = parent? name
  closed : ∀ name ∈ Named.names t, ∀ above, parent? name = some above → above ∈ Named.names t

theorem isLinked_nil : IsLinked [] where
  nodup := List.nodup_nil
  linked _ _ h := nomatch h
  closed _ h := nomatch h

/-- With a logger all those on the way up from it are there. -/
theorem IsLinked.chain_subset {t : LogTable} (h : t.IsLinked) {name : String}
    (hmem : name ∈ Named.names t) : chain name ⊆ Named.names t := by
  induction name using climbing with
  | top name hparent =>
    rw [chain_of_none hparent, List.cons_subset]
    exact ⟨hmem, List.nil_subset _⟩
  | up name above hparent ih =>
    rw [chain_of_some hparent, List.cons_subset]
    exact ⟨hmem, ih (h.closed name hmem above hparent)⟩

theorem IsLinked.isClosedOn {t : LogTable} (h : t.IsLinked) (row : List String) :
    t.IsClosedOn row := fun _ _ hmem _ habove => h.chain_subset hmem habove

theorem nodup_names_concat {t : LogTable} (h : (Named.names t).Nodup) {name : String}
    (hnew : name ∉ Named.names t) (l : Logger) : (Named.names (t ++ [(name, l)])).Nodup := by
  rw [← Named.assign_of_not_mem l hnew]
  exact Named.nodup_names_assign h name l

theorem nodup_names_ensure {t : LogTable} (h : (Named.names t).Nodup) (name : String)
    (level : Option Level) : (Named.names (ensure t name level)).Nodup := by
  by_cases hmem : name ∈ Named.names t
  · rwa [ensure_of_mem hmem]
  · induction name using climbing generalizing t level with
    | top name hparent =>
      rw [ensure_of_none hmem hparent]
      exact nodup_names_concat h hmem _
    | up name above hparent ih =>
      rw [ensure_of_some hmem hparent]
      apply Named.nodup_names_assign
      have hmade := nodup_names_concat h hmem { level := newLevel name level }
      by_cases habove : above ∈ Named.names (t ++ [(name, { level := newLevel name level })])
      · rwa [ensure_of_mem habove]
      · exact ih hmade none habove

theorem mem_names_ensure {t : LogTable} (h : t.IsLinked) (name : String) (level : Option Level)
    (other : String) :
    other ∈ Named.names (ensure t name level) ↔ other ∈ Named.names t ∨ other ∈ chain name := by
  rw [← Named.lookup_isSome_iff, lookup_ensure (h.isClosedOn _), Option.isSome_or, Bool.or_eq_true,
    Named.lookup_isSome_iff, asked?_isSome_iff]

/-- The one above a name of the chain is in the chain. -/
theorem parent?_mem_chain {name other above : String} (hother : other ∈ chain name)
    (hparent : parent? other = some above) : above ∈ chain name := by
  induction name using climbing with
  | top name hnone =>
    rw [(mem_chain_of_none hnone).mp hother, hnone] at hparent
    cases hparent
  | up name upper hsome ih =>
    rw [mem_chain_of_some hsome]
    rcases (mem_chain_of_some hsome).mp hother with rfl | hupper
    · rw [hsome] at hparent
      cases hparent
      exact .inr (mem_chain_self _)
    · exact .inr (ih hupper)

theorem IsLinked.ensure {t : LogTable} (h : t.IsLinked) (name : String) (level : Option Level) :
    IsLinked (t.ensure name level) where
  nodup := nodup_names_ensure h.nodup name level
  linked other l hother := by
    rw [lookup_ensure (h.isClosedOn _)] at hother
    cases hlookup : t.lookup other with
    | some found =>
      rw [hlookup] at hother
      cases hother
      exact h.linked other l hlookup
    | none =>
      rw [hlookup, Option.none_or, asked?] at hother
      split at hother
      · rename_i heq
        cases hother
        rw [heq]
        rfl
      · split at hother
        · cases hother
          rfl
        · cases hother
  closed other hother above hparent := by
    rw [mem_names_ensure h] at hother ⊢
    rcases hother with hold | hnew
    · exact .inl (h.closed other hold above hparent)
    · exact .inr (parent?_mem_chain hnew hparent)

/-- Changing the level or the handlers of a logger that is there leaves the links as they are. -/
theorem IsLinked.change {t : LogTable} (h : t.IsLinked) {name : String} (hmem : name ∈ Named.names t)
    {f : Logger → Logger} (hf : ∀ l, (f l).above = l.above) : IsLinked (t.change name f) := by
  have hnames (other : String) :
      other ∈ Named.names (t.change name f) ↔ other ∈ Named.names t := by
    rw [LogTable.change, Named.names_assign, if_pos hmem]
  constructor
  · exact Named.nodup_names_assign h.nodup name _
  · intro other l hother
    rw [LogTable.change, Named.lookup_assign] at hother
    split at hother
    · rename_i heq
      cases hother
      obtain ⟨l, hl⟩ := Option.isSome_iff_exists.mp ((Named.lookup_isSome_iff t name).mpr hmem)
      rw [hf, get_of_lookup hl, heq]
      exact h.linked name l hl
    · exact h.linked other l hother
  · intro other hother above hparent
    rw [hnames] at hother ⊢
    exact h.closed other hother above hparent

/-! ## Calls -/

namespace Call

/-- What a call makes of its logger, once that is there. -/
def alter : Call → Logger → Logger
  | get _ _, l => l
  | setLevel _ level, l => { l with level }
  | addHandler _ h, l => { l with handlers := l.handlers ++ [h] }
  | removeHandler _ h, l =>
    { l with handlers := l.handlers.eraseP fun other => other.serial == h.serial }

/-- What a call makes of the logger with a name, if there is one: it changes its own logger, and makes
those above it where they are lacking. -/
def effect (name : String) (l : Option Logger) (c : Call) : Option Logger :=
  if name = c.name then some (c.alter (l.getD (fresh name c.asked)))
  else if name ∈ chain c.name then some (l.getD (fresh name none))
  else l

theorem above_alter (c : Call) (l : Logger) : (c.alter l).above = l.above := by
  cases c <;> rfl

variable {t : LogTable}

/-- The logger of a call is there after it has been asked for. -/
theorem lookup_asked (h : t.IsLinked) (c : Call) :
    (ensure t c.name c.asked).lookup c.name =
      some ((t.lookup c.name).getD (fresh c.name c.asked)) := by
  rw [lookup_ensure (h.isClosedOn _), asked?, if_pos rfl]
  cases t.lookup c.name <;> rfl

/-- A call asks for its logger, and then it changes it. -/
theorem after_eq (h : t.IsLinked) (c : Call) :
    c.after t = change (ensure t c.name c.asked) c.name c.alter := by
  cases c with
  | get name level =>
    have hthere := lookup_asked h (get name level)
    rw [change, get_of_lookup hthere]
    exact (Named.assign_of_lookup hthere).symm
  | _ => rfl

/-- One call: what it makes of each logger depends on this logger and the call only. -/
theorem lookup_after (h : t.IsLinked) (c : Call) (name : String) :
    (c.after t).lookup name = c.effect name (t.lookup name) := by
  rw [after_eq h, change, Named.lookup_assign, effect]
  by_cases hname : name = c.name
  · rw [if_pos hname, if_pos hname, get_of_lookup (lookup_asked h c), hname]
  · rw [if_neg hname, if_neg hname, lookup_ensure (h.isClosedOn _), asked?, if_neg hname]
    split
    · cases t.lookup name <;> rfl
    · rw [Option.or_none]

/-- One call keeps the links. -/
theorem isLinked_after (h : t.IsLinked) (c : Call) : (c.after t).IsLinked := by
  rw [after_eq h]
  apply (h.ensure c.name c.asked).change
  · rw [mem_names_ensure h]
    exact .inr (mem_chain_self c.name)
  · exact above_alter c

/-- Any calls keep the links, and what they make of a logger is what each of them makes of it, one
after the other. -/
theorem afterAll_linked (h : t.IsLinked) (calls : List Call) :
    (afterAll t calls).IsLinked ∧
      ∀ name, (afterAll t calls).lookup name =
        calls.foldl (fun l c => c.effect name l) (t.lookup name) := by
  induction calls generalizing t with
  | nil => exact ⟨h, fun name => rfl⟩
  | cons c rest ih =>
    obtain ⟨hlinked, hlookup⟩ := ih (isLinked_after h c)
    refine ⟨hlinked, fun name => ?_⟩
    rw [List.foldl_cons, ← lookup_after h]
    exact hlookup name

/-- A logger is there once it, or one that it is above of, has been called on. -/
theorem mem_names_afterAll (h : t.IsLinked) (calls : List Call) (name : String) :
    name ∈ Named.names (afterAll t calls) ↔
      name ∈ Named.names t ∨ ∃ c ∈ calls, name ∈ chain c.name := by
  induction calls generalizing t with
  | nil => simp [afterAll]
  | cons c rest ih =>
    have hstep : name ∈ Named.names (c.after t) ↔ name ∈ Named.names t ∨ name ∈ chain c.name := by
      rw [after_eq h, change, Named.names_assign, if_pos, mem_names_ensure h]
      rw [mem_names_ensure h]
      exact .inr (mem_chain_self c.name)
    have hrest := ih (isLinked_after h c)
    rw [hstep, or_assoc] at hrest
    simp only [List.mem_cons, exists_eq_or_imp]
    exact hrest

end Call

/-! ## Ways up -/

/-- The way up from a logger along the links that are stored comes to an end, with these names. -/
inductive Climbs (t : LogTable) : String → List String → Prop where
  | top {name : String} (last : (get t name).above = none) : Climbs t name [name]
  | up {name above : String} {row : List String} (link : (get t name).above = some above)
      (rest : Climbs t above row) : Climbs t name (name :: row)

theorem IsLinked.above_get {t : LogTable} (h : t.IsLinked) {name : String}
    (hmem : name ∈ Named.names t) : (get t name).above = parent? name := by
  obtain ⟨l, hl⟩ := Option.isSome_iff_exists.mp ((Named.lookup_isSome_iff t name).mpr hmem)
  rw [get_of_lookup hl]
  exact h.linked name l hl

/-- Every way up ends, and it is the chain of the name. -/
theorem IsLinked.climbs_iff {t : LogTable} (h : t.IsLinked) {name : String}
    (hmem : name ∈ Named.names t) (row : List String) : Climbs t name row ↔ row = chain name := by
  induction name using climbing generalizing row with
  | top name hparent =>
    have hlink : (get t name).above = none := (h.above_get hmem).trans hparent
    rw [chain_of_none hparent]
    constructor
    · intro hclimbs
      cases hclimbs with
      | top last => rfl
      | up link rest =>
        rw [hlink] at link
        cases link
    · rintro rfl
      exact .top hlink
  | up name above hparent ih =>
    have hlink : (get t name).above = some above := (h.above_get hmem).trans hparent
    have hrest := ih (h.closed name hmem above hparent)
    rw [chain_of_some hparent]
    constructor
    · intro hclimbs
      cases hclimbs with
      | top last =>
        rw [hlink] at last
        cases last
      | up link rest =>
        rw [hlink] at link
        cases link
        rw [(hrest _).mp rest]
    · rintro rfl
      exact .up hlink ((hrest _).mpr rfl)

/-- A walk goes the whole way up. -/
theorem IsLinked.walk_eq {t : LogTable} (h : t.IsLinked) {name : String}
    (hmem : name ∈ Named.names t) : walk t name = (chain name).map (get t) := by
  induction name using climbing with
  | top name hparent =>
    rw [walk, chain_of_none hparent]
    rw [(h.above_get hmem).trans hparent]
    rfl
  | up name above hparent ih =>
    rw [walk, chain_of_some hparent]
    rw [(h.above_get hmem).trans hparent, List.map_cons, ← ih (h.closed name hmem above hparent)]
    exact if_pos (length_lt_of_parent? hparent)

end PluginDescriptor.LogTable
