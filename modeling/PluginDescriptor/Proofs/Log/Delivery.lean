import PluginDescriptor.Proofs.Log.Tree

/-!
# Where records go

A message is let through when it is as grave as the nearest level on the way up from its logger. Its
record is then handed to every handler on the way up, once for each time that the handler was added,
and a handler that fails leaves a line among the errors and nothing else (`Delivers`). What a row of
calls makes of loggers, levels and handlers is put together in `isTree_afterAll`.
-/

set_option autoImplicit false

namespace PluginDescriptor.LogTable

/-! ## Handlers -/

/-- What it leads to that a record is handed to handlers one after the other, each of which writes it or
fails. -/
inductive Delivers (record : Entries) : FileTree → List Handler → FileTree → Writing → Prop where
  | done (files : FileTree) : Delivers record files [] files []
  | written {files next last : FileTree} {h : Handler} {rest : List Handler} {text more : Writing}
      (emits : emit files record h = .ok (next, text))
      (later : Delivers record next rest last more) :
      Delivers record files (h :: rest) last (text ++ more)
  | failed {files last : FileTree} {h : Handler} {rest : List Handler} {fault : Fault} {more : Writing}
      (fails : emit files record h = .error fault)
      (later : Delivers record files rest last more) :
      Delivers record files (h :: rest) last
        ([(errorStream, s!"Logging handler failed: {fault.message}\n")] ++ more)

/-- No handler is passed over, and none is handed the record twice. -/
theorem delivers_emitAll (record : Entries) (handlers : List Handler) (files : FileTree) :
    Delivers record files handlers (emitAll files record handlers).1
      (emitAll files record handlers).2 := by
  induction handlers generalizing files with
  | nil => exact .done files
  | cons h rest ih =>
    cases hemit : emit files record h with
    | ok result =>
      obtain ⟨next, text⟩ := result
      rw [emitAll, hemit]
      exact .written hemit (ih next)
    | error fault =>
      rw [emitAll, hemit]
      exact .failed hemit (ih files)

/-! ## Levels -/

variable {t : LogTable}

/-- The level that counts is the nearest one on the way up. -/
theorem IsLinked.effectiveLevel_eq (h : t.IsLinked) {name : String} (hmem : name ∈ Named.names t) :
    effectiveLevel t name = ((chain name).findSome? fun above => (get t above).level).getD .info := by
  rw [effectiveLevel, h.walk_eq hmem, List.findSome?_map]
  rfl

theorem IsLinked.reached_eq (h : t.IsLinked) {name : String} (hmem : name ∈ Named.names t) :
    reached t name = (chain name).flatMap fun above => (get t above).handlers := by
  rw [reached, h.walk_eq hmem, List.flatMap_map]

/-- A message to a logger that is there is dropped, or its record is handed to all handlers on the way
up. -/
theorem IsLinked.log_eq (h : t.IsLinked) {n : Notice} (hmem : n.logger ∈ Named.names t)
    (files : FileTree) (time : String) :
    log t files time n =
      if n.level.rank < (effectiveLevel t n.logger).rank then (files, [])
      else emitAll files (n.record time)
        ((chain n.logger).flatMap fun above => (get t above).handlers) := by
  rw [log, ensure_of_mem hmem, ← h.reached_eq hmem]
  split
  · rename_i hgrave
    rw [if_neg (Nat.not_lt.mpr hgrave)]
  · rename_i hlight
    rw [if_pos (Nat.not_le.mp hlight)]

/-! ## The tree -/

/-- What loggers are like after a row of calls. -/
structure IsTree (calls : List Call) (t : LogTable) : Prop where
  /-- There is one logger for a name. -/
  single : (Named.names t).Nodup
  /-- Asking for it again, with whatever level, changes nothing. -/
  again : ∀ name ∈ Named.names t, ∀ level, ensure t name level = t
  /-- There are those that were called on and those above them. -/
  present : ∀ name, name ∈ Named.names t ↔ ∃ c ∈ calls, name ∈ chain c.name
  /-- Level and handlers of a logger are what the calls on it have made of them, in their order. -/
  logger : ∀ name, t.lookup name = calls.foldl (fun l c => c.effect name l) none
  /-- The root has no logger above it, nor has a name without points, and all others have one. -/
  top : ∀ name ∈ Named.names t,
    (get t name).above = none ↔ name = rootName ∨ '.' ∉ name.toList
  /-- The logger above has the name without its last part. -/
  parent : ∀ name ∈ Named.names t, ∀ above, (get t name).above = some above ↔
    name ≠ rootName ∧ ∃ last : String, '.' ∉ last.toList ∧ name = above ++ "." ++ last
  /-- It is there as well. -/
  parentPresent : ∀ name ∈ Named.names t, ∀ above, (get t name).above = some above →
    above ∈ Named.names t
  /-- Every way up ends, and the names on it are told from the name alone. -/
  climbs : ∀ name ∈ Named.names t, ∀ row, Climbs t name row ↔ row = chain name
  /-- The level of the nearest logger that has one counts. -/
  level : ∀ name ∈ Named.names t, effectiveLevel t name =
    ((chain name).findSome? fun above => (get t above).level).getD .info
  /-- A message below that level goes nowhere. -/
  dropped : ∀ files time (n : Notice), n.logger ∈ Named.names t →
    n.level.rank < (effectiveLevel t n.logger).rank → log t files time n = (files, [])
  /-- The record of any other goes to every handler on the way up. -/
  delivered : ∀ files time (n : Notice), n.logger ∈ Named.names t →
    (effectiveLevel t n.logger).rank ≤ n.level.rank →
      Delivers (n.record time) files
        ((chain n.logger).flatMap fun above => (get t above).handlers)
        (log t files time n).1 (log t files time n).2

/-- Whatever is called, in whatever order. -/
theorem isTree_afterAll (calls : List Call) : IsTree calls (Call.afterAll [] calls) := by
  obtain ⟨hlinked, hlookup⟩ := Call.afterAll_linked isLinked_nil calls
  refine {
    single := hlinked.nodup
    again := fun name hmem level => ensure_of_mem hmem level
    present := fun name => ?_
    logger := hlookup
    top := fun name hmem => ?_
    parent := fun name hmem above => ?_
    parentPresent := fun name hmem above habove => ?_
    climbs := fun name hmem row => hlinked.climbs_iff hmem row
    level := fun name hmem => hlinked.effectiveLevel_eq hmem
    dropped := fun files time n hmem hlight => ?_
    delivered := fun files time n hmem hgrave => ?_ }
  · rw [Call.mem_names_afterAll isLinked_nil]
    simp
  · rw [hlinked.above_get hmem]
    exact parent?_eq_none_iff name
  · rw [hlinked.above_get hmem]
    exact parent?_eq_some_iff name above
  · rw [hlinked.above_get hmem] at habove
    exact hlinked.closed name hmem above habove
  · rw [hlinked.log_eq hmem, if_pos hlight]
  · rw [hlinked.log_eq hmem, if_neg (Nat.not_lt.mpr hgrave)]
    exact delivers_emitAll _ _ files

end PluginDescriptor.LogTable
