/-!
# Outcomes of computations

When a computation that may fail has a value. A row of things is gone through one by one, each
changing a state or failing; `foldlM_eq_ok_iff` says once and for all when this comes to its end: each
thing has to be admitted in the state that those before it have led to. What a computation can fail
with is put together from its parts (`failsOnly_bind`, `failsOnly_foldlM`).
-/

set_option autoImplicit false

namespace PluginDescriptor

variable {ε α β σ : Type}

theorem ok_bind_eq (a : α) (f : α → Except ε β) : (Except.ok a >>= f) = f a := rfl

theorem bind_eq_ok_iff {x : Except ε α} {f : α → Except ε β} {b : β} :
    (x >>= f) = .ok b ↔ ∃ a, x = .ok a ∧ f a = .ok b := by
  cases x with
  | ok a =>
    constructor
    · exact fun h => ⟨a, rfl, h⟩
    · rintro ⟨a', ha, h⟩
      cases ha
      exact h
  | error e =>
    constructor
    · intro h
      cases h
    · rintro ⟨a, ha, -⟩
      cases ha

theorem map_eq_ok_iff {x : Except ε α} {f : α → β} {b : β} :
    x.map f = .ok b ↔ ∃ a, x = .ok a ∧ f a = b := by
  cases x <;> simp [Except.map]

theorem map_map_eq {γ : Type} (x : Except ε α) (f : α → β) (g : β → γ) :
    (x.map f).map g = x.map fun a => g (f a) := by
  cases x <;> rfl

theorem mapError_eq_ok_iff {δ : Type} {x : Except ε α} {f : ε → δ} {a : α} :
    x.mapError f = .ok a ↔ x = .ok a := by
  cases x with
  | ok b =>
    have hok : (Except.ok b : Except ε α).mapError f = .ok b := rfl
    rw [hok, Except.ok.injEq, Except.ok.injEq]
  | error e =>
    constructor
    · intro h
      cases h
    · intro h
      cases h

theorem toOption_eq_some_iff {x : Except ε α} {a : α} : x.toOption = some a ↔ x = .ok a := by
  cases x <;> simp [Except.toOption]

/-- A row goes through when its two parts do, one after the other. -/
theorem foldlM_append_eq_ok {run : σ → α → Except ε σ} {as bs : List α} {s mid s' : σ}
    (has : as.foldlM run s = .ok mid) (hbs : bs.foldlM run mid = .ok s') :
    (as ++ bs).foldlM run s = .ok s' := by
  rw [List.foldlM_append, has]
  exact hbs

theorem foldlM_cons_eq_ok {run : σ → α → Except ε σ} {a : α} {as : List α} {s mid s' : σ}
    (ha : run s a = .ok mid) (has : as.foldlM run mid = .ok s') :
    (a :: as).foldlM run s = .ok s' := by
  rw [List.foldlM_cons, ha]
  exact has

/-- If a row goes through, so does each of its things where it stands. -/
theorem exists_of_foldlM_eq_ok {run : σ → α → Except ε σ} {row : List α} {s s' : σ}
    (h : row.foldlM run s = .ok s') {a : α} (ha : a ∈ row) : ∃ mid after, run mid a = .ok after := by
  obtain ⟨before, rest, rfl⟩ := List.append_of_mem ha
  rw [List.foldlM_append] at h
  obtain ⟨mid, -, hrest⟩ := bind_eq_ok_iff.mp h
  rw [List.foldlM_cons] at hrest
  obtain ⟨after, hstep, -⟩ := bind_eq_ok_iff.mp hrest
  exact ⟨mid, after, hstep⟩

/-- Let each thing change a state when the state admits it, and fail otherwise. Going through a row
succeeds exactly when each thing is admitted where it stands, and then all have had their effect. -/
theorem foldlM_eq_ok_iff {run : σ → α → Except ε σ} {Admits : σ → α → Prop} {after : σ → α → σ}
    (hrun : ∀ s a s', run s a = .ok s' ↔ Admits s a ∧ s' = after s a) (row : List α) (s s' : σ) :
    row.foldlM run s = .ok s' ↔
      (∀ before a rest, row = before ++ a :: rest → Admits (before.foldl after s) a) ∧
        s' = row.foldl after s := by
  induction row generalizing s with
  | nil =>
    have hpure : List.foldlM run s [] = Except.ok s := rfl
    rw [hpure, Except.ok.injEq]
    constructor
    · rintro rfl
      exact ⟨fun before a rest h => by simp at h, rfl⟩
    · rintro ⟨-, rfl⟩
      rfl
  | cons a row ih =>
    rw [List.foldlM_cons, bind_eq_ok_iff, List.foldl_cons]
    constructor
    · rintro ⟨mid, hmid, hrest⟩
      obtain ⟨hadmits, rfl⟩ := (hrun s a mid).mp hmid
      obtain ⟨hall, rfl⟩ := (ih (after s a)).mp hrest
      refine ⟨fun before b rest h => ?_, rfl⟩
      cases before with
      | nil =>
        cases h
        exact hadmits
      | cons c before =>
        obtain ⟨rfl, hrow⟩ := List.cons.inj h
        exact hall before b rest hrow
    · rintro ⟨hall, rfl⟩
      refine ⟨after s a, (hrun s a _).mpr ⟨hall [] a row rfl, rfl⟩, (ih _).mpr ⟨?_, rfl⟩⟩
      intro before b rest hrow
      exact hall (a :: before) b rest (congrArg (a :: ·) hrow)

/-! ## Where a computation stops -/

theorem bind_eq_error_iff {x : Except ε α} {f : α → Except ε β} {e : ε} :
    (x >>= f) = .error e ↔ x = .error e ∨ ∃ a, x = .ok a ∧ f a = .error e := by
  cases x with
  | ok a =>
    constructor
    · exact fun h => .inr ⟨a, rfl, h⟩
    · rintro (h | ⟨a', ha, h⟩)
      · cases h
      · cases ha
        exact h
  | error e' =>
    constructor
    · intro h
      cases h
      exact .inl rfl
    · rintro (h | ⟨a, ha, -⟩)
      · cases h
        rfl
      · cases ha

/-- A row stops at one of its things with a failure: all things before it go through one after the
other, and in the state that they lead to it fails. -/
def StopsWith (run : σ → α → Except ε σ) (s : σ) (row : List α) (e : ε) : Prop :=
  ∃ before a rest mid, row = before ++ a :: rest ∧ before.foldlM run s = .ok mid ∧
    run mid a = .error e

/-- A row fails as the first of its things that fails. -/
theorem foldlM_eq_error_iff {run : σ → α → Except ε σ} (row : List α) (s : σ) (e : ε) :
    row.foldlM run s = .error e ↔ StopsWith run s row e := by
  constructor
  · intro h
    induction row generalizing s with
    | nil => cases h
    | cons a row ih =>
      rw [List.foldlM_cons, bind_eq_error_iff] at h
      obtain ha | ⟨mid, hmid, hrow⟩ := h
      · exact ⟨[], a, row, s, rfl, rfl, ha⟩
      · obtain ⟨before, b, rest, last, rfl, hbefore, hb⟩ := ih mid hrow
        exact ⟨a :: before, b, rest, last, rfl, foldlM_cons_eq_ok hmid hbefore, hb⟩
  · rintro ⟨before, a, rest, mid, rfl, hbefore, ha⟩
    have hrest : (a :: rest).foldlM run mid = .error e := by
      rw [List.foldlM_cons]
      exact bind_eq_error_iff.mpr (.inl ha)
    rw [List.foldlM_append, hbefore]
    exact hrest

/-! ## What a computation can fail with -/

/-- Every failure of the computation has a property. -/
def FailsOnly (P : ε → Prop) (x : Except ε α) : Prop := ∀ e, x = .error e → P e

theorem failsOnly_ok {P : ε → Prop} (a : α) : FailsOnly P (.ok a) := by
  intro e h
  cases h

theorem failsOnly_error {P : ε → Prop} {e : ε} (h : P e) : FailsOnly P (.error e : Except ε α) := by
  intro e' he
  cases he
  exact h

theorem failsOnly_bind {P : ε → Prop} {x : Except ε α} {f : α → Except ε β} (hx : FailsOnly P x)
    (hf : ∀ a, x = .ok a → FailsOnly P (f a)) : FailsOnly P (x >>= f) := by
  cases x with
  | ok a => exact hf a rfl
  | error e => exact failsOnly_error (hx e rfl)

theorem failsOnly_map {P : ε → Prop} {x : Except ε α} {f : α → β} (hx : FailsOnly P x) :
    FailsOnly P (x.map f) := by
  cases x with
  | ok a => exact failsOnly_ok (f a)
  | error e => exact failsOnly_error (hx e rfl)

theorem failsOnly_mapError {δ : Type} {P : ε → Prop} {f : δ → ε} (h : ∀ d, P (f d)) (x : Except δ α) :
    FailsOnly P (x.mapError f) := by
  cases x with
  | ok a => exact failsOnly_ok a
  | error d => exact failsOnly_error (h d)

theorem FailsOnly.imp {P Q : ε → Prop} {x : Except ε α} (hx : FailsOnly P x)
    (h : ∀ e, P e → Q e) : FailsOnly Q x := fun e he => h e (hx e he)

/-- What each thing of a row keeps of the state, the whole row keeps. -/
theorem foldlM_keeps {I : σ → Prop} {run : σ → α → Except ε σ} {row : List α}
    (hkeeps : ∀ a ∈ row, ∀ s s', I s → run s a = .ok s' → I s') {s s' : σ} (hs : I s)
    (h : row.foldlM run s = .ok s') : I s' := by
  induction row generalizing s with
  | nil =>
    cases h
    exact hs
  | cons a row ih =>
    rw [List.foldlM_cons] at h
    obtain ⟨mid, hmid, hrow⟩ := bind_eq_ok_iff.mp h
    exact ih (fun b hb => hkeeps b (List.mem_cons_of_mem a hb))
      (hkeeps a List.mem_cons_self s mid hs hmid) hrow

/-- What each thing of a row fails with as long as the state is kept, the whole row fails with. -/
theorem failsOnly_foldlM {P : ε → Prop} {I : σ → Prop} {run : σ → α → Except ε σ} {row : List α}
    (hkeeps : ∀ a ∈ row, ∀ s s', I s → run s a = .ok s' → I s')
    (hfails : ∀ a ∈ row, ∀ s, I s → FailsOnly P (run s a)) {s : σ} (hs : I s) :
    FailsOnly P (row.foldlM run s) ∧ ∀ s', row.foldlM run s = .ok s' → I s' := by
  refine ⟨?_, fun s' => foldlM_keeps hkeeps hs⟩
  induction row generalizing s with
  | nil => exact failsOnly_ok s
  | cons a row ih =>
    rw [List.foldlM_cons]
    refine failsOnly_bind (hfails a List.mem_cons_self s hs) fun mid hmid => ?_
    exact ih (fun b hb => hkeeps b (List.mem_cons_of_mem a hb))
      (fun b hb => hfails b (List.mem_cons_of_mem a hb)) (hkeeps a List.mem_cons_self s mid hs hmid)

/-- What none of a row fails with, computing a value of each does not fail with. -/
theorem failsOnly_mapM {P : ε → Prop} {f : α → Except ε β} {row : List α}
    (hfails : ∀ a ∈ row, FailsOnly P (f a)) : FailsOnly P (row.mapM f) := by
  induction row with
  | nil => exact failsOnly_ok []
  | cons a row ih =>
    obtain ⟨ha, hrow⟩ := List.forall_mem_cons.mp hfails
    rw [List.mapM_cons]
    exact failsOnly_bind ha fun _ _ => failsOnly_bind (ih hrow) fun _ _ => failsOnly_ok _

/-! ## A value of each of a row -/

/-- A row has values when each of its things has one, and then these are the values. -/
theorem mapM_eq_ok_iff {f : α → Except ε β} (row : List α) (values : List β) :
    row.mapM f = .ok values ↔ row.map f = values.map .ok := by
  induction row generalizing values with
  | nil => cases values <;> simp [pure, Except.pure]
  | cons a row ih =>
    rw [List.mapM_cons, List.map_cons, bind_eq_ok_iff]
    constructor
    · rintro ⟨b, hb, hrest⟩
      obtain ⟨bs, hbs, hend⟩ := bind_eq_ok_iff.mp hrest
      cases hend
      rw [List.map_cons, hb, (ih bs).mp hbs]
    · intro h
      cases values with
      | nil => cases h
      | cons b bs =>
        obtain ⟨hb, hbs⟩ := List.cons.inj h
        exact ⟨b, hb, bind_eq_ok_iff.mpr ⟨bs, (ih bs).mpr hbs, rfl⟩⟩

/-- If a row has values, so has each of its things. -/
theorem exists_of_mapM_eq_ok {f : α → Except ε β} {row : List α} {values : List β}
    (h : row.mapM f = .ok values) {a : α} (ha : a ∈ row) : ∃ b ∈ values, f a = .ok b := by
  have hmem : f a ∈ values.map Except.ok :=
    (mapM_eq_ok_iff row values).mp h ▸ List.mem_map_of_mem ha
  obtain ⟨b, hb, hok⟩ := List.mem_map.mp hmem
  exact ⟨b, hb, hok.symm⟩

/-- If the value of each of a row, when it has one, is known, so are the values of the row. -/
theorem eq_map_of_mapM_eq_ok {f : α → Except ε β} {g : α → β} {row : List α} {values : List β}
    (h : row.mapM f = .ok values) (hg : ∀ a ∈ row, ∀ b, f a = .ok b → b = g a) :
    values = row.map g := by
  induction row generalizing values with
  | nil =>
    cases h
    rfl
  | cons a row ih =>
    obtain ⟨ha, hrow⟩ := List.forall_mem_cons.mp hg
    rw [List.mapM_cons] at h
    obtain ⟨b, hb, hrest⟩ := bind_eq_ok_iff.mp h
    obtain ⟨bs, hbs, hend⟩ := bind_eq_ok_iff.mp hrest
    cases hend
    rw [List.map_cons, ha b hb, ih hbs hrow]

/-! ## Checking each of a row -/

theorem forM_cons_eq (check : α → Except ε Unit) (a : α) (row : List α) :
    (a :: row).forM check = check a >>= fun _ => row.forM check := rfl

theorem forM_congr {check other : α → Except ε Unit} {row : List α}
    (h : ∀ a ∈ row, check a = other a) : row.forM check = row.forM other := by
  induction row with
  | nil => rfl
  | cons a row ih =>
    have hrest := ih fun b hb => h b (List.mem_cons_of_mem a hb)
    rw [forM_cons_eq, forM_cons_eq, h a List.mem_cons_self, hrest]

/-- Checking each of a row succeeds when every check does. -/
theorem forM_eq_ok_iff {check : α → Except ε Unit} (row : List α) :
    row.forM check = .ok () ↔ ∀ a ∈ row, check a = .ok () := by
  induction row with
  | nil => exact ⟨fun _ a hmem => (List.not_mem_nil hmem).elim, fun _ => rfl⟩
  | cons a row ih =>
    rw [forM_cons_eq, bind_eq_ok_iff, List.forall_mem_cons, ← ih]
    exact ⟨fun ⟨_, ha, hrow⟩ => ⟨ha, hrow⟩, fun ⟨ha, hrow⟩ => ⟨(), ha, hrow⟩⟩

/-- Checking each of a row fails as the first check that fails. -/
theorem forM_eq_error_iff {check : α → Except ε Unit} (row : List α) (e : ε) :
    row.forM check = .error e ↔ ∃ before a rest, row = before ++ a :: rest ∧
      (∀ b ∈ before, check b = .ok ()) ∧ check a = .error e := by
  constructor
  · intro h
    induction row with
    | nil => cases h
    | cons a row ih =>
      cases ha : check a with
      | error e' =>
        have hfirst : (a :: row).forM check = .error e' := by
          rw [forM_cons_eq, ha]
          rfl
        rw [hfirst] at h
        exact ⟨[], a, row, rfl, fun b hmem => (List.not_mem_nil hmem).elim, ha.trans h⟩
      | ok _ =>
        have hlater : (a :: row).forM check = row.forM check := by
          rw [forM_cons_eq, ha]
          rfl
        obtain ⟨before, b, rest, rfl, hbefore, hb⟩ := ih (hlater ▸ h)
        exact ⟨a :: before, b, rest, rfl, List.forall_mem_cons.mpr ⟨ha, hbefore⟩, hb⟩
  · rintro ⟨before, a, rest, rfl, hbefore, ha⟩
    induction before with
    | nil =>
      rw [List.nil_append, forM_cons_eq, ha]
      rfl
    | cons b before ih =>
      have hb := hbefore b List.mem_cons_self
      rw [List.cons_append, forM_cons_eq, hb]
      exact ih fun c hmem => hbefore c (List.mem_cons_of_mem b hmem)

end PluginDescriptor
