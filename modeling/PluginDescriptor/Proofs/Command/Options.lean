import PluginDescriptor.Command.Grammar
import PluginDescriptor.Proofs.Outcome

/-!
# Options in front of a command line

What is read of a command line does not depend on the options that stand in front of it: they are
read first, and what is read of the rest comes behind them (`Grammar.read_spelled`). This holds for
every way to write an option and its value, with a name that is cut short or a value that is attached.
-/

set_option autoImplicit false

namespace PluginDescriptor.Command

namespace Grammar

/-- What is read when options were read before. -/
def Reading.behind (given : List (String × String)) (r : Reading) : Reading :=
  { r with options := given ++ r.options }

/-- What is read when an option is read after it. -/
def Reading.withOption (r : Reading) (option : String × String) : Reading :=
  { r with options := r.options ++ [option] }

theorem Reading.withOption_behind (given : List (String × String)) (r : Reading)
    (option : String × String) :
    (r.behind given).withOption option = (r.withOption option).behind given := by
  simp only [behind, withOption, List.append_assoc]

variable (g : Grammar)

/-! ## One option -/

/-- What follows from a value that an option is given. -/
def readValue (spec : OptionSpec) (choices : List String) (value : String) (left : List Word)
    (r : Reading) : Except Stop (Reading × List Word) :=
  (g.checkChoice spec.label choices value).map fun _ => (r.withOption (spec.label, value), left)

theorem readOption_attached {meant : Meant} {choices : List String} {attached : Attached}
    (hrole : meant.spec.role = .value choices) (hattached : meant.attached = some attached)
    (r : Reading) (rest : List Word) :
    g.readOption r meant rest = g.readValue meant.spec choices attached.text rest r := by
  unfold readOption readValue
  rw [hrole, hattached]
  simp only [pure_bind]
  cases g.checkChoice meant.spec.label choices attached.text with
  | ok _ => rfl
  | error stop => rfl

theorem readOption_next {meant : Meant} {choices : List String}
    (hrole : meant.spec.role = .value choices) (hattached : meant.attached = none) (r : Reading)
    (value : String) (rest : List Word) :
    g.readOption r meant (.plain value :: rest) =
      g.readValue meant.spec choices value rest r := by
  unfold readOption readValue
  rw [hrole, hattached]
  simp only [pure_bind]
  cases g.checkChoice meant.spec.label choices value with
  | ok _ => rfl
  | error stop => rfl

/-- An option is read in the same way whatever was read before, from words of which it leaves no more
than there are. -/
theorem readOption_eq (meant : Meant) (rest : List Word) :
    (∃ stop, ∀ r, g.readOption r meant rest = .error stop) ∨
      ∃ choices value left, left.length ≤ rest.length ∧
        ∀ r, g.readOption r meant rest = g.readValue meant.spec choices value left r := by
  cases hrole : meant.spec.role with
  | asks q =>
    left
    unfold readOption
    rw [hrole]
    cases meant.attached with
    | none => exact ⟨.question q, fun r => rfl⟩
    | some attached =>
      dsimp only
      cases g.checkAttached meant.spec (!Text.hasLead "--" meant.name) attached.marked
        attached.text.toList with
      | ok _ => exact ⟨.question q, fun r => rfl⟩
      | error stop => exact ⟨stop, fun r => rfl⟩
  | value choices =>
    cases hattached : meant.attached with
    | some attached =>
      exact .inr ⟨choices, attached.text, rest, Nat.le_refl _,
        fun r => g.readOption_attached hrole hattached r rest⟩
    | none =>
      have hbare : ∃ stop, (g.misuseOf meant.spec.label "expected one argument" :
          Except Stop (String × List Word)) = .error stop := ⟨_, rfl⟩
      obtain ⟨stop, hstop⟩ := hbare
      match rest with
      | .plain value :: left =>
        exact .inr ⟨choices, value, left, Nat.le_succ _,
          fun r => g.readOption_next hrole hattached r value left⟩
      | [] | .dashes :: _ | .option _ _ :: _ =>
        refine .inl ⟨stop, fun r => ?_⟩
        unfold readOption
        rw [hrole, hattached]
        dsimp only
        rw [hstop]
        rfl

/-! ## Options read before -/

theorem fillPlaces_behind (given : List (String × String)) (r : Reading) (words : List Word)
    (places : List Place) :
    g.fillPlaces (r.behind given) words places =
      (g.fillPlaces r words places).map fun p => (p.1.behind given, p.2) := by
  induction places generalizing r words with
  | nil => rfl
  | cons place places ih =>
    cases place with
    | word name =>
      rw [fillPlaces, fillPlaces]
      cases takeWord? words with
      | none => rfl
      | some taken => exact ih { r with places := r.places ++ [(name, taken.1)] } taken.2
    | command name choices =>
      rw [fillPlaces, fillPlaces]
      split
      · rfl
      · cases words.map Word.text with
        | nil => rfl
        | cons value rest =>
          dsimp only
          cases g.checkChoice name choices value with
          | ok _ => rfl
          | error stop => rfl

theorem readValue_behind (spec : OptionSpec) (choices : List String) (value : String)
    (left : List Word) (given : List (String × String)) (r : Reading) :
    g.readValue spec choices value left (r.behind given) =
      (g.readValue spec choices value left r).map fun p => (p.1.behind given, p.2) := by
  unfold readValue
  rw [map_map_eq, Reading.withOption_behind]

theorem readOption_behind (given : List (String × String)) (r : Reading) (meant : Meant)
    (rest : List Word) :
    g.readOption (r.behind given) meant rest =
      (g.readOption r meant rest).map fun p => (p.1.behind given, p.2) := by
  obtain ⟨stop, hstop⟩ | ⟨choices, value, left, -, hread⟩ := g.readOption_eq meant rest
  · rw [hstop, hstop]
    rfl
  · rw [hread, hread, readValue_behind]

/-! ## Words, step by step -/

/-- The words that are left when a row of words that starts with none has filled the places, and what
was read. If the places take no word, the words up to the next option are left over. -/
def afterPlaces (r : Reading) (words : List Word) (p : Reading × List Word) : Reading × List Word :=
  if p.2.length < words.length then p
  else
    ({ r with extras := r.extras ++ (words.takeWhile fun w => !w.isOption).map Word.text },
      words.dropWhile fun w => !w.isOption)

/-- One step of reading words. -/
def step (r : Reading) (words : List Word) : Except Stop (Reading × List Word) :=
  match words with
  | .option _ (some meant) :: rest => g.readOption r meant rest
  | .option text none :: rest => .ok ({ r with extras := r.extras ++ [text] }, rest)
  | words => (g.fillPlaces r words r.unfilled).map (afterPlaces r words)

/-- Reading on after the places took what they take. -/
theorem readWords_places (fuel : Nat) (r : Reading) (words : List Word) :
    (do
      let (filled, rest) ← g.fillPlaces r words r.unfilled
      if rest.length < words.length then g.readWords fuel filled rest
      else
        let skipped := (words.takeWhile fun w => !w.isOption).map Word.text
        g.readWords fuel { r with extras := r.extras ++ skipped }
          (words.dropWhile fun w => !w.isOption)) =
      (g.fillPlaces r words r.unfilled).map (afterPlaces r words) >>=
        fun p => g.readWords fuel p.1 p.2 := by
  cases g.fillPlaces r words r.unfilled with
  | error stop => rfl
  | ok p =>
    obtain ⟨filled, rest⟩ := p
    have hmap : (Except.ok (filled, rest) : Except Stop _).map (afterPlaces r words) =
        .ok (afterPlaces r words (filled, rest)) := rfl
    rw [hmap, ok_bind_eq, ok_bind_eq, afterPlaces]
    by_cases hshorter : rest.length < words.length
    · simp only [if_pos hshorter]
    · simp only [if_neg hshorter]

theorem readWords_succ (fuel : Nat) (r : Reading) (words : List Word)
    (hoption : words.any Word.isOption = true) :
    g.readWords (fuel + 1) r words = g.step r words >>= fun p => g.readWords fuel p.1 p.2 := by
  rw [readWords.eq_def g (fuel + 1)]
  dsimp only
  rw [if_pos hoption]
  match words with
  | .option _ (some meant) :: rest => rfl
  | .option text none :: rest => rfl
  | [] | .plain _ :: _ | .dashes :: _ => exact g.readWords_places fuel r _

theorem readWords_last (fuel : Nat) (r : Reading) (words : List Word)
    (hoption : words.any Word.isOption = false) :
    g.readWords (fuel + 1) r words = (g.fillPlaces r words r.unfilled).map fun p =>
      { p.1 with extras := p.1.extras ++ p.2.map Word.text } := by
  unfold readWords
  rw [hoption, if_neg Bool.false_ne_true]
  cases g.fillPlaces r words r.unfilled with
  | error stop => rfl
  | ok p => rfl

theorem step_behind (given : List (String × String)) (r : Reading) (words : List Word) :
    g.step (r.behind given) words = (g.step r words).map fun p => (p.1.behind given, p.2) := by
  have hafter (p : Reading × List Word) :
      afterPlaces (r.behind given) words (p.1.behind given, p.2) =
        ((afterPlaces r words p).1.behind given, (afterPlaces r words p).2) := by
    unfold afterPlaces
    split
    · rfl
    · rfl
  unfold step
  split
  · exact g.readOption_behind given r _ _
  · rfl
  · have hplaces := g.fillPlaces_behind given r words r.unfilled
    have hunfilled : (r.behind given).unfilled = r.unfilled := rfl
    rw [hunfilled, hplaces, map_map_eq, map_map_eq]
    simp only [hafter]

theorem length_readOption {meant : Meant} {rest : List Word} {r : Reading}
    {p : Reading × List Word} (h : g.readOption r meant rest = .ok p) :
    p.2.length ≤ rest.length := by
  obtain ⟨stop, hstop⟩ | ⟨choices, value, left, hleft, hread⟩ := g.readOption_eq meant rest
  · rw [hstop] at h
    cases h
  · rw [hread, readValue, map_eq_ok_iff] at h
    obtain ⟨-, -, rfl⟩ := h
    exact hleft

theorem length_afterPlaces {r : Reading} {w : Word} {rest : List Word} (hw : w.isOption = false)
    (p : Reading × List Word) : (afterPlaces r (w :: rest) p).2.length < (w :: rest).length := by
  unfold afterPlaces
  split
  · assumption
  · rw [List.dropWhile_cons_of_pos (by rw [hw]; rfl), List.length_cons]
    exact Nat.lt_succ_of_le (List.dropWhile_suffix _).length_le

/-- Each step takes at least one word. -/
theorem length_step {r : Reading} {words : List Word} {p : Reading × List Word}
    (hoption : words.any Word.isOption = true) (h : g.step r words = .ok p) :
    p.2.length < words.length := by
  match words with
  | [] => cases hoption
  | .option _ (some meant) :: rest => exact Nat.lt_succ_of_le (g.length_readOption h)
  | .option _ none :: rest =>
    cases h
    exact Nat.lt_succ_self rest.length
  | .plain _ :: rest | .dashes :: rest =>
    obtain ⟨q, -, rfl⟩ := map_eq_ok_iff.mp h
    exact length_afterPlaces rfl q

/-- What is read of words does not depend on the fuel, if there is enough of it. -/
theorem readWords_congr {fuel fuel' : Nat} {words : List Word} (hfuel : words.length < fuel)
    (hfuel' : words.length < fuel') (r : Reading) :
    g.readWords fuel r words = g.readWords fuel' r words := by
  induction fuel generalizing fuel' r words with
  | zero => omega
  | succ fuel ih =>
    obtain ⟨fuel', rfl⟩ : ∃ n, fuel' = n + 1 := ⟨fuel' - 1, by omega⟩
    cases hoption : words.any Word.isOption with
    | false => rw [readWords_last g fuel r words hoption, readWords_last g fuel' r words hoption]
    | true =>
      rw [readWords_succ g fuel r words hoption, readWords_succ g fuel' r words hoption]
      cases hstep : g.step r words with
      | error stop => rfl
      | ok p =>
        have hshorter := g.length_step hoption hstep
        exact ih (by omega) (by omega) p.1

/-- Options that were read before stay in front of what is read of words. -/
theorem readWords_behind (given : List (String × String)) (fuel : Nat) (r : Reading)
    (words : List Word) :
    g.readWords fuel (r.behind given) words = (g.readWords fuel r words).map (·.behind given) := by
  induction fuel generalizing r words with
  | zero => rfl
  | succ fuel ih =>
    cases hoption : words.any Word.isOption with
    | false =>
      have hunfilled : (r.behind given).unfilled = r.unfilled := rfl
      rw [readWords_last g fuel _ words hoption, readWords_last g fuel r words hoption, hunfilled,
        fillPlaces_behind, map_map_eq, map_map_eq]
      rfl
    | true =>
      rw [readWords_succ g fuel _ words hoption, readWords_succ g fuel r words hoption, step_behind]
      cases g.step r words with
      | error stop => rfl
      | ok p => exact ih p.1 p.2

/-! ## Options in front -/

/-- A word is read as what it is, and is not the two dashes that end the options. -/
def IsRead (s : String) (word : Word) : Prop := s ≠ "--" ∧ g.classify s = .ok word

/-- The option that is meant has a value, and it may be the text. -/
def Admits (meant : Meant) (value : String) : Prop :=
  ∃ choices, meant.spec.role = .value choices ∧ g.checkChoice meant.spec.label choices value = .ok ()

/-- Words that spell options with their values, each value attached to its option or in the word after
it. -/
inductive Spells : List String → List (String × String) → Prop where
  | none : Spells [] []
  | apart {s value : String} {meant : Meant} {line : List String} {options : List (String × String)} :
    IsRead g s (.option s (some meant)) → meant.attached = .none → IsRead g value (.plain value) →
    Admits g meant value → Spells line options →
    Spells (s :: value :: line) ((meant.spec.label, value) :: options)
  | attached {s : String} {meant : Meant} {attached : Attached} {line : List String}
      {options : List (String × String)} :
    IsRead g s (.option s (some meant)) → meant.attached = some attached →
    Admits g meant attached.text → Spells line options →
    Spells (s :: line) ((meant.spec.label, attached.text) :: options)

/-- All places have to be filled. -/
def complete (r : Reading) : Except Stop Reading :=
  if r.unfilled.isEmpty then .ok r
  else
    let names := Text.join ", " (r.unfilled.map Place.name)
    g.misuse s!"the following arguments are required: {names}"

theorem complete_behind (given : List (String × String)) (r : Reading) :
    g.complete (r.behind given) = (g.complete r).map (·.behind given) := by
  unfold complete Reading.behind
  dsimp only
  split
  · rfl
  · rfl

variable {g}

theorem words_cons {s : String} {word : Word} (h : IsRead g s word) (rest : List String) :
    g.words (s :: rest) = (g.words rest).map (word :: ·) := by
  rw [words, h.2]
  · cases g.words rest <;> rfl
  · exact h.1

theorem read_eq (line : List String) :
    g.read line = g.words line >>= fun words =>
      g.readWords (words.length + 1) { unfilled := g.places } words >>= g.complete := rfl

/-- A line whose first words are read as one option is read as the rest of it, behind that option. -/
theorem read_of_step {front rest : List String} {first : Word} {before : List Word}
    {option : String × String} (hfirst : first.isOption = true)
    (hwords : g.words (front ++ rest) = (g.words rest).map (first :: before ++ ·))
    (hstep : ∀ r words, g.step r (first :: before ++ words) = .ok (r.withOption option, words)) :
    g.read (front ++ rest) = (g.read rest).map (·.behind [option]) := by
  rw [read_eq, read_eq, hwords]
  cases g.words rest with
  | error stop => rfl
  | ok words =>
    have hoption : (first :: before ++ words).any Word.isOption = true := by
      rw [List.cons_append, List.any_cons, hfirst, Bool.true_or]
    have hbehind : (Reading.withOption { unfilled := g.places } option) =
        Reading.behind [option] { unfilled := g.places } := rfl
    have hfuel : words.length < (first :: before ++ words).length := by
      rw [List.length_append, List.length_cons]
      omega
    rw [Except.map, ok_bind_eq, ok_bind_eq, readWords_succ g _ _ _ hoption, hstep, ok_bind_eq, hbehind,
      readWords_behind, g.readWords_congr hfuel (Nat.lt_succ_self words.length)]
    cases g.readWords (words.length + 1) { unfilled := g.places } words with
    | error stop => rfl
    | ok r => exact g.complete_behind [option] r

theorem read_apart {s value : String} {meant : Meant} (hs : IsRead g s (.option s (some meant)))
    (hattached : meant.attached = none) (hvalue : IsRead g value (.plain value))
    (hadmits : Admits g meant value) (rest : List String) :
    g.read (s :: value :: rest) =
      (g.read rest).map (·.behind [(meant.spec.label, value)]) := by
  obtain ⟨choices, hrole, hchoice⟩ := hadmits
  have hwords : g.words ([s, value] ++ rest) =
      (g.words rest).map (.option s (some meant) :: [.plain value] ++ ·) := by
    rw [List.cons_append, List.cons_append, List.nil_append, words_cons hs, words_cons hvalue,
      map_map_eq]
    rfl
  refine read_of_step rfl hwords fun r words => ?_
  have hnext := g.readOption_next hrole hattached r value words
  rw [readValue, hchoice] at hnext
  exact hnext

theorem read_attached {s : String} {meant : Meant} {attached : Attached}
    (hs : IsRead g s (.option s (some meant))) (hattached : meant.attached = some attached)
    (hadmits : Admits g meant attached.text) (rest : List String) :
    g.read (s :: rest) =
      (g.read rest).map (·.behind [(meant.spec.label, attached.text)]) := by
  obtain ⟨choices, hrole, hchoice⟩ := hadmits
  have hwords : g.words ([s] ++ rest) =
      (g.words rest).map (.option s (some meant) :: [] ++ ·) := words_cons hs rest
  refine read_of_step rfl hwords fun r words => ?_
  have hnext := g.readOption_attached hrole hattached r words
  rw [readValue, hchoice] at hnext
  exact hnext

/-- What is read of a line behind options is what is read of it alone, with the options in front. -/
theorem read_spelled {front : List String} {options : List (String × String)}
    (h : Spells g front options) (rest : List String) :
    g.read (front ++ rest) = (g.read rest).map (·.behind options) := by
  induction h with
  | none =>
    rw [List.nil_append]
    cases g.read rest with
    | ok r => rfl
    | error stop => rfl
  | apart hs hattached hvalue hadmits _ ih =>
    rw [List.cons_append, List.cons_append, read_apart hs hattached hvalue hadmits, ih, map_map_eq]
    rfl
  | attached hs hattached hadmits _ ih =>
    rw [List.cons_append, read_attached hs hattached hadmits, ih, map_map_eq]
    rfl

end Grammar

end PluginDescriptor.Command
