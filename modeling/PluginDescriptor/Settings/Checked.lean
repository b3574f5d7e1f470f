import PluginDescriptor.Named
import PluginDescriptor.Settings.Problem
import PluginDescriptor.Text.Utf8

/-!
# Reading settings

A setting is read from a value, and either has a result or violates some rules. Settings read side by
side are all looked at: what is wrong with each of them is listed, in order. A reader of a part knows
nothing of where the part is; `within` adds the place.
-/

set_option autoImplicit false

namespace PluginDescriptor

/-- What is read from values: a result, or all that is wrong, in order. -/
abbrev Checked (α : Type) := Except (List Violation) α

namespace Checked

variable {α β : Type}

/-- All that is wrong with what was read. -/
def faults : Checked α → List Violation
  | .ok _ => []
  | .error violations => violations

/-- Apply one result to another; what is wrong with the first comes before what is wrong with the
second. -/
def apply (f : Checked (α → β)) (x : Checked α) : Checked β :=
  match f, x with
  | .ok f, .ok a => .ok (f a)
  | f, x => .error (faults f ++ faults x)

/-- Read all items; what is wrong with earlier ones comes first. -/
def all : List (Checked α) → Checked (List α)
  | [] => .ok []
  | x :: rest => apply (x.map List.cons) (all rest)

/-- One rule is broken, at the place read from. -/
def refuse (text rule : String) : Checked α := .error [{ place := [], text, rule }]

/-- What was read is the part of something under a key. -/
def within (key : Value) (x : Checked α) : Checked α :=
  x.mapError fun violations => violations.map fun v => { v with place := key :: v.place }

/-- Hold a result against a further rule, whose text is that of a refused value. -/
def require (holds : α → Bool) (text : α → String) (x : Checked α) : Checked α :=
  match x with
  | .ok a =>
    if holds a then .ok a
    else
      let text := text a
      refuse s!"Value error, {text}" "value_error"
  | .error violations => .error violations

/-- Applying succeeds with both parts or not at all. -/
theorem apply_eq_ok_iff {f : Checked (α → β)} {x : Checked α} {b : β} :
    apply f x = .ok b ↔ ∃ g a, f = .ok g ∧ x = .ok a ∧ g a = b := by
  cases f <;> cases x <;> simp [apply]

/-! ## Readers -/

/-- Read a text, which may be given as its bytes. -/
def text : Value → Checked String
  | .str s => .ok s
  | .bytes b =>
    match Text.decodeUtf8 b with
    | .ok cs => .ok (String.ofList cs)
    | .error _ =>
      refuse "Input should be a valid string, unable to parse raw data as a unicode string"
        "string_unicode"
  | _ => refuse "Input should be a valid string" "string_type"

/-- Read a text that is not empty. -/
def someText (v : Value) : Checked String :=
  match text v with
  | .ok s =>
    if s.isEmpty then refuse "String should have at least 1 character" "string_too_short" else .ok s
  | .error violations => .error violations

/-- Read one of several things by its name. -/
def oneOf (choices : Named α) (v : Value) : Checked α :=
  match text v with
  | .ok s =>
    match choices.lookup s with
    | some a => .ok a
    | none =>
      let names := Text.join "|" (choices.map (·.1))
      refuse s!"String should match pattern '^({names})$'" "string_pattern_mismatch"
  | .error violations => .error violations

/-- Read what may be left out by giving nothing. -/
def optional (read : Value → Checked α) : Value → Checked (Option α)
  | .null => .ok none
  | v => (read v).map some

/-- The bound of whole numbers of 64 bits. -/
def placeBound : Int := 9223372036854775808

/-- How a place names a key or a position: texts and whole numbers of 64 bits by themselves, others by
their expressions. -/
def placeOf : Value → Value
  | .str s => .str s
  | .bool b => .int (Value.ofTruth b)
  | .int i => if -placeBound ≤ i ∧ i < placeBound then .int i else .str (toString i)
  | v => .str v.expression

/-- Read the items of a sequence or a set. -/
def list (read : Value → Checked α) (v : Value) : Checked (List α) :=
  let items (vs : List Value) : Checked (List α) :=
    all (vs.mapIdx fun i item => within (placeOf (.int i)) (read item))
  match v with
  | .list vs | .tuple vs | .set vs => items vs
  | _ => refuse "Input should be a valid list" "list_type"

/-- Read the entries of a mapping from texts. A text given twice keeps what it was given last. -/
def named (read : Value → Checked α) : Value → Checked (Named α)
  | .map entries | .frozen entries =>
    let entry (k v : Value) : Checked (String × α) :=
      within (placeOf k) (apply ((within (.str "[key]") (text k)).map Prod.mk) (read v))
    (all (entries.map fun (k, v) => entry k v)).map Named.ofList
  | _ => refuse "Input should be a valid dictionary" "dict_type"

/-- Read what is under a key; without the key, the usual thing stands there. -/
def field (entries : Entries) (key : String) (usual : α) (read : Value → Checked α) : Checked α :=
  match Fields.find? entries key with
  | none => .ok usual
  | some v => within (.str key) (read v)

end Checked

end PluginDescriptor
