import PluginDescriptor.Calendar
import PluginDescriptor.Number.Binary64

/-!
# Document values

The values that descriptors, configuration files and arguments are made of: scalars, sequences and
mappings. A mapping is a list of entries in the order of their first insertion, and any value may be
a key. A sequence is an open list or a closed tuple, and a mapping is open or read-only; the closed
forms are what a loaded descriptor is made of.
-/

set_option autoImplicit false

namespace PluginDescriptor

open Number (Binary64)

/-- A document value. -/
inductive Value where
  | null
  | bool (b : Bool)
  | int (i : Int)
  | float (x : Binary64)
  | str (s : String)
  | bytes (b : List UInt8)
  | date (d : Date)
  | moment (m : Moment)
  | list (items : List Value)
  | tuple (items : List Value)
  | set (items : List Value)
  | map (entries : List (Value × Value))
  | frozen (entries : List (Value × Value))
  deriving Repr, Inhabited

/-- Things under keys, in order. -/
abbrev Fields (α : Type) := List (Value × α)

/-- The entries of a mapping, in order. -/
abbrev Entries := Fields Value

namespace Value

/-- The name of the kind of a value. -/
def kindName : Value → String
  | .null => "NoneType"
  | .bool _ => "bool"
  | .int _ => "int"
  | .float _ => "float"
  | .str _ => "str"
  | .bytes _ => "bytes"
  | .date _ => "date"
  | .moment _ => "datetime"
  | .list _ => "list"
  | .tuple _ => "tuple"
  | .set _ => "set"
  | .map _ => "dict"
  | .frozen _ => "mappingproxy"

/-- The name of the kind of a value, with the module that the kind belongs to. -/
def qualifiedKindName : Value → String
  | .date _ => "datetime.date"
  | .moment _ => "datetime.datetime"
  | v => v.kindName

/-- The value counts as true: nothing, zero and what is empty do not. -/
def isTruthy : Value → Bool
  | .null => false
  | .bool b => b
  | .int i => i != 0
  | .float x => !x.isZero
  | .str s => !s.isEmpty
  | .bytes b => !b.isEmpty
  | .date _ => true
  | .moment _ => true
  | .list items => !items.isEmpty
  | .tuple items => !items.isEmpty
  | .set items => !items.isEmpty
  | .map entries => !entries.isEmpty
  | .frozen entries => !entries.isEmpty

/-- The value is a text. -/
def isText : Value → Bool
  | .str _ => true
  | _ => false

/-- A truth value as the number it equals. -/
def ofTruth (b : Bool) : Int := if b then 1 else 0

/-- A count is more than a number; `none` for what is no number. -/
def isMoreThan (count : Nat) : Value → Option Bool
  | .int i => some (i < count)
  | .bool b => some (ofTruth b < count)
  | .float x => some (x.isBelowInt count)
  | _ => none

/-! ## Identity

Values are identical when they are built in the same way, part by part. -/

mutual

/-- The values are built in the same way. -/
def identical : Value → Value → Bool
  | .null, .null => true
  | .bool a, .bool b => a == b
  | .int a, .int b => a == b
  | .float a, .float b => a == b
  | .str a, .str b => a == b
  | .bytes a, .bytes b => a == b
  | .date a, .date b => a == b
  | .moment a, .moment b => a == b
  | .list as, .list bs => identicalItems as bs
  | .tuple as, .tuple bs => identicalItems as bs
  | .set as, .set bs => identicalItems as bs
  | .map as, .map bs => identicalEntries as bs
  | .frozen as, .frozen bs => identicalEntries as bs
  | _, _ => false
termination_by structural a => a

/-- The items are built in the same way, one by one. -/
def identicalItems : List Value → List Value → Bool
  | [], [] => true
  | a :: as, b :: bs => identical a b && identicalItems as bs
  | _, _ => false
termination_by structural a => a

/-- The entries are built in the same way, one by one. -/
def identicalEntries : List (Value × Value) → List (Value × Value) → Bool
  | [], [] => true
  | (k, v) :: as, (l, w) :: bs => identical k l && identical v w && identicalEntries as bs
  | _, _ => false
termination_by structural a => a

end

mutual

theorem identical_iff (a b : Value) : identical a b = true ↔ a = b := by
  cases a <;> cases b <;>
    simp [identical, identicalItems_iff, identicalEntries_iff]

theorem identicalItems_iff (as bs : List Value) : identicalItems as bs = true ↔ as = bs := by
  cases as with
  | nil => cases bs <;> simp [identicalItems]
  | cons a as =>
    cases bs with
    | nil => simp [identicalItems]
    | cons b bs => simp [identicalItems, identical_iff a b, identicalItems_iff as bs]

theorem identicalEntries_iff (as bs : List (Value × Value)) :
    identicalEntries as bs = true ↔ as = bs := by
  cases as with
  | nil => cases bs <;> simp [identicalEntries]
  | cons a as =>
    cases bs with
    | nil => simp [identicalEntries]
    | cons b bs =>
      obtain ⟨k, v⟩ := a
      obtain ⟨l, w⟩ := b
      simp [identicalEntries, identical_iff k l, identical_iff v w, identicalEntries_iff as bs]

end

instance : DecidableEq Value := fun a b => decidable_of_iff _ (identical_iff a b)

/-! ## Equality

Numbers are equal by value, whatever their kind, and a truth value equals 0 or 1. Sequences are equal
item by item and only to sequences of their kind. Mappings are equal when each entry of one has an
equal entry in the other. How fractional numbers compare with each other is left open, since what is no
number may or may not equal itself. -/

mutual

/-- Equality of values, given that of fractional numbers. -/
def sameWith (floats : Binary64 → Binary64 → Bool) : Value → Value → Bool
  | .null, .null => true
  | .bool a, .bool b => a == b
  | .bool a, .int b => ofTruth a == b
  | .bool a, .float b => b.sameInt (ofTruth a)
  | .int a, .bool b => a == ofTruth b
  | .int a, .int b => a == b
  | .int a, .float b => b.sameInt a
  | .float a, .bool b => a.sameInt (ofTruth b)
  | .float a, .int b => a.sameInt b
  | .float a, .float b => floats a b
  | .str a, .str b => a == b
  | .bytes a, .bytes b => a == b
  | .date a, .date b => a == b
  | .moment a, .moment b => a.same b
  | .list as, .list bs => sameItems floats as bs
  | .tuple as, .tuple bs => sameItems floats as bs
  | .set as, .set bs => as.length == bs.length && allFoundIn floats as bs
  | .map as, .map bs => as.length == bs.length && allMatchedIn floats as bs
  | .map as, .frozen bs => as.length == bs.length && allMatchedIn floats as bs
  | .frozen as, .map bs => as.length == bs.length && allMatchedIn floats as bs
  | .frozen as, .frozen bs => as.length == bs.length && allMatchedIn floats as bs
  | _, _ => false
termination_by structural a => a

/-- Equality item by item. -/
def sameItems (floats : Binary64 → Binary64 → Bool) : List Value → List Value → Bool
  | [], [] => true
  | a :: as, b :: bs => sameWith floats a b && sameItems floats as bs
  | _, _ => false
termination_by structural a => a

/-- Each item of the first has an equal one in the second. -/
def allFoundIn (floats : Binary64 → Binary64 → Bool) : List Value → List Value → Bool
  | [], _ => true
  | a :: as, bs => bs.any (fun b => sameWith floats a b) && allFoundIn floats as bs
termination_by structural a => a

/-- Each entry of the first has an entry in the second with an equal key and an equal value. -/
def allMatchedIn (floats : Binary64 → Binary64 → Bool) :
    List (Value × Value) → List (Value × Value) → Bool
  | [], _ => true
  | (k, v) :: as, bs =>
    (match bs.find? (fun b => sameWith floats k b.1) with
      | some b => sameWith floats v b.2
      | none => false) && allMatchedIn floats as bs
termination_by structural a => a

end

/-- Equality of values; what is no number does not equal itself. -/
def same (a b : Value) : Bool := sameWith Binary64.sameNumber a b

/-- Equality of values of one origin; what is no number equals itself. -/
def alike (a b : Value) : Bool := sameWith (fun x y => x.sameNumber y || (x == .nan && y == .nan)) a b

/-- Only the text itself equals a text. -/
theorem str_same_iff (s : String) (v : Value) : (Value.str s).same v = true ↔ v = .str s := by
  cases v with
  | str t => exact beq_iff_eq.trans ⟨fun h => h ▸ rfl, fun h => (Value.str.inj h).symm⟩
  | _ => simp [same, sameWith]

end Value

/-! ## Entries

The first spelling of a key stays, and the last value put under it wins. -/

namespace Fields

variable {α : Type}

/-- What is under a key. -/
def get? (entries : Fields α) (key : Value) : Option α :=
  (entries.find? fun e => key.same e.1).map (·.2)

/-- What is under a key that is a text. -/
def find? (entries : Fields α) (key : String) : Option α := get? entries (.str key)

/-- There is an entry with the key. -/
def has (entries : Fields α) (key : Value) : Bool := (get? entries key).isSome

/-- Put something under a key: in the place of an equal key, or at the end. -/
def put (entries : Fields α) (key : Value) (value : α) : Fields α :=
  match entries with
  | [] => [(key, value)]
  | (k, v) :: rest => if key.same k then (k, value) :: rest else (k, v) :: put rest key value

@[simp] theorem find?_nil (key : String) : find? ([] : Fields α) key = none := rfl

theorem find?_cons (key : String) (k : Value) (a : α) (entries : Fields α) :
    find? ((k, a) :: entries) key = if k = .str key then some a else find? entries key := by
  simp only [find?, get?, List.find?_cons]
  by_cases h : k = .str key
  · rw [if_pos h, (Value.str_same_iff key k).mpr h]
    rfl
  · have hsame : (Value.str key).same k = false := by
      rw [← Bool.not_eq_true, Value.str_same_iff]
      exact h
    rw [if_neg h, hsame]

end Fields

namespace Entries

/-- Put all entries of the second into the first, in order. -/
def putAll (entries more : Entries) : Entries := more.foldl (fun es e => es.put e.1 e.2) entries

/-- A mapping with these entries put one after the other. -/
def ofList (entries : List (Value × Value)) : Entries := putAll [] entries

/-- Entries whose keys are texts. -/
def ofFields (fields : List (String × Value)) : Entries := fields.map fun (k, v) => (.str k, v)

end Entries

/-- The entries of an open or read-only mapping. -/
def Value.entries? : Value → Option Entries
  | .map entries => some entries
  | .frozen entries => some entries
  | _ => none

/-- A mapping whose keys are these texts. -/
def Value.record (fields : List (String × Value)) : Value := .map (Entries.ofFields fields)

/-- A text, or nothing. -/
def Value.ofText? : Option String → Value
  | some s => .str s
  | none => .null

end PluginDescriptor
