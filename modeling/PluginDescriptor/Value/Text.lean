import PluginDescriptor.Number.Shortest
import PluginDescriptor.Text.Numeral
import PluginDescriptor.Text.Quoted
import PluginDescriptor.Value.Basic

/-!
# Texts of values

A value has two texts. Its expression shows its structure, with texts in quotes; its plain text is
the same, but a text stands for itself, and a date reads as a date. A value that holds a whole number
of too many digits has neither: what would show it fails.
-/

set_option autoImplicit false

namespace PluginDescriptor

namespace Value

mutual

/-- The value as an expression. -/
def expression : Value → String
  | .null => "None"
  | .bool b => if b then "True" else "False"
  | .int i => toString i
  | .float x => x.text
  | .str s => Text.quoted s
  | .bytes b => Text.quotedBytes b
  | .date d => d.expression
  | .moment m => m.expression
  | .list items => "[" ++ Text.join ", " (itemExpressions items) ++ "]"
  | .tuple items =>
    match itemExpressions items with
    | [one] => "(" ++ one ++ ",)"
    | all => "(" ++ Text.join ", " all ++ ")"
  | .set items =>
    match itemExpressions items with
    | [] => "set()"
    | all => "\x7b" ++ Text.join ", " all ++ "\x7d"
  | .map entries => "\x7b" ++ Text.join ", " (entryExpressions entries) ++ "\x7d"
  | .frozen entries =>
    "mappingproxy(\x7b" ++ Text.join ", " (entryExpressions entries) ++ "\x7d)"

/-- The expressions of items. -/
def itemExpressions : List Value → List String
  | [] => []
  | v :: rest => expression v :: itemExpressions rest

/-- The expressions of entries. -/
def entryExpressions : List (Value × Value) → List String
  | [] => []
  | (k, v) :: rest => (expression k ++ ": " ++ expression v) :: entryExpressions rest

end

/-- The plain text of a value. -/
def text : Value → String
  | .str s => s
  | .date d => d.text
  | .moment m => m.text
  | .frozen entries => (Value.map entries).expression
  | v => v.expression

/-! ## What can be written out -/

mutual

/-- No whole number in the value has more than `Text.maxDigits` digits. -/
def isWritable : Value → Bool
  | .int i => i.natAbs < Nat.pow 10 Text.maxDigits
  | .list items | .tuple items | .set items => areWritable items
  | .map entries | .frozen entries => areEntriesWritable entries
  | _ => true

/-- All items can be written out. -/
def areWritable : List Value → Bool
  | [] => true
  | v :: rest => isWritable v && areWritable rest

/-- All keys and values can be written out. -/
def areEntriesWritable : List (Value × Value) → Bool
  | [] => true
  | (k, v) :: rest => isWritable k && isWritable v && areEntriesWritable rest

end

theorem areWritable_iff (items : List Value) :
    areWritable items = true ↔ ∀ v ∈ items, v.isWritable = true := by
  induction items with
  | nil => simp [areWritable]
  | cons v rest ih => rw [areWritable, Bool.and_eq_true, ih, List.forall_mem_cons]

theorem areEntriesWritable_iff (entries : Entries) :
    areEntriesWritable entries = true ↔
      ∀ entry ∈ entries, entry.1.isWritable = true ∧ entry.2.isWritable = true := by
  induction entries with
  | nil => simp [areEntriesWritable]
  | cons entry rest ih =>
    obtain ⟨k, v⟩ := entry
    rw [areEntriesWritable, Bool.and_eq_true, Bool.and_eq_true, ih, List.forall_mem_cons]

/-- Plain texts with a comma and a space between them. -/
def listed (items : List Value) : String := Text.join ", " (items.map text)

end Value

end PluginDescriptor
