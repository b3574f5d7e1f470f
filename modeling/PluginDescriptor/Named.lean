/-!
# Things under names

A list of things, each under a name, in the order in which the names were first used. `Named.assign`
keeps the names apart; looking up is `List.lookup`.
-/

set_option autoImplicit false

namespace PluginDescriptor

/-- Things under names, in order. -/
abbrev Named (α : Type) := List (String × α)

namespace Named

variable {α : Type}

/-- Put something under a name: in the place of what is there, or at the end. -/
def assign (name : String) (a : α) : Named α → Named α
  | [] => [(name, a)]
  | (n, b) :: rest => if n = name then (n, a) :: rest else (n, b) :: assign name a rest

/-- Put things under their names one after the other. -/
def ofList (things : List (String × α)) : Named α :=
  things.foldl (fun named (name, a) => assign name a named) []

/-- Looking past the first entry, unless the name is its own. -/
theorem lookup_cons_eq (n other : String) (a : α) (named : Named α) :
    List.lookup other ((n, a) :: named) = if other = n then some a else named.lookup other := by
  by_cases h : other = n
  · subst h
    exact (List.lookup_cons_self).trans (if_pos rfl).symm
  · have hb : (other == n) = false := beq_false_of_ne h
    rw [List.lookup_cons, hb, if_neg h]

/-- What was put under a name last is found there, and nothing else is moved. -/
theorem lookup_assign (name other : String) (a : α) (named : Named α) :
    (assign name a named).lookup other = if other = name then some a else named.lookup other := by
  induction named with
  | nil => exact lookup_cons_eq name other a []
  | cons entry rest ih =>
    obtain ⟨n, b⟩ := entry
    by_cases hn : n = name
    · subst hn
      rw [assign, if_pos rfl, lookup_cons_eq, lookup_cons_eq]
      split <;> rfl
    · rw [assign, if_neg hn, lookup_cons_eq, lookup_cons_eq, ih]
      by_cases h : other = n
      · subst h
        rw [if_pos rfl, if_pos rfl, if_neg hn]
      · rw [if_neg h, if_neg h]

end Named

end PluginDescriptor
