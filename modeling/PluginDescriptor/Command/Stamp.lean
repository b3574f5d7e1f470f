import PluginDescriptor.Calendar
import PluginDescriptor.Text.Quoted

/-!
# The stamp of a run

What distinguishes one run from another: the time, and identifiers made for the run and for the report
of an error.
-/

set_option autoImplicit false

namespace PluginDescriptor.Command

/-- What a run is told by the clock, and the identifiers made for it. -/
structure Stamp where
  time : String
  /-- The identifier of the run. -/
  run : String
  /-- The identifier of the report of an error. -/
  report : String
  deriving Repr, Inhabited

namespace Stamp

/-- The lengths in bytes of the groups of an identifier. -/
def groups : List Nat := [4, 2, 2, 2, 6]

/-- Cut a list into groups of these lengths. -/
def grouped {α : Type} : List Nat → List α → List (List α)
  | [], _ => []
  | n :: lengths, items => items.take n :: grouped lengths (items.drop n)

/-- Bytes as those of a random identifier: the seventh tells its version and the ninth its variant. -/
def marked (bytes : List UInt8) : List UInt8 :=
  bytes.mapIdx fun i b => if i = 6 then b % 16 + 0x40 else if i = 8 then b % 64 + 0x80 else b

/-- An identifier made of sixteen random bytes. -/
def identifier (bytes : List UInt8) : String :=
  let group (bytes : List UInt8) : String :=
    String.ofList (bytes.flatMap fun b => Text.hexDigits 2 b.toNat)
  Text.join "-" ((grouped groups (marked bytes)).map group)

/-- The stamp of a run at a moment. -/
def ofMoment (m : Moment) (run report : List UInt8) : Stamp :=
  { time := m.isoText, run := identifier run, report := identifier report }

end Stamp

end PluginDescriptor.Command
