import PluginDescriptor.Descriptor.Problem
import PluginDescriptor.Settings.Problem

/-!
# Failures

A computation fails because of a descriptor, because of the configuration, or because of a fault in a
value, text or file. Settings of the wrong form may also be listed as they are.
-/

set_option autoImplicit false

namespace PluginDescriptor

/-- Why a computation fails. -/
inductive Failure where
  /-- A descriptor or a request is refused; the plugin is left out where none is known. -/
  | descriptor (problem : Problem) (about : Option Subject)
  /-- Configuration is refused. -/
  | configuration (problem : SettingsProblem)
  /-- Settings are of the wrong form. -/
  | violations (violations : List Violation)
  /-- A value, text or file is at fault. -/
  | fault (fault : Fault)
  deriving Repr, BEq, Inhabited

namespace Failure

/-- The report of a failure, for those that have one. -/
def report? : Failure → Option Report
  | descriptor problem about => some (problem.report about)
  | configuration problem => some problem.report
  | violations _ => none
  | fault _ => none

/-- The text of a failure. -/
def text : Failure → String
  | descriptor problem about => (problem.report about).message
  | configuration problem => problem.message
  | violations vs => Text.join "\n" (vs.map (·.text))
  | fault f => f.message

/-- A failure about configuration, which is no fault of the value at hand. -/
def isConfiguration : Failure → Bool
  | configuration _ => true
  | _ => false

/-- A failure about a descriptor or a request. -/
def isDescriptor : Failure → Bool
  | descriptor _ _ => true
  | _ => false

/-- The failure that a problem leads to: its message has to be written out, which may fail by
itself. -/
def ofProblem (problem : Problem) (about : Option Subject) : Failure :=
  if problem.shown.all Value.isWritable then descriptor problem about else fault .numberTooLong

/-- Let a fault be the failure of a computation. -/
def ofFault {α : Type} (x : Except Fault α) : Except Failure α := x.mapError .fault

end Failure

end PluginDescriptor
