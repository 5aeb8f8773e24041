import Itineraries.Constraints
import Itineraries.Text.Quoted

namespace Itineraries

/-!
# Faults

What can go wrong when a graph is rebuilt or searched.  A fault states its
cause; its wording is derived from the cause in one place.
-/

inductive FileFault where
  | missing
  | notText
  | other (message : String)
deriving DecidableEq, Repr

/-- The cause in words, as an operating system puts it. -/
def FileFault.message : FileFault → String
  | missing => "No such file or directory (os error 2)"
  | notText => "stream did not contain valid UTF-8"
  | other message => message

/-- Why an inventory does not deliver its flights. -/
inductive InventoryFault where
  | file (fault : FileFault)
  | malformed
  | unavailable (message : String)
deriving DecidableEq, Repr

def InventoryFault.message : InventoryFault → String
  | file fault => s!"I/O error: {fault.message}"
  | malformed => "JSON parse error"
  | unavailable message => s!"Inventory unavailable: {message}"

inductive Fault where
  | duplicateIds (ids : List String)
  | violation (violation : Violation)
  | inventory (fault : InventoryFault)
  | timedOut (milliseconds : Nat)
deriving DecidableEq, Repr

/-- The coarse classes of faults. -/
inductive FaultKind where
  | dataIntegrity
  | constraintViolation
  | inventory
deriving DecidableEq, Repr

namespace Fault

/-- The class of a fault.  A read that takes too long counts as a fault of the
inventory. -/
def kind : Fault → FaultKind
  | duplicateIds _ => .dataIntegrity
  | violation _ => .constraintViolation
  | inventory _ => .inventory
  | timedOut _ => .inventory

def message : Fault → String
  | duplicateIds ids => s!"Data integrity error: duplicate flight ids {Text.quotedList ids}"
  | .violation broken => s!"Constraint violation: {broken.message}"
  | inventory fault => s!"Inventory error: {fault.message}"
  | timedOut milliseconds => s!"Inventory read timed out after {milliseconds}ms"

end Fault
end Itineraries
