import Sokar.Store.Rows

/-!
# The life of a reservation

The state machine that all reservation paths share, and the projection of its eight
states on the four of the historical `status` column.
-/

namespace Sokar

inductive ReservationStatus where
  | CONFIRMED | CANCELLED | NO_SHOW | SEATED
  deriving DecidableEq

namespace ReservationState

/-- `VALID_TRANSITIONS`. -/
def successors : ReservationState → List ReservationState
  | .PENDING => [.CONFIRMED, .CANCELLED, .EXPIRED, .FAILED]
  | .CONFIRMED => [.SEATED, .CANCELLED, .NO_SHOW, .EXPIRED, .FAILED]
  | .SEATED => [.HONORED, .NO_SHOW]
  | .HONORED => []
  | .CANCELLED => []
  | .NO_SHOW => []
  | .FAILED => []
  | .EXPIRED => []

def canTransition (source target : ReservationState) : Bool :=
  source.successors.contains target

def isTerminalState (state : ReservationState) : Bool :=
  state.successors.isEmpty

/-- `STATUS_FOR_STATE`: some states have no historical counterpart. -/
def statusForState : ReservationState → Option ReservationStatus
  | .CONFIRMED => some .CONFIRMED
  | .SEATED => some .SEATED
  | .CANCELLED => some .CANCELLED
  | .NO_SHOW => some .NO_SHOW
  | .PENDING => none
  | .HONORED => none
  | .FAILED => none
  | .EXPIRED => none

/-- A transition keeps the previous status when the target has no counterpart. -/
def transitionProjection (target : ReservationState) (previous : ReservationStatus) :
    ReservationStatus :=
  target.statusForState.getD previous

end ReservationState

end Sokar
