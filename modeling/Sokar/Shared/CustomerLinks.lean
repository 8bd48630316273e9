import Sokar.Store.Rows

/-!
# Links to customers and reservations

An order of an event or of an experience may name a customer and a reservation of the
restaurant; both services look for them in the same way.
-/

namespace Sokar

/-- The columns of a customer that are looked at. -/
structure LinkedCustomer where
  id : Id
  restaurantId : Id
  archivedAt : Option Instant
  mergedIntoId : Option Id
  deriving DecidableEq

/-- The columns of a reservation that are looked at. -/
structure LinkedReservation where
  id : Id
  restaurantId : Id
  customerId : Option Id
  state : ReservationState
  deriving DecidableEq

structure CustomerLinks where
  customers : List LinkedCustomer
  reservations : List LinkedReservation
  deriving DecidableEq

namespace CustomerLinks

variable (links : CustomerLinks)

/-- `assertCustomer` looks for a customer who is neither archived nor merged. -/
def hasCustomer (restaurantId customerId : Id) : Bool :=
  links.customers.any fun customer =>
    customer.id == customerId && customer.restaurantId == restaurantId &&
      customer.archivedAt.isNone && customer.mergedIntoId.isNone

/-- `assertReservation` looks for a reservation that still stands, of the customer if one is
given. -/
def hasReservation (restaurantId reservationId : Id) (customerId : Option Id) : Bool :=
  links.reservations.any fun reservation =>
    reservation.id == reservationId && reservation.restaurantId == restaurantId &&
      (customerId.all fun customerId => reservation.customerId == some customerId) &&
      reservation.state != .CANCELLED && reservation.state != .NO_SHOW

end CustomerLinks

end Sokar
