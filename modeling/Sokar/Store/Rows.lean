import Sokar.Shared.OpeningHours

/-!
# Rows of the booking tables

The columns of the Prisma schema that the floor plan, the holds and the
reservations read or write.
-/

namespace Sokar

/-- A JSON value, as a `Json` column stores it. -/
inductive Json where
  | null
  | bool (value : Bool)
  | num (value : ℚ)
  | str (value : String)
  | arr (elements : List Json)
  | obj (fields : List (String × Json))

def Json.field? (name : String) : Json → Option Json
  | .obj fields => (fields.find? fun field => field.1 == name).map Prod.snd
  | _ => none

inductive ReservationState where
  | PENDING | CONFIRMED | SEATED | HONORED | CANCELLED | NO_SHOW | FAILED | EXPIRED
  deriving DecidableEq

inductive HoldType where
  | QUOTE | HOLD
  deriving DecidableEq

inductive HoldStatus where
  | ACTIVE | CONSUMED | EXPIRED | RELEASED
  deriving DecidableEq

structure FloorPlan where
  id : Id
  restaurantId : Id
  isActive : Bool
  isDefault : Bool
  deriving DecidableEq

/-- A row of `floor_plan_tables`. -/
structure Table where
  id : Id
  floorPlanId : Id
  sectionId : Option Id
  name : String
  capacity : Int
  minCapacity : Int
  isActive : Bool
  deriving DecidableEq

structure Reservation where
  id : Id
  restaurantId : Id
  isTest : Bool
  state : ReservationState
  partySize : Int
  tableId : Option Id
  startsAt : Option Instant
  endsAt : Option Instant
  reservedAt : Instant
  createdAt : Instant
  consumedHoldId : Option Id
  deriving DecidableEq

/-- A row of `agentic_holds`. -/
structure AgenticHold where
  id : Id
  restaurantId : Id
  type : HoldType
  status : HoldStatus
  partySize : Int
  tableId : Option Id
  slotStart : Instant
  slotEnd : Instant
  expiresAt : Instant
  createdAt : Instant
  holdToken : Option String
  reservationId : Option Id
  deriving DecidableEq

/-- The opening hours are held normalised. -/
structure Restaurant where
  id : Id
  timezone : String
  openingHours : List OpeningPeriod
  deriving DecidableEq

structure RestaurantExposureSettings where
  restaurantId : Id
  capacitySpecials : Json

/-- A snapshot of the tables the booking paths read. -/
structure Database where
  restaurants : List Restaurant
  exposureSettings : List RestaurantExposureSettings
  floorPlans : List FloorPlan
  tables : List Table
  reservations : List Reservation
  agenticHolds : List AgenticHold

namespace Database

def restaurant? (db : Database) (restaurantId : Id) : Option Restaurant :=
  db.restaurants.find? fun row => row.id == restaurantId

def capacitySpecials? (db : Database) (restaurantId : Id) : Option Json :=
  (db.exposureSettings.find? fun row => row.restaurantId == restaurantId).map
    (·.capacitySpecials)

def floorPlanOf? (db : Database) (table : Table) : Option FloorPlan :=
  db.floorPlans.find? fun plan => plan.id == table.floorPlanId

end Database

end Sokar
