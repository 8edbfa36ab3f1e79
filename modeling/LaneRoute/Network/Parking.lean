import LaneRoute.Geometry.Strip

/-!
# Parking areas

Spaces are strips along a line, lots are plain areas. Whether the line of a space makes an
area is found out when the area is asked for.
-/

set_option autoImplicit false

namespace LaneRoute

structure ParkingSpace (α : Type) where
  id : Int
  area : Except Fault (Option (List (Ring α)))

structure ParkingLot (α : Type) where
  id : Int
  outline : Ring α

variable {α : Type} [Sided α]

def isOnAny (rings : List (Ring α)) (p : Point α) : Bool := rings.any (·.isOn p)

/-- Whether a point lies on a parking space, which may have no area. -/
def ParkingSpace.holds (space : ParkingSpace α) (p : Point α) : Except Fault Bool :=
  space.area.map fun rings => isOnAny (rings.getD []) p

def ParkingLot.holds (lot : ParkingLot α) (p : Point α) : Bool := lot.outline.isOn p

def inParkingSpace (spaces : List (ParkingSpace α)) (p : Point α) : Except Fault Bool :=
  match spaces with
  | [] => .ok false
  | space :: rest => do if ← space.holds p then return true else inParkingSpace rest p

def inParkingLot (lots : List (ParkingLot α)) (p : Point α) : Bool := lots.any (·.holds p)

end LaneRoute
