import PodPlacement.Device

/-!
# The order of slots

A disk sits in a slot: the bus of its controller and its unit number.  `slotOrder` lists the
disks of a machine by slot, which is how two device lists that do not share keys are matched
position by position.  Disks without a unit number come after the others of their controller.
The sort is stable: what ranks alike keeps its order.
-/

namespace PodPlacement

/-! ## Ranks -/

/-- Whether a rank is not above another: the first number that differs decides. -/
def rankLE : List Int → List Int → Bool
  | [], _ => true
  | _ :: _, [] => false
  | a :: as, b :: bs => decide (a < b) || (a == b && rankLE as bs)

/-! ## Stable sorting by rank -/

section

variable {α : Type}

/-- Puts an element before the first that does not rank lower. -/
def insertOn (rank : α → List Int) (a : α) : List α → List α
  | [] => [a]
  | b :: bs => if rankLE (rank a) (rank b) then a :: b :: bs else b :: insertOn rank a bs

/-- The elements by rank; elements of one rank keep their order. -/
def sortOn (rank : α → List Int) (xs : List α) : List α := xs.foldr (insertOn rank) []

end

/-! ## Slots -/

/-- Controllers rank by bus, then by key. -/
def Controller.rank (c : Controller) : List Int := [c.busNumber, c.key]

/-- Disks of one controller rank by unit, those without one last, then by key. -/
def Disk.rank (d : Disk) : List Int :=
  [if d.unitNumber.isNone then 1 else 0, d.unitNumber.getD 0, d.key]

/-- Whether a controller is on one of the buses `0, …, bound - 1`. -/
def Controller.inRange (bound : Int) (c : Controller) : Bool :=
  decide (0 ≤ c.busNumber ∧ c.busNumber < bound)

def Disk.isOn (c : Controller) (d : Disk) : Bool := d.controllerKey == some c.key

/-- The controllers in range, by rank. -/
def controllersInRange (bound : Int) (devices : List Device) : List Controller :=
  sortOn Controller.rank ((devices.filterMap Device.controller?).filter (Controller.inRange bound))

/-- The disks attached to a controller, by rank. -/
def disksOn (devices : List Device) (c : Controller) : List Disk :=
  sortOn Disk.rank ((devices.filterMap Device.disk?).filter (Disk.isOn c))

/-- The disks attached to the controllers in range, in the order of their slots. -/
def slotOrder (bound : Int) (devices : List Device) : List Disk :=
  (controllersInRange bound devices).flatMap (disksOn devices)

end PodPlacement
