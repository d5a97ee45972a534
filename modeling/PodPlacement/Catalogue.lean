import PodPlacement.PlacementRequest
import PodPlacement.Recommendation
import PodPlacement.Registration

/-!
# The catalogue of documents

All kinds of documents in one enumeration, so that a statement about every kind can be made
at once and a kind can be found by its name.

    ofName? (name k) = some k          (ofName?_name)
-/

namespace PodPlacement

inductive DocumentKind where
  | reference
  | backing
  | otherDevice
  | controller
  | disk
  | deviceChange
  | machineFiles
  | configSpec
  | diskLocator
  | relocateSpec
  | cloneSpec
  | podDiskLocator
  | podConfig
  | podSelection
  | placementRequest
  | diskOffer
  | relocateOffer
  | offeredAction
  | offer
  | schedulerAnswer
  | machinePlacement
  | diskPlacement
  | diskPlacements
  | recommendation
  | clusterRegistration
  | datastoreRegistration
  | createOrder
  | cloneOrder
  deriving DecidableEq, Repr

namespace DocumentKind

def Value : DocumentKind → Type
  | reference => Reference
  | backing => Backing
  | otherDevice => OtherDevice
  | controller => Controller
  | disk => Disk
  | deviceChange => DeviceChange
  | machineFiles => MachineFiles
  | configSpec => ConfigSpec
  | diskLocator => DiskLocator
  | relocateSpec => RelocateSpec
  | cloneSpec => CloneSpec
  | podDiskLocator => PodDiskLocator
  | podConfig => PodConfig
  | podSelection => PodSelection
  | placementRequest => PlacementRequest
  | diskOffer => DiskOffer
  | relocateOffer => RelocateOffer
  | offeredAction => OfferedAction
  | offer => Offer
  | schedulerAnswer => SchedulerAnswer
  | machinePlacement => MachinePlacement
  | diskPlacement => DiskPlacement
  | diskPlacements => DiskPlacements
  | recommendation => Recommendation
  | clusterRegistration => ClusterRegistration
  | datastoreRegistration => DatastoreRegistration
  | createOrder => CreateOrder
  | cloneOrder => CloneOrder

instance document : (k : DocumentKind) → Document k.Value
  | reference => inferInstanceAs (Document Reference)
  | backing => inferInstanceAs (Document Backing)
  | otherDevice => inferInstanceAs (Document OtherDevice)
  | controller => inferInstanceAs (Document Controller)
  | disk => inferInstanceAs (Document Disk)
  | deviceChange => inferInstanceAs (Document DeviceChange)
  | machineFiles => inferInstanceAs (Document MachineFiles)
  | configSpec => inferInstanceAs (Document ConfigSpec)
  | diskLocator => inferInstanceAs (Document DiskLocator)
  | relocateSpec => inferInstanceAs (Document RelocateSpec)
  | cloneSpec => inferInstanceAs (Document CloneSpec)
  | podDiskLocator => inferInstanceAs (Document PodDiskLocator)
  | podConfig => inferInstanceAs (Document PodConfig)
  | podSelection => inferInstanceAs (Document PodSelection)
  | placementRequest => inferInstanceAs (Document PlacementRequest)
  | diskOffer => inferInstanceAs (Document DiskOffer)
  | relocateOffer => inferInstanceAs (Document RelocateOffer)
  | offeredAction => inferInstanceAs (Document OfferedAction)
  | offer => inferInstanceAs (Document Offer)
  | schedulerAnswer => inferInstanceAs (Document SchedulerAnswer)
  | machinePlacement => inferInstanceAs (Document MachinePlacement)
  | diskPlacement => inferInstanceAs (Document DiskPlacement)
  | diskPlacements => inferInstanceAs (Document DiskPlacements)
  | recommendation => inferInstanceAs (Document Recommendation)
  | clusterRegistration => inferInstanceAs (Document ClusterRegistration)
  | datastoreRegistration => inferInstanceAs (Document DatastoreRegistration)
  | createOrder => inferInstanceAs (Document CreateOrder)
  | cloneOrder => inferInstanceAs (Document CloneOrder)

def name (k : DocumentKind) : String := Document.kind k.Value

def all : List DocumentKind :=
  [reference, backing, otherDevice, controller, disk, deviceChange, machineFiles, configSpec,
   diskLocator, relocateSpec, cloneSpec, podDiskLocator, podConfig, podSelection,
   placementRequest, diskOffer, relocateOffer, offeredAction, offer, schedulerAnswer,
   machinePlacement, diskPlacement, diskPlacements, recommendation, clusterRegistration,
   datastoreRegistration, createOrder, cloneOrder]

def ofName? (s : String) : Option DocumentKind := all.find? fun k => k.name == s

/-- Every kind is found by its name. -/
theorem ofName?_name (k : DocumentKind) : ofName? k.name = some k := by
  cases k <;> decide

def read (k : DocumentKind) : Json → Checked k.Value := Document.read

def write (k : DocumentKind) : k.Value → Json := Document.write

/-- The dump of a document of a kind.  Only an answer of the scheduler has open values, which may
have `room` levels. -/
def dump (room : Nat) : (k : DocumentKind) → k.Value → Except Json.DumpError Json
  | schedulerAnswer, answer => SchedulerAnswer.dump room answer
  | k, value => .ok (k.write value)

end DocumentKind

end PodPlacement
