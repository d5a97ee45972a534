import PodPlacement.Device
import PodPlacement.Inventory
import PodPlacement.Json.Reader
import PodPlacement.Recommendation
import PodPlacement.Scheduler
import PodPlacement.Text.Quoted

/-!
# Failures

Why a placement fails.  Each failure has a text, is of one category, and shows to clients of
the service as the status of its category; what broke underneath is its cause.
-/

namespace PodPlacement

open Text

inductive Failure where
  /-- The site has no datastore clusters. -/
  | unmanaged
  | clusterUnknown (id : Text)
  /-- The scheduler did not answer in time. -/
  | timedOut (limit : Timeout) (breakdown : Breakdown)
  /-- The scheduler could not be asked. -/
  | transport (breakdown : Breakdown) (message : Text)
  /-- Something is wrong with a value that is sent or received. -/
  | badValue (message : Text)
  /-- The scheduler refused to answer. -/
  | refused (status : Nat) (reason url : Text)
  /-- The body of the answer has no bytes. -/
  | unencodableBody (body : Text)
  /-- The answer is not JSON. -/
  | notJson (message : String)
  /-- The answer is not well formed. -/
  | faultyAnswer (faults : List Fault)
  | noRecommendation
  /-- The selected recommendation is not well formed. -/
  | faultyOffer (faults : List Fault)
  /-- An action for the machine does not say where to. -/
  | noDestination (key : Text)
  /-- The datastore for the machine is not known. -/
  | machineDatastoreUnknown (id : Text)
  /-- The datastore for a disk is not known. -/
  | diskDatastoreUnknown (id : Text) (disk : String)
  /-- The answer goes deeper than is read. -/
  | tooDeep (message : String)
  /-- Something else went wrong on the way to the scheduler. -/
  | foreign (message : Text)
  /-- What has no bytes was looked up. -/
  | unencodable (id : Text)

inductive FailureCategory where
  /-- What was asked for cannot be done here. -/
  | prerequisite
  /-- The scheduler did not give a usable answer. -/
  | request
  /-- The scheduler has nothing to recommend. -/
  | noRecommendation
  /-- A recommended datastore is not known. -/
  | resolution
  /-- Not a failure of placement. -/
  | foreign
  deriving DecidableEq, Repr

/-- The status with which a failure shows to clients. -/
def FailureCategory.status : FailureCategory → Nat
  | prerequisite => 400
  | resolution => 404
  | noRecommendation => 409
  | request => 502
  | foreign => 500

namespace Failure

def category : Failure → FailureCategory
  | unmanaged | clusterUnknown _ => .prerequisite
  | timedOut _ _ | transport _ _ | badValue _ | refused _ _ _ | unencodableBody _ | notJson _
  | faultyAnswer _ | faultyOffer _ | noDestination _ => .request
  | noRecommendation => .noRecommendation
  | machineDatastoreUnknown _ | diskDatastoreUnknown _ _ => .resolution
  | tooDeep _ | foreign _ | unencodable _ => .foreign

def faults : Failure → List Fault
  | faultyAnswer faults | faultyOffer faults => faults
  | _ => []

end Failure

def clusterNotFound (id : Text) : String := s!"datastore cluster {quoted id} not found"

def datastoreNotFound (id : Text) : String := s!"datastore {quoted id} not found"

/-- What is said of an answer with the status of an error. -/
def refusal (status : Nat) (reason url : Text) : Text :=
  let side := if status < 500 then "Client" else "Server"
  s!"{status} {side} Error: " ++ reason ++ " for url: " ++ url

/-- The text of a failure.  The faults of a document are reported in full, each with the place in
the manual where its cause is explained. -/
def Failure.message (manual : String) : Failure → Text
  | unmanaged => "assignment of a virtual machine to a datastore cluster requires vCenter"
  | clusterUnknown id =>
    "error locating datastore cluster for initial VM placement: " ++ clusterNotFound id
  | timedOut limit _ => s!"storage DRS recommendation request timed out after {limit.text}s"
  | transport _ message => "error getting storage DRS recommendations: " ++ message
  | refused status reason url =>
    "error getting storage DRS recommendations: " ++ refusal status reason url
  | notJson message => "error getting storage DRS recommendations: " ++ message
  | badValue message => "invalid storage DRS recommendation response: " ++ message
  | unencodableBody body =>
    "invalid storage DRS recommendation response: " ++ unencodableText body
  | faultyAnswer faults =>
    "invalid storage DRS recommendation response: " ++
      report manual (Document.kind SchedulerAnswer) faults
  | noRecommendation =>
    "no storage DRS recommendations were returned. " ++
      "Please check your datastore cluster settings and try again"
  | faultyOffer faults =>
    "invalid storage DRS recommendation: " ++ report manual (Document.kind Offer) faults
  | noDestination key =>
    s!"storage DRS recommendation {quoted key} has a VM placement action without a destination"
  | machineDatastoreUnknown id =>
    "error locating datastore for VM configuration: " ++ datastoreNotFound id
  | diskDatastoreUnknown id disk =>
    s!"error locating recommended datastore {quoted id} for disk {quoted disk}: " ++
      datastoreNotFound id
  | tooDeep message => message
  | foreign message => message
  | unencodable id => unencodableText id

/-! ## What broke underneath -/

/-- What can break underneath a failure of placement. -/
inductive Breakage where
  /-- What was looked up is not known. -/
  | notFound (message : String)
  /-- The way to the scheduler. -/
  | onTheWay (breakdown : Breakdown)
  | badValue
  /-- The scheduler answered with the status of an error. -/
  | badStatus
  | unencodable
  | notJson
  | faulty
  deriving DecidableEq, Repr

/-- What broke underneath a failure, if anything did. -/
def Failure.breakage? : Failure → Option Breakage
  | unmanaged | noRecommendation | noDestination _ | tooDeep _ | foreign _ | unencodable _ => none
  | clusterUnknown id => some (.notFound (clusterNotFound id))
  | machineDatastoreUnknown id | diskDatastoreUnknown id _ =>
    some (.notFound (datastoreNotFound id))
  | timedOut _ breakdown | transport breakdown _ => some (.onTheWay breakdown)
  | badValue _ => some .badValue
  | refused _ _ _ => some .badStatus
  | unencodableBody _ => some .unencodable
  | notJson _ => some .notJson
  | faultyAnswer _ | faultyOffer _ => some .faulty

/-! ## Failures of parts -/

/-- The failure of an offer that is no recommendation. -/
def Failure.ofOffer : OfferError → Failure
  | .faulty faults => .faultyOffer faults
  | .noDestination key => .noDestination key

def Failure.ofClusterLookup (id : Text) : LookupError → Failure
  | .unknown => .clusterUnknown id
  | .unencodable => .unencodable id

end PodPlacement
