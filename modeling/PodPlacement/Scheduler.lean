import PodPlacement.Decimal.Layout
import PodPlacement.PlacementRequest

/-!
# The scheduler

The scheduler as its clients see it: a function from the one request that is posted to what
comes of it, either an answer with a status and a body, or a breakdown on the way.
-/

namespace PodPlacement

/-- How many seconds an answer may take, as it was given: a whole or a real number. -/
inductive Timeout where
  | whole (n : Int)
  | real (x : Float)
  deriving DecidableEq

def Timeout.text : Timeout → String
  | whole n => toString n
  | real x => Decimal.realText x

/-- A request as it is posted. -/
structure Post where
  url : Text
  timeout : Timeout
  body : PlacementRequest
  deriving DecidableEq

/-- The ways in which there can be no answer. -/
inductive Breakdown where
  | timeout
  | connectTimeout
  | readTimeout
  | connection
  | secureConnection
  | tooManyRedirects
  | invalidUrl
  | brokenEncoding
  | otherTransport
  /-- Something is wrong with a value on the way. -/
  | badValue
  /-- Something else went wrong. -/
  | foreign
  deriving DecidableEq, Repr

def Breakdown.isTimeout : Breakdown → Bool
  | timeout | connectTimeout | readTimeout => true
  | _ => false

/-- What comes of a post. -/
inductive Reply where
  | answer (status : Nat) (reason body : Text)
  | broken (breakdown : Breakdown) (message : Text)
  deriving DecidableEq, Repr

/-- What comes of each post. -/
abbrev Scheduler := Post → Reply

/-- How the scheduler is reached, and for what kind of site. -/
structure Connection where
  schedulerUrl : Text
  apiType : Text
  timeout : Timeout
  /-- As many lists and objects may be within one another in an answer. -/
  room : Nat
  deriving DecidableEq

/-- The kind of site that has datastore clusters. -/
def managedType : String := "VirtualCenter"

namespace Connection

/-- Whether the site has datastore clusters. -/
def managed (c : Connection) : Bool := c.apiType == managedType

/-- Where requests are posted. -/
def url (c : Connection) : Text := c.schedulerUrl ++ "/recommend-datastores"

end Connection

end PodPlacement
