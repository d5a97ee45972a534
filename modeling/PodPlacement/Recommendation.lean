import PodPlacement.Device
import PodPlacement.Json.Dump

/-!
# Recommendations

What the scheduler answers, as it comes and as it is meant.  A recommendation comes as a list
of actions, each with a list of disks; an action of the placement type without disks is about
the machine as a whole and names a destination, and one with disks names a datastore for each
of them.  Actions of other types are dropped.
-/

namespace PodPlacement

open Decoder

/-! ## As it comes -/

/-- The datastore offered for one disk. -/
structure DiskOffer where
  diskId : Int
  datastore : Reference
  deriving DecidableEq, Repr, Inhabited

instance : Document DiskOffer where
  kind := "RelocateDiskPayload"
  ofMembers ms :=
    ((Checked.valid DiskOffer.mk).apply (required "disk_id" whole ms)).apply
      (required "datastore" Reference.read ms)
  toMembers o := [("disk_id", .whole o.diskId), ("datastore", o.datastore.write)]

structure RelocateOffer where
  datastore : Option Reference
  disks : List DiskOffer
  deriving DecidableEq, Repr, Inhabited

def RelocateOffer.unspecified : RelocateOffer := ⟨none, []⟩

instance : Document RelocateOffer where
  kind := "RelocateSpecPayload"
  ofMembers ms :=
    ((Checked.valid RelocateOffer.mk).apply
      (optional "datastore" none (nullable Reference.read) ms)).apply
      (optional "disk" [] (list Document.read) ms)
  toMembers o :=
    [("datastore", .ofOption Reference.write o.datastore),
     ("disk", .array (o.disks.map Document.write))]

/-- The type of the actions that place something. -/
def placementType : String := "StoragePlacementAction"

structure OfferedAction where
  type : Text
  target : Option Reference
  destination : Option Reference
  relocation : RelocateOffer
  deriving DecidableEq, Repr, Inhabited

instance : Document OfferedAction where
  kind := "ClusterActionPayload"
  ofMembers ms :=
    ((((Checked.valid OfferedAction.mk).apply
      (optional "type" placementType text ms)).apply
      (optional "target" none (nullable Reference.read) ms)).apply
      (optional "destination" none (nullable Reference.read) ms)).apply
      (optional "relocate_spec" RelocateOffer.unspecified Document.read ms)
  toMembers a :=
    [("type", .string a.type), ("target", .ofOption Reference.write a.target),
     ("destination", .ofOption Reference.write a.destination),
     ("relocate_spec", Document.write a.relocation)]

/-- A recommendation of the scheduler. -/
structure Offer where
  key : Text
  reason : Text
  rating : Int
  actions : List OfferedAction
  deriving DecidableEq, Repr, Inhabited

instance : Document Offer where
  kind := "ClusterRecommendationPayload"
  ofMembers ms :=
    ((((Checked.valid Offer.mk).apply (optional "key" "" text ms)).apply
      (optional "reason" "" text ms)).apply
      (optional "rating" 0 whole ms)).apply
      (optional "actions" [] (list Document.read) ms)
  toMembers o :=
    [("key", .string o.key), ("reason", .string o.reason), ("rating", .whole o.rating),
     ("actions", .array (o.actions.map Document.write))]

/-- The whole answer of the scheduler.  The recommendations are kept as they come. -/
structure SchedulerAnswer where
  recommendations : List Members
  deriving Inhabited

instance : Document SchedulerAnswer where
  kind := "RecommendDatastoresResponse"
  ofMembers ms :=
    (Checked.valid SchedulerAnswer.mk).apply
      (optional "recommendations" [] (list mapping) ms)
  toMembers a := [("recommendations", .array (a.recommendations.map Json.object))]

/-- The dump of an answer, in which the recommendations are open values. -/
def SchedulerAnswer.dump (room : Nat) (a : SchedulerAnswer) : Except Json.DumpError Json :=
  (a.recommendations.mapM (Json.dumpMembers room)).map fun recommendations =>
    .object [("recommendations", .array (recommendations.map Json.object))]

/-! ## As it is meant -/

/-- A datastore for the machine as a whole. -/
structure MachinePlacement where
  datastore : Reference
  deriving DecidableEq, Repr, Inhabited

def machineTag : String := "vm"

instance : Document MachinePlacement where
  kind := "VmPlacement"
  ofMembers ms :=
    ((Checked.valid fun _ => MachinePlacement.mk).apply
      (optional "kind" () (fixed machineTag) ms)).apply
      (required "datastore" Reference.read ms)
  toMembers p := [("kind", .string machineTag), ("datastore", p.datastore.write)]

/-- A datastore for one disk. -/
structure DiskPlacement where
  diskId : Int
  datastore : Reference
  deriving DecidableEq, Repr, Inhabited

instance : Document DiskPlacement where
  kind := "DiskPlacement"
  ofMembers ms :=
    ((Checked.valid DiskPlacement.mk).apply (required "disk_id" whole ms)).apply
      (required "datastore" Reference.read ms)
  toMembers p := [("disk_id", .whole p.diskId), ("datastore", p.datastore.write)]

/-- Datastores for one disk or more. -/
structure DiskPlacements where
  first : DiskPlacement
  rest : List DiskPlacement
  deriving DecidableEq, Repr, Inhabited

namespace DiskPlacements

def toList (p : DiskPlacements) : List DiskPlacement := p.first :: p.rest

def ofList? : List DiskPlacement → Option DiskPlacements
  | [] => none
  | first :: rest => some ⟨first, rest⟩

/-- The placements of a list, which may not be empty. -/
def read (input : Json) : Checked DiskPlacements :=
  match list Document.read input with
  | .faulty faults => .faulty faults
  | .valid placements =>
    match ofList? placements with
    | some p => .valid p
    | none => .fail .tooFew input

end DiskPlacements

def disksTag : String := "disk"

instance : Document DiskPlacements where
  kind := "DiskPlacementAction"
  ofMembers ms :=
    ((Checked.valid fun _ (p : DiskPlacements) => p).apply
      (optional "kind" () (fixed disksTag) ms)).apply
      (required "placements" DiskPlacements.read ms)
  toMembers p :=
    [("kind", .string disksTag), ("placements", .array (p.toList.map Document.write))]

/-- One action of a recommendation: a datastore for the machine, or datastores for disks. -/
inductive Action where
  | machine (p : MachinePlacement)
  | disks (p : DiskPlacements)
  deriving DecidableEq, Repr, Inhabited

namespace Action

/-- An action from JSON; its kind says which it is. -/
def read : Decoder Action :=
  tagged "kind"
    [(machineTag, fun v => (Document.read v).map machine),
     (disksTag, fun v => (Document.read v).map disks)]

def write : Action → Json
  | machine p => Document.write p
  | disks p => Document.write p

end Action

/-- A recommendation as it is carried out. -/
structure Recommendation where
  key : Text
  actions : List Action
  deriving DecidableEq, Repr, Inhabited

instance : Document Recommendation where
  kind := "Recommendation"
  ofMembers ms :=
    ((Checked.valid Recommendation.mk).apply (optional "key" "" text ms)).apply
      (optional "actions" [] (list Action.read) ms)
  toMembers r := [("key", .string r.key), ("actions", .array (r.actions.map Action.write))]

/-! ## From what comes to what is meant -/

def DiskOffer.placement (o : DiskOffer) : DiskPlacement := ⟨o.diskId, o.datastore⟩

/-- The action that an offered action of the placement type is, if it says where to. -/
def OfferedAction.action? (a : OfferedAction) : Option Action :=
  match a.relocation.disks with
  | [] => a.destination.map fun name => .machine ⟨name⟩
  | first :: rest => some (.disks ⟨first.placement, rest.map DiskOffer.placement⟩)

/-- The actions of an offer that are of the placement type. -/
def Offer.placements (o : Offer) : List OfferedAction :=
  o.actions.filter fun a => a.type = placementType

/-- The recommendation that an offer is, if each of its placement actions says where to. -/
def Recommendation.ofOffer? (o : Offer) : Option Recommendation :=
  (o.placements.mapM OfferedAction.action?).map fun actions => ⟨o.key, actions⟩

inductive OfferError where
  /-- The offer is not well formed. -/
  | faulty (faults : List Fault)
  /-- An action for the machine does not say where to. -/
  | noDestination (key : Text)

def Recommendation.ofJson (raw : Json) : Except OfferError Recommendation :=
  match (Document.read raw : Checked Offer) with
  | .faulty faults => .error (.faulty faults)
  | .valid offer =>
    match Recommendation.ofOffer? offer with
    | some r => .ok r
    | none => .error (.noDestination offer.key)

end PodPlacement
