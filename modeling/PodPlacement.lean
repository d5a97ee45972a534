import PodPlacement.Catalogue
import PodPlacement.Database.Engine
import PodPlacement.Service
import PodPlacement.Target
import PodPlacement.Workspace
import PodPlacement.Proofs.Destination
import PodPlacement.Proofs.ConfigProjection
import PodPlacement.Proofs.CloneProjection
import PodPlacement.Proofs.SlotOrder
import PodPlacement.Proofs.DeviceOrder
import PodPlacement.Proofs.Slot
import PodPlacement.Proofs.SlotProjection
import PodPlacement.Proofs.Placement
import PodPlacement.Proofs.Interruption
import PodPlacement.Proofs.Exchange
import PodPlacement.Proofs.Placing
import PodPlacement.Proofs.Workspace
import PodPlacement.Proofs.Request
import PodPlacement.Proofs.Registration
import PodPlacement.Proofs.Inventory
import PodPlacement.Proofs.Endpoint
import PodPlacement.Proofs.LongNumber
import PodPlacement.Proofs.Alternatives
import PodPlacement.Proofs.Repetition
import PodPlacement.Proofs.Rereading
import PodPlacement.Proofs.Status
import PodPlacement.Proofs.NewDisk
import PodPlacement.Proofs.SameMachine
import PodPlacement.Proofs.Regrouping
import PodPlacement.Proofs.Offer
import PodPlacement.Proofs.StableOrder
import PodPlacement.Proofs.RoundTrip
import PodPlacement.Proofs.ForeignAction
import PodPlacement.Proofs.LargerBound
import PodPlacement.Proofs.AuditTrail
