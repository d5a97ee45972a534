import PodPlacement.Reference

/-!
# Virtual devices

The devices of a virtual machine: disks, the controllers that disks are attached to, and
devices of any other kind.  A disk is attached to the controller whose key it names, at a
unit number.
-/

namespace PodPlacement

open Decoder

/-! ## Backings -/

/-- The file behind a disk. -/
structure Backing where
  fileName : Text
  datastore : Option Reference
  diskMode : Text
  thinProvisioned : Option Bool
  deriving DecidableEq, Repr, Inhabited

/-- The backing of a disk that says nothing about it. -/
def Backing.unspecified : Backing := ⟨"", none, "persistent", none⟩

instance : Document Backing where
  kind := "VirtualDiskFlatVer2BackingInfo"
  ofMembers ms :=
    ((((Checked.valid Backing.mk).apply (optional "file_name" "" text ms)).apply
      (optional "datastore" none (nullable Reference.read) ms)).apply
      (optional "disk_mode" "persistent" text ms)).apply
      (optional "thin_provisioned" none (nullable flag) ms)
  toMembers b :=
    [("file_name", .string b.fileName), ("datastore", .ofOption Reference.write b.datastore),
     ("disk_mode", .string b.diskMode), ("thin_provisioned", .ofOption .bool b.thinProvisioned)]

def Backing.read : Decoder Backing := Document.read

/-! ## Kinds of devices -/

structure Disk where
  key : Int
  controllerKey : Option Int
  unitNumber : Option Int
  label : Option Text
  capacityKb : Int
  backing : Backing
  deriving DecidableEq, Repr, Inhabited

/-- A controller that disks are attached to. -/
structure Controller where
  key : Int
  busNumber : Int
  controllerKey : Option Int
  unitNumber : Option Int
  label : Option Text
  deriving DecidableEq, Repr, Inhabited

/-- A device that is neither a disk nor a controller of disks. -/
structure OtherDevice where
  key : Int
  controllerKey : Option Int
  unitNumber : Option Int
  label : Option Text
  deriving DecidableEq, Repr, Inhabited

def diskTag : String := "disk"

def controllerTag : String := "scsi_controller"

def otherTag : String := "device"

/-- The member that says of which kind a device is. -/
def deviceType : String := "device_type"

instance : Document OtherDevice where
  kind := "VirtualDevice"
  ofMembers ms :=
    (((((Checked.valid fun _ => OtherDevice.mk).apply
      (optional deviceType () (fixed otherTag) ms)).apply
      (required "key" whole ms)).apply
      (optional "controller_key" none (nullable whole) ms)).apply
      (optional "unit_number" none (nullable whole) ms)).apply
      (optional "label" none (nullable text) ms)
  toMembers d :=
    [(deviceType, .string otherTag), ("key", .whole d.key),
     ("controller_key", .ofOption .whole d.controllerKey),
     ("unit_number", .ofOption .whole d.unitNumber), ("label", .ofOption .string d.label)]

instance : Document Controller where
  kind := "VirtualSCSIController"
  ofMembers ms :=
    ((((((Checked.valid fun _ => Controller.mk).apply
      (optional deviceType () (fixed controllerTag) ms)).apply
      (required "key" whole ms)).apply
      (required "bus_number" whole ms)).apply
      (optional "controller_key" none (nullable whole) ms)).apply
      (optional "unit_number" none (nullable whole) ms)).apply
      (optional "label" none (nullable text) ms)
  toMembers c :=
    [(deviceType, .string controllerTag), ("key", .whole c.key), ("bus_number", .whole c.busNumber),
     ("controller_key", .ofOption .whole c.controllerKey),
     ("unit_number", .ofOption .whole c.unitNumber), ("label", .ofOption .string c.label)]

instance : Document Disk where
  kind := "VirtualDisk"
  ofMembers ms :=
    (((((((Checked.valid fun _ => Disk.mk).apply
      (optional deviceType () (fixed diskTag) ms)).apply
      (required "key" whole ms)).apply
      (optional "controller_key" none (nullable whole) ms)).apply
      (optional "unit_number" none (nullable whole) ms)).apply
      (optional "label" none (nullable text) ms)).apply
      (optional "capacity_in_kb" 0 whole ms)).apply
      (optional "backing" Backing.unspecified Backing.read ms)
  toMembers d :=
    [(deviceType, .string diskTag), ("key", .whole d.key),
     ("controller_key", .ofOption .whole d.controllerKey),
     ("unit_number", .ofOption .whole d.unitNumber), ("label", .ofOption .string d.label),
     ("capacity_in_kb", .whole d.capacityKb), ("backing", Document.write d.backing)]

/-! ## Devices -/

inductive Device where
  | disk (d : Disk)
  | controller (c : Controller)
  | other (d : OtherDevice)
  deriving DecidableEq, Repr, Inhabited

namespace Device

/-- The name of the choice between the kinds. -/
def unionName : String := "tagged-union[VirtualDisk,VirtualSCSIController,VirtualDevice]"

/-- A device from JSON; its type says of which kind it is. -/
def read : Decoder Device :=
  tagged deviceType
    [(diskTag, fun v => (Document.read v).map disk),
     (controllerTag, fun v => (Document.read v).map controller),
     (otherTag, fun v => (Document.read v).map other)]

def write : Device → Json
  | disk d => Document.write d
  | controller c => Document.write c
  | other d => Document.write d

def disk? : Device → Option Disk
  | disk d => some d
  | _ => none

def controller? : Device → Option Controller
  | controller c => some c
  | _ => none

end Device

/-- A disk is named by its slot; a missing controller or unit counts as 0.  There is no limit to
the digits that are shown, since a number that was read has no more than `digitLimit` of them. -/
def Disk.name (d : Disk) : String :=
  s!"{diskTag}-{d.controllerKey.getD 0}-{d.unitNumber.getD 0}"

/-- The name of a device: for a disk its slot, else its type and key. -/
def Device.name : Device → String
  | .disk d => d.name
  | .controller c => s!"{controllerTag}-{c.key}"
  | .other d => s!"{otherTag}-{d.key}"

end PodPlacement
