import PodPlacement.Device

/-!
# Clone specs

Where the copy of a machine goes: the machine itself, and each disk of the source by its key.
-/

namespace PodPlacement

open Decoder

/-- Where one disk of the source goes. -/
structure DiskLocator where
  diskId : Int
  datastore : Option Reference
  backing : Backing
  deriving DecidableEq, Repr, Inhabited

instance : Document DiskLocator where
  kind := "DiskLocator"
  ofMembers ms :=
    (((Checked.valid DiskLocator.mk).apply (required "disk_id" whole ms)).apply
      (optional "datastore" none (nullable Reference.read) ms)).apply
      (optional "disk_backing_info" Backing.unspecified Backing.read ms)
  toMembers l :=
    [("disk_id", .whole l.diskId), ("datastore", .ofOption Reference.write l.datastore),
     ("disk_backing_info", Document.write l.backing)]

/-- Where a machine and its disks go. -/
structure RelocateSpec where
  datastore : Option Reference
  pool : Option Reference
  disks : List DiskLocator
  deriving DecidableEq, Repr, Inhabited

def RelocateSpec.unspecified : RelocateSpec := ⟨none, none, []⟩

instance : Document RelocateSpec where
  kind := "RelocateSpec"
  ofMembers ms :=
    (((Checked.valid RelocateSpec.mk).apply
      (optional "datastore" none (nullable Reference.read) ms)).apply
      (optional "pool" none (nullable Reference.read) ms)).apply
      (optional "disk" [] (list Document.read) ms)
  toMembers s :=
    [("datastore", .ofOption Reference.write s.datastore),
     ("pool", .ofOption Reference.write s.pool), ("disk", .array (s.disks.map Document.write))]

structure CloneSpec where
  location : RelocateSpec
  powerOn : Bool
  template : Bool
  deriving DecidableEq, Repr, Inhabited

instance : Document CloneSpec where
  kind := "CloneSpec"
  ofMembers ms :=
    (((Checked.valid CloneSpec.mk).apply
      (optional "location" RelocateSpec.unspecified Document.read ms)).apply
      (optional "power_on" false flag ms)).apply
      (optional "template" false flag ms)
  toMembers s :=
    [("location", Document.write s.location), ("power_on", .bool s.powerOn),
     ("template", .bool s.template)]

end PodPlacement
