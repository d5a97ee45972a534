import PodPlacement.Spec.Config

/-!
# Placement requests

What the scheduler is asked: a datastore for each new disk of a configuration spec, out of
the datastores of one cluster.
-/

namespace PodPlacement

open Decoder

/-- A disk to be placed. -/
structure PodDiskLocator where
  diskId : Int
  backing : Backing
  deriving DecidableEq, Repr, Inhabited

instance : Document PodDiskLocator where
  kind := "PodDiskLocator"
  ofMembers ms :=
    ((Checked.valid PodDiskLocator.mk).apply (required "disk_id" whole ms)).apply
      (required "disk_backing_info" Backing.read ms)
  toMembers l :=
    [("disk_id", .whole l.diskId), ("disk_backing_info", Document.write l.backing)]

/-- Disks to be placed together in one cluster. -/
structure PodConfig where
  storagePod : Reference
  disks : List PodDiskLocator
  deriving DecidableEq, Repr, Inhabited

instance : Document PodConfig where
  kind := "VmPodConfigForPlacement"
  ofMembers ms :=
    ((Checked.valid PodConfig.mk).apply (required "storage_pod" Reference.read ms)).apply
      (optional "disk" [] (list Document.read) ms)
  toMembers c :=
    [("storage_pod", c.storagePod.write), ("disk", .array (c.disks.map Document.write))]

/-- The cluster to choose from, and what to place there. -/
structure PodSelection where
  storagePod : Reference
  initialConfigs : List PodConfig
  deriving DecidableEq, Repr, Inhabited

instance : Document PodSelection where
  kind := "StorageDrsPodSelectionSpec"
  ofMembers ms :=
    ((Checked.valid PodSelection.mk).apply (required "storage_pod" Reference.read ms)).apply
      (optional "initial_vm_config" [] (list Document.read) ms)
  toMembers s :=
    [("storage_pod", s.storagePod.write),
     ("initial_vm_config", .array (s.initialConfigs.map Document.write))]

inductive PlacementPurpose where
  | create
  deriving DecidableEq, Repr, Inhabited

def PlacementPurpose.words : List (String × PlacementPurpose) := [("create", .create)]

def PlacementPurpose.word : PlacementPurpose → String
  | create => "create"

structure PlacementRequest where
  purpose : PlacementPurpose
  resourcePool : Reference
  configSpec : ConfigSpec
  podSelection : PodSelection
  deriving DecidableEq, Repr, Inhabited

instance : Document PlacementRequest where
  kind := "PlacementRequest"
  ofMembers ms :=
    ((((Checked.valid PlacementRequest.mk).apply
      (optional "type" .create (choice PlacementPurpose.words) ms)).apply
      (required "resource_pool" Reference.read ms)).apply
      (required "config_spec" Document.read ms)).apply
      (required "pod_selection_spec" Document.read ms)
  toMembers r :=
    [("type", .string r.purpose.word), ("resource_pool", r.resourcePool.write),
     ("config_spec", Document.write r.configSpec),
     ("pod_selection_spec", Document.write r.podSelection)]

/-- The entry that asks for a datastore of a cluster for one disk. -/
def PodConfig.ofDisk (pod : Reference) (d : Disk) : PodConfig := ⟨pod, [⟨d.key, d.backing⟩]⟩

/-- The request that asks for a datastore of a cluster for each new disk of a spec. -/
def PlacementRequest.ofSpec (spec : ConfigSpec) (pool pod : Reference) : PlacementRequest :=
  ⟨.create, pool, spec, ⟨pod, spec.newDisks.map (PodConfig.ofDisk pod)⟩⟩

end PodPlacement
