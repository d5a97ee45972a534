import PodPlacement.Spec.Clone
import PodPlacement.Spec.Config

/-!
# Bodies of requests to the service

What a client sends: the registration of a datastore cluster or of a datastore, and the specs
of a machine to be created or cloned.
-/

namespace PodPlacement

open Decoder

structure ClusterRegistration where
  clusterId : Text
  name : Text
  inventoryPath : Text
  deriving DecidableEq, Repr, Inhabited

instance : Document ClusterRegistration where
  kind := "DatastoreClusterRegisterRequest"
  ofMembers ms :=
    (((Checked.valid ClusterRegistration.mk).apply (required "cluster_id" text ms)).apply
      (required "name" text ms)).apply
      (optional "inventory_path" "" text ms)
  toMembers r :=
    [("cluster_id", .string r.clusterId), ("name", .string r.name),
     ("inventory_path", .string r.inventoryPath)]

structure DatastoreRegistration where
  datastoreId : Text
  name : Text
  clusterId : Option Text
  deriving DecidableEq, Repr, Inhabited

instance : Document DatastoreRegistration where
  kind := "DatastoreRegisterRequest"
  ofMembers ms :=
    (((Checked.valid DatastoreRegistration.mk).apply (required "datastore_id" text ms)).apply
      (required "name" text ms)).apply
      (optional "cluster_id" none (nullable text) ms)
  toMembers r :=
    [("datastore_id", .string r.datastoreId), ("name", .string r.name),
     ("cluster_id", .ofOption .string r.clusterId)]

/-- A machine to be created. -/
structure CreateOrder where
  spec : ConfigSpec
  resourcePool : Reference
  clusterId : Text
  resourceId : Text
  deriving DecidableEq, Repr, Inhabited

instance : Document CreateOrder where
  kind := "VMCreatePlacementRequest"
  ofMembers ms :=
    ((((Checked.valid CreateOrder.mk).apply (required "spec" Document.read ms)).apply
      (required "resource_pool" Reference.read ms)).apply
      (required "datastore_cluster_id" text ms)).apply
      (optional "resource_id" "" text ms)
  toMembers o :=
    [("spec", Document.write o.spec), ("resource_pool", o.resourcePool.write),
     ("datastore_cluster_id", .string o.clusterId), ("resource_id", .string o.resourceId)]

/-- A machine to be cloned, with the devices of the source and of the final configuration. -/
structure CloneOrder where
  configSpec : ConfigSpec
  cloneSpec : CloneSpec
  resourcePool : Reference
  clusterId : Text
  sourceDevices : List Device
  specDevices : List Device
  resourceId : Text
  deriving DecidableEq, Repr, Inhabited

instance : Document CloneOrder where
  kind := "VMClonePlacementRequest"
  ofMembers ms :=
    (((((((Checked.valid CloneOrder.mk).apply (required "config_spec" Document.read ms)).apply
      (required "clone_spec" Document.read ms)).apply
      (required "resource_pool" Reference.read ms)).apply
      (required "datastore_cluster_id" text ms)).apply
      (required "source_devices" (list Device.read) ms)).apply
      (required "spec_devices" (list Device.read) ms)).apply
      (optional "resource_id" "" text ms)
  toMembers o :=
    [("config_spec", Document.write o.configSpec), ("clone_spec", Document.write o.cloneSpec),
     ("resource_pool", o.resourcePool.write), ("datastore_cluster_id", .string o.clusterId),
     ("source_devices", .array (o.sourceDevices.map Device.write)),
     ("spec_devices", .array (o.specDevices.map Device.write)),
     ("resource_id", .string o.resourceId)]

end PodPlacement
