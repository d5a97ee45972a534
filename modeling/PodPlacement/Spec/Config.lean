import PodPlacement.Device

/-!
# Configuration specs

What a machine is to become: some settings, where its files go, and a list of changes to its
devices in the order in which they are made.
-/

namespace PodPlacement

open Decoder

/-- What a change does with a device. -/
inductive DeviceOperation where
  | add
  | edit
  | remove
  deriving DecidableEq, Repr, Inhabited

/-- What a change does with the file behind a device. -/
inductive FileOperation where
  | create
  | destroy
  | replace
  deriving DecidableEq, Repr, Inhabited

def DeviceOperation.words : List (String × DeviceOperation) :=
  [("add", .add), ("edit", .edit), ("remove", .remove)]

def DeviceOperation.word : DeviceOperation → String
  | add => "add"
  | edit => "edit"
  | remove => "remove"

def FileOperation.words : List (String × FileOperation) :=
  [("create", .create), ("destroy", .destroy), ("replace", .replace)]

def FileOperation.word : FileOperation → String
  | create => "create"
  | destroy => "destroy"
  | replace => "replace"

structure DeviceChange where
  operation : Option DeviceOperation
  fileOperation : Option FileOperation
  device : Device
  deriving DecidableEq, Repr, Inhabited

instance : Document DeviceChange where
  kind := "VirtualDeviceConfigSpec"
  ofMembers ms :=
    (((Checked.valid DeviceChange.mk).apply
      (optional "operation" none (nullable (choice DeviceOperation.words)) ms)).apply
      (optional "file_operation" none (nullable (choice FileOperation.words)) ms)).apply
      (required "device" Device.read ms)
  toMembers c :=
    [("operation", .ofOption (fun o => .string o.word) c.operation),
     ("file_operation", .ofOption (fun o => .string o.word) c.fileOperation),
     ("device", c.device.write)]

/-- Where the files of a machine are. -/
structure MachineFiles where
  path : Option Text
  deriving DecidableEq, Repr, Inhabited

instance : Document MachineFiles where
  kind := "VirtualMachineFileInfo"
  ofMembers ms :=
    (Checked.valid MachineFiles.mk).apply (optional "vm_path_name" none (nullable text) ms)
  toMembers f := [("vm_path_name", .ofOption .string f.path)]

structure ConfigSpec where
  name : Option Text
  cpus : Option Int
  memoryMb : Option Int
  files : Option MachineFiles
  changes : List DeviceChange
  deriving DecidableEq, Repr, Inhabited

instance : Document ConfigSpec where
  kind := "ConfigSpec"
  ofMembers ms :=
    (((((Checked.valid ConfigSpec.mk).apply
      (optional "name" none (nullable text) ms)).apply
      (optional "num_cpus" none (nullable whole) ms)).apply
      (optional "memory_mb" none (nullable whole) ms)).apply
      (optional "files" none (nullable Document.read) ms)).apply
      (optional "device_change" [] (list Document.read) ms)
  toMembers s :=
    [("name", .ofOption .string s.name), ("num_cpus", .ofOption .whole s.cpus),
     ("memory_mb", .ofOption .whole s.memoryMb), ("files", .ofOption Document.write s.files),
     ("device_change", .array (s.changes.map Document.write))]

/-- The disks among the changes with given operations, in order. -/
def ConfigSpec.disksWith (s : ConfigSpec) (operation : DeviceOperation)
    (fileOperation : FileOperation) : List Disk :=
  (s.changes.filter fun c =>
    c.operation = some operation ∧ c.fileOperation = some fileOperation).filterMap
    fun c => c.device.disk?

/-- The disks that are added with a new file. -/
def ConfigSpec.newDisks (s : ConfigSpec) : List Disk := s.disksWith .add .create

end PodPlacement
