import PodPlacement.Catalogue
import PodPlacement.Proofs.Placing

/-!
# What is written is read back

Each document is read back from its dump: each of its members is found by its key, and is read
as it was written.  A list is read back item by item, and a device or an action as the variant
that its member names.  A value that may be absent is read back if none is written as null.
An answer of the scheduler is left out, for it holds open values, which are not dumped as they
are.

    ofMembers (toMembers a) = .valid a → read (write a) = .valid a      (Document.read_write)
    k.dump v = .ok (k.write v)  where k ≠ .schedulerAnswer              (DocumentKind.dump_eq)
    k.read (k.write v) = .valid v  where k ≠ .schedulerAnswer        (DocumentKind.read_write)
-/

namespace PodPlacement

open Decoder

/-! ## Parts of a document -/

theorem Checked.apply_of_valid {α β : Type} {f : Checked (α → β)} {g : α → β} {x : Checked α}
    {a : α} (hf : f = .valid g) (hx : x = .valid a) : f.apply x = .valid (g a) := by
  rw [hf, hx, apply_valid]

namespace Decoder

section

variable {α : Type} {key : String} {d : Decoder α} {members : Members} {value : Json} {a : α}

theorem required_of_lookup (hlookup : members.lookup (.proper key) = some value)
    (h : d value = .valid a) : required key d members = .valid a :=
  (required_eq_valid_iff key d members a).2 ⟨value, hlookup, h⟩

theorem optional_of_lookup {default : α} (hlookup : members.lookup (.proper key) = some value)
    (h : d value = .valid a) : optional key default d members = .valid a :=
  (optional_eq_valid_iff key default d members a).2 (Or.inl ⟨value, hlookup, h⟩)

/-- A variant is read if the member that names it is there and the variant is read. -/
theorem tagged_of_lookup {discriminator : String} {variants : List (String × Decoder α)}
    (tag : String)
    (htag : members.lookup (.proper discriminator) = some (.string (.proper tag)))
    (hvariant : variants.lookup tag = some d) (h : d (.object members) = .valid a) :
    tagged discriminator variants (.object members) = .valid a := by
  simp only [tagged, htag, hvariant, Option.map_some]
  exact Checked.within_eq_valid_iff.2 h

end

section

variable {α : Type}

/-- A value that may be absent is read back if a value is, and none is written as null. -/
theorem nullable_ofOption {d : Decoder α} {e : α → Json} (h : ∀ a, d (e a) = .valid a)
    (hnull : ∀ a, e a ≠ .null) (o : Option α) : nullable d (.ofOption e o) = .valid o := by
  cases o with
  | none => rfl
  | some a =>
    show nullable d (e a) = _
    unfold nullable
    split
    · next hvalue => exact absurd hvalue (hnull a)
    · rw [h a, Checked.map_valid]

theorem nullable_text (o : Option Text) : nullable text (.ofOption .string o) = .valid o :=
  nullable_ofOption text_string (fun _ => nofun) o

theorem nullable_whole (o : Option Int) : nullable whole (.ofOption .whole o) = .valid o :=
  nullable_ofOption whole_whole (fun _ => nofun) o

theorem nullable_flag (o : Option Bool) : nullable flag (.ofOption .bool o) = .valid o :=
  nullable_ofOption flag_bool (fun _ => nofun) o

theorem choice_word {choices : List (String × α)} {word : α → String}
    (h : ∀ a, choices.lookup (word a) = some a) (a : α) :
    choice choices (.string (word a)) = .valid a := by
  simp only [choice, reading, h a]

theorem nullable_choice {choices : List (String × α)} {word : α → String}
    (h : ∀ a, choices.lookup (word a) = some a) (o : Option α) :
    nullable (choice choices) (.ofOption (fun a => .string (word a)) o) = .valid o :=
  nullable_ofOption (choice_word h) (fun _ => nofun) o

/-- The one text that a member allows is read, and adds nothing. -/
theorem apply_fixed_of_lookup {key word : String} {members : Members} {a : α}
    (hlookup : members.lookup (.proper key) = some (.string (.proper word))) :
    (Checked.valid fun _ => a).apply (optional key () (fixed word) members) = .valid a := by
  have hword : fixed word (.string (.proper word)) = .valid () := if_pos rfl
  rw [optional_of_lookup hlookup hword, Checked.apply_valid]

end

end Decoder

/-! ## Documents that are read back -/

/-- A kind of document whose documents are read from the members that they are written as. -/
class LawfulDocument (α : Type) [Document α] : Prop where
  ofMembers_toMembers (a : α) : Document.ofMembers (Document.toMembers a) = .valid a

namespace Document

variable {α : Type} [Document α] [LawfulDocument α]

theorem read_write (a : α) : read (write a) = .valid a :=
  LawfulDocument.ofMembers_toMembers a

theorem nullable_read_write (o : Option α) : nullable read (.ofOption write o) = .valid o :=
  nullable_ofOption read_write (fun _ => nofun) o

theorem list_read_write (as : List α) : list read (.array (as.map write)) = .valid as :=
  list_map read write read_write as

end Document

open Checked Document

instance : LawfulDocument Reference := ⟨Reference.read_write⟩

/-! ## Devices -/

instance : LawfulDocument Backing where
  ofMembers_toMembers := by
    rintro ⟨fileName, datastore, diskMode, thinProvisioned⟩
    -- one case for each member, which `rfl` finds by its key
    refine apply_of_valid (apply_of_valid (apply_of_valid (apply_of_valid rfl ?fileName)
      ?datastore) ?diskMode) ?thinProvisioned
    case fileName => exact optional_of_lookup rfl (text_string fileName)
    case datastore => exact optional_of_lookup rfl (nullable_read_write datastore)
    case diskMode => exact optional_of_lookup rfl (text_string diskMode)
    case thinProvisioned => exact optional_of_lookup rfl (nullable_flag thinProvisioned)

instance : LawfulDocument OtherDevice where
  ofMembers_toMembers := by
    rintro ⟨key, controllerKey, unitNumber, label⟩
    refine apply_of_valid (apply_of_valid (apply_of_valid (apply_of_valid
      (apply_fixed_of_lookup rfl) ?key) ?controllerKey) ?unitNumber) ?label
    case key => exact required_of_lookup rfl (whole_whole key)
    case controllerKey => exact optional_of_lookup rfl (nullable_whole controllerKey)
    case unitNumber => exact optional_of_lookup rfl (nullable_whole unitNumber)
    case label => exact optional_of_lookup rfl (nullable_text label)

instance : LawfulDocument Controller where
  ofMembers_toMembers := by
    rintro ⟨key, busNumber, controllerKey, unitNumber, label⟩
    refine apply_of_valid (apply_of_valid (apply_of_valid (apply_of_valid (apply_of_valid
      (apply_fixed_of_lookup rfl) ?key) ?busNumber) ?controllerKey) ?unitNumber) ?label
    case key => exact required_of_lookup rfl (whole_whole key)
    case busNumber => exact required_of_lookup rfl (whole_whole busNumber)
    case controllerKey => exact optional_of_lookup rfl (nullable_whole controllerKey)
    case unitNumber => exact optional_of_lookup rfl (nullable_whole unitNumber)
    case label => exact optional_of_lookup rfl (nullable_text label)

instance : LawfulDocument Disk where
  ofMembers_toMembers := by
    rintro ⟨key, controllerKey, unitNumber, label, capacityKb, backing⟩
    refine apply_of_valid (apply_of_valid (apply_of_valid (apply_of_valid (apply_of_valid
      (apply_of_valid (apply_fixed_of_lookup rfl) ?key) ?controllerKey) ?unitNumber) ?label)
      ?capacityKb) ?backing
    case key => exact required_of_lookup rfl (whole_whole key)
    case controllerKey => exact optional_of_lookup rfl (nullable_whole controllerKey)
    case unitNumber => exact optional_of_lookup rfl (nullable_whole unitNumber)
    case label => exact optional_of_lookup rfl (nullable_text label)
    case capacityKb => exact optional_of_lookup rfl (whole_whole capacityKb)
    case backing => exact optional_of_lookup rfl (read_write backing)

/-- A device is read back from its JSON form, by the word for its kind. -/
theorem Device.read_write (d : Device) : Device.read d.write = .valid d := by
  cases d with
  | disk d =>
    refine tagged_of_lookup diskTag rfl rfl ?_
    exact congrArg (Checked.map Device.disk) (Document.read_write d)
  | controller c =>
    refine tagged_of_lookup controllerTag rfl rfl ?_
    exact congrArg (Checked.map Device.controller) (Document.read_write c)
  | other d =>
    refine tagged_of_lookup otherTag rfl rfl ?_
    exact congrArg (Checked.map Device.other) (Document.read_write d)

/-! ## Specs of machines -/

theorem DeviceOperation.lookup_word (o : DeviceOperation) : words.lookup o.word = some o := by
  cases o <;> rfl

theorem FileOperation.lookup_word (o : FileOperation) : words.lookup o.word = some o := by
  cases o <;> rfl

instance : LawfulDocument DeviceChange where
  ofMembers_toMembers := by
    rintro ⟨operation, fileOperation, device⟩
    refine apply_of_valid (apply_of_valid (apply_of_valid rfl ?operation) ?fileOperation) ?device
    case operation =>
      exact optional_of_lookup rfl (nullable_choice DeviceOperation.lookup_word operation)
    case fileOperation =>
      exact optional_of_lookup rfl (nullable_choice FileOperation.lookup_word fileOperation)
    case device => exact required_of_lookup rfl (Device.read_write device)

instance : LawfulDocument MachineFiles where
  ofMembers_toMembers := by
    rintro ⟨path⟩
    refine apply_of_valid rfl ?path
    case path => exact optional_of_lookup rfl (nullable_text path)

instance : LawfulDocument ConfigSpec where
  ofMembers_toMembers := by
    rintro ⟨name, cpus, memoryMb, files, changes⟩
    refine apply_of_valid (apply_of_valid (apply_of_valid (apply_of_valid (apply_of_valid rfl
      ?name) ?cpus) ?memoryMb) ?files) ?changes
    case name => exact optional_of_lookup rfl (nullable_text name)
    case cpus => exact optional_of_lookup rfl (nullable_whole cpus)
    case memoryMb => exact optional_of_lookup rfl (nullable_whole memoryMb)
    case files => exact optional_of_lookup rfl (nullable_read_write files)
    case changes => exact optional_of_lookup rfl (list_read_write changes)

instance : LawfulDocument DiskLocator where
  ofMembers_toMembers := by
    rintro ⟨diskId, datastore, backing⟩
    refine apply_of_valid (apply_of_valid (apply_of_valid rfl ?diskId) ?datastore) ?backing
    case diskId => exact required_of_lookup rfl (whole_whole diskId)
    case datastore => exact optional_of_lookup rfl (nullable_read_write datastore)
    case backing => exact optional_of_lookup rfl (read_write backing)

instance : LawfulDocument RelocateSpec where
  ofMembers_toMembers := by
    rintro ⟨datastore, pool, disks⟩
    refine apply_of_valid (apply_of_valid (apply_of_valid rfl ?datastore) ?pool) ?disks
    case datastore => exact optional_of_lookup rfl (nullable_read_write datastore)
    case pool => exact optional_of_lookup rfl (nullable_read_write pool)
    case disks => exact optional_of_lookup rfl (list_read_write disks)

instance : LawfulDocument CloneSpec where
  ofMembers_toMembers := by
    rintro ⟨location, powerOn, template⟩
    refine apply_of_valid (apply_of_valid (apply_of_valid rfl ?location) ?powerOn) ?template
    case location => exact optional_of_lookup rfl (read_write location)
    case powerOn => exact optional_of_lookup rfl (flag_bool powerOn)
    case template => exact optional_of_lookup rfl (flag_bool template)

/-! ## Placement requests -/

instance : LawfulDocument PodDiskLocator where
  ofMembers_toMembers := by
    rintro ⟨diskId, backing⟩
    refine apply_of_valid (apply_of_valid rfl ?diskId) ?backing
    case diskId => exact required_of_lookup rfl (whole_whole diskId)
    case backing => exact required_of_lookup rfl (read_write backing)

instance : LawfulDocument PodConfig where
  ofMembers_toMembers := by
    rintro ⟨storagePod, disks⟩
    refine apply_of_valid (apply_of_valid rfl ?storagePod) ?disks
    case storagePod => exact required_of_lookup rfl (read_write storagePod)
    case disks => exact optional_of_lookup rfl (list_read_write disks)

instance : LawfulDocument PodSelection where
  ofMembers_toMembers := by
    rintro ⟨storagePod, initialConfigs⟩
    refine apply_of_valid (apply_of_valid rfl ?storagePod) ?initialConfigs
    case storagePod => exact required_of_lookup rfl (read_write storagePod)
    case initialConfigs => exact optional_of_lookup rfl (list_read_write initialConfigs)

theorem PlacementPurpose.lookup_word (p : PlacementPurpose) : words.lookup p.word = some p := by
  cases p
  rfl

instance : LawfulDocument PlacementRequest where
  ofMembers_toMembers := by
    rintro ⟨purpose, resourcePool, configSpec, podSelection⟩
    refine apply_of_valid (apply_of_valid (apply_of_valid (apply_of_valid rfl ?purpose)
      ?resourcePool) ?configSpec) ?podSelection
    case purpose => exact optional_of_lookup rfl (choice_word PlacementPurpose.lookup_word purpose)
    case resourcePool => exact required_of_lookup rfl (read_write resourcePool)
    case configSpec => exact required_of_lookup rfl (read_write configSpec)
    case podSelection => exact required_of_lookup rfl (read_write podSelection)

/-! ## Recommendations -/

instance : LawfulDocument DiskOffer where
  ofMembers_toMembers := by
    rintro ⟨diskId, datastore⟩
    refine apply_of_valid (apply_of_valid rfl ?diskId) ?datastore
    case diskId => exact required_of_lookup rfl (whole_whole diskId)
    case datastore => exact required_of_lookup rfl (read_write datastore)

instance : LawfulDocument RelocateOffer where
  ofMembers_toMembers := by
    rintro ⟨datastore, disks⟩
    refine apply_of_valid (apply_of_valid rfl ?datastore) ?disks
    case datastore => exact optional_of_lookup rfl (nullable_read_write datastore)
    case disks => exact optional_of_lookup rfl (list_read_write disks)

instance : LawfulDocument OfferedAction where
  ofMembers_toMembers := by
    rintro ⟨type, target, destination, relocation⟩
    refine apply_of_valid (apply_of_valid (apply_of_valid (apply_of_valid rfl ?type) ?target)
      ?destination) ?relocation
    case type => exact optional_of_lookup rfl (text_string type)
    case target => exact optional_of_lookup rfl (nullable_read_write target)
    case destination => exact optional_of_lookup rfl (nullable_read_write destination)
    case relocation => exact optional_of_lookup rfl (read_write relocation)

instance : LawfulDocument Offer where
  ofMembers_toMembers := by
    rintro ⟨key, reason, rating, actions⟩
    refine apply_of_valid (apply_of_valid (apply_of_valid (apply_of_valid rfl ?key) ?reason)
      ?rating) ?actions
    case key => exact optional_of_lookup rfl (text_string key)
    case reason => exact optional_of_lookup rfl (text_string reason)
    case rating => exact optional_of_lookup rfl (whole_whole rating)
    case actions => exact optional_of_lookup rfl (list_read_write actions)

instance : LawfulDocument MachinePlacement where
  ofMembers_toMembers := by
    rintro ⟨datastore⟩
    refine apply_of_valid (apply_fixed_of_lookup rfl) ?datastore
    case datastore => exact required_of_lookup rfl (read_write datastore)

instance : LawfulDocument DiskPlacement where
  ofMembers_toMembers := by
    rintro ⟨diskId, datastore⟩
    refine apply_of_valid (apply_of_valid rfl ?diskId) ?datastore
    case diskId => exact required_of_lookup rfl (whole_whole diskId)
    case datastore => exact required_of_lookup rfl (read_write datastore)

/-- Placements are read back; there is a first one, so the list is not empty. -/
theorem DiskPlacements.read_array (p : DiskPlacements) :
    DiskPlacements.read (.array (p.toList.map write)) = .valid p := by
  unfold DiskPlacements.read
  rw [list_read_write]
  rfl

instance : LawfulDocument DiskPlacements where
  ofMembers_toMembers := by
    intro p
    refine apply_of_valid (apply_fixed_of_lookup rfl) ?placements
    case placements => exact required_of_lookup rfl (DiskPlacements.read_array p)

/-- An action is read back from its JSON form, by the word for its kind. -/
theorem Action.read_write (a : Action) : Action.read a.write = .valid a := by
  cases a with
  | machine p =>
    refine tagged_of_lookup machineTag rfl rfl ?_
    exact congrArg (Checked.map Action.machine) (Document.read_write p)
  | disks p =>
    refine tagged_of_lookup disksTag rfl rfl ?_
    exact congrArg (Checked.map Action.disks) (Document.read_write p)

instance : LawfulDocument Recommendation where
  ofMembers_toMembers := by
    rintro ⟨key, actions⟩
    refine apply_of_valid (apply_of_valid rfl ?key) ?actions
    case key => exact optional_of_lookup rfl (text_string key)
    case actions =>
      exact optional_of_lookup rfl (list_map Action.read Action.write Action.read_write actions)

/-! ## Bodies of requests -/

theorem list_device (devices : List Device) :
    list Device.read (.array (devices.map Device.write)) = .valid devices :=
  list_map Device.read Device.write Device.read_write devices

instance : LawfulDocument ClusterRegistration where
  ofMembers_toMembers := by
    rintro ⟨clusterId, name, inventoryPath⟩
    refine apply_of_valid (apply_of_valid (apply_of_valid rfl ?clusterId) ?name) ?inventoryPath
    case clusterId => exact required_of_lookup rfl (text_string clusterId)
    case name => exact required_of_lookup rfl (text_string name)
    case inventoryPath => exact optional_of_lookup rfl (text_string inventoryPath)

instance : LawfulDocument DatastoreRegistration where
  ofMembers_toMembers := by
    rintro ⟨datastoreId, name, clusterId⟩
    refine apply_of_valid (apply_of_valid (apply_of_valid rfl ?datastoreId) ?name) ?clusterId
    case datastoreId => exact required_of_lookup rfl (text_string datastoreId)
    case name => exact required_of_lookup rfl (text_string name)
    case clusterId => exact optional_of_lookup rfl (nullable_text clusterId)

instance : LawfulDocument CreateOrder where
  ofMembers_toMembers := by
    rintro ⟨spec, resourcePool, clusterId, resourceId⟩
    refine apply_of_valid (apply_of_valid (apply_of_valid (apply_of_valid rfl ?spec)
      ?resourcePool) ?clusterId) ?resourceId
    case spec => exact required_of_lookup rfl (read_write spec)
    case resourcePool => exact required_of_lookup rfl (read_write resourcePool)
    case clusterId => exact required_of_lookup rfl (text_string clusterId)
    case resourceId => exact optional_of_lookup rfl (text_string resourceId)

instance : LawfulDocument CloneOrder where
  ofMembers_toMembers := by
    rintro ⟨configSpec, cloneSpec, resourcePool, clusterId, sourceDevices, specDevices, resourceId⟩
    refine apply_of_valid (apply_of_valid (apply_of_valid (apply_of_valid (apply_of_valid
      (apply_of_valid (apply_of_valid rfl ?configSpec) ?cloneSpec) ?resourcePool) ?clusterId)
      ?sourceDevices) ?specDevices) ?resourceId
    case configSpec => exact required_of_lookup rfl (read_write configSpec)
    case cloneSpec => exact required_of_lookup rfl (read_write cloneSpec)
    case resourcePool => exact required_of_lookup rfl (read_write resourcePool)
    case clusterId => exact required_of_lookup rfl (text_string clusterId)
    case sourceDevices => exact required_of_lookup rfl (list_device sourceDevices)
    case specDevices => exact required_of_lookup rfl (list_device specDevices)
    case resourceId => exact optional_of_lookup rfl (text_string resourceId)

/-! ## All kinds of documents -/

namespace DocumentKind

/-- All kinds but the answer of the scheduler, which holds open values, are lawful. -/
theorem lawful : (k : DocumentKind) → k ≠ .schedulerAnswer → LawfulDocument k.Value
  | reference, _ => inferInstanceAs (LawfulDocument Reference)
  | backing, _ => inferInstanceAs (LawfulDocument Backing)
  | otherDevice, _ => inferInstanceAs (LawfulDocument OtherDevice)
  | controller, _ => inferInstanceAs (LawfulDocument Controller)
  | disk, _ => inferInstanceAs (LawfulDocument Disk)
  | deviceChange, _ => inferInstanceAs (LawfulDocument DeviceChange)
  | machineFiles, _ => inferInstanceAs (LawfulDocument MachineFiles)
  | configSpec, _ => inferInstanceAs (LawfulDocument ConfigSpec)
  | diskLocator, _ => inferInstanceAs (LawfulDocument DiskLocator)
  | relocateSpec, _ => inferInstanceAs (LawfulDocument RelocateSpec)
  | cloneSpec, _ => inferInstanceAs (LawfulDocument CloneSpec)
  | podDiskLocator, _ => inferInstanceAs (LawfulDocument PodDiskLocator)
  | podConfig, _ => inferInstanceAs (LawfulDocument PodConfig)
  | podSelection, _ => inferInstanceAs (LawfulDocument PodSelection)
  | placementRequest, _ => inferInstanceAs (LawfulDocument PlacementRequest)
  | diskOffer, _ => inferInstanceAs (LawfulDocument DiskOffer)
  | relocateOffer, _ => inferInstanceAs (LawfulDocument RelocateOffer)
  | offeredAction, _ => inferInstanceAs (LawfulDocument OfferedAction)
  | offer, _ => inferInstanceAs (LawfulDocument Offer)
  | schedulerAnswer, h => absurd rfl h
  | machinePlacement, _ => inferInstanceAs (LawfulDocument MachinePlacement)
  | diskPlacement, _ => inferInstanceAs (LawfulDocument DiskPlacement)
  | diskPlacements, _ => inferInstanceAs (LawfulDocument DiskPlacements)
  | recommendation, _ => inferInstanceAs (LawfulDocument Recommendation)
  | clusterRegistration, _ => inferInstanceAs (LawfulDocument ClusterRegistration)
  | datastoreRegistration, _ => inferInstanceAs (LawfulDocument DatastoreRegistration)
  | createOrder, _ => inferInstanceAs (LawfulDocument CreateOrder)
  | cloneOrder, _ => inferInstanceAs (LawfulDocument CloneOrder)

def redump (k : DocumentKind) (room : ℕ) (input : Json) : Option Json :=
  match k.read input with
  | .valid v => (k.dump room v).toOption
  | .faulty _ => none

section

variable {k : DocumentKind} (h : k ≠ .schedulerAnswer)

include h

theorem dump_eq (room : ℕ) (v : k.Value) : k.dump room v = .ok (k.write v) := by
  cases k with
  | schedulerAnswer => exact absurd rfl h
  | _ => rfl

theorem read_write (v : k.Value) : k.read (k.write v) = .valid v :=
  have := lawful k h
  Document.read_write v

theorem redump_of_read (room : ℕ) {input : Json} {v : k.Value} (hread : k.read input = .valid v) :
    k.redump room input = some (k.write v) := by
  unfold redump
  rw [hread]
  show (k.dump room v).toOption = some (k.write v)
  rw [dump_eq h]
  rfl

end

end DocumentKind

/-- Every document but an answer of the scheduler is read back from its dump; the dump of what is
read is its own dump; and what the scheduler reads from a post is the request that was built. -/
theorem dump_reads_back (room : ℕ) :
    (∀ k : DocumentKind, k ≠ .schedulerAnswer → ∀ v : k.Value,
      ∃ json, k.dump room v = .ok json ∧ k.read json = .valid v) ∧
    (∀ k : DocumentKind, k ≠ .schedulerAnswer → ∀ input v, k.read input = .valid v →
      ∃ json, k.redump room input = some json ∧ k.redump room json = some json) ∧
    ∀ (connection : Connection) (clusters : ClusterDirectory) (scheduler : Scheduler)
      (spec : ConfigSpec) (pool : Reference) (clusterId tag : Text),
      ∀ post ∈ (recommend connection clusters scheduler spec pool clusterId tag).2.posts,
        ∃ pod json, clusters clusterId = .ok pod ∧
          DocumentKind.placementRequest.dump room post.body = .ok json ∧
          DocumentKind.placementRequest.read json =
            .valid (PlacementRequest.ofSpec spec pool pod.reference) := by
  refine ⟨fun k hk v => ?_, fun k hk input v hv => ?_, ?_⟩
  · exact ⟨k.write v, DocumentKind.dump_eq hk room v, DocumentKind.read_write hk v⟩
  · exact ⟨k.write v, DocumentKind.redump_of_read hk room hv,
      DocumentKind.redump_of_read hk room (DocumentKind.read_write hk v)⟩
  · intro connection clusters scheduler spec pool clusterId tag post hpost
    obtain ⟨pod, hpod, rfl⟩ :=
      (trace_recommend connection clusters scheduler spec pool clusterId tag).2 post hpost
    exact ⟨pod, _, hpod, rfl, Document.read_write (PlacementRequest.ofSpec _ _ _)⟩

/-- A spec that is read leniently: texts and a flag stand for numbers, members are missing or
not known, and the changes are of devices of all kinds. -/
def looseSpec : Json :=
  .object [("num_cpus", .string " 0012 "), ("memory_mb", .bool true), ("comment", .null),
    ("device_change", .array [
      .object [("operation", .string "add"), ("file_operation", .string "create"),
        ("device", .object [("key", .string "-1"), ("device_type", .string "disk"),
          ("backing", .object [("thin_provisioned", .string "Yes")])])],
      .object [("device", .object [("device_type", .string "scsi_controller"),
        ("key", .whole 1000000000000000000000000000000), ("bus_number", .whole 0)])],
      .object [("operation", .null), ("device", .object [("device_type", .string "device"),
        ("key", .whole 200), ("label", .string "")])]])]

def strictSpec : ConfigSpec :=
  ⟨none, some 12, some 1, none,
    [⟨some .add, some .create,
      .disk ⟨-1, none, none, none, 0, ⟨"", none, "persistent", some true⟩⟩⟩,
     ⟨none, none, .controller ⟨1000000000000000000000000000000, 0, none, none, none⟩⟩,
     ⟨none, none, .other ⟨200, none, none, some ""⟩⟩]⟩

theorem looseSpec_reads_back :
    DocumentKind.configSpec ≠ .schedulerAnswer ∧
    DocumentKind.configSpec.read looseSpec = .valid strictSpec ∧
    (∃ json, DocumentKind.configSpec.dump 100 strictSpec = .ok json ∧
      DocumentKind.configSpec.read json = .valid strictSpec) ∧
    (∃ json, DocumentKind.configSpec.redump 100 looseSpec = some json ∧
      DocumentKind.configSpec.redump 100 json = some json) ∧
    let site := Workspace.refusing
    ∃ post ∈ (recommend site.connection site.clusters site.scheduler strictSpec
        Workspace.somePool "c" "tag").2.posts,
      ∃ json, DocumentKind.placementRequest.dump 100 post.body = .ok json ∧
        DocumentKind.placementRequest.read json =
          .valid (PlacementRequest.ofSpec strictSpec Workspace.somePool (.storagePod "c")) := by
  have hkind : DocumentKind.configSpec ≠ .schedulerAnswer := by decide
  have hread : DocumentKind.configSpec.read looseSpec = .valid strictSpec := by rfl
  refine ⟨hkind, hread, (dump_reads_back 100).1 .configSpec hkind strictSpec,
    (dump_reads_back 100).2.1 .configSpec hkind looseSpec strictSpec hread, ?_⟩
  intro site
  have hpost : site.connection.postFor strictSpec Workspace.somePool ⟨"c", "pod", ""⟩ ∈
      (recommend site.connection site.clusters site.scheduler strictSpec Workspace.somePool
        "c" "tag").2.posts := List.mem_cons_self
  obtain ⟨pod, json, hpod, hdump, hjson⟩ := (dump_reads_back 100).2.2 _ _ _ _ _ _ _ _ hpost
  obtain rfl : ⟨"c", "pod", ""⟩ = pod := Except.ok.inj hpod
  exact ⟨_, hpost, json, hdump, hjson⟩

end PodPlacement
