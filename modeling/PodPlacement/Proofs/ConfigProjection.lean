import Mathlib.Data.List.Forall2
import PodPlacement.Proofs.Destination

/-!
# What a projection makes of a configuration spec

The disks among the changes go where the last placement of their key sends them, the files of
the machine go where the last placement of the machine sends them, and all else stays.

    (s.project dir r).failure = none →
      (s.project dir r).spec = { s with
        files := settledFiles dir r s.files
        changes := s.changes.map (DeviceChange.settle dir r) }         (spec_project_of_succeeds)
-/

namespace PodPlacement

/-- A change with the file of its disk in another place. -/
def DeviceChange.withFile (path : Text) (c : DeviceChange) : DeviceChange :=
  { c with device := c.device.withFile path }

theorem DeviceChange.withFile_withFile (path other : Text) (c : DeviceChange) :
    (c.withFile other).withFile path = c.withFile path := by
  obtain ⟨operation, fileOperation, device⟩ := c
  cases device <;> rfl

/-- The key of the disk that a change is about, if it is about one. -/
def DeviceChange.diskKey? (c : DeviceChange) : Option Int := c.device.disk?.map Disk.key

theorem DeviceChange.diskKey?_eq_some_iff {c : DeviceChange} {d : Disk} (hd : c.device = .disk d)
    (key : Int) : c.diskKey? = some key ↔ key = d.key := by
  unfold diskKey?
  rw [hd]
  exact ⟨fun h => (Option.some.inj h).symm, fun h => congrArg some h.symm⟩

namespace ConfigSpec

variable (dir : DatastoreDirectory)

/-! ## The parts of a spec after some steps -/

theorem files_carry (steps : List Step) (s : ConfigSpec) :
    (carry dir write steps s).files =
      (steps.filterMap Step.filesTo?).getLast?.elim s.files fun ref =>
        some ⟨some (dir.pathAt ref.value)⟩ := by
  refine carry_lastSet dir write ConfigSpec.files Step.filesTo?
    (fun ref _ => some ⟨some (dir.pathAt ref.value)⟩) ?_ ?_ steps s
  · intro step s
    cases step <;> rfl
  · intro _ _ _
    rfl

theorem changes_write (step : Step) (path : Text) (s : ConfigSpec) :
    (write step path s).changes =
      step.modifyAt (fun _ => DeviceChange.withFile) path s.changes := by
  cases step <;> rfl

theorem frame_carry (steps : List Step) (s : ConfigSpec) :
    carry dir write steps s =
      { s with
        files := (carry dir write steps s).files
        changes := (carry dir write steps s).changes } := by
  induction steps generalizing s with
  | nil => rfl
  | cons step steps ih =>
    have hrest := ih (write step (step.pathIn dir) s)
    cases step with
    | files | location | skip | disk => exact hrest

/-! ## The steps of a plan -/

theorem plan_eq_gather (s : ConfigSpec) (r : Recommendation) :
    s.plan r = r.gather (fun p => [.files p.datastore]) s.stepsFor := rfl

/-- The steps for a placement send disks of its key where it leads, each from where it stands. -/
theorem exists_change_of_mem_stepsFor (s : ConfigSpec) (p : DiskPlacement) :
    ∀ step ∈ s.stepsFor p, ∃ position c d, s.changes[position]? = some c ∧
      c.device.disk? = some d ∧ step = .disk position d p.datastore := by
  intro step hstep
  unfold stepsFor at hstep
  obtain ⟨⟨c, position⟩, hc, hs⟩ := List.mem_filterMap.1 hstep
  simp only at hs
  split at hs
  · next d hd =>
    obtain ⟨-, hs⟩ := Option.ite_none_right_eq_some.1 hs
    exact ⟨position, c, d, List.mem_zipIdx_iff_getElem?.1 hc, hd, (Option.some.inj hs).symm⟩
  · cases hs

theorem exists_disk_of_mem_stepsFor (s : ConfigSpec) (p : DiskPlacement) :
    ∀ step ∈ s.stepsFor p, ∃ position d, step = .disk position d p.datastore := by
  intro step hstep
  obtain ⟨position, -, d, -, -, h⟩ := s.exists_change_of_mem_stepsFor p step hstep
  exact ⟨position, d, h⟩

theorem sends_stepsFor (s : ConfigSpec) (p : DiskPlacement) :
    ∀ step ∈ s.stepsFor p, step.Sends p.datastore := by
  intro step hstep
  obtain ⟨position, d, rfl⟩ := s.exists_disk_of_mem_stepsFor p step hstep
  exact .disk position d

/-- A placement writes at the positions where disks of its key are. -/
theorem sentTo?_stepsFor (s : ConfigSpec) (n : Nat) (p : DiskPlacement) :
    (s.stepsFor p).filterMap (Step.sentTo? n) =
      (s.changes[n]?.bind fun c =>
        if c.diskKey? = some p.diskId then some p.datastore else none).toList := by
  unfold stepsFor
  rw [List.filterMap_filterMap, ← filterMap_zipIdx_at _ s.changes n 0]
  congr 1
  funext ⟨c, position⟩
  rw [Nat.zero_add]
  unfold DeviceChange.diskKey?
  dsimp only
  cases c.device.disk? with
  | none => simp
  | some d =>
    by_cases hk : d.key = p.diskId
    · simp [hk, Step.sentTo?]
    · simp [hk]

/-- What a plan writes last at a position is where the last placement of the disk that is there
sends it. -/
theorem lastSent?_plan {s : ConfigSpec} {n : Nat} {c : DeviceChange} (hc : s.changes[n]? = some c)
    (r : Recommendation) :
    lastSent? n (s.plan r) =
      (r.lastPlacement? fun p => c.diskKey? = some p.diskId).map DiskPlacement.datastore := by
  rw [plan_eq_gather]
  refine lastSent?_gather n r _ _ _ (fun _ => rfl) fun p => ?_
  unfold lastSent?
  rw [sentTo?_stepsFor, hc, Option.bind_some]
  by_cases hk : c.diskKey? = some p.diskId
  · rw [if_pos hk]
    rfl
  · rw [if_neg hk]
    rfl

theorem filesTo?_plan (s : ConfigSpec) (r : Recommendation) :
    ((s.plan r).filterMap Step.filesTo?).getLast? = r.machineDestination? := by
  rw [plan_eq_gather]
  refine getLast?_filterMap_gather r _ _ _ (fun _ => rfl) fun p => ?_
  rw [List.filterMap_eq_nil_iff]
  intro step hstep
  cases s.sends_stepsFor p step hstep <;> rfl

end ConfigSpec

/-! ## What a success leaves -/

/-- Where the files of a machine are after a recommendation. -/
def settledFiles (dir : DatastoreDirectory) (r : Recommendation) (files : Option MachineFiles) :
    Option MachineFiles :=
  r.machineDestination?.elim files fun ref => some ⟨some (dir.pathAt ref.value)⟩

/-- What a recommendation makes of a device. -/
def Device.settle (dir : DatastoreDirectory) (r : Recommendation) : Device → Device
  | .disk d =>
    (r.lastPlacement? fun p => p.diskId = d.key).elim (.disk d) fun p =>
      (Device.disk d).withFile (dir.pathAt p.datastore.value)
  | device => device

def DeviceChange.settle (dir : DatastoreDirectory) (r : Recommendation) (c : DeviceChange) :
    DeviceChange :=
  { c with device := c.device.settle dir r }

theorem Device.settle_disk (dir : DatastoreDirectory) (r : Recommendation) (d : Disk) :
    (Device.disk d).settle dir r = (r.lastPlacement? fun p => p.diskId = d.key).elim (.disk d)
      fun p => (Device.disk d).withFile (dir.pathAt p.datastore.value) := rfl

/-- A change is settled by the last placement of its disk, if it is about one. -/
theorem DeviceChange.settle_eq (dir : DatastoreDirectory) (r : Recommendation)
    (c : DeviceChange) :
    c.settle dir r = (r.lastPlacement? fun p => c.diskKey? = some p.diskId).elim c fun p =>
      c.withFile (dir.pathAt p.datastore.value) := by
  unfold settle
  cases hd : c.device with
  | disk d =>
    rw [Device.settle_disk, Recommendation.lastPlacement?_congr fun p =>
      diskKey?_eq_some_iff hd p.diskId]
    cases r.lastPlacement? fun p => p.diskId = d.key with
    | none => exact congrArg (fun device => { c with device := device }) hd.symm
    | some p =>
      show _ = { c with device := c.device.withFile _ }
      rw [hd]
      rfl
  | controller d | other d =>
    have hnone : (r.lastPlacement? fun p => c.diskKey? = some p.diskId) = none := by
      rw [Recommendation.lastPlacement?_eq_none_iff]
      intro p _ hk
      unfold diskKey? at hk
      rw [hd] at hk
      cases hk
    rw [hnone]
    exact congrArg (fun device => { c with device := device }) hd.symm

namespace ConfigSpec

variable {dir : DatastoreDirectory} {r : Recommendation} {s : ConfigSpec}

theorem spec_project_of_succeeds (h : (s.project dir r).failure = none) :
    (s.project dir r).spec =
      { s with
        files := settledFiles dir r s.files
        changes := s.changes.map (DeviceChange.settle dir r) } := by
  have hspec : (s.project dir r).spec = carry dir write (s.plan r) s :=
    spec_run_of_succeeds dir write h
  have hfiles : (carry dir write (s.plan r) s).files = settledFiles dir r s.files := by
    rw [files_carry, filesTo?_plan]
    rfl
  have hchanges : (carry dir write (s.plan r) s).changes =
      s.changes.map (DeviceChange.settle dir r) := by
    rw [funext (DeviceChange.settle_eq dir r)]
    exact carry_eq_map dir write ConfigSpec.changes (fun _ => DeviceChange.withFile) changes_write
      (fun _ _ => DeviceChange.withFile_withFile) (fun c p => c.diskKey? = some p.diskId)
      fun _ _ hc => lastSent?_plan hc r
  rw [hspec, frame_carry dir (s.plan r) s, hfiles, hchanges]

theorem found_of_lastPlacement? (h : (s.project dir r).failure = none) {c : DeviceChange}
    (hc : c ∈ s.changes) {d : Disk} (hd : c.device = .disk d) {p : DiskPlacement}
    (hp : (r.lastPlacement? fun p => p.diskId = d.key) = some p) :
    ∃ d, dir p.datastore.value = .ok d := by
  obtain ⟨n, hn⟩ := List.mem_iff_getElem?.1 hc
  have hlast : lastSent? n (s.plan r) = some p.datastore := by
    rw [lastSent?_plan hn, Recommendation.lastPlacement?_congr fun p =>
      DeviceChange.diskKey?_eq_some_iff hd p.diskId, hp]
    rfl
  exact found_of_getLast?_filterMap h (fun _ _ => Step.lookup?_of_sentTo?) hlast

theorem found_of_machineDestination? (h : (s.project dir r).failure = none) {ref : Reference}
    (hr : r.machineDestination? = some ref) : ∃ d, dir ref.value = .ok d := by
  rw [← filesTo?_plan s r] at hr
  exact found_of_getLast?_filterMap h (fun _ _ => Step.lookup?_of_filesTo?) hr

end ConfigSpec

/-! ## The last placement wins -/

/-- What becomes of a device: a disk whose key is placed has its file on the datastore of the
last placement of that key, and any other device stays as it is. -/
inductive Device.Settles (dir : DatastoreDirectory) (r : Recommendation) :
    Device → Device → Prop
  | placed {d : Disk} {p : DiskPlacement} {path : Text}
      (hlast : (r.lastPlacement? fun p => p.diskId = d.key) = some p)
      (hpath : dir.IsPath p.datastore path) :
      Settles dir r (.disk d) (.disk { d with backing := { d.backing with fileName := path } })
  | unplaced {d : Disk} (hnone : (r.lastPlacement? fun p => p.diskId = d.key) = none) :
      Settles dir r (.disk d) (.disk d)
  | controller (c : Controller) : Settles dir r (.controller c) (.controller c)
  | other (d : OtherDevice) : Settles dir r (.other d) (.other d)

/-- What becomes of the files of a machine: they are on the datastore of the last placement of
the machine, or where they were if there is none. -/
inductive MachineFiles.Settles (dir : DatastoreDirectory) (r : Recommendation) :
    Option MachineFiles → Option MachineFiles → Prop
  | placed {files : Option MachineFiles} {ref : Reference} {path : Text}
      (hlast : r.machineDestination? = some ref) (hpath : dir.IsPath ref path) :
      Settles dir r files (some ⟨some path⟩)
  | unplaced {files : Option MachineFiles} (hnone : r.machineDestination? = none) :
      Settles dir r files files

namespace ConfigSpec

variable {dir : DatastoreDirectory} {r : Recommendation} {s : ConfigSpec}

theorem settles_files (h : (s.project dir r).failure = none) :
    MachineFiles.Settles dir r s.files (settledFiles dir r s.files) := by
  unfold settledFiles
  cases hr : r.machineDestination? with
  | none => exact .unplaced hr
  | some ref =>
    exact .placed hr (DatastoreDirectory.isPath_pathAt (found_of_machineDestination? h hr))

theorem settles_change (h : (s.project dir r).failure = none) {c : DeviceChange}
    (hc : c ∈ s.changes) : c.device.Settles dir r (c.device.settle dir r) := by
  cases hd : c.device with
  | disk d =>
    rw [Device.settle_disk]
    cases hp : r.lastPlacement? fun p => p.diskId = d.key with
    | none => exact .unplaced hp
    | some p =>
      exact .placed hp (DatastoreDirectory.isPath_pathAt (found_of_lastPlacement? h hc hd hp))
  | controller d => exact .controller d
  | other d => exact .other d

theorem changes_project_of_succeeds (h : (s.project dir r).failure = none) :
    (s.project dir r).spec.changes = s.changes.map (DeviceChange.settle dir r) := by
  rw [spec_project_of_succeeds h]

/-- After a success the changes are those of before, one for one, with their devices settled. -/
theorem forall₂_changes (h : (s.project dir r).failure = none) :
    List.Forall₂ (fun c c' => c'.operation = c.operation ∧ c'.fileOperation = c.fileOperation ∧
      c.device.Settles dir r c'.device) s.changes (s.project dir r).spec.changes := by
  rw [changes_project_of_succeeds h, List.forall₂_map_right_iff, List.forall₂_same]
  exact fun c hc => ⟨rfl, rfl, settles_change h hc⟩

/-- **The last placement wins.**  After a success each disk among the changes is where the last
placement of its key sends it, the files of the machine are where the last placement of the
machine sends them, and nothing else has changed. -/
theorem settles_of_succeeds (h : (s.project dir r).failure = none) :
    let after := (s.project dir r).spec
    MachineFiles.Settles dir r s.files after.files ∧
    List.Forall₂ (fun c c' => c'.operation = c.operation ∧ c'.fileOperation = c.fileOperation ∧
      c.device.Settles dir r c'.device) s.changes after.changes ∧
    after.name = s.name ∧ after.cpus = s.cpus ∧ after.memoryMb = s.memoryMb := by
  intro after
  have hchanges := forall₂_changes h
  rw [spec_project_of_succeeds h] at hchanges
  have hafter : after = _ := spec_project_of_succeeds h
  rw [hafter]
  exact ⟨settles_files h, hchanges, rfl, rfl, rfl⟩

def twoDatastores : DatastoreDirectory :=
  (Inventory.mk [] [⟨⟨"ds-1", "fast"⟩, none⟩, ⟨⟨"ds-2", "slow"⟩, none⟩]).datastoreDirectory

/-- Two changes to disks of one key, among changes to devices of other kinds and of the same
keys. -/
def crowded : ConfigSpec :=
  ⟨some "vm", none, none, some ⟨some "[old]"⟩,
    [⟨some .add, some .create, .disk ⟨7, some 1, some 0, none, 0, Backing.unspecified⟩⟩,
     ⟨some .edit, none, .controller ⟨7, 0, none, none, none⟩⟩,
     ⟨none, none, .disk ⟨7, none, none, none, 0, Backing.unspecified⟩⟩,
     ⟨some .remove, none, .disk ⟨8, some 1, some 1, none, 0, Backing.unspecified⟩⟩,
     ⟨none, none, .other ⟨8, none, none, none⟩⟩,
     ⟨some .add, some .create, .disk ⟨9, some 1, some 2, none, 0, Backing.unspecified⟩⟩]⟩

/-- The machine and one of its disks are placed twice, and a disk that is not there once. -/
def replacing : Recommendation :=
  ⟨"1",
    [.machine ⟨.datastore "ds-1"⟩,
     .disks ⟨⟨7, .datastore "ds-1"⟩, [⟨8, .datastore "ds-1"⟩]⟩,
     .machine ⟨.datastore "ds-2"⟩,
     .disks ⟨⟨7, .datastore "ds-2"⟩, [⟨6, .datastore "gone"⟩]⟩]⟩

theorem crowded_settles :
    (crowded.project twoDatastores replacing).failure = none ∧
    (let after := (crowded.project twoDatastores replacing).spec
     MachineFiles.Settles twoDatastores replacing crowded.files after.files ∧
     List.Forall₂ (fun c c' => c'.operation = c.operation ∧
       c'.fileOperation = c.fileOperation ∧
       c.device.Settles twoDatastores replacing c'.device) crowded.changes after.changes ∧
     after.name = crowded.name ∧ after.cpus = crowded.cpus ∧
     after.memoryMb = crowded.memoryMb) :=
  ⟨by decide, settles_of_succeeds (by decide)⟩

end ConfigSpec

end PodPlacement
