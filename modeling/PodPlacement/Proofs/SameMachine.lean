import PodPlacement.Proofs.Interruption

/-!
# One machine, created and copied

To create a machine its disks are found by their keys; to copy it they are found by their place
in two orders of slots.  Where both orders are of one machine, a locator is hit by the placements
of its key, if the machine has a disk of that key.  So a recommendation that is carried out
successfully on the changes of the machine is carried out successfully on a copy of it, and takes
each disk and its locators to the same place.

    p.Hits disks disks l ↔ p.diskId = l.diskId ∧ l.diskId ∈ disks.map Disk.key  (hits_self_iff)
    the same keys → id ∈ t.attempts disks disks p → id ∈ s.attempts p         (mem_attempts)
    (s.project dir r).failure = none →
      (t.project dir bound devices devices r).failure = none            (succeeds_of_config)
-/

namespace PodPlacement

/-! ## One order of slots -/

/-- In one order of slots a placement hits the locators of its own key. -/
theorem DiskPlacement.hits_self_iff {disks : List Disk} {p : DiskPlacement} {l : DiskLocator} :
    p.Hits disks disks l ↔ p.diskId = l.diskId ∧ l.diskId ∈ disks.map Disk.key := by
  constructor
  · rintro ⟨i, source, final, hsource, hfinal, hp, hl⟩
    obtain rfl := Option.some.inj (hsource.symm.trans hfinal)
    exact ⟨hp.symm.trans hl, List.mem_map.2 ⟨source, List.mem_of_getElem? hsource, hl⟩⟩
  · rintro ⟨hp, hl⟩
    obtain ⟨d, hd, hkey⟩ := List.mem_map.1 hl
    obtain ⟨i, hi⟩ := List.mem_iff_getElem?.1 hd
    exact ⟨i, d, d, hi, hi, hkey.trans hp.symm, hkey⟩

def ConfigSpec.diskKeys (s : ConfigSpec) : List Int := s.changes.filterMap DeviceChange.diskKey?

theorem ConfigSpec.mem_diskKeys {s : ConfigSpec} {c : DeviceChange} (hc : c ∈ s.changes) {d : Disk}
    (hd : c.device = .disk d) : d.key ∈ s.diskKeys :=
  List.mem_filterMap.2 ⟨c, hc, (DeviceChange.diskKey?_eq_some_iff hd d.key).2 rfl⟩

theorem ConfigSpec.mem_attempts_disk {s : ConfigSpec} {p : DiskPlacement}
    (h : p.diskId ∈ s.diskKeys) : p.datastore.value ∈ s.attempts (.disk p) := by
  obtain ⟨c, hc, hkey⟩ := List.mem_filterMap.1 h
  obtain ⟨d, hd, hid⟩ := Option.map_eq_some_iff.1 hkey
  refine List.mem_map.2 ⟨d, List.mem_filter.2 ⟨?_, decide_eq_true hid⟩, rfl⟩
  exact List.mem_filterMap.2 ⟨c, hc, hd⟩

section

variable {dir : DatastoreDirectory} {bound : Int} {devices : List Device} {r : Recommendation}
  {s : ConfigSpec} {t : CloneSpec}

/-- What is looked up to copy a machine is looked up to create it. -/
theorem CloneSpec.mem_attempts (hkeys : ∀ key ∈ (slotOrder bound devices).map Disk.key,
    key ∈ s.diskKeys) {p : Placement} {id : Text}
    (h : id ∈ t.attempts (slotOrder bound devices) (slotOrder bound devices) p) :
    id ∈ s.attempts p := by
  cases p with
  | machine p => cases h
  | disk p =>
    obtain ⟨source, hsource, rfl⟩ := List.mem_map.1 h
    obtain ⟨⟨source', final⟩, hzip, hfinal⟩ := List.mem_flatMap.1 hsource
    obtain ⟨hid, -⟩ := List.mem_ite_nil_right.1 hfinal
    refine ConfigSpec.mem_attempts_disk (hkeys p.diskId ?_)
    exact List.mem_map.2 ⟨final, (List.of_mem_zip hzip).2, hid⟩

/-- What can be done to create a machine can be done to copy it. -/
theorem CloneSpec.succeeds_of_config (hkeys : ∀ key ∈ (slotOrder bound devices).map Disk.key,
    key ∈ s.diskKeys) (h : (s.project dir r).failure = none) :
    (t.project dir bound devices devices r).failure = none := by
  have hfound := (s.ends_project dir r).failure_eq_none_iff.1 h
  refine (t.ends_project dir bound devices devices r).failure_eq_none_iff.2 fun id hid => ?_
  obtain ⟨p, hp, hid⟩ := List.mem_flatMap.1 hid
  exact hfound id (List.mem_flatMap.2 ⟨p, hp, mem_attempts hkeys hid⟩)

/-- A locator of a disk that the machine has is settled by the last placement of its key. -/
theorem DiskLocator.settle_self {l : DiskLocator}
    (hl : l.diskId ∈ (slotOrder bound devices).map Disk.key) :
    l.settle dir r (slotOrder bound devices) (slotOrder bound devices) =
      (r.lastPlacement? fun p => p.diskId = l.diskId).elim l fun p =>
        l.sendTo p.datastore (dir.pathAt p.datastore.value) := by
  unfold settle
  rw [Recommendation.lastPlacement?_congr (Q := fun p => p.diskId = l.diskId) fun p =>
    DiskPlacement.hits_self_iff.trans (and_iff_left hl)]

end

/-! ## The same places -/

/-- What becomes of a disk and of a locator for it: both stay as they are if no placement names
the disk, and else the file of both is on the datastore of the last placement that does. -/
inductive MoveTogether (dir : DatastoreDirectory) (r : Recommendation) :
    Disk → DiskLocator → Disk → DiskLocator → Prop
  | unplaced {d : Disk} {l : DiskLocator} (hnone : ∀ p ∈ r.diskPlacements, p.diskId ≠ d.key) :
      MoveTogether dir r d l d l
  | placed {d : Disk} {l : DiskLocator} {p : DiskPlacement} {path : Text}
      (hlast : (r.lastPlacement? fun p => p.diskId = d.key) = some p)
      (hpath : dir.IsPath p.datastore path) :
      MoveTogether dir r d l
        { d with backing := { d.backing with fileName := path } }
        { l with
          datastore := some p.datastore
          backing := { l.backing with fileName := path, datastore := some p.datastore } }

section

variable {dir : DatastoreDirectory} {bound : Int} {devices : List Device} {r : Recommendation}
  {s : ConfigSpec} {t : CloneSpec}

theorem moveTogether_settle (h : (s.project dir r).failure = none) {c : DeviceChange}
    (hc : c ∈ s.changes) {d : Disk} (hd : c.device = .disk d) {l : DiskLocator}
    (hl : l.diskId = d.key) (hkey : d.key ∈ (slotOrder bound devices).map Disk.key) :
    ∃ d', c.settle dir r = { c with device := .disk d' } ∧
      MoveTogether dir r d l d'
        (l.settle dir r (slotOrder bound devices) (slotOrder bound devices)) := by
  unfold DeviceChange.settle
  rw [DiskLocator.settle_self (hl ▸ hkey), hd, Device.settle_disk, hl]
  cases hp : r.lastPlacement? fun p => p.diskId = d.key with
  | none => exact ⟨d, rfl, .unplaced (Recommendation.lastPlacement?_eq_none_iff.1 hp)⟩
  | some p =>
    have hfound := ConfigSpec.found_of_lastPlacement? h hc hd hp
    exact ⟨_, rfl, .placed hp (DatastoreDirectory.isPath_pathAt hfound)⟩

/-- **To create and to copy agree.**  If the disks among the changes of a configuration spec have
the keys that the disks of a machine have, a recommendation that is carried out successfully on
that spec is carried out successfully on every copy of the machine onto itself.  A disk and a
locator for it then have their files in the same place, or are both as they were if no placement
names the disk; and if the machine is placed, its files are on the datastore that the copy goes
to. -/
theorem create_and_copy_agree
    (hkeys : ∀ key, key ∈ s.diskKeys ↔ key ∈ (slotOrder bound devices).map Disk.key)
    (h : (s.project dir r).failure = none) :
    (t.project dir bound devices devices r).failure = none ∧
    (∀ (i j : Nat) (c : DeviceChange) (d : Disk) (l : DiskLocator), s.changes[i]? = some c →
      c.device = .disk d → t.location.disks[j]? = some l → l.diskId = d.key →
      ∃ d' l', (s.project dir r).spec.changes[i]? = some { c with device := .disk d' } ∧
        (t.project dir bound devices devices r).spec.location.disks[j]? = some l' ∧
        MoveTogether dir r d l d' l') ∧
    (r.machinePlacements ≠ [] → ∃ ref path,
      (t.project dir bound devices devices r).spec.location.datastore = some ref ∧
      dir.IsPath ref path ∧ (s.project dir r).spec.files = some ⟨some path⟩) := by
  have hclone : (t.project dir bound devices devices r).failure = none :=
    CloneSpec.succeeds_of_config (fun key => (hkeys key).2) h
  refine ⟨hclone, ?_, ?_⟩
  · intro i j c d l hc hd hl hid
    have hmem : c ∈ s.changes := List.mem_of_getElem? hc
    obtain ⟨d', hd', hmove⟩ := moveTogether_settle h hmem hd hid
      ((hkeys d.key).1 (ConfigSpec.mem_diskKeys hmem hd))
    refine ⟨d', _, ?_, ?_, hmove⟩
    · rw [ConfigSpec.spec_project_of_succeeds h, ← hd', List.getElem?_map, hc, Option.map_some]
    · rw [CloneSpec.spec_project_of_succeeds hclone, List.getElem?_map, hl, Option.map_some]
  · intro hmachine
    obtain ⟨p, hp⟩ := Option.ne_none_iff_exists'.1 (mt List.getLast?_eq_none_iff.1 hmachine)
    have hdestination : r.machineDestination? = some p.datastore := congrArg (Option.map _) hp
    have hfound := ConfigSpec.found_of_machineDestination? h hdestination
    refine ⟨p.datastore, _, ?_, DatastoreDirectory.isPath_pathAt hfound, ?_⟩
    · rw [CloneSpec.spec_project_of_succeeds hclone, hdestination]
      rfl
    · rw [ConfigSpec.spec_project_of_succeeds h]
      unfold settledFiles
      rw [hdestination]
      rfl

end

/-- A machine with the keys of a crowded spec, two of its disks with one key, and with a disk that
is on no bus. -/
def crowdedMachine : List Device :=
  [.disk ⟨9, some 1, some 2, none, 0, Backing.unspecified⟩,
   .controller ⟨1, 0, none, none, none⟩,
   .disk ⟨7, some 1, some 3, none, 0, Backing.unspecified⟩,
   .disk ⟨5, none, none, none, 0, Backing.unspecified⟩,
   .disk ⟨8, some 1, some 1, none, 0, Backing.unspecified⟩,
   .disk ⟨7, some 1, some 0, none, 0, Backing.unspecified⟩]

/-- A copy of it, with two locators for one key, and one for the disk that is on no bus. -/
def crowdedCopy : CloneSpec :=
  ⟨⟨none, none,
    [⟨8, none, Backing.unspecified⟩, ⟨7, none, Backing.unspecified⟩,
     ⟨5, none, Backing.unspecified⟩, ⟨9, none, Backing.unspecified⟩,
     ⟨7, some (.datastore "old"), Backing.unspecified⟩]⟩,
    true, false⟩

theorem crowded_agrees :
    (∀ key, key ∈ ConfigSpec.crowded.diskKeys ↔
      key ∈ (slotOrder 4 crowdedMachine).map Disk.key) ∧
    (ConfigSpec.crowded.project ConfigSpec.twoDatastores ConfigSpec.replacing).failure = none ∧
    (crowdedCopy.project ConfigSpec.twoDatastores 4 crowdedMachine crowdedMachine
      ConfigSpec.replacing).failure = none ∧
    (∀ (i j : Nat) (c : DeviceChange) (d : Disk) (l : DiskLocator),
      ConfigSpec.crowded.changes[i]? = some c → c.device = .disk d →
      crowdedCopy.location.disks[j]? = some l → l.diskId = d.key →
      ∃ d' l', (ConfigSpec.crowded.project ConfigSpec.twoDatastores
          ConfigSpec.replacing).spec.changes[i]? = some { c with device := .disk d' } ∧
        (crowdedCopy.project ConfigSpec.twoDatastores 4 crowdedMachine crowdedMachine
          ConfigSpec.replacing).spec.location.disks[j]? = some l' ∧
        MoveTogether ConfigSpec.twoDatastores ConfigSpec.replacing d l d' l') ∧
    (ConfigSpec.replacing.machinePlacements ≠ [] → ∃ ref path,
      (crowdedCopy.project ConfigSpec.twoDatastores 4 crowdedMachine crowdedMachine
        ConfigSpec.replacing).spec.location.datastore = some ref ∧
      ConfigSpec.twoDatastores.IsPath ref path ∧
      (ConfigSpec.crowded.project ConfigSpec.twoDatastores ConfigSpec.replacing).spec.files =
        some ⟨some path⟩) := by
  have hkeys : ∀ key, key ∈ ConfigSpec.crowded.diskKeys ↔
      key ∈ (slotOrder 4 crowdedMachine).map Disk.key := by
    intro key
    have hchanges : ConfigSpec.crowded.diskKeys = [7, 7, 8, 9] := by decide
    have hslots : (slotOrder 4 crowdedMachine).map Disk.key = [7, 8, 9, 7] := by decide
    rw [hchanges, hslots]
    simp only [List.mem_cons, List.not_mem_nil, or_false]
    omega
  have hsuccess : (ConfigSpec.crowded.project ConfigSpec.twoDatastores
      ConfigSpec.replacing).failure = none := by decide
  exact ⟨hkeys, hsuccess, create_and_copy_agree hkeys hsuccess⟩

end PodPlacement
