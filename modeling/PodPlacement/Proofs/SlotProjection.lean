import PodPlacement.Proofs.CloneProjection
import PodPlacement.Proofs.Slot

/-!
# A projected clone spec, slot by slot

A copy is placed as a final configuration, whose disks have keys of their own choice; what
they have in common with the disks of the source is the slots.  Where the slots of the source
are the first of the final configuration, positions and slots come to the same: a placement
hits a locator if the disk that it places sits in the slot of the disk that the locator is
for.

    p.Hits (slotOrder bound source) (slotOrder bound final) l ↔
      ∃ slot d e, d.SitsIn bound source slot ∧ e.SitsIn bound final slot ∧
        d.key = l.diskId ∧ e.key = p.diskId                                   (hits_iff_sitsIn)
-/

namespace PodPlacement

/-! ## Positions and slots -/

/-- Whether a machine grows from the one configuration to the other: in both each disk has a
slot of its own, and the slots of the one are the first of the other. -/
structure GrowsTo (bound : Int) (source final : List Device) : Prop where
  sourceSlotted : IsSlotted bound source
  finalSlotted : IsSlotted bound final
  initial : IsInitialSegment (occupiedSlots bound source) (occupiedSlots bound final)

namespace GrowsTo

variable {bound : Int} {source final : List Device} (h : GrowsTo bound source final)

include h

/-- Disks that stand at one position sit in one slot, and the other way round. -/
theorem same_position_iff {d e : Disk} :
    (∃ i : Nat, (slotOrder bound source)[i]? = some d ∧ (slotOrder bound final)[i]? = some e) ↔
      ∃ slot, d.SitsIn bound source slot ∧ e.SitsIn bound final slot := by
  obtain ⟨rest, hrest⟩ := isPrefix_slotsInOrder h.sourceSlotted h.finalSlotted h.initial
  have hprefix : ∀ {i : Nat} {slot : Slot}, (slotsInOrder bound source)[i]? = some slot →
      (slotsInOrder bound final)[i]? = some slot := by
    intro i slot hslot
    rw [← hrest, List.getElem?_append_left (List.getElem?_eq_some_iff.1 hslot).1]
    exact hslot
  constructor
  · rintro ⟨i, hd, he⟩
    obtain ⟨slot, hslot⟩ := h.sourceSlotted.isSome_slotOf? (List.mem_of_getElem? hd)
    have hi : (slotsInOrder bound source)[i]? = some slot := by
      rw [h.sourceSlotted.getElem?_slotsInOrder, hd]
      exact hslot
    exact ⟨slot, h.sourceSlotted.sitsIn_iff.2 ⟨i, hd, hi⟩,
      h.finalSlotted.sitsIn_iff.2 ⟨i, he, hprefix hi⟩⟩
  · rintro ⟨slot, hd, he⟩
    obtain ⟨i, hi, hslot⟩ := h.sourceSlotted.sitsIn_iff.1 hd
    have hfinal := hprefix hslot
    rw [h.finalSlotted.getElem?_slotsInOrder] at hfinal
    obtain ⟨e', he', hslot'⟩ := Option.bind_eq_some_iff.1 hfinal
    have hmem := h.finalSlotted.mem_slotOrder.1 (List.mem_of_getElem? he')
    have hee : e' = e := h.finalSlotted.eq_of_sitsIn ⟨hmem, hslot'⟩ he
    exact ⟨i, hi, hee ▸ he'⟩

/-- A placement hits a locator if the disks of both sit in one slot. -/
theorem hits_iff_sitsIn {p : DiskPlacement} {l : DiskLocator} :
    p.Hits (slotOrder bound source) (slotOrder bound final) l ↔
      ∃ (slot : Slot) (d e : Disk), d.SitsIn bound source slot ∧ e.SitsIn bound final slot ∧
        d.key = l.diskId ∧ e.key = p.diskId := by
  constructor
  · rintro ⟨i, d, e, hd, he, hp, hl⟩
    obtain ⟨slot, hds, hes⟩ := h.same_position_iff.1 ⟨i, hd, he⟩
    exact ⟨slot, d, e, hds, hes, hl, hp⟩
  · rintro ⟨slot, d, e, hds, hes, hl, hp⟩
    obtain ⟨i, hd, he⟩ := h.same_position_iff.2 ⟨slot, hds, hes⟩
    exact ⟨i, d, e, hd, he, hp, hl⟩

/-- The placements that hit the locator of a disk of the source are those of the final disk in
the same slot. -/
theorem hits_iff_diskId_eq {p : DiskPlacement} {l : DiskLocator} {slot : Slot} {d e : Disk}
    (hd : d.SitsIn bound source slot) (hl : d.key = l.diskId)
    (he : e.SitsIn bound final slot) :
    p.Hits (slotOrder bound source) (slotOrder bound final) l ↔ p.diskId = e.key := by
  rw [h.hits_iff_sitsIn]
  constructor
  · rintro ⟨slot', d', e', hd', he', hl', hp⟩
    have hdd : d' = d := h.sourceSlotted.eq_of_key_eq hd' hd (hl'.trans hl.symm)
    rw [hdd] at hd'
    have hslot : slot' = slot := Option.some.inj (hd'.2.symm.trans hd.2)
    rw [hslot] at he'
    have hee : e' = e := h.finalSlotted.eq_of_sitsIn he' he
    rw [← hp, hee]
  · intro hp
    exact ⟨slot, d, e, hd, he, hl, hp.symm⟩

end GrowsTo

/-! ## The last placement of a slot wins -/

/-- What becomes of the locator of a disk in a slot: it is sent, with the file behind its
disk, to the datastore of the last placement of the disk that is in this slot in the end, or
it stays as it is if there is none. -/
structure DiskLocator.FollowsSlot (dir : DatastoreDirectory) (r : Recommendation) (bound : Int)
    (source final : List Device) (l after : DiskLocator) : Prop where
  placed : ∀ (slot : Slot) (d e : Disk) (p : DiskPlacement), d.SitsIn bound source slot →
    d.key = l.diskId → e.SitsIn bound final slot →
    (r.lastPlacement? fun p => p.diskId = e.key) = some p →
    ∃ path, dir.IsPath p.datastore path ∧
      after =
        { l with
          datastore := some p.datastore
          backing := { l.backing with fileName := path, datastore := some p.datastore } }
  unplaced : (∀ (slot : Slot) (d e : Disk), d.SitsIn bound source slot → d.key = l.diskId →
    e.SitsIn bound final slot → ∀ p ∈ r.diskPlacements, p.diskId ≠ e.key) → after = l

namespace CloneSpec

variable {dir : DatastoreDirectory} {bound : Int} {source final : List Device}
  {r : Recommendation} {s : CloneSpec}

theorem followsSlot_settle (hgrows : GrowsTo bound source final)
    (h : (s.project dir bound source final r).failure = none)
    {l : DiskLocator} (hl : l ∈ s.location.disks) :
    l.FollowsSlot dir r bound source final
      (l.settle dir r (slotOrder bound source) (slotOrder bound final)) := by
  unfold DiskLocator.settle
  constructor
  · intro slot d e p hd hkey he hp
    have hlast : (r.lastPlacement? fun p =>
        p.Hits (slotOrder bound source) (slotOrder bound final) l) = some p := by
      rw [Recommendation.lastPlacement?_congr fun _ => hgrows.hits_iff_diskId_eq hd hkey he]
      exact hp
    rw [hlast]
    exact ⟨_, DatastoreDirectory.isPath_pathAt (found_of_lastPlacement? h hl hlast), rfl⟩
  · intro hnone
    have hlast : (r.lastPlacement? fun p =>
        p.Hits (slotOrder bound source) (slotOrder bound final) l) = none := by
      rw [Recommendation.lastPlacement?_eq_none_iff]
      intro p hp hhits
      obtain ⟨slot, d, e, hd, he, hkey, hpe⟩ := hgrows.hits_iff_sitsIn.1 hhits
      exact hnone slot d e hd hkey he p hp hpe.symm
    rw [hlast]
    rfl

/-- **A disk is placed by its slot.**  After a success each locator is where the last placement
of the disk that sits in the slot of its own disk sends it, whatever the keys of the disks in
the final configuration and in whichever order the devices are listed. -/
theorem locators_follow_slots_of_succeeds (hgrows : GrowsTo bound source final)
    (h : (s.project dir bound source final r).failure = none) :
    List.Forall₂ (DiskLocator.FollowsSlot dir r bound source final) s.location.disks
      (s.project dir bound source final r).spec.location.disks := by
  rw [spec_project_of_succeeds h, List.forall₂_map_right_iff, List.forall₂_same]
  intro l hl
  exact followsSlot_settle hgrows h hl

/-- A machine with disks on two buses, and one that is out of range. -/
def rack : List Device :=
  [.disk ⟨70, some 5, some 0, none, 0, Backing.unspecified⟩,
   .controller ⟨5, 1, none, none, none⟩,
   .disk ⟨71, some 9, some 3, none, 0, Backing.unspecified⟩,
   .disk ⟨73, some 2, some 0, none, 0, Backing.unspecified⟩,
   .controller ⟨2, 7, none, none, none⟩,
   .disk ⟨72, some 9, some 0, none, 0, Backing.unspecified⟩,
   .controller ⟨9, 0, none, none, none⟩]

/-- The same slots, and two behind them; the keys go another way. -/
def grownRack : List Device :=
  [.controller ⟨1, 2, none, none, none⟩,
   .disk ⟨-1, some 1, some 4, none, 0, Backing.unspecified⟩,
   .disk ⟨-2, some 4, some 1, none, 0, Backing.unspecified⟩,
   .disk ⟨-3, some 4, some 0, none, 0, Backing.unspecified⟩,
   .disk ⟨-4, some 6, some 0, none, 0, Backing.unspecified⟩,
   .controller ⟨4, 1, none, none, none⟩,
   .disk ⟨-5, some 6, some 3, none, 0, Backing.unspecified⟩,
   .controller ⟨6, 0, none, none, none⟩]

/-- A copy of that machine, and of a disk that it does not have. -/
def rackCopy : CloneSpec :=
  ⟨⟨none, none,
    [⟨70, none, Backing.unspecified⟩, ⟨71, none, Backing.unspecified⟩,
     ⟨72, some (.datastore "old"), Backing.unspecified⟩, ⟨99, none, Backing.unspecified⟩]⟩,
    false, true⟩

/-- The disk of one slot is placed twice, and one is placed that is in no slot of the source. -/
def rackPlacements : Recommendation :=
  ⟨"1",
    [.disks ⟨⟨-5, .datastore "ds-1"⟩, [⟨-2, .datastore "gone"⟩]⟩,
     .disks ⟨⟨-3, .datastore "ds-2"⟩, [⟨-5, .datastore "ds-3"⟩]⟩]⟩

theorem rack_follows_slots :
    GrowsTo 4 rack grownRack ∧
    (rackCopy.project allButGone 4 rack grownRack rackPlacements).failure = none ∧
    List.Forall₂ (DiskLocator.FollowsSlot allButGone rackPlacements 4 rack grownRack)
      rackCopy.location.disks
      (rackCopy.project allButGone 4 rack grownRack rackPlacements).spec.location.disks := by
  have hgrows : GrowsTo 4 rack grownRack :=
    { sourceSlotted := ⟨by decide, by decide, by decide, by decide, by decide⟩
      finalSlotted := ⟨by decide, by decide, by decide, by decide, by decide⟩
      initial := by decide }
  exact ⟨hgrows, by decide, locators_follow_slots_of_succeeds hgrows (by decide)⟩

end CloneSpec

end PodPlacement
