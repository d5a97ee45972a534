import Mathlib.Data.List.Nodup
import PodPlacement.Proofs.Interruption

/-!
# Grouping and order of placements

One recommendation regroups another if it places the machine alike and has the same placements
of disks, in whatever order and in whatever actions.  Where no disk is placed twice, at most one
placement is for a disk among the changes and, if the disks of the source have keys of their own,
at most one hits a locator.  Then there is no last placement but the only one, and nothing of
order or grouping shows.

    r.Regroups r' → r.placements.Perm r'.placements                      (Regroups.placements)
    r.lastPlacement? P = r'.lastPlacement? P
      if r.Regroups r' and at most one placement has P             (Regroups.lastPlacement?_eq)
    p.Hits sources finals l → q.Hits sources finals l → p.diskId = q.diskId
      if the disks of the source have keys of their own             (Hits.diskId_eq)
-/

namespace PodPlacement

/-! ## Recommendations of the same placements -/

namespace Recommendation

/-- Whether a recommendation has the placements of another: those of the machine alike, and those
of disks in any order and in any actions. -/
structure Regroups (r r' : Recommendation) : Prop where
  machine : r.machinePlacements = r'.machinePlacements
  disks : r.diskPlacements.Perm r'.diskPlacements

/-- Whether no disk is placed twice. -/
def IsIndependent (r : Recommendation) : Prop :=
  (r.diskPlacements.map DiskPlacement.diskId).Nodup

instance (r : Recommendation) : Decidable r.IsIndependent :=
  inferInstanceAs (Decidable (List.Nodup _))

/-- The placements of a recommendation are those of the machine and those of disks. -/
theorem placements_perm (r : Recommendation) : r.placements.Perm
    (r.machinePlacements.map Placement.machine ++ r.diskPlacements.map Placement.disk) := by
  obtain ⟨key, actions⟩ := r
  induction actions with
  | nil => exact List.Perm.refl _
  | cons a actions ih =>
    cases a with
    | machine p => exact ih.cons (.machine p)
    | disks ps =>
      have hdisks : (Recommendation.mk key (.disks ps :: actions)).diskPlacements =
          ps.toList ++ (Recommendation.mk key actions).diskPlacements :=
        congrArg (· ++ _) (List.flatMap_singleton' ps.toList)
      have hfront : (Recommendation.mk key (.disks ps :: actions)).placements =
          ps.toList.map Placement.disk ++ (Recommendation.mk key actions).placements :=
        congrArg (· ++ _) List.map_eq_flatMap.symm
      have hmachine : (Recommendation.mk key (.disks ps :: actions)).machinePlacements =
          (Recommendation.mk key actions).machinePlacements :=
        congrArg (· ++ _) (List.flatMap_eq_nil_iff.2 fun _ _ => rfl)
      rw [hfront, hmachine, hdisks, List.map_append]
      exact (ih.append_left _).trans (List.perm_append_comm_assoc _ _ _)

section

variable {r r' : Recommendation} {P : DiskPlacement → Prop} [DecidablePred P]

theorem Regroups.placements (h : r.Regroups r') : r.placements.Perm r'.placements := by
  refine r.placements_perm.trans (List.Perm.trans ?_ r'.placements_perm.symm)
  rw [h.machine]
  exact (h.disks.map _).append_left _

/-- Placements of one disk are the same, if no disk is placed twice. -/
theorem IsIndependent.eq_of_diskId_eq (hids : r.IsIndependent) {p q : DiskPlacement}
    (hp : p ∈ r.diskPlacements) (hq : q ∈ r.diskPlacements) (h : p.diskId = q.diskId) : p = q :=
  List.inj_on_of_nodup_map hids hp hq h

/-- If at most one placement has a property, the last that has it is the one that does. -/
theorem lastPlacement?_eq_some_iff
    (hone : ∀ p ∈ r.diskPlacements, ∀ q ∈ r.diskPlacements, P p → P q → p = q)
    (p : DiskPlacement) : r.lastPlacement? P = some p ↔ p ∈ r.diskPlacements ∧ P p := by
  have hmem : ∀ q, r.lastPlacement? P = some q → q ∈ r.diskPlacements ∧ P q := by
    intro q hq
    obtain ⟨hq, hP⟩ := List.mem_filter.1 (List.mem_of_getLast? hq)
    exact ⟨hq, of_decide_eq_true hP⟩
  refine ⟨hmem p, fun ⟨hp, hP⟩ => ?_⟩
  cases hlast : r.lastPlacement? P with
  | none => exact absurd hP (lastPlacement?_eq_none_iff.1 hlast p hp)
  | some q =>
    obtain ⟨hq, hPq⟩ := hmem q hlast
    rw [hone p hp q hq hP hPq]

/-- If at most one placement has a property, regrouping does not change the last that has it. -/
theorem Regroups.lastPlacement?_eq (h : r.Regroups r')
    (hone : ∀ p ∈ r.diskPlacements, ∀ q ∈ r.diskPlacements, P p → P q → p = q) :
    r.lastPlacement? P = r'.lastPlacement? P := by
  have hone' : ∀ p ∈ r'.diskPlacements, ∀ q ∈ r'.diskPlacements, P p → P q → p = q :=
    fun p hp q hq => hone p (h.disks.mem_iff.2 hp) q (h.disks.mem_iff.2 hq)
  ext p
  rw [lastPlacement?_eq_some_iff hone, lastPlacement?_eq_some_iff hone', h.disks.mem_iff]

theorem Regroups.machineDestination?_eq (h : r.Regroups r') :
    r.machineDestination? = r'.machineDestination? := by
  unfold machineDestination?
  rw [h.machine]

theorem Regroups.found_iff {dir : DatastoreDirectory} (h : r.Regroups r')
    (attempts : Placement → List Text) :
    (∀ id ∈ r.placements.flatMap attempts, ∃ d, dir id = .ok d) ↔
      ∀ id ∈ r'.placements.flatMap attempts, ∃ d, dir id = .ok d :=
  forall_congr' fun _ => imp_congr_left (h.placements.flatMap_right attempts).mem_iff

end

end Recommendation

/-! ## At most one placement -/

/-- Placements that hit one locator are of one disk, if the disks of the source have keys of
their own: they stand where the disk of the locator does, whatever the keys of the final disks. -/
theorem DiskPlacement.Hits.diskId_eq {sources finals : List Disk}
    (hkeys : (sources.map Disk.key).Nodup) {p q : DiskPlacement} {l : DiskLocator}
    (hp : p.Hits sources finals l) (hq : q.Hits sources finals l) : p.diskId = q.diskId := by
  obtain ⟨i, source, final, hsource, hfinal, hid, hl⟩ := hp
  obtain ⟨j, source', final', hsource', hfinal', hid', hl'⟩ := hq
  have hi : (sources.map Disk.key)[i]? = some l.diskId := by
    rw [List.getElem?_map, hsource, ← hl]
    rfl
  have hj : (sources.map Disk.key)[j]? = some l.diskId := by
    rw [List.getElem?_map, hsource', ← hl']
    rfl
  obtain ⟨hlt, -⟩ := List.getElem?_eq_some_iff.1 hi
  obtain rfl : i = j := (List.getElem?_inj hlt hkeys).1 (hi.trans hj.symm)
  obtain rfl : final = final' := Option.some.inj (hfinal.symm.trans hfinal')
  exact hid.symm.trans hid'

section

variable {dir : DatastoreDirectory} {r r' : Recommendation} (h : r.Regroups r')

include h

theorem ConfigSpec.succeeds_iff_of_regroups (s : ConfigSpec) :
    (s.project dir r).failure = none ↔ (s.project dir r').failure = none := by
  rw [(s.ends_project dir r).failure_eq_none_iff, (s.ends_project dir r').failure_eq_none_iff]
  exact h.found_iff s.attempts

theorem CloneSpec.succeeds_iff_of_regroups (bound : Int) (source final : List Device)
    (s : CloneSpec) : (s.project dir bound source final r).failure = none ↔
      (s.project dir bound source final r').failure = none := by
  rw [(s.ends_project dir bound source final r).failure_eq_none_iff,
    (s.ends_project dir bound source final r').failure_eq_none_iff]
  exact h.found_iff _

variable (hids : r.IsIndependent)

include hids

theorem DeviceChange.settle_of_regroups (c : DeviceChange) : c.settle dir r = c.settle dir r' := by
  rw [DeviceChange.settle_eq, DeviceChange.settle_eq, h.lastPlacement?_eq]
  intro p hp q hq hpKey hqKey
  exact hids.eq_of_diskId_eq hp hq (Option.some.inj (hpKey.symm.trans hqKey))

theorem DiskLocator.settle_of_regroups {sources : List Disk} (hkeys : (sources.map Disk.key).Nodup)
    (finals : List Disk) (l : DiskLocator) :
    l.settle dir r sources finals = l.settle dir r' sources finals := by
  unfold settle
  rw [h.lastPlacement?_eq]
  intro p hp q hq hpHits hqHits
  exact hids.eq_of_diskId_eq hp hq (hpHits.diskId_eq hkeys hqHits)

theorem ConfigSpec.spec_project_of_regroups {s : ConfigSpec}
    (hsuccess : (s.project dir r).failure = none) :
    (s.project dir r).spec = (s.project dir r').spec := by
  have hsuccess' := (s.succeeds_iff_of_regroups h).1 hsuccess
  rw [spec_project_of_succeeds hsuccess, spec_project_of_succeeds hsuccess',
    funext (DeviceChange.settle_of_regroups h hids)]
  unfold settledFiles
  rw [h.machineDestination?_eq]

theorem CloneSpec.spec_project_of_regroups {bound : Int} {source final : List Device}
    {s : CloneSpec} (hkeys : ((slotOrder bound source).map Disk.key).Nodup)
    (hsuccess : (s.project dir bound source final r).failure = none) :
    (s.project dir bound source final r).spec = (s.project dir bound source final r').spec := by
  have hsuccess' := (s.succeeds_iff_of_regroups h bound source final).1 hsuccess
  rw [spec_project_of_succeeds hsuccess, spec_project_of_succeeds hsuccess',
    funext (DiskLocator.settle_of_regroups h hids hkeys _), h.machineDestination?_eq]

end

/-! ## Order and grouping -/

/-- **Order and grouping do not matter.**  Of two recommendations that place the machine alike
and have the same placements of disks, none of a disk that another one is of, either both are
carried out successfully on a spec or neither is; and if both are, they leave the same
configuration spec, and the same clone spec if the disks of the source have keys of their own. -/
theorem project_of_regroups {r r' : Recommendation} (h : r.Regroups r') (hids : r.IsIndependent)
    (dir : DatastoreDirectory) :
    (∀ s : ConfigSpec,
      ((s.project dir r).failure = none ↔ (s.project dir r').failure = none) ∧
      ((s.project dir r).failure = none →
        (s.project dir r).spec = (s.project dir r').spec)) ∧
    (∀ (bound : Int) (source final : List Device) (s : CloneSpec),
      ((s.project dir bound source final r).failure = none ↔
        (s.project dir bound source final r').failure = none) ∧
      (((slotOrder bound source).map Disk.key).Nodup →
        (s.project dir bound source final r).failure = none →
        (s.project dir bound source final r).spec =
          (s.project dir bound source final r').spec)) := by
  refine ⟨fun s => ⟨s.succeeds_iff_of_regroups h, ?_⟩,
    fun bound source final s => ⟨s.succeeds_iff_of_regroups h bound source final, ?_⟩⟩
  · exact ConfigSpec.spec_project_of_regroups h hids
  · exact CloneSpec.spec_project_of_regroups h hids

/-- The machine first, and its disks in two actions. -/
def machineFirst : Recommendation :=
  ⟨"1",
    [.machine ⟨.datastore "ds-1"⟩,
     .disks ⟨⟨7, .datastore "ds-1"⟩, [⟨8, .datastore "ds-2"⟩, ⟨6, .datastore "gone"⟩]⟩,
     .disks ⟨⟨9, .datastore "ds-2"⟩, []⟩]⟩

/-- The machine between its disks, and these the other way round. -/
def machineBetween : Recommendation :=
  ⟨"2",
    [.disks ⟨⟨9, .datastore "ds-2"⟩, [⟨6, .datastore "gone"⟩]⟩,
     .machine ⟨.datastore "ds-1"⟩,
     .disks ⟨⟨8, .datastore "ds-2"⟩, []⟩,
     .disks ⟨⟨7, .datastore "ds-1"⟩, []⟩]⟩

def pair : List Device :=
  [.disk ⟨2, some 1, some 1, none, 0, Backing.unspecified⟩,
   .controller ⟨1, 0, none, none, none⟩,
   .disk ⟨1, some 1, some 0, none, 0, Backing.unspecified⟩]

/-- What becomes of that machine: it has one disk more, and two of one key. -/
def grownPair : List Device :=
  [.disk ⟨7, some 5, some 0, none, 0, Backing.unspecified⟩,
   .disk ⟨8, some 5, some 1, none, 0, Backing.unspecified⟩,
   .disk ⟨7, some 5, some 2, none, 0, Backing.unspecified⟩,
   .controller ⟨5, 3, none, none, none⟩]

/-- A copy of it, with two locators for one of its disks. -/
def pairCopy : CloneSpec :=
  ⟨⟨none, none,
    [⟨2, none, Backing.unspecified⟩, ⟨1, none, Backing.unspecified⟩,
     ⟨2, some (.datastore "old"), Backing.unspecified⟩]⟩,
    false, false⟩

theorem machineFirst_regrouped :
    machineFirst.Regroups machineBetween ∧ machineFirst.IsIndependent ∧
    (ConfigSpec.crowded.project ConfigSpec.twoDatastores machineFirst).failure = none ∧
    (ConfigSpec.crowded.project ConfigSpec.twoDatastores machineBetween).failure = none ∧
    (ConfigSpec.crowded.project ConfigSpec.twoDatastores machineFirst).spec =
      (ConfigSpec.crowded.project ConfigSpec.twoDatastores machineBetween).spec ∧
    ((slotOrder 4 pair).map Disk.key).Nodup ∧
    (pairCopy.project ConfigSpec.twoDatastores 4 pair grownPair machineFirst).failure = none ∧
    (pairCopy.project ConfigSpec.twoDatastores 4 pair grownPair machineBetween).failure =
      none ∧
    (pairCopy.project ConfigSpec.twoDatastores 4 pair grownPair machineFirst).spec =
      (pairCopy.project ConfigSpec.twoDatastores 4 pair grownPair machineBetween).spec := by
  have hregroups : machineFirst.Regroups machineBetween := ⟨by decide, by decide⟩
  have hids : machineFirst.IsIndependent := by decide
  have hconfig : (ConfigSpec.crowded.project ConfigSpec.twoDatastores machineFirst).failure =
      none := by decide
  have hclone : (pairCopy.project ConfigSpec.twoDatastores 4 pair grownPair
      machineFirst).failure = none := by decide
  have hkeys : ((slotOrder 4 pair).map Disk.key).Nodup := by decide
  obtain ⟨hconfigs, hclones⟩ :=
    project_of_regroups hregroups hids ConfigSpec.twoDatastores
  obtain ⟨hiff, hspec⟩ := hconfigs ConfigSpec.crowded
  obtain ⟨hiff', hspec'⟩ := hclones 4 pair grownPair pairCopy
  exact ⟨hregroups, hids, hconfig, hiff.1 hconfig, hspec hconfig, hkeys, hclone, hiff'.1 hclone,
    hspec' hkeys hclone⟩

end PodPlacement
