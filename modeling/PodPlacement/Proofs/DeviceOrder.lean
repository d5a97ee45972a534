import PodPlacement.Placing
import PodPlacement.Proofs.CloneProjection
import PodPlacement.Proofs.SlotOrder

/-!
# The order in which devices are listed does not matter

A projection looks at no more of a disk than its controller, its unit and its key: the key to
match it, and all three to name it.  A disk with nothing else to it, a bare one, will do.

    (run dir write (steps.map Step.bare) s) = run dir write steps s            (run_map_bare)
    s.plan (sources.map Disk.bare) (finals.map Disk.bare) r =
      (s.plan sources finals r).map Step.bare                                 (plan_map_bare)
    source.Perm source' → final.Perm final' →
      s.project dir bound source final r = s.project dir bound source' final' r
                                                                          (project_of_perm)
-/

namespace PodPlacement

/-! ## Bare disks -/

/-- A disk of which only its controller, its unit and its key are left. -/
def Disk.bare (d : Disk) : Disk :=
  { d with label := none, capacityKb := 0, backing := Backing.unspecified }

theorem Disk.bare_eq_of_triple_eq {d e : Disk} (h : d.triple = e.triple) : d.bare = e.bare := by
  unfold Disk.triple at h
  simp only [Prod.mk.injEq] at h
  obtain ⟨hcontroller, hunit, hkey⟩ := h
  unfold Disk.bare
  rw [hcontroller, hunit, hkey]

namespace Step

def bare : Step → Step
  | disk position on destination => disk position on.bare destination
  | skip on => skip on.bare
  | files destination => files destination
  | location destination => location destination

theorem lookup?_bare (step : Step) : step.bare.lookup? = step.lookup? := by
  cases step <;> rfl

theorem note?_bare (step : Step) : step.bare.note? = step.note? := by
  cases step <;> rfl

theorem resolvedNote?_bare (d : Datastore) (step : Step) :
    step.bare.resolvedNote? d = step.resolvedNote? d := by
  cases step <;> rfl

theorem unresolved_bare (id : Text) (step : Step) (e : LookupError) :
    step.bare.unresolved id e = step.unresolved id e := by
  cases e with
  | unencodable => rfl
  | unknown => cases step <;> rfl

end Step

/-- A run does not look at more of its disks than is left of bare ones. -/
theorem run_map_bare {σ : Type} (dir : DatastoreDirectory) {write : Step → Text → σ → σ}
    (hwrite : ∀ step, write step.bare = write step) (steps : List Step) (s : σ) :
    run dir write (steps.map Step.bare) s = run dir write steps s := by
  induction steps generalizing s with
  | nil => rfl
  | cons step steps ih =>
    rw [List.map_cons]
    unfold run
    rw [Step.lookup?_bare, Step.note?_bare, hwrite]
    cases step.lookup? with
    | none =>
      dsimp only
      rw [ih]
    | some id =>
      dsimp only
      cases dir id with
      | error e =>
        dsimp only
        rw [Step.unresolved_bare]
      | ok d =>
        dsimp only
        rw [ih, Step.resolvedNote?_bare]

/-! ## Plans for bare disks -/

namespace CloneSpec

theorem write_bare (step : Step) : write step.bare = write step := by
  cases step <;> rfl

theorem stepsFor_bare (s : CloneSpec) (source : Disk) (destination : Reference) :
    s.stepsFor source.bare destination = (s.stepsFor source destination).map Step.bare := by
  unfold stepsFor
  rw [List.map_filterMap]
  congr 1
  funext ⟨l, position⟩
  dsimp only
  by_cases hl : l.diskId = source.key
  · rw [if_pos hl, if_pos (show l.diskId = source.bare.key from hl)]
    rfl
  · rw [if_neg hl, if_neg (show ¬l.diskId = source.bare.key from hl)]
    rfl

theorem stepsForPlacement_map_bare (s : CloneSpec) (sources finals : List Disk)
    (p : DiskPlacement) :
    s.stepsForPlacement (sources.map Disk.bare) (finals.map Disk.bare) p =
      (s.stepsForPlacement sources finals p).map Step.bare := by
  unfold stepsForPlacement
  rw [List.zipIdx_map, List.flatMap_map, List.map_flatMap]
  congr 1
  funext ⟨final, i⟩
  dsimp only [Prod.map, id]
  by_cases hkey : final.key = p.diskId
  · rw [if_pos hkey, if_pos (show final.bare.key = p.diskId from hkey), List.getElem?_map]
    cases sources[i]? with
    | none => rfl
    | some source => exact stepsFor_bare s source p.datastore
  · rw [if_neg hkey, if_neg (show ¬final.bare.key = p.diskId from hkey)]
    rfl

theorem plan_map_bare (s : CloneSpec) (sources finals : List Disk) (r : Recommendation) :
    s.plan (sources.map Disk.bare) (finals.map Disk.bare) r =
      (s.plan sources finals r).map Step.bare := by
  rw [plan_eq_gather, plan_eq_gather, Recommendation.map_gather,
    funext (stepsForPlacement_map_bare s sources finals)]
  rfl

/-- What comes of a projection does not depend on the order in which the devices of the source
and those of the final configuration are listed. -/
theorem project_of_perm {source source' final final' : List Device}
    (hsource : source.Perm source') (hfinal : final.Perm final') (dir : DatastoreDirectory)
    (bound : Int) (r : Recommendation) (s : CloneSpec) :
    s.project dir bound source final r = s.project dir bound source' final' r := by
  have hbare : ∀ d e : Disk, d.triple = e.triple → d.bare = e.bare :=
    fun _ _ => Disk.bare_eq_of_triple_eq
  unfold project
  rw [← run_map_bare dir write_bare, ← plan_map_bare, map_slotOrder_of_perm hbare hsource,
    map_slotOrder_of_perm hbare hfinal, plan_map_bare, run_map_bare dir write_bare]

end CloneSpec

/-! ## Two listings of the same devices -/

/-- **The order of listing does not matter.**  Two listings of the devices of the source, and two
of those of the final configuration, lead to the same: the same clone spec, the same failure
if any, the same lookups, posts and notes.  For disks in the order of their slots are the same
in their controllers, units and keys, and the same altogether if their keys differ. -/
theorem placing_of_perm {source source' final final' : List Device}
    (hsource : source.Perm source') (hfinal : final.Perm final') :
    (∀ (site : Site) (r : Recommendation) (s : CloneSpec) (tag : Text),
      site.projectClone r s source final tag = site.projectClone r s source' final' tag) ∧
    (∀ (site : Site) (config : ConfigSpec) (s : CloneSpec) (pool : Reference)
        (clusterId resourceId : Text),
      site.clone config s pool clusterId source final resourceId =
        site.clone config s pool clusterId source' final' resourceId) ∧
    (∀ bound,
      (slotOrder bound source).map Disk.triple = (slotOrder bound source').map Disk.triple) ∧
    (((source.filterMap Device.disk?).map Disk.key).Nodup →
      ∀ bound, slotOrder bound source = slotOrder bound source') := by
  have hproject : ∀ (site : Site) (r : Recommendation) (s : CloneSpec) (tag : Text),
      site.projectClone r s source final tag = site.projectClone r s source' final' tag := by
    intro site r s tag
    unfold Site.projectClone
    rw [CloneSpec.project_of_perm hsource hfinal]
  refine ⟨hproject, ?_, ?_, ?_⟩
  · intro site config s pool clusterId resourceId
    unfold Site.clone
    simp only [hproject]
  · intro bound
    exact map_slotOrder_of_perm (fun _ _ h => h) hsource bound
  · intro hkeys bound
    exact slotOrder_of_perm hsource hkeys bound

/-- A machine whose disks tie: two of one key in one slot, one without a unit beside one whose
unit is zero, and two controllers of one bus and one key. -/
def tied : List Device :=
  [.controller ⟨3, 0, none, none, some "a"⟩,
   .disk ⟨8, some 3, some 0, none, 1, Backing.unspecified⟩,
   .disk ⟨8, some 3, some 0, none, 2, Backing.unspecified⟩,
   .disk ⟨8, some 3, none, none, 3, Backing.unspecified⟩,
   .controller ⟨3, 0, none, none, some "b"⟩]

/-- A machine whose disks have keys of their own. -/
def untied : List Device :=
  [.disk ⟨2, some 3, some 0, none, 1, Backing.unspecified⟩,
   .disk ⟨1, some 3, none, none, 2, Backing.unspecified⟩,
   .controller ⟨3, 0, none, none, none⟩,
   .disk ⟨7, some 3, some 0, none, 3, Backing.unspecified⟩]

theorem placing_of_reversed :
    slotOrder 4 tied ≠ slotOrder 4 tied.reverse ∧
    (∀ (site : Site) (r : Recommendation) (s : CloneSpec) (tag : Text),
      site.projectClone r s tied untied tag =
        site.projectClone r s tied.reverse untied.reverse tag) ∧
    (∀ (site : Site) (config : ConfigSpec) (s : CloneSpec) (pool : Reference)
        (clusterId resourceId : Text),
      site.clone config s pool clusterId tied untied resourceId =
        site.clone config s pool clusterId tied.reverse untied.reverse resourceId) ∧
    (∀ bound,
      (slotOrder bound tied).map Disk.triple = (slotOrder bound tied.reverse).map Disk.triple) ∧
    ((untied.filterMap Device.disk?).map Disk.key).Nodup ∧
    (∀ bound, slotOrder bound untied = slotOrder bound untied.reverse) := by
  have htied : tied.Perm tied.reverse := (List.reverse_perm tied).symm
  have huntied : untied.Perm untied.reverse := (List.reverse_perm untied).symm
  have hkeys : ((untied.filterMap Device.disk?).map Disk.key).Nodup := by decide
  obtain ⟨hproject, hclone, htriples, -⟩ := placing_of_perm htied huntied
  obtain ⟨-, -, -, horder⟩ := placing_of_perm huntied htied
  exact ⟨by decide, hproject, hclone, htriples, hkeys, horder hkeys⟩

end PodPlacement
