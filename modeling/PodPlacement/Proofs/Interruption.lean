import PodPlacement.Proofs.CloneProjection
import PodPlacement.Proofs.ConfigProjection
import PodPlacement.Proofs.Placement

/-!
# Where a projection stops

What a projection looks up is told by the spec as it was at the start: for the files of the
machine the datastore once, for a disk the datastore once for each disk or locator that it is
written to.  The projection stops at the first of these that is not found, and leaves what the
placements before it leave.

    r.placements.flatMap s.attempts      what a projection of r onto s looks up if all is found
    s.leftBy dir ps                      what the placements ps leave of s if all is found
    (s.project dir r).Ends dir s.disksFor s.attempts (s.leftBy dir) r.placements
                                                                           (ends_project)
    (s.leftBy dir ps).attempts = s.attempts                                (attempts_leftBy)
    s.stepsForPlacement sources finals p =
      s.sendsFor sources finals p ++ (passedOver sources finals p).map Step.skip
                                                                (stepsForPlacement_eq_append)
-/

namespace PodPlacement

/-! ## Configuration specs -/

namespace ConfigSpec

variable {dir : DatastoreDirectory}

/-- The disks among the changes that a placement is for. -/
def disksFor (s : ConfigSpec) (p : DiskPlacement) : List Disk :=
  (s.changes.filterMap fun c => c.device.disk?).filter fun d => d.key = p.diskId

/-- What is looked up for a placement: the datastore for the machine once, the datastore for a
disk once for each disk of its key. -/
def attempts (s : ConfigSpec) : Placement → List Text
  | .machine p => [p.datastore.value]
  | .disk p => (s.disksFor p).map fun _ => p.datastore.value

def stepsOf (s : ConfigSpec) : Placement → List Step
  | .machine p => [.files p.datastore]
  | .disk p => s.stepsFor p

/-- The spec that placements leave: each disk among the changes is where the last of them for
its key sends it, and the files of the machine where the last of them for the machine does. -/
def leftBy (dir : DatastoreDirectory) (s : ConfigSpec) (ps : List Placement) : ConfigSpec :=
  { s with
    files := settledFiles dir (.ofPlacements ps) s.files
    changes := s.changes.map (DeviceChange.settle dir (.ofPlacements ps)) }

theorem plan_eq_flatMap (s : ConfigSpec) (r : Recommendation) :
    s.plan r = r.placements.flatMap s.stepsOf := by
  rw [plan_eq_gather, Recommendation.gather_eq_flatMap]
  rfl

theorem on?_stepsFor (s : ConfigSpec) (p : DiskPlacement) :
    (s.stepsFor p).filterMap Step.on? = s.disksFor p := by
  unfold stepsFor disksFor
  rw [List.filterMap_filterMap, ← List.filterMap_eq_filter, List.filterMap_filterMap]
  conv => rhs; rw [← List.zipIdx_map_fst 0 s.changes]
  rw [List.filterMap_map]
  refine List.filterMap_congr fun ⟨c, position⟩ _ => ?_
  simp only [Function.comp]
  cases c.device.disk? with
  | none => rfl
  | some d =>
    by_cases hk : d.key = p.diskId
    · simp [hk, Step.on?, Option.guard]
    · simp [hk, Option.guard]

theorem lookup?_stepsOf (s : ConfigSpec) (p : Placement) :
    (s.stepsOf p).filterMap Step.lookup? = s.attempts p := by
  cases p with
  | machine p => rfl
  | disk p =>
    unfold stepsOf attempts
    rw [filterMap_lookup?_of_sends (s.sends_stepsFor p), on?_stepsFor]

theorem schedule (s : ConfigSpec) : Schedule write s.stepsOf :=
  ⟨fun _ => .inl rfl, s.sends_stepsFor, fun _ _ _ => rfl⟩

/-- What the steps for placements write is what a success with these placements alone leaves. -/
theorem carry_eq_leftBy {s : ConfigSpec} {ps : List Placement}
    (h : (run dir write (ps.flatMap s.stepsOf) s).failure = none) :
    carry dir write (ps.flatMap s.stepsOf) s = s.leftBy dir ps := by
  have hplan : s.plan (.ofPlacements ps) = ps.flatMap s.stepsOf := by
    rw [plan_eq_flatMap, Recommendation.placements_ofPlacements]
  rw [← hplan] at h ⊢
  rw [← spec_run_of_succeeds dir write h]
  exact spec_project_of_succeeds h

theorem ends_project (s : ConfigSpec) (dir : DatastoreDirectory) (r : Recommendation) :
    (s.project dir r).Ends dir s.disksFor s.attempts (s.leftBy dir) r.placements := by
  unfold project
  rw [plan_eq_flatMap]
  exact s.schedule.ends s.lookup?_stepsOf s.on?_stepsFor (fun _ => carry_eq_leftBy) r.placements

theorem key_settle (r : Recommendation) (d : Device) :
    (d.settle dir r).disk?.map Disk.key = d.disk?.map Disk.key := by
  cases d with
  | disk d =>
    rw [Device.settle_disk]
    cases r.lastPlacement? fun p => p.diskId = d.key <;> rfl
  | controller d => rfl
  | other d => rfl

/-- What placements leave asks for the same lookups as before. -/
theorem attempts_leftBy (s : ConfigSpec) (ps : List Placement) :
    (s.leftBy dir ps).attempts = s.attempts := by
  -- Of the disks nothing but their keys tells what is looked up, and these stay.
  have hattempts : ∀ (s : ConfigSpec) (p : DiskPlacement), s.attempts (.disk p) =
      ((s.changes.filterMap fun c => c.device.disk?.map Disk.key).filter fun key =>
        key = p.diskId).map fun _ => p.datastore.value := by
    intro s p
    rw [← List.map_filterMap, List.filter_map, List.map_map]
    rfl
  funext p
  cases p with
  | machine p => rfl
  | disk p =>
    rw [hattempts, hattempts]
    unfold leftBy
    rw [List.filterMap_map]
    congr 2
    exact List.filterMap_congr fun c _ => key_settle _ c.device

end ConfigSpec

/-! ## Clone specs -/

/-- Of two lists matched by position, what the second has beyond the end of the first comes after
all that is matched. -/
theorem flatMap_zipIdx_getElem? {α β γ : Type} (f : α → β → List γ) (g : β → List γ) (xs : List α)
    (ys : List β) (k : Nat) :
    ((ys.zipIdx k).flatMap fun y => xs[y.2]?.elim (g y.1) fun x => f x y.1) =
      (((xs.drop k).zip ys).flatMap fun x => f x.1 x.2) ++ (ys.drop (xs.length - k)).flatMap g := by
  induction ys generalizing k with
  | nil => simp
  | cons y ys ih =>
    rw [List.zipIdx_cons, List.flatMap_cons, ih]
    by_cases hk : k < xs.length
    · have hdrop : xs.length - k = xs.length - (k + 1) + 1 := by omega
      rw [List.drop_eq_getElem_cons hk, List.zip_cons_cons, List.flatMap_cons,
        List.getElem?_eq_getElem hk, hdrop, List.drop_succ_cons, List.append_assoc]
      rfl
    · have hle : xs.length ≤ k := Nat.le_of_not_lt hk
      rw [List.drop_of_length_le hle, List.drop_of_length_le (Nat.le_succ_of_le hle),
        List.getElem?_eq_none hle, Nat.sub_eq_zero_of_le hle,
        Nat.sub_eq_zero_of_le (Nat.le_succ_of_le hle)]
      rfl

theorem flatMap_ite_singleton {α β : Type} (P : α → Prop) [DecidablePred P] (f : α → β)
    (xs : List α) :
    (xs.flatMap fun a => if P a then [f a] else []) = (xs.filter fun a => P a).map f := by
  induction xs with
  | nil => rfl
  | cons a xs ih =>
    rw [List.flatMap_cons, ih]
    by_cases ha : P a <;> simp [ha]

namespace CloneSpec

variable {dir : DatastoreDirectory} (s : CloneSpec) (sources finals : List Disk)

/-- The disks of the source that a placement is for, each once for each of its locators: those
that stand, in the order of slots, where the final disks of its key do. -/
def disksFor (p : DiskPlacement) : List Disk :=
  (sources.zip finals).flatMap fun (source, final) =>
    if final.key = p.diskId then
      (s.location.disks.filter fun l => l.diskId = source.key).map fun _ => source
    else []

/-- What is looked up for a placement: the datastore for a disk once for each locator of each
disk of the source that it is for, and none for the machine. -/
def attempts : Placement → List Text
  | .machine _ => []
  | .disk p => (s.disksFor sources finals p).map fun _ => p.datastore.value

def stepsOf : Placement → List Step
  | .machine p => [.location p.datastore]
  | .disk p => s.stepsForPlacement sources finals p

/-- The spec that placements leave: each locator is where the last of them that hits it sends
it, and the copy of the machine where the last of them for the machine does. -/
def leftBy (dir : DatastoreDirectory) (ps : List Placement) : CloneSpec :=
  { s with
    location := { s.location with
      datastore := (Recommendation.ofPlacements ps).machineDestination?.or s.location.datastore
      disks := s.location.disks.map
        (DiskLocator.settle dir (.ofPlacements ps) sources finals) } }

theorem plan_eq_flatMap (r : Recommendation) :
    s.plan sources finals r = r.placements.flatMap (s.stepsOf sources finals) := by
  rw [plan_eq_gather, Recommendation.gather_eq_flatMap]
  rfl

theorem on?_stepsFor (source : Disk) (ref : Reference) :
    (s.stepsFor source ref).filterMap Step.on? =
      (s.location.disks.filter fun l => l.diskId = source.key).map fun _ => source := by
  unfold stepsFor
  rw [List.filterMap_filterMap, ← List.filterMap_eq_filter, List.map_filterMap]
  conv => rhs; rw [← List.zipIdx_map_fst 0 s.location.disks]
  rw [List.filterMap_map]
  refine List.filterMap_congr fun ⟨l, position⟩ _ => ?_
  by_cases hl : l.diskId = source.key
  · simp [hl, Step.on?, Option.guard]
  · simp [hl, Option.guard]

/-- The steps that send the disks of the source that a placement is for. -/
def sendsFor (p : DiskPlacement) : List Step :=
  (sources.zip finals).flatMap fun (source, final) =>
    if final.key = p.diskId then s.stepsFor source p.datastore else []

/-- The disks that a placement passes over: the final disks of its key that stand, in the order of
slots, where the source has no disk. -/
def passedOver (p : DiskPlacement) : List Disk :=
  (finals.drop sources.length).filter fun d => d.key = p.diskId

/-- The disks that a placement sends come first, and after them those that it passes over. -/
theorem stepsForPlacement_eq_append (p : DiskPlacement) :
    s.stepsForPlacement sources finals p =
      s.sendsFor sources finals p ++ (passedOver sources finals p).map Step.skip := by
  have hzip := flatMap_zipIdx_getElem?
    (fun source final : Disk =>
      if final.key = p.diskId then s.stepsFor source p.datastore else [])
    (fun final => if final.key = p.diskId then [Step.skip final] else []) sources finals 0
  rw [stepsForPlacement_eq]
  refine Eq.trans ?_ (hzip.trans ?_)
  · congr 1
    funext x
    unfold stepsAt
    by_cases hkey : x.1.key = p.diskId
    · simp only [if_pos hkey]
      cases sources[x.2]? <;> rfl
    · simp only [if_neg hkey]
      cases sources[x.2]? <;> rfl
  · rw [flatMap_ite_singleton]
    rfl

theorem on?_sendsFor (p : DiskPlacement) :
    (s.sendsFor sources finals p).filterMap Step.on? = s.disksFor sources finals p := by
  unfold sendsFor disksFor
  rw [List.filterMap_flatMap]
  congr 1
  funext x
  by_cases hkey : x.2.key = p.diskId
  · simp only [if_pos hkey]
    exact s.on?_stepsFor x.1 p.datastore
  · simp only [if_neg hkey]
    rfl

theorem on?_stepsForPlacement (p : DiskPlacement) :
    (s.stepsForPlacement sources finals p).filterMap Step.on? =
      s.disksFor sources finals p := by
  have hskips : ((passedOver sources finals p).map Step.skip).filterMap Step.on? = [] := by
    rw [List.filterMap_map]
    exact List.filterMap_eq_nil_iff.2 fun _ _ => rfl
  rw [stepsForPlacement_eq_append, List.filterMap_append, hskips, List.append_nil, on?_sendsFor]

theorem lookup?_stepsOf (p : Placement) :
    (s.stepsOf sources finals p).filterMap Step.lookup? = s.attempts sources finals p := by
  cases p with
  | machine p => rfl
  | disk p =>
    unfold stepsOf attempts
    rw [filterMap_lookup?_of_sends (s.sends_stepsForPlacement p), on?_stepsForPlacement]

theorem schedule : Schedule write (s.stepsOf sources finals) :=
  ⟨fun _ => .inr rfl, s.sends_stepsForPlacement, fun _ _ _ => rfl⟩

variable {s sources finals}

/-- What the steps for placements write is what a success with these placements alone leaves. -/
theorem carry_eq_leftBy {bound : Int} {source final : List Device} {ps : List Placement}
    (h : (run dir write
      (ps.flatMap (s.stepsOf (slotOrder bound source) (slotOrder bound final))) s).failure = none) :
    carry dir write (ps.flatMap (s.stepsOf (slotOrder bound source) (slotOrder bound final))) s =
      s.leftBy (slotOrder bound source) (slotOrder bound final) dir ps := by
  have hplan : s.plan (slotOrder bound source) (slotOrder bound final) (.ofPlacements ps) =
      ps.flatMap (s.stepsOf (slotOrder bound source) (slotOrder bound final)) := by
    rw [plan_eq_flatMap, Recommendation.placements_ofPlacements]
  rw [← hplan] at h ⊢
  rw [← spec_run_of_succeeds dir write h]
  exact spec_project_of_succeeds h

theorem ends_project (s : CloneSpec) (dir : DatastoreDirectory) (bound : Int)
    (source final : List Device) (r : Recommendation) :
    (s.project dir bound source final r).Ends dir
      (s.disksFor (slotOrder bound source) (slotOrder bound final))
      (s.attempts (slotOrder bound source) (slotOrder bound final))
      (s.leftBy (slotOrder bound source) (slotOrder bound final) dir) r.placements := by
  unfold project
  rw [plan_eq_flatMap]
  exact (s.schedule _ _).ends (s.lookup?_stepsOf _ _) (s.on?_stepsForPlacement _ _)
    (fun _ => carry_eq_leftBy) r.placements

theorem diskId_settle (r : Recommendation) (l : DiskLocator) :
    (l.settle dir r sources finals).diskId = l.diskId := by
  unfold DiskLocator.settle
  cases r.lastPlacement? fun p => p.Hits sources finals l <;> rfl

/-- What placements leave asks for the same lookups as before. -/
theorem attempts_leftBy (s : CloneSpec) (ps : List Placement) :
    (s.leftBy sources finals dir ps).attempts sources finals = s.attempts sources finals := by
  have hlocators : ∀ source : Disk,
      ((s.leftBy sources finals dir ps).location.disks.filter fun l =>
        l.diskId = source.key).map (fun _ => source) =
      (s.location.disks.filter fun l => l.diskId = source.key).map fun _ => source := by
    intro source
    unfold leftBy
    rw [List.filter_map, List.map_map]
    congr 1
    refine List.filter_congr fun l _ => ?_
    simp only [Function.comp, diskId_settle]
  funext p
  cases p with
  | machine p => rfl
  | disk p =>
    unfold attempts disksFor
    simp only [hlocators]

end CloneSpec

/-! ## The first datastore that is not found -/

/-- **A projection ends at the first datastore that is not found.**  It succeeds if and only if
all that is looked up for its placements is found.  Else it fails at the first placement with a
datastore that is not, for that datastore, after the lookups before it; what it leaves is what
the placements before that one leave, and it asks for the same lookups as before.  The failure
is one of resolution, unless the datastore could not even be looked for: in an inventory, unless
its identifier has no bytes. -/
theorem projections_end (dir : DatastoreDirectory) (r : Recommendation) :
    (∀ s : ConfigSpec,
      let o := s.project dir r
      (o.failure = none ↔ ∀ id ∈ r.placements.flatMap s.attempts, ∃ d, dir id = .ok d) ∧
      o.Ends dir s.disksFor s.attempts (s.leftBy dir) r.placements ∧
      (∀ f, o.failure = some f → f.EndsLookups dir o.lookups) ∧
      o.spec.attempts = s.attempts) ∧
    (∀ (bound : Int) (source final : List Device) (s : CloneSpec),
      let o := s.project dir bound source final r
      let sources := slotOrder bound source
      let finals := slotOrder bound final
      (o.failure = none ↔
        ∀ id ∈ r.placements.flatMap (s.attempts sources finals), ∃ d, dir id = .ok d) ∧
      o.Ends dir (s.disksFor sources finals) (s.attempts sources finals)
        (s.leftBy sources finals dir) r.placements ∧
      (∀ f, o.failure = some f → f.EndsLookups dir o.lookups) ∧
      o.spec.attempts sources finals = s.attempts sources finals) ∧
    ∀ inventory : Inventory, dir = inventory.datastoreDirectory →
      (∀ (s : ConfigSpec) (f), (s.project dir r).failure = some f →
        f.EndsLookupsIn inventory (s.project dir r).lookups) ∧
      ∀ (bound : Int) (source final : List Device) (s : CloneSpec) (f),
        (s.project dir bound source final r).failure = some f →
          f.EndsLookupsIn inventory (s.project dir bound source final r).lookups := by
  refine ⟨fun s => ?_, fun bound source final s => ?_, ?_⟩
  · have hends := s.ends_project dir r
    refine ⟨hends.failure_eq_none_iff, hends, fun _ => hends.endsLookups, ?_⟩
    obtain ⟨before, after, -, hspec⟩ := hends.exists_spec_eq
    rw [hspec, s.attempts_leftBy]
  · have hends := s.ends_project dir bound source final r
    refine ⟨hends.failure_eq_none_iff, hends, fun _ => hends.endsLookups, ?_⟩
    obtain ⟨before, after, -, hspec⟩ := hends.exists_spec_eq
    rw [hspec, s.attempts_leftBy]
  · rintro inventory rfl
    refine ⟨fun s f hf => ?_, fun bound source final s f hf => ?_⟩
    · exact Failure.endsLookups_inventory_iff.1 ((s.ends_project _ r).endsLookups hf)
    · exact Failure.endsLookups_inventory_iff.1
        ((s.ends_project _ bound source final r).endsLookups hf)

/-- A machine goes to a datastore whose identifier has no bytes. -/
def ontoHalf : Recommendation := ⟨"1", [.machine ⟨.datastore Text.loneHalf⟩]⟩

/-- Not to find what has no bytes is no failure of resolution. -/
theorem half_is_not_resolved :
    let s : ConfigSpec := ⟨none, none, none, none, []⟩
    let o := s.project Inventory.empty.datastoreDirectory ontoHalf
    ontoHalf.placements.flatMap s.attempts = [Text.loneHalf] ∧
    Inventory.empty.datastore? Text.loneHalf = none ∧
    o.lookups = [Text.loneHalf] ∧ o.failure.map Failure.category = some .foreign := by
  decide

end PodPlacement
