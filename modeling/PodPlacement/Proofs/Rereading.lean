import PodPlacement.Proofs.Repetition

/-!
# Loops that read again

A projection follows a plan that is made from the spec as it is at the start.  The same comes of
loops that make no plan: over the actions, over the placements of each, and over the changes or
the locators of the spec, each of which is looked at as it is then, after all that was written
before.  For what is looked at is in the bare spec, and that no step changes.

    run dir write (steps ++ more) s = (run dir write steps s).andThen (run dir write more)
                                                                                 (run_append)
    loop body bs s = run dir write (bs.flatMap steps) s
      if body b s' = run dir write (steps b) s' for all s' that look like s      (loop_eq_run)
    s.projectByLoops dir r = s.project dir r                         (projectByLoops_eq_project)
-/

namespace PodPlacement

/-! ## Loops -/

section

variable {σ β : Type}

/-- What comes of going on from what a projection leaves, unless it failed. -/
def Projection.andThen (p : Projection σ) (next : σ → Projection σ) : Projection σ :=
  match p.failure with
  | some _ => p
  | none =>
    let q := next p.spec
    ⟨q.spec, q.failure, p.events ++ q.events, p.lookups ++ q.lookups⟩

/-- A loop, up to the first turn that fails.  Each turn finds the spec as those before it left
it. -/
def loop (body : β → σ → Projection σ) : List β → σ → Projection σ
  | [], s => ⟨s, none, [], []⟩
  | b :: bs, s => (body b s).andThen (loop body bs)

/-- The loops over the actions of a recommendation, and over the placements of each. -/
def Recommendation.loops (r : Recommendation) (machine : MachinePlacement → σ → Projection σ)
    (disk : DiskPlacement → σ → Projection σ) : σ → Projection σ :=
  loop
    (fun
      | .machine p => machine p
      | .disks ps => loop disk ps.toList)
    r.actions

variable {dir : DatastoreDirectory} {write : Step → Text → σ → σ}

/-- A run is a run of the first of its steps, and then of the others. -/
theorem run_append (steps more : List Step) (s : σ) :
    run dir write (steps ++ more) s = (run dir write steps s).andThen (run dir write more) := by
  induction steps generalizing s with
  | nil => rfl
  | cons step steps ih =>
    rw [List.cons_append]
    cases hfound : step.isFound dir with
    | true =>
      rw [run_cons_of_isFound dir write hfound, run_cons_of_isFound dir write hfound, ih]
      obtain ⟨spec, failure, events, lookups⟩ :=
        run dir write steps (write step (step.pathIn dir) s)
      cases failure with
      | some f => rfl
      | none => simp only [Projection.andThen, List.append_assoc]
    | false =>
      obtain ⟨id, e, hid, he, hrun⟩ := run_cons_of_not_isFound dir write hfound steps s
      obtain ⟨id', e', hid', he', hrun'⟩ :=
        run_cons_of_not_isFound dir write hfound (steps ++ more) s
      obtain rfl : id = id' := Option.some.inj (hid.symm.trans hid')
      obtain rfl : e = e' := Except.error.inj (he.symm.trans he')
      rw [hrun, hrun']
      rfl

variable {α : Type} {view : σ → α} (hview : ∀ step path s, view (write step path s) = view s)
  {v : α}

include hview

/-- A loop is a run, if each of its turns is one whatever was written before: a turn may look
only at what no step writes. -/
theorem loop_eq_run {body : β → σ → Projection σ} {steps : β → List Step}
    (hbody : ∀ b s, view s = v → body b s = run dir write (steps b) s) (bs : List β) {s : σ}
    (hs : view s = v) : loop body bs s = run dir write (bs.flatMap steps) s := by
  induction bs generalizing s with
  | nil => rfl
  | cons b bs ih =>
    have hspec : view (run dir write (steps b) s).spec = v :=
      (view_run dir write hview (steps b) s).trans hs
    rw [loop, hbody b s hs, List.flatMap_cons, run_append]
    unfold Projection.andThen
    rw [ih hspec]

theorem loops_eq_run {machine : MachinePlacement → σ → Projection σ}
    {disk : DiskPlacement → σ → Projection σ} {machineSteps : MachinePlacement → List Step}
    {diskSteps : DiskPlacement → List Step}
    (hmachine : ∀ p s, view s = v → machine p s = run dir write (machineSteps p) s)
    (hdisk : ∀ p s, view s = v → disk p s = run dir write (diskSteps p) s) (r : Recommendation)
    {s : σ} (hs : view s = v) :
    r.loops machine disk s = run dir write (r.gather machineSteps diskSteps) s := by
  refine loop_eq_run hview (fun action s hs => ?_) r.actions hs
  cases action with
  | machine p => exact hmachine p s hs
  | disks ps => exact loop_eq_run hview hdisk ps.toList hs

end

theorem filterMap_zipIdx_from {α β : Type} (f : α × Nat → Option β) (xs : List α) (k : Nat) :
    (xs.zipIdx k).filterMap f =
      (List.range xs.length).flatMap fun i => (xs[i]?.bind fun a => f (a, k + i)).toList := by
  induction xs generalizing k with
  | nil => rfl
  | cons a xs ih =>
    have hrest : ∀ i, k + 1 + i = k + (i + 1) := fun i => by omega
    rw [List.zipIdx_cons, List.filterMap_cons, ih, List.length_cons, List.range_succ_eq_map,
      List.flatMap_cons, List.flatMap_map]
    simp only [List.getElem?_cons_zero, List.getElem?_cons_succ, Option.bind_some, Nat.add_zero,
      hrest]
    cases f (a, k) <;> rfl

/-- What is found of a list and its positions is found at its positions. -/
theorem filterMap_zipIdx_eq_flatMap {α β : Type} (f : α × Nat → Option β) (xs : List α) :
    xs.zipIdx.filterMap f =
      (List.range xs.length).flatMap fun i => (xs[i]?.bind fun a => f (a, i)).toList := by
  simpa only [Nat.zero_add] using filterMap_zipIdx_from f xs 0

/-! ## Configuration specs -/

namespace ConfigSpec

/-- The step for the change at a position, if it is of a disk that a placement is for. -/
def stepAt? (s : ConfigSpec) (p : DiskPlacement) (position : Nat) : Option Step :=
  s.changes[position]?.bind fun c =>
    match c.device.disk? with
    | some d => if d.key = p.diskId then some (.disk position d p.datastore) else none
    | none => none

section

variable (dir : DatastoreDirectory)

/-- The turn for a placement and a position: it looks at the change that is there then. -/
def visit (p : DiskPlacement) (position : Nat) (s : ConfigSpec) : Projection ConfigSpec :=
  run dir write (s.stepAt? p position).toList s

/-- The loop for a placement, over all changes that there are then. -/
def placeDisk (p : DiskPlacement) (s : ConfigSpec) : Projection ConfigSpec :=
  loop (visit dir p) (List.range s.changes.length) s

/-- Carries out a recommendation without a plan. -/
def projectByLoops (r : Recommendation) : ConfigSpec → Projection ConfigSpec :=
  r.loops (fun p => run dir write [.files p.datastore]) (placeDisk dir)

end

theorem stepsFor_eq_flatMap (s : ConfigSpec) (p : DiskPlacement) :
    s.stepsFor p = (List.range s.changes.length).flatMap fun i => (s.stepAt? p i).toList :=
  filterMap_zipIdx_eq_flatMap _ s.changes

theorem stepAt?_bare (s : ConfigSpec) (p : DiskPlacement) (position : Nat) :
    s.bare.stepAt? p position = (s.stepAt? p position).map Step.bare := by
  unfold stepAt? bare
  rw [List.getElem?_map]
  cases s.changes[position]? with
  | none => rfl
  | some c =>
    simp only [Option.map_some, Option.bind_some, DeviceChange.bare, Device.disk?_bare]
    cases c.device.disk? with
    | none => rfl
    | some d =>
      show (if d.key = p.diskId then _ else none) =
        Option.map Step.bare (if d.key = p.diskId then _ else none)
      split <;> rfl

section

variable {dir : DatastoreDirectory} {s b : ConfigSpec} (h : s.bare = b) (p : DiskPlacement)

include h

theorem visit_eq_run (position : Nat) :
    visit dir p position s = run dir write (b.stepAt? p position).toList s := by
  unfold visit
  rw [← h, stepAt?_bare, ← run_map_bare dir write_bare, Option.toList_map]

theorem placeDisk_eq_run : placeDisk dir p s = run dir write (b.stepsFor p) s := by
  have hlength : s.changes.length = b.changes.length := by
    rw [← h]
    exact (List.length_map DeviceChange.bare).symm
  unfold placeDisk
  rw [hlength, stepsFor_eq_flatMap]
  exact loop_eq_run bare_write (fun position _ h' => visit_eq_run h' p position) _ h

end

/-- To read the spec again after each write comes to the same as the plan. -/
theorem projectByLoops_eq_project (s : ConfigSpec) (dir : DatastoreDirectory)
    (r : Recommendation) : s.projectByLoops dir r = s.project dir r :=
  calc s.projectByLoops dir r
      = run dir write (s.bare.plan r) s := by
        rw [plan_eq_gather]
        exact loops_eq_run bare_write (fun _ _ _ => rfl) (fun p _ h => placeDisk_eq_run h p) r rfl
    _ = s.project dir r := by
        rw [plan_bare, run_map_bare dir write_bare]
        rfl

end ConfigSpec

/-! ## Clone specs -/

namespace CloneSpec

/-- The step for the locator at a position, if it is for a disk of the source. -/
def stepAt? (s : CloneSpec) (source : Disk) (destination : Reference) (position : Nat) :
    Option Step :=
  s.location.disks[position]?.bind fun l =>
    if l.diskId = source.key then some (.disk position source destination) else none

section

variable (dir : DatastoreDirectory)

/-- The turn for a disk of the source and a position: it looks at the locator that is there
then. -/
def visit (source : Disk) (destination : Reference) (position : Nat) (s : CloneSpec) :
    Projection CloneSpec :=
  run dir write (s.stepAt? source destination position).toList s

/-- The loop for a disk of the source, over all locators that there are then. -/
def sendDisk (source : Disk) (destination : Reference) (s : CloneSpec) : Projection CloneSpec :=
  loop (visit dir source destination) (List.range s.location.disks.length) s

/-- The turn for a placement and a disk of the final configuration, with its position. -/
def placeAt (sources : List Disk) (p : DiskPlacement) :
    Disk × Nat → CloneSpec → Projection CloneSpec
  | (final, i) =>
    if final.key = p.diskId then
      match sources[i]? with
      | some source => sendDisk dir source p.datastore
      | none => run dir write [.skip final]
    else run dir write []

/-- Carries out a recommendation without a plan. -/
def projectByLoops (bound : Int) (source final : List Device) (r : Recommendation) :
    CloneSpec → Projection CloneSpec :=
  r.loops (fun p => run dir write [.location p.datastore]) fun p =>
    loop (placeAt dir (slotOrder bound source) p) (slotOrder bound final).zipIdx

end

theorem stepsFor_eq_flatMap (s : CloneSpec) (source : Disk) (destination : Reference) :
    s.stepsFor source destination = (List.range s.location.disks.length).flatMap fun i =>
      (s.stepAt? source destination i).toList :=
  filterMap_zipIdx_eq_flatMap _ s.location.disks

theorem stepAt?_bare (s : CloneSpec) (source : Disk) (destination : Reference) (position : Nat) :
    s.bare.stepAt? source destination position = s.stepAt? source destination position := by
  unfold stepAt? bare
  rw [List.getElem?_map]
  cases s.location.disks[position]? <;> rfl

section

variable {dir : DatastoreDirectory} {s b : CloneSpec} (h : s.bare = b)

include h

theorem sendDisk_eq_run (source : Disk) (destination : Reference) :
    sendDisk dir source destination s = run dir write (b.stepsFor source destination) s := by
  have hlength : s.location.disks.length = b.location.disks.length := by
    rw [← h]
    exact (List.length_map DiskLocator.bare).symm
  unfold sendDisk
  rw [hlength, stepsFor_eq_flatMap]
  refine loop_eq_run bare_write (fun position s' h' => ?_) _ h
  rw [visit, ← h', stepAt?_bare]

theorem placeAt_eq_run (sources : List Disk) (p : DiskPlacement) (x : Disk × Nat) :
    placeAt dir sources p x s = run dir write (b.stepsAt sources p x) s := by
  obtain ⟨final, i⟩ := x
  unfold stepsAt
  by_cases hkey : final.key = p.diskId
  · simp only [placeAt, if_pos hkey]
    cases sources[i]? with
    | none => rfl
    | some source => exact sendDisk_eq_run h source p.datastore
  · simp only [placeAt, if_neg hkey]

end

/-- To read the spec again after each write comes to the same as the plan. -/
theorem projectByLoops_eq_project (s : CloneSpec) (dir : DatastoreDirectory) (bound : Int)
    (source final : List Device) (r : Recommendation) :
    s.projectByLoops dir bound source final r = s.project dir bound source final r :=
  calc s.projectByLoops dir bound source final r
      = run dir write (s.bare.plan (slotOrder bound source) (slotOrder bound final) r) s := by
        rw [plan_eq_gather]
        refine loops_eq_run bare_write (fun _ _ _ => rfl) (fun p s' h => ?_) r rfl
        rw [stepsForPlacement_eq]
        exact loop_eq_run bare_write (fun x _ h' => placeAt_eq_run h' _ p x) _ h
    _ = s.project dir bound source final r := by
        rw [plan_bare]
        rfl

end CloneSpec

end PodPlacement
