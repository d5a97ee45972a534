import Mathlib.Data.List.Forall2
import PodPlacement.Proofs.Destination

/-!
# What a projection makes of a clone spec

A placement hits a locator if the disk that it places and the disk that the locator is for
stand at one position in the two orders of slots.  Each locator goes where the last placement
that hits it sends it, the copy of the machine goes where the last placement of the machine
sends it, and all else stays.

    (s.project dir bound source final r).failure = none →
      (s.project dir bound source final r).spec = { s with location := { s.location with
        datastore := r.machineDestination?.or s.location.datastore
        disks := s.location.disks.map (DiskLocator.settle dir r sources finals) } }
      where sources = slotOrder bound source, finals = slotOrder bound final
                                                                       (spec_project_of_succeeds)
-/

namespace PodPlacement

/-! ## Hits -/

/-- Whether a placement hits a locator: at some position of both lists the final disk is the
one that is placed, and the disk of the source is the one that the locator is for. -/
def DiskPlacement.Hits (sources finals : List Disk) (p : DiskPlacement) (l : DiskLocator) :
    Prop :=
  ∃ (i : Nat) (source final : Disk), sources[i]? = some source ∧ finals[i]? = some final ∧
    final.key = p.diskId ∧ source.key = l.diskId

/-- A hit, looked for among the final disks with their positions. -/
theorem DiskPlacement.hits_iff {sources finals : List Disk} {p : DiskPlacement}
    {l : DiskLocator} :
    p.Hits sources finals l ↔ ∃ x ∈ finals.zipIdx,
      x.1.key = p.diskId ∧ sources[x.2]?.map Disk.key = some l.diskId := by
  constructor
  · rintro ⟨i, source, final, hs, hf, hp, hl⟩
    refine ⟨(final, i), List.mem_zipIdx_iff_getElem?.2 hf, hp, ?_⟩
    rw [hs, ← hl]
    rfl
  · rintro ⟨⟨final, i⟩, hx, hp, hl⟩
    obtain ⟨source, hs, hkey⟩ := Option.map_eq_some_iff.1 hl
    exact ⟨i, source, final, hs, List.mem_zipIdx_iff_getElem?.1 hx, hp, hkey⟩

instance (sources finals : List Disk) (p : DiskPlacement) (l : DiskLocator) :
    Decidable (p.Hits sources finals l) :=
  decidable_of_iff _ DiskPlacement.hits_iff.symm

theorem DiskLocator.sendTo_sendTo (ref ref' : Reference) (path path' : Text) (l : DiskLocator) :
    (l.sendTo ref' path').sendTo ref path = l.sendTo ref path := rfl

namespace CloneSpec

variable (dir : DatastoreDirectory)

/-! ## The parts of a spec after some steps -/

theorem datastore_carry (steps : List Step) (s : CloneSpec) :
    (carry dir write steps s).location.datastore =
      (steps.filterMap Step.locationTo?).getLast?.elim s.location.datastore some := by
  refine carry_lastSet dir write (fun s : CloneSpec => s.location.datastore) Step.locationTo?
    (fun ref _ => some ref) ?_ ?_ steps s
  · intro step s
    cases step <;> rfl
  · intro _ _ _
    rfl

theorem disks_write (step : Step) (path : Text) (s : CloneSpec) :
    (write step path s).location.disks =
      step.modifyAt DiskLocator.sendTo path s.location.disks := by
  cases step <;> rfl

theorem frame_carry (steps : List Step) (s : CloneSpec) :
    carry dir write steps s =
      { s with
        location := { s.location with
          datastore := (carry dir write steps s).location.datastore
          disks := (carry dir write steps s).location.disks } } := by
  induction steps generalizing s with
  | nil => rfl
  | cons step steps ih =>
    have hrest := ih (write step (step.pathIn dir) s)
    cases step with
    | files | location | skip | disk => exact hrest

/-! ## The steps of a plan -/

variable {sources finals : List Disk}

theorem plan_eq_gather (s : CloneSpec) (r : Recommendation) :
    s.plan sources finals r =
      r.gather (fun p => [.location p.datastore]) (s.stepsForPlacement sources finals) := rfl

/-- The steps for a disk of the source send it, each from where there is a locator for it. -/
theorem exists_locator_of_mem_stepsFor (s : CloneSpec) (source : Disk) (ref : Reference) :
    ∀ step ∈ s.stepsFor source ref, ∃ position l, s.location.disks[position]? = some l ∧
      l.diskId = source.key ∧ step = .disk position source ref := by
  intro step hstep
  unfold stepsFor at hstep
  obtain ⟨⟨l, position⟩, hl, hs⟩ := List.mem_filterMap.1 hstep
  obtain ⟨hkey, hs⟩ := Option.ite_none_right_eq_some.1 hs
  exact ⟨position, l, List.mem_zipIdx_iff_getElem?.1 hl, hkey, (Option.some.inj hs).symm⟩

theorem exists_disk_of_mem_stepsFor (s : CloneSpec) (source : Disk) (ref : Reference) :
    ∀ step ∈ s.stepsFor source ref, ∃ position d, step = .disk position d ref := by
  intro step hstep
  obtain ⟨position, -, -, -, h⟩ := s.exists_locator_of_mem_stepsFor source ref step hstep
  exact ⟨position, source, h⟩

theorem sends_stepsFor (s : CloneSpec) (source : Disk) (ref : Reference) :
    ∀ step ∈ s.stepsFor source ref, step.Sends ref := by
  intro step hstep
  obtain ⟨position, d, rfl⟩ := s.exists_disk_of_mem_stepsFor source ref step hstep
  exact .disk position d

/-- What is sent of a disk of the source is sent at the positions of its locators. -/
theorem sentTo?_stepsFor (s : CloneSpec) (n : Nat) (source : Disk) (ref : Reference) :
    (s.stepsFor source ref).filterMap (Step.sentTo? n) =
      (s.location.disks[n]?.bind fun l =>
        if l.diskId = source.key then some ref else none).toList := by
  unfold stepsFor
  rw [List.filterMap_filterMap, ← filterMap_zipIdx_at _ s.location.disks n 0]
  congr 1
  funext ⟨l, position⟩
  rw [Nat.zero_add]
  by_cases hl : l.diskId = source.key
  · simp [hl, Step.sentTo?]
  · simp [hl]

/-- The steps for one placement at one final disk and its position. -/
def stepsAt (s : CloneSpec) (sources : List Disk) (p : DiskPlacement) (x : Disk × Nat) :
    List Step :=
  if x.1.key = p.diskId then
    match sources[x.2]? with
    | some source => s.stepsFor source p.datastore
    | none => [.skip x.1]
  else []

theorem stepsForPlacement_eq (s : CloneSpec) (p : DiskPlacement) :
    s.stepsForPlacement sources finals p = finals.zipIdx.flatMap (s.stepsAt sources p) := rfl

/-- The steps for a placement send disks where it leads, or pass them over. -/
theorem sends_stepsForPlacement (s : CloneSpec) (p : DiskPlacement) :
    ∀ step ∈ s.stepsForPlacement sources finals p, step.Sends p.datastore := by
  intro step hstep
  rw [stepsForPlacement_eq] at hstep
  obtain ⟨x, -, hs⟩ := List.mem_flatMap.1 hstep
  unfold stepsAt at hs
  split at hs
  · split at hs
    · next source _ => exact s.sends_stepsFor source p.datastore step hs
    · rw [List.mem_singleton.1 hs]
      exact .skip x.1
  · cases hs

/-- What is sent at one final disk is sent to the locators of the source disk at its position. -/
theorem lastSent?_stepsAt {s : CloneSpec} {n : Nat} {l : DiskLocator}
    (hl : s.location.disks[n]? = some l) (p : DiskPlacement) (x : Disk × Nat) :
    lastSent? n (s.stepsAt sources p x) =
      if x.1.key = p.diskId ∧ sources[x.2]?.map Disk.key = some l.diskId then some p.datastore
      else none := by
  unfold lastSent? stepsAt
  by_cases hkey : x.1.key = p.diskId
  · rw [if_pos hkey]
    cases hs : sources[x.2]? with
    | none => simp [Step.sentTo?]
    | some source =>
      simp only [sentTo?_stepsFor, hl, Option.bind_some, Option.map_some, Option.some.injEq]
      by_cases hsource : l.diskId = source.key
      · simp [hkey, hsource]
      · simp [hsource, Ne.symm hsource]
  · simp [hkey]

/-- What is sent for one placement is sent to the locators that it hits. -/
theorem lastSent?_stepsForPlacement {s : CloneSpec} {n : Nat} {l : DiskLocator}
    (hl : s.location.disks[n]? = some l) (p : DiskPlacement) :
    lastSent? n (s.stepsForPlacement sources finals p) =
      if p.Hits sources finals l then some p.datastore else none := by
  unfold lastSent?
  rw [stepsForPlacement_eq, List.filterMap_flatMap,
    getLast?_flatMap_of_getLast? _ _ (fun _ => p.datastore) (lastSent?_stepsAt hl p)]
  by_cases hhits : p.Hits sources finals l
  · obtain ⟨x, hx, hP⟩ := DiskPlacement.hits_iff.1 hhits
    rw [if_pos hhits, Option.map_eq_some_iff]
    have hmem : x ∈ finals.zipIdx.filter fun x =>
        x.1.key = p.diskId ∧ sources[x.2]?.map Disk.key = some l.diskId :=
      List.mem_filter.2 ⟨hx, decide_eq_true hP⟩
    exact ⟨_, List.getLast?_eq_some_getLast (List.ne_nil_of_mem hmem), rfl⟩
  · rw [if_neg hhits, Option.map_eq_none_iff, List.getLast?_eq_none_iff,
      List.filter_eq_nil_iff]
    intro x hx hP
    exact hhits (DiskPlacement.hits_iff.2 ⟨x, hx, of_decide_eq_true hP⟩)

/-- What a plan writes last at a position is where the last placement that hits the locator
there sends it. -/
theorem lastSent?_plan {s : CloneSpec} {n : Nat} {l : DiskLocator}
    (hl : s.location.disks[n]? = some l) (r : Recommendation) :
    lastSent? n (s.plan sources finals r) =
      (r.lastPlacement? fun p => p.Hits sources finals l).map DiskPlacement.datastore := by
  rw [plan_eq_gather]
  exact lastSent?_gather n r _ _ _ (fun _ => rfl) (lastSent?_stepsForPlacement hl)

theorem locationTo?_plan (s : CloneSpec) (r : Recommendation) :
    ((s.plan sources finals r).filterMap Step.locationTo?).getLast? = r.machineDestination? := by
  rw [plan_eq_gather]
  refine getLast?_filterMap_gather r _ _ _ (fun _ => rfl) fun p => ?_
  rw [List.filterMap_eq_nil_iff]
  intro step hstep
  cases s.sends_stepsForPlacement p step hstep <;> rfl

end CloneSpec

/-! ## What a success leaves -/

/-- What a recommendation makes of a locator. -/
def DiskLocator.settle (dir : DatastoreDirectory) (r : Recommendation)
    (sources finals : List Disk) (l : DiskLocator) : DiskLocator :=
  (r.lastPlacement? fun p => p.Hits sources finals l).elim l fun p =>
    l.sendTo p.datastore (dir.pathAt p.datastore.value)

namespace CloneSpec

variable {dir : DatastoreDirectory} {bound : Int} {source final : List Device}
  {r : Recommendation} {s : CloneSpec}

theorem spec_project_of_succeeds (h : (s.project dir bound source final r).failure = none) :
    (s.project dir bound source final r).spec =
      { s with
        location := { s.location with
          datastore := r.machineDestination?.or s.location.datastore
          disks := s.location.disks.map
            (DiskLocator.settle dir r (slotOrder bound source) (slotOrder bound final)) } } := by
  let steps := s.plan (slotOrder bound source) (slotOrder bound final) r
  have hspec : (s.project dir bound source final r).spec = carry dir write steps s :=
    spec_run_of_succeeds dir write h
  have hdatastore : (carry dir write steps s).location.datastore =
      r.machineDestination?.or s.location.datastore := by
    rw [datastore_carry, locationTo?_plan]
    cases r.machineDestination? <;> rfl
  have hdisks : (carry dir write steps s).location.disks = s.location.disks.map
      (DiskLocator.settle dir r (slotOrder bound source) (slotOrder bound final)) := by
    exact carry_eq_map dir write (fun s : CloneSpec => s.location.disks) DiskLocator.sendTo
      disks_write DiskLocator.sendTo_sendTo
      (fun l p => p.Hits (slotOrder bound source) (slotOrder bound final) l)
      fun _ _ hl => lastSent?_plan hl r
  rw [hspec, frame_carry dir steps s, hdatastore, hdisks]

theorem found_of_lastPlacement? (h : (s.project dir bound source final r).failure = none)
    {l : DiskLocator} (hl : l ∈ s.location.disks) {p : DiskPlacement}
    (hp : (r.lastPlacement? fun p =>
      p.Hits (slotOrder bound source) (slotOrder bound final) l) = some p) :
    ∃ d, dir p.datastore.value = .ok d := by
  obtain ⟨n, hn⟩ := List.mem_iff_getElem?.1 hl
  have hlast : lastSent? n (s.plan (slotOrder bound source) (slotOrder bound final) r) =
      some p.datastore := by
    rw [lastSent?_plan hn, hp]
    rfl
  exact found_of_getLast?_filterMap h (fun _ _ => Step.lookup?_of_sentTo?) hlast

end CloneSpec

/-! ## The last hit wins -/

/-- What becomes of a locator: it is sent, with the file behind its disk, to the datastore of
the last placement that hits it, or it stays as it is if none does. -/
inductive DiskLocator.Settles (dir : DatastoreDirectory) (r : Recommendation)
    (sources finals : List Disk) : DiskLocator → DiskLocator → Prop
  | placed {l : DiskLocator} {p : DiskPlacement} {path : Text}
      (hlast : (r.lastPlacement? fun p => p.Hits sources finals l) = some p)
      (hpath : dir.IsPath p.datastore path) :
      Settles dir r sources finals l
        { l with
          datastore := some p.datastore
          backing := { l.backing with fileName := path, datastore := some p.datastore } }
  | unplaced {l : DiskLocator}
      (hnone : (r.lastPlacement? fun p => p.Hits sources finals l) = none) :
      Settles dir r sources finals l l

namespace CloneSpec

variable {dir : DatastoreDirectory} {bound : Int} {source final : List Device}
  {r : Recommendation} {s : CloneSpec}

theorem settles_locator (h : (s.project dir bound source final r).failure = none)
    {l : DiskLocator} (hl : l ∈ s.location.disks) :
    l.Settles dir r (slotOrder bound source) (slotOrder bound final)
      (l.settle dir r (slotOrder bound source) (slotOrder bound final)) := by
  unfold DiskLocator.settle
  cases hp : r.lastPlacement? fun p =>
      p.Hits (slotOrder bound source) (slotOrder bound final) l with
  | none => exact .unplaced hp
  | some p =>
    exact .placed hp (DatastoreDirectory.isPath_pathAt (found_of_lastPlacement? h hl hp))

/-- **The last hit wins.**  After a success each locator is where the last placement that hits
it sends it, the copy of the machine is where the last placement of the machine sends it, and
nothing else has changed; no property of the device lists is needed. -/
theorem locators_settle_of_succeeds
    (h : (s.project dir bound source final r).failure = none) :
    let after := (s.project dir bound source final r).spec
    after.location.datastore = r.machineDestination?.or s.location.datastore ∧
    List.Forall₂ (DiskLocator.Settles dir r (slotOrder bound source) (slotOrder bound final))
      s.location.disks after.location.disks ∧
    after.location.pool = s.location.pool ∧ after.powerOn = s.powerOn ∧
    after.template = s.template := by
  intro after
  have hafter : after = _ := spec_project_of_succeeds h
  rw [hafter]
  refine ⟨rfl, ?_, rfl, rfl, rfl⟩
  rw [List.forall₂_map_right_iff, List.forall₂_same]
  intro l hl
  exact settles_locator h hl

/-- A machine with two disks of one key, on two buses. -/
def twins : List Device :=
  [.disk ⟨5, some 11, some 0, none, 0, Backing.unspecified⟩,
   .controller ⟨11, 1, none, none, none⟩,
   .disk ⟨4, some 10, some 1, none, 0, Backing.unspecified⟩,
   .disk ⟨4, some 10, some 0, none, 0, Backing.unspecified⟩,
   .controller ⟨10, 0, none, none, none⟩]

/-- What becomes of that machine: it has one disk more, and its keys are others. -/
def grownTwins : List Device :=
  [.controller ⟨20, 1, none, none, none⟩,
   .disk ⟨9, some 20, some 0, none, 0, Backing.unspecified⟩,
   .disk ⟨7, some 20, none, none, 0, Backing.unspecified⟩,
   .controller ⟨21, 0, none, none, none⟩,
   .disk ⟨8, some 21, some 1, none, 0, Backing.unspecified⟩,
   .disk ⟨9, some 21, some 0, none, 0, Backing.unspecified⟩]

/-- A copy with two locators for one key, and one for a disk that is not there. -/
def twinCopy : CloneSpec :=
  ⟨⟨some (.datastore "old"), none,
    [⟨5, none, Backing.unspecified⟩, ⟨4, none, Backing.unspecified⟩,
     ⟨6, none, Backing.unspecified⟩, ⟨4, some (.datastore "old"), Backing.unspecified⟩]⟩,
    false, true⟩

/-- Neither the datastore of the machine nor that of the new disk is looked up. -/
def twinPlacements : Recommendation :=
  ⟨"1",
    [.disks ⟨⟨9, .datastore "ds-1"⟩, [⟨7, .datastore "gone"⟩]⟩,
     .machine ⟨.datastore "gone"⟩,
     .disks ⟨⟨8, .datastore "ds-2"⟩, []⟩]⟩

/-- A directory of datastores that are called as they are identified, but for one. -/
def allButGone : DatastoreDirectory := fun id =>
  if id = "gone" then .error .unknown else .ok ⟨id, id⟩

theorem twins_settle :
    (twinCopy.project allButGone 4 twins grownTwins twinPlacements).failure = none ∧
    (let after := (twinCopy.project allButGone 4 twins grownTwins twinPlacements).spec
     after.location.datastore =
       twinPlacements.machineDestination?.or twinCopy.location.datastore ∧
     List.Forall₂
       (DiskLocator.Settles allButGone twinPlacements (slotOrder 4 twins)
         (slotOrder 4 grownTwins)) twinCopy.location.disks after.location.disks ∧
     after.location.pool = twinCopy.location.pool ∧ after.powerOn = twinCopy.powerOn ∧
     after.template = twinCopy.template) :=
  ⟨by decide, locators_settle_of_succeeds (by decide)⟩

end CloneSpec

end PodPlacement
