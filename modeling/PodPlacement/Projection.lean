import PodPlacement.Inventory
import PodPlacement.Log
import PodPlacement.SlotOrder
import PodPlacement.Spec.Clone
import PodPlacement.Spec.Config

/-!
# Projecting a recommendation onto a spec

A recommendation is carried out step by step.  The steps follow from the recommendation and
the spec as it was at the start; each looks up its datastore, if it needs one, and writes to
the spec.  The first datastore that is not found ends the run, and the steps before it stay
done.  To look at the spec again after each step comes to the same: `projectByLoops_eq_project`.

    (run dir write steps s).failure = none ↔
      ∀ step ∈ steps, ∀ id, step.lookup? = some id → ∃ d, dir id = .ok d  (failure_run_eq_none_iff)
-/

namespace PodPlacement

/-! ## Steps -/

inductive Step where
  /-- The files of the machine go to a datastore. -/
  | files (destination : Reference)
  /-- The copy of the machine goes to a datastore, which is not looked up. -/
  | location (destination : Reference)
  /-- A disk goes to a datastore; the position says where in the spec it stands. -/
  | disk (position : Nat) (disk : Disk) (destination : Reference)
  /-- A disk is passed over. -/
  | skip (disk : Disk)
  deriving DecidableEq, Repr

namespace Step

def lookup? : Step → Option Text
  | files destination | disk _ _ destination => some destination.value
  | location _ | skip _ => none

/-- What is noted of a step that looks nothing up. -/
def note? : Step → Option Event
  | skip d => some (.skipped d.name)
  | _ => none

/-- What is noted of a step whose datastore is found. -/
def resolvedNote? (d : Datastore) : Step → Option Event
  | files _ => some (.located d.name)
  | disk _ on _ => some (.assigned d.name on.name)
  | location _ | skip _ => none

/-- The failure of a step whose datastore is not found. -/
def unresolved (id : Text) (step : Step) : LookupError → Failure
  | .unencodable => .unencodable id
  | .unknown =>
    match step with
    | disk _ on _ => .diskDatastoreUnknown id on.name
    | files _ | location _ | skip _ => .machineDatastoreUnknown id

end Step

/-! ## Runs -/

/-- The outcome of a run of steps: the spec as it was left, the failure that ended the run,
what was noted, and which datastores were looked up. -/
structure Projection (σ : Type) where
  spec : σ
  failure : Option Failure
  events : List Event
  lookups : List Text

/-- The steps one after the other.  `write step path` is what a step does to the spec, `path`
being the path of the datastore that was looked up. -/
def run {σ : Type} (dir : DatastoreDirectory) (write : Step → Text → σ → σ) :
    List Step → σ → Projection σ
  | [], s => ⟨s, none, [], []⟩
  | step :: steps, s =>
    match step.lookup? with
    | none =>
      let rest := run dir write steps (write step "" s)
      { rest with events := step.note?.toList ++ rest.events }
    | some id =>
      match dir id with
      | .error e => ⟨s, some (step.unresolved id e), [], [id]⟩
      | .ok d =>
        let rest := run dir write steps (write step d.path s)
        { rest with
          events := (step.resolvedNote? d).toList ++ rest.events
          lookups := id :: rest.lookups }

/-- A run succeeds if and only if every datastore that its steps look up is found. -/
theorem failure_run_eq_none_iff {σ : Type} (dir : DatastoreDirectory)
    (write : Step → Text → σ → σ) (steps : List Step) (s : σ) :
    (run dir write steps s).failure = none ↔
      ∀ step ∈ steps, ∀ id, step.lookup? = some id → ∃ d, dir id = .ok d := by
  induction steps generalizing s with
  | nil => simp [run]
  | cons step steps ih =>
    rw [List.forall_mem_cons]
    unfold run
    cases hl : step.lookup? with
    | none => simp [ih]
    | some id =>
      cases hd : dir id with
      | error e => simp [hd]
      | ok d => simp [hd, ih]

/-! ## Configuration specs -/

/-- A device with the file of its disk in another place. -/
def Device.withFile (path : Text) : Device → Device
  | .disk d => .disk { d with backing := { d.backing with fileName := path } }
  | device => device

namespace ConfigSpec

/-- What a step does to a configuration spec. -/
def write (step : Step) (path : Text) (s : ConfigSpec) : ConfigSpec :=
  match step with
  | .files _ => { s with files := some ⟨some path⟩ }
  | .disk position _ _ =>
    { s with
      changes := s.changes.modify position fun c => { c with device := c.device.withFile path } }
  | .location _ | .skip _ => s

/-- The steps for one placement: one for each disk of its key among the changes. -/
def stepsFor (s : ConfigSpec) (p : DiskPlacement) : List Step :=
  s.changes.zipIdx.filterMap fun (c, position) =>
    match c.device.disk? with
    | some d => if d.key = p.diskId then some (.disk position d p.datastore) else none
    | none => none

def plan (s : ConfigSpec) (r : Recommendation) : List Step :=
  r.actions.flatMap fun
    | .machine p => [.files p.datastore]
    | .disks ps => ps.toList.flatMap s.stepsFor

def project (dir : DatastoreDirectory) (r : Recommendation) (s : ConfigSpec) :
    Projection ConfigSpec :=
  run dir write (s.plan r) s

/-- Puts the files of the machine on a datastore. -/
def projectFiles (dir : DatastoreDirectory) (destination : Reference) (s : ConfigSpec) :
    Projection ConfigSpec :=
  run dir write [.files destination] s

end ConfigSpec

/-! ## Clone specs -/

/-- A locator for a disk that goes to a datastore of a path. -/
def DiskLocator.sendTo (destination : Reference) (path : Text) (l : DiskLocator) : DiskLocator :=
  { l with
    datastore := some destination
    backing := { l.backing with fileName := path, datastore := some destination } }

namespace CloneSpec

/-- What a step does to a clone spec. -/
def write (step : Step) (path : Text) (s : CloneSpec) : CloneSpec :=
  match step with
  | .location destination =>
    { s with location := { s.location with datastore := some destination } }
  | .disk position _ destination =>
    { s with
      location := { s.location with
        disks := s.location.disks.modify position (DiskLocator.sendTo destination path) } }
  | .files _ | .skip _ => s

/-- The steps that send a disk of the source to a datastore: one for each of its locators. -/
def stepsFor (s : CloneSpec) (source : Disk) (destination : Reference) : List Step :=
  s.location.disks.zipIdx.filterMap fun (l, position) =>
    if l.diskId = source.key then some (.disk position source destination) else none

/-- The steps for one placement.  Its disks are found among those of the final configuration,
and each is matched by position with a disk of the source, if the source has so many. -/
def stepsForPlacement (s : CloneSpec) (sources finals : List Disk) (p : DiskPlacement) :
    List Step :=
  finals.zipIdx.flatMap fun (final, i) =>
    if final.key = p.diskId then
      match sources[i]? with
      | some source => s.stepsFor source p.datastore
      | none => [.skip final]
    else []

def plan (s : CloneSpec) (sources finals : List Disk) (r : Recommendation) : List Step :=
  r.actions.flatMap fun
    | .machine p => [.location p.datastore]
    | .disks ps => ps.toList.flatMap (s.stepsForPlacement sources finals)

def project (dir : DatastoreDirectory) (bound : Int) (source final : List Device)
    (r : Recommendation) (s : CloneSpec) : Projection CloneSpec :=
  run dir write (s.plan (slotOrder bound source) (slotOrder bound final) r) s

end CloneSpec

end PodPlacement
