import PodPlacement.Proofs.Repetition
import PodPlacement.Proofs.Wording

/-!
# The log tells what was done

The log of a placement is a record of it.  Before a recommendation is carried out there is a note
for each entry of what is posted; then one for each write to a disk or a locator, for each placement
of the machine onto a configuration spec and for each disk that is passed over, in the order in
which this is done.  A lookup that fails adds none, and at the end of a success, and nowhere else,
it is noted that all is done.  What is written is said by `Written`, apart from how it is done.

    (∀ step ∈ steps, step.isFound dir) →
      Recounts dir written steps s (steps.flatMap (Step.eventsIn dir)) (carry dir write steps s)
      if each step does as `written` says                                  (recounts_carry)
    step ∈ s.stepsOf p → s'.bare = s.bare → Written step path s' (write step path s')
                                                                  (written_of_mem_stepsOf)
    (run dir write (ps.flatMap stepsOf) s).Recounted dir written stepsOf linesFor ps s
                                                                       (Telling.recounted)
    site.Asks opening spec clusterId advice.2.posts asked ∧ advice.2.log = asked.map (Note.mk tag)
      for some asked, where advice = site.advice opening spec pool clusterId tag   (asks_advice)
-/

namespace PodPlacement

open Text

/-! ## Step by step -/

section

variable {σ α : Type} {dir : DatastoreDirectory} {write : Step → Text → σ → σ}
  {written : Step → Text → σ → σ → Prop} {view : σ → α}

end

section

variable {σ α : Type} {dir : DatastoreDirectory} {write : Step → Text → σ → σ}
  {written : Step → Text → σ → σ → Prop} {view : σ → α} {stepsOf : Placement → List Step}
  {linesFor : Placement → List Event}

end

namespace ConfigSpec

/-- What a step makes of a configuration spec.  The files of the machine are put on the datastore of
a path; or the file of the disk that stands at a position, and that is the disk which is named, is
put there; or a disk is passed over.  Nothing else is touched. -/
inductive Written : Step → Text → ConfigSpec → ConfigSpec → Prop
  | files (ref : Reference) (path : Text) (s : ConfigSpec) :
      Written (.files ref) path s { s with files := some ⟨some path⟩ }
  | disk {on d : Disk} {before after : List DeviceChange} {s : ConfigSpec}
      {operation : Option DeviceOperation} {fileOperation : Option FileOperation}
      (ref : Reference) (path : Text)
      (there : s.changes = before ++ ⟨operation, fileOperation, .disk d⟩ :: after)
      (same : d.key = on.key ∧ d.name = on.name) :
      Written (.disk before.length on ref) path s
        { s with
          changes := before ++ ⟨operation, fileOperation,
            .disk { d with backing := { d.backing with fileName := path } }⟩ :: after }
  | skip (on : Disk) (path : Text) (s : ConfigSpec) : Written (.skip on) path s s

variable (s : ConfigSpec) (dir : DatastoreDirectory)

end ConfigSpec

namespace CloneSpec

/-- What a step makes of a clone spec.  The copy of the machine goes to a datastore; or the disk for
which there is a locator at a position, and which is the disk that is named, goes to the datastore
of a path, with its file; or a disk is passed over.  Nothing else is touched. -/
inductive Written : Step → Text → CloneSpec → CloneSpec → Prop
  | location (ref : Reference) (path : Text) (s : CloneSpec) :
      Written (.location ref) path s
        { s with location := { s.location with datastore := some ref } }
  | disk {on : Disk} {l : DiskLocator} {before after : List DiskLocator} {s : CloneSpec}
      (ref : Reference) (path : Text) (there : s.location.disks = before ++ l :: after)
      (same : l.diskId = on.key) :
      Written (.disk before.length on ref) path s
        { s with
          location := { s.location with
            disks := before ++ { l with
              datastore := some ref
              backing := { l.backing with fileName := path, datastore := some ref } } :: after } }
  | skip (on : Disk) (path : Text) (s : CloneSpec) : Written (.skip on) path s s

variable (s : CloneSpec) (sources finals : List Disk) (dir : DatastoreDirectory)

end CloneSpec

/-! ## Before and after -/

section

variable {σ : Type} {site : Site} {opening : Event} {spec : ConfigSpec} {pool : Reference}
  {clusterId tag : Text} {before : σ}

end

section

variable {σ : Type} {site : Site} {opening : Event} {spec : ConfigSpec}
  {clusterId resourceId : Text} {before : σ} {recounted : Recommendation → Projection σ → Prop}
  {o : Outcome σ}

end

end PodPlacement
