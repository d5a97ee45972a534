import Mathlib.Data.List.Forall2
import PodPlacement.Proofs.Placing

/-!
# What is kept in a workspace

Whatever is done in a workspace, a part of a spec that was written to was written to as a whole,
and for a datastore that is known.  `Kept` says so of each part of a spec: it holds of what is as
it was, it is kept by each step that finds its datastore, and so by runs, tasks and sequences of
tasks, also by those that fail.

    step.isFound dir → s.Kept dir (write step (step.pathIn dir) s)             (kept_write)
    s.Kept dir (run dir write steps s).spec                                      (kept_run)
    w.Kept site.datastores (w.perform site task).spec                        (kept_perform)
    (∀ x ∈ tasks, x.1.datastores = dir) → w.Kept dir (w.afterAll tasks)     (kept_afterAll)
-/

namespace PodPlacement

/-! ## What can become of the parts of specs -/

section

variable (dir : DatastoreDirectory)

/-- What can have become of a locator: it is as it was, or it has been sent, with the file
behind its disk, to a datastore that is known. -/
inductive DiskLocator.Kept : DiskLocator → DiskLocator → Prop
  | same (l : DiskLocator) : Kept l l
  | sent {l : DiskLocator} {ref : Reference} {path : Text} (h : dir.IsPath ref path) :
      Kept l
        { l with
          datastore := some ref
          backing := { l.backing with fileName := path, datastore := some ref } }

/-- What can have become of a device: it is as it was, or it is a disk whose file has been put
on a datastore that is known. -/
inductive Device.Kept : Device → Device → Prop
  | same (d : Device) : Kept d d
  | moved {d : Disk} {ref : Reference} {path : Text} (h : dir.IsPath ref path) :
      Kept (.disk d) (.disk { d with backing := { d.backing with fileName := path } })

/-- What can have become of a change: only its device can have changed. -/
structure DeviceChange.Kept (c c' : DeviceChange) : Prop where
  operation : c'.operation = c.operation
  fileOperation : c'.fileOperation = c.fileOperation
  device : c.device.Kept dir c'.device

/-- What can have become of the files of a machine: they are as they were, or they have been put
on a datastore that is known. -/
inductive MachineFiles.Kept : Option MachineFiles → Option MachineFiles → Prop
  | same (files : Option MachineFiles) : Kept files files
  | moved {files : Option MachineFiles} {ref : Reference} {path : Text}
      (h : dir.IsPath ref path) : Kept files (some ⟨some path⟩)

structure ConfigSpec.Kept (s s' : ConfigSpec) : Prop where
  name : s'.name = s.name
  cpus : s'.cpus = s.cpus
  memoryMb : s'.memoryMb = s.memoryMb
  files : MachineFiles.Kept dir s.files s'.files
  changes : List.Forall₂ (DeviceChange.Kept dir) s.changes s'.changes

/-- What can have become of a clone spec.  Where the copy of the machine goes is not looked up,
so it can be anywhere. -/
structure CloneSpec.Kept (s s' : CloneSpec) : Prop where
  powerOn : s'.powerOn = s.powerOn
  template : s'.template = s.template
  pool : s'.location.pool = s.location.pool
  datastore : s'.location.datastore = s.location.datastore ∨
    ∃ ref, s'.location.datastore = some ref
  disks : List.Forall₂ (DiskLocator.Kept dir) s.location.disks s'.location.disks

structure Workspace.Kept (w w' : Workspace) : Prop where
  config : w.config.Kept dir w'.config
  clone : w.clone.Kept dir w'.clone

end

/-! ## One change after another -/

section

variable {dir : DatastoreDirectory}

theorem DiskLocator.Kept.trans {l l' l'' : DiskLocator} (h : l.Kept dir l')
    (h' : l'.Kept dir l'') : l.Kept dir l'' := by
  cases h' with
  | same => exact h
  | sent hpath =>
    cases h with
    | same => exact .sent hpath
    | sent => exact .sent hpath

theorem Device.Kept.trans {d d' d'' : Device} (h : d.Kept dir d') (h' : d'.Kept dir d'') :
    d.Kept dir d'' := by
  cases h' with
  | same => exact h
  | moved hpath =>
    cases h with
    | same => exact .moved hpath
    | moved => exact .moved hpath

theorem DeviceChange.Kept.refl (c : DeviceChange) : c.Kept dir c := ⟨rfl, rfl, .same _⟩

theorem DeviceChange.Kept.trans {c c' c'' : DeviceChange} (h : c.Kept dir c')
    (h' : c'.Kept dir c'') : c.Kept dir c'' :=
  ⟨h'.operation.trans h.operation, h'.fileOperation.trans h.fileOperation,
    h.device.trans h'.device⟩

theorem MachineFiles.Kept.trans {files files' files'' : Option MachineFiles}
    (h : Kept dir files files') (h' : Kept dir files' files'') : Kept dir files files'' := by
  cases h' with
  | same => exact h
  | moved hpath => exact .moved hpath

/-- What holds from each entry to the one in its place, and on from there, holds throughout. -/
theorem forall₂_trans {α : Type} {R : α → α → Prop} (h : ∀ a b c, R a b → R b c → R a c)
    {xs ys zs : List α} (hxy : List.Forall₂ R xs ys) (hyz : List.Forall₂ R ys zs) :
    List.Forall₂ R xs zs := by
  induction hxy generalizing zs with
  | nil => exact hyz
  | cons hab _ ih =>
    cases hyz with
    | cons hbc htail => exact .cons (h _ _ _ hab hbc) (ih htail)

theorem ConfigSpec.Kept.refl (s : ConfigSpec) : s.Kept dir s :=
  ⟨rfl, rfl, rfl, .same _, List.forall₂_same.2 fun c _ => .refl c⟩

theorem ConfigSpec.Kept.trans {s s' s'' : ConfigSpec} (h : s.Kept dir s')
    (h' : s'.Kept dir s'') : s.Kept dir s'' where
  name := h'.name.trans h.name
  cpus := h'.cpus.trans h.cpus
  memoryMb := h'.memoryMb.trans h.memoryMb
  files := h.files.trans h'.files
  changes := forall₂_trans (fun _ _ _ => .trans) h.changes h'.changes

theorem CloneSpec.Kept.refl (s : CloneSpec) : s.Kept dir s :=
  ⟨rfl, rfl, rfl, .inl rfl, List.forall₂_same.2 fun l _ => .same l⟩

theorem CloneSpec.Kept.trans {s s' s'' : CloneSpec} (h : s.Kept dir s') (h' : s'.Kept dir s'') :
    s.Kept dir s'' where
  powerOn := h'.powerOn.trans h.powerOn
  template := h'.template.trans h.template
  pool := h'.pool.trans h.pool
  datastore := h'.datastore.elim (fun heq => heq ▸ h.datastore) .inr
  disks := forall₂_trans (fun _ _ _ => .trans) h.disks h'.disks

theorem Workspace.Kept.refl (w : Workspace) : w.Kept dir w := ⟨.refl _, .refl _⟩

theorem Workspace.Kept.trans {w w' w'' : Workspace} (h : w.Kept dir w') (h' : w'.Kept dir w'') :
    w.Kept dir w'' :=
  ⟨h.config.trans h'.config, h.clone.trans h'.clone⟩

/-! ## Steps and runs -/

/-- To change one entry of a list keeps what each entry keeps, changed or not. -/
theorem forall₂_modify {α : Type} {R : α → α → Prop} (hrefl : ∀ a, R a a) {f : α → α}
    (hf : ∀ a, R a (f a)) (xs : List α) (n : Nat) : List.Forall₂ R xs (xs.modify n f) := by
  induction xs generalizing n with
  | nil =>
    rw [List.modify_nil]
    exact .nil
  | cons x xs ih =>
    cases n with
    | zero => exact .cons (hf x) (List.forall₂_same.2 fun a _ => hrefl a)
    | succ n => exact .cons (hrefl x) (ih n)

theorem ConfigSpec.kept_write {step : Step} (hfound : step.isFound dir = true) (s : ConfigSpec) :
    s.Kept dir (write step (step.pathIn dir) s) := by
  have hsame : s.Kept dir s := .refl s
  cases step with
  | location | skip => exact hsame
  | files ref => exact { hsame with files := .moved (Step.isPath_pathIn hfound rfl) }
  | disk position d ref =>
    refine { hsame with changes := forall₂_modify DeviceChange.Kept.refl (fun c => ?_) _ _ }
    refine ⟨rfl, rfl, ?_⟩
    cases c.device with
    | disk d => exact .moved (Step.isPath_pathIn hfound rfl)
    | controller d => exact .same _
    | other d => exact .same _

theorem CloneSpec.kept_write {step : Step} (hfound : step.isFound dir = true) (s : CloneSpec) :
    s.Kept dir (write step (step.pathIn dir) s) := by
  have hsame : s.Kept dir s := .refl s
  cases step with
  | files | skip => exact hsame
  | location ref => exact { hsame with datastore := .inr ⟨ref, rfl⟩ }
  | disk position d ref =>
    refine { hsame with disks := forall₂_modify DiskLocator.Kept.same (fun l => ?_) _ _ }
    exact .sent (Step.isPath_pathIn hfound rfl)

theorem ConfigSpec.kept_run (steps : List Step) (s : ConfigSpec) :
    s.Kept dir (run dir write steps s).spec :=
  run_induction dir write .refl (fun _ _ _ => .trans) (fun _ => kept_write) steps s

theorem CloneSpec.kept_run (steps : List Step) (s : CloneSpec) :
    s.Kept dir (run dir write steps s).spec :=
  run_induction dir write .refl (fun _ _ _ => .trans) (fun _ => kept_write) steps s

end

/-! ## Tasks -/

namespace Workspace

/-- A task keeps what can be kept, whether it succeeds or fails. -/
theorem kept_perform (w : Workspace) (site : Site) (task : Task) :
    w.Kept site.datastores (w.perform site task).spec := by
  cases task with
  | create pool clusterId resourceId =>
    refine ⟨?_, .refl _⟩
    exact (site.follows_create w.config pool clusterId resourceId).spec_induction (.refl _)
      fun r => ConfigSpec.kept_run _ _
  | clone pool clusterId source final resourceId =>
    refine ⟨.refl _, ?_⟩
    exact (site.follows_clone w.config w.clone pool clusterId source final
      resourceId).spec_induction (.refl _) fun r => CloneSpec.kept_run _ _
  | projectConfig r tag => exact ⟨ConfigSpec.kept_run _ _, .refl _⟩
  | projectClone r source final tag => exact ⟨.refl _, CloneSpec.kept_run _ _⟩
  | projectFiles destination tag => exact ⟨ConfigSpec.kept_run _ _, .refl _⟩

/-- **Specs stay sound through all tasks.**  After any tasks with the same datastores, each of
which may have succeeded or failed anywhere, each locator is as it was or was sent to a known
datastore as a whole; each change is as it was but for the file of a disk, which was put on a
known datastore; so were the files of the machine; and all else is as it was, but for where the
copy of the machine goes. -/
theorem kept_afterAll {dir : DatastoreDirectory} {tasks : List (Site × Task)}
    (hdatastores : ∀ x ∈ tasks, x.1.datastores = dir) (w : Workspace) :
    w.Kept dir (w.afterAll tasks) := by
  -- What is kept is told from the start of the tasks, so that it can be carried over each of them.
  induction tasks generalizing w with
  | nil => exact .refl w
  | cons x tasks ih =>
    obtain ⟨hx, htasks⟩ := List.forall_mem_cons.1 hdatastores
    have hstep : w.Kept dir (w.perform x.1 x.2).spec := hx ▸ w.kept_perform x.1 x.2
    exact hstep.trans (ih htasks _)

/-- Tasks of which the first two fail, the second of them halfway. -/
def troubled : List (Site × Task) :=
  let sevenTo (id : Text) : Action := .disks ⟨⟨7, .datastore id⟩, []⟩
  let devices : List Device :=
    [.controller ⟨1, 0, none, none, none⟩,
     .disk ⟨7, some 1, some 0, none, 0, Backing.unspecified⟩]
  [(refusing, copying),
   (refusing, .projectConfig ⟨"1", [.machine ⟨.datastore "d"⟩, sevenTo "gone"]⟩ ""),
   (siteOf fun _ => .broken .timeout "", .projectClone ⟨"1", [sevenTo "d"]⟩ devices devices "")]

theorem kept_afterAll_troubled :
    (∀ x ∈ troubled, x.1.datastores = refusing.datastores) ∧
    (oneDisk.afterAll troubled).config ≠ oneDisk.config ∧
    (oneDisk.afterAll troubled).clone ≠ oneDisk.clone ∧
    oneDisk.Kept refusing.datastores (oneDisk.afterAll troubled) := by
  have hdatastores : ∀ x ∈ troubled, x.1.datastores = refusing.datastores := by
    unfold troubled
    iterate 3 rw [List.forall_mem_cons]
    exact ⟨rfl, rfl, rfl, nofun⟩
  exact ⟨hdatastores, by decide, by decide, kept_afterAll hdatastores oneDisk⟩

end Workspace

end PodPlacement
