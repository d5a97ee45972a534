import PodPlacement.Placing

/-!
# Workspaces

A configuration spec and a clone spec on which one task after another is done.  A task works
on one of the two and leaves the other as it is; one that fails may leave its spec changed in
part, and the next task goes on from there.
-/

namespace PodPlacement

structure Workspace where
  config : ConfigSpec
  clone : CloneSpec
  deriving DecidableEq, Repr, Inhabited

/-- What can be done in a workspace. -/
inductive Task where
  /-- Place the machine of the configuration spec. -/
  | create (pool : Reference) (clusterId resourceId : Text)
  /-- Place a copy of a machine by the clone spec. -/
  | clone (pool : Reference) (clusterId : Text) (source final : List Device)
      (resourceId : Text)
  /-- Carry out a recommendation on the configuration spec. -/
  | projectConfig (r : Recommendation) (tag : Text)
  /-- Carry out a recommendation on the clone spec. -/
  | projectClone (r : Recommendation) (source final : List Device) (tag : Text)
  /-- Put the files of the machine of the configuration spec on a datastore. -/
  | projectFiles (destination : Reference) (tag : Text)

namespace Workspace

/-- The workspace after something was done with its configuration spec. -/
def withConfig (w : Workspace) (o : Outcome ConfigSpec) : Outcome Workspace :=
  ⟨{ w with config := o.spec }, o.failure, o.trace⟩

/-- The workspace after something was done with its clone spec. -/
def withClone (w : Workspace) (o : Outcome CloneSpec) : Outcome Workspace :=
  ⟨{ w with clone := o.spec }, o.failure, o.trace⟩

def perform (w : Workspace) (site : Site) : Task → Outcome Workspace
  | .create pool clusterId resourceId =>
    w.withConfig (site.create w.config pool clusterId resourceId)
  | .clone pool clusterId source final resourceId =>
    w.withClone (site.clone w.config w.clone pool clusterId source final resourceId)
  | .projectConfig r tag => w.withConfig (site.projectConfig r w.config tag)
  | .projectClone r source final tag =>
    w.withClone (site.projectClone r w.clone source final tag)
  | .projectFiles destination tag =>
    w.withConfig (site.projectFiles destination w.config tag)

/-- The workspace after tasks, each with what it works with. -/
def afterAll (w : Workspace) (tasks : List (Site × Task)) : Workspace :=
  tasks.foldl (fun w (site, task) => (w.perform site task).spec) w

end Workspace

end PodPlacement
