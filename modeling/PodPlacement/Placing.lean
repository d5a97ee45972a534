import PodPlacement.Exchange
import PodPlacement.Projection

/-!
# Placing machines

A placement asks the scheduler once, takes one of its recommendations and carries it out on
the spec.  Nothing is tried again.  A failure before the recommendation is carried out leaves
the spec as it was.

    (site.advice …).2.posts.length ≤ 1              (length_posts_advice_le)
-/

namespace PodPlacement

/-- Which of the recommendations is taken. -/
inductive Selection where
  | first
  | last
  deriving DecidableEq, Repr

def Selection.pick : Selection → Offers → Members
  | first, offers => offers.first
  | last, offers => offers.last

/-- How many controllers are looked at where nothing else is said. -/
def defaultMaxControllers : Int := 4

/-- What a placement works with: the scheduler and how it is reached, what is known of
clusters and datastores, how many controllers are looked at, and which recommendation is
taken. -/
structure Site where
  connection : Connection
  scheduler : Scheduler
  clusters : ClusterDirectory
  datastores : DatastoreDirectory
  maxControllers : Int
  selection : Selection

/-- What comes of a placement: the spec as it was left, the failure if there was one, and
what could be seen on the way. -/
structure Outcome (σ : Type) where
  spec : σ
  failure : Option Failure
  trace : Trace

namespace Outcome

variable {σ : Type}

def ofProjection (tag : Text) (p : Projection σ) : Outcome σ :=
  ⟨p.spec, p.failure, { Trace.notes tag p.events with datastoreLookups := p.lookups }⟩

/-- The outcome after what was seen before. -/
def after (earlier : Trace) (o : Outcome σ) : Outcome σ :=
  { o with trace := earlier ++ o.trace }

/-- The outcome with a last note if it is a success. -/
def noteSuccess (tag : Text) (o : Outcome σ) : Outcome σ :=
  match o.failure with
  | none => { o with trace := o.trace ++ Trace.notes tag [.applied] }
  | some _ => o

end Outcome

namespace Site

/-- The recommendation to carry out, or why there is none. -/
def advice (site : Site) (opening : Event) (spec : ConfigSpec) (pool : Reference)
    (clusterId tag : Text) : Except Failure Recommendation × Trace :=
  let opened := Trace.notes tag [opening]
  let exchange := recommend site.connection site.clusters site.scheduler spec pool clusterId tag
  let recommendation : Except Failure Recommendation := do
    let offers ← exchange.1
    match Recommendation.ofJson (.object (site.selection.pick offers)) with
    | .ok r => .ok r
    | .error e => .error (.ofOffer e)
  (recommendation, opened ++ exchange.2)

theorem length_posts_advice_le (site : Site) (opening : Event) (spec : ConfigSpec)
    (pool : Reference) (clusterId tag : Text) :
    (site.advice opening spec pool clusterId tag).2.posts.length ≤ 1 := by
  show ([] ++ _ : List Post).length ≤ 1
  rw [List.nil_append]
  exact length_posts_recommend_le _ _ _ _ _ _ _

def projectConfig (site : Site) (r : Recommendation) (spec : ConfigSpec) (tag : Text) :
    Outcome ConfigSpec :=
  .ofProjection tag (spec.project site.datastores r)

def projectClone (site : Site) (r : Recommendation) (spec : CloneSpec)
    (source final : List Device) (tag : Text) : Outcome CloneSpec :=
  .ofProjection tag (spec.project site.datastores site.maxControllers source final r)

def projectFiles (site : Site) (destination : Reference) (spec : ConfigSpec) (tag : Text) :
    Outcome ConfigSpec :=
  .ofProjection tag (spec.projectFiles site.datastores destination)

def create (site : Site) (spec : ConfigSpec) (pool : Reference) (clusterId resourceId : Text) :
    Outcome ConfigSpec :=
  let tag := resourceTag resourceId
  let advice := site.advice .creating spec pool clusterId tag
  match advice.1 with
  | .error failure => ⟨spec, some failure, advice.2⟩
  | .ok r => ((site.projectConfig r spec tag).after advice.2).noteSuccess tag

/-- Places a copy of a machine.  The scheduler is asked about the final configuration, whose
disks may be larger or more than those of the source. -/
def clone (site : Site) (config : ConfigSpec) (spec : CloneSpec) (pool : Reference)
    (clusterId : Text) (source final : List Device) (resourceId : Text) :
    Outcome CloneSpec :=
  let tag := resourceTag resourceId
  let advice := site.advice .cloning config pool clusterId tag
  match advice.1 with
  | .error failure => ⟨spec, some failure, advice.2⟩
  | .ok r => ((site.projectClone r spec source final tag).after advice.2).noteSuccess tag

end Site

end PodPlacement
