import PodPlacement.Proofs.LongNumber
import PodPlacement.Proofs.Placing

/-!
# Recommendations that are not taken

Of all the recommendations of an answer only the one that is taken is looked at; of the others
not even more than their number is seen.  So two runs whose schedulers agree in that one are
`Alike`.  The answer has to be read as a whole, though, and one alternative that cannot be read
is enough to keep it from that.

    the replies of both schedulers agree in the one that is taken, for all that is posted →
      (w.perform site task).Alike (w.perform (site.withScheduler scheduler) task)
                                                                          (alike_of_agrees)
    digitLimit < digits → the placement fails by (numbered digits)      (failure_numbering)
-/

namespace PodPlacement

open Decimal

/-! ## What two runs have in common -/

/-- An event without the number of the recommendations that were received. -/
def Event.uncounted : Event → Event
  | .received _ => .received 0
  | event => event

/-- A note without the number of the recommendations that were received. -/
def Note.uncounted (n : Note) : Note := ⟨n.tag, n.event.uncounted⟩

/-- Whether the same is seen of two runs, but for the number of recommendations. -/
structure Trace.Alike (t t' : Trace) : Prop where
  log : t.log.map Note.uncounted = t'.log.map Note.uncounted
  clusterLookups : t.clusterLookups = t'.clusterLookups
  posts : t.posts = t'.posts
  datastoreLookups : t.datastoreLookups = t'.datastoreLookups

/-- Whether two runs end in the same way, and the same is seen of them but for the number of
recommendations. -/
structure Outcome.Alike {σ : Type} (o o' : Outcome σ) : Prop where
  spec : o.spec = o'.spec
  failure : o.failure = o'.failure
  trace : o.trace.Alike o'.trace

theorem Trace.Alike.refl (t : Trace) : t.Alike t := ⟨rfl, rfl, rfl, rfl⟩

theorem Trace.Alike.append {s s' t t' : Trace} (hs : s.Alike s') (ht : t.Alike t') :
    (s ++ t).Alike (s' ++ t') where
  log := by simp only [append_log, List.map_append, hs.log, ht.log]
  clusterLookups := by simp only [append_clusterLookups, hs.clusterLookups, ht.clusterLookups]
  posts := by simp only [append_posts, hs.posts, ht.posts]
  datastoreLookups := by
    simp only [append_datastoreLookups, hs.datastoreLookups, ht.datastoreLookups]

theorem Outcome.Alike.refl {σ : Type} (o : Outcome σ) : o.Alike o := ⟨rfl, rfl, .refl _⟩

/-- A projection ends in the same way after whatever was seen before. -/
theorem Outcome.alike_following {σ : Type} (tag : Text) (p : Projection σ)
    {earlier earlier' : Trace} (h : earlier.Alike earlier') :
    (following tag p earlier).Alike (following tag p earlier') := by
  rw [following_eq, following_eq]
  exact ⟨rfl, rfl, h.append (.refl _)⟩

/-! ## Replies that agree -/

/-- Whether two replies list recommendations that agree in the one that is taken. -/
def Selection.Agrees (selection : Selection) (room : Nat) (reply reply' : Reply) : Prop :=
  ∃ offers offers' : Offers, selection.pick offers = selection.pick offers' ∧
    (∃ value, reply.Brings room value ∧ value.Lists offers.toList) ∧
    ∃ value, reply'.Brings room value ∧ value.Lists offers'.toList

/-- What comes of asking in a known cluster, if recommendations are listed. -/
theorem recommend_of_brings {connection : Connection} {clusters : ClusterDirectory}
    (scheduler : Scheduler) (spec : ConfigSpec) (pool : Reference) {clusterId : Text} (tag : Text)
    (hmanaged : connection.apiType = "VirtualCenter") {pod : Cluster}
    (hcluster : clusters clusterId = .ok pod) {offers : Offers}
    (hbrings : ∃ value, (scheduler (connection.postFor spec pool pod)).Brings
      connection.room value ∧
      value.Lists offers.toList) :
    recommend connection clusters scheduler spec pool clusterId tag =
      (.ok offers, Trace.clusterLookup clusterId ++ Trace.notes tag (compositionEvents spec pod) ++
        Trace.post (connection.postFor spec pool pod) ++
        Trace.notes tag [.received offers.size]) := by
  have hanswer := (answerOf_eq_ok_iff (connection.postFor spec pool pod) ⟨offers.toList⟩).2 hbrings
  unfold recommend
  rw [(managed_iff connection).2 hmanaged]
  simp only [Bool.not_true, Bool.false_eq_true, if_false, hcluster, hanswer]
  rfl

namespace Site

def withScheduler (site : Site) (scheduler : Scheduler) : Site :=
  { site with scheduler := scheduler }

section

variable (site : Site) (scheduler : Scheduler) (opening : Event) (spec : ConfigSpec)
  (pool : Reference) (clusterId tag : Text)

theorem advice_alike
    (hagree : ∀ post ∈ (site.advice opening spec pool clusterId tag).2.posts,
      site.selection.Agrees site.connection.room (site.scheduler post) (scheduler post)) :
    let advice := site.advice opening spec pool clusterId tag
    let advice' := (site.withScheduler scheduler).advice opening spec pool clusterId tag
    advice.1 = advice'.1 ∧ advice.2.Alike advice'.2 := by
  rw [advice_eq] at hagree
  simp only [advice_eq, withScheduler]
  by_cases hmanaged : site.connection.apiType = "VirtualCenter"
  · cases hcluster : site.clusters clusterId with
    | error e =>
      iterate 2 rw [recommend_of_error _ spec pool tag hmanaged hcluster]
      exact ⟨rfl, .refl _⟩
    | ok pod =>
      obtain ⟨-, -, hposts, -⟩ :=
        recommend_of_ok site.scheduler spec pool tag hmanaged hcluster
      obtain ⟨offers, offers', hpick, hbrings, hbrings'⟩ :=
        hagree (site.connection.postFor spec pool pod) (by simp [hposts])
      rw [recommend_of_brings site.scheduler spec pool tag hmanaged hcluster hbrings,
        recommend_of_brings scheduler spec pool tag hmanaged hcluster hbrings']
      refine ⟨?_, .append (.refl _) (.append (.refl _) ⟨rfl, rfl, rfl, rfl⟩)⟩
      -- Of all that was received only what is picked is looked at.
      show site.adopt offers = adopt { site with scheduler } offers'
      unfold adopt
      rw [hpick]
  · iterate 2 rw [recommend_of_unmanaged _ spec pool tag hmanaged]
    exact ⟨rfl, .refl _⟩

end

variable (site : Site) (scheduler : Scheduler) (spec : ConfigSpec) (pool : Reference)
  (clusterId resourceId : Text)

theorem create_alike
    (hagree : ∀ post ∈ (site.create spec pool clusterId resourceId).trace.posts,
      site.selection.Agrees site.connection.room (site.scheduler post) (scheduler post)) :
    (site.create spec pool clusterId resourceId).Alike
      ((site.withScheduler scheduler).create spec pool clusterId resourceId) := by
  rw [(site.follows_create spec pool clusterId resourceId).posts_eq] at hagree
  obtain ⟨hadvice, htrace⟩ := site.advice_alike scheduler _ _ _ _ _ hagree
  unfold create
  dsimp only
  rw [← hadvice]
  split
  · exact ⟨rfl, rfl, htrace⟩
  · exact Outcome.alike_following _ _ htrace

theorem clone_alike (s : CloneSpec) (source final : List Device)
    (hagree : ∀ post ∈ (site.clone spec s pool clusterId source final resourceId).trace.posts,
      site.selection.Agrees site.connection.room (site.scheduler post) (scheduler post)) :
    (site.clone spec s pool clusterId source final resourceId).Alike
      ((site.withScheduler scheduler).clone spec s pool clusterId source final resourceId) := by
  rw [(site.follows_clone spec s pool clusterId source final resourceId).posts_eq] at hagree
  obtain ⟨hadvice, htrace⟩ := site.advice_alike scheduler _ _ _ _ _ hagree
  unfold clone
  dsimp only
  rw [← hadvice]
  split
  · exact ⟨rfl, rfl, htrace⟩
  · exact Outcome.alike_following _ _ htrace

end Site

namespace Workspace

/-- **What is not taken does not matter.**  If the replies to what is posted list recommendations
that agree in the one that is taken, a task leaves the same specs, fails in the same way or not at
all, looks the same datastores up, and the same is noted but for the number of recommendations. -/
theorem alike_of_agrees (w : Workspace) (site : Site) (scheduler : Scheduler) (task : Task)
    (hagree : ∀ post ∈ (w.perform site task).trace.posts,
      site.selection.Agrees site.connection.room (site.scheduler post) (scheduler post)) :
    (w.perform site task).Alike (w.perform (site.withScheduler scheduler) task) := by
  cases task with
  | create pool clusterId resourceId =>
    obtain ⟨hspec, hfailure, htrace⟩ :=
      site.create_alike scheduler w.config pool clusterId resourceId hagree
    exact ⟨congrArg (fun config => { w with config }) hspec, hfailure, htrace⟩
  | clone pool clusterId source final resourceId =>
    obtain ⟨hspec, hfailure, htrace⟩ :=
      site.clone_alike scheduler w.config pool clusterId resourceId w.clone source final hagree
    exact ⟨congrArg (fun clone => { w with clone }) hspec, hfailure, htrace⟩
  | projectConfig | projectClone | projectFiles => exact .refl _

/-- A recommendation that places the machine on a datastore that is known. -/
def toKnown : Members :=
  [("actions", .array [.object [("destination", (Reference.datastore "d").write)]])]

/-- An answer that recommends this, and then more. -/
def recommended (more : List Members) : Json :=
  .object [("recommendations", .array ((toKnown :: more).map .object))]

/-- A scheduler with such an answer. -/
def recommending (more : List Members) : Scheduler := fun _ =>
  .answer 200 "OK" (recommended more).render

theorem brings_recommending {more : List Members}
    (h : readBody 100 (recommended more).render = .ok (recommended more)) (post : Post) :
    ∃ value, (recommending more post).Brings 100 value ∧ value.Lists (toKnown :: more) :=
  ⟨recommended more, ⟨_, ⟨200, "OK", rfl, by decide⟩, h⟩, .given rfl⟩

set_option maxRecDepth 4000 in
theorem alike_of_recommending :
    let site := siteOf (recommending [])
    let scheduler := recommending [[("actions", .whole 7)]]
    let task : Task := .create somePool "c" ""
    (∀ post ∈ (oneDisk.perform site task).trace.posts,
      site.selection.Agrees site.connection.room (site.scheduler post) (scheduler post)) ∧
    (oneDisk.perform site task).spec.config.files = some ⟨some "[ds]"⟩ ∧
    (oneDisk.perform site task).Alike (oneDisk.perform (site.withScheduler scheduler) task) := by
  intro site scheduler task
  have hagree : ∀ post ∈ (oneDisk.perform site task).trace.posts,
      site.selection.Agrees site.connection.room (site.scheduler post) (scheduler post) := by
    intro post _
    exact ⟨⟨toKnown, []⟩, ⟨toKnown, [[("actions", .whole 7)]]⟩, rfl,
      brings_recommending (by rfl) post, brings_recommending (by rfl) post⟩
  exact ⟨hagree, by decide +kernel, alike_of_agrees oneDisk site scheduler task hagree⟩

/-- A site whose scheduler recommends nothing to be done, and then what has a number of so many
digits. -/
def numbering (digits : Nat) : Site := siteOf fun _ => .answer 200 "OK" (numbered digits)

theorem failure_numbering {digits : Nat} (hlong : digitLimit < digits) (spec : ConfigSpec)
    (pool : Reference) (resourceId : Text) :
    ((numbering digits).create spec pool "c" resourceId).failure =
      some (.badValue (tooLongText digits)) := by
  have hcluster : (numbering digits).clusters "c" = .ok ⟨"c", "pod", ""⟩ := by rfl
  have hanswer (post : Post) : answerOf 100 post (.answer 200 "OK" (numbered digits)) =
      .error (.badValue (tooLongText digits)) := by
    rw [answerOf_of_answers post ⟨200, "OK", rfl, by decide⟩, readBody_numbered 97 hlong]
    rfl
  have hadvice : ((numbering digits).advice .creating spec pool "c" (resourceTag resourceId)).1 =
      .error (.badValue (tooLongText digits)) := by
    rw [Site.advice_eq]
    dsimp only
    rw [(recommend_of_ok _ spec pool _ (by rfl) hcluster).1]
    show ((answerOf 100 _ (.answer 200 "OK" (numbered digits))).bind _).bind _ = _
    rw [hanswer]
    rfl
  exact (Site.follows_create _ _ _ _ _).failure_of_error hadvice

/-- What is not taken matters if it cannot be read. -/
theorem long_number_matters :
    ((numbering 1).create oneDisk.config somePool "c" "").failure.isNone = true ∧
    ((numbering 4301).create oneDisk.config somePool "c" "").failure.isSome = true := by
  have hlong : digitLimit < 4301 := by decide
  refine ⟨by decide +kernel, ?_⟩
  rw [failure_numbering hlong]
  rfl

end Workspace

end PodPlacement
