import PodPlacement.Proofs.Exchange
import PodPlacement.Proofs.Interruption
import PodPlacement.Workspace

/-!
# What a placement leaves

A placement has two parts.  It asks the scheduler for advice, which changes nothing and looks no
datastore up; and if it is advised it carries the advice out, which fails by lookups alone.  So
a failure otherwise than by a lookup leaves the spec as it was, and what is posted is about the
spec as it was.

    (site.advice …).1 = .ok r ↔ site.Selects post r
      for the one post about a known cluster                                (advice_eq_ok_iff)
    Follows (site.advice …) spec (spec.project site.datastores)
      (site.create spec pool clusterId resourceId)                            (follows_create)
    Follows (site.advice …) s (s.project site.datastores …)
      (site.clone spec s pool clusterId source final resourceId)               (follows_clone)
    Follows (site.advice …) w … (w.perform site task)
      for a task that asks                                                   (follows_perform)
    Follows (site.advice …) before project o → o.failure = some f →
      f.EndsLookups site.datastores o.trace.datastoreLookups ∨
      o.spec = before ∧ o.trace.datastoreLookups = []                      (Follows.untouched)
-/

namespace PodPlacement

/-! ## What is seen of a projection -/

theorem Trace.append_assoc (s t u : Trace) : s ++ t ++ u = s ++ (t ++ u) := by
  show mk _ _ _ _ = mk _ _ _ _
  simp only [append_log, append_clusterLookups, append_posts, append_datastoreLookups,
    List.append_assoc]

theorem Trace.append_empty (t : Trace) : t ++ empty = t := by
  show mk (t.log ++ []) (t.clusterLookups ++ []) (t.posts ++ []) (t.datastoreLookups ++ []) = t
  simp only [List.append_nil]

/-- What is seen of a projection: what it notes and looks up, and then that it was a success, if
it was. -/
def Projection.trace {σ : Type} (tag : Text) (p : Projection σ) : Trace :=
  { Trace.notes tag p.events with datastoreLookups := p.lookups } ++
    match p.failure with
    | none => Trace.notes tag [.applied]
    | some _ => .empty

/-- A projection of what is a part of something, as a projection of the whole. -/
def Projection.map {σ τ : Type} (f : σ → τ) (p : Projection σ) : Projection τ :=
  ⟨f p.spec, p.failure, p.events, p.lookups⟩

namespace Outcome

variable {σ τ : Type} (f : σ → τ) (tag : Text) (p : Projection σ) (earlier : Trace)

/-- The outcome for a part of something, as the outcome for the whole. -/
def map (o : Outcome σ) : Outcome τ := ⟨f o.spec, o.failure, o.trace⟩

/-- The outcome of a projection that follows what was seen before. -/
def following : Outcome σ := ((ofProjection tag p).after earlier).noteSuccess tag

theorem following_eq : following tag p earlier = ⟨p.spec, p.failure, earlier ++ p.trace tag⟩ := by
  obtain ⟨spec, failure, events, lookups⟩ := p
  cases failure with
  | none => exact congrArg (Outcome.mk spec none) (Trace.append_assoc _ _ _)
  | some f =>
    exact congrArg (fun t => Outcome.mk spec (some f) (earlier ++ t)) (Trace.append_empty _).symm

theorem spec_following : (following tag p earlier).spec = p.spec := by rw [following_eq]

theorem failure_following : (following tag p earlier).failure = p.failure := by rw [following_eq]

theorem posts_following : (following tag p earlier).trace.posts = earlier.posts := by
  rw [following_eq]
  unfold Projection.trace
  cases p.failure <;> exact List.append_nil _

theorem datastoreLookups_following : (following tag p earlier).trace.datastoreLookups =
    earlier.datastoreLookups ++ p.lookups := by
  rw [following_eq]
  unfold Projection.trace
  cases p.failure <;> exact congrArg _ (List.append_nil _)

theorem map_following : (following tag p earlier).map f = following tag (p.map f) earlier := by
  rw [following_eq, following_eq]
  rfl

end Outcome

/-! ## What is seen of advice -/

/-- To ask the scheduler looks no datastore up, and what is posted is about the spec. -/
theorem trace_recommend (connection : Connection) (clusters : ClusterDirectory)
    (scheduler : Scheduler) (spec : ConfigSpec) (pool : Reference) (clusterId tag : Text) :
    let asked := recommend connection clusters scheduler spec pool clusterId tag
    asked.2.datastoreLookups = [] ∧
      ∀ post ∈ asked.2.posts, ∃ pod, clusters clusterId = .ok pod ∧
        post = connection.postFor spec pool pod := by
  intro asked
  by_cases hmanaged : connection.apiType = "VirtualCenter"
  · cases hcluster : clusters clusterId with
    | error e =>
      have hasked : asked = _ := recommend_of_error scheduler spec pool tag hmanaged hcluster
      rw [hasked]
      exact ⟨rfl, List.forall_mem_nil _⟩
    | ok pod =>
      obtain ⟨-, -, hposts, hlookups⟩ :=
        recommend_of_ok scheduler spec pool tag hmanaged hcluster
      refine ⟨hlookups, fun post hpost => ⟨pod, rfl, ?_⟩⟩
      rw [hposts] at hpost
      exact List.mem_singleton.1 hpost
  · have hasked : asked = _ := recommend_of_unmanaged scheduler spec pool tag hmanaged
    rw [hasked]
    exact ⟨rfl, List.forall_mem_nil _⟩

namespace Site

/-- The recommendation that is taken of those received, or why it is none. -/
def adopt (site : Site) (offers : Offers) : Except Failure Recommendation :=
  match Recommendation.ofJson (.object (site.selection.pick offers)) with
  | .ok r => .ok r
  | .error e => .error (.ofOffer e)

section

variable (site : Site) (opening : Event) (spec : ConfigSpec) (pool : Reference)
  (clusterId tag : Text)

/-- Advice is what is adopted of what comes of asking. -/
theorem advice_eq :
    let asked := recommend site.connection site.clusters site.scheduler spec pool clusterId tag
    site.advice opening spec pool clusterId tag =
      (asked.1.bind site.adopt, Trace.notes tag [opening] ++ asked.2) := rfl

theorem datastoreLookups_advice :
    (site.advice opening spec pool clusterId tag).2.datastoreLookups = [] := by
  show [] ++ _ = _
  rw [List.nil_append]
  exact (trace_recommend _ _ _ _ _ _ _).1

theorem posts_advice : ∀ post ∈ (site.advice opening spec pool clusterId tag).2.posts,
    ∃ pod, site.clusters clusterId = .ok pod ∧ post = site.connection.postFor spec pool pod := by
  show ∀ post ∈ [] ++ _, _
  rw [List.nil_append]
  exact (trace_recommend _ _ _ _ _ _ _).2

end

/-! ## What is selected -/

/-- Whether a recommendation is the one that is taken of the answer to a post. -/
def Selects (site : Site) (post : Post) (r : Recommendation) : Prop :=
  ∃ value offers, (site.scheduler post).Brings site.connection.room value ∧
    value.Lists offers.toList ∧
    Recommendation.ofJson (.object (site.selection.pick offers)) = .ok r

theorem adopt_eq_ok_iff (site : Site) (offers : Offers) (r : Recommendation) :
    site.adopt offers = .ok r ↔
      Recommendation.ofJson (.object (site.selection.pick offers)) = .ok r := by
  unfold adopt
  cases Recommendation.ofJson (.object (site.selection.pick offers)) with
  | ok r' =>
    show Except.ok r' = .ok r ↔ _
    rw [Except.ok.injEq, Except.ok.injEq]
  | error e => exact ⟨nofun, nofun⟩

/-- What is selected is what is adopted of what is made of the reply. -/
theorem selects_iff (site : Site) (post : Post) (r : Recommendation) :
    site.Selects post r ↔
      ((answerOf site.connection.room post (site.scheduler post)).bind
        SchedulerAnswer.offers).bind site.adopt = .ok r := by
  have hoffers (offers : Offers) :
      (answerOf site.connection.room post (site.scheduler post)).bind SchedulerAnswer.offers =
          .ok offers ↔
        ∃ value, (site.scheduler post).Brings site.connection.room value ∧
          value.Lists offers.toList :=
    bind_offers_eq_ok_iff post offers
  constructor
  · rintro ⟨value, offers, hbrings, hlists, hr⟩
    rw [(hoffers offers).2 ⟨value, hbrings, hlists⟩]
    exact (site.adopt_eq_ok_iff offers r).2 hr
  · intro h
    cases hasked : (answerOf site.connection.room post (site.scheduler post)).bind
        SchedulerAnswer.offers with
    | error f =>
      rw [hasked] at h
      cases h
    | ok offers =>
      rw [hasked] at h
      obtain ⟨value, hbrings, hlists⟩ := (hoffers offers).1 hasked
      exact ⟨value, offers, hbrings, hlists, (site.adopt_eq_ok_iff offers r).1 h⟩

/-- Of the answer to a post one recommendation is taken. -/
theorem Selects.unique {site : Site} {post : Post} {r r' : Recommendation}
    (h : site.Selects post r) (h' : site.Selects post r') : r = r' := by
  rw [selects_iff] at h h'
  exact Except.ok.inj (h.symm.trans h')

section

variable {site : Site} {opening : Event} {spec : ConfigSpec} {pool : Reference}
  {clusterId tag : Text} {r : Recommendation}

/-- In a known cluster the advice is what is selected of the answer to the post. -/
theorem advice_eq_ok_iff (hmanaged : site.connection.apiType = "VirtualCenter") {pod : Cluster}
    (hcluster : site.clusters clusterId = .ok pod) :
    (site.advice opening spec pool clusterId tag).1 = .ok r ↔
      site.Selects (site.connection.postFor spec pool pod) r := by
  rw [advice_eq, selects_iff]
  dsimp only
  rw [(recommend_of_ok site.scheduler spec pool tag hmanaged hcluster).1]

/-- There is advice only in a known cluster, for the answer to the one post. -/
theorem selects_of_advice (h : (site.advice opening spec pool clusterId tag).1 = .ok r) :
    ∃ pod, site.clusters clusterId = .ok pod ∧
      (site.advice opening spec pool clusterId tag).2.posts =
        [site.connection.postFor spec pool pod] ∧
      site.Selects (site.connection.postFor spec pool pod) r := by
  by_cases hmanaged : site.connection.apiType = "VirtualCenter"
  · cases hcluster : site.clusters clusterId with
    | error e =>
      rw [advice_eq, recommend_of_error site.scheduler spec pool tag hmanaged hcluster] at h
      cases h
    | ok pod =>
      refine ⟨pod, rfl, ?_, (advice_eq_ok_iff hmanaged hcluster).1 h⟩
      rw [advice_eq]
      exact (recommend_of_ok site.scheduler spec pool tag hmanaged hcluster).2.2.1
  · rw [advice_eq, recommend_of_unmanaged site.scheduler spec pool tag hmanaged] at h
    cases h

end

/-! ## Advice and what follows -/

/-- What a placement is that follows advice: the advice fails and nothing is done, or a
recommendation is carried out. -/
inductive Follows {σ : Type} (advice : Except Failure Recommendation × Trace)
    (before : σ) (project : Recommendation → Projection σ) : Outcome σ → Prop
  | unadvised {f : Failure} (h : advice.1 = .error f) :
      Follows advice before project ⟨before, some f, advice.2⟩
  | advised {r : Recommendation} (tag : Text) (h : advice.1 = .ok r) :
      Follows advice before project (.following tag (project r) advice.2)

theorem follows_create (site : Site) (spec : ConfigSpec) (pool : Reference)
    (clusterId resourceId : Text) :
    Follows (site.advice .creating spec pool clusterId (resourceTag resourceId)) spec
      (spec.project site.datastores) (site.create spec pool clusterId resourceId) := by
  unfold create
  dsimp only
  split
  · next f h => exact .unadvised h
  · next r h => exact .advised _ h

theorem follows_clone (site : Site) (spec : ConfigSpec) (s : CloneSpec) (pool : Reference)
    (clusterId : Text) (source final : List Device) (resourceId : Text) :
    Follows (site.advice .cloning spec pool clusterId (resourceTag resourceId)) s
      (fun r => s.project site.datastores site.maxControllers source final r)
      (site.clone spec s pool clusterId source final resourceId) := by
  unfold clone
  dsimp only
  split
  · next f h => exact .unadvised h
  · next r h => exact .advised _ h

variable {σ : Type} {before : σ} {project : Recommendation → Projection σ} {o : Outcome σ}

/-- What is done to a part of something is done to the whole. -/
theorem Follows.map {advice : Except Failure Recommendation × Trace}
    (h : Follows advice before project o) {τ : Type} (f : σ → τ) :
    Follows advice (f before) (fun r => (project r).map f) (o.map f) := by
  cases h with
  | unadvised h => exact .unadvised h
  | advised tag h =>
    rw [Outcome.map_following]
    exact .advised tag h

/-- What follows advice leaves the spec as it was, or as a projection leaves it. -/
theorem Follows.spec_induction {advice : Except Failure Recommendation × Trace}
    (h : Follows advice before project o) {P : σ → Prop} (hbefore : P before)
    (hproject : ∀ r, P (project r).spec) : P o.spec := by
  cases h with
  | unadvised => exact hbefore
  | advised =>
    rw [Outcome.spec_following]
    exact hproject _

section

variable {site : Site} {opening : Event} {spec : ConfigSpec} {pool : Reference}
  {clusterId tag : Text}

/-- What fails otherwise than by a lookup of a datastore has done nothing. -/
theorem Follows.untouched
    (h : Follows (site.advice opening spec pool clusterId tag) before project o)
    (hproject : ∀ r f, (project r).failure = some f →
      f.EndsLookups site.datastores (project r).lookups) {f : Failure} (hf : o.failure = some f) :
    f.EndsLookups site.datastores o.trace.datastoreLookups ∨
      o.spec = before ∧ o.trace.datastoreLookups = [] := by
  have hadvice := site.datastoreLookups_advice opening spec pool clusterId tag
  cases h with
  | unadvised => exact .inr ⟨rfl, hadvice⟩
  | @advised r tag =>
    -- Advice looks no datastore up, so the lookups are those of the projection.
    rw [Outcome.failure_following] at hf
    rw [Outcome.datastoreLookups_following, hadvice, List.nil_append]
    exact .inl (hproject r f hf)

theorem Follows.eq_of_error {advice : Except Failure Recommendation × Trace}
    (h : Follows advice before project o) {f : Failure} (hadvice : advice.1 = .error f) :
    o = ⟨before, some f, advice.2⟩ := by
  cases h with
  | unadvised h =>
    obtain rfl := Except.error.inj (h.symm.trans hadvice)
    rfl
  | advised _ h => cases h.symm.trans hadvice

theorem Follows.failure_of_error {advice : Except Failure Recommendation × Trace}
    (h : Follows advice before project o) {f : Failure} (hadvice : advice.1 = .error f) :
    o.failure = some f := by
  rw [h.eq_of_error hadvice]

/-- With advice a placement ends as its projection does. -/
theorem Follows.of_ok {advice : Except Failure Recommendation × Trace}
    (h : Follows advice before project o) {r : Recommendation} (hadvice : advice.1 = .ok r) :
    o.failure = (project r).failure ∧ o.spec = (project r).spec := by
  cases h with
  | unadvised h => cases h.symm.trans hadvice
  | advised _ h =>
    obtain rfl := Except.ok.inj (h.symm.trans hadvice)
    exact ⟨Outcome.failure_following .., Outcome.spec_following ..⟩

/-- A success follows advice. -/
theorem Follows.advice_of_succeeds {advice : Except Failure Recommendation × Trace}
    (h : Follows advice before project o) (ho : o.failure = none) : ∃ r, advice.1 = .ok r := by
  cases h with
  | unadvised => cases ho
  | advised _ h => exact ⟨_, h⟩

/-- Nothing is posted but for the advice. -/
theorem Follows.posts_eq {advice : Except Failure Recommendation × Trace}
    (h : Follows advice before project o) : o.trace.posts = advice.2.posts := by
  cases h with
  | unadvised => rfl
  | advised => exact Outcome.posts_following ..

/-- There is one post at most, and it is about the spec that was asked about. -/
theorem Follows.posts (h : Follows (site.advice opening spec pool clusterId tag) before project o) :
    o.trace.posts.length ≤ 1 ∧
    ∀ post ∈ o.trace.posts, ∃ pod, site.clusters clusterId = .ok pod ∧
      post.body = .ofSpec spec pool pod.reference := by
  rw [h.posts_eq]
  refine ⟨site.length_posts_advice_le .., fun post hpost => ?_⟩
  obtain ⟨pod, hpod, rfl⟩ := site.posts_advice _ _ _ _ _ post hpost
  exact ⟨pod, hpod, rfl⟩

end

end Site

/-! ## Half changed specs -/

/-- What a task asks the scheduler for, if it asks: a place in a pool and in a cluster. -/
def Task.question? : Task → Option (Reference × Text)
  | .create pool clusterId _ => some (pool, clusterId)
  | .clone pool clusterId _ _ _ => some (pool, clusterId)
  | .projectConfig _ _ | .projectClone _ _ _ _ | .projectFiles _ _ => none

namespace Workspace

/-- A task that asks for advice follows it, in the one spec that it works on. -/
theorem follows_perform (w : Workspace) (site : Site) {task : Task} {pool : Reference}
    {clusterId : Text} (htask : task.question? = some (pool, clusterId)) :
    ∃ opening tag project, Site.Follows (site.advice opening w.config pool clusterId tag) w project
      (w.perform site task) := by
  cases task with
  | create pool' clusterId' resourceId =>
    obtain ⟨rfl, rfl⟩ := Prod.mk.inj (Option.some.inj htask)
    exact ⟨_, _, _, (site.follows_create w.config pool' clusterId' resourceId).map
      fun config => { w with config }⟩
  | clone pool' clusterId' source final resourceId =>
    obtain ⟨rfl, rfl⟩ := Prod.mk.inj (Option.some.inj htask)
    exact ⟨_, _, _, (site.follows_clone w.config w.clone pool' clusterId' source final
      resourceId).map fun clone => { w with clone }⟩
  | projectConfig | projectClone | projectFiles => cases htask

theorem posts_perform_of_question?_eq_none (w : Workspace) (site : Site) {task : Task}
    (htask : task.question? = none) : (w.perform site task).trace.posts = [] := by
  cases task with
  | create | clone => cases htask
  | projectConfig | projectClone | projectFiles => rfl

/-- What is posted for a task is about the configuration spec as it is then. -/
theorem posts_perform (w : Workspace) (site : Site) (task : Task) :
    ∀ post ∈ (w.perform site task).trace.posts,
    ∃ pool clusterId pod, task.question? = some (pool, clusterId) ∧
      site.clusters clusterId = .ok pod ∧ post.body = .ofSpec w.config pool pod.reference := by
  intro post hpost
  cases htask : task.question? with
  | none =>
    rw [posts_perform_of_question?_eq_none w site htask] at hpost
    cases hpost
  | some question =>
    obtain ⟨opening, tag, project, hfollows⟩ := w.follows_perform site htask
    obtain ⟨pod, hpod, hbody⟩ := hfollows.posts.2 post hpost
    exact ⟨question.1, question.2, pod, rfl, hpod, hbody⟩

/-- A task that asks and fails otherwise than by the lookup of a datastore has done nothing. -/
theorem untouched_of_failure (w : Workspace) (site : Site) {task : Task} {pool : Reference}
    {clusterId : Text} (htask : task.question? = some (pool, clusterId)) {f : Failure}
    (hf : (w.perform site task).failure = some f) :
    f.EndsLookups site.datastores (w.perform site task).trace.datastoreLookups ∨
      (w.perform site task).spec = w ∧ (w.perform site task).trace.datastoreLookups = [] := by
  cases task with
  | projectConfig | projectClone | projectFiles => cases htask
  | create pool' clusterId' resourceId =>
    have hfollows := site.follows_create w.config pool' clusterId' resourceId
    refine (hfollows.untouched (fun r f => (w.config.ends_project _ r).endsLookups) hf).imp_right ?_
    rintro ⟨hspec, hlookups⟩
    refine ⟨?_, hlookups⟩
    show { w with config := _ } = w
    rw [hspec]
  | clone pool' clusterId' source final resourceId =>
    have hfollows :=
      site.follows_clone w.config w.clone pool' clusterId' source final resourceId
    refine (hfollows.untouched (fun r f =>
      (w.clone.ends_project _ site.maxControllers source final r).endsLookups) hf).imp_right ?_
    rintro ⟨hspec, hlookups⟩
    refine ⟨?_, hlookups⟩
    show { w with clone := _ } = w
    rw [hspec]

/-- **Only lookups of datastores leave a spec half changed.**  A placement, to create or to
clone, that fails otherwise than by the lookup of a datastore leaves both specs as they were.
It posts once at most, and what it posts is about the configuration spec as it was before.  To
clone leaves the configuration spec as it is, and to create the clone spec, whatever comes of
it.  Where the datastores are those of an inventory, such a lookup is of an identifier that has
no bytes or no datastore. -/
theorem untouched_unless_lookup_fails (w : Workspace) (site : Site) {task : Task}
    {pool : Reference} {clusterId : Text} (htask : task.question? = some (pool, clusterId)) :
    let o := w.perform site task
    (∀ f, o.failure = some f → f.EndsLookups site.datastores o.trace.datastoreLookups ∨
      o.spec = w ∧ o.trace.datastoreLookups = []) ∧
    o.trace.posts.length ≤ 1 ∧
    (∀ post ∈ o.trace.posts, ∃ pod, site.clusters clusterId = .ok pod ∧
      post.body = .ofSpec w.config pool pod.reference) ∧
    (∀ resourceId, task = .create pool clusterId resourceId → o.spec.clone = w.clone) ∧
    (∀ source final resourceId, task = .clone pool clusterId source final resourceId →
      o.spec.config = w.config) ∧
    ∀ inventory : Inventory, site.datastores = inventory.datastoreDirectory →
      ∀ f, o.failure = some f → f.EndsLookupsIn inventory o.trace.datastoreLookups ∨
        o.spec = w ∧ o.trace.datastoreLookups = [] := by
  intro o
  have huntouched : ∀ f, o.failure = some f →
      f.EndsLookups site.datastores o.trace.datastoreLookups ∨
        o.spec = w ∧ o.trace.datastoreLookups = [] :=
    fun f hf => w.untouched_of_failure site htask hf
  obtain ⟨opening, tag, project, hfollows⟩ := w.follows_perform site htask
  obtain ⟨honce, habout⟩ := hfollows.posts
  refine ⟨huntouched, honce, habout, ?_, ?_, fun inventory hinventory f hf => ?_⟩
  · rintro resourceId rfl
    rfl
  · rintro source final resourceId rfl
    rfl
  · rw [← Failure.endsLookups_inventory_iff, ← hinventory]
    exact huntouched f hf

/-- A machine with a new disk, and a copy of it with one locator. -/
def oneDisk : Workspace where
  config := ⟨some "vm", none, none, none,
    [⟨some .add, some .create, .disk ⟨7, some 1, some 0, none, 0, Backing.unspecified⟩⟩]⟩
  clone := ⟨⟨none, none, [⟨7, none, Backing.unspecified⟩]⟩, true, false⟩

/-- A site with one cluster and one datastore. -/
def siteOf (scheduler : Scheduler) : Site where
  connection := ⟨"http://scheduler.test", managedType, .whole 300, 100⟩
  scheduler := scheduler
  clusters := (Inventory.mk [⟨"c", "pod", ""⟩] []).clusterDirectory
  datastores := (Inventory.mk [] [⟨⟨"d", "ds"⟩, none⟩]).datastoreDirectory
  maxControllers := defaultMaxControllers
  selection := .first

def somePool : Reference := ⟨"ResourcePool", "p"⟩

/-- A site whose scheduler is out of order. -/
def refusing : Site := siteOf fun _ => .answer 503 "Service Unavailable" ""

/-- That machine to be placed. -/
def creating : Task := .create somePool "c" ""

def copying : Task := .clone somePool "c" [] [] ""

theorem refused_is_untouched :
    copying.question? = some (somePool, Text.proper "c") ∧
    (let o := oneDisk.perform refusing copying
     (∀ f, o.failure = some f → f.EndsLookups refusing.datastores o.trace.datastoreLookups ∨
       o.spec = oneDisk ∧ o.trace.datastoreLookups = []) ∧
     o.trace.posts.length ≤ 1 ∧
     (∀ post ∈ o.trace.posts, ∃ pod, refusing.clusters "c" = .ok pod ∧
       post.body = .ofSpec oneDisk.config somePool pod.reference) ∧
     (∀ resourceId, copying = .create somePool "c" resourceId →
       o.spec.clone = oneDisk.clone) ∧
     (∀ source final resourceId,
       copying = .clone somePool "c" source final resourceId →
       o.spec.config = oneDisk.config) ∧
     ∀ inventory : Inventory, refusing.datastores = inventory.datastoreDirectory →
       ∀ f, o.failure = some f → f.EndsLookupsIn inventory o.trace.datastoreLookups ∨
         o.spec = oneDisk ∧ o.trace.datastoreLookups = []) :=
  ⟨rfl, untouched_unless_lookup_fails oneDisk refusing rfl⟩

/-- An action that offers a datastore for the machine. -/
def machineTo (id : Text) : Json := .object [("destination", (Reference.datastore id).write)]

/-- An action that offers a datastore for a disk. -/
def diskTo (key : Int) (id : Text) : Json :=
  let disk : Json :=
    .object [("disk_id", .whole key), ("datastore", (Reference.datastore id).write)]
  .object [("relocate_spec", .object [("disk", .array [disk])])]

/-- An answer with one recommendation. -/
def offering (actions : List Json) : Json :=
  .object [("recommendations", .array [.object [("actions", .array actions)]])]

/-- A site whose scheduler has one recommendation. -/
def siteOffering (actions : List Json) : Site :=
  siteOf fun _ => .answer 200 "OK" (offering actions).render

/-- If the answer there is read as it is meant, its recommendation is selected. -/
theorem selects_siteOffering {actions : List Json} {r : Recommendation}
    (hread : readBody 100 (offering actions).render = .ok (offering actions))
    (hr : Recommendation.ofJson (.object [("actions", .array actions)]) = .ok r) (post : Post) :
    (siteOffering actions).Selects post r :=
  ⟨offering actions, ⟨[("actions", .array actions)], []⟩,
    ⟨_, ⟨200, "OK", rfl, by decide⟩, hread⟩, .given rfl, hr⟩

/-- An answer that places the machine on a datastore that is known, and then on one whose
identifier has no bytes. -/
def halfKnown : Json :=
  let place (id : Text) : Json := .object [("destination", (Reference.datastore id).write)]
  let offer : Json := .object [("actions", .array [place "d", place Text.loneHalf])]
  .object [("recommendations", .array [offer])]

/-- What cannot be looked for leaves a spec half changed, and is no failure of resolution. -/
theorem half_known_is_half_done :
    let site := siteOf fun _ => .answer 200 "OK" halfKnown.render
    let o := oneDisk.perform site (.create somePool "c" "")
    (o.failure.map Failure.category, oneDisk.config.files, o.spec.config.files) =
      (some .foreign, none, some ⟨some "[ds]"⟩) := by
  decide +kernel

end Workspace

end PodPlacement
