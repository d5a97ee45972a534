import PodPlacement.Proofs.Alternatives

/-!
# The status of an answer

A run depends on its scheduler only by what is made of the replies to what it posts, and that
depends on a status only by whether it is one of an error, from 400 up to 599.  So an answer with
such a status is refused whatever its body is, and any other counts as much as 200 does: what
comes with a status that means no success is taken if its body lists recommendations.

    answerOf post (scheduler post) = answerOf post (scheduler' post) for what is posted →
      w.perform (site.withScheduler …) task = w.perform site task        (perform_congr)
    ¬(400 ≤ status ∧ status < 600) → answerOf room post (.answer status reason body) =
      answerOf room post (.answer 200 "OK" body)                       (answerOf_of_not_error)
-/

namespace PodPlacement

/-! ## What is made of replies -/

/-- What comes of asking follows from what is made of the reply. -/
theorem recommend_congr {connection : Connection} {clusters : ClusterDirectory}
    {scheduler scheduler' : Scheduler} {spec : ConfigSpec} {pool : Reference} {clusterId : Text}
    (tag : Text)
    (h : ∀ pod, clusters clusterId = .ok pod → ∀ post, post = connection.postFor spec pool pod →
      answerOf connection.room post (scheduler' post) =
        answerOf connection.room post (scheduler post)) :
    recommend connection clusters scheduler' spec pool clusterId tag =
      recommend connection clusters scheduler spec pool clusterId tag := by
  unfold recommend
  cases hcluster : clusters clusterId with
  | error e => rfl
  | ok pod => simp only [h pod hcluster _ rfl]

theorem Site.advice_congr (site : Site) {scheduler : Scheduler} (opening : Event)
    {spec : ConfigSpec} {pool : Reference} {clusterId : Text} (tag : Text)
    (h : ∀ pod, site.clusters clusterId = .ok pod →
      ∀ post, post = site.connection.postFor spec pool pod →
        answerOf site.connection.room post (scheduler post) =
          answerOf site.connection.room post (site.scheduler post)) :
    (site.withScheduler scheduler).advice opening spec pool clusterId tag =
      site.advice opening spec pool clusterId tag := by
  simp only [advice_eq, withScheduler, recommend_congr tag h]
  rfl

theorem Workspace.perform_congr (w : Workspace) (site : Site) {scheduler : Scheduler} (task : Task)
    (h : ∀ pool clusterId, task.question? = some (pool, clusterId) →
      ∀ pod, site.clusters clusterId = .ok pod →
      ∀ post, post = site.connection.postFor w.config pool pod →
        answerOf site.connection.room post (scheduler post) =
          answerOf site.connection.room post (site.scheduler post)) :
    w.perform (site.withScheduler scheduler) task = w.perform site task := by
  cases task with
  | create pool clusterId resourceId =>
    refine congrArg w.withConfig ?_
    unfold Site.create
    dsimp only
    rw [site.advice_congr _ _ (h pool clusterId rfl)]
    rfl
  | clone pool clusterId source final resourceId =>
    refine congrArg w.withClone ?_
    unfold Site.clone
    dsimp only
    rw [site.advice_congr _ _ (h pool clusterId rfl)]
    rfl
  | projectConfig | projectClone | projectFiles => rfl

/-- A status other than one of an error counts as much as 200 does. -/
theorem answerOf_of_not_error (room : Nat) (post : Post) {status : Nat} (reason body : Text)
    (h : ¬(400 ≤ status ∧ status < 600)) :
    answerOf room post (.answer status reason body) =
      answerOf room post (.answer 200 "OK" body) := by
  cases body with
  | broken s half rest => rfl
  | proper text =>
    rw [answerOf_of_answers post ⟨status, reason, rfl, h⟩,
      answerOf_of_answers post ⟨200, "OK", rfl, by decide⟩]

namespace Workspace

/-- A task for which there are no recommendations fails as asking for them fails, and does
nothing. -/
theorem perform_of_recommend_error (w : Workspace) (site : Site) {task : Task} {pool : Reference}
    {clusterId : Text} (htask : task.question? = some (pool, clusterId)) {f : Failure}
    (h : ∀ tag, (recommend site.connection site.clusters site.scheduler w.config pool clusterId
      tag).1 = .error f) :
    (w.perform site task).failure = some f ∧ (w.perform site task).spec = w ∧
      (w.perform site task).trace.datastoreLookups = [] := by
  obtain ⟨opening, tag, project, hfollows⟩ := w.follows_perform site htask
  have hadvice : (site.advice opening w.config pool clusterId tag).1 = .error f := by
    rw [Site.advice_eq]
    show (recommend _ _ _ _ _ _ tag).1.bind _ = _
    rw [h tag]
    rfl
  rw [hfollows.eq_of_error hadvice]
  exact ⟨rfl, rfl, site.datastoreLookups_advice ..⟩

/-- **Only the statuses of errors are refused.**  If the scheduler answers with one of these, to
ask it for recommendations fails with a failure of the request, whatever the body is, and so does
every task that asks: it leaves both specs as they are, and looks no datastore up.  With any other
status a task does what it does with 200. -/
theorem error_statuses_are_refused (w : Workspace) (site : Site) {task : Task} {pool : Reference}
    {clusterId : Text} {pod : Cluster} {status : Nat} {reason body : Text}
    (htask : task.question? = some (pool, clusterId))
    (hmanaged : site.connection.apiType = "VirtualCenter")
    (hcluster : site.clusters clusterId = .ok pod)
    (hreply : site.scheduler (site.connection.postFor w.config pool pod) =
      .answer status reason body) :
    (400 ≤ status ∧ status < 600 → ∃ f, f.category = .request ∧
      (∀ tag, (recommend site.connection site.clusters site.scheduler w.config pool clusterId
        tag).1 = .error f) ∧
      (w.perform site task).failure = some f ∧ (w.perform site task).spec = w ∧
      (w.perform site task).trace.datastoreLookups = []) ∧
    (¬(400 ≤ status ∧ status < 600) →
      w.perform (site.withScheduler fun _ => .answer 200 "OK" body) task =
        w.perform site task) := by
  constructor
  · intro hstatus
    have hunusable : (site.scheduler (site.connection.postFor w.config pool pod)).Unusable
        site.connection.room := by
      rw [hreply]
      exact .refused hstatus
    obtain ⟨f, hf, hcategory⟩ := answerOf_of_unusable (site.connection.postFor w.config pool pod)
      hunusable
    have hasked (tag : Text) : (recommend site.connection site.clusters site.scheduler w.config
        pool clusterId tag).1 = .error f := by
      rw [(recommend_of_ok site.scheduler w.config pool tag hmanaged hcluster).1]
      show (answerOf _ _ _).bind _ = _
      rw [hf]
      rfl
    exact ⟨f, hcategory, hasked, w.perform_of_recommend_error site htask hasked⟩
  · intro hstatus
    refine w.perform_congr site task ?_
    rintro pool' clusterId' htask' pod' hcluster' _ rfl
    obtain ⟨rfl, rfl⟩ := Prod.mk.inj (Option.some.inj (htask.symm.trans htask'))
    obtain rfl := Except.ok.inj (hcluster.symm.trans hcluster')
    rw [hreply, answerOf_of_not_error _ _ reason body hstatus]

/-- A site whose scheduler answers with a status that means no success. -/
def redirecting : Site := siteOf fun _ => .answer 300 "Multiple Choices" (recommended []).render

theorem unavailable_is_refused :
    copying.question? = some (somePool, Text.proper "c") ∧
    refusing.connection.apiType = "VirtualCenter" ∧
    refusing.clusters "c" = .ok ⟨"c", "pod", ""⟩ ∧
    refusing.scheduler (refusing.connection.postFor oneDisk.config somePool ⟨"c", "pod", ""⟩) =
      .answer 503 "Service Unavailable" "" ∧
    ∃ f, f.category = .request ∧
      (∀ tag, (recommend refusing.connection refusing.clusters refusing.scheduler oneDisk.config
        somePool "c" tag).1 = .error f) ∧
      (oneDisk.perform refusing copying).failure = some f ∧
      (oneDisk.perform refusing copying).spec = oneDisk ∧
      (oneDisk.perform refusing copying).trace.datastoreLookups = [] :=
  ⟨rfl, rfl, rfl, rfl,
    (error_statuses_are_refused oneDisk refusing rfl rfl rfl rfl).1 (by decide)⟩

/-- What comes with a status that means no success is taken all the same. -/
theorem multiple_choices_are_taken :
    let o := oneDisk.perform redirecting creating
    (∀ post, ∃ body, redirecting.scheduler post = .answer 300 "Multiple Choices" body) ∧
    o.failure = none ∧ oneDisk.config.files = none ∧ o.spec.config.files = some ⟨some "[ds]"⟩ :=
  ⟨fun _ => ⟨_, rfl⟩, by decide +kernel⟩

end Workspace

end PodPlacement
