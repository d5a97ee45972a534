import PodPlacement.Proofs.DeviceOrder
import PodPlacement.Proofs.Placing

/-!
# Doing the same once more

A projection writes to what it does not read: which steps there are, how each is noted, and
where they stop follows from the bare spec, which no step changes.  And what was written last
to a part of a spec is written last to it once more.  So a projection that is done again, on
what the first left, does the same and leaves the same, whether it succeeds or fails; and so
does every task in a workspace, if the scheduler gives its answer again.

    run dir write steps s' = { run dir write steps s with spec := … }         (run_spec_only)
    (s.project dir r).spec.bare = s.bare                                       (bare_project)
    s.bare.plan r = (s.plan r).map Step.bare                                      (plan_bare)
    let o := s.project dir r; o.spec.project dir r = o                        (project_again)
    let o := w.perform site task; (o.spec.perform site task).Repeats o
      if what it posts is answered as it was                                  (perform_again)
-/

namespace PodPlacement

/-! ## The same steps once more -/

section

variable {σ : Type} (dir : DatastoreDirectory) (write : Step → Text → σ → σ)

/-- Of two runs of the same steps only what they leave can differ. -/
theorem run_spec_only (steps : List Step) (s s' : σ) :
    run dir write steps s' =
      { run dir write steps s with spec := (run dir write steps s').spec } := by
  induction steps generalizing s s' with
  | nil => rfl
  | cons step steps ih =>
    cases hfound : step.isFound dir with
    | true =>
      rw [run_cons_of_isFound dir write hfound, run_cons_of_isFound dir write hfound,
        ih (write step (step.pathIn dir) s) (write step (step.pathIn dir) s')]
    | false =>
      obtain ⟨id, e, hid, he, hrun⟩ := run_cons_of_not_isFound dir write hfound steps s
      obtain ⟨id', e', hid', he', hrun'⟩ := run_cons_of_not_isFound dir write hfound steps s'
      obtain rfl : id = id' := Option.some.inj (hid.symm.trans hid')
      obtain rfl : e = e' := Except.error.inj (he.symm.trans he')
      rw [hrun, hrun']

/-- If steps that are done once more change nothing, a run that is done once more, on what it
left, is the same. -/
theorem run_again
    (hagain : ∀ steps s, carry dir write steps (carry dir write steps s) = carry dir write steps s)
    (steps : List Step) (s : σ) :
    run dir write steps (run dir write steps s).spec = run dir write steps s := by
  have hspec : (run dir write steps (run dir write steps s).spec).spec =
      (run dir write steps s).spec := by
    rw [spec_run, spec_run, hagain]
  rw [run_spec_only dir write steps s, hspec]

/-- What no step changes of a spec, no run changes. -/
theorem view_run {α : Type} {view : σ → α}
    (hview : ∀ step path s, view (write step path s) = view s) (steps : List Step) (s : σ) :
    view (run dir write steps s).spec = view s :=
  run_induction dir write (R := fun s s' => view s' = view s) (fun _ => rfl)
    (fun _ _ _ h h' => h'.trans h) (fun step _ s => hview step (step.pathIn dir) s) steps s

/-- A list whose entries steps send to datastores stays as it is if they are sent once more. -/
theorem carry_again_of_modifyAt {α : Type} (part : σ → List α) (send : Reference → Text → α → α)
    (hwrite : ∀ step path s, part (write step path s) = step.modifyAt send path (part s))
    (hsend : ∀ ref ref' path path' a, send ref path (send ref' path' a) = send ref path a)
    (steps : List Step) (s : σ) :
    part (carry dir write steps (carry dir write steps s)) = part (carry dir write steps s) := by
  apply List.ext_getElem?
  intro n
  rw [getElem?_carry dir write part send hwrite hsend steps (carry dir write steps s),
    getElem?_carry dir write part send hwrite hsend steps s]
  cases lastSent? n steps with
  | none => rfl
  | some ref =>
    cases (part s)[n]? with
    | none => rfl
    | some a => exact congrArg some (hsend ref ref _ _ a)

end

/-! ## Bare specs -/

/-- A device that is bare if it is a disk. -/
def Device.bare : Device → Device
  | .disk d => .disk d.bare
  | device => device

def DeviceChange.bare (c : DeviceChange) : DeviceChange := { c with device := c.device.bare }

/-- A configuration spec without what projections write, and with bare disks. -/
def ConfigSpec.bare (s : ConfigSpec) : ConfigSpec :=
  { s with files := none, changes := s.changes.map DeviceChange.bare }

/-- A locator without where its disk goes. -/
def DiskLocator.bare (l : DiskLocator) : DiskLocator :=
  { l with datastore := none, backing := { l.backing with fileName := "", datastore := none } }

/-- A clone spec without what projections write. -/
def CloneSpec.bare (s : CloneSpec) : CloneSpec :=
  { s with
    location := { s.location with
      datastore := none
      disks := s.location.disks.map DiskLocator.bare } }

theorem Device.bare_withFile (path : Text) (d : Device) : (d.withFile path).bare = d.bare := by
  cases d <;> rfl

theorem Device.disk?_bare (d : Device) : d.bare.disk? = d.disk?.map Disk.bare := by
  cases d <;> rfl

/-- A list of which only the entry at one place changes, and not in what is seen of it, looks
the same. -/
theorem map_modify_of_eq {α β : Type} {g : α → β} {f : α → α} (h : ∀ a, g (f a) = g a)
    (xs : List α) (n : Nat) : (xs.modify n f).map g = xs.map g := by
  induction xs generalizing n with
  | nil => rw [List.modify_nil]
  | cons x xs ih =>
    cases n with
    | zero => exact congrArg (· :: xs.map g) (h x)
    | succ n => exact congrArg (g x :: ·) (ih n)

namespace ConfigSpec

theorem bare_write (step : Step) (path : Text) (s : ConfigSpec) :
    (write step path s).bare = s.bare := by
  cases step with
  | files | location | skip => rfl
  | disk position d destination =>
    refine congrArg (fun changes => { s with files := none, changes }) ?_
    refine map_modify_of_eq (fun c => ?_) s.changes position
    exact congrArg (fun device => { c with device }) (Device.bare_withFile path c.device)

theorem write_bare (step : Step) : write step.bare = write step := by
  cases step <;> rfl

/-- The plan for the bare spec is the plan, each of its steps bare. -/
theorem plan_bare (s : ConfigSpec) (r : Recommendation) :
    s.bare.plan r = (s.plan r).map Step.bare := by
  rw [plan_eq_gather, plan_eq_gather, Recommendation.map_gather]
  congr 1
  funext p
  unfold stepsFor bare
  rw [List.zipIdx_map, List.filterMap_map, List.map_filterMap]
  refine List.filterMap_congr fun ⟨c, position⟩ _ => ?_
  simp only [Function.comp, DeviceChange.bare, Prod.map]
  rw [Device.disk?_bare]
  cases c.device.disk? with
  | none => rfl
  | some d =>
    show (if d.key = p.diskId then _ else none) =
      Option.map Step.bare (if d.key = p.diskId then _ else none)
    split <;> rfl

/-- The bare spec has the new disks of the spec, each bare. -/
theorem newDisks_bare (s : ConfigSpec) : s.bare.newDisks = s.newDisks.map Disk.bare := by
  unfold newDisks disksWith bare
  rw [List.filter_map, List.filterMap_map, List.map_filterMap]
  refine List.filterMap_congr fun c _ => ?_
  exact Device.disk?_bare c.device

variable (dir : DatastoreDirectory)

theorem carry_again (steps : List Step) (s : ConfigSpec) :
    carry dir write steps (carry dir write steps s) = carry dir write steps s := by
  have hfiles : (carry dir write steps (carry dir write steps s)).files =
      (carry dir write steps s).files := by
    rw [files_carry, files_carry]
    cases (steps.filterMap Step.filesTo?).getLast? <;> rfl
  have hchanges : (carry dir write steps (carry dir write steps s)).changes =
      (carry dir write steps s).changes :=
    carry_again_of_modifyAt dir write ConfigSpec.changes (fun _ => DeviceChange.withFile)
      changes_write (fun _ _ => DeviceChange.withFile_withFile) steps s
  rw [frame_carry dir steps (carry dir write steps s), hfiles, hchanges]

/-- A projection leaves the bare spec as it was. -/
theorem bare_project (s : ConfigSpec) (r : Recommendation) :
    (s.project dir r).spec.bare = s.bare :=
  view_run dir write bare_write (s.plan r) s

/-- A projection that is done once more, on what it left, is the same. -/
theorem project_again (s : ConfigSpec) (r : Recommendation) :
    (s.project dir r).spec.project dir r = s.project dir r := by
  have hplan : ((s.project dir r).spec.plan r).map Step.bare = (s.plan r).map Step.bare := by
    rw [← plan_bare, bare_project, plan_bare]
  calc (s.project dir r).spec.project dir r
      = run dir write (((s.project dir r).spec.plan r).map Step.bare) (s.project dir r).spec :=
        (run_map_bare dir write_bare _ _).symm
    _ = run dir write (s.plan r) (s.project dir r).spec := by
        rw [hplan, run_map_bare dir write_bare]
    _ = s.project dir r := run_again dir write (carry_again dir) (s.plan r) s

/-- To put the files of the machine on a datastore once more is the same. -/
theorem projectFiles_again (s : ConfigSpec) (destination : Reference) :
    (s.projectFiles dir destination).spec.projectFiles dir destination =
      s.projectFiles dir destination :=
  run_again dir write (carry_again dir) [.files destination] s

end ConfigSpec

namespace CloneSpec

theorem bare_write (step : Step) (path : Text) (s : CloneSpec) :
    (write step path s).bare = s.bare := by
  cases step with
  | files | location | skip => rfl
  | disk position d destination =>
    have hdisks : (s.location.disks.modify position (DiskLocator.sendTo destination path)).map
        DiskLocator.bare = s.location.disks.map DiskLocator.bare := by
      refine map_modify_of_eq (fun l => ?_) s.location.disks position
      rfl
    exact congrArg (fun disks =>
      { s with location := { s.location with datastore := none, disks } }) hdisks

/-- The plan for the bare spec is the plan. -/
theorem plan_bare (s : CloneSpec) (sources finals : List Disk) (r : Recommendation) :
    s.bare.plan sources finals r = s.plan sources finals r := by
  have hsteps : s.bare.stepsFor = s.stepsFor := by
    funext source ref
    unfold stepsFor bare
    rw [List.zipIdx_map, List.filterMap_map]
    rfl
  rw [plan_eq_gather, plan_eq_gather]
  unfold stepsForPlacement
  rw [hsteps]

variable (dir : DatastoreDirectory)

theorem carry_again (steps : List Step) (s : CloneSpec) :
    carry dir write steps (carry dir write steps s) = carry dir write steps s := by
  have hdatastore : (carry dir write steps (carry dir write steps s)).location.datastore =
      (carry dir write steps s).location.datastore := by
    rw [datastore_carry, datastore_carry]
    cases (steps.filterMap Step.locationTo?).getLast? <;> rfl
  have hdisks : (carry dir write steps (carry dir write steps s)).location.disks =
      (carry dir write steps s).location.disks :=
    carry_again_of_modifyAt dir write (fun s : CloneSpec => s.location.disks)
      DiskLocator.sendTo disks_write DiskLocator.sendTo_sendTo steps s
  rw [frame_carry dir steps (carry dir write steps s), hdatastore, hdisks]

/-- A projection that is done once more, on what it left, is the same. -/
theorem project_again (bound : Int) (source final : List Device) (s : CloneSpec)
    (r : Recommendation) :
    (s.project dir bound source final r).spec.project dir bound source final r =
      s.project dir bound source final r := by
  have hplan : (s.project dir bound source final r).spec.plan (slotOrder bound source)
      (slotOrder bound final) r = s.plan (slotOrder bound source) (slotOrder bound final) r := by
    have hbare : (s.project dir bound source final r).spec.bare = s.bare :=
      view_run dir write bare_write _ s
    rw [← plan_bare, hbare, plan_bare]
  show run dir write (plan _ _ _ r) _ = _
  rw [hplan]
  exact run_again dir write (carry_again dir) _ s

end CloneSpec

/-! ## The same question once more -/

/-- Whether the same is seen of two runs, but for what they post. -/
structure Trace.Repeats (t t' : Trace) : Prop where
  log : t.log = t'.log
  clusterLookups : t.clusterLookups = t'.clusterLookups
  datastoreLookups : t.datastoreLookups = t'.datastoreLookups

/-- Whether a run leaves what another left, ends in the same way, and the same is seen of it, but
for what is posted. -/
structure Outcome.Repeats {σ : Type} (o o' : Outcome σ) : Prop where
  spec : o.spec = o'.spec
  failure : o.failure = o'.failure
  trace : o.trace.Repeats o'.trace

theorem Trace.Repeats.refl (t : Trace) : t.Repeats t := ⟨rfl, rfl, rfl⟩

theorem Trace.Repeats.append {s s' t t' : Trace} (hs : s.Repeats s') (ht : t.Repeats t') :
    (s ++ t).Repeats (s' ++ t') where
  log := by rw [append_log, append_log, hs.log, ht.log]
  clusterLookups := by
    rw [append_clusterLookups, append_clusterLookups, hs.clusterLookups, ht.clusterLookups]
  datastoreLookups := by
    rw [append_datastoreLookups, append_datastoreLookups, hs.datastoreLookups,
      ht.datastoreLookups]

theorem Outcome.Repeats.refl {σ : Type} (o : Outcome σ) : o.Repeats o := ⟨rfl, rfl, .refl _⟩

theorem Outcome.repeats_following {σ : Type} (tag : Text) (p : Projection σ)
    {earlier earlier' : Trace} (h : earlier.Repeats earlier') :
    (following tag p earlier).Repeats (following tag p earlier') := by
  rw [following_eq, following_eq]
  exact ⟨rfl, rfl, h.append (.refl _)⟩

/-- The file behind a disk does not show in what is noted of a request. -/
theorem compositionEvents_bare (spec : ConfigSpec) (pod : Cluster) :
    compositionEvents spec.bare pod = compositionEvents spec pod := by
  unfold compositionEvents
  rw [ConfigSpec.newDisks_bare, List.map_map]
  rfl

namespace Site

variable (site : Site) (opening : Event) (pool : Reference) (clusterId tag : Text)

/-- If what is asked about two specs is answered alike, and nothing else than projections write
tells them apart, there is the same advice for both. -/
theorem advice_repeats {spec spec' : ConfigSpec} (hbare : spec'.bare = spec.bare)
    (hanswer : ∀ post ∈ (site.advice opening spec pool clusterId tag).2.posts,
      ∀ post' ∈ (site.advice opening spec' pool clusterId tag).2.posts,
        site.scheduler post' = site.scheduler post) :
    let advice := site.advice opening spec pool clusterId tag
    let advice' := site.advice opening spec' pool clusterId tag
    advice'.1 = advice.1 ∧ advice'.2.Repeats advice.2 := by
  simp only [advice_eq] at hanswer ⊢
  by_cases hmanaged : site.connection.apiType = "VirtualCenter"
  · cases hcluster : site.clusters clusterId with
    | error e =>
      iterate 2 rw [recommend_of_error site.scheduler _ pool tag hmanaged hcluster]
      exact ⟨rfl, .refl _⟩
    | ok pod =>
      obtain ⟨hasked, hclusters, hposts, hdatastores⟩ :=
        recommend_of_ok site.scheduler spec pool tag hmanaged hcluster
      obtain ⟨hasked', hclusters', hposts', hdatastores'⟩ :=
        recommend_of_ok site.scheduler spec' pool tag hmanaged hcluster
      have hreply := hanswer (site.connection.postFor spec pool pod) (by simp [hposts])
        (site.connection.postFor spec' pool pod) (by simp [hposts'])
      have hevents : compositionEvents spec' pod = compositionEvents spec pod := by
        rw [← compositionEvents_bare, hbare, compositionEvents_bare]
      -- Of a post no more than its address and its time limit shows in what is made of a reply.
      have hsame : (recommend site.connection site.clusters site.scheduler spec' pool clusterId
          tag).1 = (recommend site.connection site.clusters site.scheduler spec pool clusterId
          tag).1 := by
        rw [hasked, hasked', hreply]
        rfl
      refine ⟨by rw [hsame], .append (.refl _) ⟨?_, ?_, ?_⟩⟩
      · rw [log_recommend_of_ok _ _ _ _ hmanaged hcluster,
          log_recommend_of_ok _ _ _ _ hmanaged hcluster, hsame, hevents]
      · rw [hclusters, hclusters']
      · rw [hdatastores, hdatastores']
  · iterate 2 rw [recommend_of_unmanaged site.scheduler _ pool tag hmanaged]
    exact ⟨rfl, .refl _⟩

variable (spec : ConfigSpec) (resourceId : Text)

theorem create_of_ok {r : Recommendation}
    (h : (site.advice .creating spec pool clusterId (resourceTag resourceId)).1 = .ok r) :
    site.create spec pool clusterId resourceId =
      .following (resourceTag resourceId) (spec.project site.datastores r)
        (site.advice .creating spec pool clusterId (resourceTag resourceId)).2 := by
  unfold create
  simp only [h]
  rfl

theorem create_again
    (hanswer : ∀ post ∈ (site.create spec pool clusterId resourceId).trace.posts,
      ∀ post' ∈ (site.create (site.create spec pool clusterId resourceId).spec pool clusterId
        resourceId).trace.posts, site.scheduler post' = site.scheduler post) :
    (site.create (site.create spec pool clusterId resourceId).spec pool clusterId
      resourceId).Repeats (site.create spec pool clusterId resourceId) := by
  cases hadvice : (site.advice .creating spec pool clusterId (resourceTag resourceId)).1 with
  | error f =>
    have hspec : (site.create spec pool clusterId resourceId).spec = spec := by
      rw [(site.follows_create spec pool clusterId resourceId).eq_of_error hadvice]
    rw [hspec]
    exact .refl _
  | ok r =>
    have hspec : (site.create spec pool clusterId resourceId).spec =
        (spec.project site.datastores r).spec := by
      rw [create_of_ok site pool clusterId spec resourceId hadvice, Outcome.spec_following]
    rw [hspec] at hanswer ⊢
    rw [(site.follows_create _ pool clusterId resourceId).posts_eq,
      (site.follows_create _ pool clusterId resourceId).posts_eq] at hanswer
    obtain ⟨hsame, htrace⟩ := site.advice_repeats _ pool clusterId _
      (spec.bare_project site.datastores r) hanswer
    rw [create_of_ok site pool clusterId spec resourceId hadvice,
      create_of_ok site pool clusterId _ resourceId (hsame.trans hadvice),
      ConfigSpec.project_again]
    exact Outcome.repeats_following _ _ htrace

theorem clone_again (s : CloneSpec) (source final : List Device) :
    site.clone spec (site.clone spec s pool clusterId source final resourceId).spec pool clusterId
      source final resourceId = site.clone spec s pool clusterId source final resourceId := by
  -- The same is asked again, since nothing that is asked about has changed.
  unfold clone
  dsimp only
  cases (site.advice .cloning spec pool clusterId (resourceTag resourceId)).1 with
  | error f => rfl
  | ok r =>
    dsimp only
    rw [show (((site.projectClone r s source final (resourceTag resourceId)).after _).noteSuccess
      _).spec = (s.project site.datastores site.maxControllers source final r).spec from
      Outcome.spec_following _ _ _]
    unfold projectClone
    rw [CloneSpec.project_again]

end Site

namespace Workspace

theorem failure_withConfig (w : Workspace) (o : Outcome ConfigSpec) :
    (w.withConfig o).failure = o.failure := rfl

theorem spec_of_withConfig {w : Workspace} {o : Outcome ConfigSpec}
    (h : (w.withConfig o).spec = w) : o.spec = w.config :=
  congrArg Workspace.config h

theorem repeats_withConfig (w : Workspace) {o o' : Outcome ConfigSpec} (h : o' = o) :
    ({ w with config := o.spec }.withConfig o').Repeats (w.withConfig o) := by
  rw [h]
  exact .refl _

theorem repeats_withClone (w : Workspace) {o o' : Outcome CloneSpec} (h : o' = o) :
    ({ w with clone := o.spec }.withClone o').Repeats (w.withClone o) := by
  rw [h]
  exact .refl _

variable (w : Workspace) (site : Site) (task : Task)

/-- A task that is done once more, on what it left, does the same if it is answered alike. -/
theorem perform_again
    (hanswer : ∀ post ∈ (w.perform site task).trace.posts,
      ∀ post' ∈ ((w.perform site task).spec.perform site task).trace.posts,
        site.scheduler post' = site.scheduler post) :
    ((w.perform site task).spec.perform site task).Repeats (w.perform site task) := by
  cases task with
  | create pool clusterId resourceId =>
    obtain ⟨hspec, hfailure, htrace⟩ :=
      site.create_again pool clusterId w.config resourceId hanswer
    exact ⟨congrArg (fun config => { w with config }) hspec, hfailure, htrace⟩
  | clone pool clusterId source final resourceId =>
    have hagain := site.clone_again pool clusterId w.config resourceId w.clone source final
    exact repeats_withClone w hagain
  | projectConfig r tag =>
    exact repeats_withConfig w (congrArg (Outcome.ofProjection tag)
      (w.config.project_again site.datastores r))
  | projectClone r source final tag =>
    exact repeats_withClone w (congrArg (Outcome.ofProjection tag)
      (CloneSpec.project_again site.datastores site.maxControllers source final w.clone r))
  | projectFiles destination tag =>
    exact repeats_withConfig w (congrArg (Outcome.ofProjection tag)
      (w.config.projectFiles_again site.datastores destination))

/-- **To do the same once more changes nothing.**  A projection that is done once more, on what
it left, is the same in what it leaves, in its failure if it has one, and in what it looks up and
notes, whether it succeeds or fails.  So is a task, if what it posts is answered as it was the
first time, although its posts are about the specs as they were left. -/
theorem once_more_is_the_same :
    (∀ (dir : DatastoreDirectory) (r : Recommendation) (s : ConfigSpec),
      let o := s.project dir r
      o.spec.project dir r = o) ∧
    (∀ (dir : DatastoreDirectory) (bound : Int) (source final : List Device)
        (r : Recommendation) (s : CloneSpec),
      let o := s.project dir bound source final r
      o.spec.project dir bound source final r = o) ∧
    ∀ (w : Workspace) (site : Site) (task : Task),
      (∀ post ∈ (w.perform site task).trace.posts,
        ∀ post' ∈ ((w.perform site task).spec.perform site task).trace.posts,
          site.scheduler post' = site.scheduler post) →
      let o := w.perform site task
      let again := o.spec.perform site task
      again.Repeats o ∧
      ∀ post ∈ again.trace.posts, ∃ pool clusterId pod,
        task.question? = some (pool, clusterId) ∧ site.clusters clusterId = .ok pod ∧
        post.body = .ofSpec o.spec.config pool pod.reference :=
  ⟨fun dir r s => s.project_again dir r,
    fun dir bound source final r s => s.project_again dir bound source final r,
    fun w site task hanswer => ⟨w.perform_again site task hanswer,
      (w.perform site task).spec.posts_perform site task⟩⟩

/-- A site whose scheduler places the machine, and then once more where nothing is known. -/
def thenFailing : Site := siteOffering [machineTo "d", machineTo "gone"]

def thenGone : Recommendation :=
  ⟨"", [.machine ⟨.datastore "d"⟩, .machine ⟨.datastore "gone"⟩]⟩

set_option maxRecDepth 4000 in
theorem failing_is_the_same :
    (∀ post post', thenFailing.scheduler post' = thenFailing.scheduler post) ∧
    ((oneDisk.perform thenFailing creating).failure.map Failure.category = some .resolution ∧
      (oneDisk.perform thenFailing creating).spec ≠ oneDisk) ∧
    (let o := oneDisk.perform thenFailing creating
     let again := o.spec.perform thenFailing creating
     again.Repeats o ∧
     ∀ post ∈ again.trace.posts, ∃ pool clusterId pod,
       creating.question? = some (pool, clusterId) ∧ thenFailing.clusters clusterId = .ok pod ∧
       post.body = .ofSpec o.spec.config pool pod.reference) := by
  have hanswer : ∀ post post', thenFailing.scheduler post' = thenFailing.scheduler post :=
    fun _ _ => rfl
  have hadvice : (thenFailing.advice .creating oneDisk.config somePool "c"
      (resourceTag "")).1 = .ok thenGone :=
    (Site.advice_eq_ok_iff rfl rfl).2 (selects_siteOffering (by rfl) (by rfl) _)
  obtain ⟨hfailure, hspec⟩ := (thenFailing.follows_create oneDisk.config somePool "c" "").of_ok
    hadvice
  have hcategory : (thenFailing.create oneDisk.config somePool "c" "").failure.map
      Failure.category = some .resolution := by
    rw [hfailure]
    decide
  have hchanged : (thenFailing.create oneDisk.config somePool "c" "").spec ≠ oneDisk.config := by
    rw [hspec]
    decide
  have hperform : oneDisk.perform thenFailing creating =
      oneDisk.withConfig (thenFailing.create oneDisk.config somePool "c" "") := rfl
  refine ⟨hanswer, ?_, once_more_is_the_same.2.2 oneDisk thenFailing creating
    fun post _ post' _ => hanswer post post'⟩
  rw [hperform, failure_withConfig]
  exact ⟨hcategory, fun h => hchanged (spec_of_withConfig h)⟩

end Workspace

end PodPlacement
