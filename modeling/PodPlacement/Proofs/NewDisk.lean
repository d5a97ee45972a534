import PodPlacement.Proofs.Placing

/-!
# New disks

The scheduler is asked for a datastore for each new disk: each change that adds a disk with a new
file, and no other, has its entry in the request, in order.  A recommendation is carried out on
all disks of a key, though, whatever is to be done with them.  So a success that follows a
recommendation for every disk that was asked about keeps each new disk and gives it a datastore.

    (PlacementRequest.ofSpec spec pool pod.reference).IsFor spec pool pod        (isFor_ofSpec)
    Asked pod changes entries → d new in changes → d.key asked about in entries  (Asked.mem_ids)
    (site.create …).failure = none → ∃ post r, posts = [post] ∧ site.Selects post r ∧
      (site.create …).spec = (spec.project site.datastores r).spec            (create_succeeds)
-/

namespace PodPlacement

/-! ## What is asked -/

/-- What is asked about changes: for each that adds a disk with a new file there is an entry with
its key and its backing, and for any other there is none. -/
inductive Asked (pod : Reference) : List DeviceChange → List PodConfig → Prop
  | nil : Asked pod [] []
  | new {d : Disk} {changes : List DeviceChange} {entries : List PodConfig}
      (h : Asked pod changes entries) :
      Asked pod (⟨some .add, some .create, .disk d⟩ :: changes)
        (⟨pod, [⟨d.key, d.backing⟩]⟩ :: entries)
  | other {c : DeviceChange} {changes : List DeviceChange} {entries : List PodConfig}
      (hc : ∀ d, c ≠ ⟨some .add, some .create, .disk d⟩) (h : Asked pod changes entries) :
      Asked pod (c :: changes) entries

def askedIds (entries : List PodConfig) : List Int :=
  entries.flatMap fun e => e.disks.map PodDiskLocator.diskId

theorem Asked.mem_ids {pod : Reference} {changes : List DeviceChange} {entries : List PodConfig}
    (h : Asked pod changes entries) {d : Disk}
    (hd : ⟨some .add, some .create, .disk d⟩ ∈ changes) : d.key ∈ askedIds entries := by
  induction h with
  | nil => cases hd
  | new _ ih =>
    obtain heq | htail := List.mem_cons.1 hd
    · cases heq
      exact List.mem_cons_self
    · exact List.mem_cons_of_mem _ (ih htail)
  | other hc _ ih =>
    obtain heq | htail := List.mem_cons.1 hd
    · exact absurd heq.symm (hc d)
    · exact ih htail

namespace PlacementRequest

/-- Whether a request is for the new disks of a spec, in a pool and in a cluster. -/
structure IsFor (q : PlacementRequest) (spec : ConfigSpec) (pool : Reference) (pod : Cluster) :
    Prop where
  purpose : q.purpose = .create
  resourcePool : q.resourcePool = pool
  configSpec : q.configSpec = spec
  storagePod : q.podSelection.storagePod = ⟨"StoragePod", pod.id⟩
  entries : Asked ⟨"StoragePod", pod.id⟩ spec.changes q.podSelection.initialConfigs

/-- The keys of the disks that a request asks about. -/
def diskIds (q : PlacementRequest) : List Int := askedIds q.podSelection.initialConfigs

end PlacementRequest

namespace ConfigSpec

theorem newDisks_cons_of_new {s : ConfigSpec} {d : Disk} {changes : List DeviceChange}
    (h : s.changes = ⟨some .add, some .create, .disk d⟩ :: changes) :
    s.newDisks = d :: { s with changes }.newDisks := by
  unfold newDisks disksWith
  rw [h]
  rfl

theorem newDisks_cons_of_other {s : ConfigSpec} {c : DeviceChange} {changes : List DeviceChange}
    (h : s.changes = c :: changes) (hc : ∀ d, c ≠ ⟨some .add, some .create, .disk d⟩) :
    s.newDisks = { s with changes }.newDisks := by
  unfold newDisks disksWith
  rw [h]
  by_cases hnew : c.operation = some .add ∧ c.fileOperation = some .create
  · rw [List.filter_cons_of_pos (by simpa using hnew)]
    obtain ⟨operation, fileOperation, device⟩ := c
    obtain ⟨rfl, rfl⟩ := hnew
    cases device with
    | disk d => exact absurd rfl (hc d)
    | controller d | other d => rfl
  · rw [List.filter_cons_of_neg (by simpa using hnew)]

theorem asked_newDisks (s : ConfigSpec) (pod : Reference) :
    Asked pod s.changes (s.newDisks.map (PodConfig.ofDisk pod)) := by
  generalize hchanges : s.changes = changes
  induction changes generalizing s with
  | nil =>
    unfold newDisks disksWith
    rw [hchanges]
    exact .nil
  | cons c changes ih =>
    by_cases hnew : ∃ d, c = ⟨some .add, some .create, .disk d⟩
    · obtain ⟨d, rfl⟩ := hnew
      rw [newDisks_cons_of_new hchanges]
      exact .new (ih _ rfl)
    · rw [newDisks_cons_of_other hchanges fun d hd => hnew ⟨d, hd⟩]
      exact .other (fun d hd => hnew ⟨d, hd⟩) (ih _ rfl)

end ConfigSpec

theorem PlacementRequest.isFor_ofSpec (spec : ConfigSpec) (pool : Reference) (pod : Cluster) :
    (ofSpec spec pool pod.reference).IsFor spec pool pod :=
  ⟨rfl, rfl, rfl, rfl, spec.asked_newDisks _⟩

/-! ## What is placed -/

/-- To create a machine successfully is to post one request and to carry out what is selected of
its answer. -/
theorem Site.create_succeeds {site : Site} {spec : ConfigSpec} {pool : Reference}
    {clusterId resourceId : Text}
    (h : (site.create spec pool clusterId resourceId).failure = none) :
    ∃ pod r, site.clusters clusterId = .ok pod ∧
      (site.create spec pool clusterId resourceId).trace.posts =
        [site.connection.postFor spec pool pod] ∧
      site.Selects (site.connection.postFor spec pool pod) r ∧
      (spec.project site.datastores r).failure = none ∧
      (site.create spec pool clusterId resourceId).spec =
        (spec.project site.datastores r).spec := by
  have hfollows := site.follows_create spec pool clusterId resourceId
  obtain ⟨r, hadvice⟩ := hfollows.advice_of_succeeds h
  obtain ⟨hfailure, hspec⟩ := hfollows.of_ok hadvice
  obtain ⟨pod, hpod, hposts, hselects⟩ := selects_of_advice hadvice
  exact ⟨pod, r, hpod, hfollows.posts_eq.trans hposts, hselects, hfailure ▸ h, hspec⟩

/-- Whether the file of a disk is on the datastore of the last placement of its key. -/
def Disk.IsPlacedBy (d : Disk) (dir : DatastoreDirectory) (r : Recommendation) : Prop :=
  ∃ p path, (r.lastPlacement? fun p => p.diskId = d.key) = some p ∧ dir.IsPath p.datastore path ∧
    d.backing.fileName = path

namespace ConfigSpec

variable {dir : DatastoreDirectory} {r : Recommendation} {s : ConfigSpec} {d : Disk}

/-- After a success a new disk whose key is placed is still to be added, and has its file there. -/
theorem exists_settle_eq_new (h : (s.project dir r).failure = none)
    (hd : ⟨some .add, some .create, .disk d⟩ ∈ s.changes)
    (hplaced : ∃ p ∈ r.diskPlacements, p.diskId = d.key) :
    ∃ d' : Disk, DeviceChange.settle dir r ⟨some .add, some .create, .disk d⟩ =
      ⟨some .add, some .create, .disk d'⟩ ∧ d'.key = d.key ∧ d'.IsPlacedBy dir r := by
  have hsettles := settles_change h hd
  dsimp only at hsettles
  unfold DeviceChange.settle
  generalize (Device.disk d).settle dir r = device at hsettles
  cases hsettles with
  | @placed _ p path hlast hpath => exact ⟨_, rfl, rfl, p, path, hlast, hpath, rfl⟩
  | unplaced hnone =>
    obtain ⟨p, hp, hkey⟩ := hplaced
    exact absurd hkey (Recommendation.lastPlacement?_eq_none_iff.1 hnone p hp)

/-- What is to add a new disk after a success was to add one before. -/
theorem new_of_settle_eq_new (h : (s.project dir r).failure = none) {c : DeviceChange}
    (hc : c ∈ s.changes) (hd : c.settle dir r = ⟨some .add, some .create, .disk d⟩) :
    ∃ d : Disk, c = ⟨some .add, some .create, .disk d⟩ := by
  have hsettles := settles_change h hc
  obtain ⟨operation, fileOperation, device⟩ := c
  obtain ⟨rfl, rfl, hdevice⟩ := DeviceChange.mk.inj hd
  dsimp only at hdevice hsettles
  rw [hdevice] at hsettles
  cases hsettles with
  | @placed before _ _ _ _ => exact ⟨before, rfl⟩
  | unplaced _ => exact ⟨d, rfl⟩

end ConfigSpec

namespace Workspace

/-- **Every new disk that is asked about and answered is placed.**  What is posted for a task asks
about each new disk of the configuration spec as it is then, in order, and about nothing else; and
there is such a post wherever there is a cluster to ask about.  When a machine is created
successfully, the changes of its spec are those of before, one for one, with their devices settled.
If the recommendation names each disk that was asked about, then each change that was to add a new
disk still is to add the new disk of that key, and each new disk of the spec that is left has its
file on the datastore of the last placement of its key. -/
theorem new_disks_are_placed (site : Site) :
    (∀ (spec : ConfigSpec) (pool : Reference) (clusterId tag : Text) (pod : Cluster),
      site.connection.apiType = "VirtualCenter" → site.clusters clusterId = .ok pod →
      ∃ post, (recommend site.connection site.clusters site.scheduler spec pool clusterId
        tag).2.posts = [post] ∧ post.body.IsFor spec pool pod) ∧
    (∀ (w : Workspace) (task : Task), ∀ post ∈ (w.perform site task).trace.posts,
      ∃ pool clusterId pod, task.question? = some (pool, clusterId) ∧
        site.clusters clusterId = .ok pod ∧ post.body.IsFor w.config pool pod) ∧
    ∀ (spec : ConfigSpec) (pool : Reference) (clusterId resourceId : Text),
      let o := site.create spec pool clusterId resourceId
      o.failure = none →
      ∃ pod post r, site.clusters clusterId = .ok pod ∧ o.trace.posts = [post] ∧
        post.body.IsFor spec pool pod ∧ site.Selects post r ∧
        List.Forall₂ (fun c c' => c'.operation = c.operation ∧
          c'.fileOperation = c.fileOperation ∧ c.device.Settles site.datastores r c'.device)
          spec.changes o.spec.changes ∧
        ((∀ id ∈ post.body.diskIds, ∃ p ∈ r.diskPlacements, p.diskId = id) →
          List.Forall₂ (fun c c' => ∀ d : Disk, c = ⟨some .add, some .create, .disk d⟩ →
            ∃ d' : Disk, c' = ⟨some .add, some .create, .disk d'⟩ ∧ d'.key = d.key ∧
              d'.IsPlacedBy site.datastores r) spec.changes o.spec.changes ∧
          ∀ d : Disk, ⟨some .add, some .create, .disk d⟩ ∈ o.spec.changes →
            d.IsPlacedBy site.datastores r) := by
  refine ⟨?_, ?_, ?_⟩
  · intro spec pool clusterId tag pod hmanaged hcluster
    obtain ⟨-, -, hposts, -⟩ := recommend_of_ok site.scheduler spec pool tag hmanaged hcluster
    exact ⟨_, hposts, PlacementRequest.isFor_ofSpec spec pool pod⟩
  · intro w task post hpost
    obtain ⟨pool, clusterId, pod, htask, hcluster, hbody⟩ := w.posts_perform site task post hpost
    refine ⟨pool, clusterId, pod, htask, hcluster, ?_⟩
    rw [hbody]
    exact PlacementRequest.isFor_ofSpec w.config pool pod
  · intro spec pool clusterId resourceId o hsuccess
    obtain ⟨pod, r, hpod, hposts, hselects, hproject, hspec⟩ := Site.create_succeeds hsuccess
    have hspec : o.spec = (spec.project site.datastores r).spec := hspec
    have hfor := PlacementRequest.isFor_ofSpec spec pool pod
    have hchanges := ConfigSpec.forall₂_changes hproject
    rw [hspec]
    refine ⟨pod, _, r, hpod, hposts, hfor, hselects, hchanges, fun hnamed => ?_⟩
    have hplaced {d : Disk} (hd : ⟨some .add, some .create, .disk d⟩ ∈ spec.changes) :=
      ConfigSpec.exists_settle_eq_new hproject hd (hnamed d.key (hfor.entries.mem_ids hd))
    rw [ConfigSpec.changes_project_of_succeeds hproject]
    refine ⟨?_, fun d hd => ?_⟩
    · rw [List.forall₂_map_right_iff, List.forall₂_same]
      rintro c hc d rfl
      exact hplaced hc
    · obtain ⟨c, hc, hsettle⟩ := List.mem_map.1 hd
      obtain ⟨before, rfl⟩ := ConfigSpec.new_of_settle_eq_new hproject hc hsettle
      obtain ⟨d', hd', -, hplaced⟩ := hplaced hc
      obtain ⟨-, -, hdisk⟩ := DeviceChange.mk.inj (hsettle.symm.trans hd')
      obtain rfl : d = d' := Device.disk.inj hdisk
      exact hplaced

/-- A machine with a disk that is edited, and one that is new. -/
def growing : ConfigSpec :=
  { oneDisk.config with
    changes :=
      ⟨some .edit, none, .disk ⟨8, some 1, some 1, none, 0, Backing.unspecified⟩⟩ ::
        oneDisk.config.changes }

/-- A site whose scheduler places the new disk. -/
def placingNew : Site := siteOffering [diskTo 7 "d"]

/-- What is recommended there. -/
def sevenToKnown : Recommendation := ⟨"", [.disks ⟨⟨7, .datastore "d"⟩, []⟩]⟩

set_option maxRecDepth 4000 in
theorem growing_is_placed :
    placingNew.connection.apiType = "VirtualCenter" ∧
    placingNew.clusters "c" = .ok ⟨"c", "pod", ""⟩ ∧
    (placingNew.create growing somePool "c" "").failure = none ∧
    ∃ pod post r, placingNew.clusters "c" = .ok pod ∧
      (placingNew.create growing somePool "c" "").trace.posts = [post] ∧
      post.body.IsFor growing somePool pod ∧ placingNew.Selects post r ∧
      post.body.diskIds = [7] ∧ (∃ p ∈ r.diskPlacements, p.diskId = 7) ∧
      List.Forall₂ (fun c c' => ∀ d : Disk, c = ⟨some .add, some .create, .disk d⟩ →
        ∃ d' : Disk, c' = ⟨some .add, some .create, .disk d'⟩ ∧ d'.key = d.key ∧
          d'.IsPlacedBy placingNew.datastores r)
        growing.changes (placingNew.create growing somePool "c" "").spec.changes := by
  have hselects (post : Post) : placingNew.Selects post sevenToKnown :=
    selects_siteOffering (by rfl) (by rfl) post
  have hsuccess : (placingNew.create growing somePool "c" "").failure = none := by
    have hfollows := placingNew.follows_create growing somePool "c" ""
    rw [(hfollows.of_ok ((Site.advice_eq_ok_iff rfl rfl).2 (hselects _))).1]
    decide
  obtain ⟨pod, post, r, hpod, hposts, hfor, hselected, -, hplaced⟩ :=
    (new_disks_are_placed placingNew).2.2 growing somePool "c" "" hsuccess
  obtain rfl : r = sevenToKnown := hselected.unique (hselects post)
  obtain ⟨pod', -, hbody⟩ := (placingNew.follows_create growing somePool "c" "").posts.2 post
    (by simp [hposts])
  have hids : post.body.diskIds = [7] := by
    rw [hbody]
    rfl
  have hseven : ∃ p ∈ sevenToKnown.diskPlacements, p.diskId = 7 := by decide
  have hnamed : ∀ id ∈ post.body.diskIds, ∃ p ∈ sevenToKnown.diskPlacements, p.diskId = id := by
    rw [hids]
    exact List.forall_mem_singleton.2 hseven
  exact ⟨rfl, rfl, hsuccess, pod, post, sevenToKnown, hpod, hposts, hfor, hselected, hids, hseven,
    (hplaced hnamed).1⟩

end Workspace

end PodPlacement
