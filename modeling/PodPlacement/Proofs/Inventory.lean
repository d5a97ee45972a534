import PodPlacement.Proofs.Registration

/-!
# What an inventory holds

An inventory that grew from nothing holds, for each identifier, the last registration that was
accepted: it is two maps in which the last write counts.  `Records` says so of what is held, and
`Refines` also of what is answered next.  The clusters that datastores name are among those held,
as they are looked for before anything is stored.

    find (bs.foldl write s) = (bs.filterMap written?).getLast?.or (find s)
      when find (write s b) = (written? b).or (find s)                            (find_foldl)
    ((start settings).afterAll requests).inventory.ClustersKnown       (clustersKnown_afterAll)
    ((start settings).afterAll requests).Refines ((start settings).accepted requests)
                                                                             (refines_afterAll)
-/

namespace PodPlacement

/-! ## Rows -/

section

variable {ρ : Type} (id : ρ → Text)

theorem mem_of_mem_putRow {row x : ρ} {rows : List ρ} (h : x ∈ putRow id row rows) :
    x = row ∨ x ∈ rows := by
  induction rows with
  | nil => exact .inl (List.mem_singleton.1 h)
  | cons r rows ih =>
    unfold putRow at h
    split at h
    · exact (List.mem_cons.1 h).imp_right (List.mem_cons_of_mem r)
    · obtain rfl | h := List.mem_cons.1 h
      · exact .inr List.mem_cons_self
      · exact (ih h).imp_right (List.mem_cons_of_mem r)

/-- No identifier is lost when a row is put. -/
theorem mem_map_putRow {row : ρ} {rows : List ρ} {key : Text} (h : key ∈ rows.map id) :
    key ∈ (putRow id row rows).map id := by
  induction rows with
  | nil => cases h
  | cons r rows ih =>
    unfold putRow
    split
    · next hid =>
      rw [List.map_cons, ← hid]
      exact h
    · obtain rfl | h := List.mem_cons.1 h
      · exact List.mem_cons_self
      · exact List.mem_cons_of_mem _ (ih h)

theorem mem_map_of_findRow {key : Text} {rows : List ρ} {row : ρ}
    (h : findRow id key rows = some row) : key ∈ rows.map id :=
  List.mem_map.2 ⟨row, List.mem_of_find?_eq_some h, by simpa using List.find?_some h⟩

/-- No two rows have one identifier after one is put, if none have before. -/
theorem nodup_map_putRow (row : ρ) {rows : List ρ} (h : (rows.map id).Nodup) :
    ((putRow id row rows).map id).Nodup := by
  induction rows with
  | nil => exact List.pairwise_singleton _ _
  | cons r rows ih =>
    rw [List.map_cons, List.nodup_cons] at h
    unfold putRow
    split
    · next hid =>
      rw [List.map_cons, List.nodup_cons, ← hid]
      exact h
    · next hid =>
      rw [List.map_cons, List.nodup_cons]
      refine ⟨fun hmem => ?_, ih h.2⟩
      obtain ⟨x, hx, hxr⟩ := List.mem_map.1 hmem
      obtain rfl | hx := mem_of_mem_putRow id hx
      · exact hid hxr.symm
      · exact h.1 (List.mem_map.2 ⟨x, hx, hxr⟩)

end

/-! ## The last registration -/

/-- What the last write of a kind writes is found after writes that are found each. -/
theorem find_foldl {σ β α : Type} (find : σ → Option α) (write : σ → β → σ)
    (written? : β → Option α) (hwrite : ∀ s b, find (write s b) = (written? b).or (find s))
    (bs : List β) (s : σ) :
    find (bs.foldl write s) = (bs.filterMap written?).getLast?.or (find s) := by
  induction bs generalizing s with
  | nil => rfl
  | cons b bs ih =>
    rw [List.foldl_cons, ih, hwrite]
    cases hb : written? b with
    | none => rw [List.filterMap_cons_none hb, Option.none_or]
    | some a =>
      rw [List.filterMap_cons_some hb, List.getLast?_cons]
      cases (bs.filterMap written?).getLast? <;> rfl

namespace Registration

def cluster? (id : Text) : Registration → Option Cluster
  | cluster r => if r.clusterId = id then some r.cluster else none
  | datastore _ => none

def datastore? (id : Text) : Registration → Option DatastoreEntry
  | cluster _ => none
  | datastore r => if r.datastoreId = id then some r.entry else none

theorem cluster?_eq_some_iff {x : Registration} {id : Text} {c : Cluster} :
    x.cluster? id = some c ↔ ∃ r, x = .cluster r ∧ r.clusterId = id ∧ r.cluster = c := by
  cases x <;> simp [cluster?]

theorem cluster?_eq_none_iff {x : Registration} {id : Text} :
    x.cluster? id = none ↔ ∀ r, x = .cluster r → r.clusterId ≠ id := by
  cases x <;> simp [cluster?]

theorem datastore?_eq_some_iff {x : Registration} {id : Text} {e : DatastoreEntry} :
    x.datastore? id = some e ↔ ∃ r, x = .datastore r ∧ r.datastoreId = id ∧ r.entry = e := by
  cases x <;> simp [datastore?]

theorem datastore?_eq_none_iff {x : Registration} {id : Text} :
    x.datastore? id = none ↔ ∀ r, x = .datastore r → r.datastoreId ≠ id := by
  cases x <;> simp [datastore?]

end Registration

/-- The cluster of an identifier as the last of some registrations has it. -/
def lastCluster? (accepted : List Registration) (id : Text) : Option Cluster :=
  (accepted.filterMap (Registration.cluster? id)).getLast?

/-- The datastore of an identifier as the last of some registrations has it. -/
def lastDatastore? (accepted : List Registration) (id : Text) : Option DatastoreEntry :=
  (accepted.filterMap (Registration.datastore? id)).getLast?

theorem lastCluster?_eq_none_iff (accepted : List Registration) (id : Text) :
    lastCluster? accepted id = none ↔ ∀ r, .cluster r ∈ accepted → r.clusterId ≠ id := by
  unfold lastCluster?
  rw [List.getLast?_eq_none_iff, List.filterMap_eq_nil_iff]
  simp only [Registration.cluster?_eq_none_iff]
  exact ⟨fun h r hr => h _ hr r rfl, fun h x hx r hxr => h r (hxr ▸ hx)⟩

theorem lastDatastore?_eq_none_iff (accepted : List Registration) (id : Text) :
    lastDatastore? accepted id = none ↔ ∀ r, .datastore r ∈ accepted → r.datastoreId ≠ id := by
  unfold lastDatastore?
  rw [List.getLast?_eq_none_iff, List.filterMap_eq_nil_iff]
  simp only [Registration.datastore?_eq_none_iff]
  exact ⟨fun h r hr => h _ hr r rfl, fun h x hx r hxr => h r (hxr ▸ hx)⟩

theorem lastCluster?_eq_some {accepted : List Registration} {id : Text} {c : Cluster}
    (h : lastCluster? accepted id = some c) :
    ∃ r, .cluster r ∈ accepted ∧ r.clusterId = id ∧ r.cluster = c := by
  obtain ⟨x, hx, hc⟩ := List.mem_filterMap.1 (List.mem_of_getLast? h)
  obtain ⟨r, rfl, hr⟩ := Registration.cluster?_eq_some_iff.1 hc
  exact ⟨r, hx, hr⟩

theorem lastDatastore?_eq_some {accepted : List Registration} {id : Text} {e : DatastoreEntry}
    (h : lastDatastore? accepted id = some e) :
    ∃ r, .datastore r ∈ accepted ∧ r.datastoreId = id ∧ r.entry = e := by
  obtain ⟨x, hx, he⟩ := List.mem_filterMap.1 (List.mem_of_getLast? h)
  obtain ⟨r, rfl, hr⟩ := Registration.datastore?_eq_some_iff.1 he
  exact ⟨r, hx, hr⟩

namespace Inventory

theorem cluster?_register (inv : Inventory) (r : Registration) (id : Text) :
    (inv.register r).cluster? id = (r.cluster? id).or (inv.cluster? id) := by
  cases r with
  | cluster r =>
    refine (cluster?_putCluster inv r.cluster id).trans ?_
    by_cases hid : r.clusterId = id <;>
      simp [Registration.cluster?, ClusterRegistration.cluster, hid]
  | datastore r => rfl

theorem registered?_register (inv : Inventory) (r : Registration) (id : Text) :
    (inv.register r).registered? id = (r.datastore? id).or (inv.registered? id) := by
  cases r with
  | cluster r => rfl
  | datastore r =>
    refine (registered?_putDatastore inv r.entry id).trans ?_
    by_cases hid : r.datastoreId = id <;>
      simp [Registration.datastore?, DatastoreRegistration.entry, hid]

end Inventory

/-! ## What has been registered -/

/-- What an inventory holds after some registrations. -/
structure Inventory.Records (inv : Inventory) (accepted : List Registration) : Prop where
  clusterIds : (inv.clusters.map Cluster.id).Nodup
  datastoreIds : (inv.datastores.map fun e => e.id).Nodup
  cluster? : ∀ id, inv.cluster? id = lastCluster? accepted id
  registered? : ∀ id, inv.registered? id = lastDatastore? accepted id

namespace Inventory.Records

variable {inv : Inventory} {accepted : List Registration} (h : inv.Records accepted)
  (hproper : ∀ r ∈ accepted, ∀ t ∈ r.texts, t.isProper = true)

include h

/-- A cluster is not known if and only if none of its identifier has been registered. -/
theorem clusterDirectory_eq_unknown_iff (id : Text) :
    inv.clusterDirectory id = .error .unknown ↔
      id.isProper = true ∧ ∀ r, .cluster r ∈ accepted → r.clusterId ≠ id := by
  unfold clusterDirectory
  rw [lookUp_eq_unknown_iff, h.cluster?, lastCluster?_eq_none_iff]

/-- A datastore is not known if and only if none of its identifier has been registered. -/
theorem datastoreDirectory_eq_unknown_iff (id : Text) :
    inv.datastoreDirectory id = .error .unknown ↔
      id.isProper = true ∧ ∀ r, .datastore r ∈ accepted → r.datastoreId ≠ id := by
  unfold datastoreDirectory
  rw [lookUp_eq_unknown_iff, datastore?, Option.map_eq_none_iff, h.registered?,
    lastDatastore?_eq_none_iff]

include hproper

theorem clusterDirectory_eq_ok_iff (id : Text) (c : Cluster) :
    inv.clusterDirectory id = .ok c ↔ lastCluster? accepted id = some c := by
  unfold clusterDirectory
  rw [lookUp_eq_ok_iff, h.cluster?, and_iff_right_iff_imp]
  intro hlast
  obtain ⟨r, hr, rfl, -⟩ := lastCluster?_eq_some hlast
  exact hproper _ hr _ List.mem_cons_self

theorem datastoreDirectory_eq_ok_iff (id : Text) (d : Datastore) :
    inv.datastoreDirectory id = .ok d ↔
      ∃ e, lastDatastore? accepted id = some e ∧ e.toDatastore = d := by
  unfold datastoreDirectory
  rw [lookUp_eq_ok_iff, datastore?, Option.map_eq_some_iff, h.registered?, and_iff_right_iff_imp]
  rintro ⟨e, hlast, -⟩
  obtain ⟨r, hr, rfl, -⟩ := lastDatastore?_eq_some hlast
  exact hproper _ hr _ List.mem_cons_self

end Inventory.Records

namespace Service

variable (settings : Settings) (requests : List (Scheduler × Request))

theorem cluster?_afterAll (id : Text) :
    ((start settings).afterAll requests).inventory.cluster? id =
      lastCluster? ((start settings).accepted requests) id := by
  rw [afterAll_eq]
  show (List.foldl Inventory.register Inventory.empty _).cluster? id = _
  rw [find_foldl (fun inv => inv.cluster? id) Inventory.register (Registration.cluster? id)
    fun inv r => inv.cluster?_register r id]
  exact Option.or_none

theorem registered?_afterAll (id : Text) :
    ((start settings).afterAll requests).inventory.registered? id =
      lastDatastore? ((start settings).accepted requests) id := by
  rw [afterAll_eq]
  show (List.foldl Inventory.register Inventory.empty _).registered? id = _
  rw [find_foldl (fun inv => inv.registered? id) Inventory.register (Registration.datastore? id)
    fun inv r => inv.registered?_register r id]
  exact Option.or_none

/-- No two rows of an inventory ever have one identifier. -/
theorem nodup_afterAll :
    (((start settings).afterAll requests).inventory.clusters.map Cluster.id).Nodup ∧
    (((start settings).afterAll requests).inventory.datastores.map fun e => e.id).Nodup := by
  refine afterAll_induction
    (P := fun inv => (inv.clusters.map Cluster.id).Nodup ∧
      (inv.datastores.map fun e => e.id).Nodup)
    (fun service r _ h => ?_) requests (start settings) ⟨.nil, .nil⟩
  cases r with
  | cluster r => exact ⟨nodup_map_putRow Cluster.id r.cluster h.1, h.2⟩
  | datastore r => exact ⟨h.1, nodup_map_putRow (fun e : DatastoreEntry => e.id) r.entry h.2⟩

/-- An inventory holds the last registration of each identifier. -/
theorem records_afterAll :
    ((start settings).afterAll requests).inventory.Records
      ((start settings).accepted requests) where
  clusterIds := (nodup_afterAll settings requests).1
  datastoreIds := (nodup_afterAll settings requests).2
  cluster? := cluster?_afterAll settings requests
  registered? := registered?_afterAll settings requests

end Service

/-! ## Clusters of datastores -/

/-- Whether each datastore is in a cluster that is known, or in one of the empty name, or in
none. -/
def Inventory.ClustersKnown (inv : Inventory) : Prop :=
  ∀ e ∈ inv.datastores, ∀ id, e.clusterId = some id →
    id = "" ∨ id ∈ inv.clusters.map Cluster.id

/-- A registration that nothing stands against is of a cluster that is known, if it names one
and not by the empty name. -/
theorem Service.mem_clusters_of_obstacle?_eq_none {service : Service} {r : DatastoreRegistration}
    (h : service.obstacle? (.datastore r) = none) {id : Text} (hid : r.clusterId = some id) :
    id = "" ∨ id ∈ service.inventory.clusters.map Cluster.id := by
  change service.clusterError? r = none at h
  unfold clusterError? at h
  simp only [hid] at h
  split at h
  · next hempty => exact .inl ((Text.isEmpty_iff id).1 hempty)
  · split at h
    · next c hfound =>
      have hknown := ((lookUp_eq_ok_iff service.inventory.cluster? id c).1 hfound).2
      exact .inr (mem_map_of_findRow Cluster.id hknown)
    · cases h

theorem Inventory.ClustersKnown.register {service : Service} {r : Registration}
    (hcluster : service.obstacle? r = none) (h : service.inventory.ClustersKnown) :
    (service.inventory.register r).ClustersKnown := by
  intro e he id hid
  cases r with
  | cluster r => exact (h e he id hid).imp_right (mem_map_putRow Cluster.id)
  | datastore r =>
    obtain rfl | he := mem_of_mem_putRow _ he
    · exact Service.mem_clusters_of_obstacle?_eq_none hcluster hid
    · exact h e he id hid

/-- **The clusters of datastores are known.**  After any requests, each datastore that names a
cluster names one that is known, unless it names it by the empty name, which is not looked
for. -/
theorem Service.clustersKnown_afterAll (settings : Settings)
    (requests : List (Scheduler × Request)) :
    ((start settings).afterAll requests).inventory.ClustersKnown :=
  afterAll_induction (fun _ _ => .register) requests (start settings) nofun

/-- The empty name is taken for none, and is held. -/
theorem Service.unnamed_is_held :
    let r : DatastoreRegistration := ⟨"d", "n", some ""⟩
    let requests : List (Scheduler × Request) :=
      [(fun _ => .broken .timeout "", .posting "/api/v1/datastores" r)]
    let inv := (plain.afterAll requests).inventory
    ¬∀ e ∈ inv.datastores, ∀ id, e.clusterId = some id → id ∈ inv.clusters.map Cluster.id := by
  intro r requests inv h
  have hinv : inv = ⟨[], [⟨⟨"d", "n"⟩, some ""⟩]⟩ := by decide +kernel
  have hmem := h ⟨⟨"d", "n"⟩, some ""⟩ (hinv ▸ List.mem_cons_self) "" rfl
  rw [hinv] at hmem
  cases hmem

/-! ## The next request -/

/-- Whether a registration names a cluster that none of some registrations is of.  The empty name
names none, and what cannot be stored cannot be looked for. -/
def Registration.NamesUnknown (accepted : List Registration) : Registration → Prop
  | cluster _ => False
  | datastore r => ∃ id : Text, r.clusterId = some id ∧ id ≠ "" ∧ id.isProper = true ∧
      ∀ c, cluster c ∈ accepted → c.clusterId ≠ id

/-- A cluster is known to be unknown if and only if it has not been registered. -/
theorem Service.obstacle?_eq_unknown_iff {service : Service} {accepted : List Registration}
    (h : service.inventory.Records accepted) (r : Registration) :
    service.obstacle? r = some .unknown ↔ r.NamesUnknown accepted := by
  cases r with
  | cluster r => exact ⟨nofun, nofun⟩
  | datastore r =>
    show service.clusterError? r = some .unknown ↔ ∃ id, _
    unfold clusterError?
    cases r.clusterId with
    | none => exact ⟨nofun, fun ⟨_, hid, _⟩ => nomatch hid⟩
    | some id =>
      have hunknown := h.clusterDirectory_eq_unknown_iff id
      simp only [Option.some.injEq, exists_eq_left', ← hunknown]
      by_cases hid : id = ""
      · simp [hid, (Text.isEmpty_iff "").2 rfl]
      · have hfull : ¬id.isEmpty = true := fun hempty => hid ((Text.isEmpty_iff id).1 hempty)
        rw [if_neg hfull, and_iff_right hid]
        cases service.inventory.clusterDirectory id <;> simp

/-- What the acceptance of a registration makes of a service, and how it is answered: with what
is held now. -/
inductive Service.Takes (service : Service) : Registration → Served → Prop
  | cluster {r : ClusterRegistration} {served : Served} {c : Cluster}
      (hheld : served.service.inventory.cluster? r.clusterId = some c)
      (hnew : c = ⟨r.clusterId, r.name, r.inventoryPath⟩)
      (hanswer : served.response = ⟨200, .json (.object [("cluster_id", .string c.id),
        ("name", .string c.name), ("inventory_path", .string c.inventoryPath)])⟩)
      (hothers : ∀ id, id ≠ r.clusterId →
        served.service.inventory.cluster? id = service.inventory.cluster? id)
      (hdatastores : served.service.inventory.datastores = service.inventory.datastores) :
      Takes service (.cluster r) served
  | datastore {r : DatastoreRegistration} {served : Served} {e : DatastoreEntry}
      (hheld : served.service.inventory.registered? r.datastoreId = some e)
      (hnew : e = ⟨⟨r.datastoreId, r.name⟩, r.clusterId⟩)
      (hanswer : served.response = ⟨200, .json (.object [("datastore_id", .string e.id),
        ("name", .string e.name), ("cluster_id", .ofOption .string e.clusterId)])⟩)
      (hothers : ∀ id, id ≠ r.datastoreId →
        served.service.inventory.registered? id = service.inventory.registered? id)
      (hclusters : served.service.inventory.clusters = service.inventory.clusters) :
      Takes service (.datastore r) served

theorem Service.takes_register (service : Service) (r : Registration) :
    service.Takes r
      ⟨{ service with inventory := service.inventory.register r }, r.answer, .empty⟩ := by
  cases r with
  | cluster r =>
    refine .cluster (c := r.cluster) ?_ rfl rfl (fun id hid => ?_) rfl
    · exact (Inventory.cluster?_register _ _ _).trans (by simp [Registration.cluster?])
    · exact (Inventory.cluster?_register _ _ _).trans (by simp [Registration.cluster?, hid.symm])
  | datastore r =>
    refine .datastore (e := r.entry) ?_ rfl rfl (fun id hid => ?_) rfl
    · exact (Inventory.registered?_register _ _ _).trans (by simp [Registration.datastore?])
    · exact (Inventory.registered?_register _ _ _).trans
        (by simp [Registration.datastore?, hid.symm])

/-- What comes of a request for a registration after others. -/
structure Service.Settles (service : Service) (accepted : List Registration) (request : Request)
    (r : Registration) (served : Served) : Prop where
  said : ∃ members, Conveys service.settings.bodyRoom request.body (.object members) ∧
    r.SaidBy members
  refused_iff : served.response.status = 404 ↔ r.NamesUnknown accepted
  refused : r.NamesUnknown accepted →
    served.response = .detail 404 (.string "datastore cluster not found")
  accepted_iff : served.response.status = 200 ↔
    ¬r.NamesUnknown accepted ∧ ∀ t ∈ r.texts, t.isProper = true
  broken : ¬r.NamesUnknown accepted → (∃ t ∈ r.texts, t.isProper = false) →
    served.response = .internalError
  takes : served.response.status = 200 → service.Takes r served

theorem Service.settles {service : Service} {accepted : List Registration}
    (h : service.inventory.Records accepted) (scheduler : Scheduler) {request : Request}
    {r : Registration} (hregisters : request.Registers service.settings.bodyRoom r) :
    service.Settles accepted request r (service.handle scheduler request) := by
  have hsaid := ((request.registers_iff _ r).1 hregisters).2
  have hunknown := obstacle?_eq_unknown_iff h r
  have hcase := service.registers_handle scheduler hregisters
  generalize service.handle scheduler request = served at hcase
  cases hcase with
  | accepted hnone hproper =>
    have hknown : ¬r.NamesUnknown accepted := fun hnames =>
      nomatch hnone.symm.trans (hunknown.2 hnames)
    have hstatus : r.answer.status = 200 := by cases r <;> rfl
    exact {
      said := hsaid
      refused_iff := ⟨fun h => (nomatch hstatus.symm.trans h), fun hnames => absurd hnames hknown⟩
      refused := fun hnames => absurd hnames hknown
      accepted_iff := ⟨fun _ => ⟨hknown, hproper⟩, fun _ => hstatus⟩
      broken := fun _ ⟨t, ht, himproper⟩ => nomatch himproper.symm.trans (hproper t ht)
      takes := fun _ => service.takes_register r }
  | refused hsome =>
    have hnames := hunknown.1 hsome
    exact {
      said := hsaid
      refused_iff := ⟨fun _ => hnames, fun _ => rfl⟩
      refused := fun _ => rfl
      accepted_iff := ⟨nofun, fun h => absurd hnames h.1⟩
      broken := fun hknown _ => absurd hnames hknown
      takes := nofun }
  | broken hnot hbroken =>
    have hknown : ¬r.NamesUnknown accepted := fun hnames => hnot (hunknown.2 hnames)
    obtain ⟨t, ht, himproper⟩ := hbroken
    exact {
      said := hsaid
      refused_iff := ⟨nofun, fun hnames => absurd hnames hknown⟩
      refused := fun hnames => absurd hnames hknown
      accepted_iff := ⟨nofun, fun h => nomatch himproper.symm.trans (h.2 t ht)⟩
      broken := fun _ _ => rfl
      takes := nofun }

/-- How a service stands that has accepted some registrations, and what it does next. -/
structure Service.Refines (service : Service) (accepted : List Registration) : Prop where
  records : service.inventory.Records accepted
  cluster : ∀ id c, service.inventory.clusterDirectory id = .ok c ↔
    lastCluster? accepted id = some c
  datastore : ∀ id d, service.inventory.datastoreDirectory id = .ok d ↔
    ∃ e, lastDatastore? accepted id = some e ∧ e.toDatastore = d
  noCluster : ∀ id, service.inventory.clusterDirectory id = .error .unknown ↔
    id.isProper = true ∧ ∀ r, .cluster r ∈ accepted → r.clusterId ≠ id
  noDatastore : ∀ id, service.inventory.datastoreDirectory id = .error .unknown ↔
    id.isProper = true ∧ ∀ r, .datastore r ∈ accepted → r.datastoreId ≠ id
  settles : ∀ (scheduler : Scheduler) (request : Request) (r : Registration),
    request.Registers service.settings.bodyRoom r →
      service.Settles accepted request r (service.handle scheduler request)
  invalid : ∀ (scheduler : Scheduler) (request : Request),
    request.AsksFor .clusters ∨ request.AsksFor .datastores →
      (∀ r, ¬request.Registers service.settings.bodyRoom r) →
      request.IsRefused service.settings.bodyRoom (service.handle scheduler request).response ∧
        (service.handle scheduler request).response.status ∈ [422, 400, 500]
  kept : ∀ (scheduler : Scheduler) (request : Request),
    (∀ r, request.Registers service.settings.bodyRoom r →
        (service.handle scheduler request).response.status ≠ 200) →
      (service.handle scheduler request).service = service
  placed : ∀ (scheduler : Scheduler) (request : Request),
    request.AsksFor .creation ∨ request.AsksFor .cloning →
      (service.handle scheduler request).service = service

namespace Service

/-- A request for a registration that is none is refused. -/
theorem refused_of_not_registers (service : Service) (scheduler : Scheduler) {request : Request}
    (hasks : request.AsksFor .clusters ∨ request.AsksFor .datastores)
    (h : ∀ r, ¬request.Registers service.settings.bodyRoom r) :
    request.IsRefused service.settings.bodyRoom (service.handle scheduler request).response ∧
      (service.handle scheduler request).response.status ∈ [422, 400, 500] := by
  obtain hasks | hasks := hasks
  · rw [handle_of_asksFor service scheduler hasks]
    unfold serve withOrder
    dsimp only
    cases hread : readOrder ClusterRegistration service.settings.bodyRoom request.body with
    | ok r => exact absurd (.cluster hasks hread) (h _)
    | error refusal =>
      have hrefuses := refuses_iff.2 ⟨refusal, hread, rfl⟩
      exact ⟨.clusters hasks hrefuses, hrefuses.status_mem⟩
  · rw [handle_of_asksFor service scheduler hasks]
    unfold serve withOrder
    dsimp only
    cases hread : readOrder DatastoreRegistration service.settings.bodyRoom request.body with
    | ok r => exact absurd (.datastore hasks hread) (h _)
    | error refusal =>
      have hrefuses := refuses_iff.2 ⟨refusal, hread, rfl⟩
      exact ⟨.datastores hasks hrefuses, hrefuses.status_mem⟩

/-- A request none of whose registrations is accepted leaves the service as it is. -/
theorem service_handle_of_status (service : Service) (scheduler : Scheduler) {request : Request}
    (h : ∀ r, request.Registers service.settings.bodyRoom r →
      (service.handle scheduler request).response.status ≠ 200) :
    (service.handle scheduler request).service = service := by
  refine service.service_handle_of_accepted?_eq_none scheduler ?_
  unfold accepted?
  split
  · next hstatus =>
    cases hr : request.registration? service.settings.bodyRoom with
    | none => rfl
    | some r => exact absurd hstatus (h r ((request.registration?_eq_some_iff _ r).1 hr))
  · rfl

theorem service_handle_of_placement (service : Service) (scheduler : Scheduler)
    {request : Request} (h : request.AsksFor .creation ∨ request.AsksFor .cloning) :
    (service.handle scheduler request).service = service := by
  refine service.service_handle_of_not_registers scheduler fun r hregisters => ?_
  have hasks := ((request.registers_iff _ r).1 hregisters).1
  obtain h | h := h <;> cases r <;> cases h.unique hasks

/-- **An inventory is two maps in which the last write counts.**  After any requests, each
identifier has one row at most, and is found as it was registered last by a request that was
accepted; a registration is refused for the want of its cluster exactly if none such has been
accepted; one that is accepted is answered with what is held from then on, in all of its members,
and touches no other identifier; and no other request changes anything. -/
theorem refines_afterAll (settings : Settings) (requests : List (Scheduler × Request)) :
    ((start settings).afterAll requests).Refines ((start settings).accepted requests) := by
  have hrecords := records_afterAll settings requests
  have hproper : ∀ r ∈ (start settings).accepted requests, ∀ t ∈ r.texts, t.isProper = true :=
    fun _ => isProper_of_mem_accepted
  exact {
    records := hrecords
    cluster := hrecords.clusterDirectory_eq_ok_iff hproper
    datastore := hrecords.datastoreDirectory_eq_ok_iff hproper
    noCluster := hrecords.clusterDirectory_eq_unknown_iff
    noDatastore := hrecords.datastoreDirectory_eq_unknown_iff
    settles := fun scheduler _ _ => settles hrecords scheduler
    invalid := fun scheduler _ => refused_of_not_registers _ scheduler
    kept := fun scheduler _ => service_handle_of_status _ scheduler
    placed := fun scheduler _ => service_handle_of_placement _ scheduler }

/-- A cluster of an identifier that cannot be looked for is not said to be missing. -/
theorem half_is_not_missing :
    let r : DatastoreRegistration := ⟨"d", "n", some .loneHalf⟩
    let request := Request.posting "/api/v1/datastores" r
    request.Registers plain.settings.bodyRoom (.datastore r) ∧
    r.clusterId = some .loneHalf ∧ Text.loneHalf ≠ "" ∧
    (∀ c, .cluster c ∈ plain.accepted [] → c.clusterId ≠ .loneHalf) ∧
    (plain.handle (fun _ => .broken .timeout "") request).response.status = 500 := by
  intro r request
  refine ⟨(request.registration?_eq_some_iff _ _).1 ?_, rfl, by decide, nofun, ?_⟩
  · decide +kernel
  · decide +kernel

end Service

end PodPlacement
