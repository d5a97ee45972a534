import PodPlacement.Proofs.Request

/-!
# What is registered

A request registers a cluster or a datastore if its body is an object that says one.  Such a
registration is accepted, or refused because its cluster is not known, or it breaks on a text
that cannot be stored; and a service is what the accepted ones have made of it, one after
another.

    request.Registers room r ↔ request.AsksFor r.resource ∧
      ∃ members, Conveys room request.body (.object members) ∧ r.SaidBy members  (registers_iff)
    request.Registers service.settings.bodyRoom r →
      service.Registers r (service.handle scheduler request)                 (registers_handle)
    (service.afterAll requests).inventory =
      (service.accepted requests).foldl Inventory.register service.inventory       (afterAll_eq)
-/

namespace PodPlacement

/-! ## Registrations -/

/-- What a service is asked to register. -/
inductive Registration where
  | cluster (r : ClusterRegistration)
  | datastore (r : DatastoreRegistration)
  deriving DecidableEq, Repr

def ClusterRegistration.cluster (r : ClusterRegistration) : Cluster :=
  ⟨r.clusterId, r.name, r.inventoryPath⟩

def DatastoreRegistration.entry (r : DatastoreRegistration) : DatastoreEntry :=
  ⟨⟨r.datastoreId, r.name⟩, r.clusterId⟩

namespace Registration

/-- The texts of a registration, all of which are stored. -/
def texts : Registration → List Text
  | cluster r => r.cluster.texts
  | datastore r => r.entry.texts

/-- The response that says what is registered. -/
def answer : Registration → Response
  | cluster r => .ofDocument r
  | datastore r => .ofDocument r

theorem isSendable_write_cluster {r : ClusterRegistration}
    (h : ∀ t ∈ (cluster r).texts, t.isProper = true) : (Document.write r).isSendable = true := by
  have hkey (key : String) : (Text.proper key).isProper = true := rfl
  simp only [texts, Cluster.texts, ClusterRegistration.cluster, List.forall_mem_cons] at h
  simp [Document.write, Document.toMembers, Json.isSendable, Json.membersSendable, hkey, h]

theorem isSendable_write_datastore {r : DatastoreRegistration}
    (h : ∀ t ∈ (datastore r).texts, t.isProper = true) : (Document.write r).isSendable = true := by
  have hkey (key : String) : (Text.proper key).isProper = true := rfl
  obtain ⟨id, name, clusterId⟩ := r
  have hid : id.isProper = true := h id List.mem_cons_self
  have hname : name.isProper = true := h name (.tail _ List.mem_cons_self)
  have hcluster : (Json.ofOption .string clusterId).isSendable = true := by
    cases clusterId with
    | none => rfl
    | some c => exact (Json.isSendable_string c).trans (h c (.tail _ (.tail _ List.mem_cons_self)))
  simp [Document.write, Document.toMembers, Json.isSendable, Json.membersSendable, hkey, hid, hname,
    hcluster]

/-- What can be stored can be sent. -/
theorem sent_answer {r : Registration} (h : ∀ t ∈ r.texts, t.isProper = true) :
    r.answer.sent = r.answer := by
  cases r with
  | cluster r => exact (Response.sent_json 200 _).trans (if_pos (isSendable_write_cluster h))
  | datastore r => exact (Response.sent_json 200 _).trans (if_pos (isSendable_write_datastore h))

end Registration

/-! ## Registrations in bodies -/

namespace Registration

/-- Whether members say what is registered, where one that is left out has its default. -/
def SaidBy (members : Members) : Registration → Prop
  | cluster r =>
    members.lookup (.proper "cluster_id") = some (.string r.clusterId) ∧
    members.lookup (.proper "name") = some (.string r.name) ∧
    (members.lookup (.proper "inventory_path")).getD (.string "") = .string r.inventoryPath
  | datastore r =>
    members.lookup (.proper "datastore_id") = some (.string r.datastoreId) ∧
    members.lookup (.proper "name") = some (.string r.name) ∧
    (members.lookup (.proper "cluster_id")).getD .null = .ofOption .string r.clusterId

/-- What a registration is asked of. -/
def resource : Registration → Service.Resource
  | cluster _ => .clusters
  | datastore _ => .datastores

theorem ofMembers_cluster_eq_valid_iff (members : Members) (r : ClusterRegistration) :
    Document.ofMembers members = Checked.valid r ↔ (cluster r).SaidBy members := by
  have hpath (t : Text) : Decoder.optional "inventory_path" (.proper "") Decoder.text members =
      .valid t ↔ (members.lookup (.proper "inventory_path")).getD (.string "") = .string t := by
    rw [Decoder.optional_eq_valid_iff]
    cases members.lookup (.proper "inventory_path") <;> simp [Decoder.text_eq_valid_iff]
  unfold Document.ofMembers instDocumentClusterRegistration
  simp only [Checked.apply_eq_valid_iff, Decoder.required_text_eq_valid_iff, hpath]
  constructor
  · rintro ⟨_, path, ⟨_, name, ⟨_, id, hmk, hid, rfl⟩, hname, rfl⟩, hpath, rfl⟩
    obtain rfl := Checked.valid.inj hmk
    exact ⟨hid, hname, hpath⟩
  · rintro ⟨hid, hname, hpath⟩
    exact ⟨_, _, ⟨_, _, ⟨_, _, rfl, hid, rfl⟩, hname, rfl⟩, hpath, rfl⟩

theorem ofMembers_datastore_eq_valid_iff (members : Members) (r : DatastoreRegistration) :
    Document.ofMembers members = Checked.valid r ↔ (datastore r).SaidBy members := by
  have hcluster (t : Option Text) :
      Decoder.optional "cluster_id" none (Decoder.nullable Decoder.text) members = .valid t ↔
        (members.lookup (.proper "cluster_id")).getD .null = .ofOption .string t := by
    rw [Decoder.optional_eq_valid_iff]
    cases members.lookup (.proper "cluster_id") with
    | none => cases t <;> simp [Json.ofOption]
    | some value => simp [Decoder.nullable_text_eq_valid_iff]
  unfold Document.ofMembers instDocumentDatastoreRegistration
  simp only [Checked.apply_eq_valid_iff, Decoder.required_text_eq_valid_iff, hcluster]
  constructor
  · rintro ⟨_, cluster, ⟨_, name, ⟨_, id, hmk, hid, rfl⟩, hname, rfl⟩, hcluster, rfl⟩
    obtain rfl := Checked.valid.inj hmk
    exact ⟨hid, hname, hcluster⟩
  · rintro ⟨hid, hname, hcluster⟩
    exact ⟨_, _, ⟨_, _, ⟨_, _, rfl, hid, rfl⟩, hname, rfl⟩, hcluster, rfl⟩

end Registration

/-- What a request registers, if its body is a registration. -/
inductive Request.Registers (request : Request) (room : Nat) : Registration → Prop
  | cluster {r : ClusterRegistration} (h : request.AsksFor .clusters)
      (hread : readOrder ClusterRegistration room request.body = .ok r) :
      Registers request room (.cluster r)
  | datastore {r : DatastoreRegistration} (h : request.AsksFor .datastores)
      (hread : readOrder DatastoreRegistration room request.body = .ok r) :
      Registers request room (.datastore r)

/-- What is registered is what an object says that is conveyed by the body. -/
theorem Request.registers_iff (request : Request) (room : Nat) (r : Registration) :
    request.Registers room r ↔ request.AsksFor r.resource ∧
      ∃ members, Conveys room request.body (.object members) ∧ r.SaidBy members := by
  constructor
  · intro h
    cases h with
    | cluster h hread =>
      obtain ⟨members, hconveys, hmembers⟩ := (readOrder_eq_ok_iff _).1 hread
      exact ⟨h, members, hconveys,
        (Registration.ofMembers_cluster_eq_valid_iff _ _).1 hmembers⟩
    | datastore h hread =>
      obtain ⟨members, hconveys, hmembers⟩ := (readOrder_eq_ok_iff _).1 hread
      exact ⟨h, members, hconveys,
        (Registration.ofMembers_datastore_eq_valid_iff _ _).1 hmembers⟩
  · rintro ⟨h, members, hconveys, hsaid⟩
    cases r with
    | cluster r =>
      have hmembers := (Registration.ofMembers_cluster_eq_valid_iff _ _).2 hsaid
      exact .cluster h ((readOrder_eq_ok_iff _).2 ⟨members, hconveys, hmembers⟩)
    | datastore r =>
      have hmembers := (Registration.ofMembers_datastore_eq_valid_iff _ _).2 hsaid
      exact .datastore h ((readOrder_eq_ok_iff _).2 ⟨members, hconveys, hmembers⟩)

/-- The registration that a request asks for, if its body is one. -/
def Request.registration? (request : Request) (room : Nat) : Option Registration :=
  if request.AsksFor .clusters then
    (readOrder ClusterRegistration room request.body).toOption.map .cluster
  else if request.AsksFor .datastores then
    (readOrder DatastoreRegistration room request.body).toOption.map .datastore
  else none

theorem Request.registration?_eq_some_iff (request : Request) (room : Nat) (r : Registration) :
    request.registration? room = some r ↔ request.Registers room r := by
  unfold registration?
  constructor
  · intro h
    split at h
    · next hclusters =>
      obtain ⟨c, hread, rfl⟩ := Option.map_eq_some_iff.1 h
      exact .cluster hclusters ((toOption_readOrder_eq_some_iff _).1 hread)
    · split at h
      · next hdatastores =>
        obtain ⟨c, hread, rfl⟩ := Option.map_eq_some_iff.1 h
        exact .datastore hdatastores ((toOption_readOrder_eq_some_iff _).1 hread)
      · cases h
  · intro h
    cases h with
    | cluster h hread =>
      rw [if_pos h, hread]
      rfl
    | datastore h hread =>
      have hclusters : ¬request.AsksFor .clusters := fun h' => nomatch h'.unique h
      rw [if_neg hclusters, if_pos h, hread]
      rfl

def Inventory.register (inv : Inventory) : Registration → Inventory
  | .cluster r => inv.putCluster r.cluster
  | .datastore r => inv.putDatastore r.entry

namespace Service

/-- Why the cluster that a registration names is not found, if it names one. -/
def obstacle? (service : Service) : Registration → Option LookupError
  | .cluster _ => none
  | .datastore r => service.clusterError? r

/-- What comes of a registration. -/
inductive Registers (service : Service) (r : Registration) : Served → Prop
  | accepted (hcluster : service.obstacle? r = none) (hproper : ∀ t ∈ r.texts, t.isProper = true) :
      Registers service r
        ⟨{ service with inventory := service.inventory.register r }, r.answer, .empty⟩
  | refused (hcluster : service.obstacle? r = some .unknown) :
      Registers service r
        (service.respond (.detail 404 (.string "datastore cluster not found")))
  | broken (hcluster : service.obstacle? r ≠ some .unknown)
      (hbroken : ∃ t ∈ r.texts, t.isProper = false) :
      Registers service r (service.respond .internalError)

variable (service : Service) (scheduler : Scheduler) {request : Request}

theorem registers_registerCluster (r : ClusterRegistration) :
    let served := service.registerCluster r
    service.Registers (.cluster r) { served with response := served.response.sent } := by
  unfold registerCluster
  dsimp only
  split
  · next t ht => exact .broken nofun (unstorable?_eq_some ht)
  · next ht =>
    have hproper := (unstorable?_eq_none_iff (Registration.cluster r).texts).1 ht
    have hsent : Response.sent (.ofDocument r) = _ := Registration.sent_answer hproper
    dsimp only
    rw [hsent]
    exact .accepted rfl hproper

/-- A cluster that cannot be looked for cannot be stored either. -/
theorem not_proper_of_clusterError? {r : DatastoreRegistration}
    (h : service.clusterError? r = some .unencodable) :
    ∃ t ∈ (Registration.datastore r).texts, t.isProper = false := by
  unfold clusterError? at h
  split at h
  · cases h
  · next id hid =>
    split at h
    · cases h
    · split at h
      · cases h
      · next e hlook =>
        obtain rfl := Option.some.inj h
        have himproper := (lookUp_eq_unencodable_iff service.inventory.cluster? id).1 hlook
        have hmem : id ∈ r.entry.texts := by
          show id ∈ [r.datastoreId, r.name] ++ r.clusterId.toList
          rw [hid]
          exact List.mem_append_right _ List.mem_cons_self
        exact ⟨id, hmem, himproper⟩

theorem registers_registerDatastore (r : DatastoreRegistration) :
    let served := service.registerDatastore r
    service.Registers (.datastore r) { served with response := served.response.sent } := by
  unfold registerDatastore
  dsimp only
  split
  · next h => exact .refused h
  · next h =>
    refine .broken (fun hunknown => ?_) (service.not_proper_of_clusterError? h)
    cases h.symm.trans hunknown
  · next h =>
    split
    · next t ht =>
      refine .broken (fun hunknown => ?_) (unstorable?_eq_some ht)
      cases h.symm.trans hunknown
    · next ht =>
      have hproper := (unstorable?_eq_none_iff (Registration.datastore r).texts).1 ht
      have hsent : Response.sent (.ofDocument r) = _ := Registration.sent_answer hproper
      dsimp only
      rw [hsent]
      exact .accepted h hproper

theorem registers_handle {r : Registration} (h : request.Registers service.settings.bodyRoom r) :
    service.Registers r (service.handle scheduler request) := by
  cases h with
  | cluster h hread =>
    rw [handle_of_asksFor service scheduler h]
    unfold serve withOrder
    simp only [hread]
    exact service.registers_registerCluster _
  | datastore h hread =>
    rw [handle_of_asksFor service scheduler h]
    unfold serve withOrder
    simp only [hread]
    exact service.registers_registerDatastore _

theorem service_handle_of_not_registers (h : ∀ r, ¬request.Registers service.settings.bodyRoom r) :
    (service.handle scheduler request).service = service := by
  by_cases hasks : ∃ resource, request.AsksFor resource
  · obtain ⟨resource, hasks⟩ := hasks
    rw [handle_of_asksFor service scheduler hasks]
    show (service.serve scheduler resource request.body).service = service
    unfold serve withOrder
    cases resource with
    | health => rfl
    | creation | cloning =>
      dsimp only
      split <;> rfl
    | clusters =>
      dsimp only
      split
      · next r hread => exact absurd (.cluster hasks hread) (h _)
      · rfl
    | datastores =>
      dsimp only
      split
      · next r hread => exact absurd (.datastore hasks hread) (h _)
      · rfl
  · rw [not_exists] at hasks
    obtain ⟨response, hresponse⟩ := handle_of_not_asksFor service scheduler hasks
    rw [hresponse]
    rfl

/-! ## Requests one after another -/

/-- The service that knows nothing yet. -/
def start (settings : Settings) : Service := ⟨settings, .empty⟩

/-- The service at its start, for a site with datastore clusters. -/
def plain : Service := start {
  schedulerUrl := "http://scheduler.test"
  apiType := managedType
  timeout := .whole 300
  maxControllers := defaultMaxControllers
  logLevel := "INFO"
  databaseUrl := "sqlite://"
  allowSqlite := true
  room := 100
  bodyRoom := 100
  manual := "manual/" }

/-- The service after requests, each with the scheduler as it was then. -/
def afterAll (service : Service) (requests : List (Scheduler × Request)) : Service :=
  requests.foldl (fun service (scheduler, request) => (service.handle scheduler request).service)
    service

def accepted? (service : Service) (scheduler : Scheduler) (request : Request) :
    Option Registration :=
  if (service.handle scheduler request).response.status = 200 then
    request.registration? service.settings.bodyRoom
  else none

/-- The registrations that are accepted with requests, in order. -/
def accepted (service : Service) : List (Scheduler × Request) → List Registration
  | [] => []
  | (scheduler, request) :: rest =>
    (service.accepted? scheduler request).toList ++
      (service.handle scheduler request).service.accepted rest

theorem accepted_cons (requests : List (Scheduler × Request)) :
    service.accepted ((scheduler, request) :: requests) =
      (service.accepted? scheduler request).toList ++
        (service.handle scheduler request).service.accepted requests := rfl

theorem accepted?_eq_some {r : Registration} (h : service.accepted? scheduler request = some r) :
    request.Registers service.settings.bodyRoom r ∧ service.obstacle? r = none ∧
      (∀ t ∈ r.texts, t.isProper = true) ∧
      service.handle scheduler request =
        ⟨{ service with inventory := service.inventory.register r }, r.answer, .empty⟩ := by
  unfold accepted? at h
  split at h
  · next hstatus =>
    have hregisters := (request.registration?_eq_some_iff _ r).1 h
    have hcase := service.registers_handle scheduler hregisters
    generalize service.handle scheduler request = served at hstatus hcase ⊢
    cases hcase with
    | accepted hcluster hproper => exact ⟨hregisters, hcluster, hproper, rfl⟩
    | refused => cases hstatus
    | broken => cases hstatus
  · cases h

/-- A request that registers nothing, or in vain, leaves the service as it is. -/
theorem service_handle_of_accepted?_eq_none (h : service.accepted? scheduler request = none) :
    (service.handle scheduler request).service = service := by
  cases hr : request.registration? service.settings.bodyRoom with
  | none =>
    refine service.service_handle_of_not_registers scheduler fun r hregisters => ?_
    rw [(request.registration?_eq_some_iff _ r).2 hregisters] at hr
    cases hr
  | some r =>
    have hcase := service.registers_handle scheduler ((request.registration?_eq_some_iff _ r).1 hr)
    unfold accepted? at h
    generalize service.handle scheduler request = served at h hcase ⊢
    cases hcase with
    | accepted =>
      have hstatus : r.answer.status = 200 := by cases r <;> rfl
      rw [if_pos hstatus, hr] at h
      cases h
    | refused => rfl
    | broken => rfl

/-- What requests make of a service is what the registrations accepted with them make of its
inventory. -/
theorem afterAll_eq (requests : List (Scheduler × Request)) (service : Service) :
    service.afterAll requests =
      { service with
        inventory := (service.accepted requests).foldl Inventory.register service.inventory } := by
  induction requests generalizing service with
  | nil => rfl
  | cons x requests ih =>
    obtain ⟨scheduler, request⟩ := x
    show (service.handle scheduler request).service.afterAll requests = _
    rw [ih, accepted_cons]
    cases h : service.accepted? scheduler request with
    | none => rw [service.service_handle_of_accepted?_eq_none scheduler h]; rfl
    | some r =>
      obtain ⟨-, -, -, hserved⟩ := service.accepted?_eq_some scheduler h
      rw [hserved]
      rfl

/-- What is kept by each registration that is accepted is kept by requests. -/
theorem afterAll_induction {P : Inventory → Prop}
    (hregister : ∀ (service : Service) (r : Registration), service.obstacle? r = none →
      P service.inventory → P (service.inventory.register r))
    (requests : List (Scheduler × Request)) (service : Service) (h : P service.inventory) :
    P (service.afterAll requests).inventory := by
  induction requests generalizing service with
  | nil => exact h
  | cons x requests ih =>
    obtain ⟨scheduler, request⟩ := x
    refine ih (service.handle scheduler request).service ?_
    cases hr : service.accepted? scheduler request with
    | none =>
      rw [service.service_handle_of_accepted?_eq_none scheduler hr]
      exact h
    | some r =>
      obtain ⟨-, hcluster, -, hserved⟩ := service.accepted?_eq_some scheduler hr
      rw [hserved]
      exact hregister service r hcluster h

/-- All that is accepted can be stored. -/
theorem isProper_of_mem_accepted {requests : List (Scheduler × Request)} {service : Service}
    {r : Registration} (h : r ∈ service.accepted requests) : ∀ t ∈ r.texts, t.isProper = true := by
  induction requests generalizing service with
  | nil => cases h
  | cons x requests ih =>
    obtain ⟨scheduler, request⟩ := x
    obtain hnow | hlater := List.mem_append.1 h
    · have hr := Option.mem_toList.1 hnow
      exact (service.accepted?_eq_some scheduler hr).2.2.1
    · exact ih hlater

end Service

end PodPlacement
