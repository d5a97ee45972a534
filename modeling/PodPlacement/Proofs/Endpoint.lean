import PodPlacement.Proofs.Placing
import PodPlacement.Proofs.Registration

/-!
# What clients see of a placement

A placement fails with a failure of placement, of one of four categories, or by the lookup of
what has no bytes, or because the scheduler passes on what is not its own failure: `Fails` names
these, and there are no others.  So a request for a placement is answered with what is placed,
or with the status of one of the categories, or as something that went wrong.

    (order.outcome site).failure = some f → site.Fails (order.outcome site).trace f
                                                                            (fails_outcome)
    request.AsksFor .creation ∨ request.AsksFor .cloning →
      service.Answers scheduler request (service.handle scheduler request)  (answers_handle)
-/

namespace PodPlacement

/-! ## Why placements fail -/

/-- The statuses of failures of placement, by their categories. -/
inductive Failure.ShowsAs (f : Failure) : Nat → Prop
  | prerequisite (h : f.category = .prerequisite) : ShowsAs f 400
  | resolution (h : f.category = .resolution) : ShowsAs f 404
  | noRecommendation (h : f.category = .noRecommendation) : ShowsAs f 409
  | request (h : f.category = .request) : ShowsAs f 502

namespace Site

/-- Why a placement fails, of which something could be seen: it is a failure of placement, or a
lookup of what has no bytes, or it is passed on from the scheduler. -/
inductive Fails (site : Site) (trace : Trace) (f : Failure) : Prop
  | shown {status : Nat} (h : f.ShowsAs status)
  | clusterLookup {id : Text} (hf : f = .unencodable id) (hlast : trace.clusterLookups = [id])
      (h : site.clusters id = .error .unencodable)
  | datastoreLookup {id : Text} (hf : f = .unencodable id)
      (hlast : trace.datastoreLookups.getLast? = some id)
      (h : site.datastores id = .error .unencodable)
  | passedOn {post : Post} (hpost : trace.posts = [post])
      (h : (site.scheduler post).PassesOn site.connection.room f)

section

variable (site : Site) {opening : Event} {spec : ConfigSpec} {pool : Reference}
  {clusterId tag : Text}

theorem fails_recommend {f : Failure} :
    let asked := recommend site.connection site.clusters site.scheduler spec pool clusterId tag
    asked.1 = .error f → site.Fails asked.2 f := by
  intro asked hf
  by_cases hmanaged : site.connection.apiType = "VirtualCenter"
  · cases hcluster : site.clusters clusterId with
    | error e =>
      have hasked : asked = _ := recommend_of_error site.scheduler spec pool tag hmanaged hcluster
      rw [hasked] at hf ⊢
      obtain rfl := Except.error.inj hf
      cases e with
      | unknown => exact .shown (.prerequisite rfl)
      | unencodable => exact .clusterLookup rfl rfl hcluster
    | ok pod =>
      obtain ⟨houtcome, -, hposts, -⟩ :=
        recommend_of_ok site.scheduler spec pool tag hmanaged hcluster
      obtain hanswer | ⟨-, rfl⟩ := (bind_offers_eq_error_iff _ f).1 (houtcome.symm.trans hf)
      · obtain ⟨-, hrequest⟩ | ⟨hpasses, -⟩ := kind_of_answerOf_eq_error _ hanswer
        · exact .shown (.request hrequest)
        · exact .passedOn hposts hpasses
      · exact .shown (.noRecommendation rfl)
  · have hasked : asked = _ := recommend_of_unmanaged site.scheduler spec pool tag hmanaged
    rw [hasked] at hf
    obtain rfl := Except.error.inj hf
    exact .shown (.prerequisite rfl)

theorem fails_advice {f : Failure}
    (h : (site.advice opening spec pool clusterId tag).1 = .error f) :
    site.Fails (site.advice opening spec pool clusterId tag).2 f := by
  rw [advice_eq] at h ⊢
  cases hasked : (recommend site.connection site.clusters site.scheduler spec pool clusterId
      tag).1 with
  | error f' =>
    rw [hasked] at h
    obtain rfl : f' = f := Except.error.inj h
    cases site.fails_recommend hasked with
    | shown hshows => exact .shown hshows
    | clusterLookup hf hlast hid => exact .clusterLookup hf hlast hid
    | datastoreLookup hf hlast hid => exact .datastoreLookup hf hlast hid
    | passedOn hpost hpasses => exact .passedOn hpost hpasses
  | ok offers =>
    rw [hasked] at h
    change site.adopt offers = .error f at h
    unfold adopt at h
    split at h
    · cases h
    · next e _ =>
      obtain rfl := Except.error.inj h
      refine .shown (.request ?_)
      cases e <;> rfl

/-- Why a placement fails: for want of advice, or by the lookup of a datastore. -/
theorem Follows.fails {σ : Type} {before : σ} {project : Recommendation → Projection σ}
    {o : Outcome σ} {site : Site}
    (h : Follows (site.advice opening spec pool clusterId tag) before project o)
    (hproject : ∀ r f, (project r).failure = some f →
      f.EndsLookups site.datastores (project r).lookups) {f : Failure} (hf : o.failure = some f) :
    site.Fails o.trace f := by
  cases h with
  | unadvised hadvice =>
    obtain rfl := Option.some.inj hf
    exact site.fails_advice hadvice
  | @advised r noted =>
    rw [Outcome.failure_following] at hf
    have hlookups := Outcome.datastoreLookups_following noted (project r)
      (site.advice opening spec pool clusterId tag).2
    rw [site.datastoreLookups_advice, List.nil_append] at hlookups
    obtain ⟨id, hlast, ⟨-, hunresolved⟩ | ⟨hid, rfl⟩⟩ := hproject r f hf
    · exact .shown (.resolution hunresolved.category)
    · exact .datastoreLookup rfl (by rw [hlookups, hlast]) hid

end

end Site

/-! ## Orders for placements -/

/-- What a service is asked to place. -/
inductive PlacementOrder where
  | creation (o : CreateOrder)
  | cloning (o : CloneOrder)

def Outcome.written {σ : Type} [Document σ] (o : Outcome σ) : Outcome Json :=
  { o with spec := Document.write o.spec }

namespace PlacementOrder

def outcome (site : Site) : PlacementOrder → Outcome Json
  | creation o => (site.create o.spec o.resourcePool o.clusterId o.resourceId).written
  | cloning o => (site.clone o.configSpec o.cloneSpec o.resourcePool o.clusterId o.sourceDevices
      o.specDevices o.resourceId).written

theorem fails_outcome (order : PlacementOrder) (site : Site) {f : Failure}
    (hf : (order.outcome site).failure = some f) : site.Fails (order.outcome site).trace f := by
  cases order with
  | creation o =>
    have hfollows := site.follows_create o.spec o.resourcePool o.clusterId o.resourceId
    exact hfollows.fails (fun r _ => (o.spec.ends_project _ r).endsLookups) hf
  | cloning o =>
    have hfollows := site.follows_clone o.configSpec o.cloneSpec o.resourcePool o.clusterId
      o.sourceDevices o.specDevices o.resourceId
    exact hfollows.fails (fun r _ => (o.cloneSpec.ends_project _ site.maxControllers
      o.sourceDevices o.specDevices r).endsLookups) hf

end PlacementOrder

/-- What a request orders: its body conveys the members of an order. -/
inductive Request.Orders (request : Request) (room : Nat) : PlacementOrder → Prop
  | creation {o : CreateOrder} {members : Members} (h : request.AsksFor .creation)
      (hbody : Conveys room request.body (.object members))
      (hread : Document.ofMembers members = Checked.valid o) : Orders request room (.creation o)
  | cloning {o : CloneOrder} {members : Members} (h : request.AsksFor .cloning)
      (hbody : Conveys room request.body (.object members))
      (hread : Document.ofMembers members = Checked.valid o) : Orders request room (.cloning o)

/-! ## Responses to placements -/

/-- How what comes of a placement shows to clients. -/
inductive Outcome.Shows (site : Site) (manual : String) (o : Outcome Json) : Response → Prop
  | placed (h : o.failure = none) (hsend : o.spec.isSendable = true) :
      Shows site manual o ⟨200, .json o.spec⟩
  | unsendable (h : o.failure = none) (hsend : o.spec.isSendable = false) :
      Shows site manual o .internalError
  | failed {f : Failure} {status : Nat} (h : o.failure = some f) (hshows : f.ShowsAs status)
      (hsend : (f.message manual).isProper = true) :
      Shows site manual o ⟨status, .json (.object [("detail", .string (f.message manual))])⟩
  | unsayable {f : Failure} {status : Nat} (h : o.failure = some f) (hshows : f.ShowsAs status)
      (hsend : (f.message manual).isProper = false) : Shows site manual o .internalError
  | clusterLookup {id : Text} (h : o.failure = some (.unencodable id))
      (hlast : o.trace.clusterLookups = [id]) (hid : id.isProper = false) :
      Shows site manual o .internalError
  | datastoreLookup {id : Text} (h : o.failure = some (.unencodable id))
      (hlast : o.trace.datastoreLookups.getLast? = some id) (hid : id.isProper = false) :
      Shows site manual o .internalError
  | passedOn {f : Failure} {post : Post} (h : o.failure = some f) (hpost : o.trace.posts = [post])
      (hpasses : (site.scheduler post).PassesOn site.connection.room f) :
      Shows site manual o .internalError

/-- How a request for a placement is answered: by what comes of its order, or it has none and
is refused, and nothing can be seen of it. -/
inductive Service.Answers (service : Service) (scheduler : Scheduler) (request : Request) :
    Served → Prop
  | ordered {order : PlacementOrder} {response : Response}
      (horder : request.Orders service.settings.bodyRoom order)
      (hshows : (order.outcome (service.site scheduler)).Shows (service.site scheduler)
        service.settings.manual response) :
      Answers service scheduler request
        ⟨service, response, (order.outcome (service.site scheduler)).trace⟩
  | refused {response : Response} (hnone : ∀ order, ¬request.Orders service.settings.bodyRoom order)
      (hrefused : request.IsRefused service.settings.bodyRoom response) :
      Answers service scheduler request ⟨service, response, .empty⟩

theorem Response.ofFailure_of_showsAs (manual : String) {f : Failure} {status : Nat}
    (h : f.ShowsAs status) :
    ofFailure manual f = detail status (.string (f.message manual)) := by
  unfold ofFailure
  cases h with
  | prerequisite h | resolution h | noRecommendation h | request h =>
    rw [h]
    rfl

theorem Response.ofFailure_of_foreign (manual : String) {f : Failure}
    (h : f.category = .foreign) : ofFailure manual f = internalError := by
  unfold ofFailure
  rw [h]

/-- What is served of a placement is how it shows. -/
theorem Outcome.shows_place {σ : Type} [Document σ] (service : Service) (scheduler : Scheduler)
    (o : Outcome σ) (hfails : ∀ f, o.failure = some f → (service.site scheduler).Fails o.trace f) :
    o.written.Shows (service.site scheduler) service.settings.manual
      (service.place o).response.sent := by
  unfold Service.place
  dsimp only
  cases hf : o.failure with
  | none =>
    dsimp only
    unfold Response.ofDocument
    rw [Response.sent_json]
    split
    · next hsend => exact .placed hf hsend
    · next hsend => exact .unsendable hf (Bool.not_eq_true _ ▸ hsend)
  | some f =>
    dsimp only
    cases hfails f hf with
    | shown hshows =>
      rw [Response.ofFailure_of_showsAs _ hshows, Response.sent_detail, Json.isSendable_string]
      split
      · next hsend => exact .failed hf hshows hsend
      · next hsend => exact .unsayable hf hshows (Bool.not_eq_true _ ▸ hsend)
    | clusterLookup hid hlast hlook =>
      rw [hid, Response.ofFailure_of_foreign _ rfl]
      exact .clusterLookup (hid ▸ hf) hlast ((lookUp_eq_unencodable_iff _ _).1 hlook)
    | datastoreLookup hid hlast hlook =>
      rw [hid, Response.ofFailure_of_foreign _ rfl]
      exact .datastoreLookup (hid ▸ hf) hlast ((lookUp_eq_unencodable_iff _ _).1 hlook)
    | @passedOn post hpost hpasses =>
      obtain ⟨-, hforeign⟩ := answerOf_of_passesOn post hpasses
      rw [Response.ofFailure_of_foreign _ hforeign]
      exact .passedOn hf hpost hpasses

namespace Service

section

variable (service : Service) (scheduler : Scheduler) {request : Request}

/-- A request whose body is read as an order of a kind is answered by what comes of that order. -/
theorem answers_withOrder {α σ : Type} [Document α] [Document σ] (order : α → PlacementOrder)
    (outcome : α → Outcome σ)
    (houtcome : ∀ a, (order a).outcome (service.site scheduler) = (outcome a).written)
    (horders : ∀ x, request.Orders service.settings.bodyRoom x ↔
      ∃ a, readOrder α service.settings.bodyRoom request.body = .ok a ∧ order a = x)
    (hrefused : ∀ {response}, Refuses α service.settings.bodyRoom request.body response →
      request.IsRefused service.settings.bodyRoom response) :
    let served := service.withOrder α request.body fun a => service.place (outcome a)
    service.Answers scheduler request { served with response := served.response.sent } := by
  unfold withOrder
  cases hread : readOrder α service.settings.bodyRoom request.body with
  | ok a =>
    have horder : request.Orders service.settings.bodyRoom (order a) :=
      (horders _).2 ⟨a, hread, rfl⟩
    have hfails (f : Failure) (hf : (outcome a).failure = some f) :
        (service.site scheduler).Fails (outcome a).trace f := by
      have hfails := (order a).fails_outcome (service.site scheduler) (f := f)
      rw [houtcome] at hfails
      exact hfails hf
    have hshows := Outcome.shows_place service scheduler (outcome a) hfails
    have hanswers : service.Answers scheduler request _ := .ordered horder (houtcome a ▸ hshows)
    rw [houtcome] at hanswers
    exact hanswers
  | error refusal =>
    refine .refused (fun x hx => ?_) (hrefused (refuses_iff.2 ⟨refusal, hread, rfl⟩))
    obtain ⟨a, ha, -⟩ := (horders x).1 hx
    cases hread.symm.trans ha

/-- **Clients see what comes of a placement.**  A request for a placement leaves the service as
it is.  A body that is no order is refused, and nothing is posted.  Else the response is what is
placed, or the failure of placement, with the status of its category and with its text for a
detail; there are four such categories.  It is an internal error only if something cannot be
sent, or if what has no bytes is looked up, or if the scheduler passes on what is not its own
failure. -/
theorem answers_handle (h : request.AsksFor .creation ∨ request.AsksFor .cloning) :
    service.Answers scheduler request (service.handle scheduler request) := by
  obtain h | h := h
  · rw [handle_of_asksFor service scheduler h]
    refine service.answers_withOrder scheduler .creation
      (fun o => (service.site scheduler).create o.spec o.resourcePool o.clusterId o.resourceId)
      (fun _ => rfl) (fun x => ⟨fun hx => ?_, ?_⟩) (.creation h)
    · cases hx with
      | creation _ hbody hread => exact ⟨_, (readOrder_eq_ok_iff _).2 ⟨_, hbody, hread⟩, rfl⟩
      | cloning h' => cases h.unique h'
    · rintro ⟨o, horder, rfl⟩
      obtain ⟨members, hbody, hread⟩ := (readOrder_eq_ok_iff o).1 horder
      exact .creation h hbody hread
  · rw [handle_of_asksFor service scheduler h]
    refine service.answers_withOrder scheduler .cloning
      (fun o => (service.site scheduler).clone o.configSpec o.cloneSpec o.resourcePool o.clusterId
        o.sourceDevices o.specDevices o.resourceId)
      (fun _ => rfl) (fun x => ⟨fun hx => ?_, ?_⟩) (.cloning h)
    · cases hx with
      | creation h' => cases h.unique h'
      | cloning _ hbody hread => exact ⟨_, (readOrder_eq_ok_iff _).2 ⟨_, hbody, hread⟩, rfl⟩
    · rintro ⟨o, horder, rfl⟩
      obtain ⟨members, hbody, hread⟩ := (readOrder_eq_ok_iff o).1 horder
      exact .cloning h hbody hread

end

/-- A service that knows a cluster and a datastore in it. -/
def furnished : Service :=
  { plain with inventory := ⟨[⟨"c", "pod", ""⟩], [⟨⟨"d", "ds"⟩, some "c"⟩]⟩ }

/-- A scheduler that recommends a datastore for the machine. -/
def sendingTo (id : Text) : Scheduler := fun _ =>
  let action : Json := .object [("destination", (Reference.datastore id).write)]
  let offer : Json := .object [("actions", .array [action])]
  .answer 200 "OK" (Json.object [("recommendations", .array [offer])]).render

/-- A request to create a machine in a cluster, with nothing but what has to be there. -/
def creating (clusterId : Text) : Request where
  method := "POST"
  path := "/api/v1/placement/create"
  body := some (Json.object [("spec", .object []), ("resource_pool", Reference.write ⟨"Pool", "p"⟩),
    ("datastore_cluster_id", .string clusterId)]).render

theorem answers_creating :
    let request := creating "c"
    (request.AsksFor .creation ∨ request.AsksFor .cloning) ∧
    (furnished.handle (sendingTo "d") request).response.status = 200 ∧
    furnished.Answers (sendingTo "d") request (furnished.handle (sendingTo "d") request) := by
  intro request
  have hasks : request.AsksFor .creation ∨ request.AsksFor .cloning := by decide +kernel
  exact ⟨hasks, by decide +kernel, answers_handle furnished (sendingTo "d") hasks⟩

/-- A cluster whose identifier cannot be looked for is an internal error, although the order
is valid and the scheduler would answer. -/
theorem half_is_internal_error :
    let request := creating .loneHalf
    (∃ order, request.Orders furnished.settings.bodyRoom order) ∧
    (furnished.handle (sendingTo "d") request).response.status = 500 := by
  intro request
  have hread : (readOrder CreateOrder furnished.settings.bodyRoom
      request.body).toOption.isSome = true := by decide +kernel
  refine ⟨?_, by decide +kernel⟩
  cases horder : readOrder CreateOrder furnished.settings.bodyRoom request.body with
  | ok o =>
    obtain ⟨members, hbody, hmembers⟩ := (readOrder_eq_ok_iff o).1 horder
    exact ⟨_, .creation (by decide +kernel) hbody hmembers⟩
  | error refusal =>
    rw [horder] at hread
    cases hread

end Service

end PodPlacement
