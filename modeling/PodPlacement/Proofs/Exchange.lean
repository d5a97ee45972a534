import PodPlacement.Exchange

/-!
# What comes of asking

A reply is of one of three kinds.  It brings a value that lists recommendations, or it is of no
use, or it means a failure that is not the scheduler's and is passed on.  What is made of a
reply is told by its kind, and what comes of asking is told by what is made of the reply.

    answerOf room post reply = .ok a ↔
      ∃ value, reply.Brings room value ∧ value.Lists a.recommendations (answerOf_eq_ok_iff)
    answerOf room post reply fails with a request failure ↔ reply.Unusable room
                                                               (answerOf_fails_request_iff)
    answerOf room post reply = .error f with f foreign ↔ reply.PassesOn room f
                                                               (answerOf_fails_foreign_iff)
    (recommend …).1 = (answerOf room post (scheduler post)).bind SchedulerAnswer.offers
      for a managed site and a known cluster                             (recommend_of_ok)
-/

namespace PodPlacement

open Json Text

/-! ## The kinds of replies -/

/-- The recommendations that a value lists: those in its member of that name, and none if it has
no such member. -/
inductive Json.Lists : Json → List Members → Prop
  | absent {members : Members} (h : members.lookup (.proper "recommendations") = none) :
      Lists (.object members) []
  | given {members : Members} {offers : List Members}
      (h : members.lookup (.proper "recommendations") = some (.array (offers.map .object))) :
      Lists (.object members) offers

namespace Reply

/-- Whether a reply is an answer with a text for its body, and with a status other than one of
an error. -/
def Answers (reply : Reply) (text : String) : Prop :=
  ∃ status reason, reply = .answer status reason (.proper text) ∧ ¬(400 ≤ status ∧ status < 600)

/-- Whether a reply brings a JSON value. -/
def Brings (room : Nat) (reply : Reply) (value : Json) : Prop :=
  ∃ text, reply.Answers text ∧ readBody room text = .ok value

/-- The replies that are of no use: there is no answer, or it is refused, or its body is not
JSON, or lists no recommendations. -/
inductive Unusable (room : Nat) : Reply → Prop
  | broken {breakdown : Breakdown} {message : Text} (h : breakdown ≠ .foreign) :
      Unusable room (.broken breakdown message)
  | refused {status : Nat} {reason body : Text} (h : 400 ≤ status ∧ status < 600) :
      Unusable room (.answer status reason body)
  | withoutBytes {status : Nat} {reason rest : Text} {s : String} {half : Half} :
      Unusable room (.answer status reason (.broken s half rest))
  | notJson {reply : Reply} {text : String} {failure : Failure} (h : reply.Answers text)
      (hread : readBody room text = .error failure)
      (hdeep : ∀ message, failure ≠ .tooDeep message) : Unusable room reply
  | misshapen {reply : Reply} {value : Json} (h : reply.Brings room value)
      (hlists : ∀ offers, ¬value.Lists offers) : Unusable room reply

/-- The failures that a reply means and that are not the scheduler's: what went wrong on the way
to it, and an answer that goes deeper than is read. -/
inductive PassesOn (room : Nat) : Reply → Failure → Prop
  | foreign (message : Text) : PassesOn room (.broken .foreign message) (.foreign message)
  | tooDeep {reply : Reply} {text message : String} (h : reply.Answers text)
      (hread : readBody room text = .error (.tooDeep message)) :
      PassesOn room reply (.tooDeep message)

/-- Every reply lists recommendations, is of no use, or passes a failure on. -/
theorem kinds (room : Nat) (reply : Reply) :
    (∃ value offers, reply.Brings room value ∧ value.Lists offers) ∨ reply.Unusable room ∨
      ∃ f, reply.PassesOn room f := by
  cases reply with
  | broken breakdown message =>
    by_cases hb : breakdown = .foreign
    · rw [hb]
      exact .inr (.inr ⟨_, .foreign message⟩)
    · exact .inr (.inl (.broken hb))
  | answer status reason body =>
    cases body with
    | broken s half rest => exact .inr (.inl .withoutBytes)
    | proper text =>
      by_cases hstatus : 400 ≤ status ∧ status < 600
      · exact .inr (.inl (.refused hstatus))
      · have hanswers : (Reply.answer status reason (.proper text)).Answers text :=
          ⟨status, reason, rfl, hstatus⟩
        cases hread : readBody room text with
        | error f =>
          by_cases hdeep : ∃ message, f = .tooDeep message
          · obtain ⟨message, rfl⟩ := hdeep
            exact .inr (.inr ⟨_, .tooDeep hanswers hread⟩)
          · exact .inr (.inl (.notJson hanswers hread fun message h => hdeep ⟨message, h⟩))
        | ok value =>
          by_cases hlists : ∃ offers, value.Lists offers
          · obtain ⟨offers, hlists⟩ := hlists
            exact .inl ⟨value, offers, ⟨text, hanswers, hread⟩, hlists⟩
          · exact .inr (.inl (.misshapen ⟨text, hanswers, hread⟩ fun offers h =>
              hlists ⟨offers, h⟩))

end Reply

/-! ## What is made of a reply -/

theorem isErrorStatus_iff (status : Nat) :
    isErrorStatus status = true ↔ 400 ≤ status ∧ status < 600 := by
  simp [isErrorStatus]

/-- A body that is not read is not JSON, or goes deeper than is read. -/
theorem category_of_readBody {room : Nat} {text : String} {f : Failure}
    (h : readBody room text = .error f) :
    f.category = .request ∨ ∃ message, f = .tooDeep message := by
  unfold readBody at h
  simp only at h
  split at h
  · cases h
  · next e _ =>
    rw [← Except.error.inj h]
    cases e with
    | malformed | wholeTooLong => exact .inl rfl
    | tooDeep => exact .inr ⟨_, rfl⟩

/-- An answer is read from the values that list its recommendations. -/
theorem SchedulerAnswer.read_eq_valid_iff (value : Json) (a : SchedulerAnswer) :
    (Document.read value : Checked SchedulerAnswer) = .valid a ↔
      value.Lists a.recommendations := by
  have hlist := Decoder.list_eq_valid_iff Decoder.mapping_eq_valid_iff
  cases value with
  | object members =>
    show (Checked.valid SchedulerAnswer.mk).apply
      (Decoder.optional "recommendations" [] (Decoder.list Decoder.mapping) members) = _ ↔ _
    rw [Checked.apply_eq_valid_iff]
    unfold Decoder.optional
    constructor
    · rintro ⟨mk, offers, hmk, hoffers, rfl⟩
      obtain rfl : SchedulerAnswer.mk = mk := Checked.valid.inj hmk
      split at hoffers
      · next value hl =>
        rw [Checked.within_eq_valid_iff, hlist] at hoffers
        exact .given (hoffers ▸ hl)
      · next hl =>
        obtain rfl := Checked.valid.inj hoffers
        exact .absent hl
    · intro h
      -- The recommendations are made a variable, for the cases of what is listed fix them.
      refine ⟨SchedulerAnswer.mk, a.recommendations, rfl, ?_, rfl⟩
      generalize a.recommendations = offers at h
      cases h with
      | absent hl => rw [hl]
      | given hl =>
        rw [hl]
        exact Checked.within_eq_valid_iff.2 ((hlist _ _).2 rfl)
  | null | bool | whole | real | string | array => exact ⟨nofun, nofun⟩

/-- The answer that a value is, or that it is none. -/
def SchedulerAnswer.ofValue (value : Json) : Except Failure SchedulerAnswer :=
  match (Document.read value : Checked SchedulerAnswer) with
  | .faulty faults => .error (.faultyAnswer faults)
  | .valid answer => .ok answer

theorem SchedulerAnswer.ofValue_of_lists {value : Json} {a : SchedulerAnswer}
    (h : value.Lists a.recommendations) : ofValue value = .ok a := by
  unfold ofValue
  rw [(read_eq_valid_iff value a).2 h]

theorem SchedulerAnswer.ofValue_of_not_lists {value : Json} (h : ∀ offers, ¬value.Lists offers) :
    ∃ faults, ofValue value = .error (.faultyAnswer faults) := by
  unfold ofValue
  split
  · next faults _ => exact ⟨faults, rfl⟩
  · next a hread => exact absurd ((read_eq_valid_iff value a).1 hread) (h _)

section

variable {room : Nat} (post : Post) {reply : Reply}

theorem answerOf_of_answers {text : String} (h : reply.Answers text) :
    answerOf room post reply = (readBody room text).bind SchedulerAnswer.ofValue := by
  obtain ⟨status, reason, rfl, hstatus⟩ := h
  rw [← isErrorStatus_iff] at hstatus
  show (if isErrorStatus status = true then _ else _) = _
  rw [if_neg hstatus]
  cases readBody room text <;> rfl

theorem answerOf_of_brings {value : Json} (h : reply.Brings room value) :
    answerOf room post reply = SchedulerAnswer.ofValue value := by
  obtain ⟨text, hanswers, hread⟩ := h
  rw [answerOf_of_answers post hanswers, hread]
  rfl

theorem answerOf_of_unusable (h : reply.Unusable room) :
    ∃ f, answerOf room post reply = .error f ∧ f.category = .request := by
  cases h with
  | @broken breakdown message hb =>
    refine ⟨_, rfl, ?_⟩
    cases breakdown with
    | foreign => exact absurd rfl hb
    | _ => rfl
  | @refused status reason body hstatus =>
    cases body with
    | broken s half rest => exact ⟨_, rfl, rfl⟩
    | proper text => exact ⟨_, if_pos ((isErrorStatus_iff status).2 hstatus), rfl⟩
  | withoutBytes => exact ⟨_, rfl, rfl⟩
  | notJson hanswers hread hdeep =>
    refine ⟨_, ?_, (category_of_readBody hread).resolve_right fun ⟨m, hm⟩ => hdeep m hm⟩
    rw [answerOf_of_answers post hanswers, hread]
    rfl
  | misshapen hbrings hlists =>
    obtain ⟨faults, hfaults⟩ := SchedulerAnswer.ofValue_of_not_lists hlists
    exact ⟨_, (answerOf_of_brings post hbrings).trans hfaults, rfl⟩

theorem answerOf_of_passesOn {f : Failure} (h : reply.PassesOn room f) :
    answerOf room post reply = .error f ∧ f.category = .foreign := by
  cases h with
  | foreign message => exact ⟨rfl, rfl⟩
  | tooDeep hanswers hread =>
    rw [answerOf_of_answers post hanswers, hread]
    exact ⟨rfl, rfl⟩

theorem answerOf_eq_ok_iff (a : SchedulerAnswer) :
    answerOf room post reply = .ok a ↔
      ∃ value, reply.Brings room value ∧ value.Lists a.recommendations := by
  constructor
  · intro h
    obtain ⟨value, offers, hbrings, hlists⟩ | hunusable | ⟨f, hpasses⟩ := reply.kinds room
    · have hoffers : answerOf room post reply = .ok ⟨offers⟩ :=
        (answerOf_of_brings post hbrings).trans (SchedulerAnswer.ofValue_of_lists hlists)
      obtain rfl : ⟨offers⟩ = a := Except.ok.inj (hoffers.symm.trans h)
      exact ⟨value, hbrings, hlists⟩
    · obtain ⟨f, hf, -⟩ := answerOf_of_unusable post hunusable
      cases hf.symm.trans h
    · cases (answerOf_of_passesOn post hpasses).1.symm.trans h
  · rintro ⟨value, hbrings, hlists⟩
    exact (answerOf_of_brings post hbrings).trans (SchedulerAnswer.ofValue_of_lists hlists)

/-- A reply of which no answer is made is of no use, or passes its failure on. -/
theorem kind_of_answerOf_eq_error {f : Failure} (h : answerOf room post reply = .error f) :
    reply.Unusable room ∧ f.category = .request ∨
      reply.PassesOn room f ∧ f.category = .foreign := by
  obtain ⟨value, offers, hbrings, hlists⟩ | hunusable | ⟨f', hpasses⟩ := reply.kinds room
  · have hoffers : answerOf room post reply = .ok ⟨offers⟩ :=
      (answerOf_eq_ok_iff post ⟨offers⟩).2 ⟨value, hbrings, hlists⟩
    cases hoffers.symm.trans h
  · obtain ⟨f', hf', hcategory⟩ := answerOf_of_unusable post hunusable
    obtain rfl : f' = f := Except.error.inj (hf'.symm.trans h)
    exact .inl ⟨hunusable, hcategory⟩
  · obtain ⟨hf', hcategory⟩ := answerOf_of_passesOn post hpasses
    obtain rfl : f' = f := Except.error.inj (hf'.symm.trans h)
    exact .inr ⟨hpasses, hcategory⟩

theorem answerOf_fails_request_iff :
    (∃ f, answerOf room post reply = .error f ∧ f.category = .request) ↔ reply.Unusable room := by
  refine ⟨fun ⟨f, h, hcategory⟩ => ?_, answerOf_of_unusable post⟩
  obtain ⟨hunusable, -⟩ | ⟨-, hforeign⟩ := kind_of_answerOf_eq_error post h
  · exact hunusable
  · cases hforeign.symm.trans hcategory

theorem answerOf_fails_foreign_iff (f : Failure) :
    answerOf room post reply = .error f ∧ f.category = .foreign ↔ reply.PassesOn room f := by
  refine ⟨fun ⟨h, hcategory⟩ => ?_, answerOf_of_passesOn post⟩
  obtain ⟨-, hrequest⟩ | ⟨hpasses, -⟩ := kind_of_answerOf_eq_error post h
  · cases hrequest.symm.trans hcategory
  · exact hpasses

theorem category_of_answerOf {f : Failure} (h : answerOf room post reply = .error f) :
    f.category = .request ∨ f.category = .foreign :=
  (kind_of_answerOf_eq_error post h).imp And.right And.right

/-- A body that is read in vain does not mean that time ran out, nor does a value that is no
answer. -/
theorem answerOf_of_answers_ne_timedOut {text : String} (h : reply.Answers text)
    (limit : Timeout) (breakdown : Breakdown) :
    answerOf room post reply ≠ .error (.timedOut limit breakdown) := by
  rw [answerOf_of_answers post h]
  unfold readBody
  dsimp only
  split
  · next value _ =>
    show SchedulerAnswer.ofValue value ≠ _
    unfold SchedulerAnswer.ofValue
    split <;> exact nofun
  · next e _ => cases e <;> exact nofun

/-- Time ran out if and only if the reply says so, whether on connecting or on reading. -/
theorem answerOf_eq_timedOut_iff (limit : Timeout) (breakdown : Breakdown) :
    answerOf room post reply = .error (.timedOut limit breakdown) ↔
      limit = post.timeout ∧ breakdown.isTimeout = true ∧
        ∃ message, reply = .broken breakdown message := by
  constructor
  · intro h
    cases reply with
    | broken b message =>
      cases b with
      | timeout | connectTimeout | readTimeout =>
        obtain ⟨rfl, rfl⟩ := Failure.timedOut.inj (Except.error.inj h)
        exact ⟨rfl, rfl, message, rfl⟩
      | _ => cases h
    | answer status reason body =>
      cases body with
      | broken s half rest => cases h
      | proper text =>
        by_cases hstatus : 400 ≤ status ∧ status < 600
        · have hrefused : answerOf room post (.answer status reason (.proper text)) =
              .error (.refused status reason post.url) :=
            if_pos ((isErrorStatus_iff status).2 hstatus)
          cases hrefused.symm.trans h
        · exact absurd h (answerOf_of_answers_ne_timedOut post ⟨_, _, rfl, hstatus⟩ limit breakdown)
  · rintro ⟨rfl, htimeout, message, rfl⟩
    cases breakdown with
    | timeout | connectTimeout | readTimeout => rfl
    | _ => cases htimeout

end

/-! ## What is made of an answer -/

/-- The recommendations of an answer, or that there are none. -/
def SchedulerAnswer.offers (a : SchedulerAnswer) : Except Failure Offers :=
  match a.offers? with
  | none => .error .noRecommendation
  | some offers => .ok offers

theorem SchedulerAnswer.offers_eq_ok_iff (a : SchedulerAnswer) (offers : Offers) :
    a.offers = .ok offers ↔ a.recommendations = offers.toList := by
  obtain ⟨_ | ⟨first, rest⟩⟩ := a
  · exact ⟨nofun, nofun⟩
  · obtain ⟨first', rest'⟩ := offers
    show Except.ok (Offers.mk first rest) = .ok ⟨first', rest'⟩ ↔ first :: rest = first' :: rest'
    rw [Except.ok.injEq, Offers.mk.injEq, List.cons.injEq]

theorem SchedulerAnswer.offers_eq_error_iff (a : SchedulerAnswer) (f : Failure) :
    a.offers = .error f ↔ a = ⟨[]⟩ ∧ f = .noRecommendation := by
  obtain ⟨_ | ⟨first, rest⟩⟩ := a
  · show Except.error Failure.noRecommendation = Except.error f ↔ _
    rw [Except.error.injEq]
    exact ⟨fun h => ⟨rfl, h.symm⟩, fun h => h.2.symm⟩
  · exact ⟨nofun, nofun⟩

section

variable {room : Nat} (post : Post) {reply : Reply}

theorem bind_offers_eq_ok_iff (offers : Offers) :
    (answerOf room post reply).bind SchedulerAnswer.offers = .ok offers ↔
      ∃ value, reply.Brings room value ∧ value.Lists offers.toList := by
  rw [← answerOf_eq_ok_iff post ⟨offers.toList⟩]
  cases answerOf room post reply with
  | error f => exact ⟨nofun, nofun⟩
  | ok a =>
    show a.offers = .ok offers ↔ _
    rw [a.offers_eq_ok_iff offers, Except.ok.injEq]
    obtain ⟨recommendations⟩ := a
    rw [SchedulerAnswer.mk.injEq]

theorem bind_offers_eq_error_iff (f : Failure) :
    (answerOf room post reply).bind SchedulerAnswer.offers = .error f ↔
      answerOf room post reply = .error f ∨
      answerOf room post reply = .ok ⟨[]⟩ ∧ f = .noRecommendation := by
  cases answerOf room post reply with
  | error f' =>
    show Except.error f' = .error f ↔ _
    rw [Except.error.injEq, Except.error.injEq]
    exact ⟨.inl, fun h => h.resolve_right fun h => nomatch h.1⟩
  | ok a =>
    show a.offers = .error f ↔ _
    rw [a.offers_eq_error_iff, Except.ok.injEq]
    exact ⟨.inr, fun h => h.resolve_left nofun⟩

theorem bind_offers_eq_noRecommendation_iff :
    (answerOf room post reply).bind SchedulerAnswer.offers = .error .noRecommendation ↔
      ∃ value, reply.Brings room value ∧ value.Lists [] := by
  rw [bind_offers_eq_error_iff, ← answerOf_eq_ok_iff post ⟨[]⟩]
  refine ⟨fun h => ?_, fun h => .inr ⟨h, rfl⟩⟩
  obtain h | h := h
  · obtain hcategory | hcategory := category_of_answerOf post h <;> cases hcategory
  · exact h.1

/-- What fails otherwise than for want of a recommendation fails with the answer. -/
theorem bind_offers_eq_error_iff_of_ne {f : Failure} (h : f.category ≠ .noRecommendation) :
    (answerOf room post reply).bind SchedulerAnswer.offers = .error f ↔
      answerOf room post reply = .error f := by
  rw [bind_offers_eq_error_iff]
  refine ⟨fun hf => hf.resolve_right fun ⟨_, hnone⟩ => h ?_, .inl⟩
  rw [hnone]
  rfl

end

/-! ## What comes of asking -/

/-- What is noted of what came of asking. -/
def receivedEvents : Except Failure Offers → List Event
  | .ok offers => [.received offers.size]
  | .error _ => []

section

variable {connection : Connection} {clusters : ClusterDirectory} (scheduler : Scheduler)
  (spec : ConfigSpec) (pool : Reference) {clusterId : Text} (tag : Text)

theorem managed_iff (connection : Connection) :
    connection.managed = true ↔ connection.apiType = "VirtualCenter" := beq_iff_eq

theorem recommend_of_unmanaged (h : connection.apiType ≠ "VirtualCenter") :
    recommend connection clusters scheduler spec pool clusterId tag =
      (.error .unmanaged, .empty) := by
  unfold recommend
  rw [if_pos]
  rw [Bool.not_eq_true', ← Bool.not_eq_true, managed_iff]
  exact h

theorem recommend_of_error (h : connection.apiType = "VirtualCenter") {e : LookupError}
    (hcluster : clusters clusterId = .error e) :
    recommend connection clusters scheduler spec pool clusterId tag =
      (.error (.ofClusterLookup clusterId e), Trace.clusterLookup clusterId) := by
  unfold recommend
  rw [(managed_iff connection).2 h]
  simp only [Bool.not_true, Bool.false_eq_true, if_false, hcluster]

/-- In a known cluster there is one post, and what comes of asking is what its reply means. -/
theorem recommend_of_ok (h : connection.apiType = "VirtualCenter") {pod : Cluster}
    (hcluster : clusters clusterId = .ok pod) :
    let asked := recommend connection clusters scheduler spec pool clusterId tag
    let post := connection.postFor spec pool pod
    asked.1 = (answerOf connection.room post (scheduler post)).bind SchedulerAnswer.offers ∧
    asked.2.clusterLookups = [clusterId] ∧ asked.2.posts = [post] ∧
    asked.2.datastoreLookups = [] := by
  intro asked post
  have hasked : asked = recommend connection clusters scheduler spec pool clusterId tag := rfl
  unfold recommend at hasked
  rw [(managed_iff connection).2 h] at hasked
  simp only [Bool.not_true, Bool.false_eq_true, if_false, hcluster] at hasked
  rw [hasked]
  cases answerOf connection.room post (scheduler post) with
  | error f => exact ⟨rfl, rfl, rfl, rfl⟩
  | ok a =>
    dsimp only [Except.bind, SchedulerAnswer.offers]
    cases a.offers? <;> exact ⟨rfl, rfl, rfl, rfl⟩

/-- In a known cluster it is noted what is asked for, and then how much was received, if anything
was. -/
theorem log_recommend_of_ok (h : connection.apiType = "VirtualCenter") {pod : Cluster}
    (hcluster : clusters clusterId = .ok pod) :
    let asked := recommend connection clusters scheduler spec pool clusterId tag
    asked.2.log =
      (Trace.notes tag (compositionEvents spec pod ++ receivedEvents asked.1)).log := by
  intro asked
  have hasked : asked = recommend connection clusters scheduler spec pool clusterId tag := rfl
  unfold recommend at hasked
  rw [(managed_iff connection).2 h] at hasked
  simp only [Bool.not_true, Bool.false_eq_true, if_false, hcluster] at hasked
  rw [hasked]
  have hbefore : (Trace.clusterLookup clusterId ++ Trace.notes tag (compositionEvents spec pod) ++
      Trace.post (connection.postFor spec pool pod)).log =
      (Trace.notes tag (compositionEvents spec pod)).log := List.append_nil _
  cases answerOf connection.room (connection.postFor spec pool pod)
      (scheduler (connection.postFor spec pool pod)) with
  | error f => simp only [hbefore, receivedEvents, List.append_nil]
  | ok a =>
    cases ho : a.offers? with
    | none => simp only [ho, hbefore, receivedEvents, List.append_nil]
    | some offers =>
      simp only [ho, Trace.append_log, hbefore, receivedEvents]
      exact List.map_append.symm

end

/-- **What comes of asking the scheduler.**  A site without datastore clusters asks nothing.
Else the cluster is looked up once, and if it is not found nothing is posted.  Else there is one
post, and its reply decides: the recommendations that it lists are given as they come; there may
be none; the reply may be of no use; or a failure that is not the scheduler's is passed on.
There are no other cases, and no two of these meet.  Where the clusters are those of an inventory,
one is found if its identifier has bytes and is known there. -/
theorem recommend_cases (connection : Connection) (clusters : ClusterDirectory)
    (scheduler : Scheduler) (spec : ConfigSpec) (pool : Reference) (clusterId tag : Text) :
    let asked := recommend connection clusters scheduler spec pool clusterId tag
    (connection.apiType ≠ "VirtualCenter" → asked.1 = .error .unmanaged ∧
      asked.2.clusterLookups = [] ∧ asked.2.posts = []) ∧
    (connection.apiType = "VirtualCenter" → asked.2.clusterLookups = [clusterId] ∧
      (clusters clusterId = .error .unknown →
        asked.1 = .error (.clusterUnknown clusterId) ∧ asked.2.posts = []) ∧
      (clusters clusterId = .error .unencodable →
        asked.1 = .error (.unencodable clusterId) ∧ asked.2.posts = []) ∧
      (∀ inventory : Inventory, clusters = inventory.clusterDirectory →
        (clusterId.isProper = true → inventory.cluster? clusterId = none →
          asked.2.posts = [] ∧ ∃ f, asked.1 = .error f ∧ f.category = .prerequisite ∧
            f.breakage? = some (.notFound (clusterNotFound clusterId))) ∧
        (clusterId.isProper = false →
          asked.1 = .error (.unencodable clusterId) ∧ asked.2.posts = [])) ∧
      ∀ pod, clusters clusterId = .ok pod →
        let post : Post := ⟨connection.schedulerUrl ++ "/recommend-datastores",
          connection.timeout, .ofSpec spec pool pod.reference⟩
        let reply := scheduler post
        asked.2.posts = [post] ∧
        (∀ offers, asked.1 = .ok offers ↔
          ∃ value, reply.Brings connection.room value ∧ value.Lists offers.toList) ∧
        (asked.1 = .error .noRecommendation ↔
          ∃ value, reply.Brings connection.room value ∧ value.Lists []) ∧
        ((∃ f, asked.1 = .error f ∧ f.category = .request) ↔ reply.Unusable connection.room) ∧
        (∀ f, asked.1 = .error f ∧ f.category = .foreign ↔ reply.PassesOn connection.room f) ∧
        (∀ limit breakdown, asked.1 = .error (.timedOut limit breakdown) ↔
          limit = connection.timeout ∧ breakdown.isTimeout = true ∧
            ∃ message, reply = .broken breakdown message) ∧
        (∀ f, asked.1 = .error f →
          f = .noRecommendation ∨ f.category = .request ∨ f.category = .foreign)) := by
  intro asked
  have hunfound : connection.apiType = "VirtualCenter" → ∀ e, clusters clusterId = .error e →
      asked.1 = .error (.ofClusterLookup clusterId e) ∧ asked.2.posts = [] := by
    intro hmanaged e hcluster
    have hasked : asked = _ := recommend_of_error scheduler spec pool tag hmanaged hcluster
    rw [hasked]
    exact ⟨rfl, rfl⟩
  refine ⟨fun hunmanaged => ?_, fun hmanaged =>
    ⟨?_, hunfound hmanaged .unknown, hunfound hmanaged .unencodable, ?_, ?_⟩⟩
  · have hasked : asked = _ := recommend_of_unmanaged scheduler spec pool tag hunmanaged
    rw [hasked]
    exact ⟨rfl, rfl, rfl⟩
  · cases hcluster : clusters clusterId with
    | error e =>
      have hasked : asked = _ := recommend_of_error scheduler spec pool tag hmanaged hcluster
      rw [hasked]
      rfl
    | ok pod => exact (recommend_of_ok scheduler spec pool tag hmanaged hcluster).2.1
  · rintro inventory rfl
    refine ⟨fun hproper hnone => ?_, fun himproper => ?_⟩
    · obtain ⟨hfailed, hposts⟩ := hunfound hmanaged .unknown
        ((lookUp_eq_unknown_iff _ _).2 ⟨hproper, hnone⟩)
      exact ⟨hposts, _, hfailed, rfl, rfl⟩
    · exact hunfound hmanaged .unencodable ((lookUp_eq_unencodable_iff _ _).2 himproper)
  · intro pod hcluster post reply
    obtain ⟨houtcome, -, hposts, -⟩ :=
      recommend_of_ok scheduler spec pool tag hmanaged hcluster
    replace houtcome : asked.1 =
        (answerOf connection.room post reply).bind SchedulerAnswer.offers := houtcome
    rw [houtcome]
    refine ⟨hposts, bind_offers_eq_ok_iff post, bind_offers_eq_noRecommendation_iff post,
      ?_, ?_, ?_, ?_⟩
    · rw [← answerOf_fails_request_iff post]
      refine exists_congr fun f => and_congr_left fun hcategory => ?_
      exact bind_offers_eq_error_iff_of_ne post (by rw [hcategory]; decide)
    · intro f
      rw [← answerOf_fails_foreign_iff post]
      refine and_congr_left fun hcategory => ?_
      exact bind_offers_eq_error_iff_of_ne post (by rw [hcategory]; decide)
    · intro limit breakdown
      rw [bind_offers_eq_error_iff_of_ne post (f := .timedOut limit breakdown) nofun,
        answerOf_eq_timedOut_iff]
    · intro f hf
      obtain h | h := (bind_offers_eq_error_iff post f).1 hf
      · exact .inr (category_of_answerOf post h)
      · exact .inl h.2

/-- What is asked about a cluster whose identifier has no bytes. -/
def aboutHalf : Except Failure Offers × Trace :=
  recommend ⟨"http://scheduler.test", managedType, .whole 300, 100⟩
    Inventory.empty.clusterDirectory (fun _ => .answer 200 "OK" "[]")
    ⟨none, none, none, none, []⟩ ⟨"ResourcePool", "p"⟩ loneHalf ""

/-- Not to find such a cluster is not among the failures of what was asked for. -/
theorem half_is_no_prerequisite :
    aboutHalf.2.clusterLookups = [loneHalf] ∧ Inventory.empty.cluster? loneHalf = none ∧
    ∃ f, aboutHalf.1 = .error f ∧ f.category ≠ .prerequisite :=
  ⟨rfl, rfl, _, rfl, by decide⟩

end PodPlacement
