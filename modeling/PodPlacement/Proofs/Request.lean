import PodPlacement.Service

/-!
# What a request asks for

A request asks for a resource by its path and its method.  The body of such a request is an order
of a kind, or it is not, and then it is refused before anything is done.

    readOrder α room body = x ↔ ReadsAs α room body x                       (readOrder_eq_iff)
    readOrder α room body = .ok order ↔
      body conveys an object of which order is read                      (readOrder_eq_ok_iff)
    Refuses α room body response ↔
      ∃ refusal, readOrder α room body = .error refusal ∧ refusal.sent = response
                                                                                 (refuses_iff)
    request.AsksFor resource → service.handle scheduler request =
      what service.serve scheduler resource request.body gives, as it is sent
                                                                           (handle_of_asksFor)
-/

namespace PodPlacement

/-! ## Bodies -/

/-- A body of which no value is read, although nothing may be wrong with its JSON: it is not in
its encoding, or has a whole number of too many digits, or goes too deep. -/
inductive Unparsable (room : Nat) : Option String → Prop
  | notDecoded {raw : String} (h : decodeBody raw = none) : Unparsable room (some raw)
  | wholeTooLong {raw text : String} {digits : Nat} (hdecode : decodeBody raw = some text)
      (hparse : Json.parse room text = .error (.wholeTooLong digits)) :
      Unparsable room (some raw)
  | tooDeep {raw text : String} {container : Json.Container}
      (hdecode : decodeBody raw = some text)
      (hparse : Json.parse room text = .error (.tooDeep container)) : Unparsable room (some raw)

def Conveys (room : Nat) (body : Option String) (value : Json) : Prop :=
  ∃ raw text, body = some raw ∧ decodeBody raw = some text ∧ Json.parse room text = .ok value

/-- What is reported of a body that is no document of a kind: its faults in order, or that there
is none, or what is wrong with its JSON and where. -/
inductive Reports (α : Type) [Document α] (room : Nat) (body : Option String) :
    List Json → Prop
  | faulty {value : Json} {faults : List Fault} (hvalue : Conveys room body value)
      (hread : (Document.read value : Checked α) = .faulty faults) :
      Reports α room body (faults.map Fault.report)
  | absent (h : body = none ∨ body = some "") :
      Reports α room body [Fault.report ⟨[], .missing, .null⟩]
  | malformed {raw text : String} {problem : Json.Problem} {position : Nat}
      (hbody : body = some raw) (hraw : raw ≠ "") (hdecode : decodeBody raw = some text)
      (hparse : Json.parse room text = .error (.malformed problem position)) :
      Reports α room body [malformedReport problem position]

/-- The response to a body of which no value is read. -/
def Response.unparsable : Response :=
  .detail 400 (.string "There was an error parsing the body")

/-- How a body is read as an order of a kind. -/
inductive ReadsAs (α : Type) [Document α] (room : Nat) (body : Option String) :
    Except Response α → Prop
  | valid {value : Json} {order : α} (hvalue : Conveys room body value)
      (hread : Document.read value = Checked.valid order) : ReadsAs α room body (.ok order)
  | reported {reports : List Json} (h : Reports α room body reports) :
      ReadsAs α room body (.error (.unprocessable reports))
  | unparsable (h : Unparsable room body) : ReadsAs α room body (.error .unparsable)

section

variable {α : Type} [Document α] {room : Nat} {body : Option String}

theorem readsAs_readOrder (α : Type) [Document α] (room : Nat) (body : Option String) :
    ReadsAs α room body (readOrder α room body) := by
  unfold readOrder
  split
  · exact .reported (.absent (.inl rfl))
  · exact .reported (.absent (.inr rfl))
  · next raw hraw =>
    dsimp only
    cases hdecode : decodeBody raw with
    | none => exact .unparsable (.notDecoded hdecode)
    | some text =>
      rw [Option.map_some]
      cases hparse : Json.parse room text with
      | ok value =>
        have hvalue : Conveys room (some raw) value := ⟨raw, text, rfl, hdecode, hparse⟩
        dsimp only
        cases hread : (Document.read value : Checked α) with
        | valid order => exact .valid hvalue hread
        | faulty faults => exact .reported (.faulty hvalue hread)
      | error e =>
        cases e with
        | malformed problem position => exact .reported (.malformed rfl hraw hdecode hparse)
        | wholeTooLong digits => exact .unparsable (.wholeTooLong hdecode hparse)
        | tooDeep container => exact .unparsable (.tooDeep hdecode hparse)

/-- Of the empty text no value is read, and nothing else is wrong with it. -/
theorem parse_empty {text : String} (hdecode : decodeBody "" = some text) :
    Json.parse room text = .error (.malformed .valueExpected 0) := by
  have hnothing : decodeBody "" = some "" := by decide +kernel
  obtain rfl : "" = text := Option.some.inj (hnothing.symm.trans hdecode)
  rfl

/-- A text that is not empty is read as what it is. -/
theorem readOrder_of_decoded {raw text : String} (hdecode : decodeBody raw = some text)
    (hraw : raw ≠ "") : readOrder α room (some raw) =
      match Json.parse room text with
      | .ok value =>
        match (Document.read value : Checked α) with
        | .valid order => .ok order
        | .faulty faults => .error (.unprocessable (faults.map Fault.report))
      | .error (.malformed problem position) =>
        .error (.unprocessable [malformedReport problem position])
      | .error _ => .error .unparsable := by
  unfold readOrder
  split
  · next h => cases h
  · next h => exact absurd (Option.some.inj h) hraw
  · next h =>
    obtain rfl := Option.some.inj h
    rw [hdecode, Option.map_some]
    cases Json.parse room text with
    | ok value => rfl
    | error e => cases e <;> rfl

theorem readOrder_of_readsAs {x : Except Response α} (h : ReadsAs α room body x) :
    readOrder α room body = x := by
  have hne {raw text : String} (hdecode : decodeBody raw = some text)
      (hparse : Json.parse room text ≠ .error (.malformed .valueExpected 0)) : raw ≠ "" := by
    rintro rfl
    exact hparse (parse_empty hdecode)
  cases h with
  | valid hvalue hread =>
    obtain ⟨raw, text, rfl, hdecode, hparse⟩ := hvalue
    rw [readOrder_of_decoded hdecode (hne hdecode (by rw [hparse]; exact nofun)), hparse]
    simp only [hread]
  | reported hreports =>
    cases hreports with
    | faulty hvalue hread =>
      obtain ⟨raw, text, rfl, hdecode, hparse⟩ := hvalue
      rw [readOrder_of_decoded hdecode (hne hdecode (by rw [hparse]; exact nofun)), hparse]
      simp only [hread]
    | absent habsent =>
      obtain rfl | rfl := habsent <;> rfl
    | malformed hbody hraw hdecode hparse =>
      rw [hbody, readOrder_of_decoded hdecode hraw, hparse]
  | unparsable hunparsable =>
    cases hunparsable with
    | @notDecoded raw hnone =>
      unfold readOrder
      split
      · next h => cases h
      · next h =>
        obtain rfl := Option.some.inj h
        have hnothing : decodeBody "" = some "" := by decide +kernel
        cases hnothing.symm.trans hnone
      · next h =>
        obtain rfl := Option.some.inj h
        rw [hnone]
        rfl
    | wholeTooLong hdecode hparse | tooDeep hdecode hparse =>
      rw [readOrder_of_decoded hdecode (hne hdecode (by rw [hparse]; exact nofun)), hparse]

theorem readOrder_eq_iff (x : Except Response α) :
    readOrder α room body = x ↔ ReadsAs α room body x :=
  ⟨fun h => h ▸ readsAs_readOrder α room body, readOrder_of_readsAs⟩

/-- An order is read from the bodies that convey an object with its members. -/
theorem readOrder_eq_ok_iff (order : α) :
    readOrder α room body = .ok order ↔
      ∃ members, Conveys room body (.object members) ∧
        Document.ofMembers members = Checked.valid order := by
  rw [readOrder_eq_iff]
  constructor
  · intro h
    cases h with
    | valid hvalue hread =>
      obtain ⟨members, rfl, hmembers⟩ := (Document.read_eq_valid_iff _ _).1 hread
      exact ⟨members, hvalue, hmembers⟩
  · rintro ⟨members, hvalue, hmembers⟩
    exact .valid hvalue ((Document.read_eq_valid_iff _ order).2 ⟨_, rfl, hmembers⟩)

theorem toOption_readOrder_eq_some_iff (order : α) :
    (readOrder α room body).toOption = some order ↔ readOrder α room body = .ok order := by
  cases readOrder α room body <;> simp [Except.toOption]

end

/-! ## Responses as they are sent -/

namespace Response

theorem sent_json (status : Nat) (value : Json) :
    (Response.mk status (.json value)).sent =
      if value.isSendable = true then ⟨status, .json value⟩ else internalError := rfl

/-- A detail is sent if its value can be sent. -/
theorem sent_detail (status : Nat) (value : Json) :
    (detail status value).sent =
      if value.isSendable = true then detail status value else internalError := by
  refine (sent_json _ _).trans ?_
  have hkey : (Text.proper "detail").isProper = true := rfl
  simp [Json.isSendable, Json.membersSendable, hkey, detail]

end Response

/-! ## How bodies are refused -/

/-- How a body that is no document of a kind is refused: with what is reported of it, if that can
be sent. -/
inductive Refuses (α : Type) [Document α] (room : Nat) (body : Option String) : Response → Prop
  | unprocessable {reports : List Json} (h : Reports α room body reports)
      (hsend : (Json.array reports).isSendable = true) :
      Refuses α room body ⟨422, .json (.object [("detail", .array reports)])⟩
  | unsendable {reports : List Json} (h : Reports α room body reports)
      (hsend : (Json.array reports).isSendable = false) : Refuses α room body .internalError
  | unparsable (h : Unparsable room body) : Refuses α room body .unparsable

section

variable {α : Type} [Document α] {room : Nat} {body : Option String} {response : Response}

/-- A body that is refused is refused in one way. -/
theorem refuses_iff : Refuses α room body response ↔
    ∃ refusal, readOrder α room body = .error refusal ∧ refusal.sent = response := by
  simp only [readOrder_eq_iff]
  have hsent (reports : List Json) : (Response.unprocessable reports).sent =
      if (Json.array reports).isSendable = true then .unprocessable reports else .internalError :=
    Response.sent_detail _ _
  constructor
  · intro h
    cases h with
    | unprocessable hreports hsend =>
      exact ⟨_, .reported hreports, (hsent _).trans (if_pos hsend)⟩
    | unsendable hreports hsend =>
      exact ⟨_, .reported hreports, (hsent _).trans (if_neg (by rw [hsend]; decide))⟩
    | unparsable hunparsable => exact ⟨_, .unparsable hunparsable, rfl⟩
  · rintro ⟨refusal, hreads, rfl⟩
    cases hreads with
    | unparsable hunparsable => exact .unparsable hunparsable
    | @reported reports hreports =>
      rw [hsent]
      split
      · next hsend => exact .unprocessable hreports hsend
      · next hsend => exact .unsendable hreports (Bool.not_eq_true _ ▸ hsend)

theorem Refuses.status_mem (h : Refuses α room body response) :
    response.status ∈ [422, 400, 500] := by
  cases h with
  | unprocessable => exact List.mem_cons_self
  | unsendable | unparsable => decide

end

/-! ## Requests for resources -/

/-- Whether a request is for a resource, with the method of that resource. -/
def Request.AsksFor (request : Request) (resource : Service.Resource) : Prop :=
  Service.resources.lookup (Service.barePath request.path) = some resource ∧
    Text.upperCase request.method = resource.method

instance (request : Request) (resource : Service.Resource) :
    Decidable (request.AsksFor resource) :=
  inferInstanceAs (Decidable (_ ∧ _))

/-- A request is for one resource at most. -/
theorem Request.AsksFor.unique {request : Request} {resource resource' : Service.Resource}
    (h : request.AsksFor resource) (h' : request.AsksFor resource') : resource = resource' :=
  Option.some.inj (h.1.symm.trans h'.1)

/-- How a request is refused whose body is not the order that it is for. -/
inductive Request.IsRefused (request : Request) (room : Nat) (response : Response) : Prop
  | clusters (hasks : request.AsksFor .clusters)
      (h : Refuses ClusterRegistration room request.body response)
  | datastores (hasks : request.AsksFor .datastores)
      (h : Refuses DatastoreRegistration room request.body response)
  | creation (hasks : request.AsksFor .creation)
      (h : Refuses CreateOrder room request.body response)
  | cloning (hasks : request.AsksFor .cloning)
      (h : Refuses CloneOrder room request.body response)

/-- A request that posts a document to a path. -/
def Request.posting {α : Type} [Document α] (path : String) (a : α) : Request :=
  ⟨"POST", path, some (Json.render (Document.write a))⟩

namespace Service

variable (service : Service) (scheduler : Scheduler) {request : Request}

/-- A request for a resource is answered with what is served of it, as it is sent. -/
theorem handle_of_asksFor {resource : Resource} (h : request.AsksFor resource) :
    let served := service.serve scheduler resource request.body
    service.handle scheduler request = { served with response := served.response.sent } := by
  obtain ⟨hpath, hmethod⟩ := h
  have hhead : resource.method ≠ headMethod := by cases resource <;> decide
  unfold handle reach
  simp only [hpath, hmethod, if_true, if_neg hhead]

/-- A request for no resource is answered without anything being done. -/
theorem handle_of_not_asksFor (h : ∀ resource, ¬request.AsksFor resource) :
    ∃ response, service.handle scheduler request = service.respond response := by
  unfold handle reach
  dsimp only
  split
  · next resource hpath =>
    rw [if_neg fun hmethod => h resource ⟨hpath, hmethod⟩]
    exact ⟨_, rfl⟩
  · split
    · exact ⟨_, rfl⟩
    · split <;> exact ⟨_, rfl⟩

end Service

end PodPlacement
