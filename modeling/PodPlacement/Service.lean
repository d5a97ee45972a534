import PodPlacement.Json.Sending
import PodPlacement.Placing
import PodPlacement.Registration
import PodPlacement.Settings

/-!
# The service

The service over HTTP: clusters and datastores are registered, and machines are placed.  A
request that names a known resource has a body that is checked before anything is done; a
registration changes the inventory, a placement does not.
-/

namespace PodPlacement

/-! ## Requests and responses -/

structure Request where
  method : String
  /-- The path, its percent signs read. -/
  path : String
  /-- The text of the body; none if there is no body. -/
  body : Option String

/-- What a response carries. -/
inductive Content where
  | json (value : Json)
  | text (s : String)

structure Response where
  status : Nat
  content : Content

namespace Response

def detail (status : Nat) (value : Json) : Response :=
  ⟨status, .json (.object [("detail", value)])⟩

/-- The response to something that went wrong within the service. -/
def internalError : Response := ⟨500, .text "Internal Server Error"⟩

def notFound : Response := detail 404 (.string "Not Found")

def wrongMethod : Response := detail 405 (.string "Method Not Allowed")

/-- The response with a page, whose text is of no account here. -/
def page : Response := ⟨200, .text ""⟩

def ofDocument {α : Type} [Document α] (a : α) : Response := ⟨200, .json (Document.write a)⟩

def ofFailure (manual : String) (failure : Failure) : Response :=
  match failure.category with
  | .foreign => internalError
  | category => detail category.status (.string (failure.message manual))

/-- What is sent for a response.  One whose value cannot be sent is something that went wrong. -/
def sent (response : Response) : Response :=
  match response.content with
  | .json value => if value.isSendable then response else internalError
  | .text _ => response

end Response

/-! ## Faults of a body -/

/-- A cause as it is reported of a body, where members are looked up in all documents. -/
def Cause.inBody : Cause → Cause
  | .notDocument _ => .noMembers
  | cause => cause

/-- Whether members of a key are for the inventory alone and left out of reports. -/
def isReserved (key : Text) : Bool := key.startsWith "_sa"

/-- A fault of a body as it is reported. -/
def Fault.report (fault : Fault) : Json :=
  let cause := fault.cause.inBody
  let context : Members := match cause.context? with
    | some members => [("ctx", .object members)]
    | none => []
  let members : Members :=
    [("type", .string cause.code),
     ("loc", .array (.string "body" :: fault.path.map PathStep.toJson)),
     ("msg", .string cause.message), ("input", fault.input.without isReserved)]
  .object (members ++ context)

def malformedReport (problem : Json.Problem) (position : Nat) : Json :=
  .object [("type", .string "json_invalid"),
    ("loc", .array [.string "body", .whole position]), ("msg", .string "JSON decode error"),
    ("input", .object []), ("ctx", .object [("error", .string problem.text)])]

/-- The response to a body with something wrong. -/
def Response.unprocessable (reports : List Json) : Response := detail 422 (.array reports)

/-- The text of a body, its encoding told by its first character; none if the rest is not in
that encoding. -/
def decodeBody (raw : String) : Option String :=
  let bytes := Text.utf8Bytes raw.toList
  ((Text.Encoding.ofFirst bytes).decode? (some Text.replacement) bytes).map String.ofList

/-- The document that a body is, or the response to it.  No more than `room` lists and objects may
be within one another. -/
def readOrder (α : Type) [Document α] (room : Nat) (body : Option String) :
    Except Response α :=
  let check (input : Json) : Except Response α :=
    match (Document.read input : Checked α) with
    | .valid order => .ok order
    | .faulty faults => .error (.unprocessable (faults.map Fault.report))
  match body with
  | none => .error (.unprocessable [Fault.report ⟨[], .missing, .null⟩])
  | some "" => .error (.unprocessable [Fault.report ⟨[], .missing, .null⟩])
  | some raw =>
    match (decodeBody raw).map (Json.parse room) with
    | some (.ok value) => check value
    | some (.error (.malformed problem position)) =>
      .error (.unprocessable [malformedReport problem position])
    | some (.error (.wholeTooLong _)) | some (.error (.tooDeep _)) | none =>
      .error (.detail 400 (.string "There was an error parsing the body"))

/-! ## The service -/

/-- A service: its settings, and what has been registered. -/
structure Service where
  settings : Settings
  inventory : Inventory

/-- What comes of a request: the service after it, the response, and what could be seen. -/
structure Served where
  service : Service
  response : Response
  trace : Trace

namespace Service

/-- The response to a request that leaves the service as it is. -/
def respond (service : Service) (response : Response) : Served := ⟨service, response, .empty⟩

/-- How the service says that it works. -/
def health (service : Service) : Response :=
  ⟨200, .json (.object [("status", .string "ok"),
    ("scheduler_url", .string service.settings.schedulerUrl)])⟩

/-- Registers a cluster, if it can be stored. -/
def registerCluster (service : Service) (r : ClusterRegistration) : Served :=
  let cluster : Cluster := ⟨r.clusterId, r.name, r.inventoryPath⟩
  match unstorable? cluster.texts with
  | some _ => service.respond .internalError
  | none =>
    ⟨{ service with inventory := service.inventory.putCluster cluster }, .ofDocument r, .empty⟩

/-- Why the cluster that a registration names is not found, if it names one.  An empty name is
none. -/
def clusterError? (service : Service) (r : DatastoreRegistration) : Option LookupError :=
  match r.clusterId with
  | none => none
  | some id =>
    if id.isEmpty then none
    else
      match service.inventory.clusterDirectory id with
      | .ok _ => none
      | .error e => some e

/-- Registers a datastore, if the cluster that it names is found and it can be stored. -/
def registerDatastore (service : Service) (r : DatastoreRegistration) : Served :=
  match service.clusterError? r with
  | some .unknown => service.respond (.detail 404 (.string "datastore cluster not found"))
  | some .unencodable => service.respond .internalError
  | none =>
    let entry : DatastoreEntry := ⟨⟨r.datastoreId, r.name⟩, r.clusterId⟩
    match unstorable? entry.texts with
    | some _ => service.respond .internalError
    | none =>
      ⟨{ service with inventory := service.inventory.putDatastore entry }, .ofDocument r, .empty⟩

/-- What placements of the service work with. -/
def site (service : Service) (scheduler : Scheduler) : Site where
  connection := service.settings.toConnection
  scheduler := scheduler
  clusters := service.inventory.clusterDirectory
  datastores := service.inventory.datastoreDirectory
  maxControllers := service.settings.maxControllers
  selection := .first

def place {σ : Type} [Document σ] (service : Service) (outcome : Outcome σ) : Served :=
  let response := match outcome.failure with
    | none => .ofDocument outcome.spec
    | some failure => .ofFailure service.settings.manual failure
  ⟨service, response, outcome.trace⟩

def placeCreate (service : Service) (scheduler : Scheduler) (o : CreateOrder) : Served :=
  service.place ((service.site scheduler).create o.spec o.resourcePool o.clusterId o.resourceId)

def placeClone (service : Service) (scheduler : Scheduler) (o : CloneOrder) : Served :=
  service.place ((service.site scheduler).clone o.configSpec o.cloneSpec o.resourcePool
    o.clusterId o.sourceDevices o.specDevices o.resourceId)

/-! ## Resources -/

/-- What the service can be asked for. -/
inductive Resource where
  | health
  | clusters
  | datastores
  | creation
  | cloning
  deriving DecidableEq, Repr

def resources : List (String × Resource) :=
  [("/healthz", .health), ("/api/v1/datastore-clusters", .clusters),
   ("/api/v1/datastores", .datastores), ("/api/v1/placement/create", .creation),
   ("/api/v1/placement/clone", .cloning)]

def Resource.method : Resource → String
  | health => "GET"
  | clusters | datastores | creation | cloning => "POST"

/-- The method that asks for the head of an answer only. -/
def headMethod : String := "HEAD"

/-- The pages that say what the service can do. -/
def pages : List String := ["/docs", "/docs/oauth2-redirect", "/openapi.json", "/redoc"]

/-- A path without slashes at its end, nor one line end before them.  A client that asks for a path
with slashes is answered at once; it is not first told to ask for the path without them. -/
def barePath (path : String) : String :=
  match path.toList.reverse.dropWhile (· == '/') with
  | '\n' :: rest => String.ofList rest.reverse
  | rest => String.ofList rest.reverse

/-- Answers a request with a body of a kind. -/
def withOrder (α : Type) [Document α] (service : Service) (body : Option String)
    (serve : α → Served) : Served :=
  match readOrder α service.settings.bodyRoom body with
  | .ok order => serve order
  | .error response => service.respond response

def serve (service : Service) (scheduler : Scheduler) (resource : Resource)
    (body : Option String) : Served :=
  match resource with
  | .health => service.respond service.health
  | .clusters => service.withOrder ClusterRegistration body service.registerCluster
  | .datastores => service.withOrder DatastoreRegistration body service.registerDatastore
  | .creation => service.withOrder CreateOrder body (service.placeCreate scheduler)
  | .cloning => service.withOrder CloneOrder body (service.placeClone scheduler)

/-- What comes of a request for a path, the method being in capitals. -/
def reach (service : Service) (scheduler : Scheduler) (method path : String)
    (body : Option String) : Served :=
  match resources.lookup path with
  | some resource =>
    if method = resource.method then service.serve scheduler resource body
    else service.respond .wrongMethod
  | none =>
    if !pages.contains path then service.respond .notFound
    else if method = "GET" ∨ method = headMethod then service.respond .page
    else service.respond .wrongMethod

/-- Answers a request.  Where only the head of the answer is asked for, nothing is carried. -/
def handle (service : Service) (scheduler : Scheduler) (request : Request) : Served :=
  let method := Text.upperCase request.method
  let served := service.reach scheduler method (barePath request.path) request.body
  let response := served.response.sent
  let shown := if method = headMethod then { response with content := .text "" } else response
  { served with response := shown }

end Service

end PodPlacement
