/-
**Credential requests of a holder.**

A holder finds out where an issuer takes requests, sends one, and asks again and again how it
stands, until the issuer has decided or too much time has passed.

* `HolderRequest.State`: CREATED, REQUESTING, REQUESTED, ISSUED, and the two failures;
* `HolderRequest.awaitIssuance`: the handler of requests that were sent;
* `HolderRequest.registry`: the transitions, with the longest wait for an issuer.
-/

import Leasehold.Credential.Partner
import Leasehold.Registry.Draft
import Leasehold.Time.Rfc3339

namespace Leasehold.Credential.HolderRequest

/-! ### States -/

/-- The states of a credential request. -/
inductive State where
  | created
  | requesting
  | requested
  | issued
  | failed
  | cancelled
deriving DecidableEq, Repr

namespace State

/-- All states. -/
def all : List State := [created, requesting, requested, issued, failed, cancelled]

/-- The code of a state. -/
def number : State → Int
  | created => 100
  | requesting => 200
  | requested => 300
  | issued => 400
  | failed => 500
  | cancelled => 600

/-- The name of a state. -/
def name : State → String
  | created => "CREATED"
  | requesting => "REQUESTING"
  | requested => "REQUESTED"
  | issued => "ISSUED"
  | failed => "ERROR"
  | cancelled => "CANCELLED"

instance : ProcessState State where
  code := number
  ofCode? := stateWithCode? number all
  label := name
  ofCode?_eq_some_iff := stateWithCode?_eq_some_iff
    (fun state => by cases state <;> decide)
    (fun first second same => by cases first <;> cases second <;> first | rfl | cases same)

end State

/-! ### Payloads -/

/-- The payload of a credential request. -/
structure Request where
  /-- Where the holder takes part. -/
  participantContext : String
  issuer : String
  wishes : List Wish
  /-- Where the issuer takes requests, once it is known. -/
  endpoint : Option String
  /-- The issuer's name for the request, once it was accepted. -/
  issuerProcess : Option String
  /-- When the request was accepted. -/
  requestedAt : Option UtcTime
deriving DecidableEq, Repr

namespace Request

/-- A time as a JSON string. -/
def timeToJson (time : UtcTime) : Json := .string time.text

/-- The time that a JSON string writes. -/
def timeOfJson? (value : Json) : Option UtcTime := value.text?.bind UtcTime.read?

/-- The payload as a JSON object. -/
def toJson (request : Request) : Json :=
  .object [
    ("participant_context_id", .string request.participantContext),
    ("issuer_did", .string request.issuer),
    ("requested_credentials", .array (request.wishes.map Wish.toJson)),
    ("issuer_endpoint", .ofOption (request.endpoint.map .string)),
    ("issuer_pid", .ofOption (request.issuerProcess.map .string)),
    ("requested_at", .ofOption (request.requestedAt.map timeToJson))]

/-- The names of the fields. -/
def fields : List String :=
  ["participant_context_id", "issuer_did", "requested_credentials", "issuer_endpoint", "issuer_pid",
    "requested_at"]

/-- The payload of a JSON record. -/
def ofJson? (value : Json) : Option Request := do
  let members ← Json.recordOf? fields value
  let context ← Json.required? "participant_context_id" Json.text? members
  let issuer ← Json.required? "issuer_did" Json.text? members
  let wishes ← Json.required? "requested_credentials" (Json.list? Wish.ofJson?) members
  let endpoint ← Json.optional? "issuer_endpoint" Json.text? members
  let issuerProcess ← Json.optional? "issuer_pid" Json.text? members
  let requestedAt ← Json.optional? "requested_at" timeOfJson? members
  return ⟨context, issuer, wishes, endpoint, issuerProcess, requestedAt⟩

/-- What matters in the JSON record of the payload. -/
def shape : Json.Shape :=
  .record (fields.map fun name =>
    (name, if name = "requested_credentials" then .list Wish.shape else .whole))

instance : Payload Request where
  toJson := toJson
  ofJson? := ofJson?
  shape := shape

end Request

/-! ### Handlers -/

/-- Finds out where the issuer takes requests. -/
def resolveIssuer (entity : Entity State Request) : Task State Request :=
  let request := entity.payload
  askFor "resolve issuer endpoint" (.resolveEndpoint request.issuer) fun endpoint =>
  .log ⟨.debug, "Issuer endpoint resolved",
    [("entity_id", .text entity.id), ("issuer_did", .text request.issuer),
      ("endpoint", .text endpoint)]⟩ <|
  conclude (.success .requesting { request with endpoint := some endpoint })

/-- Gets a token for the issuer. -/
def withToken (request : Request) (next : String → Task State Request) : Task State Request :=
  askFor "obtain token" (.obtainToken request.participantContext request.issuer) next

/-- Sends the request, under the id of its entity. -/
def sendRequest (entity : Entity State Request) : Task State Request :=
  let request := entity.payload
  match request.endpoint with
  | none => conclude (.fatal "issuer endpoint was never resolved")
  | some endpoint =>
    withToken request fun token =>
    askFor "send credential request"
      (.sendRequest endpoint token entity.id request.wishes) fun issuerProcess =>
    .readClock fun now =>
    conclude (.success .requested
      { request with issuerProcess := some issuerProcess, requestedAt := some ⟨now, false⟩ })

/-- How long a request has waited: no time before it was sent. -/
def waitedNanos (requestedAt : UtcTime) (now : Instant) : Nat :=
  (requestedAt.elapsedNanos now).toNat

/-- Says that an issuer took too long. -/
def lateEntry (entity : Entity State Request) (waited : Nat) : Log.Entry :=
  ⟨.warn, "Issuer did not answer in time",
    [("entity_id", .text entity.id), ("issuer_did", .text entity.payload.issuer),
      ("waited_secs", .count waited)]⟩

/-- What follows from the issuer's word on a request. -/
def onStatus (request : Request) : IssuerStatus → Verdict State Request
  | .issued => .success .issued request
  | .received => .retry "issuer has not issued yet"
  | .rejected => .fatal "the credential request was rejected by the issuer"
  | .other text => .fatal s!"invalid status received from issuer: '{text}'"

/-- Asks the issuer how the request stands, unless it has waited longer than the limit. -/
def awaitIssuance (limit : Duration) (entity : Entity State Request) : Task State Request :=
  let request := entity.payload
  match request.endpoint, request.issuerProcess, request.requestedAt with
  | some endpoint, some issuerProcess, some requestedAt =>
    .readClock fun now =>
    let waited := waitedNanos requestedAt now
    if limit.nanos < waited then
      let seconds := waited / nanosPerSecond
      .log (lateEntry entity seconds) <|
      conclude (.fatal
        s!"time limit exceeded: waited {seconds}s for the issuer, limit {limit.wholeSeconds}s")
    else
      withToken request fun token =>
      askFor "query request status" (.queryStatus endpoint token issuerProcess) fun status =>
      conclude (onStatus request status)
  | _, _, _ => conclude (.fatal "request was never accepted by the issuer")

/-! ### Transitions -/

/-- The name of the process type. -/
def entityType : String := "holder_credential_request"

/-- The table of the process type. -/
def tableName : String := "holder_credential_requests"

/-- How often a request is tried again; asking how it stands counts. -/
def defaultMaxRetries : Nat := 100

/-- How long a request waits for its issuer. -/
def defaultStatusTimeout : Duration := Duration.ofSeconds 3600

/-- The transitions and handlers of credential requests. -/
def draft (limit : Duration) : Draft State Request Call Response where
  entityType := entityType
  initial := some .created
  failed := some .failed
  cancelled := some .cancelled
  terminal := [.issued]
  transitions := [
    (.created, [.requesting]), (.requesting, [.requested]), (.requested, [.issued])]
  registrations := [
    ⟨.created, [.requesting], resolveIssuer⟩,
    ⟨.requesting, [.requested], sendRequest⟩,
    ⟨.requested, [.issued], awaitIssuance limit⟩]

/-- The registry of credential requests. -/
def registry (limit : Duration) : Registry State Request Call Response :=
  (draft limit).build.toOption.get (by rfl)

/-- The registry is what its draft holds. -/
theorem build_draft (limit : Duration) : (draft limit).build = .ok (registry limit) := rfl

end Leasehold.Credential.HolderRequest
