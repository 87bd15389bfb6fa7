/-
**Issuance processes.**

A holder's request for credentials becomes an issuance process. A submission is checked first; then
the credentials are made, registered in a status list, delivered, and recorded.

* `Issuance.State`: SUBMITTED, APPROVED, DELIVERED, and the two failures;
* `Issuance.Submission.validate`: whether a submission is complete;
* `Issuance.issueCredentials`: the handler of approved processes;
* `Issuance.registry`: the transitions.
-/

import Leasehold.Credential.Partner
import Leasehold.Json.Embedding
import Leasehold.Registry.Draft

namespace Leasehold.Credential.Issuance

/-! ### States -/

/-- The states of an issuance process. -/
inductive State where
  | submitted
  | approved
  | delivered
  | errored
  | cancelled
deriving DecidableEq, Repr

namespace State

/-- All states. -/
def all : List State := [submitted, approved, delivered, errored, cancelled]

/-- The code of a state. -/
def number : State → Int
  | submitted => 50
  | approved => 100
  | delivered => 200
  | errored => 300
  | cancelled => 400

/-- The name of a state. -/
def name : State → String
  | submitted => "SUBMITTED"
  | approved => "APPROVED"
  | delivered => "DELIVERED"
  | errored => "ERRORED"
  | cancelled => "CANCELLED"

instance : ProcessState State where
  code := number
  ofCode? := stateWithCode? number all
  label := name
  ofCode?_eq_some_iff := stateWithCode?_eq_some_iff
    (fun state => by cases state <;> decide)
    (fun first second same => by cases first <;> cases second <;> first | rfl | cases same)

end State

/-! ### Payloads -/

/-- What a holder submits to be issued: the payload of an issuance process. -/
structure Submission where
  /-- Where the issuer takes part. -/
  participantContext : String
  holder : String
  /-- The holder's name for its request. -/
  holderRequest : String
  /-- The definitions to issue credentials from. -/
  definitions : List String
  /-- The format that was asked for with each definition. -/
  formats : Dictionary Format
  claims : Json
  /-- The ids of the credentials, once they are delivered. -/
  delivered : List String

namespace Submission

/-- The payload as a JSON object. -/
def toJson (submission : Submission) : Json :=
  .object [
    ("participant_context_id", .string submission.participantContext),
    ("holder_id", .string submission.holder),
    ("holder_pid", .string submission.holderRequest),
    ("credential_definitions", .ofTexts submission.definitions),
    ("credential_formats", .ofDictionary Format.toJson submission.formats),
    ("claims", submission.claims),
    ("delivered_credentials", .ofTexts submission.delivered)]

/-- The names of the fields. -/
def fields : List String :=
  ["participant_context_id", "holder_id", "holder_pid", "credential_definitions",
    "credential_formats", "claims", "delivered_credentials"]

/-- The payload of a JSON record. -/
def ofJson? (value : Json) : Option Submission := do
  let members ← Json.recordOf? fields value
  let context ← Json.required? "participant_context_id" Json.text? members
  let holder ← Json.required? "holder_id" Json.text? members
  let request ← Json.required? "holder_pid" Json.text? members
  let definitions ← Json.required? "credential_definitions" (Json.list? Json.text?) members
  let formats ← Json.required? "credential_formats" (Json.dictionary? Format.ofJson?) members
  let claims ← Json.required? "claims" Json.settled? members
  let delivered ← Json.defaulted? "delivered_credentials" [] (Json.list? Json.text?) members
  return ⟨context, holder, request, definitions, formats, claims, delivered⟩

instance : Payload Submission where
  toJson := toJson
  ofJson? := ofJson?
  shape := .ofFields fields

/-- The order for a definition, or the reason why there is none. -/
def order (submission : Submission) (definition : String) : Except String Order :=
  match submission.formats.get? definition with
  | some format => .ok ⟨definition, format⟩
  | none => .error s!"no format requested for credential definition '{definition}'"

/-- One order for each definition, or the reason why there is none for the first that lacks one. -/
def orders (submission : Submission) : Except String (List Order) :=
  submission.definitions.mapM submission.order

/-- The reason why a submission is not complete, if it is not. -/
def validate (submission : Submission) : Except String Unit :=
  if submission.participantContext.isEmpty then .error "participant context id is missing"
  else if submission.holder.isEmpty then .error "holder id is missing"
  else if submission.definitions.isEmpty then .error "no credential definitions requested"
  else submission.orders.map fun _ => ()

end Submission

/-! ### Handlers -/

/-- Approves a submission that is complete. -/
def validateSubmission (entity : Entity State Submission) : Task State Submission :=
  match entity.payload.validate with
  | .ok () => conclude (.success .approved entity.payload)
  | .error reason => conclude (.fatal reason)

/-- Registers credentials one after the other, and goes on with what comes back. -/
def registerEach (context : String) :
    List Container → (List Container → Task State Submission) → Task State Submission
  | [], next => next []
  | credential :: rest, next =>
    askFor "add credential to status list" (.register context credential) fun registered =>
      registerEach context rest fun others => next (registered :: others)

/-- Records credentials one after the other. -/
def storeEach (context holder : String) :
    List Container → Task State Submission → Task State Submission
  | [], next => next
  | credential :: rest, next =>
    askFor "store credential" (.store context holder credential) fun () =>
      storeEach context holder rest next

/-- Says that credentials were delivered. -/
def deliveredEntry (entity : Entity State Submission) (credentials : List Container) : Log.Entry :=
  ⟨.info, "Credentials delivered",
    [("entity_id", .text entity.id), ("holder_id", .text entity.payload.holder),
      ("credentials", .count credentials.length)]⟩

/-- The verdict on a submission whose credentials were delivered. -/
def deliveredVerdict (submission : Submission) (credentials : List Container) :
    Verdict State Submission :=
  .success .delivered { submission with delivered := credentials.map (·.id) }

/-- Makes, registers, delivers and records the credentials of an approved submission. -/
def issueCredentials (entity : Entity State Submission) : Task State Submission :=
  let submission := entity.payload
  match submission.orders with
  | .error reason => conclude (.fatal reason)
  | .ok orders =>
    askFor "generate credentials"
      (.generate submission.participantContext submission.holder orders submission.claims)
      fun generated =>
    registerEach submission.participantContext generated fun credentials =>
    askFor "deliver credentials"
      (.deliver submission.holder submission.holderRequest credentials) fun () =>
    storeEach submission.participantContext submission.holder credentials <|
    .log (deliveredEntry entity credentials) <|
    conclude (deliveredVerdict submission credentials)

/-! ### Transitions -/

/-- The name of the process type. -/
def entityType : String := "issuance_process"

/-- The table of the process type. -/
def tableName : String := "issuance_processes"

/-- The transitions and handlers of issuance processes. -/
def draft : Draft State Submission Call Response where
  entityType := entityType
  initial := some .submitted
  failed := some .errored
  cancelled := some .cancelled
  terminal := [.delivered]
  transitions := [(.submitted, [.approved]), (.approved, [.delivered])]
  registrations := [
    ⟨.submitted, [.approved], validateSubmission⟩,
    ⟨.approved, [.delivered], issueCredentials⟩]

/-- The registry of issuance processes. -/
def registry : Registry State Submission Call Response := draft.build.toOption.get (by rfl)

/-- The registry is what its draft holds. -/
theorem build_draft : draft.build = .ok registry := rfl

end Leasehold.Credential.Issuance
