/-
**Publications of status lists.**

A status list says which credentials are revoked. It is signed first, and then published.

* `StatusList.State`: CREATED, SIGNED, PUBLISHED, and the two failures;
* `StatusList.signList`, `StatusList.publishList`: the handlers;
* `StatusList.registry`: the transitions.
-/

import Leasehold.Credential.Partner
import Leasehold.Registry.Draft

namespace Leasehold.Credential.StatusList

/-! ### States -/

/-- The states of a publication. -/
inductive State where
  | created
  | signed
  | published
  | failed
  | cancelled
deriving DecidableEq, Repr

namespace State

/-- All states. -/
def all : List State := [created, signed, published, failed, cancelled]

/-- The code of a state. -/
def number : State → Int
  | created => 100
  | signed => 200
  | published => 300
  | failed => 400
  | cancelled => 500

/-- The name of a state. -/
def name : State → String
  | created => "CREATED"
  | signed => "SIGNED"
  | published => "PUBLISHED"
  | failed => "FAILED"
  | cancelled => "CANCELLED"

instance : ProcessState State where
  code := number
  ofCode? := stateWithCode? number all
  label := name
  ofCode?_eq_some_iff := stateWithCode?_eq_some_iff
    (fun state => by cases state <;> decide)
    (fun first second same => by cases first <;> cases second <;> first | rfl | cases same)

end State

/-! ### Payloads -/

/-- The payload of a publication. -/
structure Publication where
  /-- Where the issuer takes part. -/
  participantContext : String
  /-- The id of the credential that holds the list. -/
  credential : String
  purpose : String
  revoked : List UInt64
  /-- The signed credential, once there is one. -/
  signed : Option String
  /-- Where the list is served, once it is published. -/
  url : Option String
deriving DecidableEq, Repr

namespace Publication

/-- The payload as a JSON object. -/
def toJson (publication : Publication) : Json :=
  .object [
    ("participant_context_id", .string publication.participantContext),
    ("credential_id", .string publication.credential),
    ("status_purpose", .string publication.purpose),
    ("revoked_indices", .array (publication.revoked.map fun index => .nat index.toNat)),
    ("signed_credential", .ofOption (publication.signed.map .string)),
    ("published_url", .ofOption (publication.url.map .string))]

/-- The names of the fields. -/
def fields : List String :=
  ["participant_context_id", "credential_id", "status_purpose", "revoked_indices",
    "signed_credential", "published_url"]

/-- The payload of a JSON record. -/
def ofJson? (value : Json) : Option Publication := do
  let members ← Json.recordOf? fields value
  let context ← Json.required? "participant_context_id" Json.text? members
  let credential ← Json.required? "credential_id" Json.text? members
  let purpose ← Json.required? "status_purpose" Json.text? members
  let revoked ← Json.required? "revoked_indices" (Json.list? Json.word?) members
  let signed ← Json.optional? "signed_credential" Json.text? members
  let url ← Json.optional? "published_url" Json.text? members
  return ⟨context, credential, purpose, revoked, signed, url⟩

instance : Payload Publication where
  toJson := toJson
  ofJson? := ofJson?
  shape := .ofFields fields

end Publication

/-! ### Handlers -/

/-- Has the list signed. -/
def signList (entity : Entity State Publication) : Task State Publication :=
  let job := entity.payload
  askFor "sign status list"
    (.sign job.participantContext job.credential job.purpose job.revoked) fun signed =>
  conclude (.success .signed { job with signed := some signed })

/-- Has the signed list published. -/
def publishList (entity : Entity State Publication) : Task State Publication :=
  let job := entity.payload
  match job.signed with
  | none => conclude (.fatal "status list was never signed")
  | some signed =>
    askFor "publish status list" (.publish job.participantContext job.credential signed) fun url =>
    .log ⟨.info, "Status list published",
      [("entity_id", .text entity.id), ("credential_id", .text job.credential),
        ("url", .text url)]⟩ <|
    conclude (.success .published { job with url := some url })

/-! ### Transitions -/

/-- The name of the process type. -/
def entityType : String := "status_list_publication"

/-- The table of the process type. -/
def tableName : String := "status_list_publications"

/-- The transitions and handlers of publications. -/
def draft : Draft State Publication Call Response where
  entityType := entityType
  initial := some .created
  failed := some .failed
  cancelled := some .cancelled
  terminal := [.published]
  transitions := [(.created, [.signed]), (.signed, [.published])]
  registrations := [⟨.created, [.signed], signList⟩, ⟨.signed, [.published], publishList⟩]

/-- The registry of publications. -/
def registry : Registry State Publication Call Response := draft.build.toOption.get (by rfl)

/-- The registry is what its draft holds. -/
theorem build_draft : draft.build = .ok registry := rfl

end Leasehold.Credential.StatusList
