/-
**Rehearsed partners.**

In a rehearsal the partners of the credential processes follow a list of replies, one list for each
kind of call. Where the list is at its end, or a reply says nothing, they give a plain answer of
their own. Every call is written down.

* `Rehearsal.Partners`: the replies that are left, and the calls so far;
* `Rehearsal.defaultValue`: the plain answers;
* `Partners.respond`: the response to a call;
* `Rehearsal.partners`: partners from a request.
-/

import Leasehold.Credential.Partner
import Leasehold.Wire.Value

namespace Leasehold.Rehearsal

open Credential

/-! ### Calls on paper -/

/-- The process types with partners. -/
inductive Group where
  | issuance
  | holder
  | statusList
deriving DecidableEq, Repr

/-- A call on paper: the process type, the kind of call, and its arguments. -/
structure CallRecord where
  group : Group
  name : String
  arguments : List (String × Json)

/-- The call on paper. -/
def CallRecord.ofCall : Call → CallRecord
  | .generate context holder orders claims =>
    ⟨.issuance, "generate", [("ctx", .string context), ("holder", .string holder),
      ("requests", .array (orders.map Order.toJson)), ("claims", claims)]⟩
  | .register context credential =>
    ⟨.issuance, "add_credential", [("ctx", .string context), ("credential", credential.toJson)]⟩
  | .deliver holder request credentials =>
    ⟨.issuance, "deliver", [("holder", .string holder), ("pid", .string request),
      ("credentials", .array (credentials.map Container.toJson))]⟩
  | .store context holder credential =>
    ⟨.issuance, "store", [("ctx", .string context), ("holder", .string holder),
      ("credential", credential.toJson)]⟩
  | .resolveEndpoint issuer => ⟨.holder, "endpoint", [("did", .string issuer)]⟩
  | .obtainToken context audience =>
    ⟨.holder, "token", [("ctx", .string context), ("audience", .string audience)]⟩
  | .sendRequest endpoint token request wishes =>
    ⟨.holder, "request", [("endpoint", .string endpoint), ("token", .string token),
      ("pid", .string request), ("credentials", .array (wishes.map Wish.toJson))]⟩
  | .queryStatus endpoint token process =>
    ⟨.holder, "status", [("endpoint", .string endpoint), ("token", .string token),
      ("pid", .string process)]⟩
  | .sign context credential purpose revoked =>
    ⟨.statusList, "sign", [("ctx", .string context), ("credential", .string credential),
      ("purpose", .string purpose),
      ("revoked", .array (revoked.map fun index => .nat index.toNat))]⟩
  | .publish context credential signed =>
    ⟨.statusList, "publish", [("ctx", .string context), ("credential", .string credential),
      ("signed", .string signed)]⟩

/-- The call on paper as an array of its name and its arguments. -/
def CallRecord.toJson (record : CallRecord) : Json :=
  .array [.string record.name, .object record.arguments]

/-! ### Answers -/

/-- What a partner answers by itself. -/
def defaultValue : (call : Call) → call.Value
  | .generate _ holder orders _ => orders.map fun order =>
    ⟨s!"{order.definition}:{holder}", order.format, "generated"⟩
  | .register _ credential => { credential with raw := "with-status" }
  | .deliver .. => ()
  | .store .. => ()
  | .resolveEndpoint issuer => s!"https://issuer.example/{issuer}"
  | .obtainToken _ audience => s!"token:{audience}"
  | .sendRequest _ _ request _ => s!"issuer-{request}"
  | .queryStatus .. => .issued
  | .sign _ credential purpose revoked => s!"{credential}#{purpose}:{revoked.length}"
  | .publish _ credential _ => s!"https://issuer.example/statuslist/{credential}"

/-- The answer that a value stands for. -/
def toldValue? (value : Json) : (call : Call) → Option call.Value
  | .generate .. => Json.list? Container.ofJson? value
  | .register .. => Container.ofJson? value
  | .deliver .. => some ()
  | .store .. => some ()
  | .resolveEndpoint _ => value.text?
  | .obtainToken .. => value.text?
  | .sendRequest .. => value.text?
  | .queryStatus .. => value.text?.map IssuerStatus.ofText
  | .sign .. => value.text?
  | .publish .. => value.text?

/-- Whether a value stands for an answer to calls of a kind. -/
def isAnswerTo (name : String) (value : Json) : Bool :=
  match name with
  | "generate" => (Json.list? Container.ofJson? value).isSome
  | "add_credential" => (Container.ofJson? value).isSome
  | "deliver" => true
  | "store" => true
  | _ => value.text?.isSome

/-! ### Replies -/

/-- A reply in a list: how long it takes, and what it is, if it is told. -/
structure Told where
  millis : Nat
  answer : Option (Answer Json)

/-- A partner that was told nothing. -/
def Told.nothing : Told := ⟨0, none⟩

/-- What a reply in a list answers to a call. -/
def Told.respond (told : Told) (call : Call) : Response call :=
  match told.answer with
  | none => .answered (defaultValue call)
  | some (.answered value) => .answered ((toldValue? value call).getD (defaultValue call))
  | some (.transient reason) => .transient reason
  | some (.fatal reason) => .fatal reason
  | some (.crashed message) => .crashed message

/-- The replies for each name. -/
abbrev Replies (α : Type) : Type := List (String × List α)

/-- The next reply for a name, and the replies that are left. -/
def Replies.next {α : Type} (name : String) : Replies α → Option α × Replies α
  | [] => (none, [])
  | (other, replies) :: rest =>
    if other = name then
      match replies with
      | [] => (none, (other, []) :: rest)
      | reply :: left => (some reply, (other, left) :: rest)
    else
      let (reply, left) := next name rest
      (reply, (other, replies) :: left)

/-- The partners in a rehearsal. -/
structure Partners where
  replies : Replies Told := []
  /-- The calls, the last one first. -/
  calls : List CallRecord := []

/-- The response to a call, with the milliseconds that it takes. -/
def Partners.respond (call : Call) : StateM Partners (Nat × Response call) := do
  let partners ← get
  let record := CallRecord.ofCall call
  let (told, replies) := Replies.next record.name partners.replies
  set ({ replies := replies, calls := record :: partners.calls } : Partners)
  let told := told.getD .nothing
  return (told.millis, told.respond call)

/-! ### Requests -/

open Wire

/-- A reply in a list. -/
def told (name : String) (json : Json) : Read Told := do
  let _ ← members json
  let millis ← fieldOr json "delay_ms" 0 timer
  if let some reason ← field? json "transient" text then return ⟨millis, some (.transient reason)⟩
  if let some reason ← field? json "fatal" text then return ⟨millis, some (.fatal reason)⟩
  if let some message ← field? json "panic" text then return ⟨millis, some (.crashed message)⟩
  match json.field? "ok" with
  | none => return ⟨millis, none⟩
  | some value =>
    if isAnswerTo name value then return ⟨millis, some (.answered value)⟩ else refuse

/-- Partners with their lists of replies. -/
def partners (json : Json) : Read Partners := do
  let replies ← (← members json).mapM fun entry => do
    return (entry.1, ← listOf (told entry.1) entry.2)
  return { replies := replies }

end Leasehold.Rehearsal
