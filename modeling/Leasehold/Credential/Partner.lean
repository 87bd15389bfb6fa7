/-
**The partners of the credential processes.**

The processes do not make, sign, register or send credentials themselves. They call partners, who
answer with a value or fail: in a way that may pass, or for good.

* `Credential.Call`: what partners are asked for, and `Call.Value` what they answer;
* `Credential.Response`: an answer or a failure;
* `Credential.askFor`: a call as a step of a handler, which a failure ends;
* `Credential.IssuerStatus`: what an issuer says about a request.
-/

import Leasehold.Credential.Format
import Leasehold.Engine.Work

namespace Leasehold.Credential

/-- What an issuer says about a request. -/
inductive IssuerStatus where
  | received
  | issued
  | rejected
  | other (text : String)
deriving DecidableEq, Repr

namespace IssuerStatus

/-- The status in an issuer's words. -/
def ofText (text : String) : IssuerStatus :=
  if text = "RECEIVED" then .received
  else if text = "ISSUED" then .issued
  else if text = "REJECTED" then .rejected
  else .other text

end IssuerStatus

/-- What partners are asked for. -/
inductive Call where
  /-- Make credentials for a holder. -/
  | generate (context holder : String) (orders : List Order) (claims : Json)
  /-- Give a credential its place in a status list. -/
  | register (context : String) (credential : Container)
  /-- Send credentials to a holder. -/
  | deliver (holder request : String) (credentials : List Container)
  /-- Keep a record of an issued credential. -/
  | store (context holder : String) (credential : Container)
  /-- Find where an issuer takes requests. -/
  | resolveEndpoint (issuer : String)
  /-- Make a token for an audience. -/
  | obtainToken (context audience : String)
  /-- Send a request to an issuer. -/
  | sendRequest (endpoint token request : String) (wishes : List Wish)
  /-- Ask an issuer how a request stands. -/
  | queryStatus (endpoint token process : String)
  /-- Sign a status list. -/
  | sign (context credential purpose : String) (revoked : List UInt64)
  /-- Publish a signed status list. -/
  | publish (context credential signed : String)

/-- What partners answer. -/
abbrev Call.Value : Call → Type
  | .generate .. => List Container
  | .register .. => Container
  | .deliver .. => Unit
  | .store .. => Unit
  | .resolveEndpoint _ => String
  | .obtainToken .. => String
  | .sendRequest .. => String
  | .queryStatus .. => IssuerStatus
  | .sign .. => String
  | .publish .. => String

/-- An answer, or a failure. -/
inductive Answer (α : Type) where
  | answered (value : α)
  /-- A failure that may pass. -/
  | transient (reason : String)
  /-- A failure for good. -/
  | fatal (reason : String)
  /-- The partner broke off. -/
  | crashed (message : String)
deriving Repr

/-- What comes back from a call. -/
abbrev Response (call : Call) : Type := Answer call.Value

/-- What a handler of a credential process does. -/
abbrev Task (S P : Type) : Type := Work Call Response (Reply S P)

/-- The end of a handler with a verdict. -/
def conclude {S P : Type} (verdict : Verdict S P) : Task S P := .done (.decided verdict)

/-- A call as a step with a name. A failure ends the handler, with the name before its reason. -/
def askFor {S P : Type} (step : String) (call : Call) (next : call.Value → Task S P) : Task S P :=
  .call call fun
    | .answered value => next value
    | .transient reason => conclude (.retry s!"{step}: {reason}")
    | .fatal reason => conclude (.fatal s!"{step}: {reason}")
    | .crashed message => .done (.crashed (some message))

end Leasehold.Credential
