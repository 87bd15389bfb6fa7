/-
**Credentials and their formats.**

* `Credential.Format`: how a credential is written;
* `Credential.Container`: a credential, whose content does not matter here;
* `Credential.Order`: one credential to be made from a definition;
* `Credential.Wish`: one credential that a holder asks for.
-/

import Leasehold.Json.Record
import Leasehold.Json.Shape

namespace Leasehold.Credential

/-- How a credential is written. -/
inductive Format where
  | vcJwt
  | vcLdp
  | vc2Jose
  | vc2SdJwt
deriving DecidableEq, Repr

namespace Format

/-- All formats. -/
def all : List Format := [vcJwt, vcLdp, vc2Jose, vc2SdJwt]

/-- The name of a format. -/
def name : Format → String
  | vcJwt => "VC_JWT"
  | vcLdp => "VC_LDP"
  | vc2Jose => "VC2_JOSE"
  | vc2SdJwt => "VC2_SD_JWT"

/-- The format with a name. -/
def ofName? (name : String) : Option Format := all.find? (·.name == name)

/-- The name as a JSON string. -/
def toJson (format : Format) : Json := .string format.name

/-- The format that a JSON string names, or the only name in an object with null as its value. -/
def ofJson? : Json → Option Format
  | .string name => ofName? name
  | .object [(name, .null)] => ofName? name
  | _ => none

/-- A format is read back from its JSON string. -/
theorem ofJson?_toJson (format : Format) : ofJson? format.toJson = some format := by
  cases format <;> decide

end Format

/-- A credential, whose content does not matter here. -/
structure Container where
  id : String
  format : Format
  /-- The encoded credential. -/
  raw : String
deriving DecidableEq, Repr

namespace Container

/-- The credential as a JSON object. -/
def toJson (credential : Container) : Json :=
  .object [("id", .string credential.id), ("format", credential.format.toJson),
    ("raw", .string credential.raw)]

/-- The names of the fields. -/
def fields : List String := ["id", "format", "raw"]

/-- The credential of a JSON record. -/
def ofJson? (value : Json) : Option Container := do
  let members ← Json.recordOf? fields value
  let id ← Json.required? "id" Json.text? members
  let format ← Json.required? "format" Format.ofJson? members
  let raw ← Json.required? "raw" Json.text? members
  return ⟨id, format, raw⟩

end Container

/-- One credential to be made from a definition. -/
structure Order where
  definition : String
  format : Format
deriving DecidableEq, Repr

namespace Order

/-- The order as a JSON object. -/
def toJson (order : Order) : Json :=
  .object [("definition_id", .string order.definition), ("format", order.format.toJson)]

end Order

/-- One credential that a holder asks for. -/
structure Wish where
  id : String
  credentialType : String
  format : Format
deriving DecidableEq, Repr

namespace Wish

/-- The wish as a JSON object. -/
def toJson (wish : Wish) : Json :=
  .object [("id", .string wish.id), ("credential_type", .string wish.credentialType),
    ("format", wish.format.toJson)]

/-- The names of the fields. -/
def fields : List String := ["id", "credential_type", "format"]

/-- The wish of a JSON record. -/
def ofJson? (value : Json) : Option Wish := do
  let members ← Json.recordOf? fields value
  let id ← Json.required? "id" Json.text? members
  let credentialType ← Json.required? "credential_type" Json.text? members
  let format ← Json.required? "format" Format.ofJson? members
  return ⟨id, credentialType, format⟩

/-- What matters in the JSON record of a wish. -/
def shape : Json.Shape := .ofFields fields

end Wish

end Leasehold.Credential
