/-
**Payloads are read back from what is written.**

A payload becomes a value, and the value a text in a row. Publications and credential requests come
back as they were. A submission holds claims, which may be any value, so it comes back if they do.

* `Publication.ofJson?_toJson`, `Request.ofJson?_toJson`, `Submission.ofJson?_toJson_eq_iff`: what
  is read from the value of a payload;
* `reload?`, `Entity.reloaded`: what is read from the text of a payload, once and again and again;
* `Submission.reload?_eq_iff`: when that is the same submission;
* `payloads_read_back`: all of this for the three kinds of payloads;
* `submissions_not_read_back`: claims that do not come back.
-/

import Leasehold.Credential.HolderRequest
import Leasehold.Credential.Issuance
import Leasehold.Credential.StatusList
import Leasehold.Proofs.Json.Embedding
import Leasehold.Proofs.Json.Record
import Leasehold.Proofs.Json.Text
import Leasehold.Proofs.Time.Rfc3339
import Leasehold.Store.Row

namespace Leasehold

namespace Credential

/-! ### Values -/

theorem Wish.ofJson?_toJson (wish : Wish) : Wish.ofJson? wish.toJson = some wish := by
  simp [Wish.ofJson?, Wish.toJson, Json.recordOf?, Json.required?, Json.named, Json.text?,
    Format.ofJson?_toJson]

namespace StatusList.Publication

/-- **A publication is read back from its value.** -/
theorem ofJson?_toJson (publication : Publication) :
    ofJson? publication.toJson = some publication := by
  have words := Json.list?_map publication.revoked fun word _ => Json.word?_nat word
  simp [ofJson?, toJson, Json.recordOf?, Json.required?, Json.named, Json.text?,
    Json.optional?_cons_of_ne, Json.optional?_text, words]

end StatusList.Publication

namespace HolderRequest.Request

theorem timeOfJson?_timeToJson {time : UtcTime} (proper : time.IsProper) :
    timeOfJson? (timeToJson time) = some time := by
  rw [timeToJson, timeOfJson?, Json.text?, Option.bind_some, UtcTime.read?_text proper]

/-- **A credential request is read back from its value**, if its time is one that can be read. -/
theorem ofJson?_toJson {request : Request}
    (proper : ∀ time ∈ request.requestedAt, time.IsProper) :
    ofJson? request.toJson = some request := by
  have wishes := Json.list?_map request.wishes fun wish _ => wish.ofJson?_toJson
  have shows : ∀ time, timeToJson time ≠ .null := fun time => by
    rw [timeToJson]
    exact Json.noConfusion
  have time : Json.optional? "requested_at" timeOfJson?
      [("requested_at", .ofOption (request.requestedAt.map timeToJson))] =
        some request.requestedAt :=
    Json.optional?_ofOption rfl
      (fun time held => timeOfJson?_timeToJson (proper time held)) shows
  simp [ofJson?, toJson, Json.recordOf?, Json.required?, Json.named, Json.text?,
    Json.optional?_cons_of_ne, Json.optional?_text, wishes, time]

end HolderRequest.Request

namespace Issuance.Submission

/-- **A submission is read from its value with the claims that are read from the value of its
claims.** -/
theorem ofJson?_toJson (submission : Submission) :
    ofJson? submission.toJson =
      submission.claims.settled?.map fun claims => { submission with claims := claims } := by
  obtain ⟨context, holder, request, definitions, formats, claims, delivered⟩ := submission
  have texts : ∀ texts, Json.list? Json.text? (.ofTexts texts) = some texts :=
    fun texts => Json.list?_map texts fun _ _ => rfl
  have formats := Json.dictionary?_ofDictionary formats Format.ofJson?_toJson
  cases settles : claims.settled? <;>
    simp [ofJson?, toJson, Json.recordOf?, Json.required?, Json.defaulted?, Json.named, Json.text?,
      texts, formats, settles]

end Issuance.Submission

/-! ### Texts -/

theorem Format.readsBack (format : Format) {depth : Nat} : format.toJson.ReadsBack depth :=
  Json.ReadsBack.string format.name

theorem Wish.readsBack (wish : Wish) {depth : Nat} : wish.toJson.ReadsBack (depth + 1) := by
  refine .object ?_
  simp only [List.forall_mem_cons]
  exact ⟨.string _, .string _, wish.format.readsBack, List.forall_mem_nil _⟩

theorem Wish.isKept (wish : Wish) : wish.toJson.isKept Wish.shape = true :=
  Json.isKept_ofFields (by simp [Wish.fields])

theorem readsBack_text (text : Option String) {depth : Nat} :
    (Json.ofOption (text.map .string)).ReadsBack depth := by
  refine .ofOption fun held some => ?_
  obtain ⟨text, _, rfl⟩ := Option.map_eq_some_iff.mp some
  exact .string text

theorem StatusList.Publication.readsBack (publication : Publication) :
    publication.toJson.ReadsBack 127 := by
  refine .object ?_
  simp only [List.forall_mem_cons]
  exact ⟨.string _, .string _, .string _,
    .array (List.forall_mem_map.mpr fun word _ => .nat word), readsBack_text _, readsBack_text _,
    List.forall_mem_nil _⟩

theorem StatusList.Publication.isKept (publication : Publication) :
    publication.toJson.isKept (Payload.shape Publication) = true :=
  Json.isKept_ofFields (by simp [fields])

theorem HolderRequest.Request.readsBack (request : Request) : request.toJson.ReadsBack 127 := by
  refine .object ?_
  simp only [List.forall_mem_cons]
  refine ⟨.string _, .string _, .array (List.forall_mem_map.mpr fun wish _ => wish.readsBack),
    readsBack_text _, readsBack_text _, .ofOption fun held some => ?_, List.forall_mem_nil _⟩
  obtain ⟨time, _, rfl⟩ := Option.map_eq_some_iff.mp some
  exact .string time.text

theorem HolderRequest.Request.isKept (request : Request) :
    request.toJson.isKept (Payload.shape Request) = true := by
  have wishes : (Json.array (request.wishes.map Wish.toJson)).isKept (.list Wish.shape) = true :=
    Json.isKept_array_iff.mpr (List.forall_mem_map.mpr fun wish _ => wish.isKept)
  refine Json.isKept_record ?_
  simp only [List.forall_mem_cons]
  simp [fields, Json.isKept_whole, wishes]

namespace Issuance.Submission

theorem isKept (submission : Submission) :
    submission.toJson.isKept (Payload.shape Submission) = true :=
  Json.isKept_ofFields (by simp [fields])

theorem readsBack_texts (texts : List String) : (Json.ofTexts texts).ReadsBack 126 :=
  .ofTexts texts

theorem readsBack_formats (formats : Dictionary Format) :
    (Json.ofDictionary Format.toJson formats).ReadsBack 126 :=
  .ofDictionary (fun format => format.readsBack) formats

variable {submission : Submission}

/-- What is read from the text of a submission has the claims that are read from theirs. -/
theorem reread?_toJson : submission.toJson.reread? 128 =
    (submission.claims.reread? 127).map fun claims =>
      toJson { submission with claims := claims } := by
  have within : ¬128 ≤ 1 := by decide
  have texts : ∀ texts, (Json.ofTexts texts).reread? 127 = some (.ofTexts texts) := readsBack_texts
  have formats : (Json.ofDictionary Format.toJson submission.formats).reread? 127 =
      some (.ofDictionary Format.toJson submission.formats) := readsBack_formats submission.formats
  rw [toJson, Json.reread?, if_neg within]
  simp only [Json.rereadMembers?, Json.reread?, texts, formats, Option.bind_eq_bind,
    Option.bind_some]
  cases submission.claims.reread? 127 <;> rfl

end Issuance.Submission

end Credential

/-! ### Rows -/

/-- The payload that is read from the text of a payload. -/
def reload? {P : Type} [Payload P] (payload : P) : Option P :=
  (Json.readAs? (Payload.shape P) (Payload.toJson payload).text).bind Payload.ofJson?

section Reloading

variable {S P : Type} [ProcessState S] [Payload P]

/-- The entity after its row was written and its payload read from it as often as `times` says. -/
def Entity.reloaded (entity : Entity S P) : Nat → Except StoreError (Entity S P)
  | 0 => .ok entity
  | times + 1 => do
    let entity ← entity.reloaded times
    let payload ← (Row.ofEntity entity).readPayload
    .ok { entity with payload := payload }

variable {entity : Entity S P}

theorem Row.readPayload_ofEntity_eq_ok_iff {payload : P} :
    (Row.ofEntity entity).readPayload = .ok payload ↔ reload? entity.payload = some payload := by
  have same : (Json.readAs? (Payload.shape P) (Row.ofEntity entity).payload).bind
    Payload.ofJson? = reload? entity.payload := rfl
  unfold Row.readPayload
  rw [same]
  cases reload? entity.payload <;> simp

/-- **Writing and reading never changes an entity, if it does not the first time.** -/
theorem Entity.forall_reloaded_eq_ok_iff :
    (∀ times, entity.reloaded times = .ok entity) ↔
      reload? entity.payload = some entity.payload := by
  rw [← Row.readPayload_ofEntity_eq_ok_iff]
  constructor
  · intro lasts
    have once : ((Row.ofEntity entity).readPayload.bind fun payload =>
      .ok { entity with payload := payload }) = .ok entity := lasts 1
    cases read : (Row.ofEntity entity).readPayload (P := P) with
    | error fault =>
      rw [read] at once
      cases once
    | ok payload =>
      rw [read] at once
      exact congrArg Except.ok (congrArg Entity.payload (Except.ok.inj once))
  · intro reads times
    induction times with
    | zero => rfl
    | succ times ih =>
      rw [Entity.reloaded, ih]
      show ((Row.ofEntity entity).readPayload.bind fun payload =>
        .ok { entity with payload := payload }) = .ok entity
      rw [reads]
      rfl

end Reloading

/-- A payload that comes back whole from its text. -/
theorem reload?_of_readsBack {P : Type} [Payload P] {payload : P}
    (text : (Payload.toJson payload).ReadsBack 127)
    (kept : (Payload.toJson payload).isKept (Payload.shape P) = true)
    (value : Payload.ofJson? (Payload.toJson payload) = some payload) :
    reload? payload = some payload := by
  rw [reload?, Json.readAs?_text kept, text, Option.bind_some, value]

namespace Credential

/-! ### Payloads that were read -/

/-- Every request that is read has a time that can be read. -/
theorem HolderRequest.Request.isProper_of_ofJson? {value : Json} {request : Request}
    (reads : ofJson? value = some request) : ∀ time ∈ request.requestedAt, time.IsProper := by
  simp only [ofJson?, Option.bind_eq_bind, Option.bind_eq_some_iff] at reads
  obtain ⟨_, _, _, _, _, _, _, _, _, _, _, _, requestedAt, reads, same⟩ := reads
  cases same
  rintro time ⟨⟩
  obtain ⟨value, reads⟩ := Json.exists_of_optional? reads
  obtain ⟨text, _, reads⟩ := Option.bind_eq_some_iff.mp reads
  exact UtcTime.isProper_of_read? reads

/-- Every submission that is read has claims in order. -/
theorem Issuance.Submission.isSorted_of_ofJson? {value : Json} {submission : Submission}
    (reads : ofJson? value = some submission) : submission.claims.isSorted = true := by
  simp only [ofJson?, Option.bind_eq_bind, Option.bind_eq_some_iff] at reads
  obtain ⟨_, _, _, _, _, _, _, _, _, _, _, _, claims, reads, _, _, same⟩ := reads
  cases same
  obtain ⟨value, settles⟩ := Json.exists_of_required? reads
  exact Json.isSorted_of_settled? settles

/-! ### Submissions -/

namespace Issuance.Submission

variable {submission : Submission}

/-- The claims decide whether a submission is read as itself. -/
theorem map_eq_some_iff {claims : Option Json} :
    (claims.map fun claims => { submission with claims := claims }) = some submission ↔
      claims = some submission.claims := by
  rw [Option.map_eq_some_iff]
  constructor
  · rintro ⟨claims, rfl, same⟩
    exact congrArg (fun submission => some (Submission.claims submission)) same
  · rintro rfl
    exact ⟨submission.claims, rfl, rfl⟩

/-- **A submission is read back from its value exactly if its claims are plain.** -/
theorem ofJson?_toJson_eq_iff (sorted : submission.claims.isSorted = true) :
    ofJson? submission.toJson = some submission ↔ submission.claims.isPlain = true := by
  rw [ofJson?_toJson, map_eq_some_iff, Json.settled?_eq_self_iff sorted]

/-- **A submission is read back from its text exactly if its claims are plain, not nested too deep,
and have numbers that are read back.** -/
theorem reload?_eq_iff (sorted : submission.claims.isSorted = true) :
    reload? submission = some submission ↔
      submission.claims.isPlain = true ∧ submission.claims.nesting ≤ 126 ∧
        submission.claims.everywhere Json.isExact = true := by
  have text : Json.readAs? (Payload.shape Submission) submission.toJson.text =
      (submission.claims.reread? 127).map fun claims =>
        toJson { submission with claims := claims } :=
    (Json.readAs?_text (isKept submission)).trans reread?_toJson
  have reads : reload? submission = ((submission.claims.reread? 127).bind Json.settled?).map
      fun claims => { submission with claims := claims } := by
    show (Json.readAs? (Payload.shape Submission) submission.toJson.text).bind ofJson? = _
    rw [text]
    cases submission.claims.reread? 127 with
    | none => rfl
    | some claims => exact ofJson?_toJson _
  rw [reads, map_eq_some_iff, Json.settled?_reread?_eq_iff sorted,
    Json.reread?_eq_self_iff (by decide), Nat.lt_add_one_iff]

end Issuance.Submission

/-! ### All payloads -/

/-- The payload is read back from its value. -/
def IsReadBack {P : Type} [Payload P] (payload : P) : Prop :=
  Payload.ofJson? (Payload.toJson payload) = some payload

/-- Writing and reading its payload any number of times does not change the entity. -/
def IsLasting {S P : Type} [ProcessState S] [Payload P] (entity : Entity S P) : Prop :=
  ∀ times, entity.reloaded times = .ok entity

/-- The payload of an entity was read from a value. -/
def IsFound {S P : Type} [Payload P] (entity : Entity S P) : Prop :=
  ∃ value, Payload.ofJson? value = some entity.payload

theorem StatusList.isLasting (entity : Entity State Publication) : IsLasting entity :=
  Entity.forall_reloaded_eq_ok_iff.mpr (reload?_of_readsBack entity.payload.readsBack
    entity.payload.isKept entity.payload.ofJson?_toJson)

theorem HolderRequest.isLasting {entity : Entity State Request}
    (proper : ∀ time ∈ entity.payload.requestedAt, time.IsProper) : IsLasting entity :=
  Entity.forall_reloaded_eq_ok_iff.mpr (reload?_of_readsBack entity.payload.readsBack
    entity.payload.isKept (Request.ofJson?_toJson proper))

theorem Issuance.isLasting_iff {entity : Entity State Submission}
    (sorted : entity.payload.claims.isSorted = true) :
    IsLasting entity ↔ entity.payload.claims.isPlain = true ∧
      entity.payload.claims.nesting ≤ 126 ∧
      entity.payload.claims.everywhere Json.isExact = true :=
  Entity.forall_reloaded_eq_ok_iff.trans (Submission.reload?_eq_iff sorted)

/-- The time of a request as it is written. -/
theorem HolderRequest.Request.field?_requestedAt {request : Request} {time : UtcTime}
    (held : request.requestedAt = some time) :
    request.toJson.field? "requested_at" = some (.string time.text) := by
  simp [toJson, Json.field?, held, Json.ofOption, timeToJson]

/-- **Payloads are read back from what is written.** Publications are, and so are requests with a
time that can be read and all that were read; their times are written with the fewest digits that
lose nothing. Submissions with claims in order, and all that were read, are read back from their
values exactly if the claims are plain, and from rows exactly if the claims are also not nested too
deep and have numbers that are read back, as all whole numbers of 64 bits are. -/
theorem payloads_read_back :
    (∀ entity : Entity StatusList.State StatusList.Publication,
      IsReadBack entity.payload ∧ IsLasting entity) ∧
    (∀ entity : Entity HolderRequest.State HolderRequest.Request,
      (∀ time ∈ entity.payload.requestedAt, time.IsProper) ∨ IsFound entity →
        IsReadBack entity.payload ∧ IsLasting entity) ∧
    (∀ (request : HolderRequest.Request) (time : UtcTime), request.requestedAt = some time →
      (Payload.toJson request).field? "requested_at" = some (.string time.text) ∧
      ∃ digits ∈ [0, 3, 6, 9],
        time.text = time.wholeText ++
          (if digits = 0 then ""
            else "." ++ Text.padded digits (time.subsecNanos / 10 ^ (9 - digits))) ++ "Z" ∧
        time.subsecNanos % 10 ^ (9 - digits) = 0 ∧
        ∀ fewer ∈ [0, 3, 6, 9], time.subsecNanos % 10 ^ (9 - fewer) = 0 → digits ≤ fewer) ∧
    (∀ entity : Entity Issuance.State Issuance.Submission,
      entity.payload.claims.isSorted = true ∨ IsFound entity →
        (IsReadBack entity.payload ↔ entity.payload.claims.isPlain = true) ∧
        (IsLasting entity ↔ entity.payload.claims.isPlain = true ∧
          entity.payload.claims.nesting ≤ 126 ∧
          entity.payload.claims.everywhere Json.isExact = true)) ∧
    (∀ whole : Int, -0x8000000000000000 ≤ whole → whole < 0x10000000000000000 →
      (Json.int whole).isExact = true) := by
  refine ⟨fun entity => ⟨entity.payload.ofJson?_toJson, StatusList.isLasting entity⟩,
    fun entity proper => ?_, fun request time held => ?_, fun entity sorted => ?_,
    fun whole lower upper => decide_eq_true (Number.reread?_whole lower upper)⟩
  · have proper : ∀ time ∈ entity.payload.requestedAt, time.IsProper :=
      proper.elim id fun ⟨_, reads⟩ => HolderRequest.Request.isProper_of_ofJson? reads
    exact ⟨HolderRequest.Request.ofJson?_toJson proper, HolderRequest.isLasting proper⟩
  · exact ⟨HolderRequest.Request.field?_requestedAt held, time.text_exact⟩
  · have sorted : entity.payload.claims.isSorted = true :=
      sorted.elim id fun ⟨_, reads⟩ => Issuance.Submission.isSorted_of_ofJson? reads
    exact ⟨Issuance.Submission.ofJson?_toJson_eq_iff sorted, Issuance.isLasting_iff sorted⟩

/-- A request with some payload. -/
def requesting (request : HolderRequest.Request) :
    Entity HolderRequest.State HolderRequest.Request :=
  .fresh "wish" .requested request .empty .epoch

/-- A request that was accepted at the last instant. -/
def lateRequest : HolderRequest.Request :=
  ⟨"holder", "did:web:issuer", [⟨"c1", "MemberCredential", .vc2SdJwt⟩],
    some "https://issuer.example", some "process", some ⟨.last, false⟩⟩

/-- A value without the endpoint and the time of a request, and with null for its process. -/
def sparseValue : Json :=
  .object [("issuer_pid", .null), ("requested_credentials", .array []),
    ("issuer_did", .string "did:web:issuer"), ("participant_context_id", .string "holder")]

/-- The request of this value. -/
def sparseRequest : HolderRequest.Request := ⟨"holder", "did:web:issuer", [], none, none, none⟩

/-- A submission with some claims. -/
def claiming (claims : Json) : Entity Issuance.State Issuance.Submission :=
  .fresh "order" .submitted
    ⟨"issuer", "did:web:holder", "request", ["member"], .ofList [("member", .vcJwt)], claims, []⟩
    .empty .epoch

/-- Claims of all kinds. -/
def mixedClaims : Json :=
  .object [("level", .int (-3)), ("names", .array [.string "Ada \"", .null]),
    ("share", .number (.fraction ⟨false, 4503599627370496, -53⟩))]

/-- The last instant needs a sign and nine digits. Absent and null fields, and claims of all kinds,
are read back. -/
theorem payloads_read_back_late :
    IsLasting (requesting lateRequest) ∧
      (Payload.toJson lateRequest).field? "requested_at" =
        some (.string "+262142-12-31T23:59:59.999999999Z") ∧
      IsReadBack sparseRequest ∧ IsLasting (requesting sparseRequest) ∧
      IsReadBack (claiming mixedClaims).payload ∧ IsLasting (claiming mixedClaims) ∧
      (Json.int (-3)).isExact = true := by
  obtain ⟨_, requests, times, submissions, whole⟩ := payloads_read_back
  have late := requests (requesting lateRequest) (.inl fun time held same => by
    cases held
    cases same)
  have sparse := requests (requesting sparseRequest) (.inr ⟨sparseValue, by decide +kernel⟩)
  have written := (times lateRequest _ rfl).1
  have order := submissions (claiming mixedClaims) (.inl (by decide +kernel))
  have text : (⟨.last, false⟩ : UtcTime).text = "+262142-12-31T23:59:59.999999999Z" := by
    decide +kernel
  rw [text] at written
  exact ⟨late.2, written, sparse.1, sparse.2, order.1.mpr (by decide +kernel),
    order.2.mpr ⟨by decide +kernel, by decide +kernel, by decide +kernel⟩,
    whole (-3) (by decide) (by decide)⟩

/-! ### Claims that are not read back -/

/-- Claims that begin with the name of embedded texts once they are in order. -/
def embedding : Json := .object [(Json.embeddingName, .string "[1]"), ("b", .int 1)]

/-- Claims with a number whose shortest text, 1.0999999999999999e24, is read as 1.1e24. -/
def drifting : Json := .number (.fraction ⟨false, 8195638656616210, 27⟩)

/-- So many arrays, and one more. -/
def brackets : Nat → Json
  | 0 => .array []
  | count + 1 => .array [brackets count]

/-- The same claims, out of order. -/
def unordered : Json := .object [("b", .int 1), (Json.embeddingName, .string "[1]")]

theorem settled?_unordered : unordered.settled? = some embedding := by rfl

/-- **Not all submissions are read back**: one that was read has claims that are not, and two come
back from their values but not from their rows. -/
theorem submissions_not_read_back :
    IsFound (claiming embedding) ∧ ¬IsReadBack (claiming embedding).payload ∧
      IsReadBack (claiming drifting).payload ∧ ¬IsLasting (claiming drifting) ∧
      IsReadBack (claiming (brackets 126)).payload ∧ ¬IsLasting (claiming (brackets 126)) := by
  have value : ∀ {claims : Json}, claims.isSorted = true →
      (IsReadBack (claiming claims).payload ↔ claims.isPlain = true) :=
    fun sorted => Issuance.Submission.ofJson?_toJson_eq_iff sorted
  have rows : ∀ {claims : Json}, claims.isSorted = true → IsLasting (claiming claims) →
      claims.nesting ≤ 126 ∧ claims.everywhere Json.isExact = true :=
    fun sorted lasts => ((Issuance.isLasting_iff sorted).mp lasts).2
  have found : IsFound (claiming embedding) := by
    refine ⟨Payload.toJson (claiming unordered).payload, ?_⟩
    refine (Issuance.Submission.ofJson?_toJson _).trans ?_
    exact (congrArg (Option.map _) settled?_unordered).trans rfl
  refine ⟨found, fun reads => ?_, (value rfl).mpr rfl, fun lasts => ?_, ?_, fun lasts => ?_⟩
  · exact absurd ((value (by decide +kernel)).mp reads) (by decide +kernel)
  · exact absurd (rows rfl lasts).2 (by decide +kernel)
  · exact (value (by decide +kernel)).mpr (by decide +kernel)
  · exact absurd (rows (by decide +kernel) lasts).1 (by decide +kernel)

end Credential

end Leasehold
