/-
**The credential processes never lack their artefacts.**

What a handler needs, an earlier handler wrote into the payload: an approved submission is complete,
a request that is about to be sent has an endpoint, a list that is about to be published is signed.
A partner may answer as it likes; its failures are told with the step that failed first, so they are
never mistaken for a payload that lacks something.

* `endsIn_askFor`: a call as a step of a handler that keeps to a lifecycle;
* `Issuance.lifecycle`, `HolderRequest.lifecycle`, `StatusList.lifecycle`: what the payloads have in
  each state, and what of them never changes;
* `Issuance.observes_registry` and its siblings: the handlers keep to these lifecycles;
* `artefacts_upheld`: so does every schedule of engines and callers.
-/

import Leasehold.Credential.HolderRequest
import Leasehold.Credential.Issuance
import Leasehold.Proofs.Poll.Lifecycle

set_option linter.unusedSectionVars false

namespace Leasehold.Credential

variable {ι ε S P : Type} [DecidableEq S] [ProcessState S]

/-! ### Calls of handlers -/

section Calls

variable {world : World ε Call Response} {life : Lifecycle S P} {leased : Entity S P}

/-- A call keeps to a lifecycle if what follows an answer does, and no failure of the call is ruled
out. -/
theorem endsIn_askFor {step : String} {call : Call} {next : call.Value → Task S P}
    (told : ∀ reason : String, ¬life.ruledOut leased.state s!"{step}: {reason}")
    (leads : ∀ value, (next value).EndsIn world (fun _ => True) (life.Admits leased)) :
    (askFor step call next).EndsIn world (fun _ => True) (life.Admits leased) := by
  refine .call (fun _ => trivial) fun {surroundings} _ => ?_
  cases (world.call call surroundings).1.2 with
  | answered value => exact leads value
  | transient reason => exact .done trivial
  | fatal reason => exact .done (told reason)
  | crashed message => exact .done trivial

/-- The first three letters of a text. They tell the words of the credential processes apart. -/
def opening (text : String) : List Char := text.toList.take 3

/-- How a text begins does not depend on how it ends. -/
theorem opening_append {beginning : String} (long : 3 ≤ beginning.toList.length) (rest : String) :
    opening (beginning ++ rest) = opening beginning := by
  unfold opening
  rw [String.toList_append, List.take_append_of_le_length long]

theorem append_ne {beginning text : String} (long : 3 ≤ beginning.toList.length)
    (other : opening beginning ≠ opening text) (rest : String) : beginning ++ rest ≠ text := by
  rintro rfl
  exact other (opening_append long rest).symm

end Calls

/-! ### Issuance -/

namespace Issuance

/-- From its approval on a submission is complete. No handler adds to it but the credentials that
were delivered. -/
def lifecycle : Lifecycle State Submission where
  fits
    | .approved, submission | .delivered, submission => submission.validate = .ok ()
    | .submitted, _ | .errored, _ | .cancelled, _ => True
  core submission := { submission with delivered := [] }
  ruledOut state reason := state = .approved ∧
    ∃ definition : String, reason = s!"no format requested for credential definition '{definition}'"

/-- A complete submission has an order for each of its definitions. -/
theorem Submission.exists_orders {submission : Submission}
    (complete : submission.validate = .ok ()) : ∃ orders, submission.orders = .ok orders := by
  unfold Submission.validate at complete
  split at complete
  · cases complete
  split at complete
  · cases complete
  split at complete
  · cases complete
  cases ordered : submission.orders with
  | error reason =>
    rw [ordered] at complete
    cases complete
  | ok orders => exact ⟨orders, rfl⟩

/-- A reason with another beginning is not ruled out. -/
theorem not_ruledOut {beginning : String} (long : 3 ≤ beginning.toList.length)
    (other : opening beginning ≠ opening "no format") (state : State) (rest : String) :
    ¬lifecycle.ruledOut state (beginning ++ rest) := by
  rintro ⟨_, definition, same⟩
  refine append_ne long ?_ rest same
  show _ ≠ opening ("no format requested for credential definition '" ++ definition ++ "'")
  rw [String.append_assoc, opening_append (by decide)]
  exact other

section Handlers

variable {world : World ε Call Response} {leased : Entity State Submission}

theorem endsIn_registerEach (context : String) {next : List Container → Task State Submission}
    (leads : ∀ registered, (next registered).EndsIn world (fun _ => True) (lifecycle.Admits leased))
    (credentials : List Container) :
    (registerEach context credentials next).EndsIn world (fun _ => True)
      (lifecycle.Admits leased) := by
  induction credentials generalizing next with
  | nil => exact leads []
  | cons credential rest ih =>
    refine endsIn_askFor (not_ruledOut (by decide) (by decide) _) fun registered => ?_
    exact ih fun others => leads (registered :: others)

theorem endsIn_storeEach (context holder : String) {next : Task State Submission}
    (leads : next.EndsIn world (fun _ => True) (lifecycle.Admits leased))
    (credentials : List Container) :
    (storeEach context holder credentials next).EndsIn world (fun _ => True)
      (lifecycle.Admits leased) := by
  induction credentials with
  | nil => exact leads
  | cons credential rest ih =>
    exact endsIn_askFor (not_ruledOut (by decide) (by decide) _) fun () => ih

theorem endsIn_validateSubmission (submitted : leased.state = .submitted) :
    (validateSubmission leased).EndsIn world (fun _ => True) (lifecycle.Admits leased) := by
  unfold validateSubmission
  split
  · next complete => exact .done ⟨complete, rfl⟩
  · refine .done fun ruledOut => ?_
    rw [submitted] at ruledOut
    cases ruledOut.1

theorem endsIn_issueCredentials (complete : leased.payload.validate = .ok ()) :
    (issueCredentials leased).EndsIn world (fun _ => True) (lifecycle.Admits leased) := by
  obtain ⟨orders, ordered⟩ := Submission.exists_orders complete
  unfold issueCredentials
  dsimp only
  rw [ordered]
  refine endsIn_askFor (not_ruledOut (by decide) (by decide) _) fun generated => ?_
  refine endsIn_registerEach _ (fun credentials => ?_) generated
  refine endsIn_askFor (not_ruledOut (by decide) (by decide) _) fun () => ?_
  refine endsIn_storeEach _ _ ?_ credentials
  exact .log (fun _ => trivial) (.done ⟨complete, rfl⟩)

end Handlers

/-- **The handlers of issuance processes keep to their lifecycle.** -/
theorem observes_registry : registry.Observes lifecycle where
  initial _ := trivial
  failed _ := trivial
  cancelled _ := trivial
  handled := by
    intro ε world entity handler handled fits
    cases state : entity.state with
    | submitted =>
      rw [state] at handled
      obtain rfl : validateSubmission = handler := Option.some.inj handled
      exact endsIn_validateSubmission state
    | approved =>
      rw [state] at handled fits
      obtain rfl : issueCredentials = handler := Option.some.inj handled
      exact endsIn_issueCredentials fits
    | delivered | errored | cancelled =>
      rw [state] at handled
      cases handled

end Issuance

/-! ### Requests of a holder -/

namespace HolderRequest

/-- A request has the endpoint of its issuer before it is sent, and what the issuer answered from
then on. No handler adds anything else to it. -/
def lifecycle : Lifecycle State Request where
  fits
    | .requesting, request => request.endpoint.isSome
    | .requested, request | .issued, request =>
      request.endpoint.isSome ∧ request.issuerProcess.isSome ∧ request.requestedAt.isSome
    | .created, _ | .failed, _ | .cancelled, _ => True
  core request := { request with endpoint := none, issuerProcess := none, requestedAt := none }
  ruledOut _ reason := reason = "issuer endpoint was never resolved" ∨
    reason = "request was never accepted by the issuer"

/-- A reason with another beginning is not ruled out. -/
theorem not_ruledOut {beginning : String} (long : 3 ≤ beginning.toList.length)
    (other : opening beginning ≠ opening "issuer endpoint was never resolved" ∧
      opening beginning ≠ opening "request was never accepted by the issuer")
    (state : State) (rest : String) : ¬lifecycle.ruledOut state (beginning ++ rest) := by
  rintro (same | same)
  · exact append_ne long other.1 rest same
  · exact append_ne long other.2 rest same

section Handlers

variable {world : World ε Call Response} {leased : Entity State Request}

theorem endsIn_resolveIssuer :
    (resolveIssuer leased).EndsIn world (fun _ => True) (lifecycle.Admits leased) := by
  refine endsIn_askFor (not_ruledOut (by decide) (by decide) _) fun endpoint => ?_
  exact .log (fun _ => trivial) (.done ⟨rfl, rfl⟩)

theorem endsIn_withToken (request : Request) {next : String → Task State Request}
    (leads : ∀ token, (next token).EndsIn world (fun _ => True) (lifecycle.Admits leased)) :
    (withToken request next).EndsIn world (fun _ => True) (lifecycle.Admits leased) :=
  endsIn_askFor (not_ruledOut (by decide) (by decide) _) leads

theorem endsIn_sendRequest (resolved : leased.payload.endpoint.isSome) :
    (sendRequest leased).EndsIn world (fun _ => True) (lifecycle.Admits leased) := by
  obtain ⟨endpoint, known⟩ := Option.isSome_iff_exists.mp resolved
  unfold sendRequest
  dsimp only
  rw [known]
  refine endsIn_withToken _ fun token => ?_
  refine endsIn_askFor (not_ruledOut (by decide) (by decide) _) fun issuerProcess => ?_
  exact .readClock fun _ => .done ⟨⟨rfl, rfl, rfl⟩, rfl⟩

/-- Whatever the issuer says, an issued request has what it was accepted with. -/
theorem admits_onStatus (accepted : lifecycle.fits .requested leased.payload)
    (status : IssuerStatus) : lifecycle.Admits leased (.decided (onStatus leased.payload status)) := by
  cases status with
  | received => trivial
  | issued => exact ⟨accepted, rfl⟩
  | rejected => exact fun ruledOut => ruledOut.elim (by decide) (by decide)
  | other text =>
    show ¬lifecycle.ruledOut _ ("invalid status received from issuer: '" ++ text ++ "'")
    rw [String.append_assoc]
    exact not_ruledOut (by decide) (by decide) _ _

theorem endsIn_awaitIssuance (limit : Duration)
    (accepted : lifecycle.fits .requested leased.payload) :
    (awaitIssuance limit leased).EndsIn world (fun _ => True) (lifecycle.Admits leased) := by
  obtain ⟨endpoint, known⟩ := Option.isSome_iff_exists.mp accepted.1
  obtain ⟨issuerProcess, named⟩ := Option.isSome_iff_exists.mp accepted.2.1
  obtain ⟨requestedAt, dated⟩ := Option.isSome_iff_exists.mp accepted.2.2
  unfold awaitIssuance
  dsimp only
  rw [known, named, dated]
  refine .readClock fun {surroundings} _ => ?_
  split
  · refine .log (fun _ => trivial) (.done ?_)
    show ¬lifecycle.ruledOut _ (_ ++ _ ++ _ ++ _ ++ _)
    rw [String.append_assoc, String.append_assoc, String.append_assoc]
    exact not_ruledOut (by decide) (by decide) _ _
  · refine endsIn_withToken _ fun token => ?_
    refine endsIn_askFor (not_ruledOut (by decide) (by decide) _) fun status => ?_
    exact .done (admits_onStatus accepted status)

end Handlers

/-- **The handlers of credential requests keep to their lifecycle**, with any limit. -/
theorem observes_registry (limit : Duration) : (registry limit).Observes lifecycle where
  initial _ := trivial
  failed _ := trivial
  cancelled _ := trivial
  handled := by
    intro ε world entity handler handled fits
    cases state : entity.state with
    | created =>
      rw [state] at handled
      obtain rfl : resolveIssuer = handler := Option.some.inj handled
      exact endsIn_resolveIssuer
    | requesting =>
      rw [state] at handled fits
      obtain rfl : sendRequest = handler := Option.some.inj handled
      exact endsIn_sendRequest fits
    | requested =>
      rw [state] at handled fits
      obtain rfl : awaitIssuance limit = handler := Option.some.inj handled
      exact endsIn_awaitIssuance limit fits
    | issued | failed | cancelled =>
      rw [state] at handled
      cases handled

end HolderRequest

/-! ### Status lists -/

namespace StatusList

/-- A list has its signed credential before it is published, and its address from then on. No handler
adds anything else to it. -/
def lifecycle : Lifecycle State Publication where
  fits
    | .signed, job => job.signed.isSome
    | .published, job => job.signed.isSome ∧ job.url.isSome
    | .created, _ | .failed, _ | .cancelled, _ => True
  core job := { job with signed := none, url := none }
  ruledOut _ reason := reason = "status list was never signed"

section Handlers

variable {world : World ε Call Response} {leased : Entity State Publication}

theorem endsIn_signList :
    (signList leased).EndsIn world (fun _ => True) (lifecycle.Admits leased) := by
  exact endsIn_askFor (append_ne (by decide) (by decide)) fun signed => .done ⟨rfl, rfl⟩

theorem endsIn_publishList (signed : leased.payload.signed.isSome) :
    (publishList leased).EndsIn world (fun _ => True) (lifecycle.Admits leased) := by
  obtain ⟨credential, known⟩ := Option.isSome_iff_exists.mp signed
  unfold publishList
  dsimp only
  rw [known]
  refine endsIn_askFor (append_ne (by decide) (by decide)) fun url => ?_
  exact .log (fun _ => trivial) (.done ⟨⟨rfl, rfl⟩, rfl⟩)

end Handlers

/-- **The handlers of publications keep to their lifecycle.** -/
theorem observes_registry : registry.Observes lifecycle where
  initial _ := trivial
  failed _ := trivial
  cancelled _ := trivial
  handled := by
    intro ε world entity handler handled fits
    cases state : entity.state with
    | created =>
      rw [state] at handled
      obtain rfl : signList = handler := Option.some.inj handled
      exact endsIn_signList
    | signed =>
      rw [state] at handled fits
      obtain rfl : publishList = handler := Option.some.inj handled
      exact endsIn_publishList fits
    | published | failed | cancelled =>
      rw [state] at handled
      cases handled

end StatusList

/-! ### Schedules -/

/-- **The credential processes never lack their artefacts.** Engines of one process type and callers
work on one store, each engine with partners that answer as they like. Then every entity that was
created there has what the lifecycle of its process type asks for, no handler gives up because it is
missing, and the rest of the payload stays as it was created. -/
theorem artefacts_upheld [DecidableEq ι] :
    (∀ fleet : Fleet ι ε Issuance.State Issuance.Submission Call Response,
      (∀ name, (fleet name).registry = Issuance.registry) →
      ∀ memory surroundings id actions, memory.find? id = none →
        (∀ action ∈ actions, action.IsTriggerOf Issuance.registry) →
        fleet.Upholds Issuance.lifecycle id (.start memory surroundings) actions) ∧
    (∀ fleet : Fleet ι ε HolderRequest.State HolderRequest.Request Call Response,
      (∀ name, ∃ limit, (fleet name).registry = HolderRequest.registry limit) →
      ∀ limit memory surroundings id actions, memory.find? id = none →
        (∀ action ∈ actions, action.IsTriggerOf (HolderRequest.registry limit)) →
        fleet.Upholds HolderRequest.lifecycle id (.start memory surroundings) actions) ∧
    (∀ fleet : Fleet ι ε StatusList.State StatusList.Publication Call Response,
      (∀ name, (fleet name).registry = StatusList.registry) →
      ∀ memory surroundings id actions, memory.find? id = none →
        (∀ action ∈ actions, action.IsTriggerOf StatusList.registry) →
        fleet.Upholds StatusList.lifecycle id (.start memory surroundings) actions) := by
  refine ⟨?issuance, ?requests, ?lists⟩
  case issuance =>
    intro fleet shared memory surroundings id actions absent trigger
    refine Fleet.lifecycle_run (fun name => ?_) Issuance.observes_registry surroundings absent
      trigger
    rw [shared name]
    exact Issuance.observes_registry
  case requests =>
    intro fleet shared limit memory surroundings id actions absent trigger
    refine Fleet.lifecycle_run (fun name => ?_) (HolderRequest.observes_registry limit) surroundings
      absent trigger
    obtain ⟨own, same⟩ := shared name
    rw [same]
    exact HolderRequest.observes_registry own
  case lists =>
    intro fleet shared memory surroundings id actions absent trigger
    refine Fleet.lifecycle_run (fun name => ?_) StatusList.observes_registry surroundings absent
      trigger
    rw [shared name]
    exact StatusList.observes_registry

/-! ### One step of each process -/

section Begun

/-- What partners answer who name what they were asked about. -/
def promptAnswer : (request : Call) → Response request
  | .resolveEndpoint issuer => .answered issuer
  | .sign _ credential _ _ => .answered credential
  | .publish _ credential _ => .answered credential
  | _ => .transient "busy"

/-- Engines of one process type with one clock, whose partners answer at once. A poll selects one
entity. -/
def willing (registry : Registry S P Call Response) : Fleet String Instant S P Call Response :=
  fun holder =>
    { registry := registry
      config := { batchSize := 1 }
      holder := holder
      sound := rfl
      world := {
        now := fun clock => clock
        tick := fun _ => pure ()
        log := fun _ => pure ()
        emit := fun _ => pure ()
        call := fun request => pure (0, promptAnswer request) }
      elapse := fun clock => clock }

/-- An entity is created, an engine selects it, and leads it to its next state. -/
def firstSteps (registry : Registry S P Call Response) (payload : P) :
    List (Fleet.Action String Instant S P) :=
  .call (.create (.fresh "1" registry.initial payload .empty Instant.epoch)) :: .poll "a" ::
    [.proceed "a" 0, .proceed "a" 0, .proceed "a" 0, .proceed "a" 0]

/-- What is stored then. -/
def afterFirstSteps (registry : Registry S P Call Response) (payload : P) : Option (Entity S P) :=
  ((willing registry).run (.start .empty (Fleet.atMillis 1000))
    (firstSteps registry payload)).site.memory.find? "1"

theorem firstSteps_trigger (registry : Registry S P Call Response) (payload : P) :
    ∀ action ∈ firstSteps registry payload, action.IsTriggerOf registry := by
  intro action listed
  simp only [firstSteps, List.mem_cons, List.not_mem_nil, or_false] at listed
  rcases listed with rfl | rfl | rfl | rfl | rfl | rfl
  · exact ⟨"1", payload, .empty, Instant.epoch, rfl⟩
  all_goals trivial

/-- The engine selects what was created. -/
theorem afterFirstSteps_eq (registry : Registry S P Call Response) (payload : P)
    (handled : ∃ registration, registry.registration? registry.initial = some registration) :
    let entity : Entity S P := .fresh "1" registry.initial payload .empty Instant.epoch
    let created := (willing registry).run (.start .empty (Fleet.atMillis 1000))
      [.call (.create entity)]
    afterFirstSteps registry payload =
      ((willing registry).run (created.polled (willing registry) "a" entity) [.proceed "a" 0,
        .proceed "a" 0, .proceed "a" 0, .proceed "a" 0]).site.memory.find? "1" := by
  intro entity created
  have due : (({} : RetryPolicy).dueFilter (Fleet.atMillis 1000)).admits 0 Instant.epoch = true := by
    decide
  have selects := (willing registry).step_poll_of_single created "a" entity rfl rfl handled rfl due
  show ((willing registry).run ((willing registry).step created (.poll "a"))
    _).site.memory.find? "1" = _
  rw [selects]

/-- A submission that is complete. -/
def degree : Issuance.Submission :=
  ⟨"issuer", "holder", "request", ["degree"], Dictionary.empty.insert "degree" .vcJwt, .null, []⟩

/-- A request that was not sent. -/
def unsent : HolderRequest.Request := ⟨"holder", "issuer", [], none, none, none⟩

/-- A list that was not signed. -/
def unsigned : StatusList.Publication := ⟨"issuer", "credential", "revocation", [], none, none⟩

/-- An engine of each process type leads an entity to the next state, and its payload has what this
state asks for. -/
theorem artefacts_upheld_begun :
    (∃ stored, afterFirstSteps Issuance.registry degree = some stored ∧
      stored.state = .approved ∧ stored.payload.validate = .ok ()) ∧
    (∃ stored, afterFirstSteps (HolderRequest.registry .zero) unsent = some stored ∧
      stored.state = .requesting ∧ stored.payload.endpoint.isSome) ∧
    (∃ stored, afterFirstSteps StatusList.registry unsigned = some stored ∧
      stored.state = .signed ∧ stored.payload.signed.isSome) := by
  obtain ⟨issuance, requests, lists⟩ := @artefacts_upheld String Instant _
  refine ⟨?issuance, ?requests, ?lists⟩
  case issuance =>
    obtain ⟨stored, found, approved⟩ : ∃ stored,
        afterFirstSteps Issuance.registry degree = some stored ∧ stored.state = .approved := by
      rw [afterFirstSteps_eq _ _ ⟨_, rfl⟩]
      exact ⟨_, rfl, rfl⟩
    have fits := (issuance (willing Issuance.registry) (fun _ => rfl) .empty (Fleet.atMillis 1000)
      "1" _ rfl (firstSteps_trigger Issuance.registry degree)).fits stored found
    rw [approved] at fits
    exact ⟨stored, found, approved, fits⟩
  case requests =>
    obtain ⟨stored, found, requesting⟩ : ∃ stored,
        afterFirstSteps (HolderRequest.registry .zero) unsent = some stored ∧
          stored.state = .requesting := by
      rw [afterFirstSteps_eq _ _ ⟨_, rfl⟩]
      exact ⟨_, rfl, rfl⟩
    have fits := (requests (willing (HolderRequest.registry .zero)) (fun _ => ⟨.zero, rfl⟩) .zero
      .empty (Fleet.atMillis 1000) "1" _ rfl
      (firstSteps_trigger (HolderRequest.registry .zero) unsent)).fits stored found
    rw [requesting] at fits
    exact ⟨stored, found, requesting, fits⟩
  case lists =>
    obtain ⟨stored, found, signed⟩ : ∃ stored,
        afterFirstSteps StatusList.registry unsigned = some stored ∧ stored.state = .signed := by
      rw [afterFirstSteps_eq _ _ ⟨_, rfl⟩]
      exact ⟨_, rfl, rfl⟩
    have fits := (lists (willing StatusList.registry) (fun _ => rfl) .empty (Fleet.atMillis 1000)
      "1" _ rfl (firstSteps_trigger StatusList.registry unsigned)).fits stored found
    rw [signed] at fits
    exact ⟨stored, found, signed, fits⟩

end Begun

end Leasehold.Credential
