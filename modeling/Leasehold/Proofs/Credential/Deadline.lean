/-
**A request waits for its issuer until the time limit, and no longer.**

The handler of a request that was sent looks at the clock first. Past the limit it fails the request
and calls nobody; before it, it never does so for lack of time. A request is stored as issued only
by an attempt whose handler saw the clock in time, for nobody changes the payload of a request that
was sent.

* `Request.IsSent`: what is known of a request that was sent;
* `IsLate`: the limit has passed at an instant;
* `Asks`, `Answers`: how the handler asks the issuer within the limit, and what follows;
* `Awaits`, `awaits_of_runs`: how the handler of a request that was sent always goes;
* `IssuesInTime`, `heeds_step`: no action issues a request past the limit;
* `deadline_upheld`: both.
-/

import Leasehold.Credential.HolderRequest
import Leasehold.Proofs.Credential.Artefacts
import Leasehold.Proofs.Credential.Calls
import Leasehold.Proofs.Fleet.Path
import Leasehold.Proofs.Poll.Transcript

set_option linter.unusedSectionVars false

namespace Leasehold.Credential.HolderRequest

open Work (Event calls)

/-! ### Handlers -/

/-- What is known of a request that was sent. -/
structure Request.IsSent (request : Request) (endpoint issuerProcess : String)
    (requestedAt : UtcTime) : Prop where
  endpoint : request.endpoint = some endpoint
  issuerProcess : request.issuerProcess = some issuerProcess
  requestedAt : request.requestedAt = some requestedAt

/-- The time limit has passed at an instant. -/
def IsLate (limit : Duration) (requestedAt : UtcTime) (now : Instant) : Prop :=
  (limit.nanos : Int) < requestedAt.elapsedNanos now

instance (limit : Duration) (requestedAt : UtcTime) (now : Instant) :
    Decidable (IsLate limit requestedAt now) :=
  inferInstanceAs (Decidable ((limit.nanos : Int) < requestedAt.elapsedNanos now))

/-- A call failed in a way that may pass. -/
def isTransient : Event Call Response → Bool
  | .called _ (.transient _) => true
  | _ => false

/-- A partner broke off. -/
def isCrash : Event Call Response → Bool
  | .called _ (.crashed _) => true
  | _ => false

/-- The issuer tells how the request stands. -/
def tells (status : IssuerStatus) : Event Call Response → Bool
  | .called (.queryStatus ..) (.answered told) => told = status
  | _ => false

section Handler

variable (request : Request) (endpoint issuerProcess : String)

/-- The call for a token. -/
def tokenCall : Call := .obtainToken request.participantContext request.issuer

/-- The events of a request that the issuer was asked about. -/
def asking (token : String)
    (response : Response (.queryStatus endpoint token issuerProcess)) :
    List (Event Call Response) :=
  [.called (tokenCall request) (.answered token),
    .called (.queryStatus endpoint token issuerProcess) response]

/-- The ways in which the handler asks the issuer. -/
inductive Asks : List (Event Call Response) → Reply State Request → Prop where
  | withoutToken {response : Response (tokenCall request)} {reply : Reply State Request}
      (fails : Fails "obtain token" response reply) :
      Asks [.called (tokenCall request) response] reply
  | withoutStatus (token : String)
      {response : Response (.queryStatus endpoint token issuerProcess)}
      {reply : Reply State Request} (fails : Fails "query request status" response reply) :
      Asks (asking request endpoint issuerProcess token response) reply
  | told (token : String) (status : IssuerStatus) :
      Asks (asking request endpoint issuerProcess token (.answered status))
        (.decided (onStatus request status))

variable (events : List (Event Call Response))

/-- Every call succeeded, and the issuer issued. -/
def isIssued : Bool := events.all isDone && events.any (tells .issued)

/-- A call failed in a way that may pass, or the issuer has yet to decide. -/
def isOpen : Bool := events.any isTransient || events.any (tells .received)

/-- A partner broke off. -/
def isBroken : Bool := events.any isCrash

/-- What follows from asking the issuer within the time limit. -/
structure Answers (reply : Reply State Request) : Prop where
  /-- One token is asked for, and with a token the status, once. -/
  asksOnce :
    (∃ response, events = [.called (tokenCall request) response] ∧ response.isAnswered = false) ∨
      ∃ token response, events = asking request endpoint issuerProcess token response
  /-- Time is never what the request fails for. -/
  inTime : ∀ rest, reply ≠ .decided (.fatal ("time limit exceeded: " ++ rest))
  succeeds : ∀ next payload, reply = .decided (.success next payload) ↔
    next = .issued ∧ payload = request ∧ isIssued events = true
  retries : (∃ reason, reply = .decided (.retry reason)) ↔ isOpen events = true
  crashes : (∃ message, reply = .crashed message) ↔ isBroken events = true
  fails : (∃ reason, reply = .decided (.fatal reason)) ↔
    isIssued events = false ∧ isOpen events = false ∧ isBroken events = false

namespace Answers

variable {request endpoint issuerProcess events}
  (asksOnce :
    (∃ response, events = [.called (tokenCall request) response] ∧ response.isAnswered = false) ∨
      ∃ token response, events = asking request endpoint issuerProcess token response)

include asksOnce

theorem success (issued : isIssued events = true) (closed : isOpen events = false)
    (whole : isBroken events = false) :
    Answers request endpoint issuerProcess events (.decided (.success .issued request)) where
  asksOnce := asksOnce
  inTime := nofun
  succeeds next payload := by simp [issued, eq_comm]
  retries := by simp [closed]
  crashes := by simp [whole]
  fails := by simp [issued]

theorem retry {reason : String} (unissued : isIssued events = false)
    (isOpen : isOpen events = true) (whole : isBroken events = false) :
    Answers request endpoint issuerProcess events (.decided (.retry reason)) where
  asksOnce := asksOnce
  inTime := nofun
  succeeds next payload := by simp [unissued]
  retries := by simp [isOpen]
  crashes := by simp [whole]
  fails := by simp [isOpen]

theorem crash {message : Option String} (unissued : isIssued events = false)
    (closed : isOpen events = false) (broken : isBroken events = true) :
    Answers request endpoint issuerProcess events (.crashed message) where
  asksOnce := asksOnce
  inTime := nofun
  succeeds next payload := by simp [unissued]
  retries := by simp [closed]
  crashes := by simp [broken]
  fails := by simp [broken]

theorem fatal {reason : String} (unissued : isIssued events = false)
    (closed : isOpen events = false) (whole : isBroken events = false)
    (inTime : ∀ rest, reason ≠ "time limit exceeded: " ++ rest) :
    Answers request endpoint issuerProcess events (.decided (.fatal reason)) where
  asksOnce := asksOnce
  inTime rest := by simpa using inTime rest
  succeeds next payload := by simp [unissued]
  retries := by simp [closed]
  crashes := by simp [whole]
  fails := by simp [unissued, closed, whole]

end Answers

variable {request endpoint issuerProcess events} {reply : Reply State Request}

/-- A text that begins in another way says nothing of a time limit. -/
theorem ne_timeLimit {text : String} (other : opening text ≠ opening "time limit exceeded: ")
    (rest : String) : text ≠ "time limit exceeded: " ++ rest := by
  rintro rfl
  exact other (opening_append (by decide) rest)

/-- Whatever the partners answer, the reply is what follows from it. -/
theorem Asks.answers (asks : Asks request endpoint issuerProcess events reply) :
    Answers request endpoint issuerProcess events reply := by
  cases asks with
  | withoutToken fails =>
    cases fails with
    | transient reason => exact .retry (.inl ⟨_, rfl, rfl⟩) rfl rfl rfl
    | crashed message => exact .crash (.inl ⟨_, rfl, rfl⟩) rfl rfl rfl
    | fatal reason =>
      refine .fatal (.inl ⟨_, rfl, rfl⟩) rfl rfl rfl (ne_timeLimit ?_)
      rw [String.append_assoc, opening_append (by decide)]
      decide
  | withoutStatus token fails =>
    cases fails with
    | transient reason => exact .retry (.inr ⟨token, _, rfl⟩) rfl rfl rfl
    | crashed message => exact .crash (.inr ⟨token, _, rfl⟩) rfl rfl rfl
    | fatal reason =>
      refine .fatal (.inr ⟨token, _, rfl⟩) rfl rfl rfl (ne_timeLimit ?_)
      rw [String.append_assoc, opening_append (by decide)]
      decide
  | told token status =>
    cases status with
    | issued => exact .success (.inr ⟨token, _, rfl⟩) rfl rfl rfl
    | received => exact .retry (.inr ⟨token, _, rfl⟩) rfl rfl rfl
    | rejected => exact .fatal (.inr ⟨token, _, rfl⟩) rfl rfl rfl (ne_timeLimit (by decide))
    | other text =>
      refine .fatal (.inr ⟨token, _, rfl⟩) rfl rfl rfl (ne_timeLimit ?_)
      rw [String.append_assoc, opening_append (by decide)]
      decide

theorem Asks.of_success {next : State} {payload : Request}
    (asks : Asks request endpoint issuerProcess events (.decided (.success next payload))) :
    payload = request ∧
      ∃ token, events = asking request endpoint issuerProcess token (.answered .issued) := by
  generalize same : Reply.decided (.success next payload) = reply at asks
  cases asks with
  | withoutToken fails | withoutStatus _ fails =>
    rw [← same] at fails
    cases fails
  | told token status =>
    cases status with
    | issued =>
      cases same
      exact ⟨rfl, token, rfl⟩
    | received | rejected | other _ => cases same

/-- How the handler of a request that was sent goes: it looks at the clock, and asks the issuer
unless it is late. -/
def Awaits (limit : Duration) (request : Request) (endpoint issuerProcess : String)
    (requestedAt : UtcTime) (events : List (Event Call Response)) (reply : Reply State Request) :
    Prop :=
  ∃ now later, events = .read now :: later ∧
    (IsLate limit requestedAt now → calls later = [] ∧
      let waited := (requestedAt.elapsedNanos now).toNat / nanosPerSecond
      reply = .decided (.fatal
        s!"time limit exceeded: waited {waited}s for the issuer, limit {limit.wholeSeconds}s")) ∧
    (¬IsLate limit requestedAt now → Asks request endpoint issuerProcess later reply ∧
      Answers request endpoint issuerProcess later reply)

variable {limit : Duration} {entity : Entity State Request} {requestedAt : UtcTime}

/-- **The handler of a request that was sent asks the issuer unless it is late.** -/
theorem awaits_of_runs (sent : entity.payload.IsSent endpoint issuerProcess requestedAt)
    (runs : (awaitIssuance limit entity).Runs events reply) :
    Awaits limit entity.payload endpoint issuerProcess requestedAt events reply := by
  unfold awaitIssuance at runs
  simp only [sent.endpoint, sent.issuerProcess, sent.requestedAt] at runs
  obtain ⟨now, later, rfl, leads⟩ := Work.runs_readClock_iff.mp runs
  have late_iff : IsLate limit requestedAt now ↔ limit.nanos < waitedNanos requestedAt now :=
    Int.lt_toNat.symm
  refine ⟨now, later, rfl, fun late => ?_, fun inTime => ?_⟩
  · rw [if_pos (late_iff.mp late)] at leads
    obtain ⟨_, rfl, ends⟩ := Work.runs_log_iff.mp leads
    obtain ⟨rfl, rfl⟩ := Work.runs_done_iff.mp ends
    exact ⟨rfl, rfl⟩
  · rw [if_neg (inTime ∘ late_iff.mpr)] at leads
    have asks : Asks entity.payload endpoint issuerProcess later reply := by
      obtain ⟨_, _, rfl, ⟨token, rfl, asks⟩ | ⟨fails, rfl⟩⟩ := runs_askFor_iff.mp leads
      case inr => exact .withoutToken fails
      obtain ⟨_, _, rfl, ⟨status, rfl, ends⟩ | ⟨fails, rfl⟩⟩ := runs_askFor_iff.mp asks
      case inr => exact .withoutStatus token fails
      obtain ⟨rfl, rfl⟩ := Work.runs_done_iff.mp ends
      exact .told token status
    exact ⟨asks, asks.answers⟩

/-- Only a request that was sent can succeed. -/
theorem exists_isSent {next : State} {payload : Request}
    (runs : (awaitIssuance limit entity).Runs events (.decided (.success next payload))) :
    ∃ endpoint issuerProcess requestedAt,
      entity.payload.IsSent endpoint issuerProcess requestedAt := by
  unfold awaitIssuance at runs
  dsimp only at runs
  split at runs
  · next endpoint issuerProcess requestedAt first second third =>
    exact ⟨endpoint, issuerProcess, requestedAt, first, second, third⟩
  · obtain ⟨_, same⟩ := Work.runs_done_iff.mp runs
    cases same

/-- **A request that succeeds was looked at in time**, and keeps its payload. -/
theorem inTime_of_success {next : State} {payload : Request}
    (runs : (awaitIssuance limit entity).Runs events (.decided (.success next payload))) :
    payload = entity.payload ∧ ∃ endpoint issuerProcess requestedAt now token,
      entity.payload.IsSent endpoint issuerProcess requestedAt ∧
      events = .read now :: asking entity.payload endpoint issuerProcess token
        (.answered .issued) ∧
      requestedAt.elapsedNanos now ≤ limit.nanos := by
  obtain ⟨endpoint, issuerProcess, requestedAt, sent⟩ := exists_isSent runs
  obtain ⟨now, later, rfl, late, inTime⟩ := awaits_of_runs sent runs
  have punctual : ¬IsLate limit requestedAt now := fun isLate => by cases (late isLate).2
  obtain ⟨kept, token, rfl⟩ := (inTime punctual).1.of_success
  exact ⟨kept, endpoint, issuerProcess, requestedAt, now, token, sent, rfl, Int.not_lt.mp punctual⟩

end Handler

/-! ### Attempts -/

section Attempts

variable {limit : Duration} {leased result : Entity State Request} {outcome : Outcome}
  {events : List (Event Call Response)}

/-- What is written over a request that was sent has the same payload. -/
theorem payload_of_recalls {policy : RetryPolicy}
    (warranted : Warrant (registry limit) policy leased result outcome)
    (recalls : (Attempt.persisting leased result outcome).Recalls (registry limit) events)
    (requested : leased.state = .requested) : result.payload = leased.payload := by
  cases warranted with
  | success next payload now allowed =>
    obtain ⟨_, decided, _, ⟨handler, handled, runs⟩, same⟩ := recalls rfl
    rw [requested] at handled
    obtain rfl : awaitIssuance limit = handler := Option.some.inj handled
    obtain ⟨kept, _⟩ := inTime_of_success runs
    have samePayload : payload = decided := congrArg (·.payload) same
    exact samePayload.trans kept
  | cancelled | retry | fatal | exhausted => rfl

/-- **A request is issued by an attempt whose handler looked at the clock in time.** -/
theorem inTime_of_recalls {policy : RetryPolicy}
    (warranted : Warrant (registry limit) policy leased result outcome)
    (recalls : (Attempt.persisting leased result outcome).Recalls (registry limit) events)
    (handled : leased.state ∈ (registry limit).handledStates) (issued : result.state = .issued) :
    leased.state = .requested ∧ ∃ endpoint issuerProcess requestedAt now token,
      leased.payload.IsSent endpoint issuerProcess requestedAt ∧
      events = .read now :: asking leased.payload endpoint issuerProcess token
        (.answered .issued) ∧
      requestedAt.elapsedNanos now ≤ limit.nanos := by
  cases warranted with
  | success next payload now allowed =>
    obtain rfl : next = .issued := issued
    obtain ⟨decidedNext, decided, _, ⟨handler, handles, runs⟩, same⟩ := recalls rfl
    cases state : leased.state with
    | requested =>
      rw [state] at handles
      obtain rfl : awaitIssuance limit = handler := Option.some.inj handles
      exact ⟨rfl, (inTime_of_success runs).2⟩
    | created | requesting | issued | failed | cancelled =>
      rw [state] at allowed
      cases allowed
  | retry =>
    have isIssued : leased.state = .issued := issued
    rw [isIssued] at handled
    obtain ⟨_, unhandled⟩ := Registry.mem_handledStates.mp handled
    cases unhandled
  | cancelled | fatal | exhausted => cases issued

end Attempts

/-! ### Schedules -/

section Schedules

variable {ι ε : Type} [DecidableEq ι] {fleet : Fleet ι ε State Request Call Response}
  {limit : ι → Duration} {start : Fleet.State ι ε State Request Call Response}
  {past : List (Fleet.Action ι ε State Request)} {action : Fleet.Action ι ε State Request}
  {id : String}

/-- An action of a schedule issues a request: it is the last step of an attempt whose handler, since
the last poll of its member, looked at the clock in time, and then heard from the issuer. -/
def IssuesInTime (fleet : Fleet ι ε State Request Call Response) (limit : ι → Duration)
    (start : Fleet.State ι ε State Request Call Response)
    (past : List (Fleet.Action ι ε State Request)) (action : Fleet.Action ι ε State Request)
    (request : Request) : Prop :=
  ∃ name number earlier later endpoint issuerProcess requestedAt now token,
    action = .proceed name number ∧ past = earlier ++ .poll name :: later ∧
    fleet.LastPoll start name earlier later ∧ request.IsSent endpoint issuerProcess requestedAt ∧
    fleet.observe (fleet.dialogue name number) (fleet.run start (earlier ++ [.poll name])) later =
      .read now :: asking request endpoint issuerProcess token (.answered .issued) ∧
    requestedAt.elapsedNanos now ≤ (limit name).nanos

/-- What an action may do to a stored request. -/
structure Heeds (fleet : Fleet ι ε State Request Call Response) (limit : ι → Duration)
    (start : Fleet.State ι ε State Request Call Response)
    (past : List (Fleet.Action ι ε State Request)) (action : Fleet.Action ι ε State Request)
    (stored next : Entity State Request) : Prop where
  /-- A request that was sent keeps its payload. -/
  keeps : stored.state = .requested → next.payload = stored.payload
  /-- A request becomes issued only in time. -/
  issues : next.state = .issued → stored.state = .issued ∨
    (stored.state = .requested ∧ next.payload = stored.payload ∧
      IssuesInTime fleet limit start past action stored.payload)

/-- What neither issues a request nor changes its payload is no matter of time. -/
theorem Heeds.of_same {stored next : Entity State Request} (same : next.payload = stored.payload)
    (issued : next.state = .issued → stored.state = .issued) :
    Heeds fleet limit start past action stored next :=
  ⟨fun _ => same, fun isIssued => .inl (issued isIssued)⟩

variable (shared : ∀ name, (fleet name).registry = registry (limit name))

include shared

/-- **An outcome that is written heeds the time limit.** -/
theorem heeds_write {memory : Memory State Request}
    (fresh : ∀ name, start.batches name = [])
    (honest : (fleet.run start past).Honest fleet memory) (due : (fleet.run start past).Due fleet)
    {name : ι} {number : Nat} {leased result stored saved : Entity State Request}
    {outcome : Outcome}
    (there : (fleet.run start past).attempt? name number =
      some (.persisting leased result outcome))
    (written : (fleet.run start past).site.memory.answer (.update { result with lease := none }) =
      .ok saved)
    (found : (fleet.run start past).site.memory.find? leased.id = some stored) :
    Heeds fleet limit start past (.proceed name number) stored saved := by
  have warranted := honest.tidy.warranted there
  have handled := due name number _ there
  obtain ⟨earlier, later, candidate, rfl, poll, _, _⟩ := Fleet.exists_lastPoll (fresh name) there
  have recalls := Fleet.transcript_run poll there
  rw [Attempt.IsWarranted, shared name] at warranted
  rw [Attempt.IsDue, shared name] at handled
  rw [shared name] at recalls
  obtain ⟨sameId, sameVersion, _⟩ := warranted.keeps
  obtain ⟨met, atWrite, metVersion, equal⟩ := Memory.answer_update_eq_ok_iff.mp written
  have savedState : saved.state = result.state := congrArg (·.state) equal
  have savedPayload : saved.payload = result.payload := congrArg (·.payload) equal
  -- The stored entity is the leased one, or the write would have failed.
  have atWrite : (fleet.run start (earlier ++ .poll name :: later)).site.memory.find? leased.id =
      some met := by
    rw [← sameId]
    exact atWrite
  obtain rfl : met = stored := Option.some.inj (atWrite.symm.trans found)
  have claimed : (fleet.run start (earlier ++ .poll name :: later)).claim? name number =
      some leased := Option.bind_eq_some_iff.mpr ⟨_, there, rfl⟩
  have same := honest.sameButRequest claimed found (metVersion.trans sameVersion)
  have sameState : met.state = leased.state := by rw [same.eq]
  have samePayload : met.payload = leased.payload := by rw [same.eq]
  constructor
  case keeps =>
    intro requested
    rw [savedPayload, samePayload]
    exact payload_of_recalls warranted recalls (sameState.symm.trans requested)
  case issues =>
    intro issued
    rw [savedState] at issued
    obtain ⟨requested, endpoint, issuerProcess, requestedAt, now, token, sent, went, inTime⟩ :=
      inTime_of_recalls warranted recalls handled issued
    rw [sameState, savedPayload, samePayload]
    exact .inr ⟨requested, payload_of_recalls warranted recalls requested, name, number, earlier,
      later, endpoint, issuerProcess, requestedAt, now, token, rfl, rfl, poll, sent, went, inTime⟩

/-- A trigger issues nothing, and changes no payload. -/
theorem heeds_trigger {outside : Duration} {operation : Operation State Request}
    (trigger : operation.IsTriggerOf (registry outside)) (stored : Entity State Request) :
    Heeds fleet limit start past action stored (operation.revise stored) := by
  obtain ⟨_, legal⟩ := Operation.legal_revise_of_isTriggerOf {} trigger stored
  generalize operation.revise stored = next at legal
  cases legal with
  | stops _ cancelled kept _ =>
    refine .of_same kept fun issued => ?_
    rw [cancelled] at issued
    cases issued
  | stays same =>
    unfold Entity.SameButClaim at same
    rw [same]
    exact .of_same rfl fun issued => issued

/-- **Every action heeds the time limit**, whatever happened before. -/
theorem heeds_step {outside : Duration} (memory : Memory State Request) (surroundings : ε)
    (trigger : action.IsTriggerOf (registry outside)) {stored : Entity State Request}
    (found : (fleet.run (.start memory surroundings) past).site.memory.find? id = some stored) :
    ∃ next, (fleet.run (.start memory surroundings) (past ++ [action])).site.memory.find? id =
        some next ∧
      Heeds fleet limit (.start memory surroundings) past action stored next := by
  have honest := fleet.honest_run memory surroundings past
  obtain ⟨next, there, touch⟩ := (fleet.change_step _ action).touches honest.tidy found
  rw [Fleet.run_concat]
  refine ⟨next, there, ?_⟩
  cases touch with
  | holds same =>
    rw [same.eq]
    exact .of_same rfl fun issued => issued
  | calls operation => exact heeds_trigger shared trigger stored
  | writes attempted written own =>
    rw [← own.trans (Memory.id_of_find? found)] at found
    exact heeds_write shared (fun _ => rfl) honest (fleet.due_run memory surroundings past)
      attempted written found

end Schedules

/-- **No request is issued past its time limit, and none times out before it.** The handler of a
request that was sent always comes to a reply: late, it fails the request for that reason and calls
nobody; in time, it asks for one token and then for the status, and goes by what it learns. And in
any schedule nobody changes the payload of a request that was sent, which becomes issued only by an
attempt whose handler saw the clock no later than the limit allows. -/
theorem deadline_upheld {ι ε : Type} [DecidableEq ι] :
    (∀ (limit : Duration) (entity : Entity State Request) handler endpoint issuerProcess
        requestedAt, (registry limit).handler? entity.state = some handler → entity.state = .requested →
      entity.payload.IsSent endpoint issuerProcess requestedAt →
      (∀ oracle : Oracle Call Response, ∃ events reply,
        (handler entity).Runs events reply ∧ oracle.Gives [] events) ∧
      ∀ events reply, (handler entity).Runs events reply →
        Awaits limit entity.payload endpoint issuerProcess requestedAt events reply) ∧
    ∀ (fleet : Fleet ι ε State Request Call Response) (limit : ι → Duration) (outside : Duration),
      (∀ name, (fleet name).registry = registry (limit name)) →
      ∀ memory surroundings past action id, action.IsTriggerOf (registry outside) →
        let start := .start memory surroundings
        let before := (fleet.run start past).site.memory
        let after := (fleet.run start (past ++ [action])).site.memory
        (∀ stored, before.find? id = some stored → ∃ next, after.find? id = some next ∧
          Heeds fleet limit start past action stored next) ∧
        ∀ next, before.find? id = none → after.find? id = some next → next.state ≠ .issued := by
  constructor
  · intro limit entity handler endpoint issuerProcess requestedAt handled requested sent
    rw [requested] at handled
    obtain rfl : awaitIssuance limit = handler := Option.some.inj handled
    exact ⟨fun oracle => Work.exists_runs oracle _ [], fun events reply => awaits_of_runs sent⟩
  · intro fleet limit outside shared memory surroundings past action id trigger
    refine ⟨fun stored => heeds_step shared memory surroundings trigger, ?_⟩
    intro next absent there issued
    rw [Fleet.run_concat] at there
    obtain ⟨created, _⟩ := (fleet.change_step _ action).creates trigger absent
    obtain ⟨payload, _, _, rfl⟩ := created next there
    cases issued

/-! ### A request that is issued at the last moment -/

section LastMoment

/-- A request that was sent at the epoch. -/
def sentRequest : Entity State Request :=
  .fresh "1" .requested
    ⟨"holder", "issuer", [], some "endpoint", some "process", some ⟨Instant.epoch, false⟩⟩ .empty
    Instant.epoch

/-- Engines that wait for a second, with an issuer who has issued. -/
def issuing : Fleet String Instant State Request Call Response := fun holder =>
  let willing := willing (registry (Duration.ofSeconds 1)) holder
  { willing with
    world := { willing.world with
      call := fun request => pure (0, match request with
        | .obtainToken .. => .answered "token"
        | .queryStatus .. => .answered .issued
        | _ => .fatal "unasked") } }

/-- The request is stored, a second after it was sent. -/
def aSecondLater : Fleet.State String Instant State Request Call Response :=
  .start (Memory.empty.after (.create sentRequest)) (Fleet.atMillis 1000)

/-- What happens to the request, up to its last action. -/
def lastMoment : List (Fleet.Action String Instant State Request) :=
  .poll "a" :: [.proceed "a" 0, .proceed "a" 0, .proceed "a" 0]

/-- An engine selects the request. -/
theorem run_aSecondLater (actions : List (Fleet.Action String Instant State Request)) :
    issuing.run aSecondLater (.poll "a" :: actions) =
      issuing.run (aSecondLater.polled issuing "a" sentRequest) actions := by
  have selects := issuing.step_poll_of_single aSecondLater "a" sentRequest rfl rfl ⟨_, rfl⟩ rfl
    (by decide)
  show issuing.run (issuing.step aSecondLater (.poll "a")) actions = _
  rw [selects]

/-- A second after it was sent the request is still issued; half a second later it is too late. -/
theorem deadline_upheld_last_moment :
    (∃ next, (issuing.run aSecondLater (lastMoment ++ [.proceed "a" 0])).site.memory.find? "1" =
        some next ∧ next.state = .issued ∧
      IssuesInTime issuing (fun _ => Duration.ofSeconds 1) aSecondLater lastMoment
        (.proceed "a" 0) sentRequest.payload) ∧
    ∀ events reply, (awaitIssuance (Duration.ofSeconds 1) sentRequest).Runs
      (.read (Fleet.atMillis 2500) :: events) reply → calls events = [] ∧
        reply = .decided (.fatal "time limit exceeded: waited 2s for the issuer, limit 1s") := by
  obtain ⟨handlers, schedules⟩ := @deadline_upheld String Instant _
  constructor
  · have midway : ∃ stored,
        (issuing.run aSecondLater lastMoment).site.memory.find? "1" = some stored ∧
          stored.state = .requested ∧ stored.payload = sentRequest.payload := by
      rw [lastMoment, run_aSecondLater]
      exact ⟨_, rfl, rfl, rfl⟩
    have final : ∃ next,
        (issuing.run aSecondLater (lastMoment ++ [.proceed "a" 0])).site.memory.find? "1" =
          some next ∧ next.state = .issued := by
      rw [lastMoment, List.cons_append, run_aSecondLater]
      exact ⟨_, rfl, rfl⟩
    obtain ⟨stored, found, requested, kept⟩ := midway
    obtain ⟨next, there, issued⟩ := final
    obtain ⟨steps, _⟩ := schedules issuing (fun _ => Duration.ofSeconds 1) .zero (fun _ => rfl)
      (Memory.empty.after (.create sentRequest)) (Fleet.atMillis 1000) lastMoment
      (.proceed "a" 0) "1" trivial
    obtain ⟨reached, thereToo, heeds⟩ := steps stored found
    obtain rfl : reached = next := Option.some.inj (thereToo.symm.trans there)
    rcases heeds.issues issued with before | ⟨_, _, inTime⟩
    · rw [requested] at before
      cases before
    · rw [kept] at inTime
      exact ⟨reached, there, issued, inTime⟩
  · intro events reply runs
    obtain ⟨_, always⟩ := handlers (Duration.ofSeconds 1) sentRequest _ "endpoint" "process"
      ⟨Instant.epoch, false⟩ rfl rfl ⟨rfl, rfl, rfl⟩
    obtain ⟨now, later, same, late, _⟩ := always _ _ runs
    obtain ⟨first, rfl⟩ := List.cons.inj same
    cases first
    exact late (by decide)

end LastMoment

end Leasehold.Credential.HolderRequest
