/-
**An issuance calls its partners in order.**

An approved submission is issued in four rounds: all credentials are made at once, each is
registered, all are delivered at once as they came back from registration, each is recorded. The
rounds follow a plan, and the first failure ends it.

* `Submission.IsOrdered`, `Submission.Lacks`: either there is a format for each definition, or a
  first definition lacks one;
* `plan`: the calls of an issuance, from what was made and what came back from registration;
* `InOrder`: calls that follow the plan, so that nothing is delivered before it is registered and
  nothing recorded before it is delivered;
* `Issues`, `issues_in_order`: so every issuance goes, however its partners behave.
-/

import Leasehold.Credential.Issuance
import Leasehold.Proofs.Credential.Calls

set_option linter.unusedSectionVars false

namespace Leasehold.Credential.Issuance

open Work (Event calls)

/-! ### Orders -/

namespace Submission

variable (submission : Submission)

/-- One order for each definition, in its format. -/
def IsOrdered (orders : List Order) : Prop :=
  orders.map (·.definition) = submission.definitions ∧
    ∀ order ∈ orders, submission.formats.get? order.definition = some order.format

/-- The first definition without a format. -/
def Lacks (definition : String) : Prop :=
  ∃ before after, submission.definitions = before ++ definition :: after ∧
    (∀ earlier ∈ before, (submission.formats.get? earlier).isSome) ∧
    submission.formats.get? definition = none

variable {submission}

theorem mapM_order_of_formats {orders : List Order}
    (formatted : ∀ order ∈ orders, submission.formats.get? order.definition = some order.format) :
    (orders.map (·.definition)).mapM submission.order = .ok orders := by
  induction orders with
  | nil => rfl
  | cons first rest ih =>
    obtain ⟨found, others⟩ := List.forall_mem_cons.mp formatted
    rw [List.map_cons, List.mapM_cons, order, found, ih others]
    rfl

theorem mapM_order_of_none {before after : List String} {definition : String}
    (formatted : ∀ earlier ∈ before, (submission.formats.get? earlier).isSome)
    (lacks : submission.formats.get? definition = none) :
    (before ++ definition :: after).mapM submission.order =
      .error s!"no format requested for credential definition '{definition}'" := by
  induction before with
  | nil =>
    rw [List.nil_append, List.mapM_cons, order, lacks]
    rfl
  | cons first rest ih =>
    obtain ⟨hasFormat, others⟩ := List.forall_mem_cons.mp formatted
    obtain ⟨format, found⟩ := Option.isSome_iff_exists.mp hasFormat
    rw [List.cons_append, List.mapM_cons, order, found, ih others]
    rfl

/-- There are orders exactly for definitions that all have a format. -/
theorem IsOrdered.orders_eq {orders : List Order} (ordered : submission.IsOrdered orders) :
    submission.orders = .ok orders := by
  unfold Submission.orders
  rw [← ordered.1]
  exact mapM_order_of_formats ordered.2

/-- The first definition without a format is told. -/
theorem Lacks.orders_eq {definition : String} (lacks : submission.Lacks definition) :
    submission.orders =
      .error s!"no format requested for credential definition '{definition}'" := by
  obtain ⟨before, after, split, formatted, none⟩ := lacks
  unfold Submission.orders
  rw [split]
  exact mapM_order_of_none formatted none

/-- Every submission has its orders, or a first definition lacks its format. -/
theorem isOrdered_or_lacks (submission : Submission) :
    (∃ orders, submission.IsOrdered orders) ∨ ∃ definition, submission.Lacks definition := by
  unfold IsOrdered Lacks
  induction submission.definitions with
  | nil => exact .inl ⟨[], rfl, fun _ listed => absurd listed List.not_mem_nil⟩
  | cons first rest ih =>
    cases found : submission.formats.get? first with
    | none =>
      exact .inr ⟨first, [], rest, rfl, fun _ listed => absurd listed List.not_mem_nil, found⟩
    | some format =>
      rcases ih with ⟨orders, named, formatted⟩ | ⟨definition, before, after, same, formatted, none⟩
      · exact .inl ⟨⟨first, format⟩ :: orders, congrArg (first :: ·) named,
          List.forall_mem_cons.mpr ⟨found, formatted⟩⟩
      · exact .inr ⟨definition, first :: before, after, congrArg (first :: ·) same,
          List.forall_mem_cons.mpr ⟨Option.isSome_iff_exists.mpr ⟨format, found⟩, formatted⟩, none⟩

end Submission

/-! ### The plan -/

/-- The credentials that were made. -/
def generated? : Event Call Response → Option (List Container)
  | .called (.generate ..) (.answered generated) => some generated
  | _ => none

/-- A credential that came back from its registration. -/
def registered? : Event Call Response → Option Container
  | .called (.register ..) (.answered registered) => some registered
  | _ => none

/-- The credentials that were made with some events. -/
def generated (events : List (Event Call Response)) : List Container :=
  (events.findSome? generated?).getD []

/-- The credentials that came back from their registration, the first first. -/
def registered (events : List (Event Call Response)) : List Container :=
  events.filterMap registered?

section Plan

variable (submission : Submission) (orders : List Order)

/-- The call that makes all credentials. -/
def making : Call :=
  .generate submission.participantContext submission.holder orders submission.claims

/-- The calls that register credentials. -/
def registering (credentials : List Container) : List Call :=
  credentials.map (.register submission.participantContext)

/-- The call that delivers credentials. -/
def delivering (credentials : List Container) : Call :=
  .deliver submission.holder submission.holderRequest credentials

/-- The calls that record credentials. -/
def recording (credentials : List Container) : List Call :=
  credentials.map (.store submission.participantContext submission.holder)

/-- The calls of an issuance: what is made is registered, and what comes back is delivered and
recorded. -/
def plan (made back : List Container) : List Call :=
  making submission orders :: registering submission made ++
    delivering submission back :: recording submission back

/-- Calls that follow the plan. -/
structure InOrder (events : List (Event Call Response)) : Prop where
  planned : calls events <+: plan submission orders (generated events) (registered events)
  /-- Nothing is delivered unless everything that was made came back from its registration. -/
  delivers : ∀ holder request credentials, .deliver holder request credentials ∈ calls events →
    credentials = registered events ∧ (registered events).length = (generated events).length ∧
      .called (making submission orders) (.answered (generated events)) ∈ events
  /-- Nothing is recorded unless it was delivered. -/
  records : ∀ context holder credential, .store context holder credential ∈ calls events →
    credential ∈ registered events ∧
      .called (delivering submission (registered events)) (.answered ()) ∈ events

end Plan

/-! ### The rounds -/

section Rounds

variable {submission : Submission} {orders : List Order} {events late : List (Event Call Response)}
  {reply : Reply State Submission} {made back : List Container}

/-- Credentials are registered, and others come back. -/
def registrations (context : String) (credentials back : List Container) :
    List (Event Call Response) :=
  List.zipWith (fun credential other => .called (.register context credential) (.answered other))
    credentials back

/-- Credentials are recorded. -/
def records (context holder : String) (credentials : List Container) :
    List (Event Call Response) :=
  credentials.map fun credential => .called (.store context holder credential) (.answered ())

theorem calls_registrations (context : String) (same : back.length = made.length) :
    calls (registrations context made back) = made.map (.register context) := by
  induction made generalizing back with
  | nil => rfl
  | cons credential rest ih =>
    cases back with
    | nil => cases same
    | cons other others => exact congrArg (_ :: ·) (ih (Nat.succ.inj same))

theorem registered_registrations (context : String) (same : back.length = made.length) :
    registered (registrations context made back) = back := by
  induction made generalizing back with
  | nil => exact (List.eq_nil_of_length_eq_zero same).symm
  | cons credential rest ih =>
    cases back with
    | nil => cases same
    | cons other others => exact congrArg (other :: ·) (ih (Nat.succ.inj same))

theorem succeed_registrations (context : String) (made back : List Container) :
    Succeed (registrations context made back) := by
  induction made generalizing back with
  | nil => exact .nil
  | cons credential rest ih =>
    cases back with
    | nil => exact .nil
    | cons other others => exact (ih others).cons_answered

theorem calls_records (context holder : String) (credentials : List Container) :
    calls (records context holder credentials) = credentials.map (.store context holder) := by
  unfold calls records
  rw [List.filterMap_map]
  exact congrFun List.filterMap_eq_map credentials

theorem succeed_records (context holder : String) (credentials : List Container) :
    Succeed (records context holder credentials) := by
  refine List.forall_mem_map.mpr fun credential _ => ?_
  rfl

/-- Every credential comes back from its registration, or the first failure ends the round. -/
theorem runs_registerEach {context : String} {next : List Container → Task State Submission}
    (runs : (registerEach context made next).Runs events reply) :
    (∃ back late, back.length = made.length ∧
      events = registrations context made back ++ late ∧ (next back).Runs late reply) ∨
    (Breaks events reply ∧ calls events <+: made.map (.register context)) := by
  induction made generalizing next events with
  | nil => exact .inl ⟨[], events, rfl, rfl, runs⟩
  | cons credential rest ih =>
    obtain ⟨response, later, rfl, ⟨value, rfl, leads⟩ | ⟨fails, rfl⟩⟩ := runs_askFor_iff.mp runs
    · rcases ih leads with ⟨back, late, same, rfl, ends⟩ | ⟨breaks, planned⟩
      · exact .inl ⟨value :: back, late, congrArg (· + 1) same, rfl, ends⟩
      · exact .inr ⟨breaks.cons_answered, List.cons_prefix_cons.mpr ⟨rfl, planned⟩⟩
    · exact .inr ⟨.at_once fails, List.cons_prefix_cons.mpr ⟨rfl, List.nil_prefix⟩⟩

/-- Every credential is recorded, or the first failure ends the round. -/
theorem runs_storeEach {context holder : String} {next : Task State Submission}
    (runs : (storeEach context holder back next).Runs events reply) :
    (∃ late, events = records context holder back ++ late ∧ next.Runs late reply) ∨
    (Breaks events reply ∧ calls events <+: back.map (.store context holder)) := by
  induction back generalizing events with
  | nil => exact .inl ⟨events, rfl, runs⟩
  | cons credential rest ih =>
    obtain ⟨response, later, rfl, ⟨value, rfl, leads⟩ | ⟨fails, rfl⟩⟩ := runs_askFor_iff.mp runs
    · rcases ih leads with ⟨late, rfl, ends⟩ | ⟨breaks, planned⟩
      · exact .inl ⟨late, rfl, ends⟩
      · exact .inr ⟨breaks.cons_answered, List.cons_prefix_cons.mpr ⟨rfl, planned⟩⟩
    · exact .inr ⟨.at_once fails, List.cons_prefix_cons.mpr ⟨rfl, List.nil_prefix⟩⟩

/-- Nothing but the first two rounds. -/
theorem inOrder_of_early
    (early : calls events <+:
      making submission orders :: registering submission (generated events)) :
    InOrder submission orders events where
  planned := early.trans (List.prefix_append _ _)
  delivers _ _ _ listed := by
    rcases List.mem_cons.mp (early.subset listed) with same | listed
    · cases same
    · obtain ⟨_, _, same⟩ := List.mem_map.mp listed
      cases same
  records _ _ _ listed := by
    rcases List.mem_cons.mp (early.subset listed) with same | listed
    · cases same
    · obtain ⟨_, _, same⟩ := List.mem_map.mp listed
      cases same

/-- No credential comes back while credentials are recorded. -/
theorem registered_of_recording (follows : calls late <+: recording submission back) :
    registered late = [] := by
  refine List.filterMap_eq_nil_iff.mpr fun event listed => ?_
  cases event with
  | called request response =>
    have made : request ∈ calls late := Work.mem_calls_iff.mpr ⟨response, listed⟩
    obtain ⟨_, _, rfl⟩ := List.mem_map.mp (follows.subset made)
    rfl
  | read _ | logged _ => rfl

section Delivery

variable (submission) (orders)

/-- The events of an issuance whose first two rounds are over, with the response to the delivery. -/
def delivery (made back : List Container) (response : Response (delivering submission back))
    (late : List (Event Call Response)) : List (Event Call Response) :=
  .called (making submission orders) (.answered made) ::
    registrations submission.participantContext made back ++
      .called (delivering submission back) response :: late

variable {response : Response (delivering submission back)} (same : back.length = made.length)

include same

theorem calls_delivery :
    calls (delivery submission orders made back response late) =
      making submission orders :: registering submission made ++
        delivering submission back :: calls late := by
  show _ :: calls (registrations _ _ _ ++ _ :: late) = _
  rw [Work.calls_append, calls_registrations _ same]
  rfl

variable (follows : calls late <+: recording submission back)

include follows

theorem registered_delivery :
    registered (delivery submission orders made back response late) = back := by
  show registered (registrations _ _ _ ++ _ :: late) = back
  unfold registered
  rw [List.filterMap_append]
  show registered (registrations _ _ _) ++ registered late = back
  rw [registered_registrations _ same, registered_of_recording follows, List.append_nil]

/-- What comes third and fourth is in order. -/
theorem inOrder_delivery (stops : late = [] ∨ response = .answered ()) :
    InOrder submission orders (delivery submission orders made back response late) := by
  have isBack : registered (delivery submission orders made back response late) = back :=
    registered_delivery submission orders same follows
  have cases_of_listed : ∀ {call : Call},
      call ∈ calls (delivery submission orders made back response late) →
        call = making submission orders ∨
          (∃ context credential, call = .register context credential) ∨
          call = delivering submission back ∨ call ∈ calls late := by
    intro call listed
    rw [calls_delivery submission orders same] at listed
    rcases List.mem_append.mp listed with early | listed
    · rcases List.mem_cons.mp early with is | early
      · exact .inl is
      · obtain ⟨credential, _, is⟩ := List.mem_map.mp early
        exact .inr (.inl ⟨_, credential, is.symm⟩)
    · exact .inr (.inr (List.mem_cons.mp listed))
  constructor
  case planned =>
    rw [calls_delivery submission orders same, isBack]
    exact (List.prefix_append_right_inj _).mpr (List.cons_prefix_cons.mpr ⟨rfl, follows⟩)
  case delivers =>
    intro holder request credentials listed
    rw [isBack]
    refine ⟨?_, same, List.mem_cons_self⟩
    rcases cases_of_listed listed with is | ⟨_, _, is⟩ | is | listed
    · cases is
    · cases is
    · cases is
      rfl
    · obtain ⟨_, _, is⟩ := List.mem_map.mp (follows.subset listed)
      cases is
  case records =>
    intro context holder credential listed
    rw [isBack]
    rcases cases_of_listed listed with is | ⟨_, _, is⟩ | is | listed
    · cases is
    · cases is
    · cases is
    · obtain ⟨_, stored, is⟩ := List.mem_map.mp (follows.subset listed)
      cases is
      refine ⟨stored, ?_⟩
      rcases stops with rfl | rfl
      · exact absurd listed List.not_mem_nil
      · exact List.mem_append_right _ List.mem_cons_self

end Delivery

/-- **The calls of an issuance follow the plan**, up to its end or to the first failure. -/
theorem inOrder_of_runs {entity : Entity State Submission}
    (ordered : entity.payload.orders = .ok orders)
    (runs : (issueCredentials entity).Runs events reply) :
    InOrder entity.payload orders events ∧
      ((Succeed events ∧
          calls events = plan entity.payload orders (generated events) (registered events) ∧
          reply = .decided (deliveredVerdict entity.payload (registered events))) ∨
        Breaks events reply) := by
  unfold issueCredentials at runs
  dsimp only at runs
  rw [ordered] at runs
  obtain ⟨response, later, rfl, ⟨made, rfl, registers⟩ | ⟨fails, rfl⟩⟩ := runs_askFor_iff.mp runs
  case inr =>
    exact ⟨inOrder_of_early (List.cons_prefix_cons.mpr ⟨rfl, List.nil_prefix⟩),
      .inr (.at_once fails)⟩
  rcases runs_registerEach registers with ⟨back, late, same, rfl, delivers⟩ | ⟨breaks, planned⟩
  case inr =>
    exact ⟨inOrder_of_early (List.cons_prefix_cons.mpr ⟨rfl, planned⟩), .inr breaks.cons_answered⟩
  have early : Succeed (.called (making entity.payload orders) (.answered made) ::
      registrations entity.payload.participantContext made back) :=
    (succeed_registrations _ made back).cons_answered
  obtain ⟨response, later, rfl, ⟨⟨⟩, rfl, stores⟩ | ⟨fails, rfl⟩⟩ := runs_askFor_iff.mp delivers
  case inr =>
    exact ⟨inOrder_delivery _ _ same List.nil_prefix (.inl rfl),
      .inr (.append early (.at_once fails))⟩
  rcases runs_storeEach stores with ⟨late, rfl, logs⟩ | ⟨breaks, planned⟩
  case inr =>
    exact ⟨inOrder_delivery _ _ same planned (.inr rfl), .inr (.append early breaks.cons_answered)⟩
  obtain ⟨_, rfl, ends⟩ := Work.runs_log_iff.mp logs
  obtain ⟨rfl, rfl⟩ := Work.runs_done_iff.mp ends
  have recorded : calls (records entity.payload.participantContext entity.payload.holder back ++
      [.logged (deliveredEntry entity back)]) = recording entity.payload back := by
    rw [Work.calls_append, calls_records]
    exact List.append_nil _
  have follows : calls (records entity.payload.participantContext entity.payload.holder back ++
      [.logged (deliveredEntry entity back)]) <+: recording entity.payload back :=
    recorded ▸ List.prefix_rfl
  have isBack : registered (delivery entity.payload orders made back (.answered ()) _) = back :=
    registered_delivery entity.payload orders same follows
  refine ⟨inOrder_delivery _ _ same follows (.inr rfl), .inl ⟨early.append ?_, ?_, ?_⟩⟩
  · exact ((succeed_records _ _ back).append (List.forall_mem_singleton.mpr rfl)).cons_answered
  · refine (calls_delivery entity.payload orders same).trans ?_
    rw [recorded]
    exact (congrArg (plan entity.payload orders made) isBack).symm
  · exact congrArg (fun credentials => Reply.decided (deliveredVerdict entity.payload credentials))
      isBack.symm

end Rounds

/-! ### Issuances -/

/-- How an issuance goes. A call that fails is made all the same, so all calls of the plan are made
also if only the last of them fails. -/
structure Issues (submission : Submission) (orders : List Order)
    (events : List (Event Call Response)) (reply : Reply State Submission) : Prop extends
    InOrder submission orders events where
  /-- All calls of the plan are made exactly if none but the last one fails. -/
  complete : calls events = plan submission orders (generated events) (registered events) ↔
    (plan submission orders (generated events) (registered events)).dropLast <+:
      calls (events.filter isDone)
  succeeds : Succeed events →
    calls events = plan submission orders (generated events) (registered events) ∧
      reply = .decided (.success .delivered
        { submission with delivered := (registered events).map (·.id) })
  /-- The last call is the one that failed, and the reply says how. -/
  fails : ¬Succeed events → Breaks events reply

/-- **Issuances call their partners in order, and stop at the first failure.** However the partners
behave, the handler of an approved entity comes to a reply. If a definition lacks its format, nobody
is called, and the first such definition is told. Otherwise the calls follow the plan; if all of
them succeed, they are the whole plan, and the payload then names what was delivered; if not, the
last one failed, which is what the reply tells. -/
theorem issues_in_order {entity : Entity State Submission}
    {handler : Handler State Submission Call Response}
    (handled : registry.handler? entity.state = some handler)
    (approved : entity.state = .approved) :
    (∀ oracle : Oracle Call Response, ∃ events reply,
      (handler entity).Runs events reply ∧ oracle.Gives [] events) ∧
    ((∃ orders, entity.payload.IsOrdered orders) ∨
      ∃ definition, entity.payload.Lacks definition) ∧
    ∀ events reply, (handler entity).Runs events reply →
      (∀ definition, entity.payload.Lacks definition → calls events = [] ∧
        reply = .decided
          (.fatal s!"no format requested for credential definition '{definition}'")) ∧
      ∀ orders, entity.payload.IsOrdered orders → Issues entity.payload orders events reply := by
  rw [approved] at handled
  obtain rfl : issueCredentials = handler := Option.some.inj handled
  refine ⟨fun oracle => Work.exists_runs oracle _ [], Submission.isOrdered_or_lacks _,
    fun events reply runs => ⟨fun definition lacks => ?_, fun orders ordered => ?_⟩⟩
  · unfold issueCredentials at runs
    dsimp only at runs
    rw [lacks.orders_eq] at runs
    obtain ⟨rfl, rfl⟩ := Work.runs_done_iff.mp runs
    exact ⟨rfl, rfl⟩
  · obtain ⟨inOrder, ⟨succeed, whole, delivered⟩ | breaks⟩ := inOrder_of_runs ordered.orders_eq runs
    · refine ⟨inOrder, ?_, fun _ => ⟨whole, delivered⟩, absurd succeed⟩
      rw [List.filter_eq_self.mpr succeed, whole]
      exact iff_of_true rfl (List.dropLast_prefix _)
    · exact ⟨inOrder, breaks.calls_eq_iff inOrder.planned,
        fun succeed => absurd succeed breaks.not_succeed, fun _ => breaks⟩

/-! ### A list that is busy -/

section Busy

/-- An approved submission for one credential. -/
def approvedDegree : Entity State Submission :=
  .fresh "1" .approved ⟨"issuer", "holder", "request", ["degree"],
    Dictionary.empty.insert "degree" .vcJwt, .null, []⟩ .empty Instant.epoch

/-- The first credential comes back from its registration, the second does not. -/
def busyList : List (Event Call Response) :=
  [.called (making approvedDegree.payload [⟨"degree", .vcJwt⟩])
      (.answered [⟨"1", .vcJwt, "one"⟩, ⟨"2", .vcJwt, "two"⟩]),
    .called (.register "issuer" ⟨"1", .vcJwt, "one"⟩) (.answered ⟨"1", .vcJwt, "listed"⟩),
    .called (.register "issuer" ⟨"2", .vcJwt, "two"⟩) (.transient "busy")]

/-- An issuance stops when the status list is busy. It is tried again, and nothing was delivered. -/
theorem issues_in_order_busy :
    ∃ handler, registry.handler? approvedDegree.state = some handler ∧
      (handler approvedDegree).Runs busyList
        (.decided (.retry "add credential to status list: busy")) ∧
      Issues approvedDegree.payload [⟨"degree", .vcJwt⟩] busyList
        (.decided (.retry "add credential to status list: busy")) := by
  have runs : (issueCredentials approvedDegree).Runs busyList
      (.decided (.retry "add credential to status list: busy")) := .call (.call (.call .stays))
  have handled : registry.handler? approvedDegree.state = some issueCredentials := rfl
  obtain ⟨_, _, goes⟩ := issues_in_order handled rfl
  refine ⟨issueCredentials, handled, runs, (goes _ _ runs).2 _ ⟨rfl, ?_⟩⟩
  exact List.forall_mem_singleton.mpr rfl

/-- The only credential is made, registered and delivered, but the record of it is lost. -/
def lostRecord : List (Event Call Response) :=
  [.called (making approvedDegree.payload [⟨"degree", .vcJwt⟩])
      (.answered [⟨"1", .vcJwt, "one"⟩]),
    .called (.register "issuer" ⟨"1", .vcJwt, "one"⟩) (.answered ⟨"1", .vcJwt, "listed"⟩),
    .called (delivering approvedDegree.payload [⟨"1", .vcJwt, "listed"⟩]) (.answered ()),
    .called (.store "issuer" "holder" ⟨"1", .vcJwt, "listed"⟩) (.transient "down")]

/-- **All calls of the plan may be made although one of them fails**: the last one. -/
theorem complete_despite_failure :
    ∃ handler, registry.handler? approvedDegree.state = some handler ∧
      approvedDegree.payload.IsOrdered [⟨"degree", .vcJwt⟩] ∧
      (handler approvedDegree).Runs lostRecord
        (.decided (.retry "store credential: down")) ∧
      ¬(calls lostRecord = plan approvedDegree.payload [⟨"degree", .vcJwt⟩]
          (generated lostRecord) (registered lostRecord) ↔ Succeed lostRecord) := by
  refine ⟨issueCredentials, rfl, ⟨rfl, List.forall_mem_singleton.mpr rfl⟩,
    .call (.call (.call (.call .stays))), fun same => ?_⟩
  have succeed : Succeed lostRecord := same.mp rfl
  have answered := succeed (.called (.store "issuer" "holder" ⟨"1", .vcJwt, "listed"⟩)
    (.transient "down")) (by simp [lostRecord])
  cases answered

end Busy

end Leasehold.Credential.Issuance
