import DshRemote.Backend.Eligibility
import DshRemote.Backend.Writes

/-! # Standing down

A request is shown to the targets it is routed to, and to everybody who attaches to
its session while it is pending. When it closes, the targets left are told. -/

namespace DshRemote

/-- The notification an interaction is requested with. -/
def PendingInteraction.request : PendingInteraction → Notification
  | .approval request => .approvalRequest request
  | .question request => .questionRequest request

namespace Backend

namespace Daemon

/-! ## How a request is settled -/

/-- What settles a request and tells the losers. -/
structure Settlement where
  environment : Environment
  requestId : String
  winner : Option ClientId
  closed : Notification

def approvalSettlement : DaemonEvent → Option Settlement
  | .request environment clientId (.approvalAnswer params) =>
      some ⟨environment.toEnvironment, params.requestId, some clientId,
        .approvalClosed params.requestId params.decision (some clientId)⟩
  | _ => none

def questionSettlement : DaemonEvent → Option Settlement
  | .request environment clientId (.questionAnswer params) =>
      some ⟨environment.toEnvironment, params.questionId, some clientId,
        .questionClosed params.questionId (some params.answers) (some clientId)⟩
  | .aborted environment questionId =>
      some ⟨environment, questionId, none, .questionClosed questionId none none⟩
  | _ => none

def closesApproval (requestId : String) : Notification → Bool
  | .approvalClosed closed _ _ => closed = requestId
  | _ => false

def closesQuestion (questionId : String) : Notification → Bool
  | .questionClosed closed _ _ => closed = questionId
  | _ => false

section Table

variable {Params : Type} (identity : Params → String) (table : Daemon → PendingTable Params)
variable (raises : DaemonEvent → Option (String × Option SessionId))
variable (settlement : DaemonEvent → Option Settlement) (shows : Params → Notification)
variable (closes : String → Notification → Bool)

/-- What the two bridges have in common in showing and closing a request. -/
structure StandsDown : Prop where
  settled : ∀ {daemon : Daemon} {event : DaemonEvent} {id : String}
    {pending : Outstanding Params}, (table daemon).get id = some pending →
      (table (daemon.perform event).1).get id = none →
        (∃ settles, settlement event = some settles ∧ closes id settles.closed = true ∧
          (daemon.perform event).2.sent = daemon.broker.notifyLosers settles.environment
            pending.targets settles.winner settles.closed ∧
          ∀ clientId, settles.winner = some clientId → clientId ∈ pending.targets) ∨
        ∃ clientId, event.closing = some clientId ∧ pending.Orphaned clientId
  stays : ∀ {event : DaemonEvent} {settles : Settlement}, settlement event = some settles →
    event.closing = none ∧ ∀ {daemon : Daemon} {clientId : ClientId},
      clientId ∈ (daemon.perform event).1.broker.connections →
        clientId ∈ daemon.broker.connections
  closing : ∀ {daemon : Daemon} {event : DaemonEvent} {id : String} {message : Sent},
    message ∈ (daemon.perform event).2.sent → closes id message.notification = true →
      (table daemon).get id ≠ none ∧ (table (daemon.perform event).1).get id = none
  notOfBroker : ∀ {id : String} {notification : Notification},
    closes id notification = true → notification.ofBroker ≠ true
  showing : ∀ {daemon : Daemon} {event : DaemonEvent} {clientId : ClientId} {params : Params},
    ⟨clientId, shows params⟩ ∈ (daemon.perform event).2.sent →
      ∃ attributed, raises event = some (identity params, attributed) ∧
        clientId ∈ daemon.broker.routedTo attributed

/-- How often a run tells a client that a request is closed. -/
def closings (start : Daemon) (events : List DaemonEvent) (clientId : ClientId)
    (id : String) : Nat :=
  (Execution.observed step (fun daemon event => (daemon.perform event).2.sent) start
    events).countP fun message =>
      message.clientId = clientId ∧ closes id message.notification = true

variable {identity table raises settlement shows closes}

/-- An id that was handed out and is no longer pending never comes back. -/
theorem FilledBy.gone_run (filled : FilledBy identity table raises) {daemon finish : Daemon}
    {events : List DaemonEvent} {id : String} (issued : id ∈ daemon.issued)
    (gone : (table daemon).get id = none)
    (reached : Execution.run step daemon events = some finish) :
    (table finish).get id = none := by
  have both : id ∈ finish.issued ∧ (table finish).get id = none := by
    refine Execution.reachable_invariant
      (fun state => id ∈ state.issued ∧ (table state).get id = none) ?_ ⟨issued, gone⟩ reached
    intro before event after holds stepped
    rcases step_eq_some stepped with ⟨possible, rfl⟩
    refine ⟨?_, ?_⟩
    · rw [(ids_perform before event).1]
      split <;> simp [holds.1]
    · rw [Option.eq_none_iff_forall_ne_some]
      intro pending found
      rcases filled.moves found with ⟨earlier, present, _⟩ | ⟨attributed, _, raising, _, _⟩
      · rw [holds.2] at present
        cases present
      · exact (filled.raising raising possible).1 holds.1
  exact both.2

theorem StandsDown.closings_eq_zero
    (standsDown : StandsDown identity table raises settlement shows closes) {start : Daemon}
    {events : List DaemonEvent} {id : String}
    (kept : ∀ first event rest state, events = first ++ event :: rest →
      Execution.run step start first = some state → (table state).get id = none ∨
        (table (state.perform event).1).get id ≠ none) (clientId : ClientId) :
    closings closes start events clientId id = 0 := by
  apply List.countP_eq_zero.mpr
  intro message member counted
  rcases Execution.exists_of_mem_observed member with
    ⟨first, event, rest, state, split, reached, seen⟩
  rcases standsDown.closing seen (of_decide_eq_true counted).2 with ⟨before, after⟩
  rcases kept first event rest state split reached with absent | present
  · exact before absent
  · exact present after

/-- A client that was shown a request and is there when it is settled wins or is told,
once in the whole run, exactly when the request had been routed to it and the call of
its `notify` returns. -/
theorem StandsDown.winsOrTold_iff (filled : FilledBy identity table raises)
    (standsDown : StandsDown identity table raises settlement shows closes)
    {sessions : OrderedMap SessionId HostSession} {agents : OrderedMap SessionId AgentStatus}
    {extras : SessionBrokerExtras} {failClosed : Bool} {daemon finish : Daemon}
    {past rest : List DaemonEvent} {event : DaemonEvent}
    (pastReached : Execution.run step (init sessions agents extras failClosed) past =
      some daemon)
    (reached : Execution.run step daemon (event :: rest) = some finish) {id : String}
    {pending : Outstanding Params} (found : (table daemon).get id = some pending)
    (gone : (table (daemon.perform event).1).get id = none) {clientId : ClientId}
    (connected : clientId ∈ (daemon.perform event).1.broker.connections)
    (raised : ∃ attributed state,
      RaisedIn raises (init sessions agents extras failClosed) past id attributed state) :
    ((∃ settles, settlement event = some settles ∧ settles.winner = some clientId) ∨
        closings closes (init sessions agents extras failClosed) (past ++ event :: rest)
          clientId id = 1) ↔
      (∃ attributed state,
        RaisedIn raises (init sessions agents extras failClosed) past id attributed state ∧
          clientId ∈ state.broker.routedTo attributed) ∧
      ∃ settles, settlement event = some settles ∧
        (settles.winner = some clientId ∨
          settles.environment.delivers clientId settles.closed = true) := by
  have traced := reachable_traced filled pastReached
  rw [Execution.run_cons] at reached
  rcases Option.bind_eq_some_iff.mp reached with ⟨next, stepped, restReached⟩
  have stepTaken := stepped
  rcases step_eq_some stepped with ⟨possible, rfl⟩
  rcases raised with ⟨attributed, raisedAt, raised⟩
  rcases traced.past raised with ⟨issued, _, _⟩
  have issuedLater : id ∈ (daemon.perform event).1.issued := by
    rw [(ids_perform daemon event).1]
    split <;> simp [issued]
  -- Only this event can close the request: it is pending until then, and gone afterwards.
  have before : closings closes (init sessions agents extras failClosed) past clientId id =
      0 := by
    apply standsDown.closings_eq_zero
    intro first other later state split stateReached
    by_cases absent : (table state).get id = none
    · exact Or.inl absent
    · refine Or.inr fun settled => ?_
      rcases Option.ne_none_iff_exists'.mp absent with ⟨earlier, present⟩
      have early := reachable_traced filled stateReached
      rcases early.entry present with ⟨_, _, _, raisedEarly⟩
      have whole := pastReached
      rw [split, Execution.run_append, stateReached, Option.bind_some, Execution.run_cons]
        at whole
      rcases Option.bind_eq_some_iff.mp whole with ⟨after, otherStepped, lastReached⟩
      rcases step_eq_some otherStepped with ⟨_, rfl⟩
      have stillIssued : id ∈ (state.perform other).1.issued := by
        rw [(ids_perform state other).1]
        split <;> simp [(early.past raisedEarly).1]
      rw [filled.gone_run stillIssued settled lastReached] at found
      cases found
  have after : closings closes (daemon.perform event).1 rest clientId id = 0 := by
    apply standsDown.closings_eq_zero
    intro first other later state split stateReached
    exact Or.inl (filled.gone_run issuedLater gone stateReached)
  have once : closings closes (init sessions agents extras failClosed)
      (past ++ event :: rest) clientId id =
        (daemon.perform event).2.sent.countP fun message =>
          message.clientId = clientId ∧ closes id message.notification = true := by
    simp only [closings] at before after ⊢
    rw [Execution.observed_append _ pastReached, Execution.observed_cons _ stepTaken,
      List.countP_append, List.countP_append, before, after, Nat.zero_add, Nat.add_zero]
  have routedOf : clientId ∈ pending.targets → ∃ attributed state,
      RaisedIn raises (init sessions agents extras failClosed) past id attributed state ∧
        clientId ∈ state.broker.routedTo attributed := fun target =>
    ⟨attributed, raisedAt, raised, (((traced.past raised).2.2 pending found clientId).mp target).1⟩
  rw [once]
  constructor
  · intro winsOrTold
    rcases standsDown.settled found gone with
      ⟨settles, settled, _, sent, winnerTarget⟩ | ⟨left, closing, orphaned⟩
    · rcases winsOrTold with ⟨other, isSettlement, wins⟩ | told
      · cases settled.symm.trans isSettlement
        exact ⟨routedOf (winnerTarget clientId wins), settles, settled, Or.inl wins⟩
      · have positive : 0 < (daemon.perform event).2.sent.countP fun message =>
            message.clientId = clientId ∧ closes id message.notification = true := by omega
        rcases List.countP_pos_iff.mp positive with ⟨message, member, counted⟩
        rcases of_decide_eq_true counted with ⟨rfl, _⟩
        rw [sent] at member
        rcases SessionBroker.mem_notifyLosers member with ⟨_, target, _, delivered⟩
        exact ⟨routedOf target, settles, settled, Or.inr delivered⟩
    · exfalso
      rcases winsOrTold with ⟨other, isSettlement, _⟩ | told
      · rw [(standsDown.stays isSettlement).1] at closing
        cases closing
      · have positive : 0 < (daemon.perform event).2.sent.countP fun message =>
            message.clientId = clientId ∧ closes id message.notification = true := by omega
        rcases List.countP_pos_iff.mp positive with ⟨message, member, counted⟩
        have closed := (of_decide_eq_true counted).2
        cases event with
        | closed environment other =>
            cases writes_perform member with
            | ofBroker own => exact standsDown.notOfBroker closed own
        | _ => cases closing
  · rintro ⟨⟨attributedThen, stateThen, raisedThen, routed⟩, settles, settled, wins | delivered⟩
    · exact Or.inl ⟨settles, settled, wins⟩
    · by_cases wins : settles.winner = some clientId
      · exact Or.inl ⟨settles, settled, wins⟩
      · right
        have stays := standsDown.stays settled
        have there := stays.2 connected
        have target := ((traced.past raisedThen).2.2 pending found clientId).mpr ⟨routed, there⟩
        rcases standsDown.settled found gone with
          ⟨other, isSettlement, closed, sent, _⟩ | ⟨left, closing, _⟩
        · cases settled.symm.trans isSettlement
          rw [sent]
          apply SessionBroker.countP_notifyLosers target there (Ne.symm wins) delivered
          intro someone
          simp [closed]
        · rw [stays.1] at closing
          cases closing

end Table

/-! ## The two bridges -/

theorem standsDown_approval : StandsDown ApprovalRequestParams.requestId
    (fun daemon => daemon.approval.pending) raisesApproval approvalSettlement
    .approvalRequest closesApproval where
  settled := by
    intro daemon event id pending found gone
    have moved := approval_moves daemon event
    generalize (daemon.perform event).1.approval = bridge at gone moved
    cases moved with
    | kept | unroutable | resumed => cases found.symm.trans gone
    | @answered environment winner params other present target =>
        by_cases same : id = params.requestId
        · subst same
          cases found.symm.trans present
          refine Or.inl ⟨_, rfl, by simp [closesApproval],
            sent_approvalAnswer found target, ?_⟩
          intro clientId wins
          cases wins
          exact target
        · simp only [OrderedMap.get_delete, if_neg same] at gone
          cases found.symm.trans gone
    | @dropped environment clientId =>
        refine Or.inr ⟨clientId, rfl, ?_⟩
        by_contra survives
        simp [PendingTable.get_dropClient, found, Option.filter, survives] at gone
    | raised routed =>
        simp only [OrderedMap.get_set] at gone
        split at gone
        · cases gone
        · cases found.symm.trans gone
  stays := by
    intro event settles settled
    cases event with
    | request environment clientId request =>
        exact ⟨rfl, fun member => (mem_connections_perform _ _ _).mp member⟩
    | _ => cases settled
  closing := by
    intro daemon event id message member closes
    rcases message with ⟨clientId, notification⟩
    cases writes_perform member with
    | ofBroker own => cases notification <;> first | cases closes | cases own
    | approvalShown | questionShown | questionClosed | questionWithdrawn => cases closes
    | @approvalClosed environment winner _ params pending found target =>
        cases of_decide_eq_true closes
        refine ⟨fun absent => (by cases found.symm.trans absent), ?_⟩
        simp [perform, serve, ApprovalBridge.answer_eq found target,
          ApprovalBridge.settle_eq found]
  notOfBroker := by
    intro id notification closes own
    cases notification <;> first | cases closes | cases own
  showing := by
    intro daemon event clientId params member
    cases writes_perform member with
    | ofBroker own => cases own
    | approvalShown routed => exact ⟨_, rfl, routed⟩

theorem standsDown_question : StandsDown QuestionRequestParams.questionId
    (fun daemon => daemon.question.pending) raisesQuestion questionSettlement
    .questionRequest closesQuestion where
  settled := by
    intro daemon event id pending found gone
    have moved := question_moves daemon event
    generalize (daemon.perform event).1.question = bridge at gone moved
    cases moved with
    | kept stays => cases found.symm.trans gone
    | @answered environment winner params other present target =>
        by_cases same : id = params.questionId
        · subst same
          cases found.symm.trans present
          refine Or.inl ⟨_, rfl, by simp [closesQuestion],
            sent_questionAnswer found target, ?_⟩
          intro clientId wins
          cases wins
          exact target
        · simp only [OrderedMap.get_delete, if_neg same] at gone
          cases found.symm.trans gone
    | @withdrawn environment questionId other present listening =>
        by_cases same : id = questionId
        · subst same
          cases found.symm.trans present
          refine Or.inl ⟨_, rfl, by simp [closesQuestion], sent_aborted listening found, ?_⟩
          intro clientId wins
          cases wins
        · simp only [OrderedMap.get_delete, if_neg same] at gone
          cases found.symm.trans gone
    | @dropped environment clientId =>
        refine Or.inr ⟨clientId, rfl, ?_⟩
        rw [QuestionBridge.pending_disconnect] at gone
        by_contra survives
        simp [PendingTable.get_dropClient, found, Option.filter, survives] at gone
    | raised routed listening =>
        simp only [OrderedMap.get_set] at gone
        split at gone
        · cases gone
        · cases found.symm.trans gone
  stays := by
    intro event settles settled
    cases event with
    | request environment clientId request =>
        exact ⟨rfl, fun member => (mem_connections_perform _ _ _).mp member⟩
    | aborted environment questionId =>
        exact ⟨rfl, fun member => (mem_connections_perform _ _ _).mp member⟩
    | _ => cases settled
  closing := by
    intro daemon event id message member closes
    rcases message with ⟨clientId, notification⟩
    cases writes_perform member with
    | ofBroker own => cases notification <;> first | cases closes | cases own
    | approvalShown | questionShown | approvalClosed => cases closes
    | @questionClosed environment winner _ params pending found target =>
        cases of_decide_eq_true closes
        refine ⟨fun absent => (by cases found.symm.trans absent), ?_⟩
        simp [perform, serve, QuestionBridge.answer_eq found target, QuestionBridge.settle,
          QuestionBridge.close_eq found]
    | @questionWithdrawn environment questionId _ pending listening found =>
        cases of_decide_eq_true closes
        refine ⟨fun absent => (by cases found.symm.trans absent), ?_⟩
        simp [perform, QuestionBridge.abort, listening, found, QuestionBridge.withdraw,
          QuestionBridge.close_eq found]
  notOfBroker := by
    intro id notification closes own
    cases notification <;> first | cases closes | cases own
  showing := by
    intro daemon event clientId params member
    cases writes_perform member with
    | ofBroker own => cases own
    | questionShown routed => exact ⟨_, rfl, routed⟩

/-- The event shows the interaction to the client: by the request notification, or
listed in the result of an attach. -/
def ShowsTo (daemon : Daemon) (event : DaemonEvent) (clientId : ClientId)
    (interaction : PendingInteraction) : Prop :=
  ⟨clientId, interaction.request⟩ ∈ (daemon.perform event).2.sent ∨
  ∃ environment params result, event = .request environment clientId (.attach params) ∧
    (daemon.attach environment clientId params).result = .ok result ∧
    interaction ∈ result.pendingInteractions.getD []

def WasShown (start : Daemon) (past : List DaemonEvent) (clientId : ClientId)
    (interaction : PendingInteraction) : Prop :=
  ∃ first event rest state, past = first ++ event :: rest ∧
    Execution.run step start first = some state ∧ state.ShowsTo event clientId interaction

/-- How the event settles an interaction of that kind and tells the losers, if it does. -/
def settlementOf : PendingInteraction → DaemonEvent → Option Settlement
  | .approval _ => approvalSettlement
  | .question _ => questionSettlement

/-- The client gave the answer the event settles the interaction with. -/
def Wins (event : DaemonEvent) (clientId : ClientId) (interaction : PendingInteraction) : Prop :=
  ∃ settles, settlementOf interaction event = some settles ∧ settles.winner = some clientId

/-- The call of the client's `notify` with the closed notification returns. -/
def Reached (event : DaemonEvent) (clientId : ClientId) (interaction : PendingInteraction) :
    Prop :=
  ∃ settles, settlementOf interaction event = some settles ∧
    settles.environment.delivers clientId settles.closed = true

/-- How often a run sends the client the interaction's closed notification. -/
def timesClosed (start : Daemon) (events : List DaemonEvent) (clientId : ClientId) :
    PendingInteraction → Nat
  | .approval request => closings closesApproval start events clientId request.requestId
  | .question request => closings closesQuestion start events clientId request.questionId

theorem WasShown.raised {sessions : OrderedMap SessionId HostSession}
    {agents : OrderedMap SessionId AgentStatus} {extras : SessionBrokerExtras}
    {failClosed : Bool} {past : List DaemonEvent} {clientId : ClientId}
    {interaction : PendingInteraction}
    (shown : WasShown (init sessions agents extras failClosed) past clientId interaction) :
    match interaction with
    | .approval request => ∃ attributed state, RaisedIn raisesApproval
        (init sessions agents extras failClosed) past request.requestId attributed state
    | .question request => ∃ attributed state, RaisedIn raisesQuestion
        (init sessions agents extras failClosed) past request.questionId attributed state := by
  rcases shown with ⟨first, event, rest, state, rfl, reached, shows⟩
  rcases shows with notified | ⟨environment, params, result, rfl, answered, listed⟩
  · cases interaction with
    | approval request =>
        rcases standsDown_approval.showing notified with ⟨attributed, raising, _⟩
        exact ⟨attributed, state, first, event, rest, rfl, reached, raising⟩
    | question request =>
        rcases standsDown_question.showing notified with ⟨attributed, raising, _⟩
        exact ⟨attributed, state, first, event, rest, rfl, reached, raising⟩
  · have raised := raised_of_listed (reachable_traced filledBy_approval reached)
      (reachable_traced filledBy_question reached) answered listed
    cases interaction with
    | approval | question =>
        rcases raised with ⟨attributed, raisedAt, raised⟩
        exact ⟨attributed, raisedAt, raised.snoc _⟩

/-- In every run: an interaction was shown to a client, an event settles it, and the
client is still connected. It gave the winning answer or is told once in the whole run
exactly when the interaction had been routed to it when it was raised and, unless it
won, its `notify` returns. -/
theorem shown_winsOrTold_iff (sessions : OrderedMap SessionId HostSession)
    (agents : OrderedMap SessionId AgentStatus) (extras : SessionBrokerExtras)
    (failClosed : Bool) (past rest : List DaemonEvent) (event : DaemonEvent)
    (daemon finish : Daemon) (clientId : ClientId) (interaction : PendingInteraction)
    (pastReached : Execution.run step (init sessions agents extras failClosed) past =
      some daemon)
    (reached : Execution.run step daemon (event :: rest) = some finish)
    (shown : WasShown (init sessions agents extras failClosed) past clientId interaction)
    (pending : daemon.IsPending interaction)
    (settled : ¬(daemon.perform event).1.IsPending interaction)
    (connected : clientId ∈ (daemon.perform event).1.broker.connections) :
    (Wins event clientId interaction ∨
        timesClosed (init sessions agents extras failClosed) (past ++ event :: rest) clientId
          interaction = 1) ↔
      WasRouted (init sessions agents extras failClosed) past clientId interaction ∧
        (Wins event clientId interaction ∨ Reached event clientId interaction) := by
  have raised := shown.raised
  have merged : (Wins event clientId interaction ∨ Reached event clientId interaction) ↔
      ∃ settles, settlementOf interaction event = some settles ∧
        (settles.winner = some clientId ∨
          settles.environment.delivers clientId settles.closed = true) := by
    simp only [Wins, Reached, ← exists_or, ← and_or_left]
  rw [merged]
  cases interaction with
  | approval request =>
      rcases pending with ⟨pending, found⟩
      have gone : (daemon.perform event).1.approval.pending.get request.requestId = none := by
        rw [Option.eq_none_iff_forall_ne_some]
        exact fun after still => settled ⟨after, still⟩
      exact standsDown_approval.winsOrTold_iff filledBy_approval pastReached reached found gone
        connected raised
  | question request =>
      rcases pending with ⟨pending, found⟩
      have gone : (daemon.perform event).1.question.pending.get request.questionId = none := by
        rw [Option.eq_none_iff_forall_ne_some]
        exact fun after still => settled ⟨after, still⟩
      exact standsDown_question.winsOrTold_iff filledBy_question pastReached reached found gone
        connected raised

/-- Two readers of a session are sent an approval request. -/
def readersAsked : List DaemonEvent :=
  [.connect "a", .connect "b",
    .request {} "a" (.attach { sessionId := "s", mode := .read }),
    .request {} "b" (.attach { sessionId := "s", mode := .read }),
    .approvalRequested {} "r" { sessionId := some "s", kind := "exec", summary := "" }]

/-- One of them approves, and the other one is told. -/
theorem shown_winsOrTold_reader :
    ∃ daemon finish, Execution.run step (init liveSession .empty {} true) readersAsked =
        some daemon ∧
      Execution.run step daemon [.request {} "a"
        (.approvalAnswer { requestId := "r", decision := .approve })] = some finish ∧
      ((Wins (.request {} "a" (.approvalAnswer { requestId := "r", decision := .approve })) "b"
            askedRequest ∨
          timesClosed (init liveSession .empty {} true)
            (readersAsked ++ [.request {} "a"
              (.approvalAnswer { requestId := "r", decision := .approve })]) "b"
            askedRequest = 1) ↔
        WasRouted (init liveSession .empty {} true) readersAsked "b" askedRequest ∧
          (Wins (.request {} "a" (.approvalAnswer { requestId := "r", decision := .approve }))
              "b" askedRequest ∨
            Reached (.request {} "a"
              (.approvalAnswer { requestId := "r", decision := .approve })) "b"
              askedRequest)) := by
  have shown : WasShown (init liveSession .empty {} true) readersAsked "b" askedRequest :=
    ⟨readersAsked.take 4, .approvalRequested {} "r"
      { sessionId := some "s", kind := "exec", summary := "" }, [], _, rfl, rfl,
      Or.inl (by decide)⟩
  refine ⟨_, _, rfl, rfl, ?_⟩
  refine shown_winsOrTold_iff liveSession .empty {} true readersAsked [] _ _ _ "b" askedRequest
    rfl rfl shown ⟨_, rfl⟩ ?_ (by decide)
  rintro ⟨pending, found⟩
  cases found

/-- A client that attached while the request was pending was shown it; when the writer
answers, it has not answered and is never told. -/
theorem shown_neverTold :
    ∃ shownTo daemon settled,
      Execution.run step (init liveSession .empty {} true) writerAsked = some shownTo ∧
      Execution.run step shownTo
        [.request {} "b" (.attach { sessionId := "s", mode := .read })] = some daemon ∧
      shownTo.ShowsTo (.request {} "b" (.attach { sessionId := "s", mode := .read })) "b"
        askedRequest ∧
      daemon.IsPending askedRequest ∧
      daemon.step (.request {} "a" (.approvalAnswer { requestId := "r", decision := .approve })) =
        some settled ∧
      ¬settled.IsPending askedRequest ∧
      "b" ∈ settled.broker.connections ∧
      ¬Wins (.request {} "a" (.approvalAnswer { requestId := "r", decision := .approve })) "b"
        askedRequest ∧
      timesClosed (init liveSession .empty {} true)
        (writerAsked ++ [.request {} "b" (.attach { sessionId := "s", mode := .read }),
          .request {} "a" (.approvalAnswer { requestId := "r", decision := .approve })]) "b"
        askedRequest = 0 := by
  refine ⟨_, _, _, rfl, rfl, ?_, ⟨_, rfl⟩, rfl, ?_, by decide, ?_, by decide⟩
  · exact Or.inr ⟨{}, { sessionId := "s", mode := .read }, _, rfl, rfl, by decide⟩
  · rintro ⟨pending, found⟩
    cases found
  · rintro ⟨settles, settled, wins⟩
    cases settled
    exact absurd (Option.some.inj wins) (by decide)

end Daemon

end Backend

end DshRemote
