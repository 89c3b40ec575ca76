import DshRemote.Backend.PendingSteps

/-! # Who may answer

The targets of a request are fixed when it is raised and only shrink afterwards;
the list of pending requests shown at an attach ignores them. -/

namespace DshRemote.Backend

namespace SessionBroker

theorem mem_connections_of_routedTo {broker : SessionBroker} {attributed : Option SessionId}
    {clientId : ClientId} (member : clientId ∈ broker.routedTo attributed) :
    clientId ∈ broker.connections := by
  cases attributed with
  | none => exact member
  | some sessionId =>
      simp only [routedTo] at member
      split at member
      · next writer held =>
          rw [List.mem_singleton.mp member]
          simp only [writerOf] at held
          split at held
          · cases held
          · split at held
            · next connected =>
                cases held
                exact connected
            · cases held
      · simp only [attachedTo] at member
        split at member
        · cases member
        · exact of_decide_eq_true (List.mem_filter.mp member).2

theorem pendingInteractions_attach {environment : AttachEnvironment} {broker : SessionBroker}
    {clientId : ClientId} {params : SessionAttachParams}
    {given : Option (List PendingInteraction)} {result : SessionAttachResult}
    (answered : (broker.attach environment clientId params given).result = .ok result)
    {interaction : PendingInteraction}
    (listed : interaction ∈ result.pendingInteractions.getD []) :
    interaction ∈ given.getD [] := by
  have handedOn : ∀ (holding : SessionBroker) (session : HostSession),
      interaction ∈ (holding.attachResult params.sessionId session
        given).pendingInteractions.getD [] → interaction ∈ given.getD [] := by
    intro holding session
    rcases given with _ | _ | ⟨head, tail⟩ <;> exact id
  simp only [attach] at answered
  split at answered
  · cases answered
  · split at answered
    · cases answered
    · split at answered
      · cases answered
      · split at answered
        · cases answered
          exact handedOn _ _ listed
        · split at answered
          · cases answered
          · cases answered
            exact handedOn _ _ listed

end SessionBroker

namespace Daemon

/-! ## A table and the events that fill it -/

section Table

variable {Params : Type} (identity : Params → String) (table : Daemon → PendingTable Params)
variable (raises : DaemonEvent → Option (String × Option SessionId))

/-- What the two bridges have in common as tables of the daemon: an entry is there
already, or is raised under a new id with the targets of that moment. -/
structure FilledBy : Prop where
  moves : ∀ {daemon : Daemon} {event : DaemonEvent} {id : String} {after : Outstanding Params},
    (table (daemon.perform event).1).get id = some after →
      (∃ before, (table daemon).get id = some before ∧ after = before.across event) ∨
        ∃ attributed params, raises event = some (id, attributed) ∧
          after = .raised daemon.broker attributed params ∧ identity params = id
  event : ∀ {event : DaemonEvent} {id : String} {attributed : Option SessionId},
    raises event = some (id, attributed) →
      (∃ environment request, event = .approvalRequested environment id request) ∨
        ∃ environment request, event = .asked environment id request
  init : ∀ sessions agents extras failClosed,
    table (Daemon.init sessions agents extras failClosed) = .empty

/-- The events so far raised a request, in a given state. -/
def RaisedIn (start : Daemon) (past : List DaemonEvent) (id : String)
    (attributed : Option SessionId) (state : Daemon) : Prop :=
  ∃ first event rest, past = first ++ event :: rest ∧
    Execution.run step start first = some state ∧ raises event = some (id, attributed)

/-- Everything the past says about a table: an entry was raised, and its targets
are the clients it was routed to then that are still connected. -/
structure Traced (start : Daemon) (past : List DaemonEvent) (daemon : Daemon) : Prop where
  reached : Execution.run step start past = some daemon
  known : ∀ {clientId}, clientId ∈ daemon.broker.connections → clientId ∈ daemon.minted
  entry : ∀ {id pending}, (table daemon).get id = some pending →
    identity pending.params = id ∧
      ∃ attributed state, RaisedIn raises start past id attributed state
  past : ∀ {id attributed state}, RaisedIn raises start past id attributed state →
    id ∈ daemon.issued ∧
      (∀ clientId ∈ state.broker.routedTo attributed, clientId ∈ daemon.minted) ∧
      ∀ pending, (table daemon).get id = some pending → ∀ clientId,
        clientId ∈ pending.targets ↔
          clientId ∈ state.broker.routedTo attributed ∧ clientId ∈ daemon.broker.connections

/-- The targets of an entry are the clients it was routed to when it was raised, as long as they
are connected. -/
def SettledWhenRaised (start : Daemon) (past : List DaemonEvent) (daemon : Daemon) : Prop :=
  ∀ id pending, (table daemon).get id = some pending →
    ∃ attributed state, RaisedIn raises start past id attributed state ∧
      ∀ clientId, clientId ∈ pending.targets ↔
        clientId ∈ state.broker.routedTo attributed ∧ clientId ∈ daemon.broker.connections

variable {identity table raises}

theorem Traced.settled {start daemon : Daemon} {past : List DaemonEvent}
    (traced : Traced identity table raises start past daemon) :
    SettledWhenRaised table raises start past daemon := by
  intro id pending found
  rcases (traced.entry found).2 with ⟨attributed, state, raised⟩
  exact ⟨attributed, state, raised, (traced.past raised).2.2 pending found⟩

/-- An id is raised when it is new, and remembered; nobody joins or leaves then. -/
theorem FilledBy.raising (filled : FilledBy identity table raises) {daemon : Daemon}
    {event : DaemonEvent} {id : String} {attributed : Option SessionId}
    (raising : raises event = some (id, attributed)) (possible : daemon.Possible event) :
    id ∉ daemon.issued ∧ id ∈ (daemon.perform event).1.issued ∧
      ∀ clientId, clientId ∈ (daemon.perform event).1.broker.connections ↔
        clientId ∈ daemon.broker.connections := by
  have connections := fun clientId => mem_connections_perform daemon event clientId
  have issued := (ids_perform daemon event).1
  rcases filled.event raising with ⟨environment, request, rfl⟩ | ⟨environment, request, rfl⟩
  · exact ⟨possible, by rw [issued]; simp, connections⟩
  · exact ⟨possible, by rw [issued]; simp, connections⟩

theorem RaisedIn.snoc {start state : Daemon} {past : List DaemonEvent} {id : String}
    {attributed : Option SessionId} (raised : RaisedIn raises start past id attributed state)
    (later : List DaemonEvent) : RaisedIn raises start (past ++ later) id attributed state := by
  rcases raised with ⟨first, event, rest, split, reached, raising⟩
  exact ⟨first, event, rest ++ later, by simp [split], reached, raising⟩

theorem RaisedIn.cases_snoc {start state last : Daemon} {past : List DaemonEvent}
    {event : DaemonEvent} {id : String} {attributed : Option SessionId}
    (reached : Execution.run step start past = some last)
    (raised : RaisedIn raises start (past ++ [event]) id attributed state) :
    RaisedIn raises start past id attributed state ∨
      state = last ∧ raises event = some (id, attributed) := by
  rcases raised with ⟨first, raising, rest, split, stateReached, raisesIt⟩
  rcases List.eq_nil_or_concat rest with rfl | ⟨front, final, rfl⟩
  · rcases List.append_inj' split rfl with ⟨rfl, same⟩
    cases same
    exact Or.inr ⟨Option.some.inj (stateReached.symm.trans reached), raisesIt⟩
  · have before : past ++ [event] = (first ++ raising :: front) ++ [final] := by
      simpa using split
    rcases List.append_inj' before rfl with ⟨rfl, _⟩
    exact Or.inl ⟨first, raising, front, rfl, stateReached, raisesIt⟩

theorem mem_targets_across {daemon : Daemon} {event : DaemonEvent}
    {before : Outstanding Params} {routed : List ClientId} (possible : daemon.Possible event)
    (known : ∀ clientId ∈ routed, clientId ∈ daemon.minted)
    (targets : ∀ clientId, clientId ∈ before.targets ↔
      clientId ∈ routed ∧ clientId ∈ daemon.broker.connections) (clientId : ClientId) :
    clientId ∈ (before.across event).targets ↔
      clientId ∈ routed ∧ clientId ∈ (daemon.perform event).1.broker.connections := by
  rw [mem_connections_perform]
  cases event with
  | connect joined =>
      have absent : joined ∉ routed := fun member => possible (known joined member)
      simp only [Outstanding.across, targets]
      constructor
      · intro both
        exact ⟨both.1, Or.inl both.2⟩
      · intro both
        refine ⟨both.1, both.2.resolve_right ?_⟩
        intro same
        exact absent (same ▸ both.1)
  | closed environment left =>
      simp only [Outstanding.across, Outstanding.dropClient, OrderedSet.mem_delete, targets,
        and_assoc]
  | _ => exact targets clientId

theorem Traced.perform (filled : FilledBy identity table raises) {start daemon next : Daemon}
    {past : List DaemonEvent} {event : DaemonEvent}
    (traced : Traced identity table raises start past daemon)
    (stepped : step daemon event = some next) :
    Traced identity table raises start (past ++ [event]) next := by
  have reached := Execution.run_snoc traced.reached stepped
  rcases step_eq_some stepped with ⟨possible, rfl⟩
  have issuedGrows : ∀ id, id ∈ daemon.issued → id ∈ (daemon.perform event).1.issued := by
    intro id member
    rw [(ids_perform daemon event).1]
    split <;> simp [member]
  have mintedGrows : ∀ clientId, clientId ∈ daemon.minted →
      clientId ∈ (daemon.perform event).1.minted := by
    intro clientId member
    rw [(ids_perform daemon event).2]
    split <;> simp [member]
  have known : ∀ {clientId}, clientId ∈ (daemon.perform event).1.broker.connections →
      clientId ∈ (daemon.perform event).1.minted := by
    intro clientId member
    rw [mem_connections_perform] at member
    rw [(ids_perform daemon event).2]
    cases event with
    | connect joined =>
        rw [OrderedSet.mem_add]
        exact member.imp_left traced.known
    | closed environment left => exact traced.known member.1
    | _ => exact traced.known member
  refine ⟨reached, known, ?_, ?_⟩
  · intro id pending found
    rcases filled.moves found with ⟨before, earlier, rfl⟩ |
      ⟨attributed, params, raising, rfl, identified⟩
    · rcases traced.entry earlier with ⟨identified, attributed, state, raised⟩
      refine ⟨?_, attributed, state, raised.snoc [event]⟩
      cases event <;> exact identified
    · exact ⟨identified, attributed, daemon, past, event, [], rfl, traced.reached, raising⟩
  · intro id attributed state raised
    rcases raised.cases_snoc traced.reached with earlier | ⟨rfl, raising⟩
    · rcases traced.past earlier with ⟨issued, minted, targets⟩
      refine ⟨issuedGrows id issued, fun clientId member =>
        mintedGrows clientId (minted clientId member), ?_⟩
      intro pending found
      rcases filled.moves found with ⟨before, present, rfl⟩ | ⟨other, params, raising, _, _⟩
      · exact mem_targets_across possible minted (targets before present)
      · exact absurd issued (filled.raising raising possible).1
    · have routedConnected : ∀ clientId ∈ state.broker.routedTo attributed,
          clientId ∈ state.broker.connections := fun clientId member =>
        SessionBroker.mem_connections_of_routedTo member
      rcases filled.raising raising possible with ⟨unissued, issued, connections⟩
      refine ⟨issued, fun clientId member =>
        mintedGrows clientId (traced.known (routedConnected clientId member)), ?_⟩
      intro pending found clientId
      rcases filled.moves found with ⟨before, present, _⟩ | ⟨other, params, again, rfl, _⟩
      · rcases traced.entry present with ⟨_, _, _, earlier⟩
        exact absurd (traced.past earlier).1 unissued
      · cases again.symm.trans raising
        rw [connections]
        simp only [Outstanding.raised, OrderedSet.mem_ofList]
        exact ⟨fun member => ⟨member, routedConnected clientId member⟩, And.left⟩

theorem reachable_traced (filled : FilledBy identity table raises)
    {sessions : OrderedMap SessionId HostSession} {agents : OrderedMap SessionId AgentStatus}
    {extras : SessionBrokerExtras} {failClosed : Bool} {events : List DaemonEvent}
    {daemon : Daemon}
    (reached : Execution.run step (init sessions agents extras failClosed) events =
      some daemon) :
    Traced identity table raises (init sessions agents extras failClosed) events daemon := by
  refine Execution.history_invariant
    (Traced identity table raises (init sessions agents extras failClosed)) ?_
    (fun traced stepped => traced.perform filled stepped) reached
  refine ⟨rfl, (fun member => by cases member), ?_, ?_⟩
  · intro id pending found
    rw [filled.init] at found
    cases found
  · intro id attributed state raised
    rcases raised with ⟨first, event, rest, split, _⟩
    simp at split

/-- Shown at some point of a run and still pending later: a client that is still
connected may answer exactly when the request had been routed to it. -/
theorem Traced.mem_targets_iff {start daemon : Daemon} {first rest : List DaemonEvent}
    (traced : Traced identity table raises start (first ++ rest) daemon) {id : String}
    {pending : Outstanding Params} (found : (table daemon).get id = some pending)
    {clientId : ClientId} (connected : clientId ∈ daemon.broker.connections)
    (shown : ∃ attributed state, RaisedIn raises start first id attributed state) :
    clientId ∈ pending.targets ↔
      ∃ attributed state, RaisedIn raises start first id attributed state ∧
        clientId ∈ state.broker.routedTo attributed := by
  constructor
  · intro target
    rcases shown with ⟨attributed, state, raised⟩
    exact ⟨attributed, state, raised,
      (((traced.past (raised.snoc rest)).2.2 pending found clientId).mp target).1⟩
  · intro routed
    rcases routed with ⟨attributed, state, raised, member⟩
    exact ((traced.past (raised.snoc rest)).2.2 pending found clientId).mpr ⟨member, connected⟩

end Table

/-! ## The two bridges -/

def raisesApproval : DaemonEvent → Option (String × Option SessionId)
  | .approvalRequested _ requestId request => some (requestId, request.sessionId)
  | _ => none

def raisesQuestion : DaemonEvent → Option (String × Option SessionId)
  | .asked _ questionId request => some (questionId, request.sessionId)
  | _ => none

theorem filledBy_approval : FilledBy ApprovalRequestParams.requestId
    (fun daemon => daemon.approval.pending) raisesApproval where
  moves := by
    intro daemon event id after found
    rcases approval_perform found with earlier | ⟨environment, request, rfl, rfl⟩
    · exact Or.inl earlier
    · exact Or.inr ⟨request.sessionId, _, rfl, rfl, rfl⟩
  event := by
    intro event id attributed raising
    cases event <;> cases raising
    exact Or.inl ⟨_, _, rfl⟩
  init := fun _ _ _ _ => rfl

theorem filledBy_question : FilledBy QuestionRequestParams.questionId
    (fun daemon => daemon.question.pending) raisesQuestion where
  moves := by
    intro daemon event id after found
    rcases question_perform found with earlier | ⟨environment, request, rfl, rfl⟩
    · exact Or.inl earlier
    · exact Or.inr ⟨request.sessionId, _, rfl, rfl, rfl⟩
  event := by
    intro event id attributed raising
    cases event <;> cases raising
    exact Or.inr ⟨_, _, rfl⟩
  init := fun _ _ _ _ => rfl

/-- Who may answer is settled when an approval or a question is raised: the clients that it is
routed to then, each until it disconnects, whatever they attach, detach or take over later. -/
theorem eligibility_settled (sessions : OrderedMap SessionId HostSession)
    (agents : OrderedMap SessionId AgentStatus) (extras : SessionBrokerExtras) (failClosed : Bool) :
    let start := init sessions agents extras failClosed
    (∀ events daemon, Execution.run step start events = some daemon →
      SettledWhenRaised (fun daemon => daemon.approval.pending) raisesApproval start events
        daemon) ∧
    ∀ events daemon, Execution.run step start events = some daemon →
      SettledWhenRaised (fun daemon => daemon.question.pending) raisesQuestion start events
        daemon :=
  ⟨fun _ _ reached => (reachable_traced filledBy_approval reached).settled,
    fun _ _ reached => (reachable_traced filledBy_question reached).settled⟩

/-- The interaction is not settled. -/
def IsPending (daemon : Daemon) : PendingInteraction → Prop
  | .approval request => ∃ pending, daemon.approval.pending.get request.requestId = some pending
  | .question request => ∃ pending, daemon.question.pending.get request.questionId = some pending

/-- An answer from the client, whatever it says, is accepted. -/
def Accepts (daemon : Daemon) (clientId : ClientId) : PendingInteraction → Prop
  | .approval request => ∀ environment decision note, ∃ answered,
      daemon.approval.answer environment daemon.broker clientId
        ⟨request.requestId, decision, note⟩ = .ok answered
  | .question request => ∀ environment answers, ∃ answered,
      daemon.question.answer environment daemon.broker clientId
        ⟨request.questionId, answers⟩ = .ok answered

/-- When the interaction was raised, it was routed to the client: as the holder of
the session's lease, or without a holder as one of those attached. -/
def WasRouted (start : Daemon) (past : List DaemonEvent) (clientId : ClientId) :
    PendingInteraction → Prop
  | .approval request => ∃ attributed state,
      RaisedIn raisesApproval start past request.requestId attributed state ∧
        clientId ∈ state.broker.routedTo attributed
  | .question request => ∃ attributed state,
      RaisedIn raisesQuestion start past request.questionId attributed state ∧
        clientId ∈ state.broker.routedTo attributed

theorem accepts_approval_iff {daemon : Daemon} {clientId : ClientId}
    {request : ApprovalRequestParams} {pending : PendingRequest}
    (found : daemon.approval.pending.get request.requestId = some pending) :
    daemon.Accepts clientId (.approval request) ↔ clientId ∈ pending.targets := by
  constructor
  · intro accepts
    rcases accepts {} .deny none with ⟨answered, granted⟩
    simp only [ApprovalBridge.answer] at granted
    split at granted
    · cases granted
    · next eligible =>
        rcases (PendingTable.answerable_ok_iff _ _ _ _ _).mp eligible with ⟨present, target⟩
        cases found.symm.trans present
        exact target
  · intro target environment decision note
    have eligible := (PendingTable.answerable_ok_iff "approval" daemon.approval.pending
      clientId request.requestId pending).mpr ⟨found, target⟩
    simp only [ApprovalBridge.answer, eligible]
    exact ⟨_, rfl⟩

theorem accepts_question_iff {daemon : Daemon} {clientId : ClientId}
    {request : QuestionRequestParams} {pending : PendingQuestion}
    (found : daemon.question.pending.get request.questionId = some pending) :
    daemon.Accepts clientId (.question request) ↔ clientId ∈ pending.targets := by
  constructor
  · intro accepts
    rcases accepts {} [] with ⟨answered, granted⟩
    simp only [QuestionBridge.answer] at granted
    split at granted
    · cases granted
    · next eligible =>
        rcases (PendingTable.answerable_ok_iff _ _ _ _ _).mp eligible with ⟨present, target⟩
        cases found.symm.trans present
        exact target
  · intro target environment answers
    have eligible := (PendingTable.answerable_ok_iff "question" daemon.question.pending
      clientId request.questionId pending).mpr ⟨found, target⟩
    simp only [QuestionBridge.answer, eligible]
    exact ⟨_, rfl⟩

theorem exists_of_mem_pendingForSession {Params : Type} {table : PendingTable Params}
    {sessionId : SessionId} {params : Params} (listed : params ∈ table.pendingForSession sessionId) :
    ∃ id pending, table.get id = some pending ∧ pending.params = params := by
  rcases List.mem_map.mp listed with ⟨pending, member, rfl⟩
  rcases OrderedMap.exists_get_of_mem_values (List.mem_filter.mp member).1 with ⟨id, found⟩
  exact ⟨id, pending, found, rfl⟩

theorem raised_of_listed {start shown : Daemon} {first : List DaemonEvent}
    (approvals : Traced ApprovalRequestParams.requestId (fun daemon => daemon.approval.pending)
      raisesApproval start first shown)
    (questions : Traced QuestionRequestParams.questionId
      (fun daemon => daemon.question.pending) raisesQuestion start first shown)
    {environment : AttachEnvironment} {clientId : ClientId} {params : SessionAttachParams}
    {result : SessionAttachResult}
    (answered : (shown.attach environment clientId params).result = .ok result)
    {interaction : PendingInteraction}
    (listed : interaction ∈ result.pendingInteractions.getD []) :
    match interaction with
    | .approval request => ∃ attributed state,
        RaisedIn raisesApproval start first request.requestId attributed state
    | .question request => ∃ attributed state,
        RaisedIn raisesQuestion start first request.questionId attributed state := by
  have given := SessionBroker.pendingInteractions_attach answered listed
  simp only [pendingInteractions, Option.isNone_some, Bool.false_eq_true, false_and, if_false,
    Option.getD_some, Option.elim_some, List.mem_append, List.mem_map] at given
  rcases given with ⟨request, member, rfl⟩ | ⟨request, member, rfl⟩
  · rcases exists_of_mem_pendingForSession member with ⟨id, pending, found, rfl⟩
    rcases approvals.entry found with ⟨rfl, raised⟩
    exact raised
  · rcases exists_of_mem_pendingForSession member with ⟨id, pending, found, rfl⟩
    rcases questions.entry found with ⟨rfl, raised⟩
    exact raised

/-- In every run: an interaction was listed in an attach result, it is still not
settled, and the client is still attached. Its answer is accepted exactly when the
request had been routed to that client when it was raised. -/
theorem listed_accepts_iff (sessions : OrderedMap SessionId HostSession)
    (agents : OrderedMap SessionId AgentStatus) (extras : SessionBrokerExtras)
    (failClosed : Bool) (first rest : List DaemonEvent) (shown daemon : Daemon)
    (environment : AttachEnvironment) (clientId : ClientId) (params : SessionAttachParams)
    (result : SessionAttachResult) (interaction : PendingInteraction)
    (shownReached : Execution.run step (init sessions agents extras failClosed) first =
      some shown)
    (answered : (shown.attach environment clientId params).result = .ok result)
    (listed : interaction ∈ result.pendingInteractions.getD [])
    (reached : Execution.run step shown
      (.request environment clientId (.attach params) :: rest) = some daemon)
    (pending : daemon.IsPending interaction)
    (attached : daemon.broker.IsAttached clientId params.sessionId) :
    daemon.Accepts clientId interaction ↔
      WasRouted (init sessions agents extras failClosed) first clientId interaction := by
  have whole : Execution.run step (init sessions agents extras failClosed)
      (first ++ .request environment clientId (.attach params) :: rest) = some daemon := by
    rw [Execution.run_append, shownReached]
    exact reached
  have consistent := reachable_consistent whole
  have connected : clientId ∈ daemon.broker.connections := by
    rcases consistent.attachedIff.mp attached with ⟨attachment, found⟩
    exact consistent.attachmentConnected found
  have raised := raised_of_listed (reachable_traced filledBy_approval shownReached)
    (reachable_traced filledBy_question shownReached) answered listed
  cases interaction with
  | approval request =>
      rcases pending with ⟨pending, found⟩
      rw [accepts_approval_iff found]
      exact (reachable_traced filledBy_approval whole).mem_targets_iff found connected raised
  | question request =>
      rcases pending with ⟨pending, found⟩
      rw [accepts_question_iff found]
      exact (reachable_traced filledBy_question whole).mem_targets_iff found connected raised

/-- A writer, another client, and an approval request on the writer's session. -/
def writerAsked : List DaemonEvent :=
  [.connect "a", .connect "b",
    .request {} "a" (.attach { sessionId := "s", mode := .write }),
    .approvalRequested {} "r" { sessionId := some "s", kind := "exec", summary := "" }]

def liveSession : OrderedMap SessionId HostSession :=
  OrderedMap.empty.set "s" { createdAt := 0 }

/-- The request as the wire carries it. -/
def askedRequest : PendingInteraction :=
  .approval ⟨"r", "s", "exec", "", none⟩

/-- The writer attaches again and is shown the request it was sent. -/
theorem listed_accepts_writer :
    ∃ (shown : Daemon) (result : SessionAttachResult) (daemon : Daemon),
      Execution.run step (init liveSession .empty {} true) writerAsked =
        some shown ∧
      (shown.attach {} "a" { sessionId := "s", mode := .write }).result = .ok result ∧
      Execution.run step shown
        [.request {} "a" (.attach { sessionId := "s", mode := .write })] = some daemon ∧
      (daemon.Accepts "a" askedRequest ↔
        WasRouted (init liveSession .empty {} true) writerAsked "a" askedRequest) :=
  Exists.intro _ (Exists.intro _ (Exists.intro _ (And.intro rfl (And.intro rfl (And.intro rfl
    (listed_accepts_iff liveSession .empty {} true writerAsked [] _ _ {} "a"
      { sessionId := "s", mode := .write } _ askedRequest rfl rfl (by decide) rfl
      ⟨_, rfl⟩ (by decide)))))))

/-- The other client attaches while the request is pending: it is shown the request
and may not answer it. -/
theorem listed_notATarget :
    ∃ (shown : Daemon) (result : SessionAttachResult) (daemon : Daemon),
      Execution.run step (init liveSession .empty {} true) writerAsked =
        some shown ∧
      (shown.attach {} "b" { sessionId := "s", mode := .read }).result = .ok result ∧
      askedRequest ∈ result.pendingInteractions.getD [] ∧
      shown.step (.request {} "b" (.attach { sessionId := "s", mode := .read })) =
        some daemon ∧
      daemon.IsPending askedRequest ∧
      daemon.broker.IsAttached "b" "s" ∧
      "b" ∈ daemon.broker.connections ∧
      (daemon.perform (.request {} "b"
        (.approvalAnswer { requestId := "r", decision := .approve }))).2.response =
          some (.error (.remote (PendingTable.notATarget "approval" "b" "r"))) ∧
      ¬daemon.Accepts "b" askedRequest := by
  refine ⟨_, _, _, rfl, rfl, by decide, rfl, ⟨_, rfl⟩, by decide, by decide, rfl, ?_⟩
  intro accepts
  rcases accepts {} .approve none with ⟨answered, granted⟩
  cases granted

end Daemon

end DshRemote.Backend
