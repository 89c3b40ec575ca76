import DshRemote.Backend.DaemonFrames

/-! # What each event does to the pending tables

An entry of either table after an event was there before it, less a client that
has gone, or was raised by that very event. The ids in the tables are ids that
were handed out, so a raised request never replaces another one. -/

namespace DshRemote.Backend

namespace ApprovalBridge

theorem pending_resolveAll (bridge : ApprovalBridge)
    (entries : List (String × PendingRequest)) (decision : HostApprovalDecision) :
    (entries.foldl (fun bridge entry => bridge.resolve entry.1 entry.2 decision)
      bridge).pending = bridge.pending := by
  induction entries generalizing bridge with
  | nil => rfl
  | cons entry rest induction => exact induction _

@[simp] theorem pending_disconnect (bridge : ApprovalBridge) (clientId : ClientId) :
    (bridge.disconnect clientId).pending = bridge.pending.dropClient clientId :=
  pending_resolveAll _ _ _

theorem pending_settle {environment : Environment} {broker : SessionBroker}
    {bridge : ApprovalBridge} {requestId id : String} {pending after : PendingRequest}
    {decision : HostApprovalDecision} {winner : Option ClientId}
    (found : (bridge.settle environment broker requestId pending decision winner).1.pending.get
      id = some after) : bridge.pending.get id = some after := by
  simp only [settle] at found
  split at found
  · exact (OrderedMap.of_get_delete found).2
  · exact found

end ApprovalBridge

namespace QuestionBridge

@[simp] theorem pending_disconnect (bridge : QuestionBridge) (clientId : ClientId) :
    (bridge.disconnect clientId).pending = bridge.pending.dropClient clientId := by
  have kept : ∀ (entries : List (String × PendingQuestion)) (start : QuestionBridge),
      (entries.foldl (fun bridge entry =>
        { bridge with
          listening := bridge.listening.delete entry.1
          settled := bridge.settled ++
            [(entry.1, .error "frontend disconnected before answering")] })
        start).pending = start.pending := by
    intro entries
    induction entries with
    | nil => exact fun start => rfl
    | cons entry rest induction => exact fun start => induction _
  exact kept _ _

theorem pending_close {environment : Environment} {broker : SessionBroker}
    {bridge : QuestionBridge} {questionId id : String} {pending after : PendingQuestion}
    {outcome : AskOutcome} {winner : Option ClientId} {closed : Notification}
    (found : (bridge.close environment broker questionId pending outcome winner
      closed).1.pending.get id = some after) : bridge.pending.get id = some after := by
  simp only [close] at found
  split at found
  · exact (OrderedMap.of_get_delete found).2
  · exact found

end QuestionBridge

/-- The entry a request gets when it is raised. -/
def Outstanding.raised {Params : Type} (broker : SessionBroker)
    (sessionId : Option SessionId) (params : Params) : Outstanding Params where
  sessionId := sessionId
  targets := .ofList (broker.routedTo sessionId)
  params := params

/-- An entry across one event: only the close of a connection changes it. -/
def Outstanding.across {Params : Type} (outstanding : Outstanding Params) :
    DaemonEvent → Outstanding Params
  | .closed _ clientId => outstanding.dropClient clientId
  | _ => outstanding

namespace Daemon

@[simp] theorem approval_promptStep (daemon : Daemon) (clientId : ClientId)
    (sessionId : SessionId) (messageId : String) (assembled : Assembled) :
    (daemon.promptStep clientId sessionId messageId assembled).1.approval =
      daemon.approval := by
  cases assembled <;> rfl

@[simp] theorem question_promptStep (daemon : Daemon) (clientId : ClientId)
    (sessionId : SessionId) (messageId : String) (assembled : Assembled) :
    (daemon.promptStep clientId sessionId messageId assembled).1.question =
      daemon.question := by
  cases assembled <;> rfl

theorem approval_serve {environment : AttachEnvironment} {daemon : Daemon}
    {clientId : ClientId} {request : Request} {id : String} {after : PendingRequest}
    (found : (daemon.serve environment clientId request).1.approval.pending.get id =
      some after) : daemon.approval.pending.get id = some after := by
  cases request with
  | attach | detach | controlRelease => exact found
  | cancel | fork | compact | questionAnswer =>
      simp only [serve] at found
      split at found <;> exact found
  | prompt session text content messageId =>
      simp only [serve] at found
      split at found
      · exact found
      · rw [approval_promptStep] at found
        exact found
  | approvalAnswer params =>
      simp only [serve] at found
      split at found
      · exact found
      · next answered granted =>
          simp only [ApprovalBridge.answer] at granted
          split at granted
          · cases granted
          · cases granted
            exact ApprovalBridge.pending_settle found

theorem question_serve {environment : AttachEnvironment} {daemon : Daemon}
    {clientId : ClientId} {request : Request} {id : String} {after : PendingQuestion}
    (found : (daemon.serve environment clientId request).1.question.pending.get id =
      some after) : daemon.question.pending.get id = some after := by
  cases request with
  | attach | detach | controlRelease => exact found
  | cancel | fork | compact | approvalAnswer =>
      simp only [serve] at found
      split at found <;> exact found
  | prompt session text content messageId =>
      simp only [serve] at found
      split at found
      · exact found
      · rw [question_promptStep] at found
        exact found
  | questionAnswer params =>
      simp only [serve] at found
      split at found
      · exact found
      · next answered granted =>
          simp only [QuestionBridge.answer] at granted
          split at granted
          · cases granted
          · cases granted
            exact QuestionBridge.pending_close found

theorem approval_perform {daemon : Daemon} {event : DaemonEvent} {id : String}
    {after : PendingRequest}
    (found : (daemon.perform event).1.approval.pending.get id = some after) :
    (∃ before, daemon.approval.pending.get id = some before ∧ after = before.across event) ∨
      ∃ environment request, event = .approvalRequested environment id request ∧
        after = .raised daemon.broker request.sessionId
          (ApprovalBridge.requestParams id request) := by
  cases event with
  | connect | host | aborted | imageFailed => exact Or.inl ⟨after, found, rfl⟩
  | closed environment clientId =>
      simp only [perform, close, ApprovalBridge.pending_disconnect] at found
      exact Or.inl (PendingTable.get_dropClient_some found)
  | request environment clientId request =>
      exact Or.inl ⟨after, approval_serve found, rfl⟩
  | imageSaved prompt attachment messageId =>
      simp only [perform] at found
      split at found
      · exact Or.inl ⟨after, found, rfl⟩
      · rw [approval_promptStep] at found
        exact Or.inl ⟨after, found, rfl⟩
  | approvalResumed environment =>
      simp only [perform, ApprovalBridge.resume] at found
      cases resolved : daemon.approval.resolved with
      | nil | cons =>
          simp only [resolved] at found
          exact Or.inl ⟨after, found, rfl⟩
  | asked environment questionId request =>
      simp only [perform] at found
      split at found <;> exact Or.inl ⟨after, found, rfl⟩
  | approvalRequested environment requestId request =>
      simp only [perform, ApprovalBridge.handle] at found
      split at found
      · split at found <;> exact Or.inl ⟨after, found, rfl⟩
      · rcases OrderedMap.of_get_set found with ⟨rfl, rfl⟩ | ⟨_, found⟩
        · exact Or.inr ⟨environment, request, rfl, rfl⟩
        · exact Or.inl ⟨after, found, rfl⟩

theorem question_perform {daemon : Daemon} {event : DaemonEvent} {id : String}
    {after : PendingQuestion}
    (found : (daemon.perform event).1.question.pending.get id = some after) :
    (∃ before, daemon.question.pending.get id = some before ∧ after = before.across event) ∨
      ∃ environment request, event = .asked environment id request ∧
        after = .raised daemon.broker request.sessionId
          (QuestionBridge.requestParams id request) := by
  cases event with
  | connect | host | imageFailed | approvalRequested => exact Or.inl ⟨after, found, rfl⟩
  | closed environment clientId =>
      simp only [perform, close, QuestionBridge.pending_disconnect] at found
      exact Or.inl (PendingTable.get_dropClient_some found)
  | request environment clientId request =>
      exact Or.inl ⟨after, question_serve found, rfl⟩
  | imageSaved prompt attachment messageId =>
      simp only [perform] at found
      split at found
      · exact Or.inl ⟨after, found, rfl⟩
      · rw [question_promptStep] at found
        exact Or.inl ⟨after, found, rfl⟩
  | approvalResumed environment =>
      simp only [perform] at found
      split at found <;> exact Or.inl ⟨after, found, rfl⟩
  | aborted environment questionId =>
      simp only [perform, QuestionBridge.abort] at found
      split at found
      · split at found
        · exact Or.inl ⟨after, found, rfl⟩
        · exact Or.inl ⟨after, QuestionBridge.pending_close found, rfl⟩
      · exact Or.inl ⟨after, found, rfl⟩
  | asked environment questionId request =>
      simp only [perform] at found
      split at found
      · exact Or.inl ⟨after, found, rfl⟩
      · next asked granted =>
          simp only [QuestionBridge.ask] at granted
          split at granted
          · cases granted
          · split at granted
            · cases granted
            · cases granted
              rcases OrderedMap.of_get_set found with ⟨rfl, rfl⟩ | ⟨_, found⟩
              · exact Or.inr ⟨environment, request, rfl, rfl⟩
              · exact Or.inl ⟨after, found, rfl⟩

/-! ## The ids in use -/

@[simp] theorem ids_promptStep (daemon : Daemon) (clientId : ClientId)
    (sessionId : SessionId) (messageId : String) (assembled : Assembled) :
    (daemon.promptStep clientId sessionId messageId assembled).1.issued = daemon.issued ∧
      (daemon.promptStep clientId sessionId messageId assembled).1.minted = daemon.minted := by
  cases assembled <;> exact ⟨rfl, rfl⟩

theorem ids_perform (daemon : Daemon) (event : DaemonEvent) :
    ((daemon.perform event).1.issued =
        match event with
        | .approvalRequested _ requestId _ => daemon.issued.add requestId
        | .asked _ questionId _ => daemon.issued.add questionId
        | _ => daemon.issued) ∧
      (daemon.perform event).1.minted =
        match event with
        | .connect joined => daemon.minted.add joined
        | _ => daemon.minted := by
  cases event with
  | connect | closed | host | aborted | imageFailed | approvalRequested => exact ⟨rfl, rfl⟩
  | asked | approvalResumed =>
      simp only [perform]
      split <;> exact ⟨rfl, rfl⟩
  | imageSaved prompt attachment messageId =>
      simp only [perform]
      split
      · exact ⟨rfl, rfl⟩
      · exact ids_promptStep _ _ _ _ _
  | request environment clientId request =>
      cases request with
      | attach | detach | controlRelease => exact ⟨rfl, rfl⟩
      | cancel | fork | compact | approvalAnswer | questionAnswer =>
          simp only [perform, serve]
          split <;> exact ⟨rfl, rfl⟩
      | prompt session text content messageId =>
          simp only [perform, serve]
          split
          · exact ⟨rfl, rfl⟩
          · exact ids_promptStep _ _ _ _ _

theorem brokerEvent_connections {daemon : Daemon} {event : DaemonEvent}
    {inner : BrokerEvent} (inside : daemon.brokerEvent event = some inner) :
    match inner with
    | .connect joined => event = .connect joined
    | .disconnect environment left => event = .closed environment left
    | _ => True := by
  cases event with
  | connect | closed | host =>
      cases inside
      trivial
  | imageSaved | imageFailed | asked | aborted => cases inside
  | request environment clientId request =>
      cases request <;> cases inside <;> trivial
  | approvalRequested environment requestId request =>
      simp only [brokerEvent] at inside
      split at inside
      · cases inside
      · rcases Option.map_eq_some_iff.mp inside with ⟨sessionId, _, rfl⟩
        trivial
  | approvalResumed environment =>
      rcases Option.map_eq_some_iff.mp inside with ⟨sessionId, _, rfl⟩
      trivial

theorem mem_connections_perform (daemon : Daemon) (event : DaemonEvent)
    (clientId : ClientId) :
    clientId ∈ (daemon.perform event).1.broker.connections ↔
      match event with
      | .connect joined => clientId ∈ daemon.broker.connections ∨ clientId = joined
      | .closed _ left => clientId ∈ daemon.broker.connections ∧ clientId ≠ left
      | _ => clientId ∈ daemon.broker.connections := by
  cases event with
  | connect joined => exact SessionBroker.mem_connections_perform _ (.connect joined) _
  | closed environment left =>
      exact SessionBroker.mem_connections_perform _ (.disconnect environment left) _
  | _ =>
      rw [broker_perform]
      split
      · exact Iff.rfl
      · next brokerEvent inside =>
          have kept := SessionBroker.mem_connections_perform daemon.broker brokerEvent clientId
          have elsewhere := brokerEvent_connections inside
          cases brokerEvent with
          | connect | disconnect => cases elsewhere
          | _ => exact kept

/-! ## Ids are known -/

/-- Every id in either table was handed out, every connected client was minted. -/
structure IdsKnown (daemon : Daemon) : Prop where
  approval : ∀ id pending, daemon.approval.pending.get id = some pending → id ∈ daemon.issued
  question : ∀ id pending, daemon.question.pending.get id = some pending → id ∈ daemon.issued
  clients : ∀ clientId, clientId ∈ daemon.broker.connections → clientId ∈ daemon.minted

theorem idsKnown_init (sessions : OrderedMap SessionId HostSession)
    (agents : OrderedMap SessionId AgentStatus) (extras : SessionBrokerExtras)
    (failClosed : Bool) : (init sessions agents extras failClosed).IdsKnown where
  approval := fun id pending found => by cases found
  question := fun id pending found => by cases found
  clients := fun clientId member => by cases member

theorem IdsKnown.perform {daemon : Daemon} (known : daemon.IdsKnown) (event : DaemonEvent) :
    (daemon.perform event).1.IdsKnown := by
  have issuedGrows : ∀ id, id ∈ daemon.issued → id ∈ (daemon.perform event).1.issued := by
    intro id member
    rw [(ids_perform daemon event).1]
    split <;> simp [member]
  constructor
  · intro id pending found
    rcases approval_perform found with ⟨before, earlier, _⟩ | ⟨environment, request, rfl, _⟩
    · exact issuedGrows id (known.approval id before earlier)
    · rw [(ids_perform _ _).1]
      simp
  · intro id pending found
    rcases question_perform found with ⟨before, earlier, _⟩ | ⟨environment, request, rfl, _⟩
    · exact issuedGrows id (known.question id before earlier)
    · rw [(ids_perform _ _).1]
      simp
  · intro clientId member
    rw [mem_connections_perform] at member
    rw [(ids_perform daemon event).2]
    cases event with
    | connect joined =>
        rw [OrderedSet.mem_add]
        exact member.imp_left (known.clients clientId)
    | closed environment left => exact known.clients clientId member.1
    | _ => exact known.clients clientId member

end Daemon

end DshRemote.Backend
