import DshRemote.Backend.BridgeMoves
import DshRemote.Backend.LiveFeed

/-! # Who is left to answer

A request is raised with targets that are attached to its session. A disconnect
takes its client out of the targets; a detach takes it out of the session only. -/

namespace DshRemote.Backend

namespace SessionBroker

theorem Consistent.isAttached_of_routedTo {broker : SessionBroker}
    (consistent : Consistent broker) {sessionId : SessionId} {clientId : ClientId}
    (member : clientId ∈ broker.routedTo (some sessionId)) :
    broker.IsAttached clientId sessionId := by
  simp only [routedTo] at member
  split at member
  · next writer held =>
      rw [List.mem_singleton.mp member]
      simp only [writerOf] at held
      split at held
      · cases held
      · next lease found =>
          split at held
          · cases held
            apply consistent.holder_attached
            rw [holderOf, found]
            rfl
          · cases held
  · simp only [attachedTo] at member
    split at member
    · cases member
    · next clients found => exact ⟨clients, found, (List.mem_filter.mp member).1⟩

/-- The event takes the client's attachment to the session away. -/
def Leaves (broker : SessionBroker) (clientId : ClientId) (sessionId : SessionId) :
    BrokerEvent → Prop
  | .disconnect _ left => left = clientId
  | .detach _ left session => left = clientId ∧ session = sessionId
  | .attach environment left params _ =>
      left = clientId ∧ params.sessionId = sessionId ∧
        EscalationRefused environment broker clientId params
  | _ => False

/-- No other event does. -/
theorem Consistent.isAttached_stays {broker : SessionBroker} (consistent : Consistent broker)
    {event : BrokerEvent} {clientId : ClientId} {sessionId : SessionId}
    (attached : broker.IsAttached clientId sessionId)
    (stays : ¬broker.Leaves clientId sessionId event) :
    (broker.perform event).1.IsAttached clientId sessionId := by
  by_cases foreign : event.concerns clientId sessionId = false
  · apply (isAttached_perform consistent foreign).mpr
    refine ⟨attached, ?_⟩
    apply (mem_connections_perform broker event clientId).mpr
    have connected := consistent.connected attached
    cases event with
    | connect joined => exact Or.inl connected
    | disconnect environment left => exact ⟨connected, fun same => stays same.symm⟩
    | attach | detach | controlRelease | setWaitingApproval | host => exact connected
  · cases event with
    | connect joined => exact attached
    | disconnect | controlRelease | setWaitingApproval | host => exact absurd rfl foreign
    | detach environment left session =>
        exact absurd (of_decide_eq_true (eq_true_of_ne_false foreign)) stays
    | attach environment left params pendingInteractions =>
        rcases of_decide_eq_true (eq_true_of_ne_false foreign) with ⟨rfl, rfl⟩
        have ends := attach_ends environment broker left params pendingInteractions
        simp only [SessionBroker.perform]
        generalize broker.attach environment left params pendingInteractions = outcome at ends ⊢
        cases ends with
        | unknown absent => exact attached
        | @notifyThrew session failed connected live interrupted =>
            have same := onlyLogged_replay environment broker left params session
            rw [interrupted, Replay.final_error] at same
            have attachedSame : failed.broker.IsAttached = broker.IsAttached := same.isAttached
            rwa [← attachedSame] at attached
        | @locked session replayed refused connected live finished writing refusal =>
            have same := onlyLogged_replay environment broker left params session
            rw [finished, Replay.final_ok] at same
            have holderSame : replayed.broker.holderOf = broker.holderOf := same.holderOf
            have held := (acquireLease_eq_error_iff _ _ _ _ _).mp ⟨_, refusal⟩
            refine absurd ⟨rfl, rfl, attached, writing, held.1, ?_, session, replayed, live,
              finished⟩ stays
            rw [← holderSame]
            exact held.2
        | @attached session replayed holding broadcast connected live finished granted =>
            have tracked : holding.IsAttached = (replayed.broker.trackAttachment left
                params.sessionId broker.sessions.nextListener).IsAttached := by
              rcases granted with ⟨rfl, _⟩ | ⟨_, _, rfl, _⟩ <;> rfl
            rw [tracked, isAttached_trackAttachment]
            exact Or.inl ⟨rfl, rfl⟩

end SessionBroker

namespace Daemon

/-- The event takes the client's attachment to the session away: its stream closes,
it detaches, or it asks for the lease of another client without force. -/
def Leaves (daemon : Daemon) (clientId : ClientId) (sessionId : SessionId) :
    DaemonEvent → Prop
  | .closed _ left => left = clientId
  | .request _ left (.detach session) => left = clientId ∧ session = sessionId
  | .request environment left (.attach params) =>
      left = clientId ∧ params.sessionId = sessionId ∧
        SessionBroker.EscalationRefused environment daemon.broker clientId params
  | _ => False

theorem isAttached_stays {daemon : Daemon}
    (consistent : SessionBroker.Consistent daemon.broker) {event : DaemonEvent}
    {clientId : ClientId} {sessionId : SessionId}
    (attached : daemon.broker.IsAttached clientId sessionId)
    (stays : ¬daemon.Leaves clientId sessionId event) :
    (daemon.perform event).1.broker.IsAttached clientId sessionId := by
  rw [broker_perform]
  cases inside : daemon.brokerEvent event with
  | none => exact attached
  | some inner =>
      apply consistent.isAttached_stays attached
      intro leaves
      apply stays
      cases event with
      | closed | connect | host =>
          cases inside
          exact leaves
      | imageSaved | imageFailed | asked | aborted => cases inside
      | request environment other request =>
          cases request <;> cases inside <;> exact leaves
      | approvalRequested environment requestId request =>
          simp only [brokerEvent] at inside
          split at inside
          · cases inside
          · rcases Option.map_eq_some_iff.mp inside with ⟨session, _, rfl⟩
            exact leaves
      | approvalResumed environment =>
          rcases Option.map_eq_some_iff.mp inside with ⟨session, _, rfl⟩
          exact leaves

theorem Leaves.unique {daemon : Daemon} {event : DaemonEvent} {first second : ClientId}
    {sessionId : SessionId} (left : daemon.Leaves first sessionId event)
    (right : daemon.Leaves second sessionId event) : first = second := by
  cases event with
  | closed environment clientId => exact left.symm.trans right
  | request environment clientId request =>
      cases request with
      | attach | detach => exact left.1.symm.trans right.1
      | _ => cases left
  | _ => cases left

/-! ## Tables of attended requests -/

section Table

variable {Params : Type}

/-- Every request of a session has a target that is attached there. -/
def Attended (broker : SessionBroker) (table : PendingTable Params) : Prop :=
  ∀ id pending sessionId, table.get id = some pending → pending.sessionId = some sessionId →
    ∃ clientId ∈ pending.targets, broker.IsAttached clientId sessionId

/-- The only target of the request that is still attached to its session. -/
structure LastAnswerer (daemon : Daemon) (pending : Outstanding Params)
    (clientId : ClientId) (sessionId : SessionId) : Prop where
  onSession : pending.sessionId = some sessionId
  target : clientId ∈ pending.targets
  attached : daemon.broker.IsAttached clientId sessionId
  only : ∀ other ∈ pending.targets, daemon.broker.IsAttached other sessionId →
    other = clientId

/-- The last target attached to the session leaves it, and not by a disconnect that
leaves the request without any target. -/
def Strands (daemon : Daemon) (event : DaemonEvent) (pending : Outstanding Params) : Prop :=
  ∃ clientId sessionId, daemon.LastAnswerer pending clientId sessionId ∧
    daemon.Leaves clientId sessionId event ∧
    (event.closing = some clientId → ¬pending.Orphaned clientId)

/-- A table keeps its attached answerers over an event that strands none of its requests. -/
theorem Attended.step {daemon : Daemon} {event : DaemonEvent}
    {before after : PendingTable Params}
    (consistent : SessionBroker.Consistent daemon.broker)
    (attended : Attended daemon.broker before)
    (moves : ∀ id pending, after.get id = some pending →
      EntryMove daemon event before id pending)
    (spared : ∀ id pending, before.get id = some pending → ¬daemon.Strands event pending) :
    Attended (daemon.perform event).1.broker after := by
  intro id pending sessionId found onSession
  cases moves id pending found with
  | @raised attributed params raising routed =>
      rcases List.exists_mem_of_ne_nil _ routed with ⟨clientId, member⟩
      cases onSession
      refine ⟨clientId, (OrderedSet.mem_ofList _ _).mpr member, ?_⟩
      apply isAttached_stays consistent (consistent.isAttached_of_routedTo member)
      rcases raising with ⟨environment, request, rfl⟩ | ⟨environment, request, rfl⟩ <;>
        exact False.elim
  | @stayed earlier present kept =>
      have onSessionBefore : earlier.sessionId = some sessionId := by
        cases event <;> exact onSession
      rcases attended id earlier sessionId present onSessionBefore with
        ⟨clientId, target, attached⟩
      by_contra nobody
      -- Whoever is attached must be leaving, and it is always the same client.
      have leaves : ∀ other ∈ earlier.targets, daemon.broker.IsAttached other sessionId →
          daemon.Leaves other sessionId event := by
        intro other member otherAttached
        by_contra stays
        apply nobody
        refine ⟨other, ?_, isAttached_stays consistent otherAttached stays⟩
        cases event with
        | closed environment left =>
            apply OrderedSet.mem_delete _ _ _ |>.mpr
            exact ⟨member, fun same => stays same.symm⟩
        | _ => exact member
      have only : ∀ other ∈ earlier.targets, daemon.broker.IsAttached other sessionId →
          other = clientId := fun other member otherAttached =>
        (leaves other member otherAttached).unique (leaves clientId target attached)
      exact spared id earlier present ⟨clientId, sessionId,
        ⟨onSessionBefore, target, attached, only⟩, leaves clientId target attached,
        kept clientId⟩

end Table

/-- Every pending request of a session has somebody attached there to answer it. -/
structure Answerable (daemon : Daemon) : Prop where
  approval : Attended daemon.broker daemon.approval.pending
  question : Attended daemon.broker daemon.question.pending

/-- A request whose last attached target leaves with the event is settled by it, and
not in favour of what was asked. -/
structure FailsClosed (daemon : Daemon) (event : DaemonEvent) : Prop where
  approval : ∀ id pending clientId sessionId,
    daemon.approval.pending.get id = some pending →
      daemon.LastAnswerer pending clientId sessionId →
        daemon.Leaves clientId sessionId event →
          (daemon.perform event).1.approval.pending.get id = none ∧
            ∃ decision, decision.decision = .deny ∧
              ⟨id, some sessionId, decision⟩ ∈ (daemon.perform event).1.approval.resolved
  question : ∀ id pending clientId sessionId,
    daemon.question.pending.get id = some pending →
      daemon.LastAnswerer pending clientId sessionId →
        daemon.Leaves clientId sessionId event →
          (daemon.perform event).1.question.pending.get id = none ∧
            ∃ error, (id, .error error) ∈ (daemon.perform event).1.question.settled

/-- Some pending request of a session loses its last attached target and stays. -/
def StrandsSome (daemon : Daemon) (event : DaemonEvent) : Prop :=
  (∃ id pending, daemon.approval.pending.get id = some pending ∧
    daemon.Strands event pending) ∨
  ∃ id pending, daemon.question.pending.get id = some pending ∧ daemon.Strands event pending

theorem Answerable.step {daemon : Daemon} {event : DaemonEvent}
    (consistent : SessionBroker.Consistent daemon.broker) (answerable : daemon.Answerable)
    (spared : ¬daemon.StrandsSome event) : (daemon.perform event).1.Answerable where
  approval := answerable.approval.step consistent (fun _ _ found => approval_entry found)
    fun id pending found strands => spared (Or.inl ⟨id, pending, found, strands⟩)
  question := answerable.question.step consistent (fun _ _ found => question_entry found)
    fun id pending found strands => spared (Or.inr ⟨id, pending, found, strands⟩)

/-- An event that strands nobody while the last target leaves is the disconnect that
takes the request's only target. -/
theorem closes_of_not_strands {Params : Type} {daemon : Daemon} {event : DaemonEvent}
    {pending : Outstanding Params} {clientId : ClientId} {sessionId : SessionId}
    (last : daemon.LastAnswerer pending clientId sessionId)
    (leaves : daemon.Leaves clientId sessionId event) (spared : ¬daemon.Strands event pending) :
    (∃ environment, event = .closed environment clientId) ∧ pending.Orphaned clientId := by
  have orphaned : event.closing = some clientId ∧ pending.Orphaned clientId := by
    by_contra otherwise
    apply spared
    refine ⟨clientId, sessionId, last, leaves, fun closing orphaned => ?_⟩
    exact otherwise ⟨closing, orphaned⟩
  refine ⟨?_, orphaned.2⟩
  cases event with
  | closed environment left =>
      cases orphaned.1
      exact ⟨environment, rfl⟩
  | _ => cases orphaned.1

theorem get_dropClient_orphaned {Params : Type} {table : PendingTable Params} {id : String}
    {pending : Outstanding Params} {clientId : ClientId} (found : table.get id = some pending)
    (orphaned : pending.Orphaned clientId) :
    (table.dropClient clientId).get id = none ∧ (id, pending) ∈ table.orphans clientId := by
  constructor
  · rw [PendingTable.get_dropClient, found]
    simp [Option.filter, orphaned]
  · apply List.mem_filter.mpr
    exact ⟨(OrderedMap.get_eq_some_iff _ _ _).mp found, decide_eq_true orphaned⟩

theorem failsClosed_of_not_strandsSome {daemon : Daemon} {event : DaemonEvent}
    (spared : ¬daemon.StrandsSome event) : daemon.FailsClosed event where
  approval := by
    intro id pending clientId sessionId found last leaves
    rcases closes_of_not_strands last leaves fun strands =>
      spared (Or.inl ⟨id, pending, found, strands⟩) with ⟨⟨environment, rfl⟩, orphaned⟩
    rcases get_dropClient_orphaned found orphaned with ⟨gone, listed⟩
    simp only [perform, close, ApprovalBridge.disconnect_eq]
    refine ⟨gone, ApprovalBridge.disconnectedDecision, rfl, ?_⟩
    apply List.mem_append_right
    apply List.mem_map.mpr
    exact ⟨(id, pending), listed, by rw [last.onSession]⟩
  question := by
    intro id pending clientId sessionId found last leaves
    rcases closes_of_not_strands last leaves fun strands =>
      spared (Or.inr ⟨id, pending, found, strands⟩) with ⟨⟨environment, rfl⟩, orphaned⟩
    rcases get_dropClient_orphaned found orphaned with ⟨gone, listed⟩
    simp only [perform, close, QuestionBridge.disconnect_eq]
    refine ⟨gone, "frontend disconnected before answering", ?_⟩
    apply List.mem_append_right
    apply List.mem_map.mpr
    exact ⟨(id, pending), listed, rfl⟩

/-- What is left of a table when a client leaves a session. -/
def afterLeaving {Params : Type} (table : PendingTable Params) (event : DaemonEvent) :
    PendingTable Params :=
  match event.closing with
  | none => table
  | some clientId => table.dropClient clientId

theorem Leaves.tables {daemon : Daemon} {event : DaemonEvent} {clientId : ClientId}
    {sessionId : SessionId} (leaves : daemon.Leaves clientId sessionId event) :
    (daemon.perform event).1.approval.pending = afterLeaving daemon.approval.pending event ∧
      (daemon.perform event).1.question.pending =
        afterLeaving daemon.question.pending event := by
  cases event with
  | closed environment left =>
      exact ⟨ApprovalBridge.pending_disconnect _ _, QuestionBridge.pending_disconnect _ _⟩
  | request environment left request =>
      cases request with
      | attach | detach => exact ⟨rfl, rfl⟩
      | _ => cases leaves
  | _ => cases leaves

theorem Strands.stays {Params : Type} {daemon : Daemon} {event : DaemonEvent}
    {pending : Outstanding Params} (strands : daemon.Strands event pending)
    {table : PendingTable Params} {id : String} (found : table.get id = some pending) :
    (afterLeaving table event).get id ≠ none := by
  rcases strands with ⟨clientId, sessionId, last, leaves, notOrphaned⟩
  cases event with
  | closed environment left =>
      cases leaves
      simp [afterLeaving, DaemonEvent.closing, PendingTable.get_dropClient, found,
        Option.filter, notOrphaned rfl]
  | _ => simp [afterLeaving, DaemonEvent.closing, found]

theorem StrandsSome.not_failsClosed {daemon : Daemon} {event : DaemonEvent}
    (strands : daemon.StrandsSome event) : ¬daemon.FailsClosed event := by
  intro closes
  rcases strands with ⟨id, pending, found, strands⟩ | ⟨id, pending, found, strands⟩
  · have stays := strands.stays found
    rcases strands with ⟨clientId, sessionId, last, leaves, _⟩
    rw [← leaves.tables.1] at stays
    exact stays (closes.approval id pending clientId sessionId found last leaves).1
  · have stays := strands.stays found
    rcases strands with ⟨clientId, sessionId, last, leaves, _⟩
    rw [← leaves.tables.2] at stays
    exact stays (closes.question id pending clientId sessionId found last leaves).1

/-- In every run: each state has an attached answerer for every pending request of a
session, and each request whose last one leaves is settled fail-closed, exactly when no
step takes the last attached target of a pending request out of its session by anything
but a disconnect that takes the request's only target. -/
theorem reachable_answerable_iff (sessions : OrderedMap SessionId HostSession)
    (agents : OrderedMap SessionId AgentStatus) (extras : SessionBrokerExtras)
    (failClosed : Bool) (events : List DaemonEvent) (daemon : Daemon)
    (reached : Execution.run step (init sessions agents extras failClosed) events =
      some daemon) :
    (∀ first rest state, events = first ++ rest →
        Execution.run step (init sessions agents extras failClosed) first = some state →
        state.Answerable ∧ ∀ event later, rest = event :: later → state.FailsClosed event) ↔
      Execution.AllSteps step (fun state event => ¬state.StrandsSome event)
        (init sessions agents extras failClosed) events := by
  constructor
  · intro holds
    rw [Execution.AllSteps.iff_forall_split reached]
    intro first event rest state split stateReached strands
    exact strands.not_failsClosed
      ((holds first (event :: rest) state split stateReached).2 event rest rfl)
  · intro conditions first rest state split stateReached
    rw [split, Execution.AllSteps.append_iff stateReached] at conditions
    constructor
    · have both : SessionBroker.Consistent state.broker ∧ state.Answerable := by
        refine Execution.run_invariant
          (fun state => SessionBroker.Consistent state.broker ∧ state.Answerable) ?_ ?_
          conditions.1 stateReached
        · intro before event after holds spared stepped
          rcases step_eq_some stepped with ⟨possible, rfl⟩
          refine ⟨?_, holds.2.step holds.1 spared⟩
          rw [broker_perform]
          cases before.brokerEvent event with
          | none => exact holds.1
          | some inner => exact holds.1.perform inner
        · refine ⟨SessionBroker.consistent_init _ _ _, ?_, ?_⟩ <;>
            exact fun _ _ _ found => by cases found
      exact both.2
    · rintro event later rfl
      exact failsClosed_of_not_strandsSome conditions.2.1

/-- A reader is attached when an approval is requested, and detaches. -/
def readerAsked : List DaemonEvent :=
  [.connect "a", .request {} "a" (.attach { sessionId := "s", mode := .read }),
    .approvalRequested {} "r" { sessionId := some "s", kind := "exec", summary := "" }]

theorem reachable_answerable_readerAsked :
    ∃ daemon, Execution.run step
        (init (OrderedMap.empty.set "s" { createdAt := 0 }) .empty {} true) readerAsked =
          some daemon ∧
      ((∀ first rest state, readerAsked = first ++ rest →
          Execution.run step (init (OrderedMap.empty.set "s" { createdAt := 0 }) .empty {} true)
            first = some state →
          state.Answerable ∧
            ∀ event later, rest = event :: later → state.FailsClosed event) ↔
        Execution.AllSteps step (fun state event => ¬state.StrandsSome event)
          (init (OrderedMap.empty.set "s" { createdAt := 0 }) .empty {} true) readerAsked) :=
  Exists.intro _ (And.intro rfl (reachable_answerable_iff
    (OrderedMap.empty.set "s" { createdAt := 0 }) .empty {} true readerAsked _ rfl))

/-- The reader detaches: the request stays pending, and nobody attached can answer it. -/
theorem detached_leavesPending :
    ∃ daemon pending, Execution.run step
        (init (OrderedMap.empty.set "s" { createdAt := 0 }) .empty {} true)
        (readerAsked ++ [.request {} "a" (.detach "s")]) = some daemon ∧
      daemon.approval.pending.get "r" = some pending ∧
      pending.sessionId = some "s" ∧
      (∀ clientId, ¬daemon.broker.IsAttached clientId "s") ∧
      ¬daemon.Answerable := by
  refine ⟨_, _, rfl, rfl, rfl, ?_, ?_⟩
  · rintro clientId ⟨clients, found, _⟩
    cases found
  · intro answerable
    rcases answerable.approval "r" _ "s" rfl rfl with ⟨clientId, _, clients, found, _⟩
    cases found

end Daemon

end DshRemote.Backend
