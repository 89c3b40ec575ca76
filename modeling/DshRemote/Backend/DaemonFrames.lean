import DshRemote.Backend.BrokerInvariant
import DshRemote.Backend.Daemon

/-! # What each event leaves alone

The daemon moves its broker only by events of the broker machine, so that what
holds of every run of the broker holds of the broker inside every run of the
daemon; and each map of the broker is written by few of those events. -/

namespace DshRemote.Backend

namespace SessionBroker

/-! ## Frames of the broker -/

theorem connections_attach (environment : AttachEnvironment) (broker : SessionBroker)
    (clientId : ClientId) (params : SessionAttachParams)
    (pendingInteractions : Option (List PendingInteraction)) :
    (broker.attach environment clientId params pendingInteractions).broker.connections =
        broker.connections ∧
      (broker.attach environment clientId params pendingInteractions).broker.waitingApproval =
        broker.waitingApproval := by
  have ends := attach_ends environment broker clientId params pendingInteractions
  generalize broker.attach environment clientId params pendingInteractions = outcome at ends ⊢
  cases ends with
  | unknown absent => exact ⟨rfl, rfl⟩
  | @notifyThrew session failed connected live interrupted =>
      have same := onlyLogged_replay environment broker clientId params session
      rw [interrupted, Replay.final_error] at same
      exact ⟨same.connections, same.waitingApproval⟩
  | @locked session replayed refused connected live finished writing refusal =>
      have same := onlyLogged_replay environment broker clientId params session
      rw [finished, Replay.final_ok] at same
      rw [connections_dropAttachment, waitingApproval_dropAttachment]
      exact ⟨same.connections, same.waitingApproval⟩
  | @attached session replayed holding broadcast connected live finished granted =>
      have same := onlyLogged_replay environment broker clientId params session
      rw [finished, Replay.final_ok] at same
      rcases granted with ⟨rfl, _⟩ | ⟨_, _, rfl, _⟩
      · exact ⟨same.connections, same.waitingApproval⟩
      · exact ⟨same.connections, same.waitingApproval⟩

theorem flags_dropAttachments (broker : SessionBroker) (clientId : ClientId)
    (sessionIds : List SessionId) :
    (broker.dropAttachments clientId sessionIds).waitingApproval = broker.waitingApproval ∧
      (broker.dropAttachments clientId sessionIds).leases = broker.leases ∧
      (broker.dropAttachments clientId sessionIds).connections = broker.connections := by
  induction sessionIds generalizing broker with
  | nil => exact ⟨rfl, rfl, rfl⟩
  | cons sessionId rest induction =>
      have later := induction (broker.dropAttachment clientId sessionId)
      rw [waitingApproval_dropAttachment, leases_dropAttachment,
        connections_dropAttachment] at later
      exact later

/-- Connections come and go with `connect` and `disconnect` alone. -/
theorem mem_connections_perform (broker : SessionBroker) (event : BrokerEvent)
    (clientId : ClientId) :
    clientId ∈ (broker.perform event).1.connections ↔
      match event with
      | .connect joined => clientId ∈ broker.connections ∨ clientId = joined
      | .disconnect _ left => clientId ∈ broker.connections ∧ clientId ≠ left
      | _ => clientId ∈ broker.connections := by
  cases event with
  | connect joined => exact OrderedSet.mem_add _ _ _
  | disconnect environment left =>
      have connections := (flags_dropAttachments broker left
        ((broker.attachmentsByClient.get left).getD .empty).keys).2.2
      simp only [perform]
      rw [disconnect_eq, releaseAll_maps]
      simp only [gone, connections]
      exact OrderedSet.mem_delete _ _ _
  | attach environment other params pendingInteractions =>
      simp only [perform]
      rw [(connections_attach environment broker other params pendingInteractions).1]
  | detach environment other sessionId =>
      simp only [perform, detach]
      split <;> rw [connections_dropAttachment]
      rfl
  | controlRelease environment other sessionId =>
      simp only [perform, controlRelease]
      split <;> rfl
  | setWaitingApproval environment sessionId waiting =>
      simp only [perform]
      rw [(sameMaps_setWaitingApproval environment broker sessionId waiting).connections]
  | host environment event =>
      simp only [perform]
      rw [(sameMaps_hostEvent environment broker event).connections]

theorem waitingApproval_hostEvent (environment : Environment) (broker : SessionBroker)
    (event : HostEvent) :
    (broker.hostEvent environment event).1.waitingApproval = broker.waitingApproval := by
  cases event with
  | append request => exact (onlyLogged_hostAppend environment broker none request).waitingApproval
  | sessionEntered | sessionDisposed | agentStatus | agentRemoved => rfl

theorem mem_setWaitingApproval (environment : Environment) (broker : SessionBroker)
    (flagged : SessionId) (waiting : Bool) (sessionId : SessionId) :
    sessionId ∈ (broker.setWaitingApproval environment flagged waiting).1.waitingApproval ↔
      if sessionId = flagged then waiting = true else sessionId ∈ broker.waitingApproval := by
  simp only [setWaitingApproval]
  split
  · next already =>
      by_cases same : sessionId = flagged
      · subst same
        simp [already]
      · simp [same]
  · by_cases same : sessionId = flagged
    · subst same
      cases waiting <;> simp
    · cases waiting <;> simp [same]

/-- The flag of a session is written by `setWaitingApproval` alone. -/
theorem mem_waitingApproval_perform (broker : SessionBroker) (event : BrokerEvent)
    (sessionId : SessionId) :
    sessionId ∈ (broker.perform event).1.waitingApproval ↔
      match event with
      | .setWaitingApproval _ flagged waiting =>
          if sessionId = flagged then waiting = true else sessionId ∈ broker.waitingApproval
      | _ => sessionId ∈ broker.waitingApproval := by
  cases event with
  | connect joined => exact Iff.rfl
  | disconnect environment left =>
      simp only [perform]
      rw [disconnect_eq, releaseAll_maps]
      simp only [gone, flags_dropAttachments]
  | attach environment other params pendingInteractions =>
      simp only [perform]
      rw [(connections_attach environment broker other params pendingInteractions).2]
  | detach environment other session =>
      simp only [perform, detach]
      split <;> rw [waitingApproval_dropAttachment]
      rfl
  | controlRelease environment other session =>
      simp only [perform, controlRelease]
      split <;> rfl
  | setWaitingApproval environment flagged waiting =>
      exact mem_setWaitingApproval environment broker flagged waiting sessionId
  | host environment event =>
      simp only [perform]
      rw [waitingApproval_hostEvent]

/-- The event can take a client's lease on a session: its own release, detach or
disconnect, or somebody else's forced write attach. -/
def TakesLease (clientId : ClientId) (sessionId : SessionId) : BrokerEvent → Prop
  | .disconnect _ left => left = clientId
  | .detach _ left session => left = clientId ∧ session = sessionId
  | .controlRelease _ left session => left = clientId ∧ session = sessionId
  | .attach _ other params _ =>
      other ≠ clientId ∧ params.sessionId = sessionId ∧ params.mode = .write ∧
        params.force = true
  | _ => False

theorem holderOf_releaseLease_other {broker : SessionBroker} {clientId other : ClientId}
    {sessionId released : SessionId} (holds : broker.holderOf sessionId = some clientId)
    (mine : broker.holderOf released = some other)
    (keeps : ¬(other = clientId ∧ released = sessionId)) :
    (broker.releaseLease released).holderOf sessionId = some clientId := by
  rw [holderOf_releaseLease]
  split
  · next same =>
      subst same
      exact absurd ⟨Option.some.inj (mine.symm.trans holds), rfl⟩ keeps
  · exact holds

/-- No other event touches the lease of a holder. -/
theorem holderOf_perform {broker : SessionBroker} {event : BrokerEvent} {clientId : ClientId}
    {sessionId : SessionId} (holds : broker.holderOf sessionId = some clientId)
    (keeps : ¬TakesLease clientId sessionId event) :
    (broker.perform event).1.holderOf sessionId = some clientId := by
  cases event with
  | connect joined => exact holds
  | disconnect environment left =>
      simp only [perform]
      rw [disconnect_eq, holderOf_releaseAll]
      have heldThere : (broker.gone left).holderOf sessionId = some clientId := by
        simp only [holderOf, gone, flags_dropAttachments]
        exact holds
      have another : clientId ≠ left := fun same => keeps same.symm
      simp [heldThere, another]
  | attach environment other params pendingInteractions =>
      have ends := attach_ends environment broker other params pendingInteractions
      simp only [perform]
      generalize broker.attach environment other params pendingInteractions = outcome at ends ⊢
      cases ends with
      | unknown absent => exact holds
      | @notifyThrew session failed connected live interrupted =>
          have same := onlyLogged_replay environment broker other params session
          rw [interrupted, Replay.final_error] at same
          exact (congrFun same.holderOf sessionId).trans holds
      | @locked session replayed refused connected live finished writing refusal =>
          have same := onlyLogged_replay environment broker other params session
          rw [finished, Replay.final_ok] at same
          simp only [holderOf, leases_dropAttachment]
          exact (congrFun same.holderOf sessionId).trans holds
      | @attached session replayed holding broadcast connected live finished granted =>
          have same := onlyLogged_replay environment broker other params session
          rw [finished, Replay.final_ok] at same
          have held : replayed.broker.holderOf sessionId = some clientId :=
            (congrFun same.holderOf sessionId).trans holds
          rcases granted with ⟨rfl, _⟩ | ⟨writing, free, rfl, _⟩
          · exact held
          · rw [holderOf_setLease]
            split
            · next sameSession =>
                subst sameSession
                have forced : params.force = true :=
                  free.resolve_left fun unheld => by simp [held] at unheld
                by_contra different
                exact keeps ⟨fun equal => different (congrArg some equal), rfl, writing, forced⟩
            · exact held
  | detach environment other session =>
      simp only [perform, detach]
      split
      · next mine =>
          simp only [holderOf, leases_dropAttachment]
          exact (holderOf_releaseLease_other holds mine keeps)
      · simpa only [holderOf, leases_dropAttachment] using holds
  | controlRelease environment other session =>
      simp only [perform, controlRelease]
      split
      · next mine => exact holderOf_releaseLease_other holds mine keeps
      · exact holds
  | setWaitingApproval environment flagged waiting =>
      simp only [perform]
      rw [(sameMaps_setWaitingApproval environment broker flagged waiting).holderOf]
      exact holds
  | host environment event =>
      simp only [perform]
      rw [(sameMaps_hostEvent environment broker event).holderOf]
      exact holds

end SessionBroker

namespace Daemon

/-! ## The daemon moves its broker by broker events -/

/-- The broker event inside an event of the daemon, when there is one. -/
def brokerEvent (daemon : Daemon) : DaemonEvent → Option BrokerEvent
  | .connect clientId => some (.connect clientId)
  | .closed environment clientId => some (.disconnect environment clientId)
  | .request environment clientId (.attach params) =>
      some (.attach environment clientId params
        (pendingInteractions (some daemon.approval) (some daemon.question) params.sessionId))
  | .request environment clientId (.detach sessionId) =>
      some (.detach environment.toEnvironment clientId sessionId)
  | .request environment clientId (.controlRelease sessionId) =>
      some (.controlRelease environment.toEnvironment clientId sessionId)
  | .approvalRequested environment _ request =>
      if (daemon.broker.routedTo request.sessionId).isEmpty then none
      else request.sessionId.map fun sessionId =>
        .setWaitingApproval environment sessionId true
  | .approvalResumed environment =>
      (daemon.approval.resolved.head?.bind Resolved.sessionId).map fun sessionId =>
        .setWaitingApproval environment sessionId false
  | .host environment event => some (.host environment event)
  | _ => none

@[simp] theorem broker_promptStep (daemon : Daemon) (clientId : ClientId)
    (sessionId : SessionId) (messageId : String) (assembled : Assembled) :
    (daemon.promptStep clientId sessionId messageId assembled).1.broker = daemon.broker := by
  cases assembled <;> rfl

/-- Every event of the daemon is one event of its broker, or none. -/
theorem broker_perform (daemon : Daemon) (event : DaemonEvent) :
    (daemon.perform event).1.broker =
      match daemon.brokerEvent event with
      | none => daemon.broker
      | some event => (daemon.broker.perform event).1 := by
  cases event with
  | connect clientId | closed environment clientId | host environment event => rfl
  | request environment clientId request =>
      cases request with
      | attach params | detach sessionId | controlRelease sessionId => rfl
      | prompt sessionId text content messageId =>
          simp only [perform, serve, brokerEvent]
          split
          · rfl
          · exact broker_promptStep _ _ _ _ _
      | cancel | fork | compact | approvalAnswer | questionAnswer =>
          simp only [perform, serve, brokerEvent]
          split <;> rfl
  | imageSaved prompt attachment messageId =>
      simp only [perform, brokerEvent]
      split
      · rfl
      · exact broker_promptStep _ _ _ _ _
  | imageFailed prompt | aborted environment questionId => rfl
  | approvalRequested environment requestId request =>
      simp only [perform, ApprovalBridge.handle, brokerEvent]
      split
      · split <;> rfl
      · cases request.sessionId <;> rfl
  | approvalResumed environment =>
      simp only [perform, ApprovalBridge.resume, brokerEvent]
      cases daemon.approval.resolved with
      | nil => rfl
      | cons next rest =>
          simp only [List.head?_cons, Option.bind_some]
          cases next.sessionId <;> rfl
  | asked environment questionId request =>
      simp only [perform, brokerEvent]
      split <;> rfl

/-- A run of the daemon is, on its broker, a run of the broker machine. -/
theorem broker_run {start finish : Daemon} {events : List DaemonEvent}
    (reached : Execution.run step start events = some finish) :
    ∃ brokerEvents,
      Execution.run SessionBroker.step start.broker brokerEvents = some finish.broker := by
  refine Execution.run_simulation Daemon.broker ?_ reached
  intro daemon event next stepped
  rcases step_eq_some stepped with ⟨_, rfl⟩
  rw [broker_perform]
  cases daemon.brokerEvent event with
  | none => exact ⟨[], rfl⟩
  | some brokerEvent => exact ⟨[brokerEvent], rfl⟩

theorem reachable_consistent {sessions : OrderedMap SessionId HostSession}
    {agents : OrderedMap SessionId AgentStatus} {extras : SessionBrokerExtras}
    {failClosed : Bool} {events : List DaemonEvent} {daemon : Daemon}
    (reached : Execution.run step (init sessions agents extras failClosed) events =
      some daemon) : SessionBroker.Consistent daemon.broker := by
  rcases broker_run reached with ⟨brokerEvents, brokerReached⟩
  exact SessionBroker.reachable_consistent brokerReached

end Daemon

end DshRemote.Backend
