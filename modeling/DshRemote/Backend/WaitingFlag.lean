import DshRemote.Backend.PendingSteps

/-! # The waiting-approval flag

The flag of a session is one element of a plain set. Every routed request sets
it, and the continuation of every settled request clears it, without looking at
the other requests of the session. -/

namespace DshRemote.Backend

namespace ApprovalBridge

/-- A handler of the session has its promise resolved and has not resumed. -/
def HasResolved (bridge : ApprovalBridge) (sessionId : SessionId) : Prop :=
  ∃ next ∈ bridge.resolved, next.sessionId = some sessionId

/-- Between two states of the bridge requests were settled and none was raised. -/
structure OnlySettled (sessionId : SessionId) (before after : ApprovalBridge) : Prop where
  pending : after.pending.HasPending sessionId → before.pending.HasPending sessionId
  settled : before.pending.HasPending sessionId →
    after.pending.HasPending sessionId ∨ after.HasResolved sessionId
  resolved : before.HasResolved sessionId → after.HasResolved sessionId

theorem OnlySettled.refl (sessionId : SessionId) (bridge : ApprovalBridge) :
    OnlySettled sessionId bridge bridge :=
  ⟨id, Or.inl, id⟩

theorem onlySettled_settle (environment : Environment) (broker : SessionBroker)
    {bridge : ApprovalBridge} {requestId : String} {pending : PendingRequest}
    (found : bridge.pending.get requestId = some pending) (decision : HostApprovalDecision)
    (winner : Option ClientId) (sessionId : SessionId) :
    OnlySettled sessionId bridge
      (bridge.settle environment broker requestId pending decision winner).1 := by
  have present : bridge.pending.has requestId = true := by
    rw [OrderedMap.has_eq_true_iff]
    exact ⟨pending, found⟩
  simp only [settle, present, if_true, resolve]
  constructor
  · intro has
    rcases has with ⟨other, kept, keptFound, onSession⟩
    exact ⟨other, kept, (OrderedMap.of_get_delete keptFound).2, onSession⟩
  · intro has
    rcases has with ⟨other, kept, keptFound, onSession⟩
    by_cases same : other = requestId
    · subst same
      cases Option.some.inj (keptFound.symm.trans found)
      refine Or.inr ⟨⟨other, pending.sessionId, decision⟩, ?_, onSession⟩
      exact List.mem_append_right _ (List.mem_singleton.mpr rfl)
    · refine Or.inl ⟨other, kept, ?_, onSession⟩
      simp only [OrderedMap.get_delete, same, if_false]
      exact keptFound
  · intro has
    rcases has with ⟨next, member, onSession⟩
    exact ⟨next, List.mem_append_left _ member, onSession⟩

theorem resolved_resolveAll (bridge : ApprovalBridge)
    (entries : List (String × PendingRequest)) (decision : HostApprovalDecision) :
    (entries.foldl (fun bridge entry => bridge.resolve entry.1 entry.2 decision)
      bridge).resolved =
        bridge.resolved ++ entries.map fun entry =>
          ⟨entry.1, entry.2.sessionId, decision⟩ := by
  induction entries generalizing bridge with
  | nil => simp
  | cons entry rest induction =>
      rw [List.foldl_cons, induction]
      simp [resolve]

theorem onlySettled_disconnect (bridge : ApprovalBridge) (clientId : ClientId)
    (sessionId : SessionId) :
    OnlySettled sessionId bridge (bridge.disconnect clientId) := by
  have pendingAfter := bridge.pending_disconnect clientId
  have resolvedAfter := resolved_resolveAll
    { bridge with pending := bridge.pending.dropClient clientId }
    (bridge.pending.orphans clientId) disconnectedDecision
  constructor
  · intro has
    rw [pendingAfter] at has
    rcases has with ⟨requestId, after, found, onSession⟩
    rcases PendingTable.get_dropClient_some found with ⟨before, foundBefore, rfl⟩
    exact ⟨requestId, before, foundBefore, onSession⟩
  · intro has
    rcases has with ⟨requestId, before, found, onSession⟩
    by_cases orphaned : before.Orphaned clientId
    · refine Or.inr ⟨⟨requestId, before.sessionId, disconnectedDecision⟩, ?_, onSession⟩
      simp only [disconnect, resolvedAfter]
      refine List.mem_append_right _ (List.mem_map.mpr ⟨(requestId, before), ?_, rfl⟩)
      simp only [PendingTable.orphans, List.mem_filter, orphaned, decide_true, and_true]
      exact (OrderedMap.get_eq_some_iff _ _ _).mp found
    · refine Or.inl ⟨requestId, before.dropClient clientId, ?_, onSession⟩
      rw [pendingAfter, PendingTable.get_dropClient, found]
      simp [orphaned]
  · intro has
    rcases has with ⟨next, member, onSession⟩
    refine ⟨next, ?_, onSession⟩
    simp only [disconnect, resolvedAfter]
    exact List.mem_append_left _ member

/-- The flags after one of them was written on behalf of a request. -/
theorem mem_waiting (environment : Environment) (broker : SessionBroker)
    (attributed : Option SessionId) (flag : Bool) (sessionId : SessionId) :
    sessionId ∈ (waiting environment broker attributed flag).1.waitingApproval ↔
      if attributed = some sessionId then flag = true
      else sessionId ∈ broker.waitingApproval := by
  cases attributed with
  | none => simp [waiting]
  | some flagged =>
      simp only [waiting, SessionBroker.mem_setWaitingApproval, Option.some.injEq,
        @eq_comm _ flagged]

end ApprovalBridge

namespace Daemon

/-- The flag of a session, its reported status and the compaction gate all say
whether an approval request of the session is pending. -/
structure FlagAgrees (daemon : Daemon) (sessionId : SessionId) : Prop where
  flagged : sessionId ∈ daemon.broker.waitingApproval ↔
    daemon.approval.pending.HasPending sessionId
  reported : ∀ session, daemon.broker.sessions.get sessionId = some session →
    (daemon.broker.statusOf sessionId = .waitingApproval ↔
      daemon.approval.pending.HasPending sessionId)
  refused : ∀ clientId, daemon.broker.extras.compaction = true →
    daemon.broker.holderOf sessionId = some clientId →
    daemon.broker.agents.get sessionId = some .idle →
      (daemon.broker.compact clientId sessionId =
          .error (SessionBroker.sessionBusy sessionId) ↔
        daemon.approval.pending.HasPending sessionId)

theorem flagAgrees_iff {daemon : Daemon} {sessionId : SessionId} :
    daemon.FlagAgrees sessionId ↔
      (sessionId ∈ daemon.broker.waitingApproval ↔
        daemon.approval.pending.HasPending sessionId) := by
  constructor
  · exact FlagAgrees.flagged
  · intro flagged
    refine ⟨flagged, ?_, ?_⟩
    · intro session live
      rw [← flagged]
      simp only [SessionBroker.statusOf, live]
      split
      · next member => simp [member]
      · next absent =>
          simp only [absent, iff_false]
          split <;> simp
    · intro clientId compaction holds idle
      have granted := (SessionBroker.requireAgent_ok_iff _ _ _ _).mpr ⟨holds, idle⟩
      rw [← flagged]
      simp only [SessionBroker.compact, compaction, if_true, granted]
      by_cases member : sessionId ∈ daemon.broker.waitingApproval <;> simp [member]

/-- What holds between the flag and the requests of a session while
continuations are outstanding. -/
structure FlagTracks (daemon : Daemon) (sessionId : SessionId) : Prop where
  raised : sessionId ∈ daemon.broker.waitingApproval →
    daemon.approval.pending.HasPending sessionId ∨ daemon.approval.HasResolved sessionId
  kept : daemon.approval.pending.HasPending sessionId →
    sessionId ∈ daemon.broker.waitingApproval ∨ daemon.approval.HasResolved sessionId

theorem FlagTracks.agrees {daemon : Daemon} {sessionId : SessionId}
    (tracks : daemon.FlagTracks sessionId)
    (settled : ¬daemon.approval.HasResolved sessionId) : daemon.FlagAgrees sessionId :=
  flagAgrees_iff.mpr
    ⟨fun flagged => (tracks.raised flagged).resolve_right settled,
      fun pending => (tracks.kept pending).resolve_right settled⟩

/-- The last outstanding continuation of a session runs while another request of
that session is still pending. -/
def ClearsEarly (daemon : Daemon) : DaemonEvent → Prop
  | .approvalResumed _ =>
      match daemon.approval.resolved with
      | [] => False
      | next :: rest =>
          ∃ sessionId, next.sessionId = some sessionId ∧
            daemon.approval.pending.HasPending sessionId ∧
            ∀ later ∈ rest, later.sessionId ≠ some sessionId
  | _ => False

/-! ## One step -/

theorem mem_waitingApproval_perform (daemon : Daemon) (event : DaemonEvent)
    (sessionId : SessionId) :
    sessionId ∈ (daemon.perform event).1.broker.waitingApproval ↔
      match daemon.brokerEvent event with
      | some (.setWaitingApproval _ flagged waiting) =>
          if sessionId = flagged then waiting = true
          else sessionId ∈ daemon.broker.waitingApproval
      | _ => sessionId ∈ daemon.broker.waitingApproval := by
  rw [broker_perform]
  cases daemon.brokerEvent event with
  | none => exact Iff.rfl
  | some brokerEvent =>
      have moved := SessionBroker.mem_waitingApproval_perform daemon.broker brokerEvent sessionId
      cases brokerEvent <;> exact moved

theorem FlagTracks.of_onlySettled {before after : Daemon} {sessionId : SessionId}
    (tracks : before.FlagTracks sessionId)
    (flag : sessionId ∈ after.broker.waitingApproval ↔
      sessionId ∈ before.broker.waitingApproval)
    (settled : ApprovalBridge.OnlySettled sessionId before.approval after.approval) :
    after.FlagTracks sessionId := by
  constructor
  · intro flagged
    rcases tracks.raised (flag.mp flagged) with pending | resolved
    · exact settled.settled pending
    · exact Or.inr (settled.resolved resolved)
  · intro pending
    rcases tracks.kept (settled.pending pending) with flagged | resolved
    · exact Or.inl (flag.mpr flagged)
    · exact Or.inr (settled.resolved resolved)

theorem onlySettled_serve (environment : AttachEnvironment) (daemon : Daemon)
    (clientId : ClientId) (request : Request) (sessionId : SessionId) :
    ApprovalBridge.OnlySettled sessionId daemon.approval
      (daemon.serve environment clientId request).1.approval := by
  cases request with
  | attach | detach | controlRelease => exact .refl _ _
  | cancel | fork | compact | questionAnswer =>
      simp only [serve]
      split <;> exact .refl _ _
  | prompt session text content messageId =>
      simp only [serve]
      split
      · exact .refl _ _
      · rw [approval_promptStep]
        exact .refl _ _
  | approvalAnswer params =>
      simp only [serve, ApprovalBridge.answer]
      split
      · exact .refl _ _
      · next answered granted =>
          split at granted
          · cases granted
          · next pending eligible =>
              cases granted
              have found := ((PendingTable.answerable_ok_iff _ _ _ _ _).mp eligible).1
              exact ApprovalBridge.onlySettled_settle _ _ found _ _ _

theorem FlagTracks.requested {daemon : Daemon} {sessionId : SessionId}
    (tracks : daemon.FlagTracks sessionId) (environment : Environment) (requestId : String)
    (fresh : daemon.approval.pending.get requestId = none) (request : HostApprovalRequest) :
    (daemon.perform (.approvalRequested environment requestId request)).1.FlagTracks
      sessionId := by
  by_cases unrouted : (daemon.broker.routedTo request.sessionId).isEmpty = true
  · have same : (daemon.perform (.approvalRequested environment requestId
        request)).1.approval = daemon.approval ∧
        (daemon.perform (.approvalRequested environment requestId
          request)).1.broker = daemon.broker := by
      simp only [perform, ApprovalBridge.handle, unrouted, if_true]
      split <;> exact ⟨rfl, rfl⟩
    refine tracks.of_onlySettled (by rw [same.2]) ?_
    rw [same.1]
    exact .refl _ _
  · have raised : (daemon.perform (.approvalRequested environment requestId
        request)).1.approval.pending = daemon.approval.pending.set requestId
            (.raised daemon.broker request.sessionId
              (ApprovalBridge.requestParams requestId request)) ∧
        (daemon.perform (.approvalRequested environment requestId
          request)).1.approval.resolved = daemon.approval.resolved ∧
        (daemon.perform (.approvalRequested environment requestId request)).1.broker =
          (ApprovalBridge.waiting environment daemon.broker request.sessionId true).1 := by
      simp only [perform, ApprovalBridge.handle, unrouted]
      exact ⟨rfl, rfl, rfl⟩
    have flag := ApprovalBridge.mem_waiting environment daemon.broker request.sessionId true
      sessionId
    have pending := PendingTable.hasPending_set fresh
      (.raised daemon.broker request.sessionId
        (ApprovalBridge.requestParams requestId request)) sessionId
    rw [← raised.2.2] at flag
    rw [← raised.1] at pending
    by_cases mine : request.sessionId = some sessionId
    · rw [if_pos mine] at flag
      exact ⟨fun _ => Or.inl (pending.mpr (Or.inl mine)), fun _ => Or.inl (flag.mpr rfl)⟩
    · rw [if_neg mine] at flag
      refine tracks.of_onlySettled flag
        ⟨fun has => (pending.mp has).resolve_left mine,
          fun has => Or.inl (pending.mpr (Or.inr has)), ?_⟩
      intro has
      rw [ApprovalBridge.HasResolved, raised.2.1]
      exact has

theorem resumed_eq {daemon : Daemon} (environment : Environment) {next : Resolved}
    {rest : List Resolved} (resolved : daemon.approval.resolved = next :: rest) :
    (daemon.perform (.approvalResumed environment)).1.broker =
        (ApprovalBridge.waiting environment daemon.broker next.sessionId false).1 ∧
      (daemon.perform (.approvalResumed environment)).1.approval =
        { daemon.approval with resolved := rest } := by
  constructor <;> simp only [perform, ApprovalBridge.resume, resolved]

/-- A continuation clears the flag of its session; the condition says that nothing
of that session is then left pending without a further continuation. -/
theorem FlagTracks.resumed {daemon : Daemon} {sessionId : SessionId}
    (tracks : daemon.FlagTracks sessionId) (environment : Environment)
    (notEarly : ¬daemon.ClearsEarly (.approvalResumed environment)) :
    (daemon.perform (.approvalResumed environment)).1.FlagTracks sessionId := by
  simp only [ClearsEarly] at notEarly
  cases resolved : daemon.approval.resolved with
  | nil =>
      have same : (daemon.perform (.approvalResumed environment)).1 = daemon := by
        simp only [perform, ApprovalBridge.resume, resolved]
      rw [same]
      exact tracks
  | cons next rest =>
      simp only [resolved] at notEarly
      rcases resumed_eq environment resolved with ⟨broker, approval⟩
      have flag := ApprovalBridge.mem_waiting environment daemon.broker next.sessionId false
        sessionId
      rw [← broker] at flag
      by_cases mine : next.sessionId = some sessionId
      · rw [if_pos mine] at flag
        refine ⟨fun flagged => absurd (flag.mp flagged) (by simp), fun pending => Or.inr ?_⟩
        rw [approval] at pending ⊢
        by_contra noneLeft
        exact notEarly ⟨sessionId, mine, pending, fun later member onSession =>
          noneLeft ⟨later, member, onSession⟩⟩
      · rw [if_neg mine] at flag
        refine tracks.of_onlySettled flag ?_
        rw [approval]
        refine ⟨id, Or.inl, ?_⟩
        intro has
        rcases has with ⟨other, member, onSession⟩
        rw [resolved] at member
        rcases List.mem_cons.mp member with rfl | later
        · exact absurd onSession mine
        · exact ⟨other, later, onSession⟩

theorem FlagTracks.perform {daemon : Daemon} {sessionId : SessionId}
    (tracks : daemon.FlagTracks sessionId) (known : daemon.IdsKnown) {event : DaemonEvent}
    (possible : daemon.Possible event) (notEarly : ¬daemon.ClearsEarly event) :
    (daemon.perform event).1.FlagTracks sessionId := by
  have flag := mem_waitingApproval_perform daemon event sessionId
  cases event with
  | connect clientId => exact tracks.of_onlySettled flag (.refl _ _)
  | closed environment clientId =>
      exact tracks.of_onlySettled flag (ApprovalBridge.onlySettled_disconnect _ _ _)
  | request environment clientId request =>
      have settled := onlySettled_serve environment daemon clientId request sessionId
      cases request <;> exact tracks.of_onlySettled flag settled
  | imageSaved prompt attachment messageId =>
      refine tracks.of_onlySettled flag ?_
      simp only [Daemon.perform]
      split
      · exact .refl _ _
      · rw [approval_promptStep]
        exact .refl _ _
  | imageFailed | aborted => exact tracks.of_onlySettled flag (.refl _ _)
  | host environment event => exact tracks.of_onlySettled flag (.refl _ _)
  | asked environment questionId request =>
      refine tracks.of_onlySettled flag ?_
      simp only [Daemon.perform]
      split <;> exact .refl _ _
  | approvalRequested environment requestId request =>
      have fresh : daemon.approval.pending.get requestId = none := by
        rw [Option.eq_none_iff_forall_ne_some]
        exact fun pending found => possible (known.approval requestId pending found)
      exact tracks.requested environment requestId fresh request
  | approvalResumed environment => exact tracks.resumed environment notEarly

/-- Clearing early leaves the session unflagged with a request pending and nothing
outstanding that could set it right. -/
theorem ClearsEarly.disagrees {daemon : Daemon} {event : DaemonEvent}
    (early : daemon.ClearsEarly event) :
    ∃ sessionId, ¬(daemon.perform event).1.approval.HasResolved sessionId ∧
      ¬(daemon.perform event).1.FlagAgrees sessionId := by
  cases event with
  | approvalResumed environment =>
      simp only [ClearsEarly] at early
      cases resolved : daemon.approval.resolved with
      | nil =>
          simp only [resolved] at early
      | cons next rest =>
          simp only [resolved] at early
          rcases early with ⟨sessionId, named, pending, noneLeft⟩
          rcases resumed_eq environment resolved with ⟨broker, approval⟩
          have flag := ApprovalBridge.mem_waiting environment daemon.broker next.sessionId
            false sessionId
          rw [← broker, if_pos named] at flag
          refine ⟨sessionId, ?_, ?_⟩
          · rw [approval]
            intro has
            rcases has with ⟨later, member, onSession⟩
            exact noneLeft later member onSession
          · intro agrees
            refine absurd (flag.mp (agrees.flagged.mpr ?_)) (by simp)
            rw [approval]
            exact pending
  | _ => cases early

/-! ## Whole runs -/

/-- In a run the flag agrees with the pending requests, in every state and for
every session whose continuations have run, exactly when no last continuation of a
session runs while another request of that session is pending. -/
theorem reachable_flagAgrees_iff (sessions : OrderedMap SessionId HostSession)
    (agents : OrderedMap SessionId AgentStatus) (extras : SessionBrokerExtras)
    (failClosed : Bool) (events : List DaemonEvent) (daemon : Daemon)
    (reached : Execution.run step (init sessions agents extras failClosed) events =
      some daemon) :
    (∀ first rest state, events = first ++ rest →
        Execution.run step (init sessions agents extras failClosed) first = some state →
        ∀ sessionId, ¬state.approval.HasResolved sessionId → state.FlagAgrees sessionId) ↔
      Execution.AllSteps step (fun state event => ¬state.ClearsEarly event)
        (init sessions agents extras failClosed) events := by
  constructor
  · intro agree
    rw [Execution.AllSteps.iff_forall_split reached]
    intro first event rest state split stateReached early
    rw [split, Execution.run_append, stateReached, Option.bind_some, Execution.run_cons]
      at reached
    rcases Option.bind_eq_some_iff.mp reached with ⟨next, stepped, _⟩
    rcases early.disagrees with ⟨sessionId, settled, disagrees⟩
    have nextReached := Execution.run_snoc stateReached stepped
    rcases step_eq_some stepped with ⟨_, rfl⟩
    exact disagrees (agree (first ++ [event]) rest _ (by simp [split]) nextReached sessionId
      settled)
  · intro conditions first rest state split stateReached sessionId settled
    rw [split, Execution.AllSteps.append_iff stateReached] at conditions
    have tracks : state.IdsKnown ∧ state.FlagTracks sessionId := by
      refine Execution.run_invariant
        (fun state => state.IdsKnown ∧ state.FlagTracks sessionId) ?_ ?_ conditions.1
        stateReached
      · intro before event after holds notEarly stepped
        rcases step_eq_some stepped with ⟨possible, rfl⟩
        exact ⟨holds.1.perform event, holds.2.perform holds.1 possible notEarly⟩
      · refine ⟨idsKnown_init sessions agents extras failClosed, ?_, ?_⟩
        · intro flagged
          cases flagged
        · intro has
          rcases has with ⟨id, pending, found, _⟩
          cases found
    exact tracks.2.agrees settled

/-- One session, one attached client, and two approval requests for the session. -/
def twoRequests : List DaemonEvent :=
  [.connect "a", .request {} "a" (.attach { sessionId := "s", mode := .read }),
    .approvalRequested {} "first" { sessionId := some "s", kind := "exec", summary := "" },
    .approvalRequested {} "second" { sessionId := some "s", kind := "exec", summary := "" }]

/-- One live session. -/
def oneSession : OrderedMap SessionId HostSession :=
  OrderedMap.empty.set "s" { createdAt := 0 }

theorem reachable_flagAgrees_twoRequests :
    ∃ daemon, Execution.run step (init oneSession .empty {} true) twoRequests = some daemon ∧
      ((∀ first rest state, twoRequests = first ++ rest →
          Execution.run step (init oneSession .empty {} true) first = some state →
          ∀ sessionId, ¬state.approval.HasResolved sessionId → state.FlagAgrees sessionId) ↔
        Execution.AllSteps step (fun state event => ¬state.ClearsEarly event)
          (init oneSession .empty {} true) twoRequests) :=
  Exists.intro _ (And.intro rfl
    (reachable_flagAgrees_iff oneSession .empty {} true twoRequests _ rfl))

/-- The first request is answered and its continuation runs: the second one is
pending, nothing is outstanding, and the session is not flagged. -/
theorem flag_clearedEarly :
    ∃ daemon, Execution.run step (init oneSession .empty {} true)
        (twoRequests ++
          [.request {} "a" (.approvalAnswer { requestId := "first", decision := .approve }),
            .approvalResumed {}]) = some daemon ∧
      daemon.approval.resolved = [] ∧
      daemon.approval.pending.HasPending "s" ∧
      ¬daemon.FlagAgrees "s" := by
  refine ⟨_, rfl, rfl, by decide, ?_⟩
  intro agrees
  exact absurd (agrees.flagged.mpr (by decide)) (by decide)

end Daemon

end DshRemote.Backend
