import DshRemote.Backend.BrokerInvariant

/-! # What holds of every reachable broker

The four maps agree in every state, whatever the order of connects, attaches,
releases and disconnects; and what a failing attach leaves behind. -/

namespace DshRemote.Backend.SessionBroker

/-! ## The maps agree -/

/-- The host subscriptions that forward one session's events to one client. -/
def liveSubscriptions (broker : SessionBroker) (clientId : ClientId) (sessionId : SessionId) :
    List ListenerId :=
  (broker.sessions.listeners.filter fun _ listener => listener = ⟨clientId, sessionId⟩).keys

theorem mem_liveSubscriptions (broker : SessionBroker) (clientId : ClientId)
    (sessionId : SessionId) (id : ListenerId) :
    id ∈ broker.liveSubscriptions clientId sessionId ↔
      broker.sessions.listeners.get id = some ⟨clientId, sessionId⟩ := by
  unfold liveSubscriptions
  rw [OrderedMap.mem_keys_iff]
  simp [OrderedMap.get_filter, Option.filter_eq_some_iff]

theorem liveSubscriptions_of_attachment {broker : SessionBroker} (consistent : Consistent broker)
    {clientId : ClientId} {sessionId : SessionId} {attachment : Attachment}
    (found : broker.attachment clientId sessionId = some attachment) :
    broker.liveSubscriptions clientId sessionId = [attachment.unsubscribe] := by
  have member : ∀ id, id ∈ broker.liveSubscriptions clientId sessionId ↔
      id ∈ [attachment.unsubscribe] := by
    intro id
    rw [mem_liveSubscriptions, List.mem_singleton]
    constructor
    · intro listens
      rcases consistent.listenerOwned listens with ⟨owner, owned, rfl⟩
      exact congrArg Attachment.unsubscribe (Option.some.inj (owned.symm.trans found))
    · rintro rfl
      exact consistent.attachmentListens found
  have nodup : (broker.liveSubscriptions clientId sessionId).Nodup := OrderedMap.nodup _
  exact List.perm_singleton.mp
    ((List.perm_ext_iff_of_nodup nodup (List.nodup_singleton _)).mpr member)

theorem liveSubscriptions_of_notAttached {broker : SessionBroker} (consistent : Consistent broker)
    {clientId : ClientId} {sessionId : SessionId}
    (detached : ¬broker.IsAttached clientId sessionId) :
    broker.liveSubscriptions clientId sessionId = [] := by
  rw [List.eq_nil_iff_forall_not_mem]
  intro id member
  rcases consistent.listenerOwned ((mem_liveSubscriptions _ _ _ _).mp member) with
    ⟨attachment, owned, _⟩
  exact detached (consistent.attachedIff.mpr ⟨attachment, owned⟩)

/-- Nothing in the broker names the client any more. -/
structure Forgotten (broker : SessionBroker) (clientId : ClientId) : Prop where
  disconnected : clientId ∉ broker.connections
  noLease : ∀ sessionId, broker.holderOf sessionId ≠ some clientId
  notAttached : ∀ sessionId, ¬broker.IsAttached clientId sessionId
  noAttachment : ∀ sessionId, broker.attachment clientId sessionId = none
  noSubscription : ∀ sessionId, broker.liveSubscriptions clientId sessionId = []

theorem Consistent.forgotten {broker : SessionBroker} (consistent : Consistent broker)
    {clientId : ClientId} (disconnected : clientId ∉ broker.connections) :
    broker.Forgotten clientId := by
  have noAttachment : ∀ sessionId, broker.attachment clientId sessionId = none := by
    intro sessionId
    rw [Option.eq_none_iff_forall_ne_some]
    exact fun attachment found => disconnected (consistent.attachmentConnected found)
  have notAttached : ∀ sessionId, ¬broker.IsAttached clientId sessionId := by
    intro sessionId isAttached
    rcases consistent.attachedIff.mp isAttached with ⟨attachment, found⟩
    rw [noAttachment] at found
    cases found
  exact
    { disconnected := disconnected
      noLease := fun sessionId holds => notAttached sessionId (consistent.holder_attached holds)
      notAttached := notAttached
      noAttachment := noAttachment
      noSubscription := fun sessionId =>
        liveSubscriptions_of_notAttached consistent (notAttached sessionId) }

theorem notMem_connections_disconnect (environment : Environment) (broker : SessionBroker)
    (clientId : ClientId) :
    clientId ∉ (broker.disconnect environment clientId).1.connections := by
  rw [disconnect_eq, releaseAll_maps]
  exact fun member => ((OrderedSet.mem_delete _ _ _).mp member).2 rfl

/-- The joint statement about leases, attached sets, per-client attachments and
host subscriptions, together with what a disconnect leaves. -/
structure MapsAgree (broker : SessionBroker) : Prop where
  holder : ∀ sessionId lease, broker.leases.get sessionId = some lease →
    lease.holderId ∈ broker.connections ∧ broker.IsAttached lease.holderId sessionId
  attached : ∀ clientId sessionId, broker.IsAttached clientId sessionId ↔
    (broker.attachment clientId sessionId).isSome
  subscriptions : ∀ clientId sessionId,
    (broker.liveSubscriptions clientId sessionId).length =
      if broker.IsAttached clientId sessionId then 1 else 0
  afterDisconnect : ∀ environment clientId,
    (broker.disconnect environment clientId).1.Forgotten clientId

theorem Consistent.mapsAgree {broker : SessionBroker} (consistent : Consistent broker) :
    broker.MapsAgree where
  holder := by
    intro sessionId lease held
    have holds : broker.holderOf sessionId = some lease.holderId := by simp [holderOf, held]
    have isAttached := consistent.holder_attached holds
    rcases consistent.attachedIff.mp isAttached with ⟨attachment, found⟩
    exact ⟨consistent.attachmentConnected found, isAttached⟩
  attached := by
    intro clientId sessionId
    rw [consistent.attachedIff, Option.isSome_iff_exists]
  subscriptions := by
    intro clientId sessionId
    split
    · next isAttached =>
        rcases consistent.attachedIff.mp isAttached with ⟨attachment, found⟩
        rw [liveSubscriptions_of_attachment consistent found, List.length_singleton]
    · next detached =>
        rw [liveSubscriptions_of_notAttached consistent detached, List.length_nil]
  afterDisconnect := by
    intro environment clientId
    exact (consistent.disconnect environment clientId).forgotten
      (notMem_connections_disconnect environment broker clientId)

/-- In every reachable state of the broker the four maps agree. Client ids need
not even be distinct: a second connect under one id only replaces the channel. -/
theorem reachable_mapsAgree (sessions : OrderedMap SessionId HostSession)
    (agents : OrderedMap SessionId AgentStatus) (extras : SessionBrokerExtras)
    (events : List BrokerEvent) (broker : SessionBroker)
    (reached : Execution.run step (init sessions agents extras) events = some broker) :
    broker.MapsAgree :=
  (reachable_consistent reached).mapsAgree

/-- One live session with an empty log. -/
def oneSession : OrderedMap SessionId HostSession :=
  OrderedMap.empty.set "s" { createdAt := 0 }

/-- A writer and a reader on one session, and the writer preempted by the reader. -/
theorem reachable_mapsAgree_preempted :
    ∃ broker, Execution.run step (init oneSession .empty {})
        [.connect "a", .connect "b", .attach {} "a" { sessionId := "s", mode := .write } none,
          .attach {} "b" { sessionId := "s", mode := .write, force := true } none] =
          some broker ∧ broker.MapsAgree :=
  Exists.intro _ (And.intro rfl (reachable_mapsAgree oneSession .empty {}
    [.connect "a", .connect "b", .attach {} "a" { sessionId := "s", mode := .write } none,
      .attach {} "b" { sessionId := "s", mode := .write, force := true } none] _ rfl))

/-! ## A failing attach -/

/-- The broker's bookkeeping is as it was: only the host log may have grown. -/
structure RolledBack (before after : SessionBroker) : Prop where
  connections : after.connections = before.connections
  attached : after.attached = before.attached
  attachment : after.attachment = before.attachment
  leases : after.leases = before.leases
  listeners : after.sessions.listeners = before.sessions.listeners
  waitingApproval : after.waitingApproval = before.waitingApproval

theorem OnlyLogged.rolledBack {before after : SessionBroker} (same : OnlyLogged before after) :
    RolledBack before after :=
  ⟨same.connections, same.attached, same.attachment, same.leases, same.listeners,
    same.waitingApproval⟩

/-- The write attach that runs into somebody else's lease although its client is
already attached: the client is known, every `notify` of the replay returns, the
lease is held by another client and is not forced. -/
def EscalationRefused (environment : AttachEnvironment) (broker : SessionBroker)
    (clientId : ClientId) (params : SessionAttachParams) : Prop :=
  broker.IsAttached clientId params.sessionId ∧
    params.mode = .write ∧ params.force = false ∧
    (∃ holder, broker.holderOf params.sessionId = some holder ∧ holder ≠ clientId) ∧
    ∃ session replayed, broker.sessions.get params.sessionId = some session ∧
      broker.replay environment clientId params session = .ok replayed

theorem attached_dropAttachment_trackAttachment {broker : SessionBroker}
    (nonempty : ∀ {session clients}, broker.attached.get session = some clients →
      clients.isEmpty = false)
    {clientId : ClientId} {sessionId : SessionId} (listener : ListenerId)
    (detached : ¬broker.IsAttached clientId sessionId) :
    ((broker.trackAttachment clientId sessionId listener).dropAttachment clientId
      sessionId).attached = broker.attached := by
  unfold dropAttachment trackAttachment
  simp only [OrderedMap.get_set_self]
  cases found : broker.attached.get sessionId with
  | none =>
      rw [Option.getD_none, OrderedSet.delete_add_of_notMem (OrderedSet.notMem_empty clientId)]
      exact OrderedMap.delete_set_of_absent _ found
  | some clients =>
      have absent : clientId ∉ clients := fun member => detached ⟨clients, found, member⟩
      rw [Option.getD_some, OrderedSet.delete_add_of_notMem absent, nonempty found,
        OrderedMap.set_set]
      exact OrderedMap.set_eq_self_of_get found

theorem rolledBack_of_notAttached {broker : SessionBroker} (consistent : Consistent broker)
    {clientId : ClientId} {sessionId : SessionId} {live : SessionBroker}
    (same : OnlyLogged (broker.subscribed clientId sessionId) live)
    (detached : ¬broker.IsAttached clientId sessionId) :
    RolledBack broker ((live.trackAttachment clientId sessionId
      broker.sessions.nextListener).dropAttachment clientId sessionId) := by
  have noAttachment : broker.attachment clientId sessionId = none := by
    rw [Option.eq_none_iff_forall_ne_some]
    exact fun attachment found => detached (consistent.attachedIff.mpr ⟨attachment, found⟩)
  have attachmentSame : live.attachment = broker.attachment := same.attachment
  have attachedSame : live.attached = broker.attached := same.attached
  have isAttachedSame : live.IsAttached = broker.IsAttached := same.isAttached
  have unsubscribed := (consistent.onlyLogged_unsubscribed same).listeners
  constructor
  · rw [connections_dropAttachment]
    exact same.connections
  · rw [attached_dropAttachment_trackAttachment _ _ (by rwa [isAttachedSame]), attachedSame]
    rw [attachedSame]
    exact consistent.attachedNonempty
  · funext other session
    rw [attachment_dropAttachment, attachment_trackAttachment, attachmentSame]
    split
    · next isNew => rw [isNew.1, isNew.2, noAttachment]
    · rfl
  · rw [leases_dropAttachment]
    exact same.leases
  · rw [← unsubscribed]
    exact listeners_dropAttachment_trackAttachment (attachmentSame ▸ noAttachment)
  · rw [waitingApproval_dropAttachment]
    exact same.waitingApproval

/-- The escalation ends in an error with the client attached no more. -/
theorem EscalationRefused.detaches {environment : AttachEnvironment} {broker : SessionBroker}
    {clientId : ClientId} {params : SessionAttachParams} (consistent : Consistent broker)
    (refused : EscalationRefused environment broker clientId params)
    (pendingInteractions : Option (List PendingInteraction)) :
    (∃ thrown, (broker.attach environment clientId params pendingInteractions).result =
        .error thrown) ∧
      (broker.attach environment clientId params pendingInteractions).broker.attachment
        clientId params.sessionId = none := by
  rcases refused with ⟨isAttached, writing, unforced, held, session, replayed, live, finished⟩
  rcases consistent.attachedIff.mp isAttached with ⟨attachment, found⟩
  have connected := consistent.attachmentConnected found
  have same := onlyLogged_replay environment broker clientId params session
  rw [finished, Replay.final_ok] at same
  have holderSame : replayed.broker.holderOf = broker.holderOf := same.holderOf
  have refusal := (acquireLease_eq_error_iff environment.toEnvironment
    (replayed.broker.trackAttachment clientId params.sessionId broker.sessions.nextListener)
    clientId params.sessionId params.force).mpr ⟨unforced, by
      rw [← holderSame] at held
      exact held⟩
  rcases refusal with ⟨error, refusal⟩
  have listener : (broker.subscription clientId params.sessionId).listener =
    broker.sessions.nextListener := rfl
  have outcome : broker.attach environment clientId params pendingInteractions =
      ⟨.error (.remote error),
        (replayed.broker.trackAttachment clientId params.sessionId
          broker.sessions.nextListener).dropAttachment clientId params.sessionId,
        replayed.sent⟩ := by
    unfold attach
    simp only [connected, not_true_eq_false, if_false, live, finished, writing, listener,
      refusal]
  rw [outcome]
  exact ⟨⟨_, rfl⟩, by simp [attachment_dropAttachment]⟩

/-- In every reachable state, whatever the request and whatever the host and the
transports do meanwhile: a throwing attach leaves the bookkeeping as it was,
except for an escalation that runs into somebody else's lease. -/
theorem attach_rolledBack_iff (sessions : OrderedMap SessionId HostSession)
    (agents : OrderedMap SessionId AgentStatus) (extras : SessionBrokerExtras)
    (events : List BrokerEvent) (broker : SessionBroker)
    (reached : Execution.run step (init sessions agents extras) events = some broker)
    (environment : AttachEnvironment) (clientId : ClientId) (params : SessionAttachParams)
    (pendingInteractions : Option (List PendingInteraction)) :
    (∀ thrown, (broker.attach environment clientId params pendingInteractions).result =
        .error thrown →
      RolledBack broker
        (broker.attach environment clientId params pendingInteractions).broker) ↔
      ¬EscalationRefused environment broker clientId params := by
  have consistent := reachable_consistent reached
  constructor
  · intro rollsBack escalation
    rcases escalation.detaches consistent pendingInteractions with ⟨⟨thrown, threw⟩, dropped⟩
    rcases consistent.attachedIff.mp escalation.1 with ⟨attachment, found⟩
    rw [(rollsBack thrown threw).attachment, found] at dropped
    cases dropped
  · intro noEscalation thrown threw
    have ends := attach_ends environment broker clientId params pendingInteractions
    generalize broker.attach environment clientId params pendingInteractions = outcome
      at ends threw ⊢
    cases ends with
    | unknown absent => exact (OnlyLogged.refl broker).rolledBack
    | @notifyThrew session failed connected live interrupted =>
        have same := onlyLogged_replay environment broker clientId params session
        rw [interrupted, Replay.final_error] at same
        exact (consistent.onlyLogged_unsubscribed same).rolledBack
    | @locked session replayed refused connected live finished writing refusal =>
        have same := onlyLogged_replay environment broker clientId params session
        rw [finished, Replay.final_ok] at same
        have held := (acquireLease_eq_error_iff _ _ _ _ _).mp ⟨_, refusal⟩
        have holderSame : replayed.broker.holderOf = broker.holderOf := same.holderOf
        refine rolledBack_of_notAttached consistent same fun isAttached => noEscalation ?_
        refine ⟨isAttached, writing, held.1, ?_, session, replayed, live, finished⟩
        rw [← holderSame]
        exact held.2
    | attached connected live finished granted => cases threw

/-- A second client that reads along asks for write control while the first holds
it: the refusal throws the reader out. -/
theorem attach_escalation_detaches :
    ∃ broker, Execution.run step (init oneSession .empty {})
        [.connect "a", .connect "b", .attach {} "a" { sessionId := "s", mode := .write } none,
          .attach {} "b" { sessionId := "s", mode := .read } none] = some broker ∧
      broker.IsAttached "b" "s" ∧
      (broker.attach {} "b" { sessionId := "s", mode := .write } none).result =
        .error (.remote (sessionLocked "s" ⟨"a", ""⟩)) ∧
      ¬RolledBack broker
        (broker.attach {} "b" { sessionId := "s", mode := .write } none).broker := by
  refine ⟨_, rfl, by decide, rfl, fun rolledBack => ?_⟩
  exact absurd (congrFun (congrFun rolledBack.attachment "b") "s") (by decide)

/-- The same request from a client that is not attached yet is rolled back. -/
theorem attach_rolledBack_first :
    ∃ broker, Execution.run step (init oneSession .empty {})
        [.connect "a", .connect "b",
          .attach {} "a" { sessionId := "s", mode := .write } none] = some broker ∧
      ((∀ thrown, (broker.attach {} "b" { sessionId := "s", mode := .write } none).result =
          .error thrown →
        RolledBack broker
          (broker.attach {} "b" { sessionId := "s", mode := .write } none).broker) ↔
        ¬EscalationRefused {} broker "b" { sessionId := "s", mode := .write }) :=
  Exists.intro _ (And.intro rfl (attach_rolledBack_iff oneSession .empty {}
    [.connect "a", .connect "b", .attach {} "a" { sessionId := "s", mode := .write } none] _ rfl
    {} "b" { sessionId := "s", mode := .write } none))

end DshRemote.Backend.SessionBroker
