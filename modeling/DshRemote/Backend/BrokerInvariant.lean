import DshRemote.Backend.BrokerMachine

/-! # The joint invariant of the broker's maps

Leases, attached sets, per-client attachments and host listeners are four maps
updated by different operations in different orders. `ConsistentExcept` relates
all four; the exception is a client on its way out, whose leases outlive its
attachments for the length of one `disconnect`. -/

namespace DshRemote.Backend

namespace SessionBroker

/-- The four maps agree, except that a `leaving` client may hold the lease of a
session it is no longer attached to. -/
structure ConsistentExcept (leaving : ClientId → Prop) (broker : SessionBroker) : Prop where
  holderAttached : ∀ {sessionId clientId}, broker.holderOf sessionId = some clientId →
    leaving clientId ∨ broker.IsAttached clientId sessionId
  attachedIff : ∀ {clientId sessionId}, broker.IsAttached clientId sessionId ↔
    ∃ attachment, broker.attachment clientId sessionId = some attachment
  attachmentConnected : ∀ {clientId sessionId attachment},
    broker.attachment clientId sessionId = some attachment → clientId ∈ broker.connections
  attachmentListens : ∀ {clientId sessionId attachment},
    broker.attachment clientId sessionId = some attachment →
      broker.sessions.listeners.get attachment.unsubscribe = some ⟨clientId, sessionId⟩
  listenerOwned : ∀ {id listener}, broker.sessions.listeners.get id = some listener →
    ∃ attachment, broker.attachment listener.clientId listener.sessionId = some attachment ∧
      attachment.unsubscribe = id
  listenerOld : ∀ {id listener}, broker.sessions.listeners.get id = some listener →
    id < broker.sessions.nextListener
  attachedNonempty : ∀ {sessionId clients}, broker.attached.get sessionId = some clients →
    clients.isEmpty = false

abbrev Consistent (broker : SessionBroker) : Prop := ConsistentExcept (fun _ => False) broker

theorem Consistent.holder_attached {broker : SessionBroker} (consistent : Consistent broker)
    {sessionId : SessionId} {clientId : ClientId}
    (holds : broker.holderOf sessionId = some clientId) :
    broker.IsAttached clientId sessionId :=
  (consistent.holderAttached holds).resolve_left id

theorem consistent_init (sessions : OrderedMap SessionId HostSession)
    (agents : OrderedMap SessionId AgentStatus) (extras : SessionBrokerExtras) :
    Consistent (init sessions agents extras) := by
  constructor <;> simp [init, holderOf, attachment, IsAttached]

/-! ## What one operation does to the readings of the maps -/

theorem holderOf_setLease (broker : SessionBroker) (taken sessionId : SessionId)
    (lease : Lease) : (broker.setLease taken lease).holderOf sessionId =
      if sessionId = taken then some lease.holderId else broker.holderOf sessionId := by
  unfold setLease holderOf
  rw [OrderedMap.get_set]
  split <;> rfl

theorem holderOf_releaseLease (broker : SessionBroker) (released sessionId : SessionId) :
    (broker.releaseLease released).holderOf sessionId =
      if sessionId = released then none else broker.holderOf sessionId := by
  unfold releaseLease holderOf
  rw [OrderedMap.get_delete]
  split <;> rfl

theorem attachment_trackAttachment (broker : SessionBroker) (clientId other : ClientId)
    (sessionId session : SessionId) (listener : ListenerId) :
    (broker.trackAttachment clientId sessionId listener).attachment other session =
      if other = clientId ∧ session = sessionId then some ⟨sessionId, listener⟩
      else broker.attachment other session := by
  unfold trackAttachment attachment
  simp only [OrderedMap.get_set]
  by_cases sameClient : other = clientId
  · subst sameClient
    simp only [↓reduceIte, Option.bind_some, OrderedMap.get_set, true_and]
    split
    · rfl
    · cases broker.attachmentsByClient.get other <;> simp
  · simp [sameClient]

theorem isAttached_trackAttachment (broker : SessionBroker) (clientId other : ClientId)
    (sessionId session : SessionId) (listener : ListenerId) :
    (broker.trackAttachment clientId sessionId listener).IsAttached other session ↔
      (other = clientId ∧ session = sessionId) ∨ broker.IsAttached other session := by
  unfold trackAttachment IsAttached
  simp only [OrderedMap.get_set]
  by_cases sameSession : session = sessionId
  · subst sameSession
    cases found : broker.attached.get session <;> simp [or_comm]
  · simp [sameSession]

theorem get_listeners_trackAttachment (broker : SessionBroker) (clientId : ClientId)
    (sessionId : SessionId) (listener id : ListenerId) :
    (broker.trackAttachment clientId sessionId listener).sessions.listeners.get id =
      if (broker.attachment clientId sessionId).map Attachment.unsubscribe = some id then none
      else broker.sessions.listeners.get id := by
  unfold trackAttachment attachment
  cases found : broker.attachmentsByClient.get clientId with
  | none => simp
  | some bySession =>
      cases previous : bySession.get sessionId <;>
        simp [previous, SessionHost.unsubscribe, OrderedMap.get_delete, eq_comm]

@[simp] theorem nextListener_trackAttachment (broker : SessionBroker) (clientId : ClientId)
    (sessionId : SessionId) (listener : ListenerId) :
    (broker.trackAttachment clientId sessionId listener).sessions.nextListener =
      broker.sessions.nextListener := by
  unfold trackAttachment
  simp only
  split <;> rfl

theorem dropAttachment_of_none {broker : SessionBroker} {clientId : ClientId}
    {sessionId : SessionId} (absent : broker.attachment clientId sessionId = none) :
    broker.dropAttachment clientId sessionId = broker := by
  unfold dropAttachment
  unfold attachment at absent
  cases found : broker.attachmentsByClient.get clientId with
  | none => rfl
  | some bySession => simp_all

theorem attachment_dropAttachment (broker : SessionBroker) (clientId other : ClientId)
    (sessionId session : SessionId) :
    (broker.dropAttachment clientId sessionId).attachment other session =
      if other = clientId ∧ session = sessionId then none
      else broker.attachment other session := by
  cases dropped : broker.attachment clientId sessionId with
  | none =>
      rw [dropAttachment_of_none dropped]
      split
      · next same => rw [same.1, same.2, dropped]
      · rfl
  | some attachment =>
      rcases Option.bind_eq_some_iff.mp dropped with ⟨bySession, found, present⟩
      unfold dropAttachment SessionBroker.attachment
      simp only [found, present, OrderedMap.get_set]
      by_cases sameClient : other = clientId
      · subst sameClient
        simp [found, OrderedMap.get_delete]
      · simp [sameClient]

theorem get_listeners_dropAttachment (broker : SessionBroker) (clientId : ClientId)
    (sessionId : SessionId) (id : ListenerId) :
    (broker.dropAttachment clientId sessionId).sessions.listeners.get id =
      if (broker.attachment clientId sessionId).map Attachment.unsubscribe = some id then none
      else broker.sessions.listeners.get id := by
  cases dropped : broker.attachment clientId sessionId with
  | none => simp [dropAttachment_of_none dropped]
  | some attachment =>
      rcases Option.bind_eq_some_iff.mp dropped with ⟨bySession, found, present⟩
      unfold dropAttachment
      simp only [found, present, SessionHost.unsubscribe, OrderedMap.get_delete,
        Option.map_some, Option.some.injEq, @eq_comm _ id]

theorem isAttached_dropAttachment {broker : SessionBroker} {clientId : ClientId}
    {sessionId : SessionId} {attachment : Attachment}
    (dropped : broker.attachment clientId sessionId = some attachment)
    (other : ClientId) (session : SessionId) :
    (broker.dropAttachment clientId sessionId).IsAttached other session ↔
      ¬(other = clientId ∧ session = sessionId) ∧ broker.IsAttached other session := by
  rcases Option.bind_eq_some_iff.mp dropped with ⟨bySession, found, present⟩
  unfold dropAttachment IsAttached
  simp only [found, present]
  cases clientsFound : broker.attached.get sessionId with
  | none =>
      by_cases sameSession : session = sessionId
      · subst sameSession
        simp [clientsFound]
      · simp [sameSession]
  | some clients =>
      by_cases sameSession : session = sessionId
      · subst sameSession
        by_cases empty : (clients.delete clientId).isEmpty = true
        · have noneLeft := (OrderedSet.isEmpty_iff _).mp empty other
          rw [OrderedSet.mem_delete] at noneLeft
          simp only [empty, if_true, OrderedMap.get_delete_self, clientsFound]
          simpa [and_comm, not_and_or] using noneLeft
        · simp [empty, clientsFound, and_comm]
      · by_cases empty : (clients.delete clientId).isEmpty = true <;>
          simp [empty, sameSession, OrderedMap.get_set, OrderedMap.get_delete]

theorem attachedNonempty_dropAttachment {broker : SessionBroker} {clientId : ClientId}
    {sessionId : SessionId}
    (nonempty : ∀ {session clients}, broker.attached.get session = some clients →
      clients.isEmpty = false)
    {session : SessionId} {clients : OrderedSet ClientId}
    (found : (broker.dropAttachment clientId sessionId).attached.get session = some clients) :
    clients.isEmpty = false := by
  unfold dropAttachment at found
  cases bySessionFound : broker.attachmentsByClient.get clientId with
  | none => exact nonempty (by simpa [bySessionFound] using found)
  | some bySession =>
      simp only [bySessionFound] at found
      cases dropped : bySession.get sessionId with
      | none => exact nonempty (by simpa [dropped] using found)
      | some attachment =>
          simp only [dropped] at found
          cases clientsFound : broker.attached.get sessionId with
          | none => exact nonempty (by simpa [clientsFound] using found)
          | some attachedClients =>
              simp only [clientsFound] at found
              split at found
              · exact nonempty (OrderedMap.of_get_delete found).2
              · next remains =>
                  rw [OrderedMap.get_set] at found
                  split at found
                  · cases found
                    simpa using remains
                  · exact nonempty found

@[simp] theorem leases_dropAttachment (broker : SessionBroker) (clientId : ClientId)
    (sessionId : SessionId) :
    (broker.dropAttachment clientId sessionId).leases = broker.leases := by
  unfold dropAttachment
  repeat' split
  all_goals rfl

@[simp] theorem connections_dropAttachment (broker : SessionBroker) (clientId : ClientId)
    (sessionId : SessionId) :
    (broker.dropAttachment clientId sessionId).connections = broker.connections := by
  unfold dropAttachment
  repeat' split
  all_goals rfl

@[simp] theorem waitingApproval_dropAttachment (broker : SessionBroker) (clientId : ClientId)
    (sessionId : SessionId) :
    (broker.dropAttachment clientId sessionId).waitingApproval = broker.waitingApproval := by
  unfold dropAttachment
  repeat' split
  all_goals rfl

/-- Dropping an attachment that replaced none unregisters the tracked listener. -/
theorem listeners_dropAttachment_trackAttachment {broker : SessionBroker} {clientId : ClientId}
    {sessionId : SessionId} {listener : ListenerId}
    (first : broker.attachment clientId sessionId = none) :
    ((broker.trackAttachment clientId sessionId listener).dropAttachment clientId
      sessionId).sessions.listeners = broker.sessions.listeners.delete listener := by
  unfold attachment at first
  unfold dropAttachment trackAttachment
  simp only [OrderedMap.get_set_self]
  cases found : broker.attachmentsByClient.get clientId with
  | none => rfl
  | some bySession =>
      rw [found, Option.bind_some] at first
      simp [first, SessionHost.unsubscribe]

@[simp] theorem nextListener_dropAttachment (broker : SessionBroker) (clientId : ClientId)
    (sessionId : SessionId) :
    (broker.dropAttachment clientId sessionId).sessions.nextListener =
      broker.sessions.nextListener := by
  unfold dropAttachment
  repeat' split
  all_goals rfl

/-! ## Steps that leave the four maps alone -/

/-- Two brokers with the same connections, attachments, leases and listeners. -/
structure SameMaps (before after : SessionBroker) : Prop where
  connections : after.connections = before.connections
  attached : after.attached = before.attached
  attachmentsByClient : after.attachmentsByClient = before.attachmentsByClient
  leases : after.leases = before.leases
  listeners : after.sessions.listeners = before.sessions.listeners
  nextListener : before.sessions.nextListener ≤ after.sessions.nextListener

theorem SameMaps.refl (broker : SessionBroker) : SameMaps broker broker :=
  ⟨rfl, rfl, rfl, rfl, rfl, Nat.le_refl _⟩

theorem SameMaps.trans {first second third : SessionBroker} (left : SameMaps first second)
    (right : SameMaps second third) : SameMaps first third :=
  ⟨right.connections.trans left.connections, right.attached.trans left.attached,
    right.attachmentsByClient.trans left.attachmentsByClient, right.leases.trans left.leases,
    right.listeners.trans left.listeners, Nat.le_trans left.nextListener right.nextListener⟩

/-- Two brokers that differ at most in their host's log. -/
structure OnlyLogged (before after : SessionBroker) : Prop extends SameMaps before after where
  agents : after.agents = before.agents
  extras : after.extras = before.extras
  waitingApproval : after.waitingApproval = before.waitingApproval

theorem OnlyLogged.refl (broker : SessionBroker) : OnlyLogged broker broker :=
  ⟨SameMaps.refl broker, rfl, rfl, rfl⟩

theorem OnlyLogged.trans {first second third : SessionBroker} (left : OnlyLogged first second)
    (right : OnlyLogged second third) : OnlyLogged first third :=
  ⟨left.toSameMaps.trans right.toSameMaps, right.agents.trans left.agents,
    right.extras.trans left.extras, right.waitingApproval.trans left.waitingApproval⟩

theorem SameMaps.holderOf {before after : SessionBroker} (same : SameMaps before after) :
    after.holderOf = before.holderOf := by
  funext sessionId
  simp only [SessionBroker.holderOf, same.leases]

theorem SameMaps.attachment {before after : SessionBroker} (same : SameMaps before after) :
    after.attachment = before.attachment := by
  funext clientId sessionId
  simp only [SessionBroker.attachment, same.attachmentsByClient]

theorem SameMaps.isAttached {before after : SessionBroker} (same : SameMaps before after) :
    after.IsAttached = before.IsAttached := by
  funext clientId sessionId
  simp only [IsAttached, same.attached]

theorem ConsistentExcept.of_sameMaps {leaving : ClientId → Prop} {before after : SessionBroker}
    (consistent : ConsistentExcept leaving before) (same : SameMaps before after) :
    ConsistentExcept leaving after := by
  constructor
  · rw [same.holderOf, same.isAttached]
    exact consistent.holderAttached
  · rw [same.isAttached, same.attachment]
    exact consistent.attachedIff
  · rw [same.attachment, same.connections]
    exact consistent.attachmentConnected
  · rw [same.attachment, same.listeners]
    exact consistent.attachmentListens
  · rw [same.attachment, same.listeners]
    exact consistent.listenerOwned
  · intro id listener found
    rw [same.listeners] at found
    exact Nat.lt_of_lt_of_le (consistent.listenerOld found) same.nextListener
  · rw [same.attached]
    exact consistent.attachedNonempty

theorem onlyLogged_hostAppend (environment : Environment) (broker : SessionBroker)
    (buffering : Option ListenerId) (request : HostAppend) :
    OnlyLogged broker (broker.hostAppend environment buffering request).1 := by
  have sameMaps : SameMaps broker { broker with
      sessions := (broker.sessions.append request).1 } := by
    constructor <;> simp
  unfold hostAppend
  simp only
  split <;> exact ⟨sameMaps, rfl, rfl, rfl⟩

theorem sameMaps_hostEvent (environment : Environment) (broker : SessionBroker)
    (event : HostEvent) : SameMaps broker (broker.hostEvent environment event).1 := by
  cases event with
  | append request => exact (onlyLogged_hostAppend environment broker none request).toSameMaps
  | sessionEntered | sessionDisposed | agentStatus | agentRemoved =>
      exact ⟨rfl, rfl, rfl, rfl, rfl, Nat.le_refl _⟩

theorem sameMaps_setWaitingApproval (environment : Environment) (broker : SessionBroker)
    (sessionId : SessionId) (waiting : Bool) :
    SameMaps broker (broker.setWaitingApproval environment sessionId waiting).1 := by
  unfold setWaitingApproval
  split
  · exact SameMaps.refl broker
  · exact ⟨rfl, rfl, rfl, rfl, rfl, Nat.le_refl _⟩

/-! ## The replay of an attach -/

end SessionBroker

namespace Replay

/-- The state a replay ended in, whether or not a `notify` threw. -/
def final : Except Replay Replay → Replay
  | .ok replay => replay
  | .error replay => replay

@[simp] theorem final_ok (replay : Replay) : final (.ok replay) = replay := rfl

@[simp] theorem final_error (replay : Replay) : final (.error replay) = replay := rfl

/-- What neither the host's appends nor the sends of an `attach` break. -/
structure Kept (environment : Environment) (subscription : Subscription)
    (holds : Replay → Prop) : Prop where
  hostAppend : ∀ {replay : Replay} (request : HostAppend), holds replay →
    holds (replay.hostAppend environment subscription request)
  sent : ∀ {replay : Replay} (event : SessionEvent), holds replay →
    holds { replay with
      sent := replay.sent ++ [⟨subscription.clientId, .sessionEvent subscription.sessionId event⟩]
      duringForward := replay.duringForward.tail }
  shifted : ∀ {replay : Replay} (rest : List SessionEvent), holds replay →
    holds { replay with liveBuffer := rest }

namespace Kept

variable {environment : Environment} {subscription : Subscription} {holds : Replay → Prop}

theorem hostAppends (kept : Kept environment subscription holds) {replay : Replay}
    (start : holds replay) (requests : List HostAppend) :
    holds (replay.hostAppends environment subscription requests) := by
  simp only [Replay.hostAppends]
  induction requests generalizing replay with
  | nil => exact start
  | cons request rest induction => exact induction (kept.hostAppend request start)

theorem forward (kept : Kept environment subscription holds) {replay : Replay}
    (start : holds replay) (event : SessionEvent) :
    holds (final (replay.forward environment subscription event)) := by
  simp only [Replay.forward]
  split
  · exact kept.hostAppends (kept.sent event start) _
  · exact start

theorem replaySnapshot (kept : Kept environment subscription holds) {replay : Replay}
    (start : holds replay) (sinceSeq : Int) (events : List SessionEvent) :
    holds (final (replay.replaySnapshot environment subscription sinceSeq events)) := by
  induction events generalizing replay with
  | nil => exact start
  | cons event rest induction =>
      simp only [Replay.replaySnapshot]
      split
      · have forwarded := kept.forward start event
        split
        · next next step =>
            rw [step] at forwarded
            exact induction forwarded
        · next failed step =>
            rw [step] at forwarded
            exact forwarded
      · exact induction start

theorem drain (kept : Kept environment subscription holds) {replay : Replay}
    (start : holds replay) (fuel : Nat) (watermark : Int) :
    holds (final (replay.drain environment subscription fuel watermark)) := by
  induction fuel generalizing watermark replay with
  | zero => exact start
  | succ fuel induction =>
      simp only [Replay.drain]
      split
      · exact start
      · next event rest _ =>
          split
          · have forwarded := kept.forward (kept.shifted rest start) event
            split
            · next next step =>
                rw [step] at forwarded
                exact induction forwarded event.seq
            · next failed step =>
                rw [step] at forwarded
                exact forwarded
          · exact induction (kept.shifted rest start) watermark

end Kept

end Replay

namespace SessionBroker

/-- The working state of an `attach` right after it subscribed. -/
def startReplay (environment : AttachEnvironment) (broker : SessionBroker)
    (clientId : ClientId) (sessionId : SessionId) : Replay where
  broker := broker.subscribed clientId sessionId
  liveBuffer := []
  sent := []
  duringForward := environment.duringForward

/-- What holds after the subscription and is kept throughout holds at the end, whatever
the host does meanwhile and wherever a `notify` throws. -/
theorem replay_kept {environment : AttachEnvironment} {broker : SessionBroker}
    {clientId : ClientId} {params : SessionAttachParams} {holds : Replay → Prop}
    (kept : Replay.Kept environment.toEnvironment
      (broker.subscription clientId params.sessionId) holds)
    (start : holds (broker.startReplay environment clientId params.sessionId))
    (session : HostSession) :
    holds (Replay.final (broker.replay environment clientId params session)) := by
  have prepared : holds (broker.prepareReplay environment clientId params.sessionId) :=
    kept.hostAppends start environment.beforeSnapshot
  cases since : params.sinceSeq with
  | none =>
      simp only [replay, Replay.replaySince, since]
      exact kept.drain prepared _ _
  | some sinceSeq =>
      have replayed := kept.replaySnapshot prepared sinceSeq
        (((broker.prepareReplay environment clientId
          params.sessionId).broker.sessions.get params.sessionId).getD session).events
      simp only [replay, Replay.replaySince, since]
      split
      · next failed step =>
          rw [step] at replayed
          exact replayed
      · next next step =>
          rw [step] at replayed
          exact kept.drain replayed _ _

theorem onlyLogged_replay (environment : AttachEnvironment) (broker : SessionBroker)
    (clientId : ClientId) (params : SessionAttachParams) (session : HostSession) :
    OnlyLogged (broker.subscribed clientId params.sessionId)
      (Replay.final (broker.replay environment clientId params session)).broker := by
  have kept : Replay.Kept environment.toEnvironment
      (broker.subscription clientId params.sessionId)
      (fun replay => OnlyLogged (broker.subscribed clientId params.sessionId)
        replay.broker) := by
    constructor
    · intro replay request same
      exact same.trans (onlyLogged_hostAppend _ _ _ _)
    · intro replay event same
      exact same
    · intro replay rest same
      exact same
  exact replay_kept kept (OnlyLogged.refl _) session

/-! ## Preservation, one lemma for each kind of update -/

section Preservation

variable {leaving : ClientId → Prop} {broker : SessionBroker}

theorem ConsistentExcept.owner_unique (consistent : ConsistentExcept leaving broker)
    {clientId other : ClientId} {sessionId session : SessionId} {first second : Attachment}
    (firstFound : broker.attachment clientId sessionId = some first)
    (secondFound : broker.attachment other session = some second)
    (same : first.unsubscribe = second.unsubscribe) :
    clientId = other ∧ sessionId = session := by
  have listens := consistent.attachmentListens firstFound
  rw [same, consistent.attachmentListens secondFound] at listens
  cases listens
  exact ⟨rfl, rfl⟩

theorem ConsistentExcept.drop (consistent : ConsistentExcept leaving broker)
    {clientId : ClientId} {sessionId : SessionId}
    (released : leaving clientId ∨ broker.holderOf sessionId ≠ some clientId) :
    ConsistentExcept leaving (broker.dropAttachment clientId sessionId) := by
  cases dropped : broker.attachment clientId sessionId with
  | none => rwa [dropAttachment_of_none dropped]
  | some gone =>
      have sameHolder : (broker.dropAttachment clientId sessionId).holderOf =
          broker.holderOf := by
        funext session
        simp [holderOf]
      have listeners := broker.get_listeners_dropAttachment clientId sessionId
      simp only [dropped, Option.map_some, Option.some.injEq] at listeners
      constructor
      · intro session holder holds
        rw [sameHolder] at holds
        rw [isAttached_dropAttachment dropped]
        by_cases same : holder = clientId ∧ session = sessionId
        · rcases same with ⟨rfl, rfl⟩
          exact Or.inl (released.resolve_right (not_not_intro holds))
        · exact (consistent.holderAttached holds).imp_right fun isAttached =>
            ⟨same, isAttached⟩
      · intro other session
        rw [isAttached_dropAttachment dropped, attachment_dropAttachment,
          consistent.attachedIff]
        split <;> simp_all
      · intro other session attachment found
        rw [attachment_dropAttachment] at found
        rw [connections_dropAttachment]
        split at found
        · cases found
        · exact consistent.attachmentConnected found
      · intro other session attachment found
        rw [attachment_dropAttachment] at found
        split at found
        · cases found
        · next different =>
            rw [listeners, if_neg]
            · exact consistent.attachmentListens found
            · intro same
              have owner := consistent.owner_unique dropped found same
              exact different ⟨owner.1.symm, owner.2.symm⟩
      · intro id listener found
        rw [listeners] at found
        split at found
        · cases found
        · next kept =>
            rcases consistent.listenerOwned found with ⟨attachment, owned, rfl⟩
            refine ⟨attachment, ?_, rfl⟩
            rw [attachment_dropAttachment, if_neg, owned]
            rintro ⟨sameClient, sameSession⟩
            rw [sameClient, sameSession, dropped] at owned
            cases owned
            exact kept rfl
      · intro id listener found
        rw [listeners] at found
        rw [nextListener_dropAttachment]
        split at found
        · cases found
        · exact consistent.listenerOld found
      · intro session clients found
        exact attachedNonempty_dropAttachment consistent.attachedNonempty found

theorem ConsistentExcept.release (consistent : ConsistentExcept leaving broker)
    (sessionId : SessionId) : ConsistentExcept leaving (broker.releaseLease sessionId) where
  holderAttached := by
    intro session clientId holds
    rw [holderOf_releaseLease] at holds
    split at holds
    · cases holds
    · exact consistent.holderAttached holds
  attachedIff := consistent.attachedIff
  attachmentConnected := consistent.attachmentConnected
  attachmentListens := consistent.attachmentListens
  listenerOwned := consistent.listenerOwned
  listenerOld := consistent.listenerOld
  attachedNonempty := consistent.attachedNonempty

theorem ConsistentExcept.take (consistent : ConsistentExcept leaving broker)
    {clientId : ClientId} {sessionId : SessionId} (isAttached : broker.IsAttached clientId sessionId)
    (attachedAt : String) :
    ConsistentExcept leaving (broker.setLease sessionId ⟨clientId, attachedAt⟩) where
  holderAttached := by
    intro session holder holds
    rw [holderOf_setLease] at holds
    split at holds
    · next same =>
        cases holds
        exact Or.inr (same ▸ isAttached)
    · exact consistent.holderAttached holds
  attachedIff := consistent.attachedIff
  attachmentConnected := consistent.attachmentConnected
  attachmentListens := consistent.attachmentListens
  listenerOwned := consistent.listenerOwned
  listenerOld := consistent.listenerOld
  attachedNonempty := consistent.attachedNonempty

/-- Unregistering a listener that `attach` registered but never tracked restores
the maps of the broker it started from. -/
theorem ConsistentExcept.onlyLogged_unsubscribed (consistent : ConsistentExcept leaving broker)
    {clientId : ClientId} {sessionId : SessionId} {failed : SessionBroker}
    (same : OnlyLogged (broker.subscribed clientId sessionId) failed) :
    OnlyLogged broker { failed with
      sessions := failed.sessions.unsubscribe broker.sessions.nextListener } where
  connections := same.connections
  attached := same.attached
  attachmentsByClient := same.attachmentsByClient
  leases := same.leases
  listeners := by
    have registered : failed.sessions.listeners =
        broker.sessions.listeners.set broker.sessions.nextListener ⟨clientId, sessionId⟩ :=
      same.listeners
    simp only [SessionHost.unsubscribe, registered]
    apply OrderedMap.delete_set_of_absent
    rw [Option.eq_none_iff_forall_ne_some]
    intro listener found
    exact Nat.lt_irrefl _ (consistent.listenerOld found)
  nextListener := Nat.le_of_succ_le same.nextListener
  agents := same.agents
  extras := same.extras
  waitingApproval := same.waitingApproval

/-- Tracking the listener that `attach` registered. `live` is the broker after the
replay, which differs from the subscribed one only in its log. -/
theorem ConsistentExcept.track (consistent : ConsistentExcept leaving broker)
    {clientId : ClientId} {sessionId : SessionId} {live : SessionBroker}
    (connected : clientId ∈ broker.connections)
    (same : SameMaps (broker.subscribed clientId sessionId) live) :
    ConsistentExcept leaving
      (live.trackAttachment clientId sessionId broker.sessions.nextListener) := by
  have attachmentSame : live.attachment = broker.attachment := same.attachment
  have isAttachedSame : live.IsAttached = broker.IsAttached := same.isAttached
  have holderSame : live.holderOf = broker.holderOf := same.holderOf
  have listenersSame : live.sessions.listeners =
      broker.sessions.listeners.set broker.sessions.nextListener ⟨clientId, sessionId⟩ :=
    same.listeners
  have nextGrown : broker.sessions.nextListener + 1 ≤ live.sessions.nextListener :=
    same.nextListener
  have listeners : ∀ id,
      (live.trackAttachment clientId sessionId
        broker.sessions.nextListener).sessions.listeners.get id =
      if (broker.attachment clientId sessionId).map Attachment.unsubscribe = some id then none
      else if id = broker.sessions.nextListener then some ⟨clientId, sessionId⟩
      else broker.sessions.listeners.get id := by
    intro id
    rw [get_listeners_trackAttachment, attachmentSame, listenersSame, OrderedMap.get_set]
  have freshListener : (broker.attachment clientId sessionId).map Attachment.unsubscribe ≠
      some broker.sessions.nextListener := by
    intro equal
    rcases Option.map_eq_some_iff.mp equal with ⟨previous, found, isNext⟩
    have old := consistent.listenerOld (consistent.attachmentListens found)
    exact absurd (isNext ▸ old) (Nat.lt_irrefl _)
  constructor
  · intro session holder holds
    rw [isAttached_trackAttachment, isAttachedSame]
    have before : broker.holderOf session = some holder := holderSame ▸ holds
    exact (consistent.holderAttached before).imp_right Or.inr
  · intro other session
    rw [isAttached_trackAttachment, attachment_trackAttachment, isAttachedSame, attachmentSame,
      consistent.attachedIff]
    split <;> simp_all
  · intro other session attachment found
    have connectionsSame : live.connections = broker.connections := same.connections
    change other ∈ live.connections
    rw [connectionsSame]
    rw [attachment_trackAttachment, attachmentSame] at found
    split at found
    · next isNew => exact isNew.1 ▸ connected
    · exact consistent.attachmentConnected found
  · intro other session attachment found
    rw [attachment_trackAttachment, attachmentSame] at found
    rw [listeners]
    split at found
    · next isNew =>
        cases found
        rw [if_neg freshListener, if_pos rfl, isNew.1, isNew.2]
    · next isOld =>
        have listens := consistent.attachmentListens found
        have old := consistent.listenerOld listens
        rw [if_neg, if_neg (Nat.ne_of_lt old), listens]
        intro equal
        rcases Option.map_eq_some_iff.mp equal with ⟨previous, previousFound, sameListener⟩
        have owner := consistent.owner_unique previousFound found sameListener
        exact isOld ⟨owner.1.symm, owner.2.symm⟩
  · intro id listener found
    rw [listeners] at found
    split at found
    · cases found
    · next kept =>
        split at found
        · next isNext =>
            cases found
            exact ⟨_, by rw [attachment_trackAttachment, if_pos ⟨rfl, rfl⟩], isNext.symm⟩
        · rcases consistent.listenerOwned found with ⟨attachment, owned, rfl⟩
          refine ⟨attachment, ?_, rfl⟩
          rw [attachment_trackAttachment, attachmentSame, if_neg, owned]
          rintro ⟨sameClient, sameSession⟩
          rw [sameClient, sameSession] at owned
          exact kept (by rw [owned]; rfl)
  · intro id listener found
    rw [nextListener_trackAttachment]
    refine Nat.lt_of_lt_of_le ?_ nextGrown
    rw [listeners] at found
    split at found
    · cases found
    · split at found
      · next isNext => exact isNext ▸ Nat.lt_succ_self _
      · exact Nat.lt_succ_of_lt (consistent.listenerOld found)
  · intro session clients found
    have attachedSame : live.attached = broker.attached := same.attached
    simp only [trackAttachment, OrderedMap.get_set, attachedSame] at found
    split at found
    · cases found
      rw [Bool.eq_false_iff, Ne, OrderedSet.isEmpty_iff]
      intro noMember
      exact noMember clientId (by simp)
    · exact consistent.attachedNonempty found

end Preservation

/-! ## What an attach can do -/

theorem acquireLease_eq_error_iff (environment : Environment) (broker : SessionBroker)
    (clientId : ClientId) (sessionId : SessionId) (force : Bool) :
    (∃ refused, broker.acquireLease environment clientId sessionId force = .error refused) ↔
      force = false ∧ ∃ holder, broker.holderOf sessionId = some holder ∧ holder ≠ clientId := by
  unfold acquireLease holderOf
  cases broker.leases.get sessionId with
  | none => simp
  | some lease =>
      by_cases mine : lease.holderId = clientId
      · simp [mine]
      · cases force <;> simp [mine]

/-- A granted lease is the client's own: it had it, or it has just taken it, which is
announced. -/
theorem acquireLease_ok {environment : Environment} {broker holding : SessionBroker}
    {clientId : ClientId} {sessionId : SessionId} {force : Bool} {broadcast : List Sent}
    (granted : broker.acquireLease environment clientId sessionId force =
      .ok (holding, broadcast)) :
    holding = broker ∧ broadcast = [] ∨
      (broker.holderOf sessionId = none ∨ force = true) ∧
        holding = broker.setLease sessionId ⟨clientId, environment.now⟩ ∧
        ∃ reason, broadcast =
          holding.broadcastControl environment sessionId (some clientId) reason := by
  unfold acquireLease at granted
  cases held : broker.leases.get sessionId with
  | none =>
      simp only [held] at granted
      cases granted
      exact Or.inr ⟨Or.inl (by simp [holderOf, held]), rfl, _, rfl⟩
  | some lease =>
      simp only [held] at granted
      split at granted
      · next mine =>
          cases granted
          exact Or.inl ⟨rfl, rfl⟩
      · split at granted
        · next forced =>
            cases granted
            exact Or.inr ⟨Or.inr forced, rfl, _, rfl⟩
        · cases granted

/-- The four ways an attach can end. -/
inductive AttachEnds (environment : AttachEnvironment) (broker : SessionBroker)
    (clientId : ClientId) (params : SessionAttachParams)
    (pendingInteractions : Option (List PendingInteraction)) : AttachOutcome → Prop
  | unknown {error : RemoteError}
      (absent : clientId ∉ broker.connections ∨ broker.sessions.get params.sessionId = none) :
      AttachEnds environment broker clientId params pendingInteractions
        ⟨.error (.remote error), broker, []⟩
  | notifyThrew {session : HostSession} {failed : Replay}
      (connected : clientId ∈ broker.connections)
      (live : broker.sessions.get params.sessionId = some session)
      (threw : broker.replay environment clientId params session = .error failed) :
      AttachEnds environment broker clientId params pendingInteractions
        ⟨.error .foreign,
          { failed.broker with
            sessions := failed.broker.sessions.unsubscribe broker.sessions.nextListener },
          failed.sent⟩
  | locked {session : HostSession} {replayed : Replay} {refused : RemoteError}
      (connected : clientId ∈ broker.connections)
      (live : broker.sessions.get params.sessionId = some session)
      (finished : broker.replay environment clientId params session = .ok replayed)
      (writing : params.mode = .write)
      (refusal : (replayed.broker.trackAttachment clientId params.sessionId
          broker.sessions.nextListener).acquireLease environment.toEnvironment clientId
          params.sessionId params.force = .error refused) :
      AttachEnds environment broker clientId params pendingInteractions
        ⟨.error (.remote refused),
          (replayed.broker.trackAttachment clientId params.sessionId
            broker.sessions.nextListener).dropAttachment clientId params.sessionId,
          replayed.sent⟩
  | attached {session : HostSession} {replayed : Replay} {holding : SessionBroker}
      {broadcast : List Sent}
      (connected : clientId ∈ broker.connections)
      (live : broker.sessions.get params.sessionId = some session)
      (finished : broker.replay environment clientId params session = .ok replayed)
      (granted : holding = replayed.broker.trackAttachment clientId params.sessionId
            broker.sessions.nextListener ∧ broadcast = [] ∨
          params.mode = .write ∧
            (replayed.broker.holderOf params.sessionId = none ∨ params.force = true) ∧
            holding = (replayed.broker.trackAttachment clientId params.sessionId
              broker.sessions.nextListener).setLease params.sessionId
                ⟨clientId, environment.now⟩ ∧
            ∃ reason, broadcast = holding.broadcastControl environment.toEnvironment
              params.sessionId (some clientId) reason) :
      AttachEnds environment broker clientId params pendingInteractions
        ⟨.ok (holding.attachResult params.sessionId session pendingInteractions), holding,
          replayed.sent ++ broadcast⟩

theorem attach_ends (environment : AttachEnvironment) (broker : SessionBroker)
    (clientId : ClientId) (params : SessionAttachParams)
    (pendingInteractions : Option (List PendingInteraction)) :
    AttachEnds environment broker clientId params pendingInteractions
      (broker.attach environment clientId params pendingInteractions) := by
  unfold attach
  split
  · next absent => exact .unknown (Or.inl absent)
  · next connected =>
      rw [not_not] at connected
      split
      · next absent => exact .unknown (Or.inr absent)
      · next session live =>
          simp only
          split
          · next failed threw => exact .notifyThrew connected live threw
          · next replayed finished =>
              split
              · have ends : AttachEnds environment broker clientId params pendingInteractions _ :=
                  .attached connected live finished (Or.inl ⟨rfl, rfl⟩)
                rwa [List.append_nil] at ends
              · next writing =>
                  split
                  · next refused refusal =>
                      exact .locked connected live finished writing refusal
                  · next holding broadcast granted =>
                      refine .attached connected live finished ?_
                      exact (acquireLease_ok granted).imp_right fun taken => ⟨writing, taken⟩

theorem Consistent.attach {broker : SessionBroker} (consistent : Consistent broker)
    (environment : AttachEnvironment) (clientId : ClientId) (params : SessionAttachParams)
    (pendingInteractions : Option (List PendingInteraction)) :
    Consistent (broker.attach environment clientId params pendingInteractions).broker := by
  have replayed := fun session => onlyLogged_replay environment broker clientId params session
  have ends := attach_ends environment broker clientId params pendingInteractions
  generalize broker.attach environment clientId params pendingInteractions = outcome at ends ⊢
  cases ends with
  | unknown absent => exact consistent
  | @notifyThrew session failed connected live threw =>
      have same := replayed session
      rw [threw] at same
      exact consistent.of_sameMaps (consistent.onlyLogged_unsubscribed same).toSameMaps
  | @locked session replay refused connected live finished writing refusal =>
      have same := replayed session
      rw [finished, Replay.final_ok] at same
      refine ConsistentExcept.drop (consistent.track connected same.toSameMaps) (Or.inr ?_)
      rcases (acquireLease_eq_error_iff _ _ _ _ _).mp ⟨_, refusal⟩ with
        ⟨_, holder, holds, different⟩
      rw [holds]
      exact fun equal => different (Option.some.inj equal)
  | @attached session replay holding broadcast connected live finished granted =>
      have same := replayed session
      rw [finished] at same
      have tracked := consistent.track connected same.toSameMaps
      rcases granted with ⟨rfl, _⟩ | ⟨_, _, rfl, _⟩
      · exact tracked
      · exact tracked.take ((isAttached_trackAttachment _ _ _ _ _ _).mpr (Or.inl ⟨rfl, rfl⟩)) _

/-! ## What a disconnect can do -/

theorem attachment_dropAttachments (broker : SessionBroker) (clientId other : ClientId)
    (sessionIds : List SessionId) (session : SessionId) :
    (broker.dropAttachments clientId sessionIds).attachment other session =
      if other = clientId ∧ session ∈ sessionIds then none
      else broker.attachment other session := by
  induction sessionIds generalizing broker with
  | nil => simp [dropAttachments]
  | cons sessionId rest induction =>
      rw [dropAttachments, induction, attachment_dropAttachment]
      by_cases mine : other = clientId
      · by_cases here : session = sessionId <;> simp [mine, here]
      · simp [mine]

/-- Dropping every session of the client's own map leaves it no attachment. -/
theorem attachment_dropAttachments_keys (broker : SessionBroker) (clientId : ClientId)
    (session : SessionId) :
    (broker.dropAttachments clientId
      ((broker.attachmentsByClient.get clientId).getD .empty).keys).attachment clientId
        session = none := by
  rw [attachment_dropAttachments]
  split
  · rfl
  · next notMine =>
      unfold attachment
      cases found : broker.attachmentsByClient.get clientId with
      | none => rfl
      | some bySession =>
          simp only [found, Option.getD_some, true_and] at notMine
          exact (bySession.get_eq_none_iff session).mpr notMine

theorem ConsistentExcept.dropAttachments {leaving : ClientId → Prop} {broker : SessionBroker}
    (consistent : ConsistentExcept leaving broker) {clientId : ClientId}
    (isLeaving : leaving clientId) (sessionIds : List SessionId) :
    ConsistentExcept leaving (broker.dropAttachments clientId sessionIds) := by
  induction sessionIds generalizing broker with
  | nil => exact consistent
  | cons sessionId rest induction => exact induction (consistent.drop (Or.inl isLeaving))

theorem releaseAll_maps (environment : Environment) (broker : SessionBroker)
    (clientId : ClientId) (listed : List (SessionId × Lease)) :
    (broker.releaseAll environment clientId listed).1 =
      { broker with leases := (broker.releaseAll environment clientId listed).1.leases } := by
  induction listed generalizing broker with
  | nil => rfl
  | cons entry rest induction =>
      rcases entry with ⟨sessionId, lease⟩
      unfold releaseAll
      split
      · have released := induction (broker.releaseLease sessionId)
        simp only [releaseLease] at released ⊢
        rw [released]
      · exact induction broker

theorem get_leases_releaseAll (environment : Environment) (broker : SessionBroker)
    (clientId : ClientId) (listed : List (SessionId × Lease)) (session : SessionId) :
    (broker.releaseAll environment clientId listed).1.leases.get session =
      if listed.any fun entry => entry.1 == session && entry.2.holderId == clientId then none
      else broker.leases.get session := by
  induction listed generalizing broker with
  | nil => simp [releaseAll]
  | cons entry rest induction =>
      rcases entry with ⟨sessionId, lease⟩
      unfold releaseAll
      split
      · next mine =>
          simp only
          rw [induction]
          simp only [releaseLease, OrderedMap.get_delete]
          by_cases here : session = sessionId
          · simp [here, mine]
          · simp only [here, if_false, List.any_cons, Bool.or_eq_true, Bool.and_eq_true,
              beq_iff_eq, Ne.symm here, false_and, false_or]
      · next other =>
          rw [induction]
          simp only [List.any_cons, Bool.or_eq_true, Bool.and_eq_true, beq_iff_eq, other,
            and_false, false_or]

theorem holderOf_releaseAll (environment : Environment) (broker : SessionBroker)
    (clientId : ClientId) (session : SessionId) :
    (broker.releaseAll environment clientId broker.leases.entries).1.holderOf session =
      if broker.holderOf session = some clientId then none else broker.holderOf session := by
  unfold holderOf
  rw [get_leases_releaseAll]
  have listedIff : (broker.leases.entries.any fun entry =>
      entry.1 == session && entry.2.holderId == clientId) = true ↔
        (broker.leases.get session).map Lease.holderId = some clientId := by
    simp [OrderedMap.get_eq_some_iff]
  simp only [listedIff]
  split <;> rfl

/-- The broker between dropping a client's attachments and releasing its leases. -/
def gone (broker : SessionBroker) (clientId : ClientId) : SessionBroker :=
  let mine := (broker.attachmentsByClient.get clientId).getD .empty
  let dropped := broker.dropAttachments clientId mine.keys
  { dropped with connections := dropped.connections.delete clientId }

theorem disconnect_eq (environment : Environment) (broker : SessionBroker)
    (clientId : ClientId) :
    broker.disconnect environment clientId =
      (broker.gone clientId).releaseAll environment clientId
        (broker.gone clientId).leases.entries := rfl

theorem consistentExcept_gone {broker : SessionBroker} (consistent : Consistent broker)
    (clientId : ClientId) :
    ConsistentExcept (fun other => other = clientId) (broker.gone clientId) := by
  have excused : ConsistentExcept (fun other => other = clientId) broker :=
    { consistent with
      holderAttached := fun holds => Or.inr (consistent.holder_attached holds) }
  have dropped := excused.dropAttachments rfl
    ((broker.attachmentsByClient.get clientId).getD .empty).keys
  have noneLeft := broker.attachment_dropAttachments_keys clientId
  exact
    { dropped with
      attachmentConnected := by
        intro other session attachment found
        refine (OrderedSet.mem_delete _ _ _).mpr ⟨dropped.attachmentConnected found, ?_⟩
        rintro rfl
        have none_eq := (noneLeft session).symm.trans found
        cases none_eq }

theorem Consistent.disconnect {broker : SessionBroker} (consistent : Consistent broker)
    (environment : Environment) (clientId : ClientId) :
    Consistent (broker.disconnect environment clientId).1 := by
  have before := consistentExcept_gone consistent clientId
  have holders := holderOf_releaseAll environment (broker.gone clientId) clientId
  rw [disconnect_eq]
  rw [releaseAll_maps] at holders ⊢
  exact
    { before with
      holderAttached := by
        intro session holder holds
        rw [holders] at holds
        split at holds
        · cases holds
        · next notMine =>
            refine Or.inr ((before.holderAttached holds).resolve_left ?_)
            rintro rfl
            exact notMine holds }

/-! ## Every reachable broker is consistent -/

theorem Consistent.detach {broker : SessionBroker} (consistent : Consistent broker)
    (environment : Environment) (clientId : ClientId) (sessionId : SessionId) :
    Consistent (broker.detach environment clientId sessionId).1 := by
  unfold SessionBroker.detach
  split
  · refine (consistent.release sessionId).drop (Or.inr ?_)
    simp [holderOf_releaseLease]
  · next notHolder => exact consistent.drop (Or.inr notHolder)

theorem Consistent.controlRelease {broker : SessionBroker} (consistent : Consistent broker)
    (environment : Environment) (clientId : ClientId) (sessionId : SessionId) :
    Consistent (broker.controlRelease environment clientId sessionId).1 := by
  unfold SessionBroker.controlRelease
  split
  · exact consistent.release sessionId
  · exact consistent

theorem Consistent.connect {broker : SessionBroker} (consistent : Consistent broker)
    (clientId : ClientId) : Consistent (broker.connect clientId) :=
  { consistent with
    attachmentConnected := fun found =>
      (OrderedSet.mem_add _ _ _).mpr (Or.inl (consistent.attachmentConnected found)) }

theorem Consistent.perform {broker : SessionBroker} (consistent : Consistent broker)
    (event : BrokerEvent) : Consistent (broker.perform event).1 := by
  cases event with
  | connect clientId => exact consistent.connect clientId
  | disconnect environment clientId => exact consistent.disconnect environment clientId
  | attach environment clientId params pendingInteractions =>
      exact consistent.attach environment clientId params pendingInteractions
  | detach environment clientId sessionId =>
      exact consistent.detach environment clientId sessionId
  | controlRelease environment clientId sessionId =>
      exact consistent.controlRelease environment clientId sessionId
  | setWaitingApproval environment sessionId waiting =>
      exact consistent.of_sameMaps
        (sameMaps_setWaitingApproval environment broker sessionId waiting)
  | host environment event =>
      exact consistent.of_sameMaps (sameMaps_hostEvent environment broker event)

theorem reachable_consistent {sessions : OrderedMap SessionId HostSession}
    {agents : OrderedMap SessionId AgentStatus} {extras : SessionBrokerExtras}
    {events : List BrokerEvent} {broker : SessionBroker}
    (reached : Execution.run step (init sessions agents extras) events = some broker) :
    Consistent broker := by
  refine Execution.reachable_invariant Consistent ?_ (consistent_init sessions agents extras)
    reached
  intro before event after consistent stepped
  cases stepped
  exact consistent.perform event

end SessionBroker

end DshRemote.Backend
