import DshRemote.Foundation.Feed
import DshRemote.Backend.BrokerSafety
import DshRemote.Backend.DaemonFrames

/-! # The live feed of one client

What a broker writes to one client about one session, against the session's log: an
attached client is sent every event the host appends, once and in order, and an attach
that resumes from a cursor is sent what lies behind the cursor. -/

namespace DshRemote

/-- The event of a session that a notification carries. -/
def Notification.eventOf (sessionId : SessionId) : Notification → Option SessionEvent
  | .sessionEvent session event => if session = sessionId then some event else none
  | _ => none

/-- What was written to one client. -/
def notificationsTo (clientId : ClientId) (sent : List Sent) : List Notification :=
  (sent.filter fun message => message.clientId = clientId).map Sent.notification

/-- The events of a session among what was written to one client. -/
def eventsFor (clientId : ClientId) (sessionId : SessionId) (sent : List Sent) :
    List SessionEvent :=
  (notificationsTo clientId sent).filterMap (Notification.eventOf sessionId)

theorem eventsFor_eq (clientId : ClientId) (sessionId : SessionId) (sent : List Sent) :
    eventsFor clientId sessionId sent = sent.filterMap fun message =>
      if message.clientId = clientId then message.notification.eventOf sessionId else none := by
  simp [eventsFor, notificationsTo, List.filterMap_map, List.filterMap_filter]

@[simp] theorem eventsFor_nil (clientId : ClientId) (sessionId : SessionId) :
    eventsFor clientId sessionId [] = [] := rfl

@[simp] theorem eventsFor_append (clientId : ClientId) (sessionId : SessionId)
    (first second : List Sent) :
    eventsFor clientId sessionId (first ++ second) =
      eventsFor clientId sessionId first ++ eventsFor clientId sessionId second := by
  simp [eventsFor, notificationsTo]

theorem eventsFor_sessionEvent (clientId other : ClientId) (sessionId session : SessionId)
    (event : SessionEvent) :
    eventsFor clientId sessionId [⟨other, .sessionEvent session event⟩] =
      if other = clientId ∧ session = sessionId then [event] else [] := by
  by_cases mine : other = clientId
  · by_cases here : session = sessionId <;>
      simp [eventsFor, notificationsTo, Notification.eventOf, mine, here]
  · simp [eventsFor, notificationsTo, mine]

theorem eventsFor_eq_nil {clientId : ClientId} {sessionId : SessionId} {sent : List Sent}
    (other : ∀ message ∈ sent, message.notification.eventOf sessionId = none) :
    eventsFor clientId sessionId sent = [] := by
  simp only [eventsFor, notificationsTo, List.filterMap_map, List.filterMap_eq_nil_iff]
  intro message member
  exact other message (List.mem_of_mem_filter member)

namespace Backend

/-- Every `notify` of the client returns normally: its stream still takes lines. -/
def Environment.Reaches (environment : Environment) (clientId : ClientId) : Prop :=
  ∀ notification, environment.delivers clientId notification = true

def Environment.reaching (environment : Environment) (clientId : ClientId) : Environment :=
  { environment with
    delivers := fun other notification =>
      other = clientId || environment.delivers other notification }

theorem Environment.reaches_reaching (environment : Environment) (clientId : ClientId) :
    (environment.reaching clientId).Reaches clientId := by
  intro notification
  simp [reaching]

def AttachEnvironment.reaching (environment : AttachEnvironment) (clientId : ClientId) :
    AttachEnvironment :=
  { environment with toEnvironment := environment.toEnvironment.reaching clientId }

theorem AttachEnvironment.reaches_reaching (environment : AttachEnvironment)
    (clientId : ClientId) : (environment.reaching clientId).Reaches clientId :=
  environment.toEnvironment.reaches_reaching clientId

namespace SessionBroker

/-- The log of a session, which is empty for a session the host does not know. -/
def logOf (broker : SessionBroker) (sessionId : SessionId) : List SessionEvent :=
  (broker.sessions.get sessionId).elim [] HostSession.events

theorem logOf_eq {broker : SessionBroker} {sessionId : SessionId} {session : HostSession}
    (live : broker.sessions.get sessionId = some session) :
    broker.logOf sessionId = session.events := by
  simp [logOf, live]

/-- The subscriptions that forward an append to the client at once. -/
def heardBy (broker : SessionBroker) (buffering : Option ListenerId) (clientId : ClientId)
    (sessionId : SessionId) : List ListenerId :=
  (broker.liveSubscriptions clientId sessionId).filter fun id => some id ≠ buffering

theorem heardBy_congr {before after : SessionBroker}
    (listeners : after.sessions.listeners = before.sessions.listeners) :
    after.heardBy = before.heardBy := by
  funext buffering clientId sessionId
  simp only [heardBy, liveSubscriptions, listeners]

theorem eventsFor_publish {environment : Environment} {clientId : ClientId}
    (reaches : environment.Reaches clientId) (broker : SessionBroker)
    (buffering : Option ListenerId) (sessionId session : SessionId) (event : SessionEvent) :
    eventsFor clientId sessionId (broker.publish environment buffering session event) =
      if session = sessionId then
        (broker.heardBy buffering clientId sessionId).map fun _ => event
      else [] := by
  split
  · next here =>
      -- Both sides run over the registered listeners and keep the same ones.
      simp only [publish, heardBy, liveSubscriptions, OrderedMap.keys, OrderedMap.filter,
        eventsFor_eq, List.filter_map, List.map_map, List.filterMap_map, List.filter_filter]
      rw [← List.filterMap_eq_map, List.filterMap_filter, List.filterMap_filter]
      congr 1
      funext entry
      rcases entry with ⟨id, other, subscribed⟩
      have written := reaches (.sessionEvent session event)
      by_cases mine : other = clientId
      · subst mine
        simp [Notification.eventOf, here] at written ⊢
        simp [written]
      · simp [mine]
  · next elsewhere =>
      apply eventsFor_eq_nil
      intro message member
      rcases List.mem_map.mp member with ⟨entry, _, rfl⟩
      simp [Notification.eventOf, elsewhere]

/-! ## One append of the host -/

/-- The log of a session grew at its end. -/
structure Grows (sessionId : SessionId) (before : SessionBroker) (more : List SessionEvent)
    (after : SessionBroker) : Prop where
  log : after.logOf sessionId = before.logOf sessionId ++ more
  contiguous : Contiguous SessionEvent.seq (before.logOf sessionId) →
    Contiguous SessionEvent.seq (after.logOf sessionId)

namespace Grows

variable {sessionId : SessionId}

theorem of_log {before after : SessionBroker}
    (same : after.logOf sessionId = before.logOf sessionId) :
    Grows sessionId before [] after :=
  ⟨by rw [same, List.append_nil], fun contiguous => same ▸ contiguous⟩

theorem of_sessions {before after : SessionBroker}
    (same : after.sessions.sessions = before.sessions.sessions) :
    Grows sessionId before [] after :=
  of_log (by simp only [logOf, SessionHost.get, same])

theorem trans {first second third : SessionBroker} {early late : List SessionEvent}
    (left : Grows sessionId first early second) (right : Grows sessionId second late third) :
    Grows sessionId first (early ++ late) third :=
  ⟨by rw [right.log, left.log, List.append_assoc],
    fun contiguous => right.contiguous (left.contiguous contiguous)⟩

theorem andSessions {before middle after : SessionBroker} {more : List SessionEvent}
    (grows : Grows sessionId before more middle)
    (same : after.sessions.sessions = middle.sessions.sessions) :
    Grows sessionId before more after := by
  have both := grows.trans (of_sessions same)
  rwa [List.append_nil] at both

theorem length_le {before after : SessionBroker} {more : List SessionEvent}
    (grows : Grows sessionId before more after) :
    (before.logOf sessionId).length ≤ (after.logOf sessionId).length := by
  rw [grows.log, List.length_append]
  omega

end Grows

/-- What one append added to the log of a session. -/
def appendedTo (sessionId : SessionId) (request : HostAppend) (event : Option SessionEvent) :
    List SessionEvent :=
  if request.sessionId = sessionId then event.toList else []

theorem length_appendedTo (sessionId : SessionId) (request : HostAppend)
    (event : Option SessionEvent) : (appendedTo sessionId request event).length ≤ 1 := by
  simp only [appendedTo]
  split
  · cases event <;> simp
  · exact Nat.zero_le _

/-- An append adds its event to the log of its session and to no other, and writes it to
a client once for each subscription that hears it. -/
theorem hostAppend_feeds (environment : Environment) (broker : SessionBroker)
    (buffering : Option ListenerId) (request : HostAppend) (sessionId : SessionId) :
    let appended := broker.hostAppend environment buffering request
    let more := appendedTo sessionId request appended.2.2
    Grows sessionId broker more appended.1 ∧
      ∀ clientId, environment.Reaches clientId →
        eventsFor clientId sessionId appended.2.1 =
          more.flatMap fun event =>
            (broker.heardBy buffering clientId sessionId).map fun _ => event := by
  intro appended more
  cases live : broker.sessions.get request.sessionId with
  | none =>
      have nothing : appended = ({ broker with sessions := broker.sessions }, [], none) := by
        simp only [appended, hostAppend, SessionHost.append, live]
      have noMore : more = [] := by simp [more, appendedTo, nothing]
      rw [noMore, nothing]
      exact ⟨.of_sessions rfl, fun clientId _ => rfl⟩
  | some session =>
      have event : ∃ event : SessionEvent, event.seq = session.events.length ∧
          (broker.sessions.append request).2 = some event ∧
          (broker.sessions.append request).1.sessions =
            broker.sessions.sessions.set request.sessionId
              { session with events := session.events ++ [event] } := by
        simp only [SessionHost.append, live]
        exact ⟨_, rfl, rfl, rfl⟩
      rcases event with ⟨event, atEnd, isEvent, sessions⟩
      have outcome : appended =
          ({ broker with sessions := (broker.sessions.append request).1 },
            SessionBroker.publish environment
              { broker with sessions := (broker.sessions.append request).1 } buffering
              request.sessionId event,
            some event) := by
        simp only [appended, hostAppend, isEvent]
      have heard : SessionBroker.heardBy
          { broker with sessions := (broker.sessions.append request).1 } = broker.heardBy :=
        heardBy_congr (SessionHost.append_listeners _ _)
      have isMore : more = if request.sessionId = sessionId then [event] else [] := by
        simp [more, appendedTo, outcome]
      rw [isMore, outcome]
      constructor
      · have log : SessionBroker.logOf
            { broker with sessions := (broker.sessions.append request).1 } sessionId =
            broker.logOf sessionId ++
              if request.sessionId = sessionId then [event] else [] := by
          simp only [logOf, SessionHost.get, sessions, OrderedMap.get_set]
          simp only [SessionHost.get] at live
          split
          · next here =>
              subst here
              simp [live]
          · next elsewhere => simp [Ne.symm elsewhere]
        refine ⟨log, fun contiguous => ?_⟩
        rw [log]
        split
        · next here =>
            refine contiguous.snoc ?_
            rw [atEnd, ← here, logOf_eq live]
        · rwa [List.append_nil]
      · intro clientId reaches
        rw [eventsFor_publish reaches, heard]
        split <;> simp

/-- An attached client is sent what is appended, once; a detached one nothing. -/
theorem flatMap_liveSubscriptions {broker : SessionBroker} (consistent : Consistent broker)
    (clientId : ClientId) (sessionId : SessionId) (more : List SessionEvent) :
    (more.flatMap fun event => (broker.liveSubscriptions clientId sessionId).map fun _ => event) =
      if broker.IsAttached clientId sessionId then more else [] := by
  split
  · next isAttached =>
      rcases consistent.attachedIff.mp isAttached with ⟨attachment, found⟩
      simp [liveSubscriptions_of_attachment consistent found]
  · next detached => simp [liveSubscriptions_of_notAttached consistent detached]

/-! ## Operations that append nothing -/

theorem eventsFor_toAttached {notification : Notification} {sessionId : SessionId}
    (other : notification.eventOf sessionId = none) (environment : Environment)
    (broker : SessionBroker) (clientId : ClientId) (session : SessionId) :
    eventsFor clientId sessionId (broker.toAttached environment session notification) = [] := by
  apply eventsFor_eq_nil
  intro message member
  rcases List.mem_map.mp member with ⟨_, _, rfl⟩
  exact other

theorem eventsFor_broadcastControl (environment : Environment) (broker : SessionBroker)
    (clientId : ClientId) (sessionId session : SessionId) (holder : Option ClientId)
    (reason : ControlChangeReason) :
    eventsFor clientId sessionId (broker.broadcastControl environment session holder reason) =
      [] :=
  eventsFor_toAttached rfl environment broker clientId session

theorem eventsFor_releaseAll (environment : Environment) (broker : SessionBroker)
    (clientId other : ClientId) (sessionId : SessionId) (listed : List (SessionId × Lease)) :
    eventsFor clientId sessionId (broker.releaseAll environment other listed).2 = [] := by
  induction listed generalizing broker with
  | nil => rfl
  | cons entry rest induction =>
      rcases entry with ⟨session, lease⟩
      simp only [releaseAll]
      split
      · rw [eventsFor_append, eventsFor_broadcastControl, induction, List.append_nil]
      · exact induction broker

@[simp] theorem sessions_trackAttachment (broker : SessionBroker) (clientId : ClientId)
    (sessionId : SessionId) (listener : ListenerId) :
    (broker.trackAttachment clientId sessionId listener).sessions.sessions =
      broker.sessions.sessions := by
  simp only [trackAttachment]
  split <;> rfl

@[simp] theorem sessions_dropAttachment (broker : SessionBroker) (clientId : ClientId)
    (sessionId : SessionId) :
    (broker.dropAttachment clientId sessionId).sessions.sessions = broker.sessions.sessions := by
  simp only [dropAttachment]
  repeat' split
  all_goals rfl

theorem sessions_dropAttachments (broker : SessionBroker) (clientId : ClientId)
    (sessionIds : List SessionId) :
    (broker.dropAttachments clientId sessionIds).sessions.sessions =
      broker.sessions.sessions := by
  induction sessionIds generalizing broker with
  | nil => rfl
  | cons sessionId rest induction =>
      rw [dropAttachments, induction, sessions_dropAttachment]

theorem sessions_disconnect (environment : Environment) (broker : SessionBroker)
    (clientId : ClientId) :
    (broker.disconnect environment clientId).1.sessions.sessions = broker.sessions.sessions := by
  rw [disconnect_eq, releaseAll_maps]
  exact broker.sessions_dropAttachments clientId _

/-! ## A replay, seen by the other clients -/

theorem heardBy_subscribed {broker : SessionBroker} (consistent : Consistent broker)
    (clientId : ClientId) (sessionId : SessionId) :
    (broker.subscribed clientId sessionId).heardBy (some broker.sessions.nextListener) =
      broker.liveSubscriptions := by
  have fresh : broker.sessions.nextListener ∉ broker.sessions.listeners.keys := by
    intro member
    rcases (OrderedMap.mem_keys_iff _ _).mp member with ⟨listener, found⟩
    exact Nat.lt_irrefl _ (consistent.listenerOld found)
  have entries : (broker.subscribed clientId sessionId).sessions.listeners.entries =
      broker.sessions.listeners.entries ++
        [(broker.sessions.nextListener, ⟨clientId, sessionId⟩)] :=
    broker.sessions.listeners.entries_set_of_notMem fresh _
  funext other session
  have old : ∀ id ∈ broker.liveSubscriptions other session,
      some id ≠ some broker.sessions.nextListener := by
    intro id member same
    have listens := (mem_liveSubscriptions _ _ _ _).mp member
    exact Nat.ne_of_lt (consistent.listenerOld listens) (Option.some.inj same)
  have kept : (broker.liveSubscriptions other session).filter
      (fun id => some id ≠ some broker.sessions.nextListener) =
        broker.liveSubscriptions other session :=
    List.filter_eq_self.mpr fun id member => by simpa using old id member
  refine Eq.trans ?_ kept
  simp only [heardBy, liveSubscriptions, OrderedMap.keys, OrderedMap.filter, entries,
    List.filter_append, List.map_append]
  -- The new subscription, whoever it forwards to, is the one that buffers.
  by_cases mine : (⟨clientId, sessionId⟩ : Listener) = ⟨other, session⟩ <;> simp [mine]

/-- What a replay appends reaches the attached clients at once; the replayed events go
to the attaching client alone. -/
theorem replay_publishes {broker : SessionBroker} (consistent : Consistent broker)
    (environment : AttachEnvironment) (attaching : ClientId) (params : SessionAttachParams)
    (session : HostSession) (sessionId : SessionId) :
    let final := Replay.final (broker.replay environment attaching params session)
    ∃ more, Grows sessionId broker more final.broker ∧
      ∀ clientId, environment.Reaches clientId →
        ¬(attaching = clientId ∧ params.sessionId = sessionId) →
          eventsFor clientId sessionId final.sent =
            if broker.IsAttached clientId sessionId then more else [] := by
  have heard := heardBy_subscribed consistent attaching params.sessionId
  have kept : Replay.Kept environment.toEnvironment
      (broker.subscription attaching params.sessionId) (fun replay =>
        replay.broker.heardBy (some broker.sessions.nextListener) = broker.liveSubscriptions ∧
        ∃ more, Grows sessionId broker more replay.broker ∧
          ∀ clientId, environment.Reaches clientId →
            ¬(attaching = clientId ∧ params.sessionId = sessionId) →
              eventsFor clientId sessionId replay.sent =
                if broker.IsAttached clientId sessionId then more else []) := by
    constructor
    · rintro replay request ⟨heardNow, more, grows, fed⟩
      have logged := onlyLogged_hostAppend environment.toEnvironment replay.broker
        (some broker.sessions.nextListener) request
      have step := hostAppend_feeds environment.toEnvironment replay.broker
        (some broker.sessions.nextListener) request sessionId
      refine ⟨(congrFun (heardBy_congr logged.listeners) _).trans heardNow, _,
        grows.trans step.1, ?_⟩
      intro clientId reaches elsewhere
      have written := step.2 clientId reaches
      rw [heardNow, flatMap_liveSubscriptions consistent] at written
      refine (eventsFor_append _ _ _ _).trans ?_
      rw [fed clientId reaches elsewhere]
      refine (congrArg _ written).trans ?_
      split <;> rfl
    · rintro replay event ⟨heardNow, more, grows, fed⟩
      refine ⟨heardNow, more, grows, ?_⟩
      intro clientId reaches elsewhere
      rw [eventsFor_append, fed clientId reaches elsewhere]
      refine (congrArg _ ((eventsFor_sessionEvent _ _ _ _ _).trans (if_neg elsewhere))).trans ?_
      exact List.append_nil _
    · intro replay rest holds
      exact holds
  refine (replay_kept kept ⟨heard, [], .of_sessions rfl, ?_⟩ session).2
  intro clientId reaches elsewhere
  exact (ite_self _).symm

theorem attach_publishes {broker : SessionBroker} (consistent : Consistent broker)
    (environment : AttachEnvironment) (attaching : ClientId) (params : SessionAttachParams)
    (pendingInteractions : Option (List PendingInteraction)) (sessionId : SessionId) :
    let outcome := broker.attach environment attaching params pendingInteractions
    ∃ more, Grows sessionId broker more outcome.broker ∧
      ∀ clientId, environment.Reaches clientId →
        ¬(attaching = clientId ∧ params.sessionId = sessionId) →
          eventsFor clientId sessionId outcome.sent =
            if broker.IsAttached clientId sessionId then more else [] := by
  intro outcome
  have replayed := fun session =>
    replay_publishes consistent environment attaching params session sessionId
  have ends := attach_ends environment broker attaching params pendingInteractions
  generalize isOutcome : broker.attach environment attaching params pendingInteractions = ended
    at ends
  simp only [outcome, isOutcome]
  cases ends with
  | unknown absent => exact ⟨[], .of_sessions rfl, fun _ _ _ => (ite_self _).symm⟩
  | @notifyThrew session failed connected live threw =>
      have published := replayed session
      rw [threw] at published
      rcases published with ⟨more, grows, fed⟩
      exact ⟨more, ⟨grows.log, grows.contiguous⟩, fed⟩
  | @locked session replay refused connected live finished writing refusal =>
      have published := replayed session
      rw [finished] at published
      rcases published with ⟨more, grows, fed⟩
      exact ⟨more, grows.andSessions ((sessions_dropAttachment _ _ _).trans
        (sessions_trackAttachment _ _ _ _)), fed⟩
  | @attached session replay holding broadcast connected live finished granted =>
      have published := replayed session
      rw [finished] at published
      rcases published with ⟨more, grows, fed⟩
      have tracked := sessions_trackAttachment replay.broker attaching params.sessionId
        broker.sessions.nextListener
      have quiet : holding.sessions.sessions = replay.broker.sessions.sessions ∧
          ∀ clientId, eventsFor clientId sessionId broadcast = [] := by
        rcases granted with ⟨rfl, rfl⟩ | ⟨_, _, rfl, reason, rfl⟩
        · exact ⟨tracked, fun _ => rfl⟩
        · exact ⟨tracked, fun clientId => eventsFor_broadcastControl _ _ _ _ _ _ _⟩
      refine ⟨more, grows.andSessions quiet.1, fun clientId reaches elsewhere => ?_⟩
      rw [eventsFor_append, quiet.2, List.append_nil]
      exact fed clientId reaches elsewhere

end SessionBroker

/-! ## Every operation -/

/-- Every `notify` of the client during the event returns normally. -/
def BrokerEvent.Reaches (clientId : ClientId) : BrokerEvent → Prop
  | .connect _ => True
  | .disconnect environment _ | .detach environment _ _ | .controlRelease environment _ _
  | .setWaitingApproval environment _ _ | .host environment _ => environment.Reaches clientId
  | .attach environment _ _ _ => environment.Reaches clientId

def BrokerEvent.reaching (clientId : ClientId) : BrokerEvent → BrokerEvent
  | .connect joined => .connect joined
  | .disconnect environment left => .disconnect (environment.reaching clientId) left
  | .attach environment attaching params pendingInteractions =>
      .attach (environment.reaching clientId) attaching params pendingInteractions
  | .detach environment other sessionId =>
      .detach (environment.reaching clientId) other sessionId
  | .controlRelease environment other sessionId =>
      .controlRelease (environment.reaching clientId) other sessionId
  | .setWaitingApproval environment sessionId waiting =>
      .setWaitingApproval (environment.reaching clientId) sessionId waiting
  | .host environment event => .host (environment.reaching clientId) event

theorem BrokerEvent.reaches_reaching (event : BrokerEvent) (clientId : ClientId) :
    (event.reaching clientId).Reaches clientId := by
  cases event with
  | connect joined => trivial
  | attach environment attaching params pendingInteractions =>
      exact environment.reaches_reaching clientId
  | disconnect environment | detach environment | controlRelease environment
  | setWaitingApproval environment | host environment =>
      exact environment.reaches_reaching clientId

/-- The host neither replaces nor disposes the session. -/
def BrokerEvent.keepsSession (sessionId : SessionId) : BrokerEvent → Bool
  | .host _ (.sessionEntered session _) | .host _ (.sessionDisposed session) =>
      session ≠ sessionId
  | _ => true

/-- The event is a client's own: it connects, or attaches to or detaches from the session. -/
def BrokerEvent.concerns (clientId : ClientId) (sessionId : SessionId) : BrokerEvent → Bool
  | .connect joined => joined = clientId
  | .attach _ attaching params _ => attaching = clientId ∧ params.sessionId = sessionId
  | .detach _ other session => other = clientId ∧ session = sessionId
  | _ => false

@[simp] theorem BrokerEvent.keepsSession_reaching (event : BrokerEvent) (clientId : ClientId)
    (sessionId : SessionId) :
    (event.reaching clientId).keepsSession sessionId = event.keepsSession sessionId := by
  cases event with
  | host environment happened => cases happened <;> rfl
  | connect | disconnect | attach | detach | controlRelease | setWaitingApproval => rfl

@[simp] theorem BrokerEvent.concerns_reaching (event : BrokerEvent) (clientId : ClientId)
    (sessionId : SessionId) :
    (event.reaching clientId).concerns clientId sessionId = event.concerns clientId sessionId := by
  cases event <;> rfl

namespace SessionBroker

/-- Whatever happens, an attached client is sent exactly what its session's log gains. -/
theorem perform_publishes {broker : SessionBroker} (consistent : Consistent broker)
    {event : BrokerEvent} {sessionId : SessionId} (keeps : event.keepsSession sessionId = true) :
    ∃ more, Grows sessionId broker more (broker.perform event).1 ∧
      ∀ clientId, event.Reaches clientId → event.concerns clientId sessionId = false →
        eventsFor clientId sessionId (broker.perform event).2 =
          if broker.IsAttached clientId sessionId then more else [] := by
  have quiet : ∀ outcome : SessionBroker × List Sent,
      outcome.1.sessions.sessions = broker.sessions.sessions →
      (∀ clientId, eventsFor clientId sessionId outcome.2 = []) →
      ∃ more, Grows sessionId broker more outcome.1 ∧
        ∀ clientId, event.Reaches clientId → event.concerns clientId sessionId = false →
          eventsFor clientId sessionId outcome.2 =
            if broker.IsAttached clientId sessionId then more else [] := by
    intro outcome sessions silent
    exact ⟨[], .of_sessions sessions, fun clientId _ _ => (silent clientId).trans
      (ite_self _).symm⟩
  cases event with
  | connect joined => exact quiet (broker.perform (.connect joined)) rfl fun _ => rfl
  | disconnect environment left =>
      exact quiet (broker.perform (.disconnect environment left))
        (sessions_disconnect environment broker left)
        fun clientId => eventsFor_releaseAll environment _ clientId left sessionId _
  | attach environment attaching params pendingInteractions =>
      rcases attach_publishes consistent environment attaching params pendingInteractions
        sessionId with ⟨more, grows, fed⟩
      refine ⟨more, grows, fun clientId reaches notOwn => fed clientId reaches ?_⟩
      simpa [BrokerEvent.concerns] using notOwn
  | detach environment other session =>
      apply quiet
      · simp only [perform, SessionBroker.detach]
        split <;> exact sessions_dropAttachment _ _ _
      · intro clientId
        simp only [perform, SessionBroker.detach]
        split
        · exact eventsFor_broadcastControl _ _ _ _ _ _ _
        · rfl
  | controlRelease environment other session =>
      apply quiet
      · simp only [perform, SessionBroker.controlRelease]
        split <;> rfl
      · intro clientId
        simp only [perform, SessionBroker.controlRelease]
        split
        · exact eventsFor_broadcastControl _ _ _ _ _ _ _
        · rfl
  | setWaitingApproval environment session waiting =>
      apply quiet
      · simp only [perform, SessionBroker.setWaitingApproval]
        split <;> rfl
      · intro clientId
        simp only [perform, SessionBroker.setWaitingApproval]
        split
        · rfl
        · exact eventsFor_toAttached rfl _ _ _ _
  | host environment happened =>
      cases happened with
      | append request =>
          have fed := hostAppend_feeds environment broker none request sessionId
          refine ⟨_, fed.1, fun clientId reaches _ => (fed.2 clientId reaches).trans ?_⟩
          have heard : broker.heardBy none clientId sessionId =
              broker.liveSubscriptions clientId sessionId :=
            List.filter_eq_self.mpr fun id _ => by simp
          rw [heard, flatMap_liveSubscriptions consistent]
      | sessionEntered session entered =>
          have elsewhere : session ≠ sessionId := by
            simpa [BrokerEvent.keepsSession] using keeps
          refine ⟨[], .of_log ?_, fun clientId _ _ => (ite_self _).symm⟩
          simp only [perform, hostEvent, logOf, SessionHost.get]
          rw [OrderedMap.get_set_other _ _ (Ne.symm elsewhere)]
      | sessionDisposed session =>
          have elsewhere : session ≠ sessionId := by
            simpa [BrokerEvent.keepsSession] using keeps
          refine ⟨[], .of_log ?_, fun clientId _ _ => ?_⟩
          · simp only [perform, hostEvent, logOf, SessionHost.get]
            rw [OrderedMap.get_delete_other _ (Ne.symm elsewhere)]
          · exact (eventsFor_toAttached rfl _ _ _ _).trans (ite_self _).symm
      | agentStatus agentId status =>
          apply quiet
          · rfl
          · intro clientId
            exact eventsFor_toAttached rfl _ _ _ _
      | agentRemoved agentId =>
          exact quiet (broker.perform (.host environment (.agentRemoved agentId))) rfl
            fun _ => rfl

theorem attachment_perform {broker : SessionBroker} {event : BrokerEvent} {clientId : ClientId}
    {sessionId : SessionId} (foreign : event.concerns clientId sessionId = false)
    (stays : clientId ∈ (broker.perform event).1.connections) :
    (broker.perform event).1.attachment clientId sessionId =
      broker.attachment clientId sessionId := by
  cases event with
  | connect joined => rfl
  | disconnect environment left =>
      have different : clientId ≠ left :=
        ((mem_connections_perform broker (.disconnect environment left) clientId).mp stays).2
      simp only [perform]
      rw [disconnect_eq, releaseAll_maps]
      refine (attachment_dropAttachments broker left clientId _ sessionId).trans ?_
      rw [if_neg fun same => different same.1]
  | attach environment attaching params pendingInteractions =>
      have elsewhere : ¬(clientId = attaching ∧ sessionId = params.sessionId) := by
        rintro ⟨rfl, rfl⟩
        simp [BrokerEvent.concerns] at foreign
      have same := fun session =>
        (onlyLogged_replay environment broker attaching params session).attachment
      have ends := attach_ends environment broker attaching params pendingInteractions
      simp only [perform]
      generalize broker.attach environment attaching params pendingInteractions = outcome
        at ends ⊢
      cases ends with
      | unknown absent => rfl
      | @notifyThrew session failed connected live threw =>
          have replayed := same session
          rw [threw] at replayed
          exact congrFun (congrFun replayed clientId) sessionId
      | @locked session replay refused connected live finished writing refusal =>
          have replayed := same session
          rw [finished] at replayed
          rw [attachment_dropAttachment, if_neg elsewhere, attachment_trackAttachment,
            if_neg elsewhere]
          exact congrFun (congrFun replayed clientId) sessionId
      | @attached session replay holding broadcast connected live finished granted =>
          have replayed := same session
          rw [finished] at replayed
          have tracked : holding.attachment = (replay.broker.trackAttachment attaching
              params.sessionId broker.sessions.nextListener).attachment := by
            rcases granted with ⟨rfl, _⟩ | ⟨_, _, rfl, _⟩ <;> rfl
          rw [tracked, attachment_trackAttachment, if_neg elsewhere]
          exact congrFun (congrFun replayed clientId) sessionId
  | detach environment other session =>
      have elsewhere : ¬(clientId = other ∧ sessionId = session) := by
        rintro ⟨rfl, rfl⟩
        simp [BrokerEvent.concerns] at foreign
      simp only [perform, SessionBroker.detach]
      split <;> rw [attachment_dropAttachment, if_neg elsewhere]
      rfl
  | controlRelease environment other session =>
      simp only [perform, SessionBroker.controlRelease]
      split <;> rfl
  | setWaitingApproval environment session waiting =>
      have same := (sameMaps_setWaitingApproval environment broker session waiting).attachment
      exact congrFun (congrFun same clientId) sessionId
  | host environment event =>
      have same := (sameMaps_hostEvent environment broker event).attachment
      exact congrFun (congrFun same clientId) sessionId

theorem connected_perform {broker : SessionBroker} {event : BrokerEvent} {clientId : ClientId}
    {sessionId : SessionId} (foreign : event.concerns clientId sessionId = false)
    (connected : clientId ∈ (broker.perform event).1.connections) :
    clientId ∈ broker.connections := by
  have member := (mem_connections_perform broker event clientId).mp connected
  cases event with
  | connect joined =>
      refine member.resolve_right fun same => ?_
      simp [BrokerEvent.concerns, same] at foreign
  | disconnect environment left => exact member.1
  | attach | detach | controlRelease | setWaitingApproval | host => exact member

theorem Consistent.connected {broker : SessionBroker} (consistent : Consistent broker)
    {clientId : ClientId} {sessionId : SessionId}
    (isAttached : broker.IsAttached clientId sessionId) : clientId ∈ broker.connections := by
  rcases consistent.attachedIff.mp isAttached with ⟨attachment, found⟩
  exact consistent.attachmentConnected found

theorem isAttached_perform {broker : SessionBroker} (consistent : Consistent broker)
    {event : BrokerEvent} {clientId : ClientId} {sessionId : SessionId}
    (foreign : event.concerns clientId sessionId = false) :
    (broker.perform event).1.IsAttached clientId sessionId ↔
      broker.IsAttached clientId sessionId ∧
        clientId ∈ (broker.perform event).1.connections := by
  have later := consistent.perform event
  constructor
  · intro isAttached
    have stays := later.connected isAttached
    rw [later.attachedIff, attachment_perform foreign stays, ← consistent.attachedIff]
      at isAttached
    exact ⟨isAttached, stays⟩
  · rintro ⟨isAttached, stays⟩
    rwa [later.attachedIff, attachment_perform foreign stays, ← consistent.attachedIff]

end SessionBroker

end Backend

end DshRemote
