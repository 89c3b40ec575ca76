import Mathlib.Algebra.GroupWithZero.Nat
import DshRemote.Backend.Broker

/-! # `session.attach`

Subscribe first, replay the snapshot, drain what the host appended meanwhile,
then track the attachment and, for a write attach, take the lease. The host may
append between the subscription and the snapshot, and inside any `notify`. -/

namespace DshRemote.Backend

/-- The surroundings of one `attach`: what the host appends before the snapshot is
read, and during each forwarded event in turn. -/
structure AttachEnvironment extends Environment where
  beforeSnapshot : List HostAppend := []
  duringForward : List (List HostAppend) := []

/-- What the closure made by `attach` captures, and the disposer it got back. -/
structure Subscription where
  clientId : ClientId
  sessionId : SessionId
  listener : ListenerId
deriving DecidableEq, Repr

/-- The state `attach` works in until its listener goes live. -/
structure Replay where
  broker : SessionBroker
  liveBuffer : List SessionEvent
  sent : List Sent
  duringForward : List (List HostAppend)

namespace Replay

/-- The host appends while the new listener still buffers. -/
def hostAppend (environment : Environment) (subscription : Subscription) (replay : Replay)
    (request : HostAppend) : Replay :=
  let appended := replay.broker.hostAppend environment (some subscription.listener) request
  { replay with
    broker := appended.1
    sent := replay.sent ++ appended.2.1
    liveBuffer := match appended.2.2 with
      | none => replay.liveBuffer
      | some event =>
          if request.sessionId = subscription.sessionId then replay.liveBuffer ++ [event]
          else replay.liveBuffer }

def hostAppends (environment : Environment) (subscription : Subscription) (replay : Replay)
    (requests : List HostAppend) : Replay :=
  requests.foldl (hostAppend environment subscription) replay

/-- `forward(event)`: one envelope, during whose `notify` the host may append. A
throwing `notify` ends the replay. -/
def forward (environment : Environment) (subscription : Subscription) (replay : Replay)
    (event : SessionEvent) : Except Replay Replay :=
  let notification := Notification.sessionEvent subscription.sessionId event
  if environment.delivers subscription.clientId notification then
    .ok (hostAppends environment subscription
      { replay with
        sent := replay.sent ++ [⟨subscription.clientId, notification⟩]
        duringForward := replay.duringForward.tail }
      (replay.duringForward.headD []))
  else .error replay

/-- Forward the events of the snapshot that are newer than `sinceSeq`. -/
def replaySnapshot (environment : Environment) (subscription : Subscription) (sinceSeq : Int) :
    List SessionEvent → Replay → Except Replay Replay
  | [], replay => .ok replay
  | event :: rest, replay =>
      if sinceSeq < event.seq then
        match replay.forward environment subscription event with
        | .ok next => replaySnapshot environment subscription sinceSeq rest next
        | .error failed => .error failed
      else replaySnapshot environment subscription sinceSeq rest replay

/-- With `sinceSeq` omitted the client tails from now and nothing is replayed. -/
def replaySince (environment : Environment) (subscription : Subscription)
    (sinceSeq : Option Int) (events : List SessionEvent) (replay : Replay) :
    Except Replay Replay :=
  match sinceSeq with
  | none => .ok replay
  | some sinceSeq => replay.replaySnapshot environment subscription sinceSeq events

/-- How many iterations the drain loop can still make: the buffered events and
those the host will append while they are forwarded. -/
def remaining (replay : Replay) : Nat :=
  replay.liveBuffer.length + (replay.duringForward.map List.length).sum

/-- The loop over `liveBuffer`, which sees what is pushed while it runs. -/
def drain (environment : Environment) (subscription : Subscription) :
    Nat → Int → Replay → Except Replay Replay
  | 0, _, replay => .ok replay
  | fuel + 1, watermark, replay =>
      match replay.liveBuffer with
      | [] => .ok replay
      | event :: rest =>
          let shifted := { replay with liveBuffer := rest }
          if watermark < event.seq then
            match shifted.forward environment subscription event with
            | .ok next => drain environment subscription fuel event.seq next
            | .error failed => .error failed
          else drain environment subscription fuel watermark shifted

end Replay

structure AttachOutcome where
  result : Except Thrown SessionAttachResult
  broker : SessionBroker
  sent : List Sent

namespace SessionBroker

def unknownClient (clientId : ClientId) : RemoteError where
  code := .protocolError
  message := "unknown client \"" ++ clientId ++ "\""

def unknownSession (sessionId : SessionId) : RemoteError where
  code := .protocolError
  message := "unknown session \"" ++ sessionId ++ "\""

/-- The broker right after `attach` registered its listener. -/
def subscribed (broker : SessionBroker) (clientId : ClientId) (sessionId : SessionId) :
    SessionBroker :=
  { broker with sessions := (broker.sessions.onSessionEvent ⟨clientId, sessionId⟩).1 }

/-- The closure `attach` is about to register, with the disposer it will get. -/
def subscription (broker : SessionBroker) (clientId : ClientId) (sessionId : SessionId) :
    Subscription :=
  ⟨clientId, sessionId, (broker.sessions.onSessionEvent ⟨clientId, sessionId⟩).2⟩

/-- Subscribe; then the host appends until the snapshot is read. -/
def prepareReplay (environment : AttachEnvironment) (broker : SessionBroker)
    (clientId : ClientId) (sessionId : SessionId) : Replay :=
  Replay.hostAppends environment.toEnvironment (broker.subscription clientId sessionId)
    { broker := broker.subscribed clientId sessionId
      liveBuffer := []
      sent := []
      duringForward := environment.duringForward }
    environment.beforeSnapshot

/-- The watermark the drain starts from: the cursor of the request, or the head of
the snapshot for a client that tails from now. -/
def initialWatermark (current : HostSession) (sinceSeq : Option Int) : Int :=
  match sinceSeq with
  | none => (current.seq : Int) - 1
  | some sinceSeq => sinceSeq

/-- The `try` block of `attach`, from the subscription on. The snapshot is read
again after subscribing: it must be as fresh as the buffer. -/
def replay (environment : AttachEnvironment) (broker : SessionBroker) (clientId : ClientId)
    (params : SessionAttachParams) (session : HostSession) : Except Replay Replay :=
  let subscription := broker.subscription clientId params.sessionId
  let prepared := broker.prepareReplay environment clientId params.sessionId
  let current := (prepared.broker.sessions.get params.sessionId).getD session
  match prepared.replaySince environment.toEnvironment subscription params.sinceSeq
      current.events with
  | .error failed => .error failed
  | .ok next =>
      next.drain environment.toEnvironment subscription next.remaining
        (initialWatermark current params.sinceSeq)

/-- The attach result: the holder as it is now, and the head of the live log. -/
def attachResult (broker : SessionBroker) (sessionId : SessionId) (session : HostSession)
    (pendingInteractions : Option (List PendingInteraction)) : SessionAttachResult where
  sessionId := sessionId
  holder := broker.holderOf sessionId
  lastSeq := (((broker.sessions.get sessionId).getD session).seq : Int) - 1
  pendingInteractions := match pendingInteractions with
    | none => none
    | some [] => none
    | some interactions => some interactions

def attach (environment : AttachEnvironment) (broker : SessionBroker) (clientId : ClientId)
    (params : SessionAttachParams) (pendingInteractions : Option (List PendingInteraction)) :
    AttachOutcome :=
  if clientId ∉ broker.connections then
    ⟨.error (.remote (unknownClient clientId)), broker, []⟩
  else match broker.sessions.get params.sessionId with
  | none => ⟨.error (.remote (unknownSession params.sessionId)), broker, []⟩
  | some session =>
      let subscription := broker.subscription clientId params.sessionId
      match broker.replay environment clientId params session with
      | .error failed =>
          ⟨.error .foreign,
            { failed.broker with
              sessions := failed.broker.sessions.unsubscribe subscription.listener },
            failed.sent⟩
      | .ok live =>
          -- Track the attachment before taking the lease, so that the acquiring
          -- client receives its own `acquired` broadcast.
          let tracked := live.broker.trackAttachment clientId params.sessionId
            subscription.listener
          match params.mode with
          | .read =>
              ⟨.ok (tracked.attachResult params.sessionId session pendingInteractions),
                tracked, live.sent⟩
          | .write =>
              match tracked.acquireLease environment.toEnvironment clientId params.sessionId
                  params.force with
              | .error refused =>
                  ⟨.error (.remote refused),
                    tracked.dropAttachment clientId params.sessionId, live.sent⟩
              | .ok (holding, broadcast) =>
                  ⟨.ok (holding.attachResult params.sessionId session pendingInteractions),
                    holding, live.sent ++ broadcast⟩

end SessionBroker

end DshRemote.Backend
