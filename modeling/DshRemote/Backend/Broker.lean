import DshRemote.Backend.Host

/-! # SessionBroker

The daemon-side session proxy: connections, attachments, the write-control
lease of each session and the live event feed. Every operation returns the
next broker together with the notifications it wrote, in order. -/

namespace DshRemote.Backend

structure Attachment where
  sessionId : SessionId
  unsubscribe : ListenerId
deriving DecidableEq, Repr

structure Lease where
  holderId : ClientId
  attachedAt : String
deriving DecidableEq, Repr

/-- Which optional subsystems the broker was given. -/
structure SessionBrokerExtras where
  persistence : Bool := false
  compaction : Bool := false
  attachments : Bool := false
deriving DecidableEq, Repr

structure SessionBroker where
  sessions : SessionHost
  agents : OrderedMap SessionId AgentStatus
  extras : SessionBrokerExtras
  connections : OrderedSet ClientId
  /-- sessionId → attached client ids. -/
  attached : OrderedMap SessionId (OrderedSet ClientId)
  /-- clientId → its attachments. -/
  attachmentsByClient : OrderedMap ClientId (OrderedMap SessionId Attachment)
  /-- sessionId → write-control lease. -/
  leases : OrderedMap SessionId Lease
  /-- Sessions with an approval request currently pending. -/
  waitingApproval : OrderedSet SessionId
deriving DecidableEq

/-- An exception as the RPC layer tells them apart: a `RemoteError`, or anything
else, such as what a connection's `notify` throws. -/
inductive Thrown
  | remote (error : RemoteError)
  | foreign
deriving DecidableEq, Repr

/-- What the surroundings decide during one operation: whether a call of a
connection's `notify` returns normally, and the wall clock. -/
structure Environment where
  delivers : ClientId → Notification → Bool := fun _ _ => true
  now : String := ""

namespace SessionBroker

/-- A fresh broker over a host: any live sessions and agents, no subscription yet. -/
def init (sessions : OrderedMap SessionId HostSession)
    (agents : OrderedMap SessionId AgentStatus) (extras : SessionBrokerExtras) :
    SessionBroker where
  sessions := ⟨sessions, .empty, 0⟩
  agents := agents
  extras := extras
  connections := .empty
  attached := .empty
  attachmentsByClient := .empty
  leases := .empty
  waitingApproval := .empty

/-! ## Reading the maps -/

/-- All connections currently attached to a session. -/
def attachedTo (broker : SessionBroker) (sessionId : SessionId) : List ClientId :=
  match broker.attached.get sessionId with
  | none => []
  | some clients => clients.elements.filter fun clientId => clientId ∈ broker.connections

/-- The write-control holder, when its connection is still there. -/
def writerOf (broker : SessionBroker) (sessionId : SessionId) : Option ClientId :=
  match broker.leases.get sessionId with
  | none => none
  | some lease => if lease.holderId ∈ broker.connections then some lease.holderId else none

def allConnections (broker : SessionBroker) : List ClientId := broker.connections.elements

def holderOf (broker : SessionBroker) (sessionId : SessionId) : Option ClientId :=
  (broker.leases.get sessionId).map Lease.holderId

/-- `#attachmentsByClient.get(clientId)?.get(sessionId)`. -/
def attachment (broker : SessionBroker) (clientId : ClientId) (sessionId : SessionId) :
    Option Attachment :=
  (broker.attachmentsByClient.get clientId).bind fun bySession => bySession.get sessionId

/-- `#attached.get(sessionId)?.has(clientId)`. -/
def IsAttached (broker : SessionBroker) (clientId : ClientId) (sessionId : SessionId) : Prop :=
  ∃ clients, broker.attached.get sessionId = some clients ∧ clientId ∈ clients

instance (broker : SessionBroker) (clientId : ClientId) (sessionId : SessionId) :
    Decidable (broker.IsAttached clientId sessionId) :=
  match found : broker.attached.get sessionId with
  | none => isFalse (by rintro ⟨clients, present, _⟩; rw [found] at present; cases present)
  | some clients =>
      decidable_of_iff (clientId ∈ clients) ⟨fun member => ⟨clients, found, member⟩, by
        rintro ⟨other, present, member⟩
        rw [found] at present
        cases present
        exact member⟩

def statusOf (broker : SessionBroker) (sessionId : SessionId) : SessionStatus :=
  match broker.sessions.get sessionId with
  | none => .ended
  | some _ =>
      if sessionId ∈ broker.waitingApproval then .waitingApproval
      else match broker.agents.get sessionId with
        | some .running => .running
        | some .idle => .idle
        | none => .idle

/-! ## Notifications -/

/-- Best-effort fan-out: a `notify` that throws is swallowed. -/
def toAttached (environment : Environment) (broker : SessionBroker) (sessionId : SessionId)
    (notification : Notification) : List Sent :=
  ((broker.attachedTo sessionId).filter fun clientId =>
    environment.delivers clientId notification).map fun clientId => ⟨clientId, notification⟩

def broadcastControl (environment : Environment) (broker : SessionBroker)
    (sessionId : SessionId) (holder : Option ClientId) (reason : ControlChangeReason) :
    List Sent :=
  broker.toAttached environment sessionId (.sessionControlChanged sessionId holder reason)

/-- The live feed of one appended event. The listener of an `attach` still in
progress (`buffering`) keeps the event back instead of forwarding it. -/
def publish (environment : Environment) (broker : SessionBroker)
    (buffering : Option ListenerId) (sessionId : SessionId) (event : SessionEvent) : List Sent :=
  let notification := Notification.sessionEvent sessionId event
  ((broker.sessions.listeners.entries.filter fun entry =>
      some entry.1 ≠ buffering ∧ entry.2.sessionId = sessionId ∧
        environment.delivers entry.2.clientId notification).map
    fun entry => ⟨entry.2.clientId, notification⟩)

/-- The host appends one event; every live subscription of the session sees it. -/
def hostAppend (environment : Environment) (broker : SessionBroker)
    (buffering : Option ListenerId) (request : HostAppend) :
    SessionBroker × List Sent × Option SessionEvent :=
  let appended := broker.sessions.append request
  let next := { broker with sessions := appended.1 }
  match appended.2 with
  | none => (next, [], none)
  | some event =>
      (next, next.publish environment buffering request.sessionId event, some event)

/-! ## Attachments and leases -/

def trackAttachment (broker : SessionBroker) (clientId : ClientId) (sessionId : SessionId)
    (unsubscribe : ListenerId) : SessionBroker :=
  let bySession := (broker.attachmentsByClient.get clientId).getD .empty
  -- Re-attach replaces the previous subscription for the same session.
  let sessions := match bySession.get sessionId with
    | none => broker.sessions
    | some previous => broker.sessions.unsubscribe previous.unsubscribe
  let clients := (broker.attached.get sessionId).getD .empty
  { broker with
    sessions := sessions
    attachmentsByClient := broker.attachmentsByClient.set clientId
      (bySession.set sessionId ⟨sessionId, unsubscribe⟩)
    attached := broker.attached.set sessionId (clients.add clientId) }

def dropAttachment (broker : SessionBroker) (clientId : ClientId) (sessionId : SessionId) :
    SessionBroker :=
  match broker.attachmentsByClient.get clientId with
  | none => broker
  | some bySession =>
      match bySession.get sessionId with
      | none => broker
      | some dropped =>
          { broker with
            sessions := broker.sessions.unsubscribe dropped.unsubscribe
            attachmentsByClient :=
              broker.attachmentsByClient.set clientId (bySession.delete sessionId)
            attached := match broker.attached.get sessionId with
              | none => broker.attached
              | some clients =>
                  let remaining := clients.delete clientId
                  if remaining.isEmpty then broker.attached.delete sessionId
                  else broker.attached.set sessionId remaining }

def sessionLocked (sessionId : SessionId) (lease : Lease) : RemoteError where
  code := .sessionLocked
  message := "session \"" ++ sessionId ++ "\" is controlled by " ++ lease.holderId
  data := some { holder := some lease.holderId, attachedAt := some lease.attachedAt }

def setLease (broker : SessionBroker) (sessionId : SessionId) (lease : Lease) : SessionBroker :=
  { broker with leases := broker.leases.set sessionId lease }

def acquireLease (environment : Environment) (broker : SessionBroker) (clientId : ClientId)
    (sessionId : SessionId) (force : Bool) : Except RemoteError (SessionBroker × List Sent) :=
  let taken := broker.setLease sessionId ⟨clientId, environment.now⟩
  match broker.leases.get sessionId with
  | none =>
      .ok (taken, taken.broadcastControl environment sessionId (some clientId) .acquired)
  | some lease =>
      if lease.holderId = clientId then .ok (broker, [])
      else if force then
        .ok (taken, taken.broadcastControl environment sessionId (some clientId) .preempted)
      else .error (sessionLocked sessionId lease)

def releaseLease (broker : SessionBroker) (sessionId : SessionId) : SessionBroker :=
  { broker with leases := broker.leases.delete sessionId }

/-- `#requireHolder`: gate of every operation that drives the host agent. -/
def requireHolder (broker : SessionBroker) (clientId : ClientId) (sessionId : SessionId) :
    Except RemoteError Unit :=
  match broker.leases.get sessionId with
  | none => .error
      { code := .sessionLocked
        message := "session \"" ++ sessionId ++
          "\" requires write control (attach with mode \"write\" first)"
        data := some {} }
  | some lease =>
      if lease.holderId = clientId then .ok () else .error (sessionLocked sessionId lease)

/-! ## Connections -/

def connect (broker : SessionBroker) (clientId : ClientId) : SessionBroker :=
  { broker with connections := broker.connections.add clientId }

def dropAttachments (broker : SessionBroker) (clientId : ClientId) :
    List SessionId → SessionBroker
  | [] => broker
  | sessionId :: rest => (broker.dropAttachment clientId sessionId).dropAttachments clientId rest

/-- Release, in order, the leases of the listed sessions that a client holds. -/
def releaseAll (environment : Environment) (broker : SessionBroker) (clientId : ClientId) :
    List (SessionId × Lease) → SessionBroker × List Sent
  | [] => (broker, [])
  | (sessionId, lease) :: rest =>
      if lease.holderId = clientId then
        let released := broker.releaseLease sessionId
        let sent := released.broadcastControl environment sessionId none .disconnected
        let final := released.releaseAll environment clientId rest
        (final.1, sent ++ final.2)
      else broker.releaseAll environment clientId rest

def disconnect (environment : Environment) (broker : SessionBroker) (clientId : ClientId) :
    SessionBroker × List Sent :=
  let mine := (broker.attachmentsByClient.get clientId).getD .empty
  let dropped := broker.dropAttachments clientId mine.keys
  let gone := { dropped with connections := dropped.connections.delete clientId }
  gone.releaseAll environment clientId gone.leases.entries

/-! ## Requests -/

/-- `session.detach`. The lease goes first, so that a departing holder still
receives its own `released` broadcast. -/
def detach (environment : Environment) (broker : SessionBroker) (clientId : ClientId)
    (sessionId : SessionId) : SessionBroker × List Sent :=
  if broker.holderOf sessionId = some clientId then
    let released := broker.releaseLease sessionId
    (released.dropAttachment clientId sessionId,
      released.broadcastControl environment sessionId none .released)
  else (broker.dropAttachment clientId sessionId, [])

/-- `session.control-release`: a no-op for anyone but the holder. -/
def controlRelease (environment : Environment) (broker : SessionBroker) (clientId : ClientId)
    (sessionId : SessionId) : SessionBroker × List Sent :=
  if broker.holderOf sessionId = some clientId then
    let released := broker.releaseLease sessionId
    (released, released.broadcastControl environment sessionId none .released)
  else (broker, [])

/-- Mark a session as waiting on an approval decision, or back. -/
def setWaitingApproval (environment : Environment) (broker : SessionBroker)
    (sessionId : SessionId) (waiting : Bool) : SessionBroker × List Sent :=
  if waiting = decide (sessionId ∈ broker.waitingApproval) then (broker, [])
  else
    let next := { broker with
      waitingApproval :=
        if waiting then broker.waitingApproval.add sessionId
        else broker.waitingApproval.delete sessionId }
    let status := if waiting then .waitingApproval else next.statusOf sessionId
    (next, next.toAttached environment sessionId (.sessionStatus sessionId status))

end SessionBroker

end DshRemote.Backend
