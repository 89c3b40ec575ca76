import DshRemote.Foundation.OrderedMap
import DshRemote.Protocol

/-! # The host runtime as the broker sees it

The structural narrowing of the session store and the agent registry that the
backend is mounted into. A session is stored under its own id, so `get(id).id`
is the key and is not kept a second time. -/

namespace DshRemote.Backend

/-- A live session: the append-only log the store hands out. -/
structure HostSession where
  createdAt : Nat
  cwd : Option String := none
  events : List SessionEvent := []
deriving DecidableEq, Repr

/-- The next event's sequence number, which is the log length. -/
def HostSession.seq (session : HostSession) : Nat := session.events.length

abbrev ListenerId := Nat

/-- A registered `session/event` listener, described by what the closure made in
`attach` captures: the connection it forwards to and the session it filters on. -/
structure Listener where
  clientId : ClientId
  sessionId : SessionId
deriving DecidableEq, Repr

structure SessionHost where
  sessions : OrderedMap SessionId HostSession
  listeners : OrderedMap ListenerId Listener
  /-- Fresh identity for the next registered closure. -/
  nextListener : ListenerId
deriving DecidableEq

/-- What host code passes to `Session.append`. -/
structure HostAppend where
  sessionId : SessionId
  type : String
  time : Nat := 0
  data : Option Unknown := none
deriving DecidableEq, Repr

namespace SessionHost

def get (host : SessionHost) (id : SessionId) : Option HostSession := host.sessions.get id

/-- `Session.append`: the log assigns its length as the new event's `seq`. -/
def append (host : SessionHost) (request : HostAppend) : SessionHost × Option SessionEvent :=
  match host.get request.sessionId with
  | none => (host, none)
  | some session =>
      let event : SessionEvent :=
        { seq := session.seq, type := request.type, time := request.time, data := request.data }
      ({ host with
          sessions := host.sessions.set request.sessionId
            { session with events := session.events ++ [event] } },
        some event)

def onSessionEvent (host : SessionHost) (listener : Listener) : SessionHost × ListenerId :=
  ({ host with
      listeners := host.listeners.set host.nextListener listener
      nextListener := host.nextListener + 1 },
    host.nextListener)

/-- Run the disposer `onSessionEvent` returned. -/
def unsubscribe (host : SessionHost) (id : ListenerId) : SessionHost :=
  { host with listeners := host.listeners.delete id }

@[simp] theorem append_listeners (host : SessionHost) (request : HostAppend) :
    (host.append request).1.listeners = host.listeners := by
  unfold append
  split <;> rfl

@[simp] theorem append_nextListener (host : SessionHost) (request : HostAppend) :
    (host.append request).1.nextListener = host.nextListener := by
  unfold append
  split <;> rfl

end SessionHost

inductive AgentStatus
  | idle
  | running
deriving DecidableEq, Repr

end DshRemote.Backend
