import DshRemote.Backend.Daemon
import DshRemote.Backend.Handshake

/-! # A connection and the daemon it serves

What happens on one connection reaches the daemon when a proof is accepted, when a served
method is called, and when the byte stream has ended. Other connections and the host do to
the daemon what they like, but they do not speak for the clients of this one. -/

namespace DshRemote.Backend

/-- The method whose handler makes the request. -/
def Request.method : Request → ServedMethod
  | .attach _ => .sessionAttach
  | .detach _ => .sessionDetach
  | .controlRelease _ => .sessionControlRelease
  | .prompt .. => .sessionPrompt
  | .cancel _ => .sessionCancel
  | .fork .. => .sessionFork
  | .compact _ => .sessionCompact
  | .approvalAnswer _ => .approvalAnswer
  | .questionAnswer _ => .questionAnswer

/-- The client whose connection an event of the daemon comes from. -/
def DaemonEvent.clientId : DaemonEvent → Option ClientId
  | .closed _ clientId => some clientId
  | .request _ clientId _ => some clientId
  | _ => none

structure ServedConnection (Number : Type) where
  server : BackendServer Number := .create
  daemon : Daemon
  /-- The client ids minted on this connection, in order. -/
  clientIds : List ClientId := []

inductive ConnectionEvent (Number : Type)
  /-- An event of the connection, with the request that the method it calls makes of its
  parameters, if it makes one, and the surroundings in which it is served. -/
  | own (event : ServerEvent Number) (environment : AttachEnvironment) (request : Option Request)
  | others (event : DaemonEvent)

namespace ServedConnection

variable {Number : Type}

/-- A new connection of a new daemon: what happened before are events of others. -/
def init (sessions : OrderedMap SessionId HostSession)
    (agents : OrderedMap SessionId AgentStatus) (extras : SessionBrokerExtras)
    (failClosed : Bool) : ServedConnection Number where
  daemon := .init sessions agents extras failClosed

section Steps

variable (deps : BackendServerDeps Number)

/-- The request of a handler that is called for a client. -/
def requestEvent (environment : AttachEnvironment) :
    Option Handler → Option Request → Option DaemonEvent
  | some (.served method owner), some request =>
      if request.method = method then some (.request environment owner request) else none
  | _, _ => none

/-- The close handler cleans up after the client id that it finds. -/
def closeEvent (server : BackendServer Number) (environment : AttachEnvironment) :
    Option DaemonEvent :=
  server.clientId.map fun clientId => .closed environment.toEnvironment clientId

/-- What an event of the connection is to the daemon. -/
def daemonEvent (server : BackendServer Number) (event : ServerEvent Number)
    (environment : AttachEnvironment) (request : Option Request) : Option DaemonEvent :=
  match server.accepts deps event, event with
  | some clientId, _ => some (.connect clientId)
  | none, .closed => closeEvent server environment
  | none, _ => requestEvent environment (server.perform deps event).2.dispatched request

def daemonStep (daemon : Daemon) : Option DaemonEvent → Option Daemon
  | some event => daemon.step event
  | none => some daemon

def step (connection : ServedConnection Number) :
    ConnectionEvent Number → Option (ServedConnection Number)
  | .own event environment request =>
      (connection.server.step deps event).bind fun server =>
        (daemonStep connection.daemon
            (daemonEvent deps connection.server event environment request)).map fun daemon =>
          { server
            daemon
            clientIds := connection.clientIds ++ (connection.server.accepts deps event).toList }
  | .others event =>
      if ∀ clientId ∈ event.clientId, clientId ∉ connection.clientIds then
        (connection.daemon.step event).map fun daemon => { connection with daemon }
      else none

end Steps

end ServedConnection

end DshRemote.Backend
