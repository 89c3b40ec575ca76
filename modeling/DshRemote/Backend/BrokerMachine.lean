import DshRemote.Foundation.Execution
import DshRemote.Backend.Attach

/-! # The broker as a state machine

Every way the surroundings can act on a `SessionBroker`: the requests of its
clients, the approval bridge's flag, and the host. -/

namespace DshRemote.Backend

/-- The host acting on its own. -/
inductive HostEvent
  | append (request : HostAppend)
  | sessionEntered (sessionId : SessionId) (session : HostSession)
  | sessionDisposed (sessionId : SessionId)
  | agentStatus (agentId : SessionId) (status : AgentStatus)
  | agentRemoved (agentId : SessionId)

inductive BrokerEvent
  | connect (clientId : ClientId)
  | disconnect (environment : Environment) (clientId : ClientId)
  | attach (environment : AttachEnvironment) (clientId : ClientId)
      (params : SessionAttachParams) (pendingInteractions : Option (List PendingInteraction))
  | detach (environment : Environment) (clientId : ClientId) (sessionId : SessionId)
  | controlRelease (environment : Environment) (clientId : ClientId) (sessionId : SessionId)
  | setWaitingApproval (environment : Environment) (sessionId : SessionId) (waiting : Bool)
  | host (environment : Environment) (event : HostEvent)

namespace SessionBroker

/-- The `agent/status` handler's view of a host status. -/
def agentSessionStatus : AgentStatus → SessionStatus
  | .idle => .idle
  | .running => .running

/-- What the host does, and what the broker's host subscriptions make of it. -/
def hostEvent (environment : Environment) (broker : SessionBroker) :
    HostEvent → SessionBroker × List Sent
  | .append request =>
      let appended := broker.hostAppend environment none request
      (appended.1, appended.2.1)
  | .sessionEntered sessionId session =>
      ({ broker with sessions :=
          { broker.sessions with sessions := broker.sessions.sessions.set sessionId session } },
        [])
  | .sessionDisposed sessionId =>
      let next := { broker with sessions :=
        { broker.sessions with sessions := broker.sessions.sessions.delete sessionId } }
      (next, next.toAttached environment sessionId (.sessionStatus sessionId .ended))
  | .agentStatus agentId status =>
      let next := { broker with agents := broker.agents.set agentId status }
      (next, next.toAttached environment agentId
        (.sessionStatus agentId (agentSessionStatus status)))
  | .agentRemoved agentId => ({ broker with agents := broker.agents.delete agentId }, [])

/-- The broker after one event, and what it wrote to its clients. -/
def perform (broker : SessionBroker) : BrokerEvent → SessionBroker × List Sent
  | .connect clientId => (broker.connect clientId, [])
  | .disconnect environment clientId => broker.disconnect environment clientId
  | .attach environment clientId params pendingInteractions =>
      let outcome := broker.attach environment clientId params pendingInteractions
      (outcome.broker, outcome.sent)
  | .detach environment clientId sessionId => broker.detach environment clientId sessionId
  | .controlRelease environment clientId sessionId =>
      broker.controlRelease environment clientId sessionId
  | .setWaitingApproval environment sessionId waiting =>
      broker.setWaitingApproval environment sessionId waiting
  | .host environment event => broker.hostEvent environment event

def step (broker : SessionBroker) (event : BrokerEvent) : Option SessionBroker :=
  some (broker.perform event).1

end SessionBroker

end DshRemote.Backend
