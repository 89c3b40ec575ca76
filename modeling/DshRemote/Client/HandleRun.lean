import DshRemote.Backend.LiveFeed
import DshRemote.Client.Connection

/-! # One handle against the broker

The life of one handle, from the attach that makes it over any number of lost and
regained channels. The backend serves a call and writes its response a little later;
the client handles all lines of a chunk together, and the continuation of the answered
call runs after them. -/

namespace DshRemote.Client

open Backend

inductive Line
  | notification (notification : Notification)
  /-- The response to the call in flight; what it says is kept with the call. -/
  | response
deriving DecidableEq, Repr

inductive AttachPurpose
  /-- The call of `RemoteClient.attach`, which makes the handle. -/
  | create
  | reattach
  /-- The read attach a refused write re-attach is degraded to. -/
  | fallback
deriving DecidableEq, Repr

abbrev AttachAnswer := Except CallFailure SessionAttachResult

/-- How the client sees the error of a handler; another exception than a `RemoteError`
is reported as an internal error. -/
def answerOf : Except Thrown SessionAttachResult → AttachAnswer
  | .ok result => .ok result
  | .error (.remote error) => .error (.refused error)
  | .error .foreign => .error (.refused { code := .protocolError, message := "RPC error -32603" })

inductive AttachPhase
  | requested
  /-- The handler has returned; its response is not yet written. -/
  | served (answer : AttachAnswer)
  | written (answer : AttachAnswer)
  /-- The call is settled; its continuation has not run yet. -/
  | answered (answer : AttachAnswer)

/-- The answer, from the moment the backend knows it. -/
def AttachPhase.answer : AttachPhase → Option AttachAnswer
  | .requested => none
  | .served answer | .written answer | .answered answer => some answer

structure AttachCall where
  purpose : AttachPurpose
  params : SessionAttachParams
  phase : AttachPhase

structure HandleRun where
  broker : SessionBroker
  sessionId : SessionId
  /-- The id the channel was given; none while the channel is down. -/
  clientId : Option ClientId
  /-- Lines written by the backend that the client has not handled. -/
  wire : List Line := []
  call : Option AttachCall := none
  handle : Option DaemonAgentHandle := none
  /-- `lastSeq` of the attach result the handle was made from. -/
  attachedAt : Int := -1
  /-- What the event callbacks of the handle were given; they return normally. -/
  received : List SessionEvent := []

inductive HandleRunEvent
  /-- Anything else that happens at the backend. -/
  | backend (event : BrokerEvent)
  /-- The backend serves the request in flight. -/
  | served (environment : AttachEnvironment)
      (pendingInteractions : Option (List PendingInteraction))
  /-- The response is written. -/
  | written
  /-- One chunk arrives: the client handles that many lines. -/
  | chunk (count : Nat)
  /-- The continuation of the settled call runs. -/
  | resumed
  | dropped
  | reconnected (clientId : ClientId)

namespace HandleRun

/-- The attach of `RemoteClient.attach` has been written on a channel that is up. -/
def start (broker : SessionBroker) (sessionId : SessionId) (clientId : ClientId)
    (mode : AttachMode) (force : Bool) (wire : List Notification) : HandleRun where
  broker := broker
  sessionId := sessionId
  clientId := some clientId
  wire := wire.map Line.notification
  call := some ⟨.create, { sessionId := sessionId, mode := mode, force := force }, .requested⟩

/-- What `peerCall` makes of a request: rejected at once while the channel is down. -/
def request (run : HandleRun) (purpose : AttachPurpose) (params : SessionAttachParams) :
    AttachCall :=
  ⟨purpose, params, if run.clientId.isSome then .requested else .answered (.error .connLost)⟩

/-- The client handles one line. -/
def handleLine (run : HandleRun) : Line → HandleRun
  | .response =>
      match run.call with
      | some ⟨purpose, params, .written answer⟩ =>
          { run with call := some ⟨purpose, params, .answered answer⟩ }
      | _ => run
  | .notification notification =>
      match run.handle with
      -- No subscriber: the notification is dropped.
      | none => run
      | some handle =>
          match notification with
          | .sessionEvent session event =>
              if session = run.sessionId then
                { run with
                  handle := some (handle.handleEvent event).1
                  received := run.received ++ (handle.handleEvent event).2.toList }
              else run
          | .sessionControlChanged session holder reason =>
              if session = run.sessionId then
                { run with
                  handle := some (handle.handleControl (run.clientId.getD "") holder reason) }
              else run
          | _ => run

/-- The lines of one chunk, in order. -/
def deliver : Nat → HandleRun → HandleRun
  | 0, run => run
  | count + 1, run =>
      match run.wire with
      | [] => run
      | line :: rest => deliver count ({ run with wire := rest }.handleLine line)

/-- The continuation of `RemoteClient.attach`, or `reattachAll` going on. -/
def resume (run : HandleRun) (purpose : AttachPurpose) (params : SessionAttachParams) :
    AttachAnswer → HandleRun
  | .ok result =>
      match purpose with
      | .create =>
          { run with
            call := none
            handle := some
              { sessionId := run.sessionId, mode := params.mode, cursor := result.lastSeq }
            attachedAt := result.lastSeq }
      | .reattach => { run with call := none }
      | .fallback =>
          { run with
            call := none
            handle := run.handle.map fun handle =>
              handle.handleControl (run.clientId.getD "") none .disconnected }
  | .error failure =>
      match purpose with
      | .create => { run with call := none }
      | .reattach =>
          if params.mode = .write ∧ failure.code = some .sessionLocked then
            { run with
              call := some (run.request .fallback { params with mode := .read, force := false }) }
          else { run with call := none, handle := run.handle.map DaemonAgentHandle.onReattachFailed }
      | .fallback =>
          { run with call := none, handle := run.handle.map DaemonAgentHandle.onReattachFailed }

/-- The byte stream ends: what was not handled is lost, and the call in flight fails. -/
def drop (run : HandleRun) : HandleRun :=
  { run with
    clientId := none
    wire := []
    call := run.call.map fun call =>
      match call.phase with
      | .answered _ => call
      | _ => { call with phase := .answered (.error .connLost) } }

/-- A new channel with a fresh client id; a subscribed handle is re-attached on it. -/
def reconnect (run : HandleRun) (clientId : ClientId) : HandleRun :=
  { run with
    broker := run.broker.connect clientId
    clientId := some clientId
    wire := []
    call := match run.handle with
      | none => none
      | some handle =>
          if handle.detached then none
          else some ⟨.reattach, handle.reattachRequest, .requested⟩ }

/-- The continuation of a settled call runs long before a channel is opened again. The
host neither replaces nor disposes the session, the session's other attaches of this
client are those of the run, and while the channel is up what is written to it stays
on it. -/
def step (run : HandleRun) : HandleRunEvent → Option HandleRun
  | .backend event =>
      if event.keepsSession run.sessionId then
        match run.clientId with
        | none => some { run with broker := (run.broker.perform event).1 }
        | some clientId =>
            if event.concerns clientId run.sessionId then none
            else
              let performed := run.broker.perform (event.reaching clientId)
              some { run with
                broker := performed.1
                wire := run.wire ++ (notificationsTo clientId performed.2).map .notification }
      else none
  | .served environment pendingInteractions =>
      match run.clientId, run.call with
      | some clientId, some ⟨purpose, params, .requested⟩ =>
          let outcome := run.broker.attach (environment.reaching clientId) clientId params
            pendingInteractions
          some { run with
            broker := outcome.broker
            wire := run.wire ++ (notificationsTo clientId outcome.sent).map .notification
            call := some ⟨purpose, params, .served (answerOf outcome.result)⟩ }
      | _, _ => none
  | .written =>
      match run.clientId, run.call with
      | some _, some ⟨purpose, params, .served answer⟩ =>
          some { run with
            wire := run.wire ++ [.response]
            call := some ⟨purpose, params, .written answer⟩ }
      | _, _ => none
  | .chunk count =>
      if run.clientId.isSome ∧ count ≤ run.wire.length then some (run.deliver count) else none
  | .resumed =>
      match run.call with
      | some ⟨purpose, params, .answered answer⟩ => some (run.resume purpose params answer)
      | _ => none
  | .dropped => if run.clientId.isSome then some run.drop else none
  | .reconnected clientId =>
      if run.clientId = none ∧ run.call.isNone ∧ clientId ∉ run.broker.connections then
        some (run.reconnect clientId)
      else none

/-! ## Lines that come too early -/

/-- The last event the attach in flight covers, while its handle does not exist yet. -/
def announced (run : HandleRun) : Option Int :=
  match run.handle, run.call with
  | none, some call =>
      match call.phase.answer with
      | some (.ok result) => some result.lastSeq
      | _ => none
  | _, _ => none

/-- The line is an event that no handle is there to take. -/
def missesLine (run : HandleRun) : Line → Bool
  | .notification (.sessionEvent session event) =>
      match run.announced with
      | some lastSeq => session = run.sessionId ∧ lastSeq < event.seq
      | none => false
  | _ => false

/-- The chunk holds an event of the session above the `lastSeq` of the attach result,
and the handle is not registered yet. -/
def misses (run : HandleRun) : HandleRunEvent → Bool
  | .chunk count => (run.wire.take count).any run.missesLine
  | _ => false

end HandleRun

end DshRemote.Client
