import DshRemote.Client.Connection

/-! # RemoteClient

The registry of handles of a client, its calls in flight and what it has written to
the channels of its targets. The channels stay up and each delivers requests in the
order they were written; a call may fail at any moment for whatever reason. An event
is one synchronous stretch: a call from outside, a continuation after an `await`, or
a backend serving the next request of its channel. -/

namespace DshRemote.Client

abbrev CallId := Nat

/-- Print-safe registry key for one (target, session) handle. -/
def handleKey (targetId : TargetId) (sessionId : SessionId) : String :=
  targetId ++ "::" ++ sessionId

structure ClientHandle extends DaemonAgentHandle where
  targetId : TargetId
deriving DecidableEq, Repr

/-- Where a call stands between its `await`s: for the connection, for the response,
or answered with the continuation still to run. -/
inductive CallPhase (Result : Type)
  | connecting
  | sent
  | answered (result : Result)
deriving DecidableEq, Repr

inductive ClientCall
  | attach (targetId : TargetId) (sessionId : SessionId) (mode : AttachMode) (force : Bool)
      (phase : CallPhase SessionAttachResult)
  | create (targetId : TargetId) (requestedSessionId : Option SessionId)
      (phase : CallPhase SessionId)
  /-- The `acquireWrite` of a handle. -/
  | escalate (handle : HandleId) (phase : CallPhase SessionAttachResult)
deriving DecidableEq, Repr

inductive ClientRequest
  | attach (call : CallId) (params : SessionAttachParams)
  | create (call : CallId) (requestedSessionId : Option SessionId)
  | detach (sessionId : SessionId)
deriving DecidableEq, Repr

/-- How a backend serves the next request. A refused attach may have dropped the
client's attachment to the session. -/
inductive ServerAnswer
  | attached (result : SessionAttachResult)
  | created (sessionId : SessionId)
  | done
  | refused (dropped : Bool)
deriving DecidableEq, Repr

structure RemoteClient where
  handles : OrderedMap String HandleId := .empty
  /-- Every handle the client has made, registered or not. -/
  made : OrderedMap HandleId ClientHandle := .empty
  nextHandle : HandleId := 0
  calls : OrderedMap CallId ClientCall := .empty
  nextCall : CallId := 0
  /-- The requests written to each target and not yet served. -/
  wire : TargetId → List ClientRequest := fun _ => []
  /-- What the backends hold as attached for this client. -/
  attached : OrderedSet (TargetId × SessionId) := .empty

inductive ClientEvent
  | attach (targetId : TargetId) (sessionId : SessionId) (mode : AttachMode) (force : Bool)
  | create (targetId : TargetId) (requestedSessionId : Option SessionId)
  /-- The `await` of the connection is over. -/
  | connected (call : CallId)
  | served (targetId : TargetId) (answer : ServerAnswer)
  /-- The continuation of an answered call. -/
  | resumed (call : CallId)
  /-- The connection or the call failed, timed out or was aborted. -/
  | failed (call : CallId)
  /-- A handle's own `detach`; `detachAll` is one after the other. -/
  | detach (handle : HandleId)
  | reattachFailed (handle : HandleId)
  | sessionEvent (handle : HandleId) (event : SessionEvent)
  | controlChanged (handle : HandleId) (clientId : ClientId) (holder : Option ClientId)
      (reason : ControlChangeReason)
deriving DecidableEq, Repr

namespace RemoteClient

/-! ## Handles -/

/-- The registered handle of a key, unless it is detached. -/
def existing (client : RemoteClient) (key : String) : Option HandleId :=
  (client.handles.get key).filter fun handle =>
    (client.made.get handle).any fun current => !current.detached

def update (client : RemoteClient) (handle : HandleId)
    (change : DaemonAgentHandle → DaemonAgentHandle) : RemoteClient :=
  { client with
    made := client.made.mapValues fun other current =>
      if other = handle then
        { current with toDaemonAgentHandle := change current.toDaemonAgentHandle }
      else current }

/-- The `onDetached` of a handle. -/
def onDetached (client : RemoteClient) (handle : ClientHandle) : RemoteClient :=
  { client with handles := client.handles.delete (handleKey handle.targetId handle.sessionId) }

def send (client : RemoteClient) (targetId : TargetId) (request : ClientRequest) :
    RemoteClient :=
  { client with
    wire := Function.update client.wire targetId (client.wire targetId ++ [request]) }

def detach (client : RemoteClient) (handle : HandleId) : RemoteClient :=
  match client.made.get handle with
  | none => client
  | some current =>
      if current.detached then client
      else
        ((client.update handle DaemonAgentHandle.detach).onDetached current).send
          current.targetId (.detach current.sessionId)

def reattachFailed (client : RemoteClient) (handle : HandleId) : RemoteClient :=
  match client.made.get handle with
  | none => client
  | some current =>
      if current.detached then client
      else (client.update handle DaemonAgentHandle.onReattachFailed).onDetached current

/-! ## Calls -/

/-- A call that takes the next identity. -/
def enter (client : RemoteClient) (call : ClientCall) : RemoteClient :=
  { client with
    calls := client.calls.set client.nextCall call
    nextCall := client.nextCall + 1 }

def setCall (client : RemoteClient) (call : CallId) (state : ClientCall) : RemoteClient :=
  { client with calls := client.calls.set call state }

def leave (client : RemoteClient) (call : CallId) : RemoteClient :=
  { client with calls := client.calls.delete call }

/-- Escalate a read handle to write control via a re-attach. -/
def acquireWrite (client : RemoteClient) (handle : HandleId) (force : Bool) : RemoteClient :=
  match client.made.get handle with
  | none => client
  | some current =>
      if current.mode = .write then client
      else
        (client.send current.targetId (.attach client.nextCall {
          sessionId := current.sessionId
          mode := .write
          force := force
          sinceSeq := some current.cursor })).enter (.escalate handle .sent)

/-- `attach` up to its first `await`. -/
def attach (client : RemoteClient) (targetId : TargetId) (sessionId : SessionId)
    (mode : AttachMode) (force : Bool) : RemoteClient :=
  match client.existing (handleKey targetId sessionId) with
  | some handle => if mode = .write then client.acquireWrite handle force else client
  | none => client.enter (.attach targetId sessionId mode force .connecting)

/-- The end of `attach`: the new handle takes the registry entry of its key. -/
def register (client : RemoteClient) (call : CallId) (targetId : TargetId)
    (sessionId : SessionId) (mode : AttachMode) (result : SessionAttachResult) : RemoteClient :=
  { client with
    made := client.made.set client.nextHandle
      { sessionId, mode, cursor := result.lastSeq, targetId }
    nextHandle := client.nextHandle + 1
    handles := client.handles.set (handleKey targetId sessionId) client.nextHandle
    calls := client.calls.delete call }

/-- The call goes on once its connection is there. -/
def connected (client : RemoteClient) (call : CallId) : Option RemoteClient :=
  match client.calls.get call with
  | some (.attach targetId sessionId mode force .connecting) =>
      some ((client.send targetId (.attach call { sessionId, mode, force })).setCall call
        (.attach targetId sessionId mode force .sent))
  | some (.create targetId requested .connecting) =>
      some ((client.send targetId (.create call requested)).setCall call
        (.create targetId requested .sent))
  | _ => none

/-- The answer to an attach request reaches its call; a late one reaches nobody. -/
def answerAttach (client : RemoteClient) (call : CallId) (result : SessionAttachResult) :
    RemoteClient :=
  match client.calls.get call with
  | some (.attach targetId sessionId mode force .sent) =>
      client.setCall call (.attach targetId sessionId mode force (.answered result))
  | some (.escalate handle .sent) => client.setCall call (.escalate handle (.answered result))
  | _ => client

def answerCreate (client : RemoteClient) (call : CallId) (sessionId : SessionId) :
    RemoteClient :=
  match client.calls.get call with
  | some (.create targetId requested .sent) =>
      client.setCall call (.create targetId requested (.answered sessionId))
  | _ => client

def resumed (client : RemoteClient) (call : CallId) : Option RemoteClient :=
  match client.calls.get call with
  | some (.attach targetId sessionId mode _ (.answered result)) =>
      some (client.register call targetId sessionId mode result)
  | some (.create targetId _ (.answered sessionId)) =>
      some ((client.leave call).attach targetId sessionId .write false)
  | some (.escalate handle (.answered _)) =>
      some ((client.leave call).update handle fun current => { current with mode := .write })
  | _ => none

def failed (client : RemoteClient) (call : CallId) : Option RemoteClient :=
  match client.calls.get call with
  | some (.attach _ _ _ _ (.answered _)) | some (.create _ _ (.answered _))
  | some (.escalate _ (.answered _)) | none => none
  | some _ => some (client.leave call)

/-- A backend serves the next request of its channel. -/
def served (client : RemoteClient) (targetId : TargetId) (answer : ServerAnswer) :
    Option RemoteClient :=
  match client.wire targetId with
  | [] => none
  | request :: rest =>
      let taken := { client with wire := Function.update client.wire targetId rest }
      match request, answer with
      | .attach call params, .attached result =>
          let attached := client.attached.add (targetId, params.sessionId)
          some ({ taken with attached := attached }.answerAttach call result)
      | .attach call params, .refused dropped =>
          let attached :=
            if dropped then client.attached.delete (targetId, params.sessionId)
            else client.attached
          some ({ taken with attached := attached }.leave call)
      | .create call _, .created sessionId => some (taken.answerCreate call sessionId)
      | .create call _, .refused _ => some (taken.leave call)
      | .detach sessionId, .done =>
          some { taken with attached := client.attached.delete (targetId, sessionId) }
      | _, _ => none

def step (client : RemoteClient) : ClientEvent → Option RemoteClient
  | .attach targetId sessionId mode force =>
      some (client.attach targetId sessionId mode force)
  | .create targetId requested => some (client.enter (.create targetId requested .connecting))
  | .connected call => client.connected call
  | .served targetId answer => client.served targetId answer
  | .resumed call => client.resumed call
  | .failed call => client.failed call
  | .detach handle => some (client.detach handle)
  | .reattachFailed handle => some (client.reattachFailed handle)
  | .sessionEvent handle event =>
      some (client.update handle fun current => (current.handleEvent event).1)
  | .controlChanged handle clientId holder reason =>
      some (client.update handle fun current => current.handleControl clientId holder reason)

end RemoteClient

end DshRemote.Client
