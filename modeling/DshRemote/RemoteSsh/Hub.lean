import DshRemote.Foundation.Execution
import DshRemote.Foundation.OrderedMap

/-! # `SshRemoteHub`

The targets with their transports, and the calls of `connect`, `disconnect`, `removeTarget`
and `dispose` that overlap on them. An event is one synchronous stretch of code: a call up
to its first `await`, what follows an `await`, or the `close` event of a client. Whether a
connection can be opened and what the remote command returns is part of the event. -/

namespace DshRemote.RemoteSsh

abbrev TargetId := String

/-- A `TargetEntry` object. Removing a target and adding it again makes another one. -/
abbrev EntryId := Nat

abbrev TransportId := Nat

inductive ConnectionStatus
  | disconnected
  | connecting
  | connected
  | degraded
deriving DecidableEq, Repr

structure SshTransport where
  /-- The entry whose attempt opened the transport. -/
  entry : EntryId
  /-- How many calls of `dispose` had completed when that attempt began. -/
  born : Nat
  /-- `close()` was called. -/
  closing : Bool := false
  /-- The client has emitted `close`. -/
  closeEmitted : Bool := false
  /-- `onUnexpectedClose` is set. -/
  watched : Bool := false
deriving DecidableEq, Repr

/-- Every operation on the transport fails with `CONN_LOST`. -/
def SshTransport.gone (transport : SshTransport) : Bool :=
  transport.closing || transport.closeEmitted

/-- Where an attempt waits inside `establish`. -/
inductive AttemptPhase
  /-- For `SshTransport.connect`. -/
  | opening
  /-- For the command that makes the runtime root. -/
  | preparing (transport : TransportId)
  /-- The command has completed; its continuation is still to run. -/
  | recording (transport : TransportId) (root : String)
  /-- For the `close()` of the transport that the failed attempt had opened. -/
  | failing (transport : Option TransportId)
deriving DecidableEq, Repr

/-- The transport that an attempt still means to record. -/
def AttemptPhase.transport : AttemptPhase → Option TransportId
  | .preparing transport | .recording transport _ => some transport
  | .opening | .failing _ => none

/-- The promise in `entry.connecting`. -/
structure Attempt where
  number : Nat
  born : Nat
  phase : AttemptPhase := .opening
deriving DecidableEq, Repr

structure TargetEntry where
  id : TargetId
  status : ConnectionStatus := .disconnected
  transport : Option TransportId := none
  connecting : Option Attempt := none
  runtimeRoot : Option String := none
deriving DecidableEq, Repr

/-- Who awaits the promise of a `disconnect`. -/
inductive DisconnectCaller
  | user
  | removeTarget
  | dispose
deriving DecidableEq, Repr

inductive HubTask
  /-- `disconnect` lets an attempt in flight settle first. -/
  | awaitingAttempt (entry : EntryId) (attempt : Nat) (caller : DisconnectCaller)
  /-- `disconnect` awaits the `close()` of the transport it took. -/
  | awaitingClose (entry : EntryId) (transport : TransportId) (wasActive : Bool)
      (caller : DisconnectCaller)
  /-- The `disconnect` inside `removeTarget` or `dispose` has settled. -/
  | disconnected (target : TargetId) (caller : DisconnectCaller)
deriving DecidableEq, Repr

def HubTask.caller : HubTask → DisconnectCaller
  | .awaitingAttempt _ _ caller | .awaitingClose _ _ _ caller | .disconnected _ caller => caller

inductive LifecycleEvent
  | connected
  | disconnected
  | degraded
deriving DecidableEq, Repr

/-- An event of the context, with what `status` says when it is emitted. -/
structure Emission where
  event : LifecycleEvent
  target : TargetId
  status : ConnectionStatus
deriving DecidableEq, Repr

structure SshRemoteHub where
  /-- The map from target ids to entries. -/
  registered : OrderedMap TargetId EntryId := .empty
  /-- Every entry object made so far. -/
  entries : List TargetEntry := []
  /-- Every transport opened so far. -/
  transports : List SshTransport := []
  tasks : List HubTask := []
  attempts : Nat := 0
  /-- How often `dispose` was called. -/
  disposals : Nat := 0
  emitted : List Emission := []
deriving DecidableEq

inductive HubEvent
  | addTarget (id : TargetId)
  | removeTarget (id : TargetId)
  | connect (id : TargetId)
  | disconnect (id : TargetId)
  | dispose
  /-- `SshTransport.connect` returns or throws. -/
  | opened (entry : EntryId) (succeeded : Bool)
  /-- The command that makes the runtime root has completed. -/
  | rootMade (entry : EntryId) (root : String)
  | rootFailed (entry : EntryId)
  /-- `establish` goes on with the runtime root. -/
  | recorded (entry : EntryId)
  /-- `establish` goes on behind the `close()` of a failed attempt. -/
  | gaveUp (entry : EntryId)
  | attemptAwaited (entry : EntryId) (attempt : Nat) (caller : DisconnectCaller)
  | closeAwaited (entry : EntryId) (transport : TransportId) (wasActive : Bool)
      (caller : DisconnectCaller)
  | disconnectAwaited (target : TargetId) (caller : DisconnectCaller)
  /-- The client of a transport emits `close`. -/
  | clientClosed (transport : TransportId)
deriving DecidableEq, Repr

namespace SshRemoteHub

def entryOf (hub : SshRemoteHub) (id : TargetId) : Option TargetEntry :=
  (hub.registered.get id).bind fun entry => hub.entries[entry]?

def status (hub : SshRemoteHub) (id : TargetId) : ConnectionStatus :=
  ((hub.entryOf id).map TargetEntry.status).getD .disconnected

/-- `get`: the transport that callers are handed. -/
def get (hub : SshRemoteHub) (id : TargetId) : Option TransportId :=
  (hub.entryOf id).bind fun entry =>
    if entry.status = .connected then entry.transport else none

def modifyEntry (hub : SshRemoteHub) (entry : EntryId) (change : TargetEntry → TargetEntry) :
    SshRemoteHub :=
  { hub with entries := hub.entries.modify entry change }

def modifyTransport (hub : SshRemoteHub) (transport : TransportId)
    (change : SshTransport → SshTransport) : SshRemoteHub :=
  { hub with transports := hub.transports.modify transport change }

/-- The first synchronous stretch of `SshTransport.close`. -/
def close (hub : SshRemoteHub) (transport : TransportId) : SshRemoteHub :=
  hub.modifyTransport transport fun object => { object with closing := true }

def await (hub : SshRemoteHub) (task : HubTask) : SshRemoteHub :=
  { hub with tasks := task :: hub.tasks }

/-- A call of `dispose` is under way. -/
def disposing (hub : SshRemoteHub) : Bool :=
  hub.tasks.any fun task => task.caller = .dispose

def emit (hub : SshRemoteHub) (event : LifecycleEvent) (target : TargetId) : SshRemoteHub :=
  { hub with emitted := hub.emitted ++ [⟨event, target, hub.status target⟩] }

/-- `disconnect` has completed. -/
def settleDisconnect (hub : SshRemoteHub) (target : TargetId) :
    DisconnectCaller → SshRemoteHub
  | .user => hub
  | .removeTarget => hub.await (.disconnected target .removeTarget)
  | .dispose => hub.await (.disconnected target .dispose)

/-- `disconnect` behind its wait for the attempt. -/
def tearDown (hub : SshRemoteHub) (entry : EntryId) (caller : DisconnectCaller) :
    SshRemoteHub :=
  match hub.entries[entry]? with
  | none => hub
  | some object =>
      let wasActive := object.status = .connected || object.status = .degraded
      let cleared := hub.modifyEntry entry fun object =>
        { object with transport := none, runtimeRoot := none, status := .disconnected }
      match object.transport with
      | some transport =>
          (cleared.close transport).await (.awaitingClose entry transport wasActive caller)
      | none =>
          (if wasActive then cleared.emit .disconnected object.id else cleared).settleDisconnect
            object.id caller

/-- `disconnect`, up to its first `await`. -/
def disconnect (hub : SshRemoteHub) (id : TargetId) (caller : DisconnectCaller) : SshRemoteHub :=
  match hub.registered.get id with
  | none => hub.settleDisconnect id caller
  | some entry =>
      match (hub.entries[entry]?).bind TargetEntry.connecting with
      | some attempt => hub.await (.awaitingAttempt entry attempt.number caller)
      | none => hub.tearDown entry caller

/-- `connect`, with `establish` up to its first `await`. -/
def connect (hub : SshRemoteHub) (id : TargetId) : SshRemoteHub :=
  match hub.registered.get id with
  | none => hub
  | some entry =>
      match hub.entries[entry]? with
      | none => hub
      | some object =>
          if object.status = .connected ∧ object.transport.isSome then hub
          else if object.connecting.isSome then hub
          else
            let next : SshRemoteHub := { hub with attempts := hub.attempts + 1 }
            next.modifyEntry entry fun object =>
              { object with
                status := .connecting
                connecting := some {
                  number := hub.attempts
                  born := if hub.disposing then hub.disposals - 1 else hub.disposals } }

/-- The `catch` of `establish`: the status first, then the `close()` it awaits. -/
def failAttempt (hub : SshRemoteHub) (entry : EntryId) (attempt : Attempt)
    (transport : Option TransportId) : SshRemoteHub :=
  let failing := hub.modifyEntry entry fun object =>
    { object with
      status := .disconnected
      connecting := some { attempt with phase := .failing transport } }
  match transport with
  | some transport => failing.close transport
  | none => failing

def attemptOf (hub : SshRemoteHub) (entry : EntryId) : Option Attempt :=
  (hub.entries[entry]?).bind TargetEntry.connecting

def setPhase (hub : SshRemoteHub) (entry : EntryId) (attempt : Attempt) (phase : AttemptPhase) :
    SshRemoteHub :=
  hub.modifyEntry entry fun object =>
    { object with connecting := some { attempt with phase := phase } }

/-- The `close` event of a client, with the callback `establish` installed. -/
def clientClosed (hub : SshRemoteHub) (transport : TransportId) (object : SshTransport) :
    SshRemoteHub :=
  let closed := hub.modifyTransport transport fun object => { object with closeEmitted := true }
  if object.closing ∨ ¬object.watched then closed
  else match closed.entries[object.entry]? with
  | none => closed
  | some entry =>
      -- Stale callbacks, of transports that were replaced, are ignored.
      if entry.transport ≠ some transport then closed
      else
        (closed.modifyEntry object.entry fun entry =>
          { entry with status := .degraded, runtimeRoot := none }).emit .degraded entry.id

def isClosed (hub : SshRemoteHub) (transport : TransportId) : Bool :=
  (hub.transports[transport]?).any SshTransport.closeEmitted

def step (hub : SshRemoteHub) : HubEvent → Option SshRemoteHub
  | .addTarget id =>
      if hub.registered.has id then none
      else some { hub with
        registered := hub.registered.set id hub.entries.length
        entries := hub.entries ++ [{ id := id }] }
  | .removeTarget id =>
      some (if hub.registered.has id then hub.disconnect id .removeTarget else hub)
  | .connect id => some (hub.connect id)
  | .disconnect id => some (hub.disconnect id .user)
  | .dispose =>
      some (hub.registered.keys.foldl (fun hub id => hub.disconnect id .dispose)
        { hub with disposals := hub.disposals + 1 })
  | .opened entry succeeded =>
      match hub.attemptOf entry with
      | some attempt =>
          if attempt.phase ≠ .opening then none
          else if succeeded then
            let next : SshRemoteHub := { hub with
              transports := hub.transports ++ [{ entry := entry, born := attempt.born }] }
            some (next.setPhase entry attempt (.preparing hub.transports.length))
          else some (hub.failAttempt entry attempt none)
      | none => none
  | .rootMade entry root =>
      match hub.attemptOf entry with
      | some attempt =>
          match attempt.phase with
          | .preparing transport =>
              if (hub.transports[transport]?).any SshTransport.gone then none
              else some (hub.setPhase entry attempt (.recording transport root))
          | _ => none
      | none => none
  | .rootFailed entry =>
      match hub.attemptOf entry with
      | some attempt =>
          match attempt.phase with
          | .preparing transport => some (hub.failAttempt entry attempt (some transport))
          | _ => none
      | none => none
  | .recorded entry =>
      match hub.entries[entry]? with
      | some object =>
          match object.connecting.map Attempt.phase with
          | some (.recording transport root) =>
              some (((hub.modifyEntry entry fun object =>
                { object with
                  transport := some transport
                  runtimeRoot := some root
                  status := .connected
                  connecting := none }).modifyTransport transport fun object =>
                    { object with watched := true }).emit .connected object.id)
          | _ => none
      | none => none
  | .gaveUp entry =>
      match hub.attemptOf entry with
      | some attempt =>
          match attempt.phase with
          | .failing transport =>
              if transport.any fun transport => !hub.isClosed transport then none
              else some (hub.modifyEntry entry fun object => { object with connecting := none })
          | _ => none
      | none => none
  | .attemptAwaited entry attempt caller =>
      if .awaitingAttempt entry attempt caller ∈ hub.tasks ∧
          (hub.attemptOf entry).map Attempt.number ≠ some attempt then
        let next : SshRemoteHub := { hub with
          tasks := hub.tasks.erase (.awaitingAttempt entry attempt caller) }
        some (next.tearDown entry caller)
      else none
  | .closeAwaited entry transport wasActive caller =>
      if .awaitingClose entry transport wasActive caller ∈ hub.tasks ∧
          hub.isClosed transport then
        let next : SshRemoteHub := { hub with
          tasks := hub.tasks.erase (.awaitingClose entry transport wasActive caller) }
        (hub.entries[entry]?).map fun object =>
          (if wasActive then next.emit .disconnected object.id else next).settleDisconnect
            object.id caller
      else none
  | .disconnectAwaited target caller =>
      if .disconnected target caller ∈ hub.tasks then
        let next : SshRemoteHub := { hub with tasks := hub.tasks.erase (.disconnected target caller) }
        some (match caller with
          | .removeTarget => { next with registered := next.registered.delete target }
          | .dispose | .user => next)
      else none
  | .clientClosed transport =>
      match hub.transports[transport]? with
      | some object => if object.closeEmitted then none else some (hub.clientClosed transport object)
      | none => none

end SshRemoteHub

end DshRemote.RemoteSsh
