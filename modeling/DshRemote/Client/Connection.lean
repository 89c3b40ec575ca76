import DshRemote.Client.Handle
import DshRemote.Foundation.Execution
import DshRemote.Foundation.OrderedMap

/-! # TargetConnection

One daemon channel to a target, as a state machine. An event is one synchronous
stretch of the client: a call from outside, a timer, what the transport reports,
or a continuation after an `await`. The end of a byte stream rejects the calls in
flight at once; the callback on `peer.closed` is queued and runs later. -/

namespace DshRemote.Client

abbrev PeerId := Nat
abbrev HandleId := Nat

/-- The subscribers of one session. The set is an object of its own: a loop that
holds it sees its later members, but not those of a set that replaced it. -/
structure SubscriberSet where
  identity : Nat
  members : OrderedSet HandleId
deriving DecidableEq

/-- Why a re-attach failed. -/
inductive CallFailure
  /-- The backend answered with an error. -/
  | refused (error : RemoteError)
  /-- The byte stream ended, or there was no peer to call. -/
  | connLost
  | timedOut
  /-- A callback of the handle threw when the handle was given the answer. -/
  | threw (code : Option RemoteErrorCode)
deriving DecidableEq, Repr

/-- The code of the error, if it is a `RemoteError`. -/
def CallFailure.code : CallFailure → Option RemoteErrorCode
  | .refused error => some error.code
  | .connLost => some .connLost
  | .timedOut => some .timeout
  | .threw code => code

inductive CallState
  | waiting (peer : PeerId)
  | answered (result : SessionAttachResult)
  | failed (failure : CallFailure)
deriving DecidableEq, Repr

/-- The re-attach the loop awaits: for which subscriber, as which request, and
whether it is the read attach, without force, a refused write attach is degraded to. -/
structure ReattachCall where
  handle : HandleId
  base : SessionAttachParams
  fallback : Bool
  state : CallState
deriving DecidableEq, Repr

/-- `reattachAll` between two synchronous stretches. -/
structure ReattachLoop where
  /-- Sets of the outer snapshot not yet entered. -/
  outer : List (SessionId × Nat)
  /-- Members of the inner snapshot not yet taken. -/
  inner : List HandleId
  current : Option ReattachCall
deriving DecidableEq, Repr

/-- Where the attempt in flight stands in `runOpen`. -/
inductive Attempt
  /-- Awaits the transport: `connector.connect`, then `exec`. -/
  | opening (gen : Nat)
  | handshaking (gen : Nat) (peer : PeerId)
  /-- The proof was answered; the continuation has not run. -/
  | handshook (gen : Nat) (peer : PeerId) (clientId : ClientId) (capabilities : List String)
  | reattaching (loop : ReattachLoop)
  /-- `runOpen` has returned or thrown; its callbacks in `launchAttempt` have not run. -/
  | settled (succeeded : Bool)
deriving DecidableEq, Repr

inductive ConnectionState
  | connected
  | down
deriving DecidableEq, Repr

structure TargetConnectionConfig where
  reconnectInitialDelayMs : Nat := 250
  reconnectMaxDelayMs : Nat := 10000
  /-- `none` is unlimited. -/
  reconnectMaxAttempts : Option Nat := none
deriving DecidableEq, Repr

structure TargetConnection where
  config : TargetConnectionConfig
  peer : Option PeerId := none
  gen : Nat := 0
  state : ConnectionState := .down
  attempt : Option Attempt := none
  timer : Bool := false
  backoffMs : Nat
  attempts : Nat := 0
  disposed : Bool := false
  clientId : ClientId := ""
  capabilities : List String := []
  subscribers : OrderedMap SessionId SubscriberSet := .empty
  nextSet : Nat := 0
  /-- Every handle this connection was given. -/
  handles : OrderedMap HandleId DaemonAgentHandle := .empty
  nextHandle : HandleId := 0
  /-- Fresh identity for the next `JsonRpcPeer`. -/
  nextPeer : PeerId := 0
  /-- Peers whose inbound stream has ended. -/
  ended : OrderedSet PeerId := .empty
  /-- Peers with a callback on `closed`, and the generation it captured. -/
  watched : OrderedMap PeerId Nat := .empty
  /-- Queued `onPeerClosed` callbacks. -/
  closing : List Nat := []
deriving DecidableEq

inductive ConnectionEvent
  | ensureConnected
  | timerFired
  | close
  /-- The detach calls and the kill of `close` are over. -/
  | closeFinished
  /-- The transport is up and the backend process runs; its peer is new. -/
  | execStarted
  /-- Connecting, spawning or the handshake failed. -/
  | openFailed
  | handshakeAnswered (clientId : ClientId) (capabilities : List String)
  /-- `runOpen` goes on after the handshake. -/
  | installed
  | reattachAnswered (answer : Except RemoteError SessionAttachResult)
  | reattachTimedOut
  /-- The re-attach loop goes on after its call was settled. -/
  | reattachResumed
  /-- It goes on with an answer, and a callback of the handle throws. -/
  | reattachThrew (code : Option RemoteErrorCode)
  /-- `runOpen` goes on after the loop. -/
  | reattachFinished
  /-- The callbacks of `launchAttempt` run. -/
  | attemptSettled
  /-- A peer's inbound stream ends. -/
  | dropped (peer : PeerId)
  /-- The first queued `onPeerClosed` runs. -/
  | peerClosed
  | subscribe (sessionId : SessionId) (mode : AttachMode) (lastSeq : Int)
  /-- A handle's own `detach`. -/
  | detach (handle : HandleId)
  | sessionEvent (sessionId : SessionId) (event : SessionEvent)
  | controlChanged (sessionId : SessionId) (holder : Option ClientId)
      (reason : ControlChangeReason)

namespace TargetConnection

def init (config : TargetConnectionConfig) : TargetConnection where
  config := config
  backoffMs := config.reconnectInitialDelayMs

/-! ## Subscribers -/

def membersOf (connection : TargetConnection) (sessionId : SessionId) : List HandleId :=
  match connection.subscribers.get sessionId with
  | none => []
  | some set => set.members.elements

def subscribe (connection : TargetConnection) (sessionId : SessionId) (mode : AttachMode)
    (lastSeq : Int) : TargetConnection :=
  let handle := connection.nextHandle
  let set := (connection.subscribers.get sessionId).getD ⟨connection.nextSet, .empty⟩
  { connection with
    handles := connection.handles.set handle ⟨sessionId, mode, lastSeq, false⟩
    nextHandle := handle + 1
    nextSet := connection.nextSet + 1
    subscribers := connection.subscribers.set sessionId
      { set with members := set.members.add handle } }

def unsubscribe (connection : TargetConnection) (sessionId : SessionId) (handle : HandleId) :
    TargetConnection :=
  match connection.subscribers.get sessionId with
  | none => connection
  | some set =>
      let members := set.members.delete handle
      { connection with
        subscribers :=
          if members.isEmpty then connection.subscribers.delete sessionId
          else connection.subscribers.set sessionId { set with members := members } }

def update (connection : TargetConnection) (handle : HandleId)
    (change : DaemonAgentHandle → DaemonAgentHandle) : TargetConnection :=
  { connection with
    handles := connection.handles.mapValues fun other current =>
      if other = handle then change current else current }

/-- A notification reaches every subscriber of its session. -/
def dispatch (connection : TargetConnection) (sessionId : SessionId)
    (change : DaemonAgentHandle → DaemonAgentHandle) : TargetConnection :=
  { connection with
    handles := connection.handles.mapValues fun other current =>
      if other ∈ connection.membersOf sessionId then change current else current }

/-- A handle's own `detach`, up to its call of the backend. -/
def detach (connection : TargetConnection) (handle : HandleId) : TargetConnection :=
  match connection.handles.get handle with
  | none => connection
  | some current =>
      if current.detached then connection
      else
        (connection.update handle DaemonAgentHandle.detach).unsubscribe current.sessionId
          handle

/-- `onReattachFailed` of a handle. -/
def onReattachFailed (connection : TargetConnection) (handle : HandleId) : TargetConnection :=
  match connection.handles.get handle with
  | none => connection
  | some current =>
      if current.detached then connection
      else
        (connection.update handle DaemonAgentHandle.onReattachFailed).unsubscribe
          current.sessionId handle

/-! ## Attempts and the reconnect timer -/

def launchAttempt (connection : TargetConnection) : TargetConnection :=
  { connection with attempt := some (.opening connection.gen) }

def ensureConnected (connection : TargetConnection) : TargetConnection :=
  if connection.disposed ∨ connection.state = .connected then connection
  else
    let immediate := { connection with timer := false }
    if immediate.attempt.isSome then immediate else immediate.launchAttempt

def timerFired (connection : TargetConnection) : TargetConnection :=
  let fired := { connection with timer := false }
  if fired.disposed ∨ fired.state = .connected ∨ fired.attempt.isSome then fired
  else fired.launchAttempt

def scheduleReconnect (connection : TargetConnection) : TargetConnection :=
  if connection.disposed ∨ connection.state = .connected ∨ connection.timer then connection
  else
    match connection.config.reconnectMaxAttempts with
    | some limit =>
        if limit ≤ connection.attempts then connection else { connection with timer := true }
    | none => { connection with timer := true }

/-- The callbacks of `launchAttempt` on its promise. -/
def attemptSettled (connection : TargetConnection) (succeeded : Bool) : TargetConnection :=
  let cleared := { connection with attempt := none }
  if succeeded then
    { cleared with attempts := 0, backoffMs := connection.config.reconnectInitialDelayMs }
  else
    scheduleReconnect { cleared with
      attempts := connection.attempts + 1
      backoffMs := min (connection.backoffMs * 2) connection.config.reconnectMaxDelayMs }

def onPeerClosed (connection : TargetConnection) (gen : Nat) : TargetConnection :=
  if connection.disposed ∨ gen ≠ connection.gen then connection
  else
    scheduleReconnect { connection with
      state := .down
      peer := none
      clientId := ""
      capabilities := []
      attempts := 0
      backoffMs := connection.config.reconnectInitialDelayMs }

/-- `close` up to its first `await`. -/
def close (connection : TargetConnection) : TargetConnection :=
  if connection.disposed then connection
  else
    { connection with
      disposed := true
      gen := connection.gen + 1
      timer := false
      state := .down
      peer := none
      clientId := ""
      capabilities := [] }

/-! ## Re-attaching the subscribers -/

/-- `peerCall`: rejected at once without a peer. A call on a peer whose stream has
ended is entered like any other, and nothing will answer it. -/
def peerCall (connection : TargetConnection) : CallState :=
  match connection.peer with
  | none => .failed .connLost
  | some peer => .waiting peer

/-- The subscriber's first re-attach call. A handle that was detached since the
snapshot was taken is asked for its request all the same. -/
def callFor (connection : TargetConnection) (handle : HandleId) : ReattachCall where
  handle := handle
  base := (connection.handles.get handle).elim { sessionId := "", mode := .read }
    DaemonAgentHandle.reattachRequest
  fallback := false
  state := connection.peerCall

/-- The members, now, of a set of the outer snapshot. -/
def snapshotOf (connection : TargetConnection) (entry : SessionId × Nat) : List HandleId :=
  match connection.subscribers.get entry.1 with
  | none => []
  | some set => if set.identity = entry.2 then set.members.elements else []

/-- Go on to the next subscriber, entering the sets of the outer snapshot in turn. -/
def nextCall (connection : TargetConnection) :
    List (SessionId × Nat) → List HandleId → ReattachLoop
  | outer, handle :: rest => ⟨outer, rest, some (connection.callFor handle)⟩
  | [], [] => ⟨[], [], none⟩
  | entry :: outer, [] => connection.nextCall outer (connection.snapshotOf entry)

/-- `reattachAll` up to its first `await`. -/
def reattachAll (connection : TargetConnection) : ReattachLoop :=
  connection.nextCall
    (connection.subscribers.entries.map fun entry => (entry.1, entry.2.identity)) []

/-- `runOpen` after the handshake: install the peer and start re-attaching. A peer
whose stream has ended already has its callback queued at once. -/
def install (connection : TargetConnection) (gen : Nat) (peer : PeerId)
    (clientId : ClientId) (capabilities : List String) : TargetConnection :=
  if connection.disposed ∨ gen ≠ connection.gen then
    -- Superseded: kill the process and throw.
    { connection with attempt := some (.settled false) }
  else
    let live := { connection with
      peer := some peer
      clientId := clientId
      capabilities := capabilities
      watched := if peer ∈ connection.ended then connection.watched
        else connection.watched.set peer gen
      closing := if peer ∈ connection.ended then connection.closing ++ [gen]
        else connection.closing }
    { live with attempt := some (.reattaching live.reattachAll) }

/-- The loop goes on with the outcome of its call. -/
def resumeReattach (connection : TargetConnection) (loop : ReattachLoop)
    (call : ReattachCall) : TargetConnection :=
  let goOn (next : TargetConnection) : TargetConnection :=
    { next with attempt := some (.reattaching (next.nextCall loop.outer loop.inner)) }
  match call.state with
  | .waiting _ => connection
  | .answered _ =>
      goOn (if call.fallback then
        connection.update call.handle fun handle =>
          handle.handleControl connection.clientId none .disconnected
      else connection)
  | .failed failure =>
      -- Somebody else took the lease meanwhile: degrade to a read attach.
      if call.fallback = false ∧ call.base.mode = .write ∧ failure.code = some .sessionLocked then
        { connection with
          attempt := some (.reattaching { loop with
            current := some { call with fallback := true, state := connection.peerCall } }) }
      else goOn (connection.onReattachFailed call.handle)

/-! ## The machine -/

/-- The end of a peer's stream: calls in flight on it are rejected and the callback
on `closed` is queued. -/
def drop (connection : TargetConnection) (peer : PeerId) : TargetConnection :=
  { connection with
    ended := connection.ended.add peer
    watched := connection.watched.delete peer
    closing := match connection.watched.get peer with
      | none => connection.closing
      | some gen => connection.closing ++ [gen]
    attempt := match connection.attempt with
      | some (.reattaching ⟨outer, inner, some ⟨handle, base, fallback, .waiting callee⟩⟩) =>
          if callee = peer then
            some (.reattaching ⟨outer, inner,
              some ⟨handle, base, fallback, .failed .connLost⟩⟩)
          else connection.attempt
      | attempt => attempt }

def step (connection : TargetConnection) : ConnectionEvent → Option TargetConnection
  | .ensureConnected => some connection.ensureConnected
  | .timerFired => if connection.timer then some connection.timerFired else none
  | .close => some connection.close
  | .closeFinished =>
      if connection.disposed then some { connection with subscribers := .empty } else none
  | .execStarted =>
      match connection.attempt with
      | some (.opening gen) =>
          some { connection with
            attempt := some (.handshaking gen connection.nextPeer)
            nextPeer := connection.nextPeer + 1 }
      | _ => none
  | .openFailed =>
      match connection.attempt with
      | some (.opening _) | some (.handshaking _ _) =>
          some { connection with attempt := some (.settled false) }
      | _ => none
  | .handshakeAnswered clientId capabilities =>
      match connection.attempt with
      | some (.handshaking gen peer) =>
          if peer ∈ connection.ended then none
          else some { connection with
            attempt := some (.handshook gen peer clientId capabilities) }
      | _ => none
  | .installed =>
      match connection.attempt with
      | some (.handshook gen peer clientId capabilities) =>
          some (connection.install gen peer clientId capabilities)
      | _ => none
  | .reattachAnswered answer =>
      match connection.attempt with
      | some (.reattaching ⟨outer, inner, some ⟨handle, base, fallback, .waiting callee⟩⟩) =>
          if callee ∈ connection.ended then none
          else
            let state := match answer with
              | .ok result => CallState.answered result
              | .error refused => CallState.failed (.refused refused)
            some { connection with
              attempt := some (.reattaching ⟨outer, inner,
                some ⟨handle, base, fallback, state⟩⟩) }
      | _ => none
  | .reattachTimedOut =>
      match connection.attempt with
      | some (.reattaching ⟨outer, inner, some ⟨handle, base, fallback, .waiting _⟩⟩) =>
          some { connection with
            attempt := some (.reattaching ⟨outer, inner,
              some ⟨handle, base, fallback, .failed .timedOut⟩⟩) }
      | _ => none
  | .reattachResumed =>
      match connection.attempt with
      | some (.reattaching ⟨outer, inner, some call⟩) =>
          match call.state with
          | .waiting _ => none
          | _ => some (connection.resumeReattach ⟨outer, inner, some call⟩ call)
      | _ => none
  | .reattachThrew code =>
      match connection.attempt with
      | some (.reattaching ⟨outer, inner, some ⟨handle, base, fallback, .answered _⟩⟩) =>
          -- A `handleControl` that ran before makes no difference to a handle torn down.
          let call : ReattachCall := ⟨handle, base, fallback, .failed (.threw code)⟩
          some (connection.resumeReattach ⟨outer, inner, some call⟩ call)
      | _ => none
  | .reattachFinished =>
      match connection.attempt with
      | some (.reattaching ⟨_, _, none⟩) =>
          some { connection with state := .connected, attempt := some (.settled true) }
      | _ => none
  | .attemptSettled =>
      match connection.attempt with
      | some (.settled succeeded) => some (connection.attemptSettled succeeded)
      | _ => none
  | .dropped peer =>
      if peer < connection.nextPeer ∧ peer ∉ connection.ended then some (connection.drop peer)
      else none
  | .peerClosed =>
      match connection.closing with
      | [] => none
      | gen :: rest => some ({ connection with closing := rest }.onPeerClosed gen)
  | .subscribe sessionId mode lastSeq => some (connection.subscribe sessionId mode lastSeq)
  | .detach handle => some (connection.detach handle)
  | .sessionEvent sessionId event =>
      some (connection.dispatch sessionId fun handle => (handle.handleEvent event).1)
  | .controlChanged sessionId holder reason =>
      some (connection.dispatch sessionId fun handle =>
        handle.handleControl connection.clientId holder reason)

/-- What `call` does with a request: the peer it goes to, or none when it fails
fast because the channel is down. -/
def callee (connection : TargetConnection) : Option PeerId :=
  if connection.state = .connected then connection.peer else none

end TargetConnection

end DshRemote.Client
