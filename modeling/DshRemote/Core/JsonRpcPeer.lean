import DshRemote.Core.Framing
import DshRemote.Core.JsonRpc
import DshRemote.Foundation.JsonIntegers
import DshRemote.Foundation.OrderedMap
import DshRemote.Protocol

/-! # A JSON-RPC peer

Calls are numbered, and the number of a call is its id. A call is pending until a response, its
signal, its timer or the end of the stream settles it. The values of a chunk are handled one after
another; what a handler does meanwhile are events of their own. -/

namespace DshRemote

open Json

structure RpcError (Number : Type) where
  code : RemoteErrorCode
  message : Text
  data : Option (Json Number) := none

/-- How the promise of a call is settled. -/
inductive Settlement (Number : Type)
  | resolved (value : Option (Json Number))
  | rejected (error : RpcError Number)

/-- What a handler throws. -/
inductive Thrown (Number : Type)
  | remote (error : RpcError Number)
  /-- Anything else, with its message, unless `String` cannot make one of it. -/
  | other (message : Option Text)

/-- How a handler finishes. -/
inductive HandlerOutcome (Number : Type)
  | returned (value : Option (Json Number))
  | threw (thrown : Thrown Number)

inductive PeerMessage (Number : Type)
  | request (id : Json Number) (method : Text) (params : Option (Json Number))
  | notification (method : Text) (params : Option (Json Number))
  | result (id : Json Number) (value : Json Number)
  | error (id : Json Number) (code : Int) (message : Text) (data : Option (Json Number))

/-- What the callbacks `onAbort` and `onTimeout` of a call know. -/
structure Callback where
  call : Nat
  method : Text
deriving DecidableEq

/-- A request whose handler has not finished. -/
structure RunningRequest (Number : Type) where
  request : Nat
  id : Json Number

structure JsonRpcPeer (Number : Type) where
  requestTimeoutMs : Number
  decoder : LineDecoder := LineDecoder.create Framing.defaultMaxLineBytes true
  nextId : Nat := 1
  pending : OrderedMap Number Nat := .empty
  handlers : List Text := []
  notifications : List Text := []
  /-- The callbacks on signals, in the order of their registration. -/
  listeners : List (Nat × Callback) := []
  timers : List Callback := []
  /-- The signals that have been aborted. -/
  aborted : List Nat := []
  /-- The values of the current chunk that are still to be handled. -/
  queue : List (Json Number) := []
  /-- The number of requests so far. -/
  requests : Nat := 0
  running : List (RunningRequest Number) := []
  closed : Bool := false

/-- What an event makes visible. -/
structure PeerOutput (Number : Type) where
  sent : List (PeerMessage Number) := []
  settled : List (Nat × Settlement Number) := []
  /-- The number of a new call. -/
  called : Option Nat := none
  /-- The values that a chunk brings. -/
  received : List (Json Number) := []
  handled : Option (Json Number) := none
  /-- The number of the request that was handled. -/
  requested : Option Nat := none
  /-- The handler that was called. -/
  invoked : Option (Text × Option (Json Number)) := none
  /-- The stream has ended or failed, and pending calls get this error. -/
  teardown : Option (RpcError Number) := none

inductive PeerEvent (Number : Type)
  | call (method : Text) (params : Option (Json Number)) (signal : Option Nat)
  | notify (method : Text) (params : Option (Json Number))
  | on (method : Text)
  | onNotification (method : Text)
  | abort (signal : Nat)
  | timeout (call : Nat)
  | chunk (octets : List Octet)
  /-- The next value of the chunk is handled. A handler may throw at once. -/
  | handle (atOnce : Option (Thrown Number))
  | finished (request : Nat) (outcome : HandlerOutcome Number)
  /-- The stream ends, or it fails, perhaps with a `RemoteError`. -/
  | streamEnded (failure : Option (RpcError Number))

variable {Number : Type} (format : CountingFormat Number)

namespace JsonRpc

def parseError : Int := -32700

def cancelMethod : Text := asciiText "$/cancel"

section Values

mutual

/-- `String(value)`, which throws for an object that has a member `toString`. -/
def textOf (format : NumberFormat Number) : Json Number → Option Text
  | .null => some (asciiText "null")
  | .bool true => some (asciiText "true")
  | .bool false => some (asciiText "false")
  | .number value => some (format.print value)
  | .infinite negative => some (asciiText (if negative then "-Infinity" else "Infinity"))
  | .string value => some value
  | .array items => (itemTexts format items).map join
  | .object members =>
      if asciiText "toString" ∈ members.map Prod.fst then none
      else some (asciiText "[object Object]")

/-- The items as `Array.prototype.join` takes them. -/
def itemTexts (format : NumberFormat Number) : List (Json Number) → Option (List Text)
  | [] => some []
  | .null :: rest => (itemTexts format rest).map fun texts => [] :: texts
  | item :: rest =>
      (textOf format item).bind fun text =>
        (itemTexts format rest).map fun texts => text :: texts

end

end Values

/-- `isRemoteErrorCode`, with the code. -/
def remoteErrorCode : Option (Json Number) → Option RemoteErrorCode
  | some (.string text) =>
      [.connLost, .authFailed, .timeout, .notBootstrapped, .sessionLocked, .protocolError,
        .aborted, .capabilityUnsupported].find? fun code : RemoteErrorCode =>
          asciiText code.text = text
  | _ => none

/-- The error of a response, unless it is `undefined` or `null`. -/
def errorOf (message : Json Number) : Option (Json Number) :=
  match property message "error" with
  | some .null => none
  | error => error

/-- `none` when it throws. -/
def responseErrorToRemote (error : Json Number) : Option (RpcError Number) :=
  let message := match property error "message" with
    | some (.string message) => message
    | _ => asciiText "remote error"
  let data := property error "data"
  match remoteErrorCode (data.bind fun data => property data "remoteCode") with
  | some code => some ⟨code, message, data.bind fun data => property data "remoteData"⟩
  | none =>
      let code := match property error "code" with
        | some code => textOf format.toNumberFormat code
        | none => some (asciiText "undefined")
      code.map fun code =>
        ⟨.protocolError, asciiText "RPC error " ++ code ++ asciiText ": " ++ message, data⟩

end JsonRpc

namespace PeerMessage

/-- The value that is sent as a line. -/
def object : PeerMessage Number → Json Number
  | .request id method params =>
      .object ([(asciiText "jsonrpc", .string (asciiText "2.0")), (asciiText "id", id),
        (asciiText "method", .string method)] ++
          params.toList.map fun params => (asciiText "params", params))
  | .notification method params =>
      .object ([(asciiText "jsonrpc", .string (asciiText "2.0")),
        (asciiText "method", .string method)] ++
          params.toList.map fun params => (asciiText "params", params))
  | .result id value =>
      .object [(asciiText "jsonrpc", .string (asciiText "2.0")), (asciiText "id", id),
        (asciiText "result", value)]
  | .error id code message data =>
      .object [(asciiText "jsonrpc", .string (asciiText "2.0")), (asciiText "id", id),
        (asciiText "error", .object ([(asciiText "code", .number (format.read (printInt code))),
          (asciiText "message", .string message)] ++
            data.toList.map fun data => (asciiText "data", data)))]

/-- The notification that a call is not waited for any more. -/
def cancel (call : Nat) : PeerMessage Number :=
  .notification JsonRpc.cancelMethod
    (some (.object [(asciiText "id", .number (format.count call))]))

end PeerMessage

namespace PeerOutput

def append (first second : PeerOutput Number) : PeerOutput Number :=
  { second with
    sent := first.sent ++ second.sent
    settled := first.settled ++ second.settled }

end PeerOutput

variable [DecidableEq Number] (parseDetail : Text → Text)

namespace JsonRpcPeer

def abortedError (method : Text) : RpcError Number :=
  ⟨.aborted, asciiText "call \"" ++ method ++ asciiText "\" aborted", none⟩

def timeoutError (self : JsonRpcPeer Number) (method : Text) : RpcError Number :=
  ⟨.timeout,
    asciiText "call \"" ++ method ++ asciiText "\" timed out after " ++
      format.print self.requestTimeoutMs ++ asciiText "ms",
    none⟩

def closedError : RpcError Number := ⟨.connLost, asciiText "peer closed the byte stream", none⟩

/-- `requestTimeoutMs > 0`. -/
def TimesOut (self : JsonRpcPeer Number) : Prop :=
  format.print self.requestTimeoutMs ≠ asciiText "0"

instance (self : JsonRpcPeer Number) : Decidable (self.TimesOut format) := instDecidableNot

def call (self : JsonRpcPeer Number) (method : Text) (params : Option (Json Number))
    (signal : Option Nat) : JsonRpcPeer Number × PeerOutput Number :=
  let id := self.nextId
  let counted := { self with nextId := id + 1 }
  if signal.any fun signal => decide (signal ∈ self.aborted) then
    (counted, { called := some id, settled := [(id, .rejected (abortedError method))] })
  else
    ({ counted with
        pending := self.pending.set (format.count id) id
        listeners := self.listeners ++ signal.toList.map fun signal => (signal, ⟨id, method⟩)
        timers := if self.TimesOut format then self.timers ++ [⟨id, method⟩] else self.timers },
      { called := some id, sent := [.request (.number (format.count id)) method params] })

def cleanup (self : JsonRpcPeer Number) (call : Nat) : JsonRpcPeer Number :=
  { self with
    listeners := self.listeners.filter fun listener => decide (listener.2.call ≠ call)
    timers := self.timers.filter fun timer => decide (timer.call ≠ call) }

/-- `onAbort` and `onTimeout`. -/
def withdraw (self : JsonRpcPeer Number) (callback : Callback) (error : RpcError Number) :
    JsonRpcPeer Number × PeerOutput Number :=
  if !self.pending.has (format.count callback.call) then (self, {})
  else
    let deleted := { self with pending := self.pending.delete (format.count callback.call) }
    (deleted.cleanup callback.call,
      { sent := [.cancel format callback.call]
        settled := [(callback.call, .rejected error)] })

def withdrawAll (self : JsonRpcPeer Number) :
    List Callback → JsonRpcPeer Number × PeerOutput Number
  | [] => (self, {})
  | callback :: rest =>
      let first := self.withdraw format callback (abortedError callback.method)
      let later := first.1.withdrawAll rest
      (later.1, first.2.append later.2)

/-- A signal is aborted, and its listeners are called. -/
def abort (self : JsonRpcPeer Number) (signal : Nat) : JsonRpcPeer Number × PeerOutput Number :=
  { self with
    aborted := signal :: self.aborted
    listeners := self.listeners.filter fun listener => decide (listener.1 ≠ signal) }.withdrawAll
      format ((self.listeners.filter fun listener : Nat × Callback =>
        decide (listener.1 = signal)).map Prod.snd)

def timeout (self : JsonRpcPeer Number) (call : Nat) : JsonRpcPeer Number × PeerOutput Number :=
  match self.timers.find? fun timer => timer.call = call with
  | none => (self, {})
  | some timer =>
      { self with timers := self.timers.filter fun other => decide (other.call ≠ call) }.withdraw
        format timer (self.timeoutError format timer.method)

/-- The rest of `#pump`. -/
def teardown (self : JsonRpcPeer Number) (failure : Option (RpcError Number)) :
    JsonRpcPeer Number × PeerOutput Number :=
  let error := failure.getD closedError
  let cleaned := self.pending.values.foldl cleanup self
  ({ cleaned with pending := .empty, queue := [], closed := true },
    { settled := self.pending.values.map fun call => (call, .rejected error)
      teardown := some error })

/-- A line that is no JSON. -/
def invalidLine (raw : Text) : PeerMessage Number :=
  .error .null JsonRpc.parseError (asciiText "parse error: " ++ parseDetail raw) none

/-- A failure of the decoder, when it is a `RemoteError`. -/
def remoteFailure : Framing.Failure → Option (RpcError Number)
  | .protocol message => some ⟨.protocolError, asciiText message, none⟩
  | .invalidJson _ => none

/-- A chunk comes in. The answers to invalid lines precede the handling of the values. -/
def chunk (self : JsonRpcPeer Number) (octets : List Octet) :
    JsonRpcPeer Number × PeerOutput Number :=
  let pushed := { self.decoder with reported := [] }.push format.toNumberFormat octets
  let answers := pushed.1.reported.map (invalidLine parseDetail)
  match pushed.2 with
  | .ok values =>
      ({ self with decoder := pushed.1, queue := values }, { sent := answers, received := values })
  | .error failure =>
      let ended := { self with decoder := pushed.1 }.teardown (remoteFailure failure)
      (ended.1, { ended.2 with sent := answers })

/-- The answer to a request that its handler does not answer with a result. None is sent when the
message cannot be made. -/
def thrownAnswer (id : Json Number) : Thrown Number → Option (PeerMessage Number)
  | .remote error =>
      some (.error id JsonRpc.internalError error.message
        (some (.object ([(asciiText "remoteCode", .string (asciiText error.code.text))] ++
          error.data.toList.map fun data => (asciiText "remoteData", data)))))
  | .other message => message.map fun message => .error id JsonRpc.internalError message none

def outcomeAnswer (id : Json Number) : HandlerOutcome Number → Option (PeerMessage Number)
  | .returned value => some (.result id (value.getD .null))
  | .threw thrown => thrownAnswer id thrown

def handleRequest (self : JsonRpcPeer Number) (id : Json Number) (method : Text)
    (params : Option (Json Number)) (atOnce : Option (Thrown Number)) :
    JsonRpcPeer Number × PeerOutput Number :=
  let counted := { self with requests := self.requests + 1 }
  if method ∉ self.handlers then
    (counted,
      { sent := [.error id JsonRpc.methodNotFound (asciiText "method not found: " ++ method) none]
        requested := some self.requests })
  else
    match atOnce with
    | some thrown =>
        (counted,
          { sent := (thrownAnswer id thrown).toList
            requested := some self.requests
            invoked := some (method, params) })
    | none =>
        ({ counted with running := self.running ++ [⟨self.requests, id⟩] },
          { requested := some self.requests, invoked := some (method, params) })

/-- The rest of `#handleRequest`. -/
def finished (self : JsonRpcPeer Number) (request : Nat) (outcome : HandlerOutcome Number) :
    JsonRpcPeer Number × PeerOutput Number :=
  match self.running.find? fun other => other.request = request with
  | none => (self, {})
  | some found =>
      ({ self with running := self.running.filter fun other => decide (other.request ≠ request) },
        { sent := (outcomeAnswer found.id outcome).toList })

def handleNotification (self : JsonRpcPeer Number) (method : Text)
    (params : Option (Json Number)) : JsonRpcPeer Number × PeerOutput Number :=
  (self, { invoked := if method ∈ self.notifications then some (method, params) else none })

/-- When the error of a response cannot be made, `#pump` fails. -/
def handleResponse (self : JsonRpcPeer Number) (message : Json Number) :
    JsonRpcPeer Number × PeerOutput Number :=
  match JsonRpc.property message "id" with
  | some (.number id) =>
      match self.pending.get id with
      | none => (self, {})
      | some call =>
          let deleted := { self with pending := self.pending.delete id }
          match JsonRpc.errorOf message with
          | none =>
              (deleted.cleanup call,
                { settled := [(call, .resolved (JsonRpc.property message "result"))] })
          | some error =>
              match JsonRpc.responseErrorToRemote format error with
              | some error =>
                  (deleted.cleanup call, { settled := [(call, .rejected error)] })
              | none => deleted.teardown none
  | _ => (self, {})

/-- `#handleMessage`. -/
def handleMessage (self : JsonRpcPeer Number) (message : Json Number)
    (atOnce : Option (Thrown Number)) : JsonRpcPeer Number × PeerOutput Number :=
  match JsonRpc.handleMessage format.toNumberFormat message with
  | .frame => (self, {})
  | .ignored => (self, {})
  | .invalid id text =>
      (self, { sent := [.error id JsonRpc.invalidRequest (asciiText text) none] })
  | .request id method params => self.handleRequest id method params atOnce
  | .notification method params => self.handleNotification method params
  | .response message => self.handleResponse format message

/-- The next value of the chunk is handled. -/
def handle (self : JsonRpcPeer Number) (atOnce : Option (Thrown Number)) :
    JsonRpcPeer Number × PeerOutput Number :=
  match self.queue with
  | [] => (self, {})
  | message :: rest =>
      let result := { self with queue := rest }.handleMessage format message atOnce
      (result.1, { result.2 with handled := some message })

def perform (self : JsonRpcPeer Number) :
    PeerEvent Number → JsonRpcPeer Number × PeerOutput Number
  | .call method params signal => self.call format method params signal
  | .notify method params => (self, { sent := [.notification method params] })
  | .on method => ({ self with handlers := self.handlers ++ [method] }, {})
  | .onNotification method => ({ self with notifications := self.notifications ++ [method] }, {})
  | .abort signal => self.abort format signal
  | .timeout call => self.timeout format call
  | .chunk octets => self.chunk format parseDetail octets
  | .handle atOnce => self.handle format atOnce
  | .finished request outcome => self.finished request outcome
  | .streamEnded failure => self.teardown failure

/-- The next chunk is read when the values of the last one have been handled. -/
def Possible (self : JsonRpcPeer Number) : PeerEvent Number → Prop
  | .call _ _ _ => True
  | .notify _ _ => True
  | .on _ => True
  | .onNotification _ => True
  | .abort signal => signal ∉ self.aborted
  | .timeout call => call ∈ self.timers.map Callback.call
  | .chunk _ => self.closed = false ∧ self.queue.isEmpty = true
  | .handle _ => self.queue.isEmpty = false
  | .finished request _ => request ∈ self.running.map RunningRequest.request
  | .streamEnded _ => self.closed = false ∧ self.queue.isEmpty = true

instance (self : JsonRpcPeer Number) :
    (event : PeerEvent Number) → Decidable (self.Possible event)
  | .call _ _ _ => instDecidableTrue
  | .notify _ _ => instDecidableTrue
  | .on _ => instDecidableTrue
  | .onNotification _ => instDecidableTrue
  | .abort _ => instDecidableNot
  | .timeout _ => List.instDecidableMemOfLawfulBEq _ _
  | .chunk _ => instDecidableAnd
  | .handle _ => instDecidableEqBool _ _
  | .finished _ _ => List.instDecidableMemOfLawfulBEq _ _
  | .streamEnded _ => instDecidableAnd

end JsonRpcPeer

/-- A peer with what has happened at it. -/
structure PeerRun (Number : Type) where
  peer : JsonRpcPeer Number
  log : List (PeerEvent Number × PeerOutput Number) := []

namespace PeerRun

/-- A new peer. -/
def start (requestTimeoutMs : Number) : PeerRun Number where
  peer := { requestTimeoutMs := requestTimeoutMs }

def perform (run : PeerRun Number) (event : PeerEvent Number) : PeerRun Number where
  peer := (run.peer.perform format parseDetail event).1
  log := run.log ++ [(event, (run.peer.perform format parseDetail event).2)]

def step (run : PeerRun Number) (event : PeerEvent Number) : Option (PeerRun Number) :=
  if run.peer.Possible event then some (run.perform format parseDetail event) else none

end PeerRun

end DshRemote
