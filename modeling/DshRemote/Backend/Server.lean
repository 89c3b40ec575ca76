import DshRemote.Core.Auth
import DshRemote.Core.JsonRpc
import DshRemote.Foundation.OrderedMap
import DshRemote.Protocol

/-! # One connection of the backend

The method table of a connection and the handshake that fills it. Messages are handled in
the order they come in; a proof that fails keeps its handler waiting, and meanwhile further
messages are handled. Until a proof is accepted only the two methods of the handshake are
in the table. -/

namespace DshRemote.Backend

open Json

/-- The methods that are registered for a client. -/
inductive ServedMethod
  | sessionList
  | sessionCreate
  | sessionAttach
  | sessionDetach
  | sessionPrompt
  | sessionCancel
  | sessionFork
  | sessionHistory
  | sessionCompact
  | sessionControlRelease
  | approvalAnswer
  | questionAnswer
  | catalogList
  | monitorSubscribe
  | monitorUnsubscribe
  | transferOpen
deriving DecidableEq, Repr

def ServedMethod.name : ServedMethod → String
  | .sessionList => "session.list"
  | .sessionCreate => "session.create"
  | .sessionAttach => "session.attach"
  | .sessionDetach => "session.detach"
  | .sessionPrompt => "session.prompt"
  | .sessionCancel => "session.cancel"
  | .sessionFork => "session.fork"
  | .sessionHistory => "session.history"
  | .sessionCompact => "session.compact"
  | .sessionControlRelease => "session.control-release"
  | .approvalAnswer => "approval.answer"
  | .questionAnswer => "question.answer"
  | .catalogList => "catalog.list"
  | .monitorSubscribe => "monitor.subscribe"
  | .monitorUnsubscribe => "monitor.unsubscribe"
  | .transferOpen => "transfer.open"

/-- All of them, in the order of their registration. -/
def ServedMethod.all : List ServedMethod :=
  [.sessionList, .sessionCreate, .sessionAttach, .sessionDetach, .sessionPrompt, .sessionCancel,
    .sessionFork, .sessionHistory, .sessionCompact, .sessionControlRelease, .approvalAnswer,
    .questionAnswer, .catalogList, .monitorSubscribe, .monitorUnsubscribe, .transferOpen]

inductive Handler
  | hello
  | helloProof
  /-- A method with the client id that its handler was registered with. -/
  | served (method : ServedMethod) (clientId : ClientId)
deriving DecidableEq, Repr

structure ServeAuthOptions where
  maxFailures : Nat := 3
  baseDelayMs : Nat := 500
  maxDelayMs : Nat := 5000

structure BackendServerDeps (Number : Type) where
  format : NumberFormat Number
  hmac : List Octet → List Octet → List Octet
  token : Text
  capabilities : List String := []
  auth : ServeAuthOptions := {}
  /-- `onFatal` was given. -/
  hasOnFatal : Bool := true

structure PendingHello (Number : Type) where
  hello : Json Number
  serverNonce : ServerNonce

/-- A handler of `hello.proof` that waits before it refuses its request. -/
structure FailedProof (Number : Type) where
  id : Json Number
  delayMs : Nat

structure BackendServer (Number : Type) where
  handlers : OrderedMap Text Handler
  pendingHello : Option (PendingHello Number) := none
  failures : Nat := 0
  clientId : Option ClientId := none
  sleeping : List (FailedProof Number) := []
  /-- Calls of `onFatal` that are due. -/
  fatalTimers : Nat := 0
  closed : Bool := false

/-- What a request is answered with. -/
inductive ServerReply
  | challenge (message : ChallengeMessage)
  | authenticated (clientId : ClientId)
  | error (code : Int) (message : Text) (remoteCode : Option RemoteErrorCode)

/-- What an event makes visible. -/
structure ServerOutput (Number : Type) where
  /-- The handler that was called. -/
  dispatched : Option Handler := none
  replies : List (Json Number × ServerReply) := []
  diag : List String := []
  /-- `onFatal` was called. -/
  fatal : Bool := false

/-- A message comes with what the random generators return if it asks them. -/
inductive ServerEvent (Number : Type)
  | message (message : Json Number) (serverNonce : ServerNonce) (clientId : ClientId)
  /-- The delay of a failed proof is over. -/
  | woke (index : Nat)
  | fatal
  /-- The byte stream has ended. -/
  | closed

namespace BackendServer

variable {Number : Type}

def helloName : Text := asciiText "hello"

def helloProofName : Text := asciiText "hello.proof"

/-- The constructor. -/
def create : BackendServer Number where
  handlers := (OrderedMap.empty.set helloName .hello).set helloProofName .helloProof

def registerMethods (server : BackendServer Number) (clientId : ClientId) :
    BackendServer Number :=
  { server with
    handlers := ServedMethod.all.foldl
      (fun handlers method =>
        handlers.set (asciiText method.name) (.served method clientId)) server.handlers }

/-- A `RemoteError` that a handler throws, as its request is answered. -/
def thrown (code : RemoteErrorCode) (message : String) : ServerReply :=
  .error JsonRpc.internalError (asciiText message) (some code)

def isArray : Option (Json Number) → Bool
  | some (.array _) => true
  | _ => false

section Serving

variable (deps : BackendServerDeps Number)

/-- The parameters of a greeting, when they are well-formed. -/
def helloOf : Option (Json Number) → Option (Json Number)
  | some hello =>
      match JsonRpc.property hello "nonce" with
      | some (.string _) =>
          if JsonRpc.isOne deps.format (JsonRpc.property hello "protocolVersion") &&
              isArray (JsonRpc.property hello "capabilities") then some hello
          else none
      | _ => none
  | none => none

def serveHello (server : BackendServer Number) (params : Option (Json Number))
    (serverNonce : ServerNonce) : BackendServer Number × ServerReply :=
  match helloOf deps params with
  | none => (server, thrown .protocolError "malformed hello")
  | some hello =>
      let challenge := createChallenge serverNonce deps.capabilities
      ({ server with pendingHello := some ⟨hello, challenge.nonce⟩ }, .challenge challenge)

/-- The parameters of a proof stand the test against the pending greeting. -/
def verifies (pending : PendingHello Number) : Option (Json Number) → Bool
  | some proof =>
      match JsonRpc.property proof "proof", JsonRpc.property proof "clientNonce",
        JsonRpc.property proof "serverNonce", JsonRpc.property pending.hello "nonce" with
      | some (.string text), some (.string clientNonce), some (.string serverNonce),
          some (.string nonce) =>
          decide (clientNonce = nonce) && decide (serverNonce = pending.serverNonce.text) &&
            verifyProof deps.format deps.hmac deps.token clientNonce serverNonce pending.hello text
      | _, _, _, _ => false
  | none => false

/-- A proof is accepted, refused after a delay, or refused at once when there was no greeting. -/
def serveHelloProof (server : BackendServer Number) (id : Json Number)
    (params : Option (Json Number)) (clientId : ClientId) :
    BackendServer Number × Option ServerReply :=
  match server.pendingHello with
  | none => (server, some (thrown .protocolError "hello required before hello.proof"))
  | some pending =>
      if !verifies deps pending params then
        let failures := server.failures + 1
        let delayMs := min (failures * deps.auth.baseDelayMs) deps.auth.maxDelayMs
        ({ server with failures := failures, sleeping := server.sleeping ++ [⟨id, delayMs⟩] }, none)
      else
        let consumed := { server with pendingHello := none, clientId := some clientId }
        (consumed.registerMethods clientId, some (.authenticated clientId))

/-- The handler of a message, with the id and the parameters of its request. -/
def handlerOf (server : BackendServer Number) (message : Json Number) :
    Option (Handler × Json Number × Option (Json Number)) :=
  match JsonRpc.handleMessage deps.format message with
  | .request id method params => (server.handlers.get method).map fun handler => (handler, id, params)
  | _ => none

/-- `#handleMessage`, and `#handleRequest` up to the first wait of the handler. -/
def serveMessage (server : BackendServer Number) (message : Json Number)
    (serverNonce : ServerNonce) (clientId : ClientId) :
    BackendServer Number × ServerOutput Number :=
  match server.handlerOf deps message with
  | some (.hello, id, params) =>
      let served := server.serveHello deps params serverNonce
      (served.1, { dispatched := some .hello, replies := [(id, served.2)] })
  | some (.helloProof, id, params) =>
      let served := server.serveHelloProof deps id params clientId
      (served.1,
        { dispatched := some .helloProof, replies := served.2.toList.map fun reply => (id, reply) })
  | some (.served method owner, _, _) => (server, { dispatched := some (.served method owner) })
  | none =>
      match JsonRpc.handleMessage deps.format message with
      | .request id method _ =>
          (server, { replies := [(id,
            .error JsonRpc.methodNotFound (asciiText "method not found: " ++ method) none)] })
      | .invalid id text =>
          (server, { replies := [(id, .error JsonRpc.invalidRequest (asciiText text) none)] })
      | _ => (server, {})

/-- The rest of a handler of `hello.proof` after its delay. -/
def serveWoken (server : BackendServer Number) (index : Nat) :
    BackendServer Number × ServerOutput Number :=
  match server.sleeping[index]? with
  | none => (server, {})
  | some failed =>
      let awake := { server with sleeping := server.sleeping.eraseIdx index }
      let refusal := [(failed.id,
        thrown .authFailed "handshake proof verification failed")]
      if deps.auth.maxFailures ≤ server.failures then
        ({ awake with
            fatalTimers := if deps.hasOnFatal then awake.fatalTimers + 1 else awake.fatalTimers },
          { replies := refusal
            diag := ["authentication failure limit reached; closing connection"] })
      else (awake, { replies := refusal })

def perform (server : BackendServer Number) :
    ServerEvent Number → BackendServer Number × ServerOutput Number
  | .message message serverNonce clientId =>
      server.serveMessage deps message serverNonce clientId
  | .woke index => server.serveWoken deps index
  | .fatal => ({ server with fatalTimers := server.fatalTimers - 1 }, { fatal := true })
  | .closed => ({ server with closed := true }, {})

/-- Messages come in until the stream ends, timers fire when they are due, and a generated
client id is no empty string. -/
def Possible (server : BackendServer Number) : ServerEvent Number → Prop
  | .message _ _ clientId => server.closed = false ∧ clientId ≠ ""
  | .woke index => index < server.sleeping.length
  | .fatal => 0 < server.fatalTimers
  | .closed => server.closed = false

instance (server : BackendServer Number) :
    (event : ServerEvent Number) → Decidable (server.Possible event)
  | .message _ _ _ => instDecidableAnd
  | .woke _ => Nat.decLt _ _
  | .fatal => Nat.decLt _ _
  | .closed => instDecidableEqBool _ _

def step (server : BackendServer Number) (event : ServerEvent Number) :
    Option (BackendServer Number) :=
  if server.Possible event then some (server.perform deps event).1 else none

end Serving

end BackendServer

end DshRemote.Backend
