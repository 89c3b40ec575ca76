import DshRemote.Backend.Approval
import DshRemote.Backend.BrokerMachine
import DshRemote.Backend.Question
import DshRemote.Backend.Requests

/-! # The backend as a state machine

The broker, both bridges and the prompt handlers that are suspended, under every
interleaving of client requests, host requests and resumed continuations. What
the random generators return is chosen by the event; ids never repeat. -/

namespace DshRemote.Backend

structure Daemon where
  broker : SessionBroker
  approval : ApprovalBridge := {}
  question : QuestionBridge := {}
  /-- Prompt handlers that await an image save. -/
  prompts : OrderedMap Nat PromptTask := .empty
  nextPrompt : Nat := 0
  /-- Client ids handed out so far. -/
  minted : OrderedSet ClientId := .empty
  /-- Request and question ids handed out so far. -/
  issued : OrderedSet String := .empty

/-- A request as the method table of a connection receives it, with what the
host or a random generator answers while it is served. -/
inductive Request
  | attach (params : SessionAttachParams)
  | detach (sessionId : SessionId)
  | controlRelease (sessionId : SessionId)
  | prompt (sessionId : SessionId) (text : String)
      (content : Option (List PromptContentBlock)) (messageId : String)
  | cancel (sessionId : SessionId)
  | fork (sessionId : SessionId) (boundary atSeq : Option Int)
      (child : Except String SessionId)
  | compact (sessionId : SessionId)
  | approvalAnswer (params : ApprovalAnswerParams)
  | questionAnswer (params : QuestionAnswerParams)

inductive DaemonEvent
  /-- A handshake succeeded under a freshly minted client id. -/
  | connect (clientId : ClientId)
  /-- The byte stream of a connection has closed. -/
  | closed (environment : Environment) (clientId : ClientId)
  | request (environment : AttachEnvironment) (clientId : ClientId) (request : Request)
  | imageSaved (prompt : Nat) (attachment : Unknown) (messageId : String)
  | imageFailed (prompt : Nat)
  | approvalRequested (environment : Environment) (requestId : String)
      (request : HostApprovalRequest)
  | approvalResumed (environment : Environment)
  | asked (environment : Environment) (questionId : String) (request : HostQuestionRequest)
  | aborted (environment : Environment) (questionId : String)
  | host (environment : Environment) (event : HostEvent)

inductive Reply
  | null
  | attached (result : SessionAttachResult)
  | prompted (messageId : String)
  | forked (sessionId : SessionId)
  | compacted
deriving DecidableEq, Repr

/-- What an event makes visible: notifications, effects on the host, and the
response when the handler of a request has finished. -/
structure DaemonOutput where
  sent : List Sent := []
  effects : List HostEffect := []
  response : Option (Except Thrown Reply) := none

namespace Daemon

def init (sessions : OrderedMap SessionId HostSession)
    (agents : OrderedMap SessionId AgentStatus) (extras : SessionBrokerExtras)
    (failClosed : Bool) : Daemon where
  broker := SessionBroker.init sessions agents extras
  approval := { failClosed := failClosed }

/-- `#pendingInteractions`: undefined when neither bridge exists. -/
def pendingInteractions (approval : Option ApprovalBridge) (question : Option QuestionBridge)
    (sessionId : SessionId) : Option (List PendingInteraction) :=
  if approval.isNone ∧ question.isNone then none
  else some
    ((approval.elim [] fun bridge =>
        (bridge.pendingForSession sessionId).map PendingInteraction.approval) ++
      question.elim [] fun bridge =>
        (bridge.pendingForSession sessionId).map PendingInteraction.question)

/-- The handler of `session.attach`. -/
def attach (environment : AttachEnvironment) (daemon : Daemon) (clientId : ClientId)
    (params : SessionAttachParams) : AttachOutcome :=
  daemon.broker.attach environment clientId params
    (pendingInteractions (some daemon.approval) (some daemon.question) params.sessionId)

def refuse (daemon : Daemon) (error : RemoteError) : Daemon × DaemonOutput :=
  (daemon, { response := some (.error (.remote error)) })

/-- Where a prompt handler goes from a stop of its loop: it hands the message to
the agent, suspends again, or throws. -/
def promptStep (daemon : Daemon) (clientId : ClientId) (sessionId : SessionId)
    (messageId : String) : Assembled → Daemon × DaemonOutput
  | .finished blocks =>
      (daemon,
        { effects := [SessionBroker.followup clientId sessionId messageId blocks]
          response := some (.ok (.prompted messageId)) })
  | .saving task =>
      ({ daemon with
          prompts := daemon.prompts.set daemon.nextPrompt task
          nextPrompt := daemon.nextPrompt + 1 }, {})
  | .unsupported => daemon.refuse SessionBroker.imageBlocksUnsupported

def serve (environment : AttachEnvironment) (daemon : Daemon) (clientId : ClientId) :
    Request → Daemon × DaemonOutput
  | .attach params =>
      let outcome := daemon.attach environment clientId params
      ({ daemon with broker := outcome.broker },
        { sent := outcome.sent
          response := some (outcome.result.map Reply.attached) })
  | .detach sessionId =>
      let detached := daemon.broker.detach environment.toEnvironment clientId sessionId
      ({ daemon with broker := detached.1 },
        { sent := detached.2, response := some (.ok .null) })
  | .controlRelease sessionId =>
      let released :=
        daemon.broker.controlRelease environment.toEnvironment clientId sessionId
      ({ daemon with broker := released.1 },
        { sent := released.2, response := some (.ok .null) })
  | .prompt sessionId text content messageId =>
      match daemon.broker.prompt clientId sessionId text content with
      | .error refused => daemon.refuse refused
      | .ok assembled => daemon.promptStep clientId sessionId messageId assembled
  | .cancel sessionId =>
      match daemon.broker.cancel clientId sessionId with
      | .error refused => daemon.refuse refused
      | .ok effect => (daemon, { effects := [effect], response := some (.ok .null) })
  | .fork sessionId boundary atSeq child =>
      match daemon.broker.fork clientId sessionId boundary atSeq with
      | .error refused => daemon.refuse refused
      | .ok effect =>
          (daemon,
            { effects := [effect]
              response := some (match child with
                | .ok child => .ok (.forked child)
                | .error message => .error (.remote (SessionBroker.forkFailed message))) })
  | .compact sessionId =>
      match daemon.broker.compact clientId sessionId with
      | .error refused => daemon.refuse refused
      | .ok effect => (daemon, { effects := [effect], response := some (.ok .compacted) })
  | .approvalAnswer params =>
      match daemon.approval.answer environment.toEnvironment daemon.broker clientId
          params with
      | .error refused => daemon.refuse refused
      | .ok answered =>
          ({ daemon with approval := answered.1 },
            { sent := answered.2, response := some (.ok .null) })
  | .questionAnswer params =>
      match daemon.question.answer environment.toEnvironment daemon.broker clientId
          params with
      | .error refused => daemon.refuse refused
      | .ok answered =>
          ({ daemon with question := answered.1 },
            { sent := answered.2, response := some (.ok .null) })

/-- The close handler of a connection: the broker first, then the bridges. -/
def close (environment : Environment) (daemon : Daemon) (clientId : ClientId) :
    Daemon × DaemonOutput :=
  let disconnected := daemon.broker.disconnect environment clientId
  ({ daemon with
      broker := disconnected.1
      approval := daemon.approval.disconnect clientId
      question := daemon.question.disconnect clientId },
    { sent := disconnected.2 })

/-- A client talks only while it is connected, a continuation runs only when it
is due, and a generated id is new. -/
def Possible (daemon : Daemon) : DaemonEvent → Prop
  | .connect clientId => clientId ∉ daemon.minted
  | .closed _ clientId => clientId ∈ daemon.broker.connections
  | .request _ clientId _ => clientId ∈ daemon.broker.connections
  | .imageSaved prompt _ _ => (daemon.prompts.get prompt).isSome
  | .imageFailed prompt => (daemon.prompts.get prompt).isSome
  | .approvalRequested _ requestId _ => requestId ∉ daemon.issued
  | .approvalResumed _ => daemon.approval.resolved ≠ []
  | .asked _ questionId _ => questionId ∉ daemon.issued
  | .aborted _ questionId => questionId ∈ daemon.question.listening
  | .host _ _ => True

instance (daemon : Daemon) : (event : DaemonEvent) → Decidable (daemon.Possible event)
  | .connect clientId => inferInstanceAs (Decidable (clientId ∉ daemon.minted))
  | .closed _ clientId => inferInstanceAs (Decidable (clientId ∈ daemon.broker.connections))
  | .request _ clientId _ =>
      inferInstanceAs (Decidable (clientId ∈ daemon.broker.connections))
  | .imageSaved prompt _ _ =>
      inferInstanceAs (Decidable ((daemon.prompts.get prompt).isSome = true))
  | .imageFailed prompt =>
      inferInstanceAs (Decidable ((daemon.prompts.get prompt).isSome = true))
  | .approvalRequested _ requestId _ => inferInstanceAs (Decidable (requestId ∉ daemon.issued))
  | .approvalResumed _ => inferInstanceAs (Decidable (daemon.approval.resolved ≠ []))
  | .asked _ questionId _ => inferInstanceAs (Decidable (questionId ∉ daemon.issued))
  | .aborted _ questionId =>
      inferInstanceAs (Decidable (questionId ∈ daemon.question.listening))
  | .host _ _ => isTrue trivial

def perform (daemon : Daemon) : DaemonEvent → Daemon × DaemonOutput
  | .connect clientId =>
      ({ daemon with
          broker := daemon.broker.connect clientId
          minted := daemon.minted.add clientId }, {})
  | .closed environment clientId => daemon.close environment clientId
  | .request environment clientId request => daemon.serve environment clientId request
  | .imageSaved prompt attachment messageId =>
      match daemon.prompts.get prompt with
      | none => (daemon, {})
      | some task =>
          let resumed := { daemon with prompts := daemon.prompts.delete prompt }
          resumed.promptStep task.clientId task.sessionId messageId
            (daemon.broker.imageSaved task attachment)
  | .imageFailed prompt =>
      ({ daemon with prompts := daemon.prompts.delete prompt },
        { response := some (.error .foreign) })
  | .approvalRequested environment requestId request =>
      let handled := daemon.approval.handle environment daemon.broker requestId request
      ({ daemon with
          broker := handled.2.1
          approval := handled.2.2.1
          issued := daemon.issued.add requestId },
        { sent := handled.2.2.2 })
  | .approvalResumed environment =>
      match daemon.approval.resume environment daemon.broker with
      | none => (daemon, {})
      | some resumed =>
          ({ daemon with broker := resumed.2.1, approval := resumed.2.2.1 },
            { sent := resumed.2.2.2 })
  | .asked environment questionId request =>
      match daemon.question.ask environment daemon.broker questionId request with
      | .error _ => ({ daemon with issued := daemon.issued.add questionId }, {})
      | .ok asked =>
          ({ daemon with
              question := asked.1
              issued := daemon.issued.add questionId },
            { sent := asked.2 })
  | .aborted environment questionId =>
      let aborted := daemon.question.abort environment daemon.broker questionId
      ({ daemon with question := aborted.1 }, { sent := aborted.2 })
  | .host environment event =>
      let next := daemon.broker.hostEvent environment event
      ({ daemon with broker := next.1 }, { sent := next.2 })

def step (daemon : Daemon) (event : DaemonEvent) : Option Daemon :=
  if daemon.Possible event then some (daemon.perform event).1 else none

theorem step_eq_some {daemon next : Daemon} {event : DaemonEvent}
    (stepped : daemon.step event = some next) :
    daemon.Possible event ∧ next = (daemon.perform event).1 := by
  simp only [step] at stepped
  split at stepped
  · next possible =>
      cases stepped
      exact ⟨possible, rfl⟩
  · cases stepped

end Daemon

end DshRemote.Backend
