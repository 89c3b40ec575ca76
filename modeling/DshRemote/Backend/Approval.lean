import DshRemote.Backend.Interaction

/-! # ApprovalBridge

Routes the host's `approval/request` waterfall to attached frontends and returns
the first answer. A settled request resolves a promise; the handler that awaits
it resumes later, and only then clears the broker's waiting-approval flag. -/

namespace DshRemote.Backend

structure HostApprovalRequest where
  sessionId : Option SessionId := none
  kind : String
  summary : String
  detail : Option Unknown := none
deriving DecidableEq, Repr

structure HostApprovalDecision where
  decision : ApprovalDecision
  note : Option String := none
deriving DecidableEq, Repr

abbrev PendingRequest := Outstanding ApprovalRequestParams

/-- A handler whose promise is resolved and whose continuation has not run yet. -/
structure Resolved where
  requestId : String
  sessionId : Option SessionId
  decision : HostApprovalDecision
deriving DecidableEq, Repr

structure ApprovalBridge where
  /-- Deny when no frontend can answer. -/
  failClosed : Bool := true
  pending : PendingTable ApprovalRequestParams := .empty
  /-- Continuations run in the order in which their promises were resolved. -/
  resolved : List Resolved := []
deriving DecidableEq

/-- How `#handle` gets on before it suspends, if it does. -/
inductive Handled
  | returned (decision : HostApprovalDecision)
  | delegated
  | awaiting
deriving DecidableEq, Repr

namespace ApprovalBridge

def pendingForSession (bridge : ApprovalBridge) (sessionId : SessionId) :
    List ApprovalRequestParams := bridge.pending.pendingForSession sessionId

/-- `resolve(decision)`. -/
def resolve (bridge : ApprovalBridge) (requestId : String) (pending : PendingRequest)
    (decision : HostApprovalDecision) : ApprovalBridge :=
  { bridge with resolved := bridge.resolved ++ [⟨requestId, pending.sessionId, decision⟩] }

def settle (environment : Environment) (broker : SessionBroker) (bridge : ApprovalBridge)
    (requestId : String) (pending : PendingRequest) (decision : HostApprovalDecision)
    (winner : Option ClientId) : ApprovalBridge × List Sent :=
  if bridge.pending.has requestId then
    let closed := { bridge with pending := bridge.pending.delete requestId }
    (closed.resolve requestId pending decision,
      broker.notifyLosers environment pending.targets winner
        (.approvalClosed requestId decision.decision winner))
  else (bridge, [])

/-- `approval.answer` from a frontend. -/
def answer (environment : Environment) (broker : SessionBroker) (bridge : ApprovalBridge)
    (clientId : ClientId) (params : ApprovalAnswerParams) :
    Except RemoteError (ApprovalBridge × List Sent) :=
  match bridge.pending.answerable "approval" clientId params.requestId with
  | .error refused => .error refused
  | .ok pending =>
      .ok (bridge.settle environment broker params.requestId pending
        ⟨params.decision, params.note⟩ (some clientId))

def disconnectedDecision : HostApprovalDecision :=
  ⟨.deny, some "frontend disconnected before answering"⟩

/-- A connection went away. A request without a target left is denied, and there
is nobody to tell. -/
def disconnect (bridge : ApprovalBridge) (clientId : ClientId) : ApprovalBridge :=
  (bridge.pending.orphans clientId).foldl (fun bridge entry =>
      bridge.resolve entry.1 entry.2 disconnectedDecision)
    { bridge with pending := bridge.pending.dropClient clientId }

def requestParams (requestId : String) (request : HostApprovalRequest) :
    ApprovalRequestParams where
  requestId := requestId
  sessionId := request.sessionId.getD ""
  kind := request.kind
  summary := request.summary
  detail := request.detail

def waiting (environment : Environment) (broker : SessionBroker)
    (sessionId : Option SessionId) (flag : Bool) : SessionBroker × List Sent :=
  match sessionId with
  | none => (broker, [])
  | some sessionId => broker.setWaitingApproval environment sessionId flag

/-- `#handle` up to its `await`. -/
def handle (environment : Environment) (broker : SessionBroker) (bridge : ApprovalBridge)
    (requestId : String) (request : HostApprovalRequest) :
    Handled × SessionBroker × ApprovalBridge × List Sent :=
  let targets := broker.routedTo request.sessionId
  if targets.isEmpty then
    if bridge.failClosed then
      (.returned ⟨.deny, some "unavailable: no frontend attached"⟩, broker, bridge, [])
    else (.delegated, broker, bridge, [])
  else
    let params := requestParams requestId request
    let flagged := waiting environment broker request.sessionId true
    (.awaiting, flagged.1,
      { bridge with
        pending := bridge.pending.set requestId
          { sessionId := request.sessionId
            targets := .ofList targets
            params := params } },
      flagged.2 ++ SessionBroker.fanOut environment targets (.approvalRequest params))

/-- The `finally` of the handler whose promise was resolved first, and the
decision it returns to the waterfall. -/
def resume (environment : Environment) (broker : SessionBroker) (bridge : ApprovalBridge) :
    Option (Resolved × SessionBroker × ApprovalBridge × List Sent) :=
  match bridge.resolved with
  | [] => none
  | next :: rest =>
      let cleared := waiting environment broker next.sessionId false
      some (next, cleared.1, { bridge with resolved := rest }, cleared.2)

end ApprovalBridge

end DshRemote.Backend
