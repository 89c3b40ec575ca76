import DshRemote.Backend.Interaction

/-! # QuestionBridge

Routes the host's `ask_user_question` calls to attached frontends. The routing
rules mirror the approval bridge; a request may also be aborted by its signal,
and questions do not touch the broker's waiting-approval flag. -/

namespace DshRemote.Backend

structure HostQuestionRequest where
  sessionId : Option SessionId := none
  summary : Option String := none
  items : List QuestionItem
  /-- The abort signal, when there is one: whether it is aborted already. -/
  signal : Option Bool := none
deriving DecidableEq, Repr

abbrev PendingQuestion := Outstanding QuestionRequestParams

/-- How the promise of an `ask` was settled: the answers, or an error's message. -/
abbrev AskOutcome := Except String QuestionAnswers

structure QuestionBridge where
  pending : PendingTable QuestionRequestParams := .empty
  /-- Questions whose abort listener is registered on a signal. -/
  listening : OrderedSet String := .empty
  /-- The promises of `ask` settled so far, in order. -/
  settled : List (String × AskOutcome) := []

namespace QuestionBridge

def pendingForSession (bridge : QuestionBridge) (sessionId : SessionId) :
    List QuestionRequestParams := bridge.pending.pendingForSession sessionId

/-- The common part of `#settle` and `#withdraw`: out of the table, the abort
listener removed, the losers told, the promise settled. -/
def close (environment : Environment) (broker : SessionBroker) (bridge : QuestionBridge)
    (questionId : String) (pending : PendingQuestion) (outcome : AskOutcome)
    (winner : Option ClientId) (closed : Notification) : QuestionBridge × List Sent :=
  if bridge.pending.has questionId then
    ({ pending := bridge.pending.delete questionId
       listening := bridge.listening.delete questionId
       settled := bridge.settled ++ [(questionId, outcome)] },
      broker.notifyLosers environment pending.targets winner closed)
  else (bridge, [])

def settle (environment : Environment) (broker : SessionBroker) (bridge : QuestionBridge)
    (questionId : String) (pending : PendingQuestion) (answers : QuestionAnswers)
    (winner : Option ClientId) : QuestionBridge × List Sent :=
  bridge.close environment broker questionId pending (.ok answers) winner
    (.questionClosed questionId (some answers) winner)

def withdraw (environment : Environment) (broker : SessionBroker) (bridge : QuestionBridge)
    (questionId : String) (pending : PendingQuestion) (error : String) :
    QuestionBridge × List Sent :=
  bridge.close environment broker questionId pending (.error error) none
    (.questionClosed questionId none none)

/-- `question.answer` from a frontend. -/
def answer (environment : Environment) (broker : SessionBroker) (bridge : QuestionBridge)
    (clientId : ClientId) (params : QuestionAnswerParams) :
    Except RemoteError (QuestionBridge × List Sent) :=
  match bridge.pending.answerable "question" clientId params.questionId with
  | .error refused => .error refused
  | .ok pending =>
      .ok (bridge.settle environment broker params.questionId pending params.answers
        (some clientId))

/-- A connection went away. A question without a target left is withdrawn, and
there is nobody to tell. -/
def disconnect (bridge : QuestionBridge) (clientId : ClientId) : QuestionBridge :=
  (bridge.pending.orphans clientId).foldl (fun bridge entry =>
      { bridge with
        listening := bridge.listening.delete entry.1
        settled := bridge.settled ++
          [(entry.1, .error "frontend disconnected before answering")] })
    { bridge with pending := bridge.pending.dropClient clientId }

def requestParams (questionId : String) (request : HostQuestionRequest) :
    QuestionRequestParams where
  questionId := questionId
  sessionId := request.sessionId.getD ""
  summary := request.summary
  items := request.items

/-- `#ask` up to the point where it returns its promise, or its rejection. The
second look at the signal finds what the first one found: nothing runs between. -/
def ask (environment : Environment) (broker : SessionBroker) (bridge : QuestionBridge)
    (questionId : String) (request : HostQuestionRequest) :
    Except String (QuestionBridge × List Sent) :=
  let targets := broker.routedTo request.sessionId
  if request.signal = some true then
    .error "ask_user_question aborted before frontend answered"
  else if targets.isEmpty then .error "unavailable: no frontend attached"
  else
    let params := requestParams questionId request
    .ok
      ({ bridge with
          pending := bridge.pending.set questionId
            { sessionId := request.sessionId
              targets := .ofList targets
              params := params }
          listening := match request.signal with
            | none => bridge.listening
            | some _ => bridge.listening.add questionId },
        SessionBroker.fanOut environment targets (.questionRequest params))

/-- The signal of a question aborts: its listener withdraws the question. -/
def abort (environment : Environment) (broker : SessionBroker) (bridge : QuestionBridge)
    (questionId : String) : QuestionBridge × List Sent :=
  if questionId ∈ bridge.listening then
    match bridge.pending.get questionId with
    | none => (bridge, [])
    | some pending =>
        bridge.withdraw environment broker questionId pending
          "ask_user_question aborted before frontend answered"
  else (bridge, [])

end QuestionBridge

end DshRemote.Backend
