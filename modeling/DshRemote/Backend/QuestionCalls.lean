import DshRemote.Backend.BrokerMachine
import DshRemote.Backend.Question

/-! # The question bridge, call by call

`#ask`, `#notifyLosers` and the dispatch of an abort signal call out to connections and
to other listeners, which may call back into the bridge before they return. The state
holds the calls that are in progress; `advance` runs the innermost one up to its next
call out, or to its end. -/

namespace DshRemote.Backend

abbrev SignalId := Nat

/-- A call of the bridge that is in progress. -/
inductive Call
  /-- `#ask` between its first look at the signal and the registration. -/
  | asking (questionId : String) (request : HostQuestionRequest) (signal : Option SignalId)
      (targets : List ClientId)
  /-- `#ask` after its second look at the signal. -/
  | registered (questionId : String) (params : QuestionRequestParams) (targets : List ClientId)
  /-- The fan-out of `#ask`, with the targets it has yet to notify. -/
  | surfacing (questionId : String) (params : QuestionRequestParams)
      (remaining : List ClientId)
  /-- `#settle` or `#withdraw`, with the losers to tell before the promise is settled. -/
  | telling (questionId : String) (outcome : AskOutcome) (winner : Option ClientId)
      (remaining : List ClientId)
  /-- An abort signal runs the listeners it had when it fired. -/
  | dispatching (listeners : List String)
  /-- The loop of `dispose` over a snapshot of the table. -/
  | disposing (remaining : List String)

/-- Code that is not the bridge's may run while a call of that kind is the innermost. -/
def Call.callsOut : Call → Bool
  | .registered _ _ _ | .disposing _ => false
  | _ => true

structure QuestionRun where
  broker : SessionBroker
  bridge : QuestionBridge := {}
  /-- The calls in progress, innermost first. -/
  calls : List Call := []
  /-- The signal each question was asked with. -/
  signals : OrderedMap String SignalId := .empty
  aborted : OrderedSet SignalId := .empty
  /-- Question ids handed out so far. -/
  issued : OrderedSet String := .empty
  /-- The bridge is the host's provider. -/
  provides : Bool := true

inductive QuestionEvent
  | ask (questionId : String) (request : HostQuestionRequest) (signal : Option SignalId)
  | advance (environment : Environment)
  | answer (clientId : ClientId) (params : QuestionAnswerParams)
  | disconnect (environment : Environment) (clientId : ClientId)
  | abort (signal : SignalId)
  | dispose
  | broker (event : BrokerEvent)

namespace QuestionRun

def abortedError : String := "ask_user_question aborted before frontend answered"

def unavailableError : String := "unavailable: no frontend attached"

def disposedError : String := "question provider disposed before answering"

def disconnectedError : String := "frontend disconnected before answering"

/-- `#settle` and `#withdraw` up to the first loser they notify. -/
def close (run : QuestionRun) (questionId : String) (pending : PendingQuestion)
    (outcome : AskOutcome) (winner : Option ClientId) : QuestionRun :=
  if run.bridge.pending.has questionId then
    { run with
      bridge := { run.bridge with
        pending := run.bridge.pending.delete questionId
        listening := run.bridge.listening.delete questionId }
      calls := .telling questionId outcome winner
        (pending.targets.elements.filter fun clientId => some clientId ≠ winner) :: run.calls }
  else run

def settle (run : QuestionRun) (questionId : String) (pending : PendingQuestion)
    (answers : QuestionAnswers) (winner : ClientId) : QuestionRun :=
  run.close questionId pending (.ok answers) (some winner)

def withdraw (run : QuestionRun) (questionId : String) (pending : PendingQuestion)
    (error : String) : QuestionRun :=
  run.close questionId pending (.error error) none

/-- The promise of a question is settled. -/
def promise (run : QuestionRun) (questionId : String) (outcome : AskOutcome) : QuestionRun :=
  { run with bridge :=
    { run.bridge with settled := run.bridge.settled ++ [(questionId, outcome)] } }

/-- The signal has fired. -/
def IsAborted (run : QuestionRun) (signal : Option SignalId) : Prop :=
  ∃ fired, signal = some fired ∧ fired ∈ run.aborted

instance (run : QuestionRun) : (signal : Option SignalId) → Decidable (run.IsAborted signal)
  | none => isFalse (by rintro ⟨fired, none, _⟩; cases none)
  | some signal =>
      decidable_of_iff (signal ∈ run.aborted) ⟨fun fired => ⟨signal, rfl, fired⟩, by
        rintro ⟨fired, same, member⟩
        cases same
        exact member⟩

/-- `#ask` up to the registration. An ask that is aborted, or that nobody can be shown,
is rejected at once. -/
def ask (run : QuestionRun) (questionId : String) (request : HostQuestionRequest)
    (signal : Option SignalId) : QuestionRun :=
  let issued := { run with
    issued := run.issued.add questionId
    signals := match signal with
      | none => run.signals
      | some signal => run.signals.set questionId signal }
  let targets := run.broker.routedTo request.sessionId
  if request.signal = some true then issued.promise questionId (.error abortedError)
  else if targets.isEmpty then issued.promise questionId (.error unavailableError)
  else { issued with calls := .asking questionId request signal targets :: run.calls }

/-- The registration of `#ask` and its second look at the signal. -/
def register (run : QuestionRun) (questionId : String) (request : HostQuestionRequest)
    (signal : Option SignalId) (targets : List ClientId) (outer : List Call) : QuestionRun :=
  let params := QuestionBridge.requestParams questionId request
  let pending : PendingQuestion :=
    { sessionId := request.sessionId, targets := .ofList targets, params := params }
  let registered := { run with
    bridge := { run.bridge with
      pending := run.bridge.pending.set questionId pending
      listening := match signal with
        | none => run.bridge.listening
        | some _ => run.bridge.listening.add questionId }
    calls := .registered questionId params targets :: outer }
  if run.IsAborted signal then registered.withdraw questionId pending abortedError
  else registered

/-- `#withdraw` of a question, by an abort listener or by `dispose`. -/
def withdrawPending (run : QuestionRun) (questionId : String) (error : String) : QuestionRun :=
  match run.bridge.pending.get questionId with
  | none => run
  | some pending => run.withdraw questionId pending error

/-- The innermost call runs up to its next call out, or to its end. -/
def advance (run : QuestionRun) : QuestionRun :=
  match run.calls with
  | [] => run
  | .asking questionId request signal targets :: outer =>
      run.register questionId request signal targets outer
  | .registered questionId params targets :: outer =>
      if run.bridge.pending.has questionId then
        match targets with
        | [] => { run with calls := outer }
        | _ :: remaining => { run with calls := .surfacing questionId params remaining :: outer }
      else { run with calls := outer }
  | .surfacing _ _ [] :: outer => { run with calls := outer }
  | .surfacing questionId params (_ :: remaining) :: outer =>
      { run with calls := .surfacing questionId params remaining :: outer }
  | .telling questionId outcome _ [] :: outer =>
      { run with calls := outer }.promise questionId outcome
  | .telling questionId outcome winner (_ :: remaining) :: outer =>
      { run with calls := .telling questionId outcome winner remaining :: outer }
  | .dispatching [] :: outer => { run with calls := outer }
  | .dispatching (questionId :: listeners) :: outer =>
      let next := { run with calls := .dispatching listeners :: outer }
      if questionId ∈ run.bridge.listening then next.withdrawPending questionId abortedError
      else next
  | .disposing [] :: outer => { run with calls := outer }
  | .disposing (questionId :: remaining) :: outer =>
      { run with calls := .disposing remaining :: outer }.withdrawPending questionId
        disposedError

/-- What the innermost call writes before it calls out or ends: one notification, when
the call of the connection's `notify` returns. The losers are told the answers there
are, and the winner. -/
def written (run : QuestionRun) (environment : Environment) : List Sent :=
  match run.calls with
  | .registered questionId params (clientId :: _) :: _ =>
      if run.bridge.pending.has questionId ∧
          environment.delivers clientId (.questionRequest params) = true then
        [⟨clientId, .questionRequest params⟩]
      else []
  | .surfacing _ params (clientId :: _) :: _ =>
      if environment.delivers clientId (.questionRequest params) = true then
        [⟨clientId, .questionRequest params⟩]
      else []
  | .telling questionId outcome winner (clientId :: _) :: _ =>
      let closed := .questionClosed questionId outcome.toOption winner
      if clientId ∈ run.broker.connections ∧ environment.delivers clientId closed = true then
        [⟨clientId, closed⟩]
      else []
  | _ => []

/-- `question.answer` from a frontend: refused, or settled up to the first loser. -/
def answer (run : QuestionRun) (clientId : ClientId) (params : QuestionAnswerParams) :
    Except RemoteError QuestionRun :=
  match run.bridge.pending.answerable "question" clientId params.questionId with
  | .error refused => .error refused
  | .ok pending => .ok (run.settle params.questionId pending params.answers clientId)

/-- The questions whose listener sits on the signal, in the order of their registration. -/
def listenersOf (run : QuestionRun) (signal : SignalId) : List String :=
  run.bridge.listening.elements.filter fun questionId =>
    run.signals.get questionId = some signal

def perform (run : QuestionRun) : QuestionEvent → QuestionRun × List Sent
  | .ask questionId request signal => (run.ask questionId request signal, [])
  | .advance environment => (run.advance, run.written environment)
  | .answer clientId params =>
      match run.answer clientId params with
      | .error _ => (run, [])
      | .ok settled => (settled, [])
  | .disconnect environment clientId =>
      let disconnected := run.broker.disconnect environment clientId
      ({ run with
          broker := disconnected.1
          bridge := run.bridge.disconnect clientId }, disconnected.2)
  | .abort signal =>
      ({ run with
          aborted := run.aborted.add signal
          calls := .dispatching (run.listenersOf signal) :: run.calls }, [])
  | .dispose =>
      ({ run with
          provides := false
          calls := .disposing run.bridge.pending.keys :: run.calls }, [])
  | .broker event =>
      let next := run.broker.perform event
      ({ run with broker := next.1 }, next.2)

/-- No call of the bridge is in progress, or the innermost one has called out. -/
def Interruptible (run : QuestionRun) : Prop := run.calls.head?.all Call.callsOut = true

instance (run : QuestionRun) : Decidable run.Interruptible :=
  inferInstanceAs (Decidable (_ = true))

/-- A question id is new, an ask shows its signal as it is, a signal fires once, and the
host asks its provider only. -/
def Possible (run : QuestionRun) : QuestionEvent → Prop
  | .advance _ => run.calls.isEmpty = false
  | .ask questionId request signal =>
      run.Interruptible ∧ run.provides = true ∧ questionId ∉ run.issued ∧
        request.signal = signal.map fun signal => decide (signal ∈ run.aborted)
  | .abort signal => run.Interruptible ∧ signal ∉ run.aborted
  | .answer _ _ | .disconnect _ _ | .dispose | .broker _ => run.Interruptible

instance (run : QuestionRun) : (event : QuestionEvent) → Decidable (run.Possible event)
  | .advance _ => inferInstanceAs (Decidable (run.calls.isEmpty = false))
  | .ask _ _ _ => instDecidableAnd
  | .abort _ => instDecidableAnd
  | .answer _ _ | .disconnect _ _ | .dispose | .broker _ =>
      inferInstanceAs (Decidable run.Interruptible)

def step (run : QuestionRun) (event : QuestionEvent) : Option QuestionRun :=
  if run.Possible event then some (run.perform event).1 else none

theorem step_eq_some {run next : QuestionRun} {event : QuestionEvent}
    (stepped : run.step event = some next) :
    run.Possible event ∧ next = (run.perform event).1 := by
  simp only [step] at stepped
  split at stepped
  · next possible =>
      cases stepped
      exact ⟨possible, rfl⟩
  · cases stepped

/-- A bridge that was just made the provider, at any broker. -/
def init (broker : SessionBroker) : QuestionRun where
  broker := broker

end QuestionRun

end DshRemote.Backend
