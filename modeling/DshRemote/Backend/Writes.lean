import DshRemote.Backend.BridgeMoves

/-! # What an event writes

The broker writes about sessions only; whatever is written about an approval or a
question shows it to the clients it is routed to, or closes it for its losers. -/

namespace DshRemote

/-- One of the notifications the broker itself writes. -/
def Notification.ofBroker : Notification → Bool
  | .sessionEvent _ _ | .sessionStatus _ _ | .sessionControlChanged _ _ _ => true
  | _ => false

namespace Backend

namespace SessionBroker

theorem ofBroker_toAttached {environment : Environment} {broker : SessionBroker}
    {sessionId : SessionId} {notification : Notification}
    (own : notification.ofBroker = true) :
    ∀ message ∈ broker.toAttached environment sessionId notification,
      message.notification.ofBroker = true := by
  intro message member
  rcases List.mem_map.mp member with ⟨clientId, _, rfl⟩
  exact own

theorem ofBroker_releaseAll (environment : Environment) (broker : SessionBroker)
    (clientId : ClientId) (listed : List (SessionId × Lease)) :
    ∀ message ∈ (broker.releaseAll environment clientId listed).2,
      message.notification.ofBroker = true := by
  induction listed generalizing broker with
  | nil => exact fun message member => by cases member
  | cons entry rest induction =>
      rcases entry with ⟨session, lease⟩
      simp only [releaseAll]
      split
      · intro message member
        rcases List.mem_append.mp member with now | later
        · exact ofBroker_toAttached rfl message now
        · exact induction _ message later
      · exact induction broker

theorem ofBroker_hostAppend (environment : Environment) (broker : SessionBroker)
    (buffering : Option ListenerId) (request : HostAppend) :
    ∀ message ∈ (broker.hostAppend environment buffering request).2.1,
      message.notification.ofBroker = true := by
  intro message member
  simp only [hostAppend] at member
  split at member
  · cases member
  · rcases List.mem_map.mp member with ⟨entry, _, rfl⟩
    rfl

theorem ofBroker_replay (environment : AttachEnvironment) (broker : SessionBroker)
    (clientId : ClientId) (params : SessionAttachParams) (session : HostSession) :
    ∀ message ∈ (Replay.final (broker.replay environment clientId params session)).sent,
      message.notification.ofBroker = true := by
  have kept : Replay.Kept environment.toEnvironment
      (broker.subscription clientId params.sessionId)
      (fun replay => ∀ message ∈ replay.sent,
        message.notification.ofBroker = true) := by
    constructor
    · intro replay request own message member
      rcases List.mem_append.mp member with earlier | now
      · exact own message earlier
      · exact ofBroker_hostAppend _ _ _ _ message now
    · intro replay event own message member
      rcases List.mem_append.mp member with earlier | now
      · exact own message earlier
      · rw [List.mem_singleton.mp now]
        rfl
    · intro replay rest own
      exact own
  exact replay_kept kept (fun message member => by cases member) session

theorem ofBroker_perform (broker : SessionBroker) (event : BrokerEvent) :
    ∀ message ∈ (broker.perform event).2,
      message.notification.ofBroker = true := by
  cases event with
  | connect joined => exact fun message member => by cases member
  | disconnect environment left =>
      simp only [perform, disconnect]
      exact ofBroker_releaseAll _ _ _ _
  | detach environment left session =>
      simp only [perform, detach]
      split
      · exact ofBroker_toAttached rfl
      · exact fun message member => by cases member
  | controlRelease environment left session =>
      simp only [perform, controlRelease]
      split
      · exact ofBroker_toAttached rfl
      · exact fun message member => by cases member
  | setWaitingApproval environment session waiting =>
      simp only [perform, setWaitingApproval]
      split
      · exact fun message member => by cases member
      · exact ofBroker_toAttached rfl
  | host environment event =>
      cases event with
      | append request => exact ofBroker_hostAppend _ _ _ _
      | sessionEntered | agentRemoved => exact fun message member => by cases member
      | sessionDisposed | agentStatus => exact ofBroker_toAttached rfl
  | attach environment left params pendingInteractions =>
      have ends := attach_ends environment broker left params pendingInteractions
      simp only [perform]
      generalize broker.attach environment left params pendingInteractions = outcome at ends ⊢
      cases ends with
      | unknown absent => exact fun message member => by cases member
      | @notifyThrew session failed connected live interrupted =>
          have own := ofBroker_replay environment broker left params session
          rwa [interrupted, Replay.final_error] at own
      | @locked session replayed refused connected live finished writing refusal =>
          have own := ofBroker_replay environment broker left params session
          rwa [finished, Replay.final_ok] at own
      | @attached session replayed holding broadcast connected live finished granted =>
          have own := ofBroker_replay environment broker left params session
          rw [finished, Replay.final_ok] at own
          intro message member
          rcases List.mem_append.mp member with replayedTo | broadcasted
          · exact own message replayedTo
          · rcases granted with ⟨_, rfl⟩ | ⟨_, _, _, reason, rfl⟩
            · cases broadcasted
            · exact ofBroker_toAttached rfl message broadcasted

theorem mem_notifyLosers {environment : Environment} {broker : SessionBroker}
    {targets : OrderedSet ClientId} {winner : Option ClientId} {closed : Notification}
    {message : Sent}
    (member : message ∈ broker.notifyLosers environment targets winner closed) :
    message.notification = closed ∧ message.clientId ∈ targets ∧
      some message.clientId ≠ winner ∧
      environment.delivers message.clientId closed = true := by
  simp only [notifyLosers, fanOut] at member
  rcases List.mem_map.mp member with ⟨clientId, listed, rfl⟩
  rcases List.mem_filter.mp listed with ⟨loser, delivered⟩
  rcases List.mem_filter.mp loser with ⟨target, lost⟩
  exact ⟨rfl, target, (of_decide_eq_true lost).1, delivered⟩

theorem countP_notifyLosers {environment : Environment} {broker : SessionBroker}
    {targets : OrderedSet ClientId} {winner : Option ClientId} {closed : Notification}
    {clientId : ClientId} (target : clientId ∈ targets)
    (connected : clientId ∈ broker.connections) (loses : some clientId ≠ winner)
    (delivered : environment.delivers clientId closed = true) {counted : Sent → Bool}
    (counts : ∀ other, counted ⟨other, closed⟩ = decide (other = clientId)) :
    (broker.notifyLosers environment targets winner closed).countP counted = 1 := by
  simp only [notifyLosers, fanOut, List.countP_map]
  have single : ∀ listed : List ClientId, listed.Nodup → clientId ∈ listed →
      listed.countP (counted ∘ fun other => (⟨other, closed⟩ : Sent)) = 1 := by
    intro listed nodup member
    have same : (counted ∘ fun other => (⟨other, closed⟩ : Sent)) = (· == clientId) := by
      funext other
      simp [counts, BEq.beq]
    rw [same]
    exact List.count_eq_one_of_mem nodup member
  apply single
  · exact (targets.nodup.filter _).filter _
  · simp only [List.mem_filter, decide_eq_true_eq]
    exact ⟨⟨target, loses, connected⟩, delivered⟩

end SessionBroker

namespace Daemon

/-- One notification an event writes, with the reason for it. -/
inductive Writes (daemon : Daemon) : DaemonEvent → Sent → Prop
  | ofBroker {event : DaemonEvent} {message : Sent}
      (own : message.notification.ofBroker = true) : Writes daemon event message
  | approvalShown {environment : Environment} {requestId : String}
      {request : HostApprovalRequest} {clientId : ClientId}
      (routed : clientId ∈ daemon.broker.routedTo request.sessionId) :
      Writes daemon (.approvalRequested environment requestId request)
        ⟨clientId, .approvalRequest (ApprovalBridge.requestParams requestId request)⟩
  | questionShown {environment : Environment} {questionId : String}
      {request : HostQuestionRequest} {clientId : ClientId}
      (routed : clientId ∈ daemon.broker.routedTo request.sessionId) :
      Writes daemon (.asked environment questionId request)
        ⟨clientId, .questionRequest (QuestionBridge.requestParams questionId request)⟩
  | approvalClosed {environment : AttachEnvironment} {clientId other : ClientId}
      {params : ApprovalAnswerParams} {pending : PendingRequest}
      (found : daemon.approval.pending.get params.requestId = some pending)
      (target : clientId ∈ pending.targets) :
      Writes daemon (.request environment clientId (.approvalAnswer params))
        ⟨other, .approvalClosed params.requestId params.decision (some clientId)⟩
  | questionClosed {environment : AttachEnvironment} {clientId other : ClientId}
      {params : QuestionAnswerParams} {pending : PendingQuestion}
      (found : daemon.question.pending.get params.questionId = some pending)
      (target : clientId ∈ pending.targets) :
      Writes daemon (.request environment clientId (.questionAnswer params))
        ⟨other, .questionClosed params.questionId (some params.answers) (some clientId)⟩
  | questionWithdrawn {environment : Environment} {questionId : String} {other : ClientId}
      {pending : PendingQuestion} (listening : questionId ∈ daemon.question.listening)
      (found : daemon.question.pending.get questionId = some pending) :
      Writes daemon (.aborted environment questionId)
        ⟨other, .questionClosed questionId none none⟩

theorem sent_approvalAnswer {environment : AttachEnvironment} {daemon : Daemon}
    {clientId : ClientId} {params : ApprovalAnswerParams} {pending : PendingRequest}
    (found : daemon.approval.pending.get params.requestId = some pending)
    (target : clientId ∈ pending.targets) :
    (daemon.perform (.request environment clientId (.approvalAnswer params))).2.sent =
      daemon.broker.notifyLosers environment.toEnvironment pending.targets (some clientId)
        (.approvalClosed params.requestId params.decision (some clientId)) := by
  simp only [perform, serve, ApprovalBridge.answer_eq found target,
    ApprovalBridge.settle_eq found]

theorem sent_questionAnswer {environment : AttachEnvironment} {daemon : Daemon}
    {clientId : ClientId} {params : QuestionAnswerParams} {pending : PendingQuestion}
    (found : daemon.question.pending.get params.questionId = some pending)
    (target : clientId ∈ pending.targets) :
    (daemon.perform (.request environment clientId (.questionAnswer params))).2.sent =
      daemon.broker.notifyLosers environment.toEnvironment pending.targets (some clientId)
        (.questionClosed params.questionId (some params.answers) (some clientId)) := by
  simp only [perform, serve, QuestionBridge.answer_eq found target, QuestionBridge.settle,
    QuestionBridge.close_eq found]

theorem sent_aborted {environment : Environment} {daemon : Daemon} {questionId : String}
    {pending : PendingQuestion} (listening : questionId ∈ daemon.question.listening)
    (found : daemon.question.pending.get questionId = some pending) :
    (daemon.perform (.aborted environment questionId)).2.sent =
      daemon.broker.notifyLosers environment pending.targets none
        (.questionClosed questionId none none) := by
  simp only [perform, QuestionBridge.abort, listening, if_true, found,
    QuestionBridge.withdraw, QuestionBridge.close_eq found]

theorem mem_fanOut {environment : Environment} {targets : List ClientId}
    {notification : Notification} {message : Sent}
    (member : message ∈ SessionBroker.fanOut environment targets notification) :
    message.clientId ∈ targets ∧ message.notification = notification := by
  rcases List.mem_map.mp member with ⟨clientId, listed, rfl⟩
  exact ⟨(List.mem_filter.mp listed).1, rfl⟩

theorem ofBroker_waiting {environment : Environment} {broker : SessionBroker}
    {sessionId : Option SessionId} {flag : Bool} :
    ∀ message ∈ (ApprovalBridge.waiting environment broker sessionId flag).2,
      message.notification.ofBroker = true := by
  cases sessionId with
  | none => exact fun message member => by cases member
  | some sessionId =>
      exact SessionBroker.ofBroker_perform broker (.setWaitingApproval environment sessionId flag)

theorem writes_serve {environment : AttachEnvironment} {daemon : Daemon}
    {clientId : ClientId} {request : Request} {message : Sent}
    (member : message ∈ (daemon.serve environment clientId request).2.sent) :
    Writes daemon (.request environment clientId request) message := by
  cases request with
  | attach params =>
      exact .ofBroker (SessionBroker.ofBroker_perform daemon.broker
        (.attach environment clientId params _) message member)
  | detach session =>
      exact .ofBroker (SessionBroker.ofBroker_perform daemon.broker
        (.detach environment.toEnvironment clientId session) message member)
  | controlRelease session =>
      exact .ofBroker (SessionBroker.ofBroker_perform daemon.broker
        (.controlRelease environment.toEnvironment clientId session) message member)
  | cancel | fork | compact =>
      simp only [serve] at member
      split at member <;> cases member
  | prompt session text content messageId =>
      simp only [serve] at member
      split at member
      · cases member
      · next assembled _ => cases assembled <;> cases member
  | approvalAnswer params =>
      cases granted : daemon.approval.answer environment.toEnvironment daemon.broker clientId
          params with
      | error refused =>
          simp only [serve, granted] at member
          cases member
      | ok answered =>
          rcases ApprovalBridge.eligible_of_answer granted with ⟨pending, found, target⟩
          have sent := @sent_approvalAnswer environment _ _ _ _ found target
          simp only [perform] at sent
          rw [sent] at member
          rcases message with ⟨other, notification⟩
          cases (SessionBroker.mem_notifyLosers member).1
          exact .approvalClosed found target
  | questionAnswer params =>
      cases granted : daemon.question.answer environment.toEnvironment daemon.broker clientId
          params with
      | error refused =>
          simp only [serve, granted] at member
          cases member
      | ok answered =>
          rcases QuestionBridge.eligible_of_answer granted with ⟨pending, found, target⟩
          have sent := @sent_questionAnswer environment _ _ _ _ found target
          simp only [perform] at sent
          rw [sent] at member
          rcases message with ⟨other, notification⟩
          cases (SessionBroker.mem_notifyLosers member).1
          exact .questionClosed found target

theorem writes_perform {daemon : Daemon} {event : DaemonEvent} {message : Sent}
    (member : message ∈ (daemon.perform event).2.sent) : Writes daemon event message := by
  cases event with
  | connect | imageFailed => cases member
  | closed environment clientId =>
      exact .ofBroker (SessionBroker.ofBroker_perform daemon.broker
        (.disconnect environment clientId) message member)
  | host environment happened =>
      exact .ofBroker (SessionBroker.ofBroker_perform daemon.broker
        (.host environment happened) message member)
  | request environment clientId request => exact writes_serve member
  | imageSaved prompt attachment messageId =>
      simp only [perform] at member
      split at member
      · cases member
      · next task _ =>
          cases saved : daemon.broker.imageSaved task attachment <;> rw [saved] at member <;>
            cases member
  | approvalResumed environment =>
      simp only [perform, ApprovalBridge.resume] at member
      cases queue : daemon.approval.resolved with
      | nil =>
          rw [queue] at member
          cases member
      | cons next rest =>
          rw [queue] at member
          exact .ofBroker (ofBroker_waiting message member)
  | approvalRequested environment requestId request =>
      simp only [perform, ApprovalBridge.handle] at member
      split at member
      · split at member <;> cases member
      · rcases List.mem_append.mp member with flagged | shown
        · exact .ofBroker (ofBroker_waiting message flagged)
        · rcases message with ⟨other, notification⟩
          rcases mem_fanOut shown with ⟨routed, rfl⟩
          exact .approvalShown routed
  | asked environment questionId request =>
      simp only [perform] at member
      split at member
      · cases member
      · next asked granted =>
          simp only [QuestionBridge.ask] at granted
          split at granted
          · cases granted
          · split at granted
            · cases granted
            · cases granted
              rcases message with ⟨other, notification⟩
              rcases mem_fanOut member with ⟨routed, same⟩
              cases same
              exact .questionShown routed
  | aborted environment questionId =>
      by_cases listening : questionId ∈ daemon.question.listening
      · cases found : daemon.question.pending.get questionId with
        | none =>
            simp only [perform, QuestionBridge.abort, listening, if_true, found] at member
            cases member
        | some pending =>
            rw [sent_aborted listening found] at member
            rcases message with ⟨other, notification⟩
            cases (SessionBroker.mem_notifyLosers member).1
            exact .questionWithdrawn listening found
      · simp only [perform, QuestionBridge.abort, listening, if_false] at member
        cases member

end Daemon

end Backend

end DshRemote
