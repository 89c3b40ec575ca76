import DshRemote.Backend.PendingSteps

/-! # How the bridges move

An event leaves a bridge as it is, or it is one of the few that raise, answer,
withdraw or orphan a request, or run a continuation. -/

namespace DshRemote.Backend

namespace ApprovalBridge

theorem resolveAll_eq (bridge : ApprovalBridge) (entries : List (String × PendingRequest))
    (decision : HostApprovalDecision) :
    entries.foldl (fun bridge entry => bridge.resolve entry.1 entry.2 decision) bridge =
      { bridge with
        resolved := bridge.resolved ++
          entries.map fun entry => ⟨entry.1, entry.2.sessionId, decision⟩ } := by
  induction entries generalizing bridge with
  | nil => simp
  | cons entry rest induction =>
      rw [List.foldl_cons, induction]
      simp [resolve]

theorem disconnect_eq (bridge : ApprovalBridge) (clientId : ClientId) :
    bridge.disconnect clientId =
      { bridge with
        pending := bridge.pending.dropClient clientId
        resolved := bridge.resolved ++ (bridge.pending.orphans clientId).map fun entry =>
          ⟨entry.1, entry.2.sessionId, disconnectedDecision⟩ } :=
  resolveAll_eq _ _ _

theorem settle_eq {environment : Environment} {broker : SessionBroker}
    {bridge : ApprovalBridge} {requestId : String} {pending : PendingRequest}
    (found : bridge.pending.get requestId = some pending) (decision : HostApprovalDecision)
    (winner : Option ClientId) :
    bridge.settle environment broker requestId pending decision winner =
      ({ bridge with
          pending := bridge.pending.delete requestId
          resolved := bridge.resolved ++ [⟨requestId, pending.sessionId, decision⟩] },
        broker.notifyLosers environment pending.targets winner
          (.approvalClosed requestId decision.decision winner)) := by
  simp [settle, OrderedMap.has, found, resolve]

theorem answer_eq {environment : Environment} {broker : SessionBroker}
    {bridge : ApprovalBridge} {clientId : ClientId} {params : ApprovalAnswerParams}
    {pending : PendingRequest} (found : bridge.pending.get params.requestId = some pending)
    (target : clientId ∈ pending.targets) :
    bridge.answer environment broker clientId params =
      .ok (bridge.settle environment broker params.requestId pending
        ⟨params.decision, params.note⟩ (some clientId)) := by
  have eligible := (PendingTable.answerable_ok_iff "approval" bridge.pending clientId
    params.requestId pending).mpr ⟨found, target⟩
  simp only [answer, eligible]

theorem eligible_of_answer {environment : Environment} {broker : SessionBroker}
    {bridge : ApprovalBridge} {clientId : ClientId} {params : ApprovalAnswerParams}
    {answered : ApprovalBridge × List Sent}
    (granted : bridge.answer environment broker clientId params = .ok answered) :
    ∃ pending, bridge.pending.get params.requestId = some pending ∧
      clientId ∈ pending.targets := by
  simp only [answer] at granted
  split at granted
  · cases granted
  · next pending eligible =>
      exact ⟨pending, (PendingTable.answerable_ok_iff _ _ _ _ _).mp eligible⟩

end ApprovalBridge

namespace QuestionBridge

theorem disconnect_eq (bridge : QuestionBridge) (clientId : ClientId) :
    bridge.disconnect clientId =
      { pending := bridge.pending.dropClient clientId
        listening := (bridge.pending.orphans clientId).foldl
          (fun listening entry => listening.delete entry.1) bridge.listening
        settled := bridge.settled ++ (bridge.pending.orphans clientId).map fun entry =>
          (entry.1, .error "frontend disconnected before answering") } := by
  simp only [disconnect]
  generalize bridge.pending.dropClient clientId = remaining
  generalize bridge.pending.orphans clientId = entries
  induction entries generalizing bridge with
  | nil => simp
  | cons entry rest induction =>
      have later := induction { bridge with
        listening := bridge.listening.delete entry.1
        settled := bridge.settled ++
          [(entry.1, .error "frontend disconnected before answering")] }
      simp only [List.foldl_cons, List.map_cons]
      rw [later]
      simp

theorem close_eq {environment : Environment} {broker : SessionBroker}
    {bridge : QuestionBridge} {questionId : String} {pending : PendingQuestion}
    (found : bridge.pending.get questionId = some pending) (outcome : AskOutcome)
    (winner : Option ClientId) (closed : Notification) :
    bridge.close environment broker questionId pending outcome winner closed =
      ({ pending := bridge.pending.delete questionId
         listening := bridge.listening.delete questionId
         settled := bridge.settled ++ [(questionId, outcome)] },
        broker.notifyLosers environment pending.targets winner closed) := by
  simp [close, OrderedMap.has, found]

theorem answer_eq {environment : Environment} {broker : SessionBroker}
    {bridge : QuestionBridge} {clientId : ClientId} {params : QuestionAnswerParams}
    {pending : PendingQuestion} (found : bridge.pending.get params.questionId = some pending)
    (target : clientId ∈ pending.targets) :
    bridge.answer environment broker clientId params =
      .ok (bridge.settle environment broker params.questionId pending params.answers
        (some clientId)) := by
  have eligible := (PendingTable.answerable_ok_iff "question" bridge.pending clientId
    params.questionId pending).mpr ⟨found, target⟩
  simp only [answer, eligible]

theorem eligible_of_answer {environment : Environment} {broker : SessionBroker}
    {bridge : QuestionBridge} {clientId : ClientId} {params : QuestionAnswerParams}
    {answered : QuestionBridge × List Sent}
    (granted : bridge.answer environment broker clientId params = .ok answered) :
    ∃ pending, bridge.pending.get params.questionId = some pending ∧
      clientId ∈ pending.targets := by
  simp only [answer] at granted
  split at granted
  · cases granted
  · next pending eligible =>
      exact ⟨pending, (PendingTable.answerable_ok_iff _ _ _ _ _).mp eligible⟩

end QuestionBridge

/-- The connection whose stream closes with the event. -/
def DaemonEvent.closing : DaemonEvent → Option ClientId
  | .closed _ clientId => some clientId
  | _ => none

namespace Daemon

/-- The decisions the handlers of `approval/request` return at an event. -/
def returns (daemon : Daemon) : DaemonEvent → List (String × HostApprovalDecision)
  | .approvalRequested environment requestId request =>
      match (daemon.approval.handle environment daemon.broker requestId request).1 with
      | .returned decision => [(requestId, decision)]
      | .delegated | .awaiting => []
  | .approvalResumed environment =>
      match daemon.approval.resume environment daemon.broker with
      | none => []
      | some resumed => [(resumed.1.requestId, resumed.1.decision)]
  | _ => []

/-- The approval answers an event has accepted. -/
def accepts (daemon : Daemon) : DaemonEvent → List (ClientId × ApprovalAnswerParams)
  | .request environment clientId (.approvalAnswer params) =>
      match daemon.approval.answer environment.toEnvironment daemon.broker clientId params with
      | .error _ => []
      | .ok _ => [(clientId, params)]
  | _ => []

/-- The approval bridge after one event. -/
inductive ApprovalMove (daemon : Daemon) : DaemonEvent → ApprovalBridge → Prop
  | kept {event : DaemonEvent} (stays : event.closing = none)
      (returned : daemon.returns event = []) (accepted : daemon.accepts event = []) :
      ApprovalMove daemon event daemon.approval
  | unroutable {environment : Environment} {requestId : String}
      {request : HostApprovalRequest} (nobody : daemon.broker.routedTo request.sessionId = []) :
      ApprovalMove daemon (.approvalRequested environment requestId request) daemon.approval
  | answered {environment : AttachEnvironment} {clientId : ClientId}
      {params : ApprovalAnswerParams} {pending : PendingRequest}
      (found : daemon.approval.pending.get params.requestId = some pending)
      (target : clientId ∈ pending.targets) :
      ApprovalMove daemon (.request environment clientId (.approvalAnswer params))
        { daemon.approval with
          pending := daemon.approval.pending.delete params.requestId
          resolved := daemon.approval.resolved ++
            [⟨params.requestId, pending.sessionId, params.decision, params.note⟩] }
  | dropped {environment : Environment} {clientId : ClientId} :
      ApprovalMove daemon (.closed environment clientId)
        { daemon.approval with
          pending := daemon.approval.pending.dropClient clientId
          resolved := daemon.approval.resolved ++
            (daemon.approval.pending.orphans clientId).map fun entry =>
              ⟨entry.1, entry.2.sessionId, ApprovalBridge.disconnectedDecision⟩ }
  | raised {environment : Environment} {requestId : String} {request : HostApprovalRequest}
      (routed : daemon.broker.routedTo request.sessionId ≠ []) :
      ApprovalMove daemon (.approvalRequested environment requestId request)
        { daemon.approval with
          pending := daemon.approval.pending.set requestId
            (.raised daemon.broker request.sessionId
              (ApprovalBridge.requestParams requestId request)) }
  | resumed {environment : Environment} {next : Resolved} {rest : List Resolved}
      (queue : daemon.approval.resolved = next :: rest) :
      ApprovalMove daemon (.approvalResumed environment)
        { daemon.approval with resolved := rest }

/-- The question bridge after one event. -/
inductive QuestionMove (daemon : Daemon) : DaemonEvent → QuestionBridge → Prop
  | kept {event : DaemonEvent} (stays : event.closing = none) :
      QuestionMove daemon event daemon.question
  | answered {environment : AttachEnvironment} {clientId : ClientId}
      {params : QuestionAnswerParams} {pending : PendingQuestion}
      (found : daemon.question.pending.get params.questionId = some pending)
      (target : clientId ∈ pending.targets) :
      QuestionMove daemon (.request environment clientId (.questionAnswer params))
        { pending := daemon.question.pending.delete params.questionId
          listening := daemon.question.listening.delete params.questionId
          settled := daemon.question.settled ++ [(params.questionId, .ok params.answers)] }
  | withdrawn {environment : Environment} {questionId : String} {pending : PendingQuestion}
      (found : daemon.question.pending.get questionId = some pending)
      (listening : questionId ∈ daemon.question.listening) :
      QuestionMove daemon (.aborted environment questionId)
        { pending := daemon.question.pending.delete questionId
          listening := daemon.question.listening.delete questionId
          settled := daemon.question.settled ++
            [(questionId, .error "ask_user_question aborted before frontend answered")] }
  | dropped {environment : Environment} {clientId : ClientId} :
      QuestionMove daemon (.closed environment clientId)
        (daemon.question.disconnect clientId)
  | raised {environment : Environment} {questionId : String} {request : HostQuestionRequest}
      (routed : daemon.broker.routedTo request.sessionId ≠ [])
      (listening : OrderedSet String) :
      QuestionMove daemon (.asked environment questionId request)
        { daemon.question with
          pending := daemon.question.pending.set questionId
            (.raised daemon.broker request.sessionId
              (QuestionBridge.requestParams questionId request))
          listening := listening }

theorem approval_moves (daemon : Daemon) (event : DaemonEvent) :
    ApprovalMove daemon event (daemon.perform event).1.approval := by
  cases event with
  | connect | host | aborted | imageFailed => exact .kept rfl rfl rfl
  | closed environment clientId =>
      simp only [perform, close, ApprovalBridge.disconnect_eq]
      exact .dropped
  | imageSaved prompt attachment messageId =>
      simp only [perform]
      split
      · exact .kept rfl rfl rfl
      · rw [approval_promptStep]
        exact .kept rfl rfl rfl
  | asked environment questionId request =>
      simp only [perform]
      split <;> exact .kept rfl rfl rfl
  | approvalResumed environment =>
      simp only [perform, ApprovalBridge.resume]
      cases queue : daemon.approval.resolved with
      | nil =>
          refine .kept rfl ?_ rfl
          simp [returns, ApprovalBridge.resume, queue]
      | cons next rest => exact .resumed queue
  | approvalRequested environment requestId request =>
      simp only [perform, ApprovalBridge.handle]
      split
      · next nobody => split <;> exact .unroutable (List.isEmpty_iff.mp nobody)
      · next routed =>
          refine .raised fun nobody => routed ?_
          rw [nobody]
          rfl
  | request environment clientId request =>
      simp only [perform]
      cases request with
      | attach | detach | controlRelease => exact .kept rfl rfl rfl
      | cancel | fork | compact | questionAnswer =>
          simp only [serve]
          split <;> exact .kept rfl rfl rfl
      | prompt session text content messageId =>
          simp only [serve]
          split
          · exact .kept rfl rfl rfl
          · rw [approval_promptStep]
            exact .kept rfl rfl rfl
      | approvalAnswer params =>
          simp only [serve]
          split
          · next refused rejected =>
              refine .kept rfl rfl ?_
              simp only [accepts, rejected]
          · next answered granted =>
              rcases ApprovalBridge.eligible_of_answer granted with ⟨pending, found, target⟩
              rw [ApprovalBridge.answer_eq found target,
                ApprovalBridge.settle_eq found] at granted
              cases granted
              exact .answered found target

theorem question_moves (daemon : Daemon) (event : DaemonEvent) :
    QuestionMove daemon event (daemon.perform event).1.question := by
  cases event with
  | connect | host | imageFailed | approvalRequested => exact .kept rfl
  | closed environment clientId => exact .dropped
  | imageSaved prompt attachment messageId =>
      simp only [perform]
      split
      · exact .kept rfl
      · rw [question_promptStep]
        exact .kept rfl
  | approvalResumed environment =>
      simp only [perform]
      split <;> exact .kept rfl
  | aborted environment questionId =>
      simp only [perform, QuestionBridge.abort]
      split
      · next listening =>
          split
          · exact .kept rfl
          · next pending found =>
              rw [QuestionBridge.withdraw, QuestionBridge.close_eq found]
              exact .withdrawn found listening
      · exact .kept rfl
  | asked environment questionId request =>
      simp only [perform]
      split
      · exact .kept rfl
      · next asked granted =>
          simp only [QuestionBridge.ask] at granted
          split at granted
          · cases granted
          · split at granted
            · cases granted
            · next routed =>
                cases granted
                refine .raised (fun nobody => routed ?_) _
                rw [nobody]
                rfl
  | request environment clientId request =>
      simp only [perform]
      cases request with
      | attach | detach | controlRelease => exact .kept rfl
      | cancel | fork | compact | approvalAnswer =>
          simp only [serve]
          split <;> exact .kept rfl
      | prompt session text content messageId =>
          simp only [serve]
          split
          · exact .kept rfl
          · rw [question_promptStep]
            exact .kept rfl
      | questionAnswer params =>
          simp only [serve]
          split
          · exact .kept rfl
          · next answered granted =>
              rcases QuestionBridge.eligible_of_answer granted with ⟨pending, found, target⟩
              rw [QuestionBridge.answer_eq found target, QuestionBridge.settle,
                QuestionBridge.close_eq found] at granted
              cases granted
              exact .answered found target

/-! ## One entry across one event -/

/-- An entry found after an event was there before it and keeps a target, or was
raised by it with somebody to route it to. -/
inductive EntryMove {Params : Type} (daemon : Daemon) (event : DaemonEvent)
    (table : PendingTable Params) (id : String) : Outstanding Params → Prop
  | stayed {before : Outstanding Params} (found : table.get id = some before)
      (kept : ∀ clientId, event.closing = some clientId → ¬before.Orphaned clientId) :
      EntryMove daemon event table id (before.across event)
  | raised {attributed : Option SessionId} {params : Params}
      (raising : (∃ environment request, event = .approvalRequested environment id request) ∨
        ∃ environment request, event = .asked environment id request)
      (routed : daemon.broker.routedTo attributed ≠ []) :
      EntryMove daemon event table id (.raised daemon.broker attributed params)

section Entry

variable {Params : Type} {daemon : Daemon} {event : DaemonEvent} {table : PendingTable Params}
variable {id : String} {after : Outstanding Params}

theorem EntryMove.of_kept (stays : event.closing = none) (found : table.get id = some after) :
    EntryMove daemon event table id after := by
  have unchanged : after.across event = after := by
    cases event with
    | closed environment clientId => cases stays
    | _ => rfl
  rw [← unchanged]
  refine .stayed found fun clientId closing => ?_
  rw [stays] at closing
  cases closing

theorem EntryMove.of_delete {settled : String} (stays : event.closing = none)
    (found : (table.delete settled).get id = some after) :
    EntryMove daemon event table id after := by
  exact .of_kept stays (OrderedMap.of_get_delete found).2

theorem EntryMove.of_dropClient {environment : Environment} {clientId : ClientId}
    (found : (table.dropClient clientId).get id = some after) :
    EntryMove daemon (.closed environment clientId) table id after := by
  rw [PendingTable.get_dropClient] at found
  rcases Option.map_eq_some_iff.mp found with ⟨before, survives, rfl⟩
  rcases Option.filter_eq_some_iff.mp survives with ⟨present, notOrphaned⟩
  have kept : ∀ left, (DaemonEvent.closed environment clientId).closing = some left →
      ¬before.Orphaned left := by
    intro left closing
    cases closing
    exact of_decide_eq_true notOrphaned
  exact .stayed present kept

theorem EntryMove.hasTarget (moved : EntryMove daemon event table id after)
    (had : ∀ before, table.get id = some before → ∃ clientId, clientId ∈ before.targets) :
    ∃ clientId, clientId ∈ after.targets := by
  cases moved with
  | @stayed before found kept =>
      rcases had before found with ⟨clientId, target⟩
      cases event with
      | closed environment left =>
          by_contra nobody
          by_cases same : left ∈ before.targets
          · refine kept left rfl ⟨same, (OrderedSet.isEmpty_iff _).mpr ?_⟩
            exact fun other member => nobody ⟨other, member⟩
          · refine nobody ⟨clientId, (OrderedSet.mem_delete _ _ _).mpr ⟨target, ?_⟩⟩
            exact fun equal => same (equal ▸ target)
      | _ => exact ⟨clientId, target⟩
  | raised raising routed =>
      rcases List.exists_mem_of_ne_nil _ routed with ⟨clientId, member⟩
      exact ⟨clientId, (OrderedSet.mem_ofList _ _).mpr member⟩

end Entry

theorem approval_entry {daemon : Daemon} {event : DaemonEvent} {id : String}
    {after : PendingRequest}
    (found : (daemon.perform event).1.approval.pending.get id = some after) :
    EntryMove daemon event daemon.approval.pending id after := by
  have moved := approval_moves daemon event
  generalize (daemon.perform event).1.approval = bridge at found moved
  cases moved with
  | kept stays => exact .of_kept stays found
  | unroutable nobody => exact .of_kept rfl found
  | answered present target => exact .of_delete rfl found
  | dropped => exact .of_dropClient found
  | resumed queue => exact .of_kept rfl found
  | raised routed =>
      rcases OrderedMap.of_get_set found with ⟨rfl, rfl⟩ | ⟨_, found⟩
      · exact .raised (Or.inl ⟨_, _, rfl⟩) routed
      · exact .of_kept rfl found

theorem question_entry {daemon : Daemon} {event : DaemonEvent} {id : String}
    {after : PendingQuestion}
    (found : (daemon.perform event).1.question.pending.get id = some after) :
    EntryMove daemon event daemon.question.pending id after := by
  have moved := question_moves daemon event
  generalize (daemon.perform event).1.question = bridge at found moved
  cases moved with
  | kept stays => exact .of_kept stays found
  | answered present target => exact .of_delete rfl found
  | withdrawn present listening => exact .of_delete rfl found
  | dropped =>
      rw [QuestionBridge.pending_disconnect] at found
      exact .of_dropClient found
  | raised routed listening =>
      rcases OrderedMap.of_get_set found with ⟨rfl, rfl⟩ | ⟨_, found⟩
      · exact .raised (Or.inr ⟨_, _, rfl⟩) routed
      · exact .of_kept rfl found

end Daemon

end DshRemote.Backend
