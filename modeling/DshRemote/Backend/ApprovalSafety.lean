import DshRemote.Backend.BridgeMoves
import DshRemote.Backend.Eligibility

/-! # Decisions on approvals

A decision is made once, when its request leaves the table or finds nobody to go to,
and returned once, when the handler resumes. It goes back to one accepted answer of
a routed client, or it denies. -/

namespace DshRemote.Backend

namespace Daemon

/-- The decisions returned along a run. -/
def decisions (start : Daemon) (past : List DaemonEvent) :
    List (String × HostApprovalDecision) :=
  Execution.observed step returns start past

/-- The answers accepted along a run. -/
def acceptedAnswers (start : Daemon) (past : List DaemonEvent) :
    List (ClientId × ApprovalAnswerParams) :=
  Execution.observed step accepts start past

/-- The decisions made so far: those returned, and those whose handler has yet to resume. -/
def verdicts (start : Daemon) (past : List DaemonEvent) (daemon : Daemon) :
    List (String × HostApprovalDecision) :=
  decisions start past ++
    daemon.approval.resolved.map fun resolved => (resolved.requestId, resolved.decision)

/-- The decision an answer asks for. -/
def answeredDecision (params : ApprovalAnswerParams) : HostApprovalDecision :=
  ⟨params.decision, params.note⟩

/-! ## The decisions one event makes -/

/-- Why an event makes a decision. -/
inductive Makes (daemon : Daemon) : DaemonEvent → String → HostApprovalDecision → Prop
  | answered {environment : AttachEnvironment} {clientId : ClientId}
      {params : ApprovalAnswerParams} {pending : PendingRequest}
      (found : daemon.approval.pending.get params.requestId = some pending)
      (target : clientId ∈ pending.targets) :
      Makes daemon (.request environment clientId (.approvalAnswer params)) params.requestId
        (answeredDecision params)
  | dropped {environment : Environment} {clientId : ClientId} {id : String}
      {pending : PendingRequest} (found : daemon.approval.pending.get id = some pending)
      (orphaned : pending.Orphaned clientId) :
      Makes daemon (.closed environment clientId) id ApprovalBridge.disconnectedDecision
  | unroutable {environment : Environment} {id : String} {request : HostApprovalRequest}
      (nobody : daemon.broker.routedTo request.sessionId = []) :
      Makes daemon (.approvalRequested environment id request) id
        ⟨.deny, some "unavailable: no frontend attached"⟩

/-- The decisions an event makes, in order. -/
def made (daemon : Daemon) : DaemonEvent → List (String × HostApprovalDecision)
  | .request environment clientId request =>
      (daemon.accepts (.request environment clientId request)).map fun answer =>
        (answer.2.requestId, answeredDecision answer.2)
  | .closed _ clientId =>
      (daemon.approval.pending.orphans clientId).map fun entry =>
        (entry.1, ApprovalBridge.disconnectedDecision)
  | .approvalRequested environment id request =>
      daemon.returns (.approvalRequested environment id request)
  | _ => []

theorem mem_accepts_iff {daemon : Daemon} {event : DaemonEvent} {clientId : ClientId}
    {params : ApprovalAnswerParams} :
    (clientId, params) ∈ daemon.accepts event ↔
      ∃ environment pending, event = .request environment clientId (.approvalAnswer params) ∧
        daemon.approval.pending.get params.requestId = some pending ∧
        clientId ∈ pending.targets := by
  constructor
  · intro accepted
    cases event with
    | request environment other request =>
        cases request with
        | approvalAnswer given =>
            simp only [accepts] at accepted
            split at accepted
            · cases accepted
            · next answered granted =>
                cases List.mem_singleton.mp accepted
                rcases ApprovalBridge.eligible_of_answer granted with ⟨pending, found, target⟩
                exact ⟨environment, pending, rfl, found, target⟩
        | _ => cases accepted
    | _ => cases accepted
  · rintro ⟨environment, pending, rfl, found, target⟩
    simp [accepts, ApprovalBridge.answer_eq found target]

theorem returns_unroutable {daemon : Daemon} {environment : Environment} {id : String}
    {request : HostApprovalRequest} (failClosed : daemon.approval.failClosed = true)
    (nobody : daemon.broker.routedTo request.sessionId = []) :
    daemon.returns (.approvalRequested environment id request) =
      [(id, ⟨.deny, some "unavailable: no frontend attached"⟩)] := by
  simp [returns, ApprovalBridge.handle, nobody, failClosed]

theorem returns_routed {daemon : Daemon} {environment : Environment} {id : String}
    {request : HostApprovalRequest} (routed : daemon.broker.routedTo request.sessionId ≠ []) :
    daemon.returns (.approvalRequested environment id request) = [] := by
  simp [returns, ApprovalBridge.handle, routed]

theorem mem_made_iff {daemon : Daemon} {event : DaemonEvent} {id : String}
    {decision : HostApprovalDecision} (failClosed : daemon.approval.failClosed = true) :
    (id, decision) ∈ daemon.made event ↔ Makes daemon event id decision := by
  constructor
  · intro member
    cases event with
    | request environment clientId request =>
        rcases List.mem_map.mp member with ⟨⟨other, params⟩, accepted, same⟩
        cases same
        rcases mem_accepts_iff.mp accepted with ⟨_, pending, isRequest, found, target⟩
        cases isRequest
        exact .answered found target
    | closed environment clientId =>
        rcases List.mem_map.mp member with ⟨⟨entry, pending⟩, orphan, same⟩
        cases same
        rcases List.mem_filter.mp orphan with ⟨listed, orphaned⟩
        exact .dropped ((OrderedMap.get_eq_some_iff _ _ _).mpr listed)
          (of_decide_eq_true orphaned)
    | approvalRequested environment requestId request =>
        by_cases nobody : daemon.broker.routedTo request.sessionId = []
        · rw [made, returns_unroutable failClosed nobody] at member
          cases List.mem_singleton.mp member
          exact .unroutable nobody
        · rw [made, returns_routed nobody] at member
          cases member
    | _ => cases member
  · intro makes
    cases makes with
    | answered found target =>
        apply List.mem_map.mpr
        exact ⟨(_, _), mem_accepts_iff.mpr ⟨_, _, rfl, found, target⟩, rfl⟩
    | @dropped environment clientId id pending found orphaned =>
        apply List.mem_map.mpr
        refine ⟨(id, pending), List.mem_filter.mpr ⟨?_, decide_eq_true orphaned⟩, rfl⟩
        exact (OrderedMap.get_eq_some_iff _ _ _).mp found
    | unroutable nobody =>
        rw [made, returns_unroutable failClosed nobody]
        exact List.mem_singleton_self _

theorem nodup_made (daemon : Daemon) (event : DaemonEvent) :
    ((daemon.made event).map Prod.fst).Nodup := by
  cases event with
  | request environment clientId request =>
      cases request with
      | approvalAnswer params =>
          simp only [made, accepts]
          split <;> simp
      | _ => exact List.nodup_nil
  | closed environment clientId =>
      simp only [made, List.map_map, Function.comp_def]
      exact daemon.approval.pending.nodup.sublist (List.filter_sublist.map Prod.fst)
  | approvalRequested environment requestId request =>
      simp only [made, returns]
      split <;> simp
  | _ => exact List.nodup_nil

theorem Makes.gone {daemon : Daemon} {event : DaemonEvent} {id : String}
    {decision : HostApprovalDecision} (makes : Makes daemon event id decision)
    (known : daemon.IdsKnown) (possible : daemon.Possible event) :
    (daemon.perform event).1.approval.pending.get id = none := by
  cases makes with
  | answered found target =>
      simp [perform, serve, ApprovalBridge.answer_eq found target,
        ApprovalBridge.settle_eq found]
  | dropped found orphaned =>
      simp only [perform, close, ApprovalBridge.pending_disconnect]
      rw [PendingTable.get_dropClient, found]
      simp [Option.filter, orphaned]
  | @unroutable environment id request nobody =>
      have same : (daemon.perform (.approvalRequested environment id request)).1.approval =
          daemon.approval := by
        simp only [perform, ApprovalBridge.handle, nobody, List.isEmpty_nil, if_true]
        split <;> rfl
      rw [same, Option.eq_none_iff_forall_ne_some]
      exact fun pending found => possible (known.approval id pending found)

theorem exists_makes_of_gone {daemon : Daemon} {event : DaemonEvent} {id : String}
    {pending : PendingRequest} (found : daemon.approval.pending.get id = some pending)
    (gone : (daemon.perform event).1.approval.pending.get id = none) :
    ∃ decision, Makes daemon event id decision := by
  have moved := approval_moves daemon event
  generalize (daemon.perform event).1.approval = bridge at gone moved
  cases moved with
  | kept | unroutable | resumed => cases found.symm.trans gone
  | @answered environment clientId params other present target =>
      by_cases same : id = params.requestId
      · subst same
        exact ⟨_, .answered present target⟩
      · simp only [OrderedMap.get_delete, if_neg same] at gone
        cases found.symm.trans gone
  | @dropped environment clientId =>
      refine ⟨_, .dropped found ?_⟩
      by_contra survives
      simp [PendingTable.get_dropClient, found, Option.filter, survives] at gone
  | raised routed =>
      simp only [OrderedMap.get_set] at gone
      split at gone
      · cases gone
      · cases found.symm.trans gone

/-- Over one event the decisions made so far grow by those the event makes. -/
theorem verdicts_perform {start daemon : Daemon} {past : List DaemonEvent}
    {event : DaemonEvent} (reached : Execution.run step start past = some daemon)
    (possible : daemon.Possible event) :
    List.Perm (verdicts start (past ++ [event]) (daemon.perform event).1)
      (verdicts start past daemon ++ daemon.made event) := by
  have stepped : step daemon event = some (daemon.perform event).1 := if_pos possible
  have returned : decisions start (past ++ [event]) =
      decisions start past ++ daemon.returns event := by
    simp only [decisions]
    rw [Execution.observed_append _ reached, Execution.observed_cons _ stepped]
    simp [Execution.observed]
  rw [verdicts, returned, verdicts]
  have moved := approval_moves daemon event
  generalize (daemon.perform event).1.approval = bridge at moved
  cases moved with
  | kept stays quiet unanswered =>
      have nothing : daemon.made event = [] := by
        cases event with
        | request environment clientId request => rw [made, unanswered, List.map_nil]
        | closed environment clientId => cases stays
        | approvalRequested environment id request => exact quiet
        | _ => rfl
      rw [quiet, nothing, List.append_nil, List.append_nil]
  | unroutable nobody =>
      rw [made, List.append_assoc, List.append_assoc]
      exact List.Perm.append_left _ List.perm_append_comm
  | @answered environment clientId params pending found target =>
      have only : daemon.made (.request environment clientId (.approvalAnswer params)) =
          [(params.requestId, answeredDecision params)] := by
        simp [made, accepts, ApprovalBridge.answer_eq found target]
      rw [only]
      simp [returns, answeredDecision]
  | dropped => simp [returns, made, Function.comp_def]
  | raised routed => rw [made, returns_routed routed, List.append_nil, List.append_nil]
  | @resumed environment next rest queue =>
      have head : daemon.returns (.approvalResumed environment) =
          [(next.requestId, next.decision)] := by
        simp [returns, ApprovalBridge.resume, queue]
      rw [head, queue]
      simp [made]

theorem failClosed_perform (daemon : Daemon) (event : DaemonEvent) :
    (daemon.perform event).1.approval.failClosed = daemon.approval.failClosed := by
  have moved := approval_moves daemon event
  generalize (daemon.perform event).1.approval = bridge at moved
  cases moved <;> rfl

/-! ## Every run -/

/-- Everything the past says about decisions. -/
structure Decided (start : Daemon) (past : List DaemonEvent) (daemon : Daemon) : Prop where
  reached : Execution.run step start past = some daemon
  failClosed : daemon.approval.failClosed = true
  known : daemon.IdsKnown
  once : ((verdicts start past daemon).map Prod.fst).Nodup
  settled : ∀ {id decision}, (id, decision) ∈ verdicts start past daemon →
    id ∈ daemon.issued ∧ daemon.approval.pending.get id = none
  caused : ∀ {id decision}, (id, decision) ∈ verdicts start past daemon ↔
    ∃ first event rest state, past = first ++ event :: rest ∧
      Execution.run step start first = some state ∧ Makes state event id decision
  raised : ∀ {id attributed state}, RaisedIn raisesApproval start past id attributed state →
    daemon.approval.pending.get id ≠ none ∨
      ∃ decision, (id, decision) ∈ verdicts start past daemon

theorem decided_init (sessions : OrderedMap SessionId HostSession)
    (agents : OrderedMap SessionId AgentStatus) (extras : SessionBrokerExtras) :
    Decided (init sessions agents extras true) [] (init sessions agents extras true) where
  reached := rfl
  failClosed := rfl
  known := idsKnown_init sessions agents extras true
  once := List.nodup_nil
  settled := fun member => by cases member
  caused := by
    intro id decision
    constructor
    · intro member
      cases member
    · rintro ⟨first, event, rest, state, split, _⟩
      simp at split
  raised := by
    rintro id attributed state ⟨first, event, rest, split, _⟩
    simp at split

theorem Decided.perform {start daemon : Daemon} {past : List DaemonEvent}
    {event : DaemonEvent} (decided : Decided start past daemon)
    (possible : daemon.Possible event) :
    Decided start (past ++ [event]) (daemon.perform event).1 := by
  have stepped : step daemon event = some (daemon.perform event).1 := if_pos possible
  have grows := verdicts_perform decided.reached possible
  have mem_grown : ∀ entry, entry ∈ verdicts start (past ++ [event]) (daemon.perform event).1 ↔
      entry ∈ verdicts start past daemon ∨ entry ∈ daemon.made event := by
    intro entry
    rw [grows.mem_iff, List.mem_append]
  have issuedGrows : ∀ id, id ∈ daemon.issued → id ∈ (daemon.perform event).1.issued := by
    intro id member
    rw [(ids_perform daemon event).1]
    split <;> simp [member]
  -- A decision is made about a request that was pending, or whose id is new.
  have apart : ∀ {id earlier decision}, (id, earlier) ∈ verdicts start past daemon →
      Makes daemon event id decision → False := by
    intro id earlier decision before makes
    rcases decided.settled before with ⟨issued, absent⟩
    cases makes with
    | answered found target => cases found.symm.trans absent
    | dropped found orphaned => cases found.symm.trans absent
    | unroutable nobody => exact possible issued
  have makesIssued : ∀ {id decision}, Makes daemon event id decision →
      id ∈ (daemon.perform event).1.issued := by
    intro id decision makes
    cases makes with
    | answered found target => exact issuedGrows _ (decided.known.approval _ _ found)
    | dropped found orphaned => exact issuedGrows _ (decided.known.approval _ _ found)
    | unroutable nobody =>
        rw [(ids_perform _ _).1]
        simp
  refine ⟨Execution.run_snoc decided.reached stepped, ?_, decided.known.perform event, ?_, ?_, ?_,
    ?_⟩
  · rw [failClosed_perform]
    exact decided.failClosed
  · rw [(grows.map Prod.fst).nodup_iff, List.map_append, List.nodup_append]
    refine ⟨decided.once, nodup_made daemon event, ?_⟩
    rintro id before _ after rfl
    rcases List.mem_map.mp before with ⟨⟨_, earlier⟩, member, rfl⟩
    rcases List.mem_map.mp after with ⟨⟨_, decision⟩, makes, same⟩
    cases same
    exact apart member ((mem_made_iff decided.failClosed).mp makes)
  · intro id decision member
    rcases (mem_grown _).mp member with before | now
    · rcases decided.settled before with ⟨issued, absent⟩
      refine ⟨issuedGrows id issued, ?_⟩
      rw [Option.eq_none_iff_forall_ne_some]
      intro pending found
      rcases approval_perform found with ⟨earlier, present, _⟩ | ⟨environment, request, rfl, _⟩
      · cases present.symm.trans absent
      · exact possible issued
    · have makes := (mem_made_iff decided.failClosed).mp now
      exact ⟨makesIssued makes, makes.gone decided.known possible⟩
  · intro id decision
    rw [mem_grown, decided.caused, mem_made_iff decided.failClosed]
    constructor
    · rintro (⟨first, other, rest, state, rfl, reached, makes⟩ | makes)
      · exact ⟨first, other, rest ++ [event], state, by simp, reached, makes⟩
      · exact ⟨past, event, [], daemon, rfl, decided.reached, makes⟩
    · rintro ⟨first, other, rest, state, split, reached, makes⟩
      rcases List.eq_nil_or_concat rest with rfl | ⟨front, final, rfl⟩
      · rcases List.append_inj' split rfl with ⟨rfl, same⟩
        cases same
        cases reached.symm.trans decided.reached
        exact Or.inr makes
      · have before : past ++ [event] = (first ++ other :: front) ++ [final] := by
          simpa using split
        rcases List.append_inj' before rfl with ⟨rfl, _⟩
        exact Or.inl ⟨first, other, front, state, rfl, reached, makes⟩
  · intro id attributed state raised
    rcases raised.cases_snoc decided.reached with earlier | ⟨rfl, raising⟩
    · rcases decided.raised earlier with present | ⟨decision, member⟩
      · rcases Option.ne_none_iff_exists'.mp present with ⟨pending, found⟩
        by_cases gone : (daemon.perform event).1.approval.pending.get id = none
        · rcases exists_makes_of_gone found gone with ⟨decision, makes⟩
          refine Or.inr ⟨decision, (mem_grown _).mpr (Or.inr ?_)⟩
          exact (mem_made_iff decided.failClosed).mpr makes
        · exact Or.inl gone
      · exact Or.inr ⟨decision, (mem_grown _).mpr (Or.inl member)⟩
    · cases event with
      | approvalRequested environment requestId request =>
          cases raising
          by_cases nobody : state.broker.routedTo request.sessionId = []
          · have denied := (mem_made_iff decided.failClosed).mpr
              (@Makes.unroutable state environment id request nobody)
            exact Or.inr ⟨_, (mem_grown _).mpr (Or.inr denied)⟩
          · left
            simp only [Daemon.perform, ApprovalBridge.handle, List.isEmpty_iff, nobody,
              if_false, OrderedMap.get_set_self]
            exact Option.some_ne_none _
      | _ => cases raising

theorem reachable_decided {sessions : OrderedMap SessionId HostSession}
    {agents : OrderedMap SessionId AgentStatus} {extras : SessionBrokerExtras}
    {past : List DaemonEvent} {daemon : Daemon}
    (reached : Execution.run step (init sessions agents extras true) past = some daemon) :
    Decided (init sessions agents extras true) past daemon := by
  refine Execution.history_invariant (Decided (init sessions agents extras true))
    (decided_init sessions agents extras) ?_ reached
  intro before state event after decided stepped
  rcases step_eq_some stepped with ⟨possible, rfl⟩
  exact decided.perform possible

theorem reachable_hasTarget {sessions : OrderedMap SessionId HostSession}
    {agents : OrderedMap SessionId AgentStatus} {extras : SessionBrokerExtras}
    {failClosed : Bool} {past : List DaemonEvent} {daemon : Daemon}
    (reached : Execution.run step (init sessions agents extras failClosed) past =
      some daemon) :
    ∀ id pending, daemon.approval.pending.get id = some pending →
      ∃ clientId, clientId ∈ pending.targets := by
  refine Execution.reachable_invariant (fun state => ∀ id pending,
    state.approval.pending.get id = some pending → ∃ clientId, clientId ∈ pending.targets) ?_ ?_
    reached
  · intro before event after had stepped id pending found
    rcases step_eq_some stepped with ⟨_, rfl⟩
    exact (approval_entry found).hasTarget fun earlier present => had id earlier present
  · intro id pending found
    cases found

/-- What is promised of remote approvals after a run. -/
structure FirstAnswerDecides (start : Daemon) (past : List DaemonEvent) (daemon : Daemon) :
    Prop where
  /-- A request is decided at most once, whether or not its handler has returned yet. -/
  once : ((verdicts start past daemon).map Prod.fst).Nodup
  /-- An approval goes back to an approving answer of a connected client that the request
  was routed to. -/
  approved : ∀ id note, (id, ⟨.approve, note⟩) ∈ verdicts start past daemon →
    ∃ first environment clientId rest state,
      past = first ++ .request environment clientId (.approvalAnswer ⟨id, .approve, note⟩) :: rest ∧
        Execution.run step start first = some state ∧
        clientId ∈ state.broker.connections ∧
        ∃ attributed raisedAt, RaisedIn raisesApproval start first id attributed raisedAt ∧
          clientId ∈ raisedAt.broker.routedTo attributed
  /-- The first accepted answer is the decision, and every later answer is rejected. -/
  decides : ∀ first event rest state clientId params, past = first ++ event :: rest →
    Execution.run step start first = some state →
    (clientId, params) ∈ state.accepts event →
      (∀ decision, (params.requestId, decision) ∈ verdicts start past daemon ↔
        decision = answeredDecision params) ∧
      ∀ environment other decision note,
        daemon.approval.answer environment daemon.broker other
            ⟨params.requestId, decision, note⟩ =
          .error (PendingTable.unknownRequest "approval" params.requestId)
  /-- A request nobody can be routed is denied at once. -/
  unroutable : ∀ first environment id request rest state,
    past = first ++ .approvalRequested environment id request :: rest →
    Execution.run step start first = some state →
    state.broker.routedTo request.sessionId = [] →
      ∃ note, state.returns (.approvalRequested environment id request) = [(id, ⟨.deny, note⟩)]
  /-- A request that is not answered before all its targets have disconnected is denied. -/
  abandoned : ∀ id attributed raisedAt, RaisedIn raisesApproval start past id attributed raisedAt →
    (∀ clientId ∈ raisedAt.broker.routedTo attributed, clientId ∉ daemon.broker.connections) →
    (∀ answer ∈ acceptedAnswers start past, answer.2.requestId ≠ id) →
      ∃ note, (id, ⟨.deny, note⟩) ∈ verdicts start past daemon

theorem eq_of_mem_of_nodup {Key Value : Type} {entries : List (Key × Value)}
    (nodup : (entries.map Prod.fst).Nodup) {key : Key} {left right : Value}
    (first : (key, left) ∈ entries) (second : (key, right) ∈ entries) : left = right := by
  have same := List.inj_on_of_nodup_map nodup first second rfl
  exact congrArg Prod.snd same

/-- In every run of a fail-closed backend, over all interleavings of requests, answers,
attaches, preemptions and disconnects: the first accepted answer decides. -/
theorem reachable_firstAnswerDecides (sessions : OrderedMap SessionId HostSession)
    (agents : OrderedMap SessionId AgentStatus) (extras : SessionBrokerExtras)
    (past : List DaemonEvent) (daemon : Daemon)
    (reached : Execution.run step (init sessions agents extras true) past = some daemon) :
    FirstAnswerDecides (init sessions agents extras true) past daemon := by
  have decided := reachable_decided reached
  refine ⟨decided.once, ?_, ?_, ?_, ?_⟩
  · intro id note member
    rcases decided.caused.mp member with ⟨first, event, rest, state, rfl, stateReached, makes⟩
    generalize isDecision : (⟨.approve, note⟩ : HostApprovalDecision) = decision at makes
    cases makes with
    | @answered environment clientId params pending found target =>
        have traced := reachable_traced filledBy_approval stateReached
        rcases traced.entry found with ⟨_, attributed, raisedAt, raised⟩
        have routed := ((traced.past raised).2.2 pending found clientId).mp target
        rcases params with ⟨requestId, decision, given⟩
        cases isDecision
        exact ⟨first, environment, clientId, rest, state, rfl, stateReached, routed.2, attributed,
          raisedAt, raised, routed.1⟩
    | dropped found orphaned => cases isDecision
    | unroutable nobody => cases isDecision
  · intro first event rest state clientId params split stateReached accepted
    rcases mem_accepts_iff.mp accepted with ⟨environment, pending, rfl, found, target⟩
    have member : (params.requestId, answeredDecision params) ∈ verdicts _ past daemon :=
      decided.caused.mpr ⟨first, _, rest, state, split, stateReached, .answered found target⟩
    constructor
    · intro decision
      constructor
      · intro other
        exact eq_of_mem_of_nodup decided.once other member
      · rintro rfl
        exact member
    · intro later other decision note
      simp only [ApprovalBridge.answer, PendingTable.answerable, (decided.settled member).2]
  · intro first environment id request rest state split stateReached nobody
    exact ⟨_, returns_unroutable (reachable_decided stateReached).failClosed nobody⟩
  · intro id attributed raisedAt raised departed unanswered
    rcases decided.raised raised with present | ⟨decision, member⟩
    · -- A pending request has a target, and its targets are routed and connected.
      exfalso
      rcases Option.ne_none_iff_exists'.mp present with ⟨pending, found⟩
      have traced := reachable_traced filledBy_approval reached
      have targets := (traced.past raised).2.2 pending found
      rcases reachable_hasTarget reached id pending found with ⟨clientId, target⟩
      rcases (targets clientId).mp target with ⟨routed, connected⟩
      exact departed clientId routed connected
    · rcases decided.caused.mp member with ⟨first, event, rest, state, rfl, stateReached, makes⟩
      cases makes with
      | dropped found orphaned => exact ⟨_, member⟩
      | unroutable nobody => exact ⟨_, member⟩
      | @answered environment clientId params pending found target =>
          exfalso
          refine unanswered (clientId, params) ?_ rfl
          apply Execution.mem_observed stateReached
          exact mem_accepts_iff.mpr ⟨environment, pending, rfl, found, target⟩

/-- Two readers, an approval request, and two answers of which the second comes late. -/
def answeredTwice : List DaemonEvent :=
  [.connect "a", .connect "b",
    .request {} "a" (.attach { sessionId := "s", mode := .read }),
    .request {} "b" (.attach { sessionId := "s", mode := .read }),
    .approvalRequested {} "r" { sessionId := some "s", kind := "exec", summary := "" },
    .request {} "a" (.approvalAnswer { requestId := "r", decision := .approve }),
    .request {} "b" (.approvalAnswer { requestId := "r", decision := .deny }),
    .approvalResumed {}]

theorem reachable_firstAnswerDecides_answeredTwice :
    ∃ daemon, Execution.run step (init liveSession .empty {} true) answeredTwice = some daemon ∧
      decisions (init liveSession .empty {} true) answeredTwice = [("r", ⟨.approve, none⟩)] ∧
      FirstAnswerDecides (init liveSession .empty {} true) answeredTwice daemon :=
  Exists.intro _ (And.intro rfl (And.intro (by decide)
    (reachable_firstAnswerDecides liveSession .empty {} answeredTwice _ rfl)))

end Daemon

end DshRemote.Backend
