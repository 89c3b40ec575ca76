import DshRemote.Backend.QuestionSafety

/-! # Every ask settles once

An ask is decided by one event, and a decided ask is told to its losers and settled. An
ask whose signal has fired is shown to nobody, unless the signal fires while the ask is
being shown. -/

namespace DshRemote.Backend

namespace QuestionRun

/-! ## What decides an ask -/

/-- Why an event decides an ask, and how. -/
inductive Decides (run : QuestionRun) : QuestionEvent → String → AskOutcome → Prop
  | abortedBefore {id : String} {request : HostQuestionRequest} {signal : Option SignalId}
      (shown : request.signal = some true) :
      Decides run (.ask id request signal) id (.error abortedError)
  | unavailable {id : String} {request : HostQuestionRequest} {signal : Option SignalId}
      (notShown : request.signal ≠ some true)
      (nobody : run.broker.routedTo request.sessionId = []) :
      Decides run (.ask id request signal) id (.error unavailableError)
  | abortedMeanwhile {environment : Environment} {id : String} {request : HostQuestionRequest}
      {signal : Option SignalId} {targets : List ClientId} {outer : List Call}
      (calls : run.calls = .asking id request signal targets :: outer)
      (aborted : run.IsAborted signal) :
      Decides run (.advance environment) id (.error abortedError)
  | aborted {environment : Environment} {id : String} {listeners : List String}
      {outer : List Call} (calls : run.calls = .dispatching (id :: listeners) :: outer)
      (listens : id ∈ run.bridge.listening) :
      Decides run (.advance environment) id (.error abortedError)
  | disposed {environment : Environment} {id : String} {remaining : List String}
      {outer : List Call} (calls : run.calls = .disposing (id :: remaining) :: outer)
      (pending : run.bridge.pending.has id = true) :
      Decides run (.advance environment) id (.error disposedError)
  | answered {clientId : ClientId} {params : QuestionAnswerParams} {pending : PendingQuestion}
      (found : run.bridge.pending.get params.questionId = some pending)
      (target : clientId ∈ pending.targets) :
      Decides run (.answer clientId params) params.questionId (.ok params.answers)
  | disconnected {environment : Environment} {clientId : ClientId} {id : String}
      {pending : PendingQuestion} (found : run.bridge.pending.get id = some pending)
      (orphaned : pending.Orphaned clientId) :
      Decides run (.disconnect environment clientId) id (.error disconnectedError)

/-- The asks an event decides. -/
def decides (run : QuestionRun) : QuestionEvent → List (String × AskOutcome)
  | .ask id request _ =>
      if request.signal = some true then [(id, .error abortedError)]
      else if run.broker.routedTo request.sessionId = [] then [(id, .error unavailableError)]
      else []
  | .advance _ =>
      match run.calls with
      | .asking id _ signal _ :: _ =>
          if run.IsAborted signal then [(id, .error abortedError)] else []
      | .dispatching (id :: _) :: _ =>
          if id ∈ run.bridge.listening then [(id, .error abortedError)] else []
      | .disposing (id :: _) :: _ =>
          if run.bridge.pending.has id then [(id, .error disposedError)] else []
      | _ => []
  | .answer clientId params =>
      match run.bridge.pending.answerable "question" clientId params.questionId with
      | .error _ => []
      | .ok _ => [(params.questionId, .ok params.answers)]
  | .disconnect _ clientId =>
      (run.bridge.pending.orphans clientId).map fun entry => (entry.1, .error disconnectedError)
  | .abort _ | .dispose | .broker _ => []

theorem mem_decides_iff {run : QuestionRun} {event : QuestionEvent} {id : String}
    {outcome : AskOutcome} : (id, outcome) ∈ run.decides event ↔ Decides run event id outcome := by
  constructor
  · intro member
    cases event with
    | ask questionId request signal =>
        simp only [decides] at member
        split at member
        · next shown =>
            cases List.mem_singleton.mp member
            exact .abortedBefore shown
        · next notShown =>
            split at member
            · next nobody =>
                cases List.mem_singleton.mp member
                exact .unavailable notShown nobody
            · cases member
    | advance environment =>
        simp only [decides] at member
        split at member
        · next calls =>
            split at member
            · next aborted =>
                cases List.mem_singleton.mp member
                exact .abortedMeanwhile calls aborted
            · cases member
        · next calls =>
            split at member
            · next listens =>
                cases List.mem_singleton.mp member
                exact .aborted calls listens
            · cases member
        · next calls =>
            split at member
            · next pending =>
                cases List.mem_singleton.mp member
                exact .disposed calls pending
            · cases member
        · cases member
    | answer clientId params =>
        simp only [decides] at member
        split at member
        · cases member
        · next pending granted =>
            rcases (PendingTable.answerable_ok_iff _ _ _ _ _).mp granted with ⟨found, target⟩
            cases List.mem_singleton.mp member
            exact .answered found target
    | disconnect environment clientId =>
        rcases List.mem_map.mp member with ⟨⟨_, pending⟩, listed, same⟩
        cases same
        rcases List.mem_filter.mp listed with ⟨present, orphaned⟩
        exact .disconnected ((OrderedMap.get_eq_some_iff _ _ _).mpr present)
          (of_decide_eq_true orphaned)
    | _ => cases member
  · intro decided
    cases decided with
    | abortedBefore shown => simp [decides, shown]
    | unavailable notShown nobody => simp [decides, notShown, nobody]
    | abortedMeanwhile calls aborted => simp [decides, calls, aborted]
    | aborted calls listens => simp [decides, calls, listens]
    | disposed calls pending => simp only [decides, calls, pending, if_true, List.mem_singleton]
    | answered found target =>
        simp [decides, (PendingTable.answerable_ok_iff "question" _ _ _ _).mpr ⟨found, target⟩]
    | @disconnected environment clientId id pending found orphaned =>
        apply List.mem_map.mpr
        refine ⟨(id, pending), List.mem_filter.mpr ⟨?_, decide_eq_true orphaned⟩, rfl⟩
        exact (OrderedMap.get_eq_some_iff _ _ _).mp found

theorem decided_withdrawPending (run : QuestionRun) (questionId error : String) :
    (run.withdrawPending questionId error).decided.Perm
      (run.decided ++ if run.bridge.pending.has questionId then
        [(questionId, .error error)] else []) := by
  cases found : run.bridge.pending.get questionId with
  | none => simp [withdrawPending, OrderedMap.has, found]
  | some pending =>
      have present : run.bridge.pending.has questionId = true := by simp [OrderedMap.has, found]
      simp only [withdrawPending, found, withdraw]
      rw [close_eq present, if_pos present]
      exact (List.perm_append_singleton _ _).symm

theorem decided_perform {run : QuestionRun} (sound : run.Sound) (event : QuestionEvent) :
    (run.perform event).1.decided.Perm (run.decided ++ run.decides event) := by
  cases event with
  | ask questionId request signal =>
      simp only [QuestionRun.perform, ask, decides]
      split
      · simp [decided, promise]
      · simp only [List.isEmpty_iff]
        split
        · simp [decided, promise]
        · simp [decided, Call.tells]
  | advance environment =>
      simp only [QuestionRun.perform, QuestionRun.advance, decides]
      split
      · next calls => simp [calls]
      · next questionId request signal targets outer calls =>
          simp only [calls]
          by_cases aborted : run.IsAborted signal
          · simp only [QuestionRun.register, aborted, if_true, withdraw]
            rw [close_eq (by simp [OrderedMap.has]), decided, decided, calls]
            exact (List.perm_append_singleton _ _).symm
          · simp [QuestionRun.register, aborted, decided, calls, Call.tells]
      · next calls =>
          simp only [calls]
          split
          · split <;> simp [decided, calls, Call.tells]
          · simp [decided, calls, Call.tells]
      · next calls => simp [decided, calls, Call.tells]
      · next calls => simp [decided, calls, Call.tells]
      · next calls =>
          simp only [calls]
          simp [decided, promise, calls, Call.tells, ← List.append_assoc]
      · next calls => simp [decided, calls, Call.tells]
      · next calls => simp [decided, calls, Call.tells]
      · next questionId listeners outer calls =>
          simp only [calls]
          split
          · next listens =>
              have grown := decided_withdrawPending
                { run with calls := .dispatching listeners :: outer } questionId abortedError
              rw [if_pos (sound.listens questionId listens)] at grown
              simpa [decided, calls, Call.tells] using grown
          · simp [decided, calls, Call.tells]
      · next calls => simp [decided, calls, Call.tells]
      · next questionId remaining outer calls =>
          simp only [calls]
          have grown := decided_withdrawPending
            { run with calls := .disposing remaining :: outer } questionId disposedError
          simpa only [decided, calls, List.flatMap_cons, Call.tells, List.nil_append] using grown
  | answer clientId params =>
      simp only [QuestionRun.perform, answer, decides]
      cases granted : run.bridge.pending.answerable "question" clientId params.questionId with
      | error refused => simp
      | ok pending =>
          rcases (PendingTable.answerable_ok_iff _ _ _ _ _).mp granted with ⟨found, _⟩
          simp only [settle]
          rw [close_eq ((OrderedMap.has_eq_true_iff _ _).mpr ⟨pending, found⟩)]
          exact (List.perm_append_singleton _ _).symm
  | disconnect environment clientId =>
      simp [QuestionRun.perform, decided, decides, QuestionBridge.disconnect_eq,
        disconnectedError]
  | abort signal => simp [QuestionRun.perform, decided, decides, Call.tells]
  | dispose => simp [QuestionRun.perform, decided, decides, Call.tells]
  | broker event => simp [QuestionRun.perform, decided, decides]

theorem has_delete_other {bridge : QuestionBridge} {id other : String} (apart : other ≠ id)
    (pending : bridge.pending.has id = true) :
    OrderedMap.has (bridge.pending.delete other) id = true := by
  rw [OrderedMap.has, OrderedMap.get_delete_other _ (Ne.symm apart)]
  exact pending

theorem pending_withdrawPending {run : QuestionRun} {questionId id : String}
    (apart : questionId ≠ id) (pending : run.bridge.pending.has id = true) (error : String) :
    (run.withdrawPending questionId error).bridge.pending.has id = true ∧
      (run.withdrawPending questionId error).doomed = run.doomed := by
  cases found : run.bridge.pending.get questionId with
  | none => simp only [withdrawPending, found, pending, and_self]
  | some entry =>
      have present : run.bridge.pending.has questionId = true := by simp [OrderedMap.has, found]
      simp only [withdrawPending, found, withdraw]
      rw [close_eq present]
      exact ⟨has_delete_other apart pending, rfl⟩

/-- A pending question is decided, or stays pending and in the reach of every `dispose`
that was to come to it. -/
theorem pending_perform {run : QuestionRun} (sound : run.Sound) {event : QuestionEvent}
    (possible : run.Possible event) {id : String} (pending : run.bridge.pending.has id = true) :
    (∃ outcome, Decides run event id outcome) ∨
      ((run.perform event).1.bridge.pending.has id = true ∧
        (id ∈ run.doomed → id ∈ (run.perform event).1.doomed)) := by
  rcases sound.of_pending pending with ⟨issued, notAsked, _⟩
  cases event with
  | ask questionId request signal =>
      right
      simp only [QuestionRun.perform, ask]
      split
      · exact ⟨pending, fun member => member⟩
      · split
        · exact ⟨pending, fun member => member⟩
        · exact ⟨pending, fun member => member⟩
  | advance environment =>
      simp only [QuestionRun.perform, QuestionRun.advance]
      split
      · exact Or.inr ⟨pending, fun member => member⟩
      · next questionId request signal targets outer calls =>
          right
          have apart : questionId ≠ id := by
            rintro rfl
            apply notAsked
            rw [asked, calls]
            exact List.mem_cons_self
          have still : OrderedMap.has (run.bridge.pending.set questionId
              { sessionId := request.sessionId, targets := .ofList targets
                params := QuestionBridge.requestParams questionId request }) id = true := by
            rw [OrderedMap.has, OrderedMap.get_set_other _ _ (Ne.symm apart)]
            exact pending
          by_cases aborted : run.IsAborted signal
          · simp only [QuestionRun.register, aborted, if_true, withdraw]
            rw [close_eq (by simp [OrderedMap.has])]
            refine ⟨?_, by simp [doomed, calls, Call.disposes]⟩
            rw [OrderedMap.has, OrderedMap.get_delete_other _ (Ne.symm apart)]
            exact still
          · simp only [QuestionRun.register, aborted, if_false]
            exact ⟨still, by simp [doomed, calls, Call.disposes]⟩
      · next questionId params targets outer calls =>
          right
          split
          · split <;> exact ⟨pending, by simp [doomed, calls, Call.disposes]⟩
          · exact ⟨pending, by simp [doomed, calls, Call.disposes]⟩
      · next calls => exact Or.inr ⟨pending, by simp [doomed, calls, Call.disposes]⟩
      · next calls => exact Or.inr ⟨pending, by simp [doomed, calls, Call.disposes]⟩
      · next calls => exact Or.inr ⟨pending, by simp [doomed, promise, calls, Call.disposes]⟩
      · next calls => exact Or.inr ⟨pending, by simp [doomed, calls, Call.disposes]⟩
      · next calls => exact Or.inr ⟨pending, by simp [doomed, calls, Call.disposes]⟩
      · next questionId listeners outer calls =>
          split
          · next listens =>
              by_cases same : questionId = id
              · subst same
                exact Or.inl ⟨_, .aborted calls listens⟩
              · right
                rcases @pending_withdrawPending
                  { run with calls := .dispatching listeners :: outer } _ _ same pending
                  abortedError with
                  ⟨still, doomedSame⟩
                refine ⟨still, fun member => ?_⟩
                rw [doomedSame]
                simpa [doomed, calls, Call.disposes] using member
          · exact Or.inr ⟨pending, by simp [doomed, calls, Call.disposes]⟩
      · next calls => exact Or.inr ⟨pending, by simp [doomed, calls, Call.disposes]⟩
      · next questionId remaining outer calls =>
          by_cases same : questionId = id
          · subst same
            exact Or.inl ⟨_, .disposed calls pending⟩
          · right
            rcases @pending_withdrawPending
              { run with calls := .disposing remaining :: outer } _ _ same pending
              disposedError with
              ⟨still, doomedSame⟩
            refine ⟨still, fun member => ?_⟩
            rw [doomedSame]
            simpa [doomed, calls, Call.disposes, Ne.symm same] using member
  | answer clientId params =>
      simp only [QuestionRun.perform, answer]
      cases granted : run.bridge.pending.answerable "question" clientId params.questionId with
      | error refused => exact Or.inr ⟨pending, fun member => member⟩
      | ok entry =>
          rcases (PendingTable.answerable_ok_iff _ _ _ _ _).mp granted with ⟨found, target⟩
          by_cases same : params.questionId = id
          · subst same
            exact Or.inl ⟨_, .answered found target⟩
          · right
            simp only [settle]
            rw [close_eq ((OrderedMap.has_eq_true_iff _ _).mpr ⟨entry, found⟩)]
            exact ⟨has_delete_other same pending, fun member => member⟩
  | disconnect environment clientId =>
      by_cases orphan : id ∈ (run.bridge.pending.orphans clientId).map Prod.fst
      · rcases mem_orphans.mp orphan with ⟨entry, found, orphaned⟩
        exact Or.inl ⟨_, .disconnected found orphaned⟩
      · refine Or.inr ⟨?_, fun member => member⟩
        simp only [QuestionRun.perform, QuestionBridge.disconnect_eq]
        exact (has_dropClient run.bridge clientId id).mpr ⟨pending, orphan⟩
  | abort signal => exact Or.inr ⟨pending, fun member => member⟩
  | dispose => exact Or.inr ⟨pending, fun member => List.mem_append_right _ member⟩
  | broker event => exact Or.inr ⟨pending, fun member => member⟩

/-! ## What an event leaves alone -/

theorem close_fields (run : QuestionRun) (questionId : String) (pending : PendingQuestion)
    (outcome : AskOutcome) (winner : Option ClientId) :
    (run.close questionId pending outcome winner).signals = run.signals ∧
      (run.close questionId pending outcome winner).aborted = run.aborted ∧
      (run.close questionId pending outcome winner).issued = run.issued := by
  simp only [close]
  split <;> exact ⟨rfl, rfl, rfl⟩

theorem withdrawPending_fields (run : QuestionRun) (questionId error : String) :
    (run.withdrawPending questionId error).signals = run.signals ∧
      (run.withdrawPending questionId error).aborted = run.aborted ∧
      (run.withdrawPending questionId error).issued = run.issued := by
  simp only [withdrawPending]
  split
  · exact ⟨rfl, rfl, rfl⟩
  · exact close_fields _ _ _ _ _

theorem advance_fields (run : QuestionRun) :
    run.advance.signals = run.signals ∧ run.advance.aborted = run.aborted ∧
      run.advance.issued = run.issued := by
  simp only [QuestionRun.advance]
  split
  · exact ⟨rfl, rfl, rfl⟩
  · simp only [QuestionRun.register]
    split
    · exact close_fields _ _ _ _ _
    · exact ⟨rfl, rfl, rfl⟩
  · split
    · split <;> exact ⟨rfl, rfl, rfl⟩
    · exact ⟨rfl, rfl, rfl⟩
  · exact ⟨rfl, rfl, rfl⟩
  · exact ⟨rfl, rfl, rfl⟩
  · exact ⟨rfl, rfl, rfl⟩
  · exact ⟨rfl, rfl, rfl⟩
  · exact ⟨rfl, rfl, rfl⟩
  · split
    · exact withdrawPending_fields _ _ _
    · exact ⟨rfl, rfl, rfl⟩
  · exact ⟨rfl, rfl, rfl⟩
  · exact withdrawPending_fields _ _ _

theorem issued_perform {run : QuestionRun} {event : QuestionEvent}
    (possible : run.Possible event) {id : String} (issued : id ∈ run.issued) :
    id ∈ (run.perform event).1.issued ∧
      (run.perform event).1.signals.get id = run.signals.get id := by
  cases event with
  | ask questionId request signal =>
      have apart : id ≠ questionId := fun same => possible.2.2.1 (same ▸ issued)
      have stays : id ∈ run.issued.add questionId := (OrderedSet.mem_add _ _ _).mpr (Or.inl issued)
      have signalStays (shown : SignalId) :
          (run.signals.set questionId shown).get id = run.signals.get id :=
        OrderedMap.get_set_other _ _ apart
      simp only [QuestionRun.perform, ask]
      cases signal with
      | none =>
          split
          · exact ⟨stays, rfl⟩
          · split <;> exact ⟨stays, rfl⟩
      | some shown =>
          split
          · exact ⟨stays, signalStays shown⟩
          · split <;> exact ⟨stays, signalStays shown⟩
  | advance environment =>
      simp only [QuestionRun.perform, advance_fields]
      exact ⟨issued, trivial⟩
  | answer clientId params =>
      simp only [QuestionRun.perform, answer]
      cases run.bridge.pending.answerable "question" clientId params.questionId with
      | error refused => exact ⟨issued, rfl⟩
      | ok pending =>
          simp only [settle, close_fields]
          exact ⟨issued, trivial⟩
  | _ => exact ⟨issued, rfl⟩

/-- A question that is no longer being asked does not come to be asked or pending again. -/
theorem asked_perform {run : QuestionRun} (sound : run.Sound) {event : QuestionEvent}
    (possible : run.Possible event) {id : String} (issued : id ∈ run.issued)
    (notAsked : id ∉ run.asked) :
    id ∉ (run.perform event).1.asked ∧
      ((run.perform event).1.bridge.pending.has id = true →
        run.bridge.pending.has id = true) := by
  have soundAfter := sound.perform possible
  have decidedAfter : id ∈ run.decided.map Prod.fst ∨ (∃ outcome, Decides run event id outcome) →
      id ∈ (run.perform event).1.decided.map Prod.fst := by
    rw [((decided_perform sound event).map Prod.fst).mem_iff, List.map_append, List.mem_append]
    refine Or.imp_right ?_
    rintro ⟨outcome, decides⟩
    exact List.mem_map.mpr ⟨_, mem_decides_iff.mpr decides, rfl⟩
  by_cases pending : run.bridge.pending.has id = true
  · refine ⟨fun asked => ?_, fun _ => pending⟩
    rcases soundAfter.of_asked asked with ⟨_, notPending, notDecided⟩
    rcases pending_perform sound possible pending with decides | ⟨still, _⟩
    · exact notDecided (decidedAfter (Or.inr decides))
    · rw [notPending] at still
      cases still
  · have decided : id ∈ run.decided.map Prod.fst := by
      have once := sound.once id
      rw [standing, if_neg pending, if_pos issued, List.count_eq_zero.mpr notAsked] at once
      exact List.count_pos_iff.mp (by omega)
    constructor
    · intro asked
      exact (soundAfter.of_asked asked).2.2 (decidedAfter (Or.inl decided))
    · intro present
      exact absurd (decidedAfter (Or.inl decided)) (soundAfter.of_pending present).2.2

/-! ## Showing a question -/

/-- The signal of a question fires inside a notification of that question, and another
client has yet to be notified. -/
def AbortsFanOut (run : QuestionRun) : QuestionEvent → Prop
  | .abort signal => ∃ id params clientId remaining,
      .surfacing id params (clientId :: remaining) ∈ run.calls ∧
        run.signals.get id = some signal
  | _ => False

/-- A question that is about to be shown, or has a client left to be shown to, is not
aborted. -/
structure Current (run : QuestionRun) : Prop where
  named : ∀ call ∈ run.calls, ∀ id params, (id, params) ∈ call.shows →
    params.questionId = id ∧ id ∈ run.issued ∧ id ∉ run.asked
  surfacing : ∀ id params clientId remaining,
    .surfacing id params (clientId :: remaining) ∈ run.calls →
      ¬run.IsAborted (run.signals.get id)
  registered : ∀ id params targets, run.calls.head? = some (.registered id params targets) →
    run.bridge.pending.has id = true → ¬run.IsAborted (run.signals.get id)
  /-- Only the innermost call has the registration just behind it. -/
  inner : ∀ id params targets, .registered id params targets ∈ run.calls.tail →
    run.bridge.pending.has id = false

theorem current_init (broker : SessionBroker) : (init broker).Current := by
  constructor <;> simp [init]

section Showing

variable {run next : QuestionRun}

theorem isAborted_iff {signal : Option SignalId} (aborted : next.aborted = run.aborted) :
    next.IsAborted signal ↔ run.IsAborted signal := by
  simp only [IsAborted, aborted]

/-- What was asked stays asked under its signal, and is not asked or pending again. -/
structure Follows (run next : QuestionRun) : Prop where
  stays : ∀ id ∈ run.issued, id ∈ next.issued ∧ next.signals.get id = run.signals.get id
  asked : ∀ id ∈ run.issued, id ∉ run.asked → id ∉ next.asked ∧
    (next.bridge.pending.has id = true → run.bridge.pending.has id = true)

/-- The innermost calls are replaced: what is left under them is no registration that
still counts. -/
structure Replaces (run next : QuestionRun) (extra kept : List Call) : Prop
    extends Follows run next where
  within : kept ⊆ run.calls
  calls : next.calls = extra ++ kept
  gone : ∀ id params targets, .registered id params targets ∈ kept →
    run.bridge.pending.has id = false
  unaborted : ∀ id params clientId remaining, .surfacing id params (clientId :: remaining) ∈ kept →
    ¬run.IsAborted (run.signals.get id) → ¬next.IsAborted (run.signals.get id)

theorem Current.of_kept (current : run.Current) (calls : next.calls = run.calls)
    (aborted : next.aborted = run.aborted) (follows : Follows run next) : next.Current := by
  rcases follows with ⟨stays, asked⟩
  constructor
  · rw [calls]
    intro call member id params shows
    rcases current.named call member id params shows with ⟨name, issued, notAsked⟩
    exact ⟨name, (stays id issued).1, (asked id issued notAsked).1⟩
  · rw [calls]
    intro id params clientId remaining member
    rcases current.named _ member id params (List.mem_singleton_self _) with ⟨_, issued, _⟩
    rw [isAborted_iff aborted, (stays id issued).2]
    exact current.surfacing id params clientId remaining member
  · rw [calls]
    intro id params targets head present
    rcases current.named _ (List.mem_of_head? head) id params (List.mem_singleton_self _) with
      ⟨_, issued, notAsked⟩
    rw [isAborted_iff aborted, (stays id issued).2]
    exact current.registered id params targets head ((asked id issued notAsked).2 present)
  · rw [calls]
    intro id params targets member
    rcases current.named _ (List.mem_of_mem_tail member) id params
      (List.mem_singleton_self _) with ⟨_, issued, notAsked⟩
    apply eq_false_of_ne_true
    intro present
    have before := (asked id issued notAsked).2 present
    rw [current.inner id params targets member] at before
    cases before

theorem Current.of_replaced (current : run.Current) {extra kept : List Call}
    (replaces : Replaces run next extra kept)
    (named : ∀ call ∈ extra, ∀ id params, (id, params) ∈ call.shows →
      params.questionId = id ∧ id ∈ next.issued ∧ id ∉ next.asked)
    (surfacing : ∀ id params clientId remaining,
      .surfacing id params (clientId :: remaining) ∈ extra →
        ¬next.IsAborted (next.signals.get id))
    (registered : ∀ id params targets, extra.head? = some (.registered id params targets) →
      ¬next.IsAborted (next.signals.get id))
    (inner : ∀ id params targets, .registered id params targets ∈ extra.tail →
      next.bridge.pending.has id = false) : next.Current := by
  have goneAfter : ∀ id params targets, .registered id params targets ∈ kept →
      next.bridge.pending.has id = false := by
    intro id params targets member
    rcases current.named _ (replaces.within member) id params (List.mem_singleton_self _) with
      ⟨_, issued, notAsked⟩
    apply eq_false_of_ne_true
    intro present
    have before := (replaces.asked id issued notAsked).2 present
    rw [replaces.gone id params targets member] at before
    cases before
  constructor
  · intro call member id params shows
    rw [replaces.calls, List.mem_append] at member
    rcases member with now | before
    · exact named call now id params shows
    · rcases current.named call (replaces.within before) id params shows with
        ⟨name, issued, notAsked⟩
      exact ⟨name, (replaces.stays id issued).1, (replaces.asked id issued notAsked).1⟩
  · intro id params clientId remaining member
    rw [replaces.calls, List.mem_append] at member
    rcases member with now | before
    · exact surfacing id params clientId remaining now
    · rcases current.named _ (replaces.within before) id params (List.mem_singleton_self _) with
        ⟨_, issued, _⟩
      rw [(replaces.stays id issued).2]
      exact replaces.unaborted id params clientId remaining before
        (current.surfacing id params clientId remaining (replaces.within before))
  · intro id params targets head present
    rw [replaces.calls] at head
    cases extra with
    | nil =>
        have absent := goneAfter id params targets (List.mem_of_head? head)
        rw [present] at absent
        cases absent
    | cons call rest => exact registered id params targets head
  · intro id params targets member
    rw [replaces.calls] at member
    cases extra with
    | nil => exact goneAfter id params targets (List.mem_of_mem_tail member)
    | cons call rest =>
        rcases List.mem_append.mp member with now | before
        · exact inner id params targets now
        · exact goneAfter id params targets before

theorem Current.of_neutral (current : run.Current) {extra kept : List Call}
    (replaces : Replaces run next extra kept) (neutral : ∀ call ∈ extra, call.shows = []) :
    next.Current := by
  have shownNot : ∀ call ∈ extra, ∀ id params, (id, params) ∉ call.shows := by
    intro call member id params shows
    rw [neutral call member] at shows
    cases shows
  refine current.of_replaced replaces ?_ ?_ ?_ ?_
  · intro call member id params shows
    exact absurd shows (shownNot call member id params)
  · intro id params clientId remaining member
    exact absurd (List.mem_singleton_self _) (shownNot _ member id params)
  · intro id params targets head
    exact absurd (List.mem_singleton_self _) (shownNot _ (List.mem_of_head? head) id params)
  · intro id params targets member
    exact absurd (List.mem_singleton_self _)
      (shownNot _ (List.mem_of_mem_tail member) id params)

/-- The innermost call, which shows a question, has one client less to show it to. -/
theorem Current.showing (current : run.Current) {call : Call} {outer : List Call}
    {questionId : String} {params : QuestionRequestParams} {remaining : List ClientId}
    (calls : run.calls = call :: outer)
    (replaces : Replaces run next [.surfacing questionId params remaining] outer)
    (shows : (questionId, params) ∈ call.shows)
    (fresh : ¬next.IsAborted (run.signals.get questionId)) : next.Current := by
  rcases current.named call (calls ▸ List.mem_cons_self) questionId params shows with
    ⟨name, issued, notAsked⟩
  rcases replaces.toFollows with ⟨stays, asked⟩
  refine current.of_replaced replaces ?_ ?_ ?_ ?_
  · intro call member id shown showsNow
    rw [List.mem_singleton.mp member] at showsNow
    cases remaining with
    | nil => cases showsNow
    | cons clientId remaining =>
        cases List.mem_singleton.mp showsNow
        exact ⟨name, (stays questionId issued).1, (asked questionId issued notAsked).1⟩
  · intro id shown clientId rest member
    cases List.mem_singleton.mp member
    rw [(stays questionId issued).2]
    exact fresh
  · intro id shown targets head
    cases head
  · intro id shown targets member
    cases member

/-- While the bridge may be called into, no registration in progress still counts. -/
theorem Current.gone_of_interruptible (current : run.Current)
    (interruptible : run.Interruptible) {id : String} {params : QuestionRequestParams}
    {targets : List ClientId} (member : .registered id params targets ∈ run.calls) :
    run.bridge.pending.has id = false := by
  cases calls : run.calls with
  | nil =>
      rw [calls] at member
      cases member
  | cons call outer =>
      rw [calls] at member
      rcases List.mem_cons.mp member with rfl | inOuter
      · simp [Interruptible, calls, Call.callsOut] at interruptible
      · apply current.inner id params targets
        rw [calls]
        exact inOuter

end Showing

theorem calls_withdrawPending (run : QuestionRun) (questionId error : String) :
    ∃ extra, (run.withdrawPending questionId error).calls = extra ++ run.calls ∧
      ∀ call ∈ extra, call.shows = [] := by
  simp only [withdrawPending]
  split
  · exact ⟨[], rfl, fun call member => by cases member⟩
  · simp only [withdraw, close]
    split
    · refine ⟨[_], rfl, ?_⟩
      intro call member
      rw [List.mem_singleton.mp member]
      rfl
    · exact ⟨[], rfl, fun call member => by cases member⟩

theorem unaborted_advance {run : QuestionRun} {signal : Option SignalId}
    (fresh : ¬run.IsAborted signal) : ¬run.advance.IsAborted signal :=
  fun fired => fresh ((isAborted_iff (advance_fields run).2.1).mp fired)

theorem replaces_advance {run : QuestionRun} {call : Call} {outer extra : List Call}
    (current : run.Current) (follows : Follows run run.advance) (calls : run.calls = call :: outer)
    (after : run.advance.calls = extra ++ outer) : Replaces run run.advance extra outer where
  toFollows := follows
  within := calls ▸ List.subset_cons_self _ _
  calls := after
  gone := by
    intro id params targets member
    apply current.inner id params targets
    rw [calls]
    exact member
  unaborted := fun _ _ _ _ _ => unaborted_advance

/-- The call that registers a question is followed by the call that shows it, or, where its signal
has fired already, by the one that withdraws it. -/
theorem Current.register {run : QuestionRun} (sound : run.Sound) (soundAfter : run.advance.Sound)
    (current : run.Current) (follows : Follows run run.advance) {outer : List Call}
    {questionId : String} {request : HostQuestionRequest} {signal : Option SignalId}
    {targets : List ClientId}
    (calls : run.calls = .asking questionId request signal targets :: outer) :
    run.advance.Current := by
  rcases sound.asking questionId request signal targets (calls ▸ List.mem_cons_self) with
    ⟨isSignal, _⟩
  have issued : questionId ∈ run.issued := by
    apply (sound.of_asked _).1
    rw [QuestionRun.asked, calls]
    exact List.mem_cons_self
  have issuedAfter := (follows.stays questionId issued).1
  have after : run.advance = run.register questionId request signal targets outer := by
    simp only [QuestionRun.advance, calls]
  by_cases fired : run.IsAborted signal
  · have callsAfter : ∃ winner losers, run.advance.calls =
        [.telling questionId (.error abortedError) winner losers,
          .registered questionId (QuestionBridge.requestParams questionId request)
            targets] ++ outer := by
      rw [after]
      simp only [QuestionRun.register, fired, if_true, withdraw]
      rw [close_eq (by simp [OrderedMap.has])]
      exact ⟨_, _, rfl⟩
    rcases callsAfter with ⟨winner, losers, callsAfter⟩
    have decidedAfter : questionId ∈ run.advance.decided.map Prod.fst := by
      rw [decided, callsAfter]
      exact List.mem_cons_self
    have absent : run.advance.bridge.pending.has questionId = false := by
      apply eq_false_of_ne_true
      intro present
      exact (soundAfter.of_pending present).2.2 decidedAfter
    refine current.of_replaced (replaces_advance current follows calls callsAfter) ?_ ?_ ?_ ?_
    · intro call member id params shows
      rcases List.mem_cons.mp member with rfl | last
      · cases shows
      · rw [List.mem_singleton.mp last] at shows
        cases List.mem_singleton.mp shows
        exact ⟨rfl, issuedAfter, fun asked =>
          (soundAfter.of_asked asked).2.2 decidedAfter⟩
    · intro id params clientId remaining member
      simp at member
    · intro id params targets head
      cases head
    · intro id params targets member
      cases List.mem_singleton.mp member
      exact absent
  · have callsAfter : run.advance.calls =
        [.registered questionId (QuestionBridge.requestParams questionId request)
          targets] ++ outer := by
      rw [after]
      simp only [QuestionRun.register, fired, if_false]
      rfl
    have present : run.advance.bridge.pending.has questionId = true := by
      rw [after]
      simp [QuestionRun.register, fired, OrderedMap.has]
    refine current.of_replaced (replaces_advance current follows calls callsAfter) ?_ ?_ ?_ ?_
    · intro call member id params shows
      rw [List.mem_singleton.mp member] at shows
      cases List.mem_singleton.mp shows
      exact ⟨rfl, issuedAfter, (soundAfter.of_pending present).2.1⟩
    · intro id params clientId remaining member
      cases List.mem_singleton.mp member
    · intro id params targets head
      cases head
      rw [(follows.stays questionId issued).2, isSignal]
      exact unaborted_advance fired
    · intro id params targets member
      cases member

theorem Current.advance {run : QuestionRun} (sound : run.Sound) (current : run.Current)
    (environment : Environment) (possible : run.Possible (.advance environment)) :
    run.advance.Current := by
  have soundAfter : run.advance.Sound := sound.advance
  have follows : Follows run run.advance :=
    ⟨fun id issued => issued_perform possible issued,
      fun id issued notAsked => asked_perform sound possible issued notAsked⟩
  have replaces {call outer extra} := @replaces_advance run call outer extra current follows
  have quietly : ∀ {call outer}, run.calls = call :: outer → ∀ extra,
      run.advance.calls = extra ++ outer → (∀ call ∈ extra, call.shows = []) →
        run.advance.Current :=
    fun calls extra after neutral => current.of_neutral (replaces calls after) neutral
  have noCall : ∀ call ∈ ([] : List Call), call.shows = [] := fun call member => by cases member
  have withdraws : ∀ {call outer rest questionId error}, run.calls = call :: outer →
      rest.shows = [] → run.advance =
        QuestionRun.withdrawPending { run with calls := rest :: outer } questionId error →
          run.advance.Current := by
    intro call outer rest questionId error calls neutral after
    rcases calls_withdrawPending { run with calls := rest :: outer } questionId error with
      ⟨extra, callsAfter, extraNeutral⟩
    refine quietly calls (extra ++ [rest]) ?_ ?_
    · rw [after, callsAfter, List.append_assoc]
      rfl
    · intro call member
      rcases List.mem_append.mp member with now | last
      · exact extraNeutral call now
      · rw [List.mem_singleton.mp last]
        exact neutral
  cases calls : run.calls with
  | nil =>
      have idle : run.advance = run := by simp only [QuestionRun.advance, calls]
      rw [idle]
      exact current
  | cons call outer =>
      cases call with
      | asking questionId request signal targets =>
          exact current.register sound soundAfter follows calls
      | registered questionId params targets =>
          by_cases present : run.bridge.pending.has questionId = true
          · cases targets with
            | nil =>
                exact quietly calls [] (by simp [QuestionRun.advance, calls]) noCall
            | cons clientId remaining =>
                have fresh := current.registered questionId params (clientId :: remaining)
                  (by rw [calls]; rfl) present
                have after : run.advance.calls =
                    [.surfacing questionId params remaining] ++ outer := by
                  simp only [QuestionRun.advance, calls, present, if_true]
                  rfl
                exact current.showing calls (replaces calls after) (List.mem_singleton_self _)
                  (unaborted_advance fresh)
          · exact quietly calls [] (by simp [QuestionRun.advance, calls, present]) noCall
      | surfacing questionId params remaining =>
          cases remaining with
          | nil => exact quietly calls [] (by simp [QuestionRun.advance, calls]) noCall
          | cons clientId remaining =>
              have fresh := current.surfacing questionId params clientId remaining
                (calls ▸ List.mem_cons_self)
              have after : run.advance.calls =
                  [.surfacing questionId params remaining] ++ outer := by
                simp only [QuestionRun.advance, calls]
                rfl
              exact current.showing calls (replaces calls after) (List.mem_singleton_self _)
                (unaborted_advance fresh)
      | telling questionId outcome closed remaining =>
          cases remaining with
          | nil => exact quietly calls [] (by simp [QuestionRun.advance, calls, promise]) noCall
          | cons clientId remaining =>
              refine quietly calls [_] (by simp [QuestionRun.advance, calls]; rfl) ?_
              intro call member
              rw [List.mem_singleton.mp member]
              rfl
      | dispatching listeners =>
          cases listeners with
          | nil => exact quietly calls [] (by simp [QuestionRun.advance, calls]) noCall
          | cons questionId listeners =>
              by_cases listens : questionId ∈ run.bridge.listening
              · have after : run.advance =
                    QuestionRun.withdrawPending { run with calls := .dispatching listeners :: outer }
                      questionId abortedError := by
                  simp only [QuestionRun.advance, calls, listens, if_true]
                exact withdraws calls rfl after
              · refine quietly calls [.dispatching listeners] ?_ ?_
                · simp only [QuestionRun.advance, calls, listens, if_false]
                  rfl
                · intro call member
                  rw [List.mem_singleton.mp member]
                  rfl
      | disposing remaining =>
          cases remaining with
          | nil => exact quietly calls [] (by simp [QuestionRun.advance, calls]) noCall
          | cons questionId remaining =>
              have after : run.advance =
                  QuestionRun.withdrawPending { run with calls := .disposing remaining :: outer }
                    questionId disposedError := by
                simp only [QuestionRun.advance, calls]
              exact withdraws calls rfl after

theorem Current.perform {run : QuestionRun} (sound : run.Sound) (current : run.Current)
    {event : QuestionEvent} (possible : run.Possible event)
    (allowed : ¬run.AbortsFanOut event) : (run.perform event).1.Current := by
  have follows : Follows run (run.perform event).1 :=
    ⟨fun id issued => issued_perform possible issued,
      fun id issued notAsked => asked_perform sound possible issued notAsked⟩
  -- A call is put before the ones there are.
  have pushed : run.Interruptible → ∀ call, call.shows = [] →
      (run.perform event).1.calls = call :: run.calls →
      (run.perform event).1.aborted = run.aborted → (run.perform event).1.Current := by
    intro interruptible call neutral after aborted
    refine @Current.of_neutral run _ current [call] run.calls { follows with
      within := List.Subset.refl _
      calls := after
      gone := fun id params targets => current.gone_of_interruptible interruptible
      unaborted := fun id _ _ _ _ fresh fired => fresh ((isAborted_iff aborted).mp fired) } ?_
    intro other member
    rw [List.mem_singleton.mp member]
    exact neutral
  cases event with
  | ask questionId request signal =>
      by_cases refused : (run.ask questionId request signal).calls = run.calls
      · refine current.of_kept refused ?_ follows
        simp only [QuestionRun.perform, QuestionRun.ask]
        split
        · rfl
        · split <;> rfl
      · refine pushed possible.1
          (.asking questionId request signal (run.broker.routedTo request.sessionId)) rfl ?_ ?_
        · simp only [QuestionRun.perform, QuestionRun.ask] at refused ⊢
          split
          · next shown => simp [shown, promise] at refused
          · next notShown =>
              split
              · next nobody => simp [notShown, nobody, promise] at refused
              · rfl
        · simp only [QuestionRun.perform, QuestionRun.ask]
          split
          · rfl
          · split <;> rfl
  | advance environment => exact Current.advance sound current environment possible
  | answer clientId params =>
      cases granted : run.bridge.pending.answerable "question" clientId params.questionId with
      | error refused =>
          have same : (run.perform (.answer clientId params)).1 = run := by
            simp only [QuestionRun.perform, answer, granted]
          rw [same]
          exact current
      | ok entry =>
          rcases (PendingTable.answerable_ok_iff _ _ _ _ _).mp granted with ⟨found, _⟩
          have after : (run.perform (.answer clientId params)).1 =
              run.settle params.questionId entry params.answers clientId := by
            simp only [QuestionRun.perform, answer, granted]
          rw [settle, close_eq ((OrderedMap.has_eq_true_iff _ _).mpr ⟨entry, found⟩)] at after
          exact pushed possible _ rfl (by rw [after]) (by rw [after])
  | disconnect environment clientId => exact current.of_kept rfl rfl follows
  | abort signal =>
      refine @Current.of_neutral run _ current [.dispatching (run.listenersOf signal)] run.calls
        { follows with
          within := List.Subset.refl _
          calls := rfl
          gone := fun id params targets => current.gone_of_interruptible possible.1
          unaborted := ?_ } ?_
      · rintro id params clientId remaining member fresh ⟨fired, isSignal, isFired⟩
        rcases (OrderedSet.mem_add _ _ _).mp isFired with before | rfl
        · exact fresh ⟨fired, isSignal, before⟩
        · exact allowed ⟨id, params, clientId, remaining, member, isSignal⟩
      · intro call member
        rw [List.mem_singleton.mp member]
        rfl
  | dispose => exact pushed possible _ rfl rfl rfl
  | broker event => exact current.of_kept rfl rfl follows

theorem shows_of_written {run : QuestionRun} {event : QuestionEvent} {message : Sent}
    (written : message ∈ (run.perform event).2) {params : QuestionRequestParams}
    (request : message.notification = .questionRequest params) :
    ∃ call outer, run.calls = call :: outer ∧
      ((∃ id targets, call = .registered id params targets ∧
          run.bridge.pending.has id = true) ∨
        ∃ id clientId remaining, call = .surfacing id params (clientId :: remaining)) := by
  cases event with
  | advance environment =>
      simp only [QuestionRun.perform, QuestionRun.written] at written
      split at written
      · next questionId shown clientId targets outer calls =>
          split at written
          · next present =>
              cases List.mem_singleton.mp written
              cases request
              exact ⟨_, outer, calls, Or.inl ⟨questionId, _, rfl, present.1⟩⟩
          · cases written
      · next questionId shown clientId remaining outer calls =>
          split at written
          · cases List.mem_singleton.mp written
            cases request
            exact ⟨_, outer, calls, Or.inr ⟨questionId, clientId, remaining, rfl⟩⟩
          · cases written
      · next questionId outcome winner clientId remaining outer calls =>
          split at written
          · cases List.mem_singleton.mp written
            cases request
          · cases written
      · cases written
  | disconnect environment clientId =>
      have own := SessionBroker.ofBroker_perform run.broker (.disconnect environment clientId)
        message written
      rw [request] at own
      cases own
  | broker event =>
      have own := SessionBroker.ofBroker_perform run.broker event message written
      rw [request] at own
      cases own
  | answer clientId params =>
      simp only [QuestionRun.perform] at written
      split at written <;> cases written
  | _ => cases written

theorem Current.not_aborted {run : QuestionRun} (current : run.Current) {event : QuestionEvent}
    {message : Sent} (written : message ∈ (run.perform event).2)
    {params : QuestionRequestParams}
    (request : message.notification = .questionRequest params) :
    ¬run.IsAborted (run.signals.get params.questionId) := by
  rcases shows_of_written written request with ⟨call, outer, calls, showing⟩
  have member : call ∈ run.calls := calls ▸ List.mem_cons_self
  rcases showing with ⟨id, targets, rfl, present⟩ | ⟨id, clientId, remaining, rfl⟩
  · rw [(current.named _ member id params (List.mem_singleton_self _)).1]
    exact current.registered id params targets (by rw [calls]; rfl) present
  · rw [(current.named _ member id params (List.mem_singleton_self _)).1]
    exact current.surfacing id params clientId remaining member

/-! ## Every run -/

theorem reachable_sound {broker : SessionBroker} {past : List QuestionEvent}
    {run : QuestionRun} (reached : Execution.run step (init broker) past = some run) :
    run.Sound := by
  refine Execution.reachable_invariant Sound ?_ (sound_init broker) reached
  intro state event next sound stepped
  rcases step_eq_some stepped with ⟨possible, rfl⟩
  exact sound.perform possible

theorem decided_iff {broker : SessionBroker} {past : List QuestionEvent} {run : QuestionRun}
    (reached : Execution.run step (init broker) past = some run) (id : String)
    (outcome : AskOutcome) :
    (id, outcome) ∈ run.decided ↔ ∃ first event rest state, past = first ++ event :: rest ∧
      Execution.run step (init broker) first = some state ∧ Decides state event id outcome := by
  apply Execution.recorded_iff (fun state item => item ∈ state.decided)
    (fun state event item => Decides state event item.1 item.2) ?_ ?_ reached (id, outcome)
  · rintro item member
    cases member
  · intro first state event next stateReached stepped item
    rcases step_eq_some stepped with ⟨possible, rfl⟩
    rw [(decided_perform (reachable_sound stateReached) event).mem_iff, List.mem_append]
    exact or_congr_right mem_decides_iff

/-- An ask that is pending when `dispose` is called is decided, or the loop has yet to
come to it. -/
theorem doomed_iff {broker : SessionBroker} {first rest : List QuestionEvent}
    {state run : QuestionRun} {id : String}
    (stateReached : Execution.run step (init broker) first = some state)
    (pending : state.bridge.pending.has id = true)
    (reached : Execution.run step (init broker) (first ++ .dispose :: rest) = some run) :
    id ∈ run.decided.map Prod.fst ∨ run.bridge.pending.has id = true ∧ id ∈ run.doomed := by
  rw [Execution.run_append, stateReached, Option.bind_some, Execution.run_cons] at reached
  rcases Option.bind_eq_some_iff.mp reached with ⟨next, stepped, restReached⟩
  have soundBefore := reachable_sound stateReached
  rcases step_eq_some stepped with ⟨disposable, rfl⟩
  have both := Execution.reachable_invariant
    (fun current : QuestionRun => current.Sound ∧ (id ∈ current.decided.map Prod.fst ∨
      current.bridge.pending.has id = true ∧ id ∈ current.doomed)) ?_ ?_ restReached
  · exact both.2
  · rintro current event after ⟨sound, held⟩ taken
    rcases step_eq_some taken with ⟨possible, rfl⟩
    refine ⟨sound.perform possible, ?_⟩
    rw [((decided_perform sound event).map Prod.fst).mem_iff, List.map_append, List.mem_append]
    rcases held with decided | ⟨present, due⟩
    · exact Or.inl (Or.inl decided)
    · rcases pending_perform sound possible present with ⟨outcome, decides⟩ | ⟨still, later⟩
      · exact Or.inl (Or.inr (List.mem_map.mpr ⟨_, mem_decides_iff.mpr decides, rfl⟩))
      · exact Or.inr ⟨still, later due⟩
  · refine ⟨soundBefore.perform disposable, Or.inr ⟨pending, ?_⟩⟩
    apply List.mem_append_left
    rcases (OrderedMap.has_eq_true_iff _ _).mp pending with ⟨entry, found⟩
    exact (OrderedMap.mem_keys_iff _ _).mpr ⟨entry, found⟩

/-- What is promised of the asks after a run. -/
structure AsksSettleOnce (start : QuestionRun) (past : List QuestionEvent)
    (run : QuestionRun) : Prop where
  /-- No ask is settled twice. -/
  once : (run.bridge.settled.map Prod.fst).Nodup
  /-- An ask is settled by one of the events that may settle it. -/
  caused : ∀ id outcome, (id, outcome) ∈ run.bridge.settled →
    ∃ first event rest state, past = first ++ event :: rest ∧
      Execution.run step start first = some state ∧ Decides state event id outcome
  /-- The first of these events settles it, once the calls in progress have returned. -/
  settles : ∀ first event rest state id outcome, past = first ++ event :: rest →
    Execution.run step start first = some state → Decides state event id outcome →
      run.calls = [] → ∀ other, (id, other) ∈ run.bridge.settled ↔ other = outcome
  /-- While no call is in progress every ask is pending or settled, and not both. -/
  placed : run.calls = [] → ∀ id ∈ run.issued,
    (run.bridge.pending.has id = true ↔ id ∉ run.bridge.settled.map Prod.fst)
  /-- A settled ask is pending no longer, its abort listener is removed, and an answer to
  it is rejected. -/
  cleaned : ∀ id ∈ run.bridge.settled.map Prod.fst,
    run.bridge.pending.has id = false ∧ id ∉ run.bridge.listening ∧
      ∀ clientId answers, run.answer clientId { questionId := id, answers := answers } =
        .error (PendingTable.unknownRequest "question" id)
  /-- A signal that has fired leaves none of its asks pending. -/
  aborted : run.calls = [] → ∀ id, run.IsAborted (run.signals.get id) →
    run.bridge.pending.has id = false
  /-- `dispose` leaves none of the asks pending that it found. -/
  disposed : ∀ first rest state id, past = first ++ .dispose :: rest →
    Execution.run step start first = some state → state.bridge.pending.has id = true →
      run.calls = [] → id ∈ run.bridge.settled.map Prod.fst
  /-- A pending ask has a client that may answer it. -/
  hasTarget : ∀ id pending, run.bridge.pending.get id = some pending →
    ∃ clientId, clientId ∈ pending.targets

/-- No ask whose signal has fired is shown to a client along a run. -/
def ShowsNoAborted (start : QuestionRun) (past : List QuestionEvent) : Prop :=
  ∀ first event rest state, past = first ++ event :: rest →
    Execution.run step start first = some state →
    ∀ message ∈ (state.perform event).2, ∀ params,
      message.notification = .questionRequest params →
        ¬state.IsAborted (state.signals.get params.questionId)

theorem decided_of_idle {run : QuestionRun} (idle : run.calls = []) :
    run.decided = run.bridge.settled := by
  rw [decided, idle]
  rfl

theorem mem_decided_of_settled {run : QuestionRun} {entry : String × AskOutcome}
    (settled : entry ∈ run.bridge.settled) : entry ∈ run.decided :=
  List.mem_append_right _ settled

theorem Sound.nodup_decided {run : QuestionRun} (sound : run.Sound) :
    (run.decided.map Prod.fst).Nodup := by
  rw [List.nodup_iff_count_le_one]
  intro id
  have once := sound.once id
  simp only [standing] at once
  split at once <;> split at once <;> omega

theorem reachable_showsNoAborted {broker : SessionBroker} {past : List QuestionEvent}
    (allowed : Execution.AllSteps step (fun state event => ¬state.AbortsFanOut event)
      (init broker) past) : ShowsNoAborted (init broker) past := by
  intro first event rest state split stateReached message written params request
  rw [split, Execution.AllSteps.append_iff stateReached] at allowed
  have both := Execution.run_invariant (fun current : QuestionRun => current.Sound ∧ current.Current)
    ?_ ⟨sound_init broker, current_init broker⟩ allowed.1 stateReached
  · exact both.2.not_aborted written request
  · rintro current event next ⟨sound, shown⟩ quiet stepped
    rcases step_eq_some stepped with ⟨possible, rfl⟩
    exact ⟨sound.perform possible, shown.perform sound possible quiet⟩

/-- Over every interleaving of asks, answers, fired signals, disconnects and `dispose`,
each of which may come while another is under way, an ask settles once. It is shown to
nobody after its signal has fired, in a run where none fires inside the fan-out. -/
theorem reachable_asksSettleOnce (broker : SessionBroker) (past : List QuestionEvent)
    (run : QuestionRun) (reached : Execution.run step (init broker) past = some run) :
    AsksSettleOnce (init broker) past run ∧
      (Execution.AllSteps step (fun state event => ¬state.AbortsFanOut event) (init broker) past →
        ShowsNoAborted (init broker) past) := by
  have sound := reachable_sound reached
  refine ⟨⟨?_, ?_, ?_, ?_, ?_, ?_, ?_, sound.hasTarget⟩, reachable_showsNoAborted⟩
  · have nodup := sound.nodup_decided
    rw [decided, List.map_append] at nodup
    exact (List.nodup_append.mp nodup).2.1
  · intro id outcome settled
    exact (decided_iff reached id outcome).mp (mem_decided_of_settled settled)
  · intro first event rest state id outcome split stateReached decides idle other
    have member := (decided_iff reached id outcome).mpr
      ⟨first, event, rest, state, split, stateReached, decides⟩
    rw [← decided_of_idle idle]
    constructor
    · intro present
      have same := List.inj_on_of_nodup_map sound.nodup_decided present member rfl
      exact congrArg Prod.snd same
    · rintro rfl
      exact member
  · intro idle id issued
    have once := sound.once id
    rw [standing, asked, idle, decided_of_idle idle, if_pos issued] at once
    rw [← List.count_eq_zero]
    split at once
    · next pending => exact iff_of_true pending (by simp at once ⊢; omega)
    · next absent => exact iff_of_false absent (by simp at once ⊢; omega)
  · intro id settled
    have decidedNow : id ∈ run.decided.map Prod.fst := by
      rcases List.mem_map.mp settled with ⟨entry, member, rfl⟩
      exact List.mem_map_of_mem (mem_decided_of_settled member)
    have absent : run.bridge.pending.has id = false := by
      apply eq_false_of_ne_true
      intro pending
      exact (sound.of_pending pending).2.2 decidedNow
    refine ⟨absent, ?_, ?_⟩
    · intro listens
      have pending := sound.listens id listens
      rw [absent] at pending
      cases pending
    · intro clientId answers
      have gone : run.bridge.pending.get id = none := by simpa [OrderedMap.has] using absent
      simp only [answer, PendingTable.answerable, gone]
  · rintro idle id ⟨signal, isSignal, fired⟩
    apply eq_false_of_ne_true
    intro pending
    have due := sound.owed id signal (sound.attends id signal pending isSignal) isSignal fired
    rw [dispatched, idle] at due
    cases due
  · intro first rest state id split stateReached pending idle
    rw [split] at reached
    rcases doomed_iff stateReached pending reached with decided | ⟨_, due⟩
    · rw [← decided_of_idle idle]
      exact decided
    · rw [doomed, idle] at due
      cases due

/-- A question whose signal fires while it is pending. -/
def abortedWhilePending : List QuestionEvent :=
  [.broker (.connect "a"), .ask "q" { items := [], signal := some false } (some 0), .advance {},
    .advance {}, .advance {}, .abort 0, .advance {}, .advance {}, .advance {}, .advance {}]

theorem reachable_asksSettleOnce_abortedWhilePending :
    ∃ run, Execution.run step (init (SessionBroker.init .empty .empty {}))
        abortedWhilePending = some run ∧
      run.calls = [] ∧ run.bridge.settled = [("q", .error abortedError)] ∧
      AsksSettleOnce (init (SessionBroker.init .empty .empty {})) abortedWhilePending run ∧
      ShowsNoAborted (init (SessionBroker.init .empty .empty {})) abortedWhilePending := by
  have both := reachable_asksSettleOnce (SessionBroker.init .empty .empty {})
    abortedWhilePending _ rfl
  refine ⟨_, rfl, rfl, rfl, both.1, both.2 ?_⟩
  -- No fan-out is under way when the signal fires.
  have quiet : ∀ run : QuestionRun, run.calls = [] → ¬run.AbortsFanOut (.abort 0) := by
    rintro run idle ⟨id, params, clientId, remaining, member, _⟩
    rw [idle] at member
    cases member
  exact ⟨id, id, id, id, id, quiet _ rfl, id, id, id, id, trivial⟩

/-- A question for two clients, whose signal fires while the first one is notified. -/
def abortedWhileShown : List QuestionEvent :=
  [.broker (.connect "a"), .broker (.connect "b"),
    .ask "q" { items := [], signal := some false } (some 0), .advance {}, .advance {},
    .abort 0, .advance {}, .advance {}, .advance {}, .advance {}, .advance {}]

/-- The second client is shown the question after it was withdrawn. -/
theorem abortedWhileShown_shown :
    ∃ run, Execution.run step (init (SessionBroker.init .empty .empty {}))
        (abortedWhileShown ++ [.advance {}]) = some run ∧
      run.bridge.settled = [("q", .error abortedError)] ∧
      ¬ShowsNoAborted (init (SessionBroker.init .empty .empty {}))
        (abortedWhileShown ++ [.advance {}]) := by
  refine ⟨_, rfl, rfl, fun never => ?_⟩
  apply never abortedWhileShown (.advance {}) [] _ rfl rfl
    ⟨"b", .questionRequest { questionId := "q", sessionId := "", summary := none, items := [] }⟩
    (by decide) _ rfl
  exact ⟨0, rfl, by decide⟩

end QuestionRun

end DshRemote.Backend
