import DshRemote.Backend.QuestionCalls
import DshRemote.Backend.Writes

/-! # Where an ask stands

An ask is being made, pending, decided or settled, and never two of these; the abort
listener of a question goes with it. -/

namespace DshRemote.Backend

namespace Call

/-- The ask a call is making. -/
def asks : Call → List String
  | .asking questionId _ _ _ => [questionId]
  | _ => []

/-- The decision a call is telling the losers. -/
def tells : Call → List (String × AskOutcome)
  | .telling questionId outcome _ _ => [(questionId, outcome)]
  | _ => []

/-- The questions whose listener a call has yet to run. -/
def dispatches : Call → List String
  | .dispatching listeners => listeners
  | _ => []

/-- The questions a call has yet to withdraw whatever their signal. -/
def disposes : Call → List String
  | .disposing remaining => remaining
  | _ => []

/-- The question a call is showing to clients, or about to. -/
def shows : Call → List (String × QuestionRequestParams)
  | .registered questionId params _ | .surfacing questionId params (_ :: _) =>
      [(questionId, params)]
  | _ => []

/-- A call that stands for no question. -/
def Quiet (call : Call) : Prop :=
  call.asks = [] ∧ call.tells = [] ∧ call.dispatches = [] ∧ call.disposes = []

end Call

namespace QuestionRun

/-- The asks that are being made. -/
def asked (run : QuestionRun) : List String := run.calls.flatMap Call.asks

/-- The outcomes decided so far, settled or still being told. -/
def decided (run : QuestionRun) : List (String × AskOutcome) :=
  run.calls.flatMap Call.tells ++ run.bridge.settled

/-- The questions whose abort listener is due. -/
def dispatched (run : QuestionRun) : List String := run.calls.flatMap Call.dispatches

/-- The questions `dispose` has yet to come to. -/
def doomed (run : QuestionRun) : List String := run.calls.flatMap Call.disposes

/-- In how many places an ask stands. -/
def standing (run : QuestionRun) (questionId : String) : Nat :=
  run.asked.count questionId + (if run.bridge.pending.has questionId then 1 else 0) +
    (run.decided.map Prod.fst).count questionId

/-- The state of every reachable run. -/
structure Sound (run : QuestionRun) : Prop where
  /-- Every ask stands in one place. -/
  once : ∀ id, run.standing id = if id ∈ run.issued then 1 else 0
  listens : ∀ id, id ∈ run.bridge.listening → run.bridge.pending.has id = true
  attends : ∀ id signal, run.bridge.pending.has id = true →
    run.signals.get id = some signal → id ∈ run.bridge.listening
  /-- A listener on a signal that has fired is yet to run. -/
  owed : ∀ id signal, id ∈ run.bridge.listening → run.signals.get id = some signal →
    signal ∈ run.aborted → id ∈ run.dispatched
  fired : ∀ id, id ∈ run.dispatched →
    ∃ signal, run.signals.get id = some signal ∧ signal ∈ run.aborted
  known : ∀ id signal, run.signals.get id = some signal → id ∈ run.issued
  asking : ∀ id request signal targets, .asking id request signal targets ∈ run.calls →
    run.signals.get id = signal ∧ targets ≠ []
  hasTarget : ∀ id pending, run.bridge.pending.get id = some pending →
    ∃ clientId, clientId ∈ pending.targets

theorem sound_init (broker : SessionBroker) : (init broker).Sound := by
  constructor <;> simp [init, standing, asked, decided, dispatched, OrderedMap.has]

section Preservation

variable {run next : QuestionRun}

theorem Sound.of_pending (sound : run.Sound) {id : String}
    (pending : run.bridge.pending.has id = true) :
    id ∈ run.issued ∧ id ∉ run.asked ∧ id ∉ run.decided.map Prod.fst := by
  have once := sound.once id
  simp only [standing, pending, if_true] at once
  split at once
  · next issued =>
      exact ⟨issued, List.count_eq_zero.mp (by omega), List.count_eq_zero.mp (by omega)⟩
  · omega

theorem Sound.of_asked (sound : run.Sound) {id : String} (asked : id ∈ run.asked) :
    id ∈ run.issued ∧ run.bridge.pending.has id = false ∧ id ∉ run.decided.map Prod.fst := by
  have once := sound.once id
  have positive := List.count_pos_iff.mpr asked
  simp only [standing] at once
  by_cases pending : run.bridge.pending.has id = true
  · rw [if_pos pending] at once
    split at once <;> omega
  · rw [if_neg pending] at once
    split at once
    · next issued =>
        exact ⟨issued, eq_false_of_ne_true pending, List.count_eq_zero.mp (by omega)⟩
    · omega

theorem Sound.of_new (sound : run.Sound) {id : String} (fresh : id ∉ run.issued) :
    id ∉ run.asked ∧ run.bridge.pending.has id = false ∧ id ∉ run.decided.map Prod.fst ∧
      run.signals.get id = none := by
  have once := sound.once id
  simp only [standing, if_neg fresh] at once
  by_cases pending : run.bridge.pending.has id = true
  · rw [if_pos pending] at once
    omega
  · refine ⟨List.count_eq_zero.mp (by omega), eq_false_of_ne_true pending,
      List.count_eq_zero.mp (by omega), ?_⟩
    rw [Option.eq_none_iff_forall_ne_some]
    intro signal isSignal
    exact fresh (sound.known id signal isSignal)

theorem Sound.of_calls (sound : run.Sound)
    (pending : next.bridge.pending = run.bridge.pending)
    (listening : next.bridge.listening = run.bridge.listening)
    (signals : next.signals = run.signals) (aborted : next.aborted = run.aborted)
    (issued : next.issued = run.issued) (asked : next.asked = run.asked)
    (decided : next.decided.Perm run.decided)
    (due : ∀ id, id ∈ run.bridge.listening → id ∈ run.dispatched → id ∈ next.dispatched)
    (fired : next.dispatched ⊆ run.dispatched)
    (asking : ∀ id request signal targets, .asking id request signal targets ∈ next.calls →
      .asking id request signal targets ∈ run.calls) : next.Sound where
  once := by
    intro id
    simp only [standing, asked, pending, issued, (decided.map Prod.fst).count_eq]
    exact sound.once id
  listens := by
    rw [pending, listening]
    exact sound.listens
  attends := by
    rw [pending, listening, signals]
    exact sound.attends
  owed := by
    rw [listening, signals, aborted]
    intro id signal listens isSignal member
    exact due id listens (sound.owed id signal listens isSignal member)
  fired := by
    rw [signals, aborted]
    intro id member
    exact sound.fired id (fired member)
  known := by
    rw [signals, issued]
    exact sound.known
  asking := by
    rw [signals]
    intro id request signal targets member
    exact sound.asking id request signal targets (asking id request signal targets member)
  hasTarget := by
    rw [pending]
    exact sound.hasTarget

/-- A pending question is taken out of the table and its losers are told. -/
theorem Sound.of_close (sound : run.Sound) {questionId : String} {outcome : AskOutcome}
    {winner : Option ClientId} {losers : List ClientId} {outer : List Call}
    (present : run.bridge.pending.has questionId = true)
    (bridge : next.bridge = { run.bridge with
      pending := run.bridge.pending.delete questionId
      listening := run.bridge.listening.delete questionId })
    (calls : next.calls = .telling questionId outcome winner losers :: outer)
    (signals : next.signals = run.signals) (aborted : next.aborted = run.aborted)
    (issued : next.issued = run.issued)
    (asked : outer.flatMap Call.asks = run.asked)
    (tells : outer.flatMap Call.tells = run.calls.flatMap Call.tells)
    (due : ∀ id, id ≠ questionId → id ∈ run.dispatched → id ∈ outer.flatMap Call.dispatches)
    (fired : outer.flatMap Call.dispatches ⊆ run.dispatched)
    (asking : ∀ id request signal targets, .asking id request signal targets ∈ outer →
      .asking id request signal targets ∈ run.calls) : next.Sound := by
  have hasAfter : ∀ id, next.bridge.pending.has id =
      if id = questionId then false else run.bridge.pending.has id := by
    intro id
    simp only [bridge, OrderedMap.has, OrderedMap.get_delete]
    split <;> rfl
  have listeningAfter : ∀ id, id ∈ next.bridge.listening ↔
      id ∈ run.bridge.listening ∧ id ≠ questionId := by
    intro id
    simp only [bridge, OrderedSet.mem_delete]
  have dispatchedAfter : next.dispatched = outer.flatMap Call.dispatches := by
    rw [dispatched, calls]
    rfl
  have askedSame : next.asked = run.asked := by
    rw [← asked, QuestionRun.asked, calls]
    rfl
  have decidedAfter : next.decided = (questionId, outcome) :: run.decided := by
    simp only [QuestionRun.decided, calls, List.flatMap_cons, Call.tells, tells, bridge,
      List.cons_append, List.nil_append]
  constructor
  · intro id
    have before := sound.once id
    simp only [standing, askedSame, decidedAfter, hasAfter, issued, List.map_cons,
      List.count_cons] at before ⊢
    rw [← before]
    by_cases same : id = questionId
    · subst same
      simp [present]
      omega
    · have apart : ¬(questionId == id) = true := by simpa using Ne.symm same
      rw [if_neg same, if_neg apart, Nat.add_zero]
  · intro id listening
    rcases (listeningAfter id).mp listening with ⟨before, other⟩
    rw [hasAfter, if_neg other]
    exact sound.listens id before
  · intro id signal pending isSignal
    rw [hasAfter] at pending
    split at pending
    · cases pending
    · next other =>
        rw [signals] at isSignal
        exact (listeningAfter id).mpr ⟨sound.attends id signal pending isSignal, other⟩
  · intro id signal listening isSignal member
    rcases (listeningAfter id).mp listening with ⟨before, other⟩
    rw [signals] at isSignal
    rw [aborted] at member
    rw [dispatchedAfter]
    exact due id other (sound.owed id signal before isSignal member)
  · intro id member
    rw [dispatchedAfter] at member
    rw [signals, aborted]
    exact sound.fired id (fired member)
  · intro id signal
    rw [signals, issued]
    exact sound.known id signal
  · intro id request signal targets member
    rw [calls] at member
    rw [signals]
    rcases List.mem_cons.mp member with impossible | inOuter
    · cases impossible
    · exact sound.asking id request signal targets
        (asking id request signal targets inOuter)
  · intro id pending found
    rw [bridge] at found
    exact sound.hasTarget id pending (OrderedMap.of_get_delete found).2

theorem Sound.of_issued (sound : run.Sound) {questionId : String} {signal : Option SignalId}
    (fresh : questionId ∉ run.issued)
    (pending : next.bridge.pending = run.bridge.pending)
    (listening : next.bridge.listening = run.bridge.listening)
    (signals : ∀ id, next.signals.get id =
      if id = questionId then signal else run.signals.get id)
    (aborted : next.aborted = run.aborted)
    (issued : next.issued = run.issued.add questionId)
    (stands : ∀ id, next.asked.count id + (next.decided.map Prod.fst).count id =
      run.asked.count id + (run.decided.map Prod.fst).count id +
        if questionId = id then 1 else 0)
    (dispatched : next.dispatched = run.dispatched)
    (asking : ∀ id request shown targets, .asking id request shown targets ∈ next.calls →
      .asking id request shown targets ∈ run.calls ∨
        (id = questionId ∧ shown = signal ∧ targets ≠ [])) : next.Sound := by
  rcases sound.of_new fresh with ⟨notAsked, notPending, notDecided, noSignal⟩
  have notListening : questionId ∉ run.bridge.listening := by
    intro listens
    have present := sound.listens questionId listens
    rw [notPending] at present
    cases present
  have signalOf : ∀ {id shown}, id ≠ questionId → next.signals.get id = shown →
      run.signals.get id = shown := by
    intro id shown other isSignal
    rw [signals, if_neg other] at isSignal
    exact isSignal
  constructor
  · intro id
    have before := sound.once id
    have grown := stands id
    simp only [standing, pending, issued, OrderedSet.mem_add] at before ⊢
    by_cases same : id = questionId
    · subst same
      simp only [if_pos, notPending, Bool.false_eq_true, if_false, if_neg fresh, or_true]
        at before grown ⊢
      omega
    · simp only [same, Ne.symm same, if_false, or_false] at grown ⊢
      omega
  · rw [pending, listening]
    exact sound.listens
  · rw [pending, listening]
    intro id shown present isSignal
    have other : id ≠ questionId := by
      rintro rfl
      rw [notPending] at present
      cases present
    exact sound.attends id shown present (signalOf other isSignal)
  · rw [listening, aborted, dispatched]
    intro id shown listens isSignal member
    have other : id ≠ questionId := by
      rintro rfl
      exact notListening listens
    exact sound.owed id shown listens (signalOf other isSignal) member
  · rw [dispatched, aborted]
    intro id member
    rcases sound.fired id member with ⟨shown, isSignal, fired⟩
    have other : id ≠ questionId := by
      rintro rfl
      rw [noSignal] at isSignal
      cases isSignal
    exact ⟨shown, by rw [signals, if_neg other, isSignal], fired⟩
  · intro id shown isSignal
    rw [issued, OrderedSet.mem_add]
    by_cases same : id = questionId
    · exact Or.inr same
    · exact Or.inl (sound.known id shown (signalOf same isSignal))
  · intro id request shown targets member
    rcases asking id request shown targets member with before | ⟨rfl, rfl, routed⟩
    · rcases sound.asking id request shown targets before with ⟨isSignal, routed⟩
      have other : id ≠ questionId := by
        rintro rfl
        exact notAsked (List.mem_flatMap.mpr ⟨_, before, List.mem_singleton_self _⟩)
      exact ⟨by rw [signals, if_neg other, isSignal], routed⟩
    · exact ⟨by rw [signals, if_pos rfl], routed⟩
  · rw [pending]
    exact sound.hasTarget

theorem Sound.of_rejected (sound : run.Sound) {questionId : String}
    {request : HostQuestionRequest} {signal : Option SignalId} {targets losers : List ClientId}
    {outcome : AskOutcome} {winner : Option ClientId} {outer inner : List Call}
    (calls : run.calls = .asking questionId request signal targets :: outer)
    (after : next.calls = .telling questionId outcome winner losers :: inner)
    (pending : next.bridge.pending = run.bridge.pending)
    (listening : ∀ id, id ∈ next.bridge.listening ↔ id ∈ run.bridge.listening)
    (settled : next.bridge.settled = run.bridge.settled)
    (signals : next.signals = run.signals) (aborted : next.aborted = run.aborted)
    (issued : next.issued = run.issued)
    (asks : inner.flatMap Call.asks = outer.flatMap Call.asks)
    (tells : inner.flatMap Call.tells = outer.flatMap Call.tells)
    (dispatches : inner.flatMap Call.dispatches = outer.flatMap Call.dispatches)
    (asking : ∀ id request signal targets, .asking id request signal targets ∈ inner →
      .asking id request signal targets ∈ outer) : next.Sound where
  once := by
    intro id
    have before := sound.once id
    simp only [standing, QuestionRun.asked, QuestionRun.decided, calls, after, pending, settled,
      issued, List.flatMap_cons, Call.asks, Call.tells, asks, tells, List.cons_append,
      List.nil_append, List.map_cons, List.count_cons] at before ⊢
    omega
  listens := by
    rw [pending]
    intro id listens
    exact sound.listens id ((listening id).mp listens)
  attends := by
    rw [pending, signals]
    intro id shown present isSignal
    exact (listening id).mpr (sound.attends id shown present isSignal)
  owed := by
    rw [signals, aborted]
    intro id shown listens isSignal member
    have due := sound.owed id shown ((listening id).mp listens) isSignal member
    rw [dispatched, calls] at due
    rw [dispatched, after, List.flatMap_cons, dispatches]
    exact due
  fired := by
    rw [signals, aborted]
    intro id member
    rw [dispatched, after, List.flatMap_cons, dispatches] at member
    apply sound.fired id
    rw [dispatched, calls]
    exact member
  known := by
    rw [signals, issued]
    exact sound.known
  asking := by
    rw [signals]
    intro id request signal targets member
    rw [after] at member
    rcases List.mem_cons.mp member with impossible | within
    · cases impossible
    · apply sound.asking id request signal targets
      rw [calls]
      exact List.mem_cons_of_mem _ (asking id request signal targets within)
  hasTarget := by
    rw [pending]
    exact sound.hasTarget

theorem Sound.of_registered (sound : run.Sound) {questionId : String}
    {request : HostQuestionRequest} {signal : Option SignalId} {targets : List ClientId}
    {params : QuestionRequestParams} {outer : List Call}
    (calls : run.calls = .asking questionId request signal targets :: outer)
    (notAborted : ¬run.IsAborted signal)
    (after : next.calls = .registered questionId params targets :: outer)
    (pending : next.bridge.pending = run.bridge.pending.set questionId
      { sessionId := request.sessionId, targets := .ofList targets, params := params })
    (listening : ∀ id, id ∈ next.bridge.listening ↔
      id ∈ run.bridge.listening ∨ (id = questionId ∧ signal ≠ none))
    (settled : next.bridge.settled = run.bridge.settled)
    (signals : next.signals = run.signals) (aborted : next.aborted = run.aborted)
    (issued : next.issued = run.issued) : next.Sound := by
  rcases sound.asking questionId request signal targets (calls ▸ List.mem_cons_self) with
    ⟨isSignal, routed⟩
  have isAsked : questionId ∈ run.asked := by
    rw [QuestionRun.asked, calls]
    exact List.mem_cons_self
  rcases sound.of_asked isAsked with ⟨_, notPending, _⟩
  have hasAfter : ∀ id, next.bridge.pending.has id =
      if id = questionId then true else run.bridge.pending.has id := by
    intro id
    simp only [pending, OrderedMap.has, OrderedMap.get_set]
    split <;> rfl
  have dispatchedSame : next.dispatched = run.dispatched := by
    rw [dispatched, dispatched, after, calls]
    rfl
  constructor
  · intro id
    have before := sound.once id
    simp only [standing, QuestionRun.asked, QuestionRun.decided, calls, after, hasAfter, settled,
      issued, List.flatMap_cons, Call.asks, Call.tells, List.cons_append, List.nil_append,
      List.count_cons] at before ⊢
    by_cases same : id = questionId
    · subst same
      simp only [notPending, beq_self_eq_true, if_true, Bool.false_eq_true, if_false]
        at before ⊢
      omega
    · have apart : ¬(questionId == id) = true := by simpa using Ne.symm same
      simp only [if_neg same, if_neg apart] at before ⊢
      omega
  · intro id listens
    rw [hasAfter]
    split
    · rfl
    · next other =>
        rcases (listening id).mp listens with before | ⟨same, _⟩
        · exact sound.listens id before
        · exact absurd same other
  · rw [signals]
    intro id shown present isShown
    rw [hasAfter] at present
    split at present
    · next same =>
        subst same
        refine (listening id).mpr (Or.inr ⟨rfl, ?_⟩)
        rw [← isSignal, isShown]
        exact Option.some_ne_none _
    · exact (listening id).mpr (Or.inl (sound.attends id shown present isShown))
  · rw [signals, aborted, dispatchedSame]
    intro id shown listens isShown member
    rcases (listening id).mp listens with before | ⟨rfl, _⟩
    · exact sound.owed id shown before isShown member
    · exact absurd ⟨shown, isSignal.symm.trans isShown, member⟩ notAborted
  · rw [signals, aborted, dispatchedSame]
    exact sound.fired
  · rw [signals, issued]
    exact sound.known
  · rw [signals]
    intro id request signal targets member
    rw [after] at member
    rcases List.mem_cons.mp member with impossible | within
    · cases impossible
    · apply sound.asking id request signal targets
      rw [calls]
      exact List.mem_cons_of_mem _ within
  · intro id entry found
    rw [pending, OrderedMap.get_set] at found
    split at found
    · cases found
      rcases List.exists_mem_of_ne_nil targets routed with ⟨clientId, member⟩
      exact ⟨clientId, (OrderedSet.mem_ofList _ _).mpr member⟩
    · exact sound.hasTarget id entry found

theorem mem_foldl_delete {entries : List (String × PendingQuestion)}
    {listening : OrderedSet String} {id : String} :
    id ∈ entries.foldl (fun listening entry => listening.delete entry.1) listening ↔
      id ∈ listening ∧ id ∉ entries.map Prod.fst := by
  induction entries generalizing listening with
  | nil => simp
  | cons entry rest induction =>
      rw [List.foldl_cons, induction, OrderedSet.mem_delete, List.map_cons, List.mem_cons,
        not_or, and_assoc]

/-- A question is an orphan of a client exactly when it is pending and that client is its
last target. -/
theorem mem_orphans {bridge : QuestionBridge} {clientId : ClientId} {id : String} :
    id ∈ (bridge.pending.orphans clientId).map Prod.fst ↔
      ∃ pending, bridge.pending.get id = some pending ∧ pending.Orphaned clientId := by
  constructor
  · intro member
    rcases List.mem_map.mp member with ⟨⟨_, pending⟩, listed, rfl⟩
    rcases List.mem_filter.mp listed with ⟨present, orphaned⟩
    exact ⟨pending, (OrderedMap.get_eq_some_iff _ _ _).mpr present, of_decide_eq_true orphaned⟩
  · rintro ⟨pending, found, orphaned⟩
    apply List.mem_map.mpr
    refine ⟨(id, pending), List.mem_filter.mpr ⟨?_, decide_eq_true orphaned⟩, rfl⟩
    exact (OrderedMap.get_eq_some_iff _ _ _).mp found

theorem has_dropClient (bridge : QuestionBridge) (clientId : ClientId) (id : String) :
    OrderedMap.has (bridge.pending.dropClient clientId) id = true ↔
      bridge.pending.has id = true ∧ id ∉ (bridge.pending.orphans clientId).map Prod.fst := by
  rw [mem_orphans, OrderedMap.has_eq_true_iff, OrderedMap.has_eq_true_iff]
  simp only [PendingTable.get_dropClient]
  cases found : bridge.pending.get id with
  | none => simp
  | some pending =>
      by_cases orphaned : pending.Orphaned clientId <;> simp [Option.filter, orphaned]

/-- A client goes: the questions it was the last target of are settled on the spot. -/
theorem Sound.of_disconnect (sound : run.Sound) {clientId : ClientId}
    (bridge : next.bridge = run.bridge.disconnect clientId) (calls : next.calls = run.calls)
    (signals : next.signals = run.signals) (aborted : next.aborted = run.aborted)
    (issued : next.issued = run.issued) : next.Sound := by
  have listeningAfter : ∀ id, id ∈ next.bridge.listening ↔ id ∈ run.bridge.listening ∧
      id ∉ (run.bridge.pending.orphans clientId).map Prod.fst := by
    intro id
    rw [bridge, QuestionBridge.disconnect_eq]
    exact mem_foldl_delete
  have hasAfter : ∀ id, next.bridge.pending.has id = true ↔ run.bridge.pending.has id = true ∧
      id ∉ (run.bridge.pending.orphans clientId).map Prod.fst := by
    intro id
    rw [bridge, QuestionBridge.disconnect_eq]
    exact has_dropClient run.bridge clientId id
  have dispatchedSame : next.dispatched = run.dispatched := by
    rw [dispatched, dispatched, calls]
  constructor
  · intro id
    have askedSame : next.asked = run.asked := by
      rw [asked, asked, calls]
    have decidedAfter : next.decided.map Prod.fst =
        run.decided.map Prod.fst ++ (run.bridge.pending.orphans clientId).map Prod.fst := by
      simp [decided, calls, bridge, QuestionBridge.disconnect_eq, Function.comp_def]
    have orphansOnce : ((run.bridge.pending.orphans clientId).map Prod.fst).Nodup :=
      run.bridge.pending.nodup.sublist (List.filter_sublist.map Prod.fst)
    rw [issued, ← sound.once id]
    simp only [standing, askedSame, decidedAfter, List.count_append, hasAfter, orphansOnce.count]
    by_cases orphan : id ∈ (run.bridge.pending.orphans clientId).map Prod.fst
    · rcases mem_orphans.mp orphan with ⟨pending, found, _⟩
      have present : run.bridge.pending.has id = true :=
        (OrderedMap.has_eq_true_iff _ _).mpr ⟨pending, found⟩
      simp only [orphan, present, not_true, and_false, if_false, if_true]
      omega
    · simp only [orphan, not_false_eq_true, and_true, if_false]
      omega
  · intro id listens
    rcases (listeningAfter id).mp listens with ⟨before, survives⟩
    exact (hasAfter id).mpr ⟨sound.listens id before, survives⟩
  · rw [signals]
    intro id shown present isSignal
    rcases (hasAfter id).mp present with ⟨before, survives⟩
    exact (listeningAfter id).mpr ⟨sound.attends id shown before isSignal, survives⟩
  · rw [signals, aborted, dispatchedSame]
    intro id shown listens isSignal member
    exact sound.owed id shown ((listeningAfter id).mp listens).1 isSignal member
  · rw [signals, aborted, dispatchedSame]
    exact sound.fired
  · rw [signals, issued]
    exact sound.known
  · rw [signals, calls]
    exact sound.asking
  · intro id after found
    rw [bridge, QuestionBridge.disconnect_eq, PendingTable.get_dropClient] at found
    rcases Option.map_eq_some_iff.mp found with ⟨pending, kept, rfl⟩
    rcases Option.filter_eq_some_iff.mp kept with ⟨present, survives⟩
    rcases sound.hasTarget id pending present with ⟨target, member⟩
    by_contra nobody
    by_cases wasTarget : clientId ∈ pending.targets
    · have emptied : (pending.targets.delete clientId).isEmpty = true :=
        (OrderedSet.isEmpty_iff _).mpr fun other member => nobody ⟨other, member⟩
      simp [Outstanding.Orphaned, wasTarget, emptied] at survives
    · refine nobody ⟨target, (OrderedSet.mem_delete _ _ _).mpr ⟨member, ?_⟩⟩
      rintro rfl
      exact wasTarget member

end Preservation

/-! ## One event -/

theorem signals_ask {run : QuestionRun} {questionId : String}
    (noSignal : run.signals.get questionId = none) (signal : Option SignalId) (id : String) :
    OrderedMap.get (match signal with
      | none => run.signals
      | some shown => run.signals.set questionId shown) id =
      if id = questionId then signal else run.signals.get id := by
  cases signal with
  | none =>
      by_cases same : id = questionId
      · simp [same, noSignal]
      · simp [same]
  | some shown => exact OrderedMap.get_set _ _ _ _

theorem Sound.of_refused {run next : QuestionRun} (sound : run.Sound) {questionId : String}
    {signal : Option SignalId} {outcome : AskOutcome} (fresh : questionId ∉ run.issued)
    (bridge : next.bridge =
      { run.bridge with settled := run.bridge.settled ++ [(questionId, outcome)] })
    (calls : next.calls = run.calls)
    (signals : ∀ id, next.signals.get id =
      if id = questionId then signal else run.signals.get id)
    (aborted : next.aborted = run.aborted)
    (issued : next.issued = run.issued.add questionId) : next.Sound := by
  refine sound.of_issued fresh (by rw [bridge]) (by rw [bridge]) signals aborted issued ?_ ?_ ?_
  · intro id
    simp only [asked, decided, calls, bridge, List.map_append, List.count_append, List.map_cons,
      List.map_nil, List.count_singleton, beq_iff_eq]
    omega
  · rw [dispatched, dispatched, calls]
  · intro id request shown targets member
    rw [calls] at member
    exact Or.inl member

theorem Sound.ask {run : QuestionRun} (sound : run.Sound) {questionId : String}
    (fresh : questionId ∉ run.issued) (request : HostQuestionRequest)
    (signal : Option SignalId) : (run.ask questionId request signal).Sound := by
  have noSignal := (sound.of_new fresh).2.2.2
  simp only [QuestionRun.ask]
  split
  · exact sound.of_refused fresh rfl rfl (signals_ask noSignal signal) rfl rfl
  · split
    · exact sound.of_refused fresh rfl rfl (signals_ask noSignal signal) rfl rfl
    · next nobody =>
        refine sound.of_issued fresh rfl rfl (signals_ask noSignal signal) rfl rfl ?_ rfl ?_
        · intro id
          simp only [asked, decided, List.flatMap_cons, Call.asks, Call.tells, List.nil_append,
            List.cons_append, List.count_cons, beq_iff_eq]
          omega
        · intro id other waiting targets member
          rcases List.mem_cons.mp member with same | before
          · cases same
            exact Or.inr ⟨rfl, rfl, fun empty => nobody (List.isEmpty_iff.mpr empty)⟩
          · exact Or.inl before

/-- What a withdrawal or a settlement of a pending question makes of the run. -/
theorem close_eq {run : QuestionRun} {questionId : String} {pending : PendingQuestion}
    (present : run.bridge.pending.has questionId = true) (outcome : AskOutcome)
    (winner : Option ClientId) :
    run.close questionId pending outcome winner =
      { run with
        bridge := { run.bridge with
          pending := run.bridge.pending.delete questionId
          listening := run.bridge.listening.delete questionId }
        calls := .telling questionId outcome winner
          (pending.targets.elements.filter fun clientId => some clientId ≠ winner) ::
            run.calls } := by
  rw [close, if_pos present]

theorem Sound.register {run : QuestionRun} (sound : run.Sound) {questionId : String}
    {request : HostQuestionRequest} {signal : Option SignalId} {targets : List ClientId}
    {outer : List Call} (calls : run.calls = .asking questionId request signal targets :: outer) :
    (run.register questionId request signal targets outer).Sound := by
  have isAsked : questionId ∈ run.asked := by
    rw [QuestionRun.asked, calls]
    exact List.mem_cons_self
  have notPending := (sound.of_asked isAsked).2.1
  have notListening : questionId ∉ run.bridge.listening := by
    intro listens
    have present := sound.listens questionId listens
    rw [notPending] at present
    cases present
  by_cases aborted : run.IsAborted signal
  · simp only [QuestionRun.register, aborted, if_true, withdraw]
    rw [close_eq (by simp [OrderedMap.has])]
    refine sound.of_rejected calls rfl ?_ ?_ rfl rfl rfl rfl ?_ ?_ ?_ ?_
    · apply OrderedMap.delete_set_of_absent
      simpa [OrderedMap.has] using notPending
    · intro id
      rcases aborted with ⟨shown, rfl, _⟩
      rw [OrderedSet.mem_delete, OrderedSet.mem_add]
      constructor
      · rintro ⟨listens | same, other⟩
        · exact listens
        · exact absurd same other
      · intro listens
        exact ⟨Or.inl listens, fun same => notListening (same ▸ listens)⟩
    · rfl
    · rfl
    · rfl
    · intro id request shown targets member
      rcases List.mem_cons.mp member with impossible | within
      · cases impossible
      · exact within
  · simp only [QuestionRun.register, aborted, if_false]
    refine sound.of_registered calls aborted rfl rfl ?_ rfl rfl rfl rfl
    intro id
    cases signal with
    | none => simp
    | some shown => simp [or_comm]

theorem Sound.of_popped {run next : QuestionRun} (sound : run.Sound) {call : Call}
    {outer shorter : List Call} (calls : run.calls = call :: outer)
    (after : next.calls = shorter ++ outer)
    (pending : next.bridge.pending = run.bridge.pending)
    (listening : next.bridge.listening = run.bridge.listening)
    (signals : next.signals = run.signals) (aborted : next.aborted = run.aborted)
    (issued : next.issued = run.issued)
    (decided : next.decided.Perm run.decided)
    (asks : call.asks = [] ∧ shorter.flatMap Call.asks = [])
    (due : ∀ id ∈ call.dispatches, id ∈ run.bridge.listening →
      id ∈ shorter.flatMap Call.dispatches)
    (fired : shorter.flatMap Call.dispatches ⊆ call.dispatches) : next.Sound := by
  refine sound.of_calls pending listening signals aborted issued ?_ decided ?_ ?_ ?_
  · rw [QuestionRun.asked, QuestionRun.asked, calls, after, List.flatMap_append,
      List.flatMap_cons, asks.1, asks.2]
  · intro id listens member
    rw [dispatched, calls, List.flatMap_cons, List.mem_append] at member
    rw [dispatched, after, List.flatMap_append, List.mem_append]
    exact member.imp_left fun now => due id now listens
  · intro id member
    rw [dispatched, after, List.flatMap_append, List.mem_append] at member
    rw [dispatched, calls, List.flatMap_cons, List.mem_append]
    exact member.imp_left fun now => fired now
  · intro id request signal targets member
    rw [after, List.mem_append] at member
    rw [calls]
    refine member.elim (fun within => ?_) (List.mem_cons_of_mem _)
    have asked : id ∈ shorter.flatMap Call.asks :=
      List.mem_flatMap.mpr ⟨_, within, List.mem_singleton_self _⟩
    rw [asks.2] at asked
    cases asked

/-- The innermost call withdraws a question if it is still pending, and goes on. -/
theorem Sound.withdrawPending {run : QuestionRun} (sound : run.Sound) {call rest : Call}
    {outer : List Call} {questionId : String} (calls : run.calls = call :: outer)
    (asks : call.asks = [] ∧ rest.asks = []) (tells : call.tells = [] ∧ rest.tells = [])
    (due : ∀ id ∈ call.dispatches, id = questionId ∨ id ∈ rest.dispatches)
    (listens : questionId ∈ call.dispatches → questionId ∈ run.bridge.listening →
      run.bridge.pending.has questionId = true ∨ questionId ∈ rest.dispatches)
    (fired : rest.dispatches ⊆ call.dispatches) (error : String) :
    (QuestionRun.withdrawPending { run with calls := rest :: outer } questionId error).Sound := by
  have inRest : ∀ id request signal targets,
      .asking id request signal targets ∈ rest :: outer →
        .asking id request signal targets ∈ run.calls := by
    intro id request signal targets member
    rw [calls]
    rcases List.mem_cons.mp member with rfl | within
    · simp [Call.asks] at asks
    · exact List.mem_cons_of_mem _ within
  cases found : run.bridge.pending.get questionId with
  | none =>
      simp only [QuestionRun.withdrawPending, found]
      refine @Sound.of_popped run _ sound call outer [rest] calls rfl rfl rfl rfl rfl rfl ?_
        ⟨asks.1, by simp [asks.2]⟩ ?_ ?_
      · simp [decided, calls, tells]
      · intro id member listening
        rw [List.flatMap_singleton]
        rcases due id member with rfl | later
        · rcases listens member listening with present | later
          · simp [OrderedMap.has, found] at present
          · exact later
        · exact later
      · rw [List.flatMap_singleton]
        exact fired
  | some pending =>
      have present : run.bridge.pending.has questionId = true := by simp [OrderedMap.has, found]
      simp only [QuestionRun.withdrawPending, found, withdraw]
      rw [@close_eq { run with calls := rest :: outer } questionId pending present]
      refine sound.of_close present rfl rfl rfl rfl rfl ?_ ?_ ?_ ?_ inRest
      · rw [QuestionRun.asked, calls, List.flatMap_cons, List.flatMap_cons, asks.1, asks.2]
      · rw [calls, List.flatMap_cons, List.flatMap_cons, tells.1, tells.2]
      · intro id other member
        rw [dispatched, calls, List.flatMap_cons, List.mem_append] at member
        rw [List.flatMap_cons, List.mem_append]
        exact member.imp_left fun now => (due id now).resolve_left other
      · intro id member
        rw [List.flatMap_cons, List.mem_append] at member
        rw [dispatched, calls, List.flatMap_cons, List.mem_append]
        exact member.imp_left fun now => fired now

theorem Sound.of_quiet {run : QuestionRun} (sound : run.Sound) {call : Call}
    {outer : List Call} (calls : run.calls = call :: outer) (quiet : call.Quiet)
    (shorter : List Call) (stays : ∀ rest ∈ shorter, rest.Quiet) :
    ({ run with calls := shorter ++ outer } : QuestionRun).Sound := by
  have nothing : ∀ {β} (part : Call → List β), (∀ rest ∈ shorter, part rest = []) →
      shorter.flatMap part = [] := fun part none => List.flatMap_eq_nil_iff.mpr none
  refine sound.of_popped calls rfl rfl rfl rfl rfl rfl ?_
    ⟨quiet.1, nothing _ fun rest member => (stays rest member).1⟩ ?_ ?_
  · rw [decided, decided, calls, List.flatMap_append, List.flatMap_cons, quiet.2.1,
      nothing _ fun rest member => (stays rest member).2.1]
  · rw [quiet.2.2.1]
    exact fun id member => by cases member
  · rw [nothing _ fun rest member => (stays rest member).2.2.1]
    exact List.nil_subset _

theorem quiet_registered {questionId : String} {params : QuestionRequestParams}
    {targets : List ClientId} : (Call.registered questionId params targets).Quiet :=
  ⟨rfl, rfl, rfl, rfl⟩

theorem quiet_surfacing {questionId : String} {params : QuestionRequestParams}
    {targets : List ClientId} : (Call.surfacing questionId params targets).Quiet :=
  ⟨rfl, rfl, rfl, rfl⟩

theorem Sound.advance {run : QuestionRun} (sound : run.Sound) : run.advance.Sound := by
  have noCall : ∀ rest ∈ ([] : List Call), rest.Quiet := fun rest member => by cases member
  simp only [QuestionRun.advance]
  split
  · exact sound
  · next calls => exact sound.register calls
  · next questionId params targets outer calls =>
      split
      · split
        · exact sound.of_quiet calls quiet_registered [] noCall
        · next remaining =>
            refine sound.of_quiet calls quiet_registered [_] ?_
            intro rest member
            rw [List.mem_singleton.mp member]
            exact quiet_surfacing
      · exact sound.of_quiet calls quiet_registered [] noCall
  · next calls => exact sound.of_quiet calls quiet_surfacing [] noCall
  · next calls =>
      refine sound.of_quiet calls quiet_surfacing [_] ?_
      intro rest member
      rw [List.mem_singleton.mp member]
      exact quiet_surfacing
  · next questionId outcome closed outer calls =>
      refine @Sound.of_popped run _ sound _ _ [] calls rfl rfl rfl rfl rfl rfl ?_ ⟨rfl, rfl⟩
        (fun id member => by cases member) (List.nil_subset _)
      simp only [decided, promise, calls, List.flatMap_cons, Call.tells, List.cons_append,
        List.nil_append, ← List.append_assoc]
      exact List.perm_append_singleton _ _
  · next questionId outcome closed client remaining outer calls =>
      refine @Sound.of_popped run _ sound _ _ [_] calls rfl rfl rfl rfl rfl rfl ?_ ⟨rfl, rfl⟩
        (fun id member => by cases member) (List.nil_subset _)
      simp [decided, calls, Call.tells]
  · next calls => exact sound.of_quiet calls ⟨rfl, rfl, rfl, rfl⟩ [] noCall
  · next questionId listeners outer calls =>
      split
      · next listens =>
          refine sound.withdrawPending calls ⟨rfl, rfl⟩ ⟨rfl, rfl⟩ ?_ ?_ ?_ abortedError
          · exact fun id member => List.mem_cons.mp member
          · exact fun _ _ => Or.inl (sound.listens questionId listens)
          · exact List.subset_cons_self _ _
      · next notListening =>
          refine @Sound.of_popped run _ sound _ _ [_] calls rfl rfl rfl rfl rfl rfl ?_
            ⟨rfl, rfl⟩ ?_ ?_
          · simp [decided, calls, Call.tells]
          · intro id member listening
            rw [List.flatMap_singleton]
            rcases List.mem_cons.mp member with rfl | later
            · exact absurd listening notListening
            · exact later
          · rw [List.flatMap_singleton]
            exact List.subset_cons_self _ _
  · next calls => exact sound.of_quiet calls ⟨rfl, rfl, rfl, rfl⟩ [] noCall
  · next questionId remaining outer calls =>
      refine sound.withdrawPending calls ⟨rfl, rfl⟩ ⟨rfl, rfl⟩ ?_ ?_ ?_ disposedError
      · exact fun id member => by cases member
      · exact fun member => by cases member
      · exact List.nil_subset _

theorem Sound.of_fired {run next : QuestionRun} (sound : run.Sound) {signal : SignalId}
    (bridge : next.bridge = run.bridge)
    (calls : next.calls = .dispatching (run.listenersOf signal) :: run.calls)
    (signals : next.signals = run.signals) (aborted : next.aborted = run.aborted.add signal)
    (issued : next.issued = run.issued) : next.Sound := by
  have dispatchedAfter : ∀ id, id ∈ next.dispatched ↔
      (id ∈ run.bridge.listening ∧ run.signals.get id = some signal) ∨ id ∈ run.dispatched := by
    intro id
    rw [dispatched, calls, List.flatMap_cons, List.mem_append, Call.dispatches, listenersOf,
      List.mem_filter, decide_eq_true_eq]
    rfl
  constructor
  · intro id
    have standingSame : next.standing id = run.standing id := by
      simp only [standing, asked, decided, bridge, calls, List.flatMap_cons, Call.asks, Call.tells,
        List.nil_append]
    rw [standingSame, issued]
    exact sound.once id
  · rw [bridge]
    exact sound.listens
  · rw [bridge, signals]
    exact sound.attends
  · intro id shown listens isSignal member
    rw [bridge] at listens
    rw [signals] at isSignal
    rw [aborted, OrderedSet.mem_add] at member
    apply (dispatchedAfter id).mpr
    rcases member with before | rfl
    · exact Or.inr (sound.owed id shown listens isSignal before)
    · exact Or.inl ⟨listens, isSignal⟩
  · intro id due
    rw [signals, aborted]
    rcases (dispatchedAfter id).mp due with ⟨_, isSignal⟩ | before
    · exact ⟨signal, isSignal, (OrderedSet.mem_add _ _ _).mpr (Or.inr rfl)⟩
    · rcases sound.fired id before with ⟨shown, isSignal, member⟩
      exact ⟨shown, isSignal, (OrderedSet.mem_add _ _ _).mpr (Or.inl member)⟩
  · rw [signals, issued]
    exact sound.known
  · intro id request shown targets member
    rw [calls] at member
    rw [signals]
    rcases List.mem_cons.mp member with impossible | before
    · cases impossible
    · exact sound.asking id request shown targets before
  · rw [bridge]
    exact sound.hasTarget

theorem Sound.perform {run : QuestionRun} (sound : run.Sound) {event : QuestionEvent}
    (possible : run.Possible event) : (run.perform event).1.Sound := by
  cases event with
  | ask questionId request signal => exact sound.ask possible.2.2.1 request signal
  | advance environment => exact sound.advance
  | answer clientId params =>
      simp only [QuestionRun.perform, answer]
      cases granted : run.bridge.pending.answerable "question" clientId params.questionId with
      | error refused => exact sound
      | ok pending =>
          rcases (PendingTable.answerable_ok_iff _ _ _ _ _).mp granted with ⟨found, _⟩
          have present : run.bridge.pending.has params.questionId = true :=
            (OrderedMap.has_eq_true_iff _ _).mpr ⟨pending, found⟩
          simp only [settle]
          rw [close_eq present]
          exact sound.of_close present rfl rfl rfl rfl rfl rfl rfl (fun id _ member => member)
            (List.Subset.refl _) (fun id request signal targets member => member)
  | disconnect environment clientId => exact sound.of_disconnect rfl rfl rfl rfl rfl
  | abort signal => exact sound.of_fired rfl rfl rfl rfl rfl
  | dispose =>
      refine sound.of_calls rfl rfl rfl rfl rfl rfl (List.Perm.refl _) (fun id _ member => member)
        (List.Subset.refl _) ?_
      intro id request signal targets member
      rcases List.mem_cons.mp member with impossible | before
      · cases impossible
      · exact before
  | broker event =>
      exact sound.of_calls rfl rfl rfl rfl rfl rfl (List.Perm.refl _) (fun id _ member => member)
        (List.Subset.refl _) (fun id request signal targets member => member)

end QuestionRun

end DshRemote.Backend
