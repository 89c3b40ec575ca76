import DshRemote.Core.PeerCalls

/-! # Calls are settled once

A call is settled by a response with its id, by its own signal or timer, or by the end of the
stream. A peer that has lost its stream still enters new calls into its table. -/

namespace DshRemote

open Json

variable {Number : Type} [DecidableEq Number] {format : CountingFormat Number}
  {parseDetail : Text → Text}

/-- What holds of a peer with what has happened at it. -/
structure Settling (format : CountingFormat Number) (requestTimeoutMs : Number)
    (run : PeerRun Number) : Prop where
  accounted : ∃ lost, Accounted format run lost
  remembers : Remembers run
  timeout : run.peer.requestTimeoutMs = requestTimeoutMs
  causes : ∀ before event output after, run.log = before ++ (event, output) :: after →
    ∀ call settlement, (call, settlement) ∈ output.settled →
      SettledBy format (PeerRun.start requestTimeoutMs).peer before call event output settlement

namespace Settling

variable {requestTimeoutMs : Number} {run : PeerRun Number}

theorem start (requestTimeoutMs : Number) :
    Settling format requestTimeoutMs (PeerRun.start requestTimeoutMs) where
  accounted := ⟨[], accounted_start requestTimeoutMs⟩
  remembers := ⟨nofun, nofun, nofun⟩
  timeout := rfl
  causes := fun before _ _ _ split => by cases before <;> cases split

omit [DecidableEq Number] in
theorem settledBy_of_timeout {peer other : JsonRpcPeer Number} {before : PeerLog Number}
    {call : Nat} {event : PeerEvent Number} {output : PeerOutput Number}
    {settlement : Settlement Number} (same : peer.requestTimeoutMs = other.requestTimeoutMs)
    (settled : SettledBy format peer before call event output settlement) :
    SettledBy format other before call event output settlement := by
  cases settled with
  | response handled isResponse bears told => exact .response handled isResponse bears told
  | aborted started => exact .aborted started
  | abortedBefore aborted called => exact .abortedBefore aborted called
  | timedOut started =>
      rw [JsonRpcPeer.timeoutError, same]
      exact .timedOut started
  | teardown torn => exact .teardown torn

theorem requestTimeoutMs_perform (peer : JsonRpcPeer Number) (event : PeerEvent Number) :
    (peer.perform format parseDetail event).1.requestTimeoutMs = peer.requestTimeoutMs := by
  cases event with
  | call method params signal =>
      rw [JsonRpcPeer.perform, JsonRpcPeer.call]
      split <;> rfl
  | abort signal => exact (JsonRpcPeer.shrinks_withdrawAll _).requestTimeoutMs
  | notify _ _ | on _ | onNotification _ | timeout _ | chunk _ | handle _ | finished _ _
  | streamEnded _ =>
      exact (JsonRpcPeer.shrinks_perform (by simp) (by simp)).requestTimeoutMs

theorem perform (settling : Settling format requestTimeoutMs run) (event : PeerEvent Number) :
    Settling format requestTimeoutMs (run.perform format parseDetail event) where
  accounted := settling.accounted.elim fun _ accounted => ⟨_, accounted.perform event⟩
  remembers := settling.remembers.perform event
  timeout := (requestTimeoutMs_perform run.peer event).trans settling.timeout
  causes := by
    intro before earlier output after split call settlement member
    rcases snoc_split split with ⟨_, now, rfl⟩ | ⟨others, _, past⟩
    · cases now
      rcases settling.accounted with ⟨_, accounted⟩
      exact settledBy_of_timeout settling.timeout
        (settledBy_perform accounted.fits settling.remembers member)
    · exact settling.causes before earlier output others past call settlement member

theorem handle_foreign (settling : Settling format requestTimeoutMs run)
    {message response : Json Number} {rest : List (Json Number)}
    (queue : run.peer.queue = message :: rest)
    (isResponse : JsonRpc.handleMessage format.toNumberFormat message = .response response)
    (foreign : ∀ call, JsonRpc.property response "id" = some (.number (format.count call)) →
      call ∈ PeerLog.settled run.log ∨ call ∉ PeerLog.started run.log)
    (atOnce : Option (Thrown Number)) :
    run.peer.perform format parseDetail (.handle atOnce) =
      ({ run.peer with queue := rest }, { handled := some message }) := by
  rcases settling.accounted with ⟨lost, accounted⟩
  have unknown : ∀ id, JsonRpc.property response "id" = some (.number id) →
      run.peer.pending.get id = none := by
    intro id isId
    cases found : run.peer.pending.get id with
    | none => rfl
    | some call =>
        have member := OrderedMap.mem_values_of_get found
        rw [(accounted.fits id call found).1] at isId
        rcases foreign call isId with settled | never
        · exact (List.disjoint_of_nodup_append (List.nodup_append.mp accounted.nodup).1
            settled member).elim
        · exact absurd (accounted.calls.subset
            (List.mem_append_left _ (List.mem_append_right _ member))) never
  rw [JsonRpcPeer.perform, JsonRpcPeer.handle, queue]
  dsimp only
  rw [JsonRpcPeer.handleMessage, isResponse]
  dsimp only
  rw [JsonRpcPeer.handleResponse]
  split
  · next id isId =>
    dsimp only
    rw [unknown id isId]
  · rfl

end Settling

theorem settling_of_reached {requestTimeoutMs : Number} {events : List (PeerEvent Number)}
    {run : PeerRun Number}
    (reached : Execution.run (PeerRun.step format parseDetail) (PeerRun.start requestTimeoutMs)
      events = some run) : Settling format requestTimeoutMs run := by
  refine Execution.reachable_invariant (Settling format requestTimeoutMs)
    (fun settling stepped => ?_) (.start requestTimeoutMs) reached
  rcases PeerRun.step_eq_some stepped with ⟨_, rfl⟩
  exact settling.perform _

/-- Every call of a peer is settled at most once, and for a reason of its own. A response that
belongs to no pending call changes nothing, and a call that is withdrawn is cancelled once. -/
theorem reachable_callsSettle {requestTimeoutMs : Number} {events : List (PeerEvent Number)}
    {run : PeerRun Number}
    (reached : Execution.run (PeerRun.step format parseDetail) (PeerRun.start requestTimeoutMs)
      events = some run) :
    (PeerLog.settled run.log).Nodup ∧
      (∀ before event output after, run.log = before ++ (event, output) :: after →
        ∀ call settlement, (call, settlement) ∈ output.settled →
          SettledBy format (PeerRun.start requestTimeoutMs).peer before call event output
            settlement) ∧
      (∀ message response rest, run.peer.queue = message :: rest →
        JsonRpc.handleMessage format.toNumberFormat message = .response response →
        (∀ call, JsonRpc.property response "id" = some (.number (format.count call)) →
          call ∈ PeerLog.settled run.log ∨ call ∉ PeerLog.started run.log) →
        ∀ atOnce, run.peer.perform format parseDetail (.handle atOnce) =
          ({ run.peer with queue := rest }, { handled := some message })) ∧
      ∀ call, PeerLog.cancels format call run.log =
        if call ∈ PeerLog.withdrawn run.log then 1 else 0 := by
  have settling := settling_of_reached reached
  rcases settling.accounted with ⟨lost, accounted⟩
  have settledOnce := (List.nodup_append.mp (List.nodup_append.mp accounted.nodup).1).1
  refine ⟨settledOnce, settling.causes, fun message response rest queue isResponse foreign =>
    settling.handle_foreign queue isResponse foreign, fun call => ?_⟩
  rw [cancels_eq_count_withdrawn reached]
  exact (settledOnce.sublist (PeerLog.withdrawn_sublist run.log)).count

/-- A call is made, and then its signal is aborted. -/
theorem abortedCall_callsSettle :
    ∃ run, Execution.run (PeerRun.step countingIntegers id) (PeerRun.start (30000 : Int))
        [.call (asciiText "ping") none (some 0), .abort 0] = some run ∧
      PeerLog.settled run.log = [1] ∧ (PeerLog.settled run.log).Nodup ∧
        PeerLog.cancels countingIntegers 1 run.log = 1 := by
  have run : ∃ run, Execution.run (PeerRun.step countingIntegers id)
        (PeerRun.start (30000 : Int)) [.call (asciiText "ping") none (some 0), .abort 0] = some run ∧
      PeerLog.settled run.log = [1] ∧ PeerLog.withdrawn run.log = [1] :=
    ⟨_, rfl, rfl, rfl⟩
  rcases run with ⟨run, reached, settled, withdrawn⟩
  have settles := reachable_callsSettle reached
  refine ⟨run, reached, settled, settles.1, (settles.2.2.2 1).trans ?_⟩
  rw [withdrawn]
  rfl

/-- A call whose signal has been aborted before is rejected, and nothing is sent. -/
theorem abortedBefore_sendsNothing :
    ∃ run, Execution.run (PeerRun.step countingIntegers id) (PeerRun.start (30000 : Int))
        [.abort 0, .call (asciiText "ping") none (some 0)] = some run ∧
      run.peer.closed = false ∧
      run.log.flatMap (fun entry => entry.2.settled) =
        [(1, .rejected (JsonRpcPeer.abortedError (asciiText "ping")))] ∧
      PeerLog.cancels countingIntegers 1 run.log = 0 :=
  ⟨_, rfl, rfl, rfl, rfl⟩

/-! ## The end of the stream -/

/-- A step goes on, or it is the end and empties the table. -/
def JsonRpcPeer.Closes (before : JsonRpcPeer Number)
    (result : JsonRpcPeer Number × PeerOutput Number) : Prop :=
  result.2.teardown = none ∧ result.1.closed = before.closed ∨
    result.2.teardown.isSome = true ∧ result.1.closed = true ∧ result.1.pending = .empty

namespace JsonRpcPeer

variable {peer : JsonRpcPeer Number}

theorem closes_withdraw (callback : Callback) (error : RpcError Number) :
    peer.Closes (peer.withdraw format callback error) := by
  rw [withdraw]
  split <;> exact Or.inl ⟨rfl, rfl⟩

theorem closes_withdrawAll (callbacks : List Callback) :
    peer.Closes (peer.withdrawAll format callbacks) := by
  have stays : (peer.withdrawAll format callbacks).2.teardown = none ∧
      (peer.withdrawAll format callbacks).1.closed = peer.closed := by
    induction callbacks generalizing peer with
    | nil => exact ⟨rfl, rfl⟩
    | cons callback rest induction =>
        have first : (peer.withdraw format callback (abortedError callback.method)).1.closed =
            peer.closed := by
          rw [withdraw]
          split <;> rfl
        exact ⟨induction.1, induction.2.trans first⟩
  exact Or.inl stays

theorem closes_handleMessage (message : Json Number) (atOnce : Option (Thrown Number)) :
    peer.Closes (peer.handleMessage format message atOnce) := by
  have meets := @meets_handleMessage _ format _ peer message atOnce
  generalize peer.handleMessage format message atOnce = result at meets ⊢
  cases meets with
  | passed | refused | answered | started | settled => exact Or.inl ⟨rfl, rfl⟩
  | failed => exact Or.inr ⟨rfl, rfl, rfl⟩

theorem closes_perform (event : PeerEvent Number) :
    peer.Closes (peer.perform format parseDetail event) := by
  cases event with
  | call method params signal =>
      rw [perform, call]
      split <;> exact Or.inl ⟨rfl, rfl⟩
  | notify _ _ | on _ | onNotification _ => exact Or.inl ⟨rfl, rfl⟩
  | abort signal => exact closes_withdrawAll _
  | timeout timed =>
      rw [perform, timeout]
      split
      · exact Or.inl ⟨rfl, rfl⟩
      · exact closes_withdraw _ _
  | chunk octets =>
      rw [perform, chunk]
      dsimp only
      split
      · exact Or.inl ⟨rfl, rfl⟩
      · exact Or.inr ⟨rfl, rfl, rfl⟩
  | handle atOnce =>
      rw [perform, handle]
      split
      · exact Or.inl ⟨rfl, rfl⟩
      · exact closes_handleMessage _ _
  | finished request outcome =>
      rw [perform, finished]
      split <;> exact Or.inl ⟨rfl, rfl⟩
  | streamEnded failure => exact Or.inr ⟨rfl, rfl, rfl⟩

theorem closed_of_lost {event : PeerEvent Number} {call : Nat}
    (lost : peer.lost format event = some call) :
    (peer.perform format parseDetail event).1.closed = true := by
  cases event with
  | handle atOnce =>
      rw [JsonRpcPeer.lost] at lost
      rw [perform, handle]
      cases queue : peer.queue with
      | nil => rw [queue] at lost; cases lost
      | cons message rest =>
          rw [queue] at lost
          have lost : ({ peer with queue := rest } : JsonRpcPeer Number).lostBy format message =
              some call := lost
          dsimp only
          rcases closes_handleMessage message atOnce with ⟨goesOn, _⟩ | ⟨_, closed, _⟩
          · cases lost.symm.trans ((meets_handleMessage _ message atOnce).readable goesOn)
          · exact closed
  | _ => cases lost

theorem called_handleMessage (message : Json Number) (atOnce : Option (Thrown Number)) :
    (peer.handleMessage format message atOnce).2.called = none := by
  have meets := @meets_handleMessage _ format _ peer message atOnce
  generalize peer.handleMessage format message atOnce = result at meets ⊢
  cases meets <;> rfl

theorem called_perform {event : PeerEvent Number} {call : Nat}
    (called : (peer.perform format parseDetail event).2.called = some call) :
    ∃ method params signal, event = .call method params signal := by
  cases event with
  | call method params signal => exact ⟨method, params, signal, rfl⟩
  | notify _ _ | on _ | onNotification _ | streamEnded _ => cases called
  | abort signal => cases (called_withdrawAll _ _).symm.trans called
  | timeout timed =>
      rw [perform, timeout] at called
      split at called
      · cases called
      · rw [withdraw] at called
        split at called <;> cases called
  | chunk octets =>
      rw [perform, chunk] at called
      dsimp only at called
      split at called <;> cases called
  | handle atOnce =>
      rw [perform, handle] at called
      split at called
      · cases called
      · cases (called_handleMessage _ _).symm.trans called
  | finished request outcome =>
      rw [perform, finished] at called
      split at called <;> cases called

end JsonRpcPeer

/-- What is promised of calls when the stream has ended: none is pending, and those that were made
have been settled. -/
def Drained (run : PeerRun Number) : Prop :=
  run.peer.closed = true →
    run.peer.pending.values = [] ∧
      ∀ call ∈ PeerLog.started run.log, call ∈ PeerLog.settled run.log

/-- What is promised of calls that are made after the end. -/
def RejectsLate (run : PeerRun Number) : Prop :=
  ∀ before event output after, run.log = before ++ (event, output) :: after →
    (∃ entry ∈ before, entry.2.teardown.isSome = true) → ∀ call, output.called = some call →
      ∃ error, output.settled = [(call, .rejected error)] ∧ error.code = .connLost

/-- No call is made after the end, and the error of a response to a pending call can be read. -/
def Sheltered (format : CountingFormat Number) (run : PeerRun Number) (event : PeerEvent Number) :
    Prop :=
  (∀ method params signal, event = .call method params signal → run.peer.closed = false) ∧
    run.peer.lost format event = none

/-- The log tells whether the stream has ended. -/
def ClosedLogged (run : PeerRun Number) : Prop :=
  run.peer.closed = true ↔ ∃ entry ∈ run.log, entry.2.teardown.isSome = true

theorem ClosedLogged.perform {run : PeerRun Number} (logged : ClosedLogged run)
    (event : PeerEvent Number) : ClosedLogged (run.perform format parseDetail event) := by
  have grown : (∃ entry ∈ (run.perform format parseDetail event).log,
      entry.2.teardown.isSome = true) ↔ (∃ entry ∈ run.log, entry.2.teardown.isSome = true) ∨
        (run.peer.perform format parseDetail event).2.teardown.isSome = true := by
    rw [PeerRun.perform]
    simp only [List.mem_append, List.mem_singleton, or_and_right, exists_or, exists_eq_left]
  rw [ClosedLogged, grown]
  refine Iff.trans ?_ (or_congr_left logged)
  rcases @JsonRpcPeer.closes_perform _ _ format parseDetail run.peer event with
    ⟨none, same⟩ | ⟨some, closed, _⟩
  · rw [none]
    show (run.peer.perform format parseDetail event).1.closed = true ↔ _
    rw [same]
    exact (or_iff_left Bool.false_ne_true).symm
  · exact iff_of_true closed (Or.inr some)

theorem closedLogged_of_reached {requestTimeoutMs : Number} {events : List (PeerEvent Number)}
    {run : PeerRun Number}
    (reached : Execution.run (PeerRun.step format parseDetail) (PeerRun.start requestTimeoutMs)
      events = some run) : ClosedLogged run := by
  refine Execution.reachable_invariant ClosedLogged (fun logged stepped => ?_) ?_ reached
  · rcases PeerRun.step_eq_some stepped with ⟨_, rfl⟩
    exact logged.perform _
  · exact iff_of_false (by exact nofun) (by rintro ⟨_, member, _⟩; cases member)

/-- A run without late calls and unreadable responses. -/
structure Calm (format : CountingFormat Number) (run : PeerRun Number) : Prop where
  accounted : Accounted format run []
  logged : ClosedLogged run
  empty : run.peer.closed = true → run.peer.pending.values = []
  late : RejectsLate run

theorem Calm.perform {run : PeerRun Number} (calm : Calm format run) {event : PeerEvent Number}
    (sheltered : Sheltered format run event) :
    Calm format (run.perform format parseDetail event) where
  accounted := by
    have accounted := @Accounted.perform _ _ format parseDetail _ _ calm.accounted event
    rw [sheltered.2] at accounted
    exact accounted
  logged := calm.logged.perform event
  empty := by
    intro closed
    rcases @JsonRpcPeer.closes_perform _ _ format parseDetail run.peer event with
      ⟨_, same⟩ | ⟨_, _, emptied⟩
    · have before := calm.empty (same.symm.trans closed)
      have balanced := @JsonRpcPeer.balanced_perform _ _ format parseDetail _ calm.accounted.fits
        event
      have calls := balanced.calls
      have notCalled : (run.peer.perform format parseDetail event).2.called = none := by
        cases called : (run.peer.perform format parseDetail event).2.called with
        | none => rfl
        | some call =>
            rcases JsonRpcPeer.called_perform called with ⟨method, params, signal, isCall⟩
            cases (sheltered.1 method params signal isCall).symm.trans (same.symm.trans closed)
      rw [before, notCalled] at calls
      exact (List.append_eq_nil_iff.mp
        (List.append_eq_nil_iff.mp (List.perm_nil.mp calls)).1).2
    · exact congrArg OrderedMap.values emptied
  late := by
    intro before earlier output after split ended call called
    rcases snoc_split split with ⟨_, now, rfl⟩ | ⟨others, _, past⟩
    · cases now
      rcases JsonRpcPeer.called_perform called with ⟨method, params, signal, rfl⟩
      have isOpen := sheltered.1 method params signal rfl
      rw [calm.logged.mpr ended] at isOpen
      cases isOpen
    · exact calm.late before earlier output others past ended call called

theorem Calm.drained {run : PeerRun Number} (calm : Calm format run) : Drained run := by
  intro closed
  have empty := calm.empty closed
  refine ⟨empty, fun call started => ?_⟩
  have calls := calm.accounted.calls
  rw [empty, List.append_nil, List.append_nil] at calls
  exact calls.symm.subset started

/-- A call that is made after the end is not rejected as it should be. -/
theorem not_rejectsLate {run : PeerRun Number} (logged : ClosedLogged run)
    (closed : run.peer.closed = true) (method : Text) (params : Option (Json Number))
    (signal : Option Nat) :
    ¬RejectsLate (run.perform format parseDetail (.call method params signal)) := by
  intro rejects
  rcases rejects run.log _ _ [] rfl (logged.mp closed) run.peer.nextId (by
    rw [JsonRpcPeer.perform, JsonRpcPeer.call]
    split <;> rfl) with ⟨error, settled, code⟩
  rw [JsonRpcPeer.perform, JsonRpcPeer.call] at settled
  split at settled
  · cases settled
    cases code
  · cases settled

/-- Calls are rejected at the end of the stream and after it in the states of a run, exactly when
none is made after the end and none is lost. -/
theorem reachable_drained_iff {requestTimeoutMs : Number} {events : List (PeerEvent Number)}
    {run : PeerRun Number}
    (reached : Execution.run (PeerRun.step format parseDetail) (PeerRun.start requestTimeoutMs)
      events = some run) :
    (∀ first rest middle, events = first ++ rest →
      Execution.run (PeerRun.step format parseDetail) (PeerRun.start requestTimeoutMs) first =
        some middle → Drained middle ∧ RejectsLate middle) ↔
      Execution.AllSteps (PeerRun.step format parseDetail) (Sheltered format)
        (PeerRun.start requestTimeoutMs) events := by
  constructor
  · intro holds
    refine (Execution.AllSteps.iff_forall_split reached).mpr fun first event rest middle split
      reachedMiddle => ?_
    have continued := reached
    rw [split, Execution.run_append, reachedMiddle, Option.bind_some, Execution.run_cons]
      at continued
    rcases Option.bind_eq_some_iff.mp continued with ⟨next, stepped, _⟩
    rcases PeerRun.step_eq_some stepped with ⟨_, rfl⟩
    have reachedNext := Execution.run_snoc reachedMiddle stepped
    rcases holds (first ++ [event]) rest _ (by rw [split, List.append_assoc]; rfl) reachedNext with
      ⟨drained, rejects⟩
    refine ⟨fun method params signal isCall => ?_, ?_⟩
    · cases closed : middle.peer.closed with
      | false => rfl
      | true =>
          rw [isCall] at rejects
          exact absurd rejects
            (not_rejectsLate (closedLogged_of_reached reachedMiddle) closed method params signal)
    · cases lost : middle.peer.lost format event with
      | none => rfl
      | some call =>
          rcases (settling_of_reached reachedMiddle).accounted with ⟨earlier, accounted⟩
          have next := @Accounted.perform _ _ format parseDetail _ _ accounted event
          have isLost : call ∈ earlier ++ (middle.peer.lost format event).toList := by
            rw [lost]
            exact List.mem_append_right _ List.mem_cons_self
          have started := next.calls.subset (List.mem_append_right _ isLost)
          have settled := (drained (JsonRpcPeer.closed_of_lost lost)).2 call started
          exact (List.disjoint_of_nodup_append next.nodup (List.mem_append_left _ settled)
            isLost).elim
  · intro conditions first rest middle split reachedMiddle
    rw [split] at conditions
    have calm := Execution.run_invariant (Calm format) (fun calm sheltered stepped => by
      rcases PeerRun.step_eq_some stepped with ⟨_, rfl⟩
      exact calm.perform sheltered) ?_
      ((Execution.AllSteps.append_iff reachedMiddle).mp conditions).1 reachedMiddle
    · exact ⟨calm.drained, calm.late⟩
    · exact
        { accounted := accounted_start requestTimeoutMs
          logged := @closedLogged_of_reached _ _ format parseDetail requestTimeoutMs [] _ rfl
          empty := nofun
          late := fun before _ _ _ split => by cases before <;> cases split }

/-- A call in flight is rejected when the stream ends. -/
theorem calledBeforeEnd_drained :
    ∃ run, Execution.run (PeerRun.step countingIntegers id) (PeerRun.start (0 : Int))
        [.call (asciiText "ping") none none, .streamEnded none] = some run ∧
      run.peer.closed = true ∧ PeerLog.settled run.log = [1] ∧ Drained run ∧ RejectsLate run := by
  have run : ∃ run, Execution.run (PeerRun.step countingIntegers id) (PeerRun.start (0 : Int))
        [.call (asciiText "ping") none none, .streamEnded none] = some run ∧
      run.peer.closed = true ∧ PeerLog.settled run.log = [1] := ⟨_, rfl, rfl, rfl⟩
  rcases run with ⟨run, reached, closed, settled⟩
  have sheltered : Execution.AllSteps (PeerRun.step countingIntegers id)
      (Sheltered countingIntegers) (PeerRun.start (0 : Int))
      [.call (asciiText "ping") none none, .streamEnded none] :=
    ⟨⟨fun _ _ _ _ => rfl, rfl⟩, ⟨⟨nofun, rfl⟩, trivial⟩⟩
  exact ⟨run, reached, closed, settled,
    (reachable_drained_iff reached).mpr sheltered _ [] run (List.append_nil _).symm reached⟩

/-- A call that is made after the end stays pending, and no timer will settle it. -/
theorem calledAfterEnd_staysPending :
    ∃ run, Execution.run (PeerRun.step countingIntegers id) (PeerRun.start (0 : Int))
        [.streamEnded none, .call (asciiText "ping") none none] = some run ∧
      run.peer.closed = true ∧ run.peer.pending.values = [1] ∧ run.peer.timers = [] ∧
        PeerLog.started run.log = [1] ∧ PeerLog.settled run.log = [] :=
  ⟨_, rfl, rfl, rfl, rfl, rfl, rfl⟩

end DshRemote
