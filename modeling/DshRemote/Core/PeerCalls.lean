import DshRemote.Core.PeerInbound
import DshRemote.Foundation.Execution

/-! # The calls of a peer

A call is settled, or it is pending, or the response to it could not be read. No call is two of
these, and none is one of them twice. -/

namespace DshRemote

open Json

variable {Number : Type} [DecidableEq Number] {format : CountingFormat Number}
  {parseDetail : Text → Text}

namespace PeerOutput

omit [DecidableEq Number] in
theorem settled_append (first second : PeerOutput Number) :
    (first.append second).settled = first.settled ++ second.settled := rfl

/-- The calls that are settled. -/
def settledCalls (output : PeerOutput Number) : List Nat := output.settled.map Prod.fst

end PeerOutput

namespace JsonRpcPeer

/-- The ids of the pending calls are their numbers. -/
def Fits (format : CountingFormat Number) (peer : JsonRpcPeer Number) : Prop :=
  ∀ key call, peer.pending.get key = some call → key = format.count call ∧ call < peer.nextId

/-- What an event does to the calls. -/
structure Balanced (format : CountingFormat Number) (before : JsonRpcPeer Number)
    (result : JsonRpcPeer Number × PeerOutput Number) (lost : Option Nat) : Prop where
  fits : result.1.Fits format
  nextId : result.1.nextId = before.nextId + result.2.called.toList.length
  called : ∀ call ∈ result.2.called, call = before.nextId
  calls : (result.2.settledCalls ++ result.1.pending.values ++ lost.toList).Perm
    (before.pending.values ++ result.2.called.toList)

variable {peer : JsonRpcPeer Number}

theorem Fits.get_count (fits : peer.Fits format) {call : Nat}
    (known : peer.pending.has (format.count call) = true) :
    peer.pending.get (format.count call) = some call := by
  rcases (OrderedMap.has_eq_true_iff _ _).mp known with ⟨other, found⟩
  rw [found, format.count_injective (fits _ _ found).1]

theorem Fits.delete (fits : peer.Fits format) {later : JsonRpcPeer Number} {id : Number}
    (pending : later.pending = peer.pending.delete id) (nextId : later.nextId = peer.nextId) :
    later.Fits format := by
  intro key call found
  rw [pending] at found
  rw [nextId]
  exact fits key call (OrderedMap.of_get_delete found).2

theorem Fits.same (fits : peer.Fits format) {later : JsonRpcPeer Number}
    (pending : later.pending = peer.pending) (nextId : later.nextId = peer.nextId) :
    later.Fits format := by
  intro key call found
  rw [nextId]
  exact fits key call (pending ▸ found)

theorem Balanced.same (fits : peer.Fits format) {later : JsonRpcPeer Number}
    {output : PeerOutput Number} (pending : later.pending = peer.pending)
    (nextId : later.nextId = peer.nextId) (called : output.called = none)
    (settled : output.settled = []) : Balanced format peer (later, output) none where
  fits := fits.same pending nextId
  nextId := by rw [called]; exact nextId
  called := by rw [called]; nofun
  calls := by
    rw [PeerOutput.settledCalls, settled, called, pending]
    exact .refl _

theorem Balanced.delete (fits : peer.Fits format) {later : JsonRpcPeer Number}
    {output : PeerOutput Number} {id : Number} {call : Nat}
    (found : peer.pending.get id = some call)
    (pending : later.pending = peer.pending.delete id) (nextId : later.nextId = peer.nextId)
    (called : output.called = none) (settled : output.settledCalls = [call]) :
    Balanced format peer (later, output) none where
  fits := fits.delete pending nextId
  nextId := by rw [called]; exact nextId
  called := by rw [called]; nofun
  calls := by
    rw [settled, called, pending]
    simpa using (OrderedMap.values_delete_perm found).symm

theorem balanced_teardown (peer : JsonRpcPeer Number) (failure : Option (RpcError Number)) :
    Balanced format peer (peer.teardown failure) none where
  fits := fun key _ found => absurd ((OrderedMap.get_empty key).symm.trans found) nofun
  nextId := by
    have kept (calls : List Nat) (peer : JsonRpcPeer Number) :
        (calls.foldl cleanup peer).nextId = peer.nextId := by
      induction calls generalizing peer with
      | nil => rfl
      | cons call rest induction => exact induction _
    exact kept _ peer
  called := nofun
  calls := by
    have all : (peer.teardown failure).2.settledCalls = peer.pending.values :=
      List.map_map.trans (List.map_id _)
    rw [all]
    exact .of_eq (List.append_nil _)

/-- The call whose response cannot be read gets nothing. -/
theorem balanced_teardown_lost {id : Number} {call : Nat}
    (found : peer.pending.get id = some call) :
    Balanced format peer
      (({ peer with pending := peer.pending.delete id } : JsonRpcPeer Number).teardown none)
      (some call) := by
  have balanced := @balanced_teardown _ _ format
    { peer with pending := peer.pending.delete id } none
  have others := balanced.calls
  rw [Option.toList_none, List.append_nil] at others
  exact
    { fits := balanced.fits
      nextId := balanced.nextId
      called := balanced.called
      calls := by
        refine (List.perm_append_comm.trans (others.cons call)).trans ?_
        refine List.Perm.trans (.of_eq ?_) ((OrderedMap.values_delete_perm found).symm.append_right [])
        rw [List.cons_append]
        rfl }

theorem balanced_call (fits : peer.Fits format) (method : Text) (params : Option (Json Number))
    (signal : Option Nat) : Balanced format peer (peer.call format method params signal) none := by
  have absent : peer.pending.get (format.count peer.nextId) = none := by
    cases found : peer.pending.get (format.count peer.nextId) with
    | none => rfl
    | some call =>
        rcases fits _ call found with ⟨same, earlier⟩
        exact absurd (format.count_injective same) (Nat.ne_of_gt earlier)
  rw [call]
  split
  · exact
      { fits := fun key call found => ⟨(fits key call found).1, Nat.lt_succ_of_lt (fits key call found).2⟩
        nextId := rfl
        called := fun call same => (Option.mem_some_iff.mp same).symm
        calls := by
          show ([peer.nextId] ++ peer.pending.values ++ []).Perm (peer.pending.values ++ [peer.nextId])
          rw [List.append_nil]
          exact List.perm_append_comm }
  · exact
      { fits := by
          intro key call found
          rw [OrderedMap.get_set] at found
          split at found
          · next same =>
            cases found
            exact ⟨same, Nat.lt_succ_self _⟩
          · exact ⟨(fits key call found).1, Nat.lt_succ_of_lt (fits key call found).2⟩
        nextId := rfl
        called := fun call same => (Option.mem_some_iff.mp same).symm
        calls := by
          rw [OrderedMap.values_set_of_absent absent]
          exact .of_eq (List.append_nil _) }

theorem balanced_withdraw (fits : peer.Fits format) (callback : Callback)
    (error : RpcError Number) :
    Balanced format peer (peer.withdraw format callback error) none := by
  rw [withdraw]
  cases known : peer.pending.has (format.count callback.call) with
  | false => exact .same fits rfl rfl rfl rfl
  | true => exact .delete fits (fits.get_count known) rfl rfl rfl rfl

theorem Balanced.append {middle after : JsonRpcPeer Number} {first second : PeerOutput Number}
    (begins : Balanced format peer (middle, first) none)
    (ends : Balanced format middle (after, second) none) (called : first.called = none)
    (calledLater : second.called = none) :
    Balanced format peer (after, first.append second) none where
  fits := ends.fits
  nextId := by
    have started := begins.nextId
    rw [called] at started
    exact ends.nextId.trans (congrArg (· + _) started)
  called := fun call same => absurd (calledLater.symm.trans same) nofun
  calls := by
    have firstCalls := begins.calls
    have secondCalls := ends.calls
    rw [called] at firstCalls
    rw [calledLater] at secondCalls
    simp only [Option.toList_none, List.append_nil] at firstCalls secondCalls
    show (((first.append second).settledCalls ++ after.pending.values) ++ []).Perm
      (peer.pending.values ++ second.called.toList)
    rw [calledLater, PeerOutput.settledCalls, PeerOutput.settled_append, List.map_append,
      List.append_nil, Option.toList_none, List.append_nil, List.append_assoc]
    exact (secondCalls.append_left _).trans firstCalls

theorem called_withdrawAll (peer : JsonRpcPeer Number) (callbacks : List Callback) :
    (peer.withdrawAll format callbacks).2.called = none := by
  induction callbacks generalizing peer with
  | nil => rfl
  | cons callback rest induction => exact induction _

theorem balanced_withdrawAll (fits : peer.Fits format) (callbacks : List Callback) :
    Balanced format peer (peer.withdrawAll format callbacks) none := by
  induction callbacks generalizing peer with
  | nil => exact .same fits rfl rfl rfl rfl
  | cons callback rest induction =>
      have first := balanced_withdraw fits callback (abortedError callback.method)
      have called : (peer.withdraw format callback (abortedError callback.method)).2.called =
          none := by
        rw [withdraw]
        split <;> rfl
      exact first.append (induction first.fits) called (called_withdrawAll _ rest)

theorem Balanced.of_table {other : JsonRpcPeer Number}
    {result : JsonRpcPeer Number × PeerOutput Number} {lost : Option Nat}
    (balanced : Balanced format other result lost) (pending : other.pending = peer.pending)
    (nextId : other.nextId = peer.nextId) : Balanced format peer result lost where
  fits := balanced.fits
  nextId := nextId ▸ balanced.nextId
  called := nextId ▸ balanced.called
  calls := pending ▸ balanced.calls

theorem balanced_handleMessage (fits : peer.Fits format) (message : Json Number)
    (atOnce : Option (Thrown Number)) :
    Balanced format peer (peer.handleMessage format message atOnce)
      (peer.lostBy format message) := by
  have meets := @meets_handleMessage _ format _ peer message atOnce
  have readable := meets.readable
  generalize peer.handleMessage format message atOnce = result at meets readable ⊢
  cases meets with
  | passed | refused | answered | started =>
      rw [readable rfl]
      exact .same fits rfl rfl rfl rfl
  | settled _ _ found _ =>
      rw [readable rfl]
      exact .delete fits found rfl rfl rfl rfl
  | failed _ found isLost =>
      rw [isLost]
      exact balanced_teardown_lost found

/-- Every call that was pending or is new is settled, pending or lost. -/
theorem balanced_perform (fits : peer.Fits format) (event : PeerEvent Number) :
    Balanced format peer (peer.perform format parseDetail event) (peer.lost format event) := by
  cases event with
  | call method params signal => exact balanced_call fits method params signal
  | notify method params => exact .same fits rfl rfl rfl rfl
  | on method => exact .same fits rfl rfl rfl rfl
  | onNotification method => exact .same fits rfl rfl rfl rfl
  | abort signal =>
      refine Balanced.of_table (balanced_withdrawAll ?_ _) rfl rfl
      exact fits.same rfl rfl
  | timeout call =>
      rw [perform, timeout]
      cases peer.timers.find? fun timer => timer.call = call with
      | none => exact .same fits rfl rfl rfl rfl
      | some timer =>
          refine Balanced.of_table (balanced_withdraw ?_ _ _) rfl rfl
          exact fits.same rfl rfl
  | chunk octets =>
      rw [perform, chunk]
      dsimp only
      split
      · exact .same fits rfl rfl rfl rfl
      · next failure _ =>
        have ended := @balanced_teardown _ _ format
          { peer with
            decoder := (({ peer.decoder with reported := [] } : LineDecoder).push
              format.toNumberFormat octets).1 } (remoteFailure failure)
        exact ⟨ended.fits, ended.nextId, ended.called, ended.calls⟩
  | handle atOnce =>
      rw [perform, handle, lost]
      cases queue : peer.queue with
      | nil => exact .same fits rfl rfl rfl rfl
      | cons message rest =>
          have handled := @balanced_handleMessage _ _ format { peer with queue := rest }
            (fits.same rfl rfl) message atOnce
          exact ⟨handled.fits, handled.nextId, handled.called, handled.calls⟩
  | finished request outcome =>
      rw [perform, finished]
      cases peer.running.find? fun other => other.request = request with
      | none => exact .same fits rfl rfl rfl rfl
      | some found => exact .same fits rfl rfl rfl rfl
  | streamEnded failure => exact balanced_teardown peer failure

end JsonRpcPeer

/-! ## Along a run -/

/-- What has happened at a peer. -/
abbrev PeerLog (Number : Type) := List (PeerEvent Number × PeerOutput Number)

/-- The calls that an abort or a timer settles. -/
def withdrawnBy : PeerEvent Number → PeerOutput Number → List Nat
  | .abort _, output => output.settledCalls
  | .timeout _, output => output.settledCalls
  | _, _ => []

namespace PeerLog

def started (log : PeerLog Number) : List Nat := log.flatMap fun entry => entry.2.called.toList

def settled (log : PeerLog Number) : List Nat := log.flatMap fun entry => entry.2.settledCalls

/-- The calls that were settled because they were aborted or took too long. -/
def withdrawn (log : PeerLog Number) : List Nat :=
  log.flatMap fun entry => withdrawnBy entry.1 entry.2

omit [DecidableEq Number] in
theorem started_append (first second : PeerLog Number) :
    started (first ++ second) = started first ++ started second := List.flatMap_append

omit [DecidableEq Number] in
theorem settled_append (first second : PeerLog Number) :
    settled (first ++ second) = settled first ++ settled second := List.flatMap_append

omit [DecidableEq Number] in
theorem withdrawn_sublist (log : PeerLog Number) : (withdrawn log).Sublist (settled log) := by
  induction log with
  | nil => exact .slnil
  | cons entry rest induction =>
      rw [withdrawn, settled, List.flatMap_cons, List.flatMap_cons]
      refine List.Sublist.append ?_ induction
      unfold withdrawnBy
      split
      · exact .refl _
      · exact .refl _
      · exact List.nil_sublist _

end PeerLog

/-- All calls are accounted for. -/
structure Accounted (format : CountingFormat Number) (run : PeerRun Number) (lost : List Nat) :
    Prop where
  fits : run.peer.Fits format
  nextId : run.peer.nextId = 1 + (PeerLog.started run.log).length
  started : PeerLog.started run.log = List.range' 1 (PeerLog.started run.log).length
  calls : (PeerLog.settled run.log ++ run.peer.pending.values ++ lost).Perm
    (PeerLog.started run.log)

theorem accounted_start (requestTimeoutMs : Number) :
    Accounted format (PeerRun.start requestTimeoutMs) [] where
  fits := nofun
  nextId := rfl
  started := rfl
  calls := .refl _

theorem Accounted.perform {run : PeerRun Number} {lost : List Nat}
    (accounted : Accounted format run lost) (event : PeerEvent Number) :
    Accounted format (run.perform format parseDetail event)
      (lost ++ (run.peer.lost format event).toList) := by
  have balanced := @JsonRpcPeer.balanced_perform _ _ format parseDetail _ accounted.fits event
  have started : PeerLog.started (run.perform format parseDetail event).log =
      PeerLog.started run.log ++
        (run.peer.perform format parseDetail event).2.called.toList := by
    rw [PeerRun.perform, PeerLog.started_append]
    exact congrArg (_ ++ ·) (List.append_nil _)
  have settled : PeerLog.settled (run.perform format parseDetail event).log =
      PeerLog.settled run.log ++
        (run.peer.perform format parseDetail event).2.settledCalls := by
    rw [PeerRun.perform, PeerLog.settled_append]
    exact congrArg (_ ++ ·) (List.append_nil _)
  exact
    { fits := balanced.fits
      nextId := by
        rw [started, List.length_append, ← Nat.add_assoc, ← accounted.nextId]
        exact balanced.nextId
      started := by
        rw [started]
        have numbered := balanced.called
        cases called : (run.peer.perform format parseDetail event).2.called with
        | none => rw [Option.toList_none, List.append_nil, ← accounted.started]
        | some call =>
            rw [called] at numbered
            rw [numbered call rfl, accounted.nextId, Option.toList_some, List.length_append,
              List.length_singleton, List.range'_concat, ← accounted.started, Nat.one_mul]
      calls := by
        rw [started, settled]
        refine List.perm_iff_count.mpr fun call => ?_
        have before := accounted.calls.count_eq call
        have now := balanced.calls.count_eq call
        simp only [List.count_append] at before now ⊢
        show _ + _ + List.count call
          (run.peer.perform format parseDetail event).1.pending.values + _ = _
        omega }

theorem Accounted.nodup {run : PeerRun Number} {lost : List Nat}
    (accounted : Accounted format run lost) :
    (PeerLog.settled run.log ++ run.peer.pending.values ++ lost).Nodup := by
  rw [accounted.calls.nodup_iff, accounted.started]
  exact List.nodup_range'

/-! ## Cancelled calls -/

/-- A message says that a call is not waited for any more. -/
def PeerMessage.isCancel (format : CountingFormat Number) (call : Nat) :
    PeerMessage Number → Bool
  | .notification method (some (.object [(key, .number id)])) =>
      decide (method = JsonRpc.cancelMethod ∧ key = asciiText "id" ∧ id = format.count call)
  | _ => false

/-- What the peer sends of its own accord. -/
def noticesOf : PeerEvent Number → PeerOutput Number → List (PeerMessage Number)
  | .notify _ _, _ => []
  | _, output => output.sent

/-- How often the peer has said so of a call. What its user notifies is not meant. -/
def PeerLog.cancels (format : CountingFormat Number) (call : Nat) (log : PeerLog Number) : Nat :=
  (log.flatMap fun entry => noticesOf entry.1 entry.2).countP (PeerMessage.isCancel format call)

theorem PeerMessage.isCancel_cancel (call other : Nat) :
    (PeerMessage.cancel format other).isCancel format call = decide (other = call) := by
  rw [cancel, isCancel]
  exact decide_eq_decide.mpr
    ⟨fun both => format.count_injective both.2.2, fun same => ⟨rfl, rfl, by rw [same]⟩⟩

theorem PeerMessage.IsAnswer.not_cancel {message : PeerMessage Number} (answer : message.IsAnswer)
    (call : Nat) : message.isCancel format call = false := by
  cases message with
  | result | error => rfl
  | request | notification => cases answer

namespace JsonRpcPeer

variable {peer : JsonRpcPeer Number}

theorem isAnswer_handleMessage (message : Json Number) (atOnce : Option (Thrown Number)) :
    ∀ answer ∈ (peer.handleMessage format message atOnce).2.sent, answer.IsAnswer := by
  have meets := @meets_handleMessage _ format _ peer message atOnce
  generalize peer.handleMessage format message atOnce = result at meets ⊢
  cases meets with
  | passed | started | settled | failed => nofun
  | refused => exact List.forall_mem_singleton.mpr trivial
  | answered _ _ answers =>
      exact fun answer member => (answers.answers answer (Option.mem_toList.mp member)).isAnswer

omit [DecidableEq Number] in
theorem isAnswer_chunk (octets : List Octet) :
    ∀ answer ∈ (peer.chunk format parseDetail octets).2.sent, answer.IsAnswer := by
  have answers : ∀ answer ∈ ((({ peer.decoder with reported := [] } : LineDecoder).push
      format.toNumberFormat octets).1.reported.map
        (@invalidLine Number parseDetail)), answer.IsAnswer := by
    intro answer member
    rcases List.mem_map.mp member with ⟨raw, _, rfl⟩
    trivial
  rw [chunk]
  dsimp only
  split <;> exact answers

omit [DecidableEq Number] in
theorem isAnswer_finished (request : Nat) (outcome : HandlerOutcome Number) :
    ∀ answer ∈ (peer.finished request outcome).2.sent, answer.IsAnswer := by
  rw [finished]
  split
  · nofun
  · exact fun answer member =>
      (PeerMessage.answers_outcomeAnswer _ _ answer (Option.mem_toList.mp member)).isAnswer

theorem isAnswer_handle (atOnce : Option (Thrown Number)) :
    ∀ answer ∈ (peer.handle format atOnce).2.sent, answer.IsAnswer := by
  rw [handle]
  split
  · intro _ impossible
    cases impossible
  · exact isAnswer_handleMessage _ _

theorem sent_withdraw (callback : Callback) (error : RpcError Number) :
    (peer.withdraw format callback error).2.sent =
      (peer.withdraw format callback error).2.settledCalls.map (.cancel format) := by
  rw [withdraw]
  split <;> rfl

theorem sent_withdrawAll (callbacks : List Callback) :
    (peer.withdrawAll format callbacks).2.sent =
      (peer.withdrawAll format callbacks).2.settledCalls.map (.cancel format) := by
  induction callbacks generalizing peer with
  | nil => rfl
  | cons callback rest induction =>
      rw [withdrawAll, PeerOutput.settledCalls, PeerOutput.settled_append, List.map_append,
        List.map_append]
      exact congrArg₂ (· ++ ·) (sent_withdraw _ _) induction

/-- Each withdrawn call is cancelled, and no other one. -/
theorem countP_notices (event : PeerEvent Number) (call : Nat) :
    (noticesOf event (peer.perform format parseDetail event).2).countP
        (PeerMessage.isCancel format call) =
      (withdrawnBy event (peer.perform format parseDetail event).2).count call := by
  have answers {messages : List (PeerMessage Number)}
      (all : ∀ answer ∈ messages, answer.IsAnswer) :
      messages.countP (PeerMessage.isCancel format call) = 0 :=
    List.countP_eq_zero.mpr fun answer member =>
      Bool.not_eq_true _ ▸ (all answer member).not_cancel call
  have cancels (calls : List Nat) :
      (calls.map (PeerMessage.cancel format)).countP (PeerMessage.isCancel format call) =
        calls.count call := by
    rw [List.countP_map, List.count]
    exact List.countP_congr fun other _ => by
      rw [Function.comp_apply, PeerMessage.isCancel_cancel]
      exact decide_eq_true_iff.trans beq_iff_eq.symm
  cases event with
  | call method params signal =>
      show (peer.call format method params signal).2.sent.countP _ = 0
      rw [JsonRpcPeer.call]
      split <;> rfl
  | notify method params => rfl
  | on method => rfl
  | onNotification method => rfl
  | abort signal => exact (congrArg _ (sent_withdrawAll _)).trans (cancels _)
  | timeout timed =>
      show (peer.timeout format timed).2.sent.countP _ =
        (peer.timeout format timed).2.settledCalls.count call
      rw [timeout]
      split
      · rfl
      · exact (congrArg _ (sent_withdraw _ _)).trans (cancels _)
  | chunk octets => exact answers (isAnswer_chunk octets)
  | handle atOnce => exact answers (isAnswer_handle atOnce)
  | finished request outcome => exact answers (isAnswer_finished request outcome)
  | streamEnded failure => rfl

end JsonRpcPeer

theorem PeerRun.step_eq_some {run next : PeerRun Number} {event : PeerEvent Number}
    (stepped : run.step format parseDetail event = some next) :
    run.peer.Possible event ∧ next = run.perform format parseDetail event := by
  rw [step] at stepped
  split at stepped
  · next possible => exact ⟨possible, (Option.some.inj stepped).symm⟩
  · cases stepped

theorem cancels_eq_count_withdrawn {requestTimeoutMs : Number} {events : List (PeerEvent Number)}
    {run : PeerRun Number}
    (reached : Execution.run (PeerRun.step format parseDetail) (PeerRun.start requestTimeoutMs)
      events = some run) (call : Nat) :
    PeerLog.cancels format call run.log = (PeerLog.withdrawn run.log).count call := by
  refine Execution.reachable_invariant
    (fun run => PeerLog.cancels format call run.log = (PeerLog.withdrawn run.log).count call)
    (fun {run event next} same stepped => ?_) rfl reached
  rcases PeerRun.step_eq_some stepped with ⟨_, rfl⟩
  rw [PeerRun.perform, PeerLog.cancels, PeerLog.withdrawn, List.flatMap_append,
    List.flatMap_append, List.countP_append, List.count_append]
  refine congrArg₂ (· + ·) same ?_
  rw [List.flatMap_singleton, List.flatMap_singleton]
  exact JsonRpcPeer.countP_notices event call

/-! ## What settles a call -/

/-- A call was made with a method and perhaps a signal. -/
def PeerLog.Started (log : PeerLog Number) (call : Nat) (method : Text) (signal : Option Nat) :
    Prop :=
  ∃ params output, (.call method params signal, output) ∈ log ∧ output.called = some call

/-- Why a call is settled, given what has happened before. -/
inductive SettledBy (format : CountingFormat Number) (peer : JsonRpcPeer Number)
    (before : PeerLog Number) (call : Nat) :
    PeerEvent Number → PeerOutput Number → Settlement Number → Prop
  /-- A response bears its id. -/
  | response {atOnce output message response settlement}
      (handled : output.handled = some message)
      (isResponse : JsonRpc.handleMessage format.toNumberFormat message = .response response)
      (bears : JsonRpc.property response "id" = some (.number (format.count call)))
      (told : Says format response settlement) :
      SettledBy format peer before call (.handle atOnce) output settlement
  | aborted {signal method output} (started : before.Started call method (some signal)) :
      SettledBy format peer before call (.abort signal) output
        (.rejected (JsonRpcPeer.abortedError method))
  /-- Its signal was aborted before the call was made. -/
  | abortedBefore {method params signal output} {earlier : PeerOutput Number}
      (aborted : (.abort signal, earlier) ∈ before) (called : output.called = some call) :
      SettledBy format peer before call (.call method params (some signal)) output
        (.rejected (JsonRpcPeer.abortedError method))
  | timedOut {method signal output} (started : before.Started call method signal) :
      SettledBy format peer before call (.timeout call) output
        (.rejected (peer.timeoutError format method))
  /-- The stream has ended or failed. -/
  | teardown {event output error} (torn : output.teardown = some error) :
      SettledBy format peer before call event output (.rejected error)

namespace JsonRpcPeer

/-- No new callback is there, and no new signal is known. -/
structure Shrinks (before after : JsonRpcPeer Number) : Prop where
  listeners : ∀ listener ∈ after.listeners, listener ∈ before.listeners
  timers : ∀ timer ∈ after.timers, timer ∈ before.timers
  aborted : after.aborted = before.aborted
  requestTimeoutMs : after.requestTimeoutMs = before.requestTimeoutMs

namespace Shrinks

omit [DecidableEq Number]

variable {before middle after : JsonRpcPeer Number}

theorem refl (peer : JsonRpcPeer Number) : Shrinks peer peer :=
  ⟨fun _ member => member, fun _ member => member, rfl, rfl⟩

theorem trans (first : Shrinks before middle) (second : Shrinks middle after) :
    Shrinks before after :=
  ⟨fun listener member => first.listeners listener (second.listeners listener member),
    fun timer member => first.timers timer (second.timers timer member),
    second.aborted.trans first.aborted, second.requestTimeoutMs.trans first.requestTimeoutMs⟩

theorem cleanup (peer : JsonRpcPeer Number) (call : Nat) : Shrinks peer (peer.cleanup call) :=
  ⟨fun _ member => List.mem_of_mem_filter member, fun _ member => List.mem_of_mem_filter member,
    rfl, rfl⟩

theorem teardown (peer : JsonRpcPeer Number) (failure : Option (RpcError Number)) :
    Shrinks peer (peer.teardown failure).1 := by
  have cleaned (calls : List Nat) (peer : JsonRpcPeer Number) :
      Shrinks peer (calls.foldl JsonRpcPeer.cleanup peer) := by
    induction calls generalizing peer with
    | nil => exact refl peer
    | cons call rest induction => exact (cleanup peer call).trans (induction _)
  have all := cleaned peer.pending.values peer
  exact ⟨all.listeners, all.timers, all.aborted, all.requestTimeoutMs⟩

end Shrinks

variable {peer : JsonRpcPeer Number}

theorem shrinks_withdraw (callback : Callback) (error : RpcError Number) :
    Shrinks peer (peer.withdraw format callback error).1 := by
  rw [withdraw]
  split
  · exact .refl peer
  · have cleaned := Shrinks.cleanup peer callback.call
    exact ⟨cleaned.listeners, cleaned.timers, rfl, rfl⟩

theorem shrinks_withdrawAll (callbacks : List Callback) :
    Shrinks peer (peer.withdrawAll format callbacks).1 := by
  induction callbacks generalizing peer with
  | nil => exact .refl peer
  | cons callback rest induction => exact (shrinks_withdraw _ _).trans induction

theorem shrinks_handleMessage (message : Json Number) (atOnce : Option (Thrown Number)) :
    Shrinks peer (peer.handleMessage format message atOnce).1 := by
  have meets := @meets_handleMessage _ format _ peer message atOnce
  generalize peer.handleMessage format message atOnce = result at meets ⊢
  cases meets with
  | passed | refused => exact .refl peer
  | answered | started => exact ⟨fun _ member => member, fun _ member => member, rfl, rfl⟩
  | settled _ _ _ _ =>
      have cleaned := Shrinks.cleanup peer
      exact ⟨(cleaned _).listeners, (cleaned _).timers, rfl, rfl⟩
  | @failed _ id _ _ _ _ =>
      have torn := Shrinks.teardown { peer with pending := peer.pending.delete id } none
      exact ⟨torn.listeners, torn.timers, torn.aborted, torn.requestTimeoutMs⟩

theorem shrinks_perform {event : PeerEvent Number}
    (notCall : ∀ method params signal, event ≠ .call method params signal)
    (notAbort : ∀ signal, event ≠ .abort signal) :
    Shrinks peer (peer.perform format parseDetail event).1 := by
  have same : ∀ {later : JsonRpcPeer Number}, later.listeners = peer.listeners →
      later.timers = peer.timers → later.aborted = peer.aborted →
        later.requestTimeoutMs = peer.requestTimeoutMs → Shrinks peer later :=
    fun listeners timers aborted timeout =>
      ⟨fun _ member => listeners ▸ member, fun _ member => timers ▸ member, aborted, timeout⟩
  cases event with
  | call method params signal => exact absurd rfl (notCall method params signal)
  | notify method params => exact .refl peer
  | on method => exact same rfl rfl rfl rfl
  | onNotification method => exact same rfl rfl rfl rfl
  | abort signal => exact absurd rfl (notAbort signal)
  | timeout call =>
      rw [perform, timeout]
      split
      · exact .refl peer
      · next timer _ =>
        have fired : Shrinks peer
            { peer with timers := peer.timers.filter fun other => decide (other.call ≠ call) } :=
          ⟨fun _ member => member, fun _ member => List.mem_of_mem_filter member, rfl, rfl⟩
        exact fired.trans (shrinks_withdraw _ _)
  | chunk octets =>
      rw [perform, chunk]
      dsimp only
      split
      · exact same rfl rfl rfl rfl
      · next failure _ =>
        have torn := Shrinks.teardown { peer with
          decoder := (({ peer.decoder with reported := [] } : LineDecoder).push
            format.toNumberFormat octets).1 } (remoteFailure failure)
        exact ⟨torn.listeners, torn.timers, torn.aborted, torn.requestTimeoutMs⟩
  | handle atOnce =>
      rw [perform, handle]
      split
      · exact .refl peer
      · next message rest _ =>
        have heard := @shrinks_handleMessage _ _ format { peer with queue := rest } message atOnce
        exact ⟨heard.listeners, heard.timers, heard.aborted, heard.requestTimeoutMs⟩
  | finished request outcome =>
      rw [perform, finished]
      split
      · exact .refl peer
      · exact same rfl rfl rfl rfl
  | streamEnded failure => exact .teardown peer failure

end JsonRpcPeer

/-- The callbacks of a peer belong to calls that were made. -/
structure Remembers (run : PeerRun Number) : Prop where
  listeners : ∀ listener ∈ run.peer.listeners,
    PeerLog.Started run.log listener.2.call listener.2.method (some listener.1)
  timers : ∀ timer ∈ run.peer.timers, ∃ signal,
    PeerLog.Started run.log timer.call timer.method signal
  aborted : ∀ signal ∈ run.peer.aborted, ∃ output, (.abort signal, output) ∈ run.log

omit [DecidableEq Number] in
theorem PeerLog.Started.append {log : PeerLog Number} {call : Nat} {method : Text}
    {signal : Option Nat} (started : log.Started call method signal) (more : PeerLog Number) :
    PeerLog.Started (log ++ more) call method signal := by
  rcases started with ⟨params, output, member, called⟩
  exact ⟨params, output, List.mem_append_left _ member, called⟩

omit [DecidableEq Number] in
theorem Remembers.shrinks {run : PeerRun Number} (remembers : Remembers run)
    {later : JsonRpcPeer Number} (shrinks : JsonRpcPeer.Shrinks run.peer later)
    (more : PeerLog Number) : Remembers { peer := later, log := run.log ++ more } where
  listeners := fun listener member =>
    (remembers.listeners listener (shrinks.listeners listener member)).append more
  timers := fun timer member =>
    (remembers.timers timer (shrinks.timers timer member)).imp fun _ started => started.append more
  aborted := fun signal member =>
    (remembers.aborted signal (shrinks.aborted ▸ member)).imp fun _ logged =>
      List.mem_append_left _ logged

theorem Remembers.perform {run : PeerRun Number} (remembers : Remembers run)
    (event : PeerEvent Number) : Remembers (run.perform format parseDetail event) := by
  cases event with
  | call method params signal =>
      rw [PeerRun.perform, JsonRpcPeer.perform, JsonRpcPeer.call]
      split
      · refine remembers.shrinks ?_ _
        exact ⟨fun _ member => member, fun _ member => member, rfl, rfl⟩
      · have earlier := remembers.shrinks (JsonRpcPeer.Shrinks.refl run.peer)
        exact
          { listeners := by
              intro listener member
              rcases List.mem_append.mp member with before | now
              · exact (earlier _).listeners listener before
              · rcases List.mem_map.mp now with ⟨signal, isSignal, rfl⟩
                rw [Option.mem_toList.mp isSignal]
                exact ⟨params, _, List.mem_append_right _ List.mem_cons_self, rfl⟩
            timers := by
              intro timer member
              dsimp only at member
              split at member
              · rcases List.mem_append.mp member with before | now
                · exact (earlier _).timers timer before
                · rw [List.mem_singleton.mp now]
                  exact ⟨signal, params, _, List.mem_append_right _ List.mem_cons_self, rfl⟩
              · exact (earlier _).timers timer member
            aborted := (earlier _).aborted }
  | abort signal =>
      have shrinks := @JsonRpcPeer.shrinks_withdrawAll _ _ format
        { run.peer with
          aborted := signal :: run.peer.aborted
          listeners := run.peer.listeners.filter fun listener => decide (listener.1 ≠ signal) }
        ((run.peer.listeners.filter fun listener : Nat × Callback =>
          decide (listener.1 = signal)).map Prod.snd)
      exact
        { listeners := fun listener member =>
            (remembers.listeners listener
              (List.mem_of_mem_filter (shrinks.listeners listener member))).append _
          timers := fun timer member =>
            (remembers.timers timer (shrinks.timers timer member)).imp fun _ started =>
              started.append _
          aborted := by
            intro other member
            rcases List.mem_cons.mp (shrinks.aborted ▸ member) with rfl | before
            · exact ⟨_, List.mem_append_right _ List.mem_cons_self⟩
            · exact (remembers.aborted other before).imp fun _ logged =>
                List.mem_append_left _ logged }
  | notify _ _ | on _ | onNotification _ | timeout _ | chunk _ | handle _ | finished _ _
  | streamEnded _ =>
      exact remembers.shrinks
        (JsonRpcPeer.shrinks_perform (by exact nofun) (by exact nofun)) _

section Causes

variable {peer : JsonRpcPeer Number} {call : Nat} {settlement : Settlement Number}
  {before : PeerLog Number}

theorem mem_settled_withdraw {callback : Callback} {error : RpcError Number}
    (member : (call, settlement) ∈ (peer.withdraw format callback error).2.settled) :
    call = callback.call ∧ settlement = .rejected error := by
  rw [JsonRpcPeer.withdraw] at member
  split at member
  · cases member
  · cases List.mem_singleton.mp member
    exact ⟨rfl, rfl⟩

theorem mem_settled_withdrawAll {callbacks : List Callback}
    (member : (call, settlement) ∈ (peer.withdrawAll format callbacks).2.settled) :
    ∃ callback ∈ callbacks, callback.call = call ∧
      settlement = .rejected (JsonRpcPeer.abortedError callback.method) := by
  induction callbacks generalizing peer with
  | nil => cases member
  | cons callback rest induction =>
      rcases List.mem_append.mp member with now | later
      · rcases mem_settled_withdraw now with ⟨rfl, rfl⟩
        exact ⟨callback, List.mem_cons_self, rfl, rfl⟩
      · rcases induction later with ⟨other, inRest, found⟩
        exact ⟨other, List.mem_cons_of_mem _ inRest, found⟩

omit [DecidableEq Number] in
theorem mem_settled_teardown {failure : Option (RpcError Number)}
    (member : (call, settlement) ∈ (peer.teardown failure).2.settled) :
    settlement = .rejected (failure.getD JsonRpcPeer.closedError) := by
  rcases List.mem_map.mp member with ⟨_, _, same⟩
  exact (Prod.ext_iff.mp same).2.symm

/-- A response settles the call whose id it bears, unless it tears the peer down. -/
theorem settledBy_handleMessage (fits : peer.Fits format) {before : PeerLog Number}
    {other : JsonRpcPeer Number} {message : Json Number} {atOnce : Option (Thrown Number)} {output : PeerOutput Number}
    (heard : output = { (peer.handleMessage format message atOnce).2 with handled := some message })
    (member : (call, settlement) ∈ output.settled) :
    SettledBy format other before call (.handle atOnce) output settlement := by
  have meets := @JsonRpcPeer.meets_handleMessage _ format _ peer message atOnce
  generalize peer.handleMessage format message atOnce = result at meets heard
  cases meets with
  | passed | refused | answered | started => rw [heard] at member; cases member
  | settled inbound bears found told =>
      rw [heard] at member
      cases List.mem_singleton.mp member
      rw [(fits _ _ found).1] at bears
      exact .response (by rw [heard]) inbound bears told
  | failed _ _ _ =>
      rw [heard] at member
      rw [mem_settled_teardown member]
      exact .teardown (by rw [heard]; rfl)

theorem settledBy_perform {run : PeerRun Number} (fits : run.peer.Fits format)
    (remembers : Remembers run) {event : PeerEvent Number}
    (member : (call, settlement) ∈ (run.peer.perform format parseDetail event).2.settled) :
    SettledBy format run.peer run.log call event (run.peer.perform format parseDetail event).2
      settlement := by
  cases event with
  | call method params signal =>
      rw [JsonRpcPeer.perform, JsonRpcPeer.call] at member ⊢
      split at member
      · next isAborted =>
        rw [if_pos isAborted]
        cases List.mem_singleton.mp member
        cases signal with
        | none => cases isAborted
        | some signal =>
            rcases remembers.aborted signal (of_decide_eq_true isAborted) with ⟨_, logged⟩
            exact .abortedBefore logged rfl
      · cases member
  | notify method params => cases member
  | on method => cases member
  | onNotification method => cases member
  | abort signal =>
      rcases mem_settled_withdrawAll member with ⟨callback, listens, rfl, rfl⟩
      rcases List.mem_map.mp listens with ⟨listener, registered, rfl⟩
      rcases List.mem_filter.mp registered with ⟨registered, onSignal⟩
      have started := remembers.listeners listener registered
      rw [of_decide_eq_true onSignal] at started
      exact .aborted started
  | timeout timed =>
      rw [JsonRpcPeer.perform, JsonRpcPeer.timeout] at member
      split at member
      · cases member
      · next timer found =>
        rcases mem_settled_withdraw member with ⟨rfl, rfl⟩
        rcases remembers.timers timer (List.mem_of_find?_eq_some found) with ⟨signal, started⟩
        have isTimed := List.find?_some found
        rw [← of_decide_eq_true isTimed]
        exact .timedOut started
  | chunk octets =>
      rw [JsonRpcPeer.perform, JsonRpcPeer.chunk] at member ⊢
      dsimp only at member ⊢
      split at member
      · cases member
      · rw [mem_settled_teardown member]
        exact .teardown rfl
  | handle atOnce =>
      rw [JsonRpcPeer.perform, JsonRpcPeer.handle] at member ⊢
      split at member
      · cases member
      · next message rest _ =>
        have waits : ({ run.peer with queue := rest } : JsonRpcPeer Number).Fits format :=
          fits.same rfl rfl
        exact settledBy_handleMessage waits rfl member
  | finished request outcome =>
      rw [JsonRpcPeer.perform, JsonRpcPeer.finished] at member
      split at member <;> cases member
  | streamEnded failure =>
      rw [mem_settled_teardown member]
      exact .teardown rfl

end Causes

end DshRemote
