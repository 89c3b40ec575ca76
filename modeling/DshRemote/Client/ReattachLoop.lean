import DshRemote.Client.Reattach

/-! # The re-attach loop across a run

What a step does to the loop of the attempt in flight, and from it which re-attach
calls can fail without an answer of the backend. -/

namespace DshRemote.Client

/-- A write attach that was refused for the lease: the loop tries to read instead. -/
def ReattachCall.degrades (call : ReattachCall) : Bool :=
  match call.state with
  | .failed failure =>
      decide (call.fallback = false ∧ call.base.mode = .write ∧ failure.code = some .sessionLocked)
  | _ => false

namespace TargetConnection

/-- A step keeps the loop, starts one, settles its call, tries the call again as a
read attach, or goes on to the next subscriber. -/
inductive LoopMove (before : TargetConnection) (event : ConnectionEvent)
    (after : TargetConnection) : Prop
  | outside (outside : ∀ loop, after.attempt ≠ some (.reattaching loop))
      (reason : event = .reattachFinished ∨
        ∀ loop, before.attempt ≠ some (.reattaching loop))
  | kept (attempt : after.attempt = before.attempt)
  | started (peer : PeerId) (outer : List (SessionId × Nat)) (reason : event = .installed)
      (installed : after.peer = some peer)
      (snapshot : outer =
        before.subscribers.entries.map fun entry => (entry.1, entry.2.identity))
      (subscribers : after.subscribers = before.subscribers)
      (attempt : after.attempt = some (.reattaching (after.nextCall outer [])))
  | settled (outer : List (SessionId × Nat)) (inner : List HandleId)
      (before_ after_ : ReattachCall)
      (was : before.attempt = some (.reattaching ⟨outer, inner, some before_⟩))
      (attempt : after.attempt = some (.reattaching ⟨outer, inner, some after_⟩))
      (outcome : ∀ failure, after_.state = .failed failure →
        (∃ error, failure = .refused error) ∨ event = .reattachTimedOut ∨
          ∃ peer, event = .dropped peer ∧ before_.state = .waiting peer)
  | fellBack (outer : List (SessionId × Nat)) (inner : List HandleId) (before_ call : ReattachCall)
      (outcome : Outcome before_ event call) (degrades : call.degrades = true)
      (was : before.attempt = some (.reattaching ⟨outer, inner, some before_⟩))
      (attempt : after.attempt = some (.reattaching ⟨outer, inner,
        some { call with fallback := true, state := before.peerCall }⟩))
  | wentOn (outer : List (SessionId × Nat)) (inner : List HandleId) (before_ call : ReattachCall)
      (outcome : Outcome before_ event call)
      (was : before.attempt = some (.reattaching ⟨outer, inner, some before_⟩))
      (peer : after.peer = before.peer)
      (attempt : after.attempt = some (.reattaching (after.nextCall outer inner)))

theorem nextCall_attempt (connection : TargetConnection) (attempt : Option Attempt)
    (outer : List (SessionId × Nat)) (inner : List HandleId) :
    { connection with attempt := attempt }.nextCall outer inner =
      connection.nextCall outer inner := by
  induction outer generalizing inner with
  | nil => cases inner <;> rfl
  | cons entry outer induction =>
      cases inner with
      | nil => exact induction (connection.snapshotOf entry)
      | cons first rest => rfl

theorem loopMove_resumeReattach {connection : TargetConnection} {event : ConnectionEvent}
    {outer : List (SessionId × Nat)} {inner : List HandleId} {was call : ReattachCall}
    (running : connection.attempt = some (.reattaching ⟨outer, inner, some was⟩))
    (settled : ∀ peer, call.state ≠ .waiting peer) (outcome : Outcome was event call) :
    LoopMove connection event
      (connection.resumeReattach ⟨outer, inner, some call⟩ call) := by
  have goOn : ∀ middle : TargetConnection, middle.peer = connection.peer →
      LoopMove connection event { middle with
        attempt := some (.reattaching (middle.nextCall outer inner)) } := by
    intro middle peer
    refine .wentOn outer inner was call outcome running peer ?_
    exact congrArg (fun loop => some (Attempt.reattaching loop))
      (nextCall_attempt middle _ outer inner).symm
  simp only [resumeReattach]
  split
  · next peer waiting => exact absurd waiting (settled peer)
  · split
    · exact goOn _ rfl
    · exact goOn _ rfl
  · next failure failed =>
      split
      · next degrades =>
          refine .fellBack outer inner was call outcome ?_ running rfl
          simp only [ReattachCall.degrades, failed]
          exact decide_eq_true degrades
      · exact goOn _ (sameWire_onReattachFailed connection call.handle).peer

/-- An attempt that is not a loop becomes one that is not a loop either. -/
theorem LoopMove.elsewhere {before after : TargetConnection} {event : ConnectionEvent}
    {was now : Option Attempt} (running : before.attempt = was) (attempt : after.attempt = now)
    (notLoop : Detached was) (notLoopAfter : Detached now) : LoopMove before event after := by
  refine .outside ?_ (Or.inr ?_)
  · intro loop isLoop
    rw [attempt.symm.trans isLoop] at notLoopAfter
    cases notLoopAfter
  · intro loop isLoop
    rw [running.symm.trans isLoop] at notLoop
    cases notLoop

theorem loopMove_ensureConnected (connection : TargetConnection) :
    LoopMove connection .ensureConnected connection.ensureConnected := by
  simp only [ensureConnected]
  split
  · exact .kept rfl
  · split
    · exact .kept rfl
    · next vacant =>
        have none : connection.attempt = none := by simpa using vacant
        exact .elsewhere none rfl trivial trivial

theorem loopMove_timerFired (connection : TargetConnection) :
    LoopMove connection .timerFired connection.timerFired := by
  simp only [timerFired]
  split
  · exact .kept rfl
  · next open_ =>
      have none : connection.attempt = none := by
        cases attempt : connection.attempt with
        | none => rfl
        | some running => exact absurd (Or.inr (Or.inr (by simp [attempt]))) open_
      exact .elsewhere none rfl trivial trivial

theorem loopMove_install {connection : TargetConnection} {gen : Nat} {peer : PeerId}
    {clientId : ClientId} {capabilities : List String}
    (running : connection.attempt = some (.handshook gen peer clientId capabilities)) :
    LoopMove connection .installed (connection.install gen peer clientId capabilities) := by
  simp only [install]
  split
  · exact .elsewhere running rfl trivial trivial
  · refine .started peer _ rfl rfl rfl rfl ?_
    simp only [reattachAll]
    exact congrArg (fun loop => some (Attempt.reattaching loop)) (nextCall_attempt _ _ _ _).symm

theorem loopMove_drop (connection : TargetConnection) (peer : PeerId) :
    LoopMove connection (.dropped peer) (connection.drop peer) := by
  cases attempt : connection.attempt with
  | none =>
      refine .kept ?_
      simp only [drop, attempt]
  | some running =>
      cases running with
      | reattaching loop =>
          rcases loop with ⟨outer, inner, _ | call⟩
          · refine .kept ?_
            simp only [drop, attempt]
          · rcases call with ⟨handle, base, fallback, callee | result | failure⟩
            · by_cases same : callee = peer
              · subst same
                refine .settled outer inner _ ⟨handle, base, fallback, .failed .connLost⟩ attempt
                  ?_ ?_
                · simp only [drop, attempt, if_true]
                · intro failure failed
                  exact Or.inr (Or.inr ⟨callee, rfl, rfl⟩)
              · refine .kept ?_
                simp only [drop, attempt, same, if_false]
            · refine .kept ?_
              simp only [drop, attempt]
            · refine .kept ?_
              simp only [drop, attempt]
      | opening | handshaking | handshook | settled =>
          refine .kept ?_
          simp only [drop, attempt]

theorem loopMove_step {connection next : TargetConnection} {event : ConnectionEvent}
    (stepped : connection.step event = some next) : LoopMove connection event next := by
  cases stepped_of_step stepped with
  | ensureConnected => exact loopMove_ensureConnected connection
  | timerFired => exact loopMove_timerFired connection
  | close =>
      simp only [close]
      split <;> exact .kept rfl
  | execStarted running | handshakeAnswered _ _ running =>
      exact .elsewhere running rfl trivial trivial
  | openFailed running opens =>
      rcases opens with ⟨_, rfl⟩ | ⟨_, _, rfl⟩
      all_goals exact .elsewhere running rfl trivial trivial
  | installed running => exact loopMove_install running
  | reattachAnswered answer running =>
      refine .settled _ _ _ _ running rfl ?_
      intro failure failed
      cases answer with
      | ok result => cases failed
      | error refused =>
          cases failed
          exact Or.inl ⟨refused, rfl⟩
  | reattachTimedOut running => exact .settled _ _ _ _ running rfl fun _ _ => Or.inr (Or.inl rfl)
  | reattachResumed running settled outcome => exact loopMove_resumeReattach running settled outcome
  | reattachFinished =>
      refine .outside ?_ (Or.inl rfl)
      intro loop isLoop
      cases isLoop
  | attemptSettled running =>
      simp only [attemptSettled]
      split
      · exact .elsewhere running rfl trivial trivial
      · exact .elsewhere running (sameWire_scheduleReconnect _).2 trivial trivial
  | dropped peer => exact loopMove_drop connection peer
  | peerClosed =>
      simp only [onPeerClosed]
      split
      · exact .kept rfl
      · exact .kept (sameWire_scheduleReconnect _).2
  | detach handle => exact .kept (connection.sameWire_detach handle).2
  | closeFinished | subscribe | sessionEvent | controlChanged => exact .kept rfl

/-! ## Calls that fail without an answer -/

/-- The step cuts a re-attach off: its stream ends, it times out or a callback throws at its
answer, or the loop goes on to another call although the peer is gone. -/
def cutsReattach (connection : TargetConnection) (event : ConnectionEvent) : Bool :=
  !connection.disposed &&
    match event, connection.attempt with
    | .dropped peer, some (.reattaching ⟨_, _, some call⟩) => decide (call.state = .waiting peer)
    | .reattachTimedOut, _ => true
    | .reattachThrew _, _ => true
    | .reattachResumed, some (.reattaching ⟨outer, inner, some call⟩) =>
        connection.peer.isNone && (call.degrades || !inner.isEmpty ||
          outer.any fun entry => !(connection.snapshotOf entry).isEmpty)
    | _, _ => false

/-- A call that failed was refused by the backend. -/
def RefusedOnly (connection : TargetConnection) : Prop :=
  ∀ loop call failure, connection.attempt = some (.reattaching loop) →
    loop.current = some call → call.state = .failed failure →
      ∃ error, failure = .refused error

theorem ahead_before_resumed {before after : TargetConnection}
    (moved : HandlesMove before .reattachResumed after) {outer : List (SessionId × Nat)}
    {inner : List HandleId} {handle : HandleId} (ahead : after.Ahead outer inner handle) :
    before.Ahead outer inner handle := by
  rcases ahead with member | ⟨entry, member, inSet⟩
  · exact Or.inl member
  · refine Or.inr ⟨entry, member, ?_⟩
    cases moved with
    | kept _ subscribers _ =>
        rcases subscribers with cleared | same
        · cases cleared
        · rwa [snapshotOf_congr same] at inSet
    | subscribed _ _ _ reason _ => cases reason
    | detached _ _ _ _ _ subscribers _ =>
        rw [snapshotOf_congr subscribers] at inSet
        exact mem_snapshotOf_of_unsubscribe inSet

theorem peerCall_of_peer {connection : TargetConnection} {peer : PeerId}
    (installed : connection.peer = some peer) : connection.peerCall = .waiting peer := by
  simp only [peerCall, installed]

/-- A step that cuts no re-attach off lets calls fail by a refusal only. -/
theorem RefusedOnly.step {connection next : TargetConnection}
    (refusedOnly : connection.RefusedOnly) {event : ConnectionEvent}
    (stepped : connection.step event = some next) (open_ : connection.disposed = false)
    (spared : connection.cutsReattach event = false) : next.RefusedOnly := by
  intro loop call failure running current failed
  cases loopMove_step stepped with
  | outside finishes _ => exact absurd running (finishes loop)
  | kept attempt => exact refusedOnly loop call failure (attempt ▸ running) current failed
  | started peer outer _ installed _ _ attempt =>
      cases running.symm.trans attempt
      have waiting := state_nextCall current
      rw [failed, peerCall_of_peer installed] at waiting
      cases waiting
  | settled outer inner callBefore callAfter was attempt outcome =>
      cases running.symm.trans attempt
      cases current
      rcases outcome failure failed with refused | rfl | ⟨peer, rfl, waiting⟩
      · exact refused
      · simp [cutsReattach, open_] at spared
      · simp [cutsReattach, open_, was, waiting] at spared
  | fellBack outer inner callBefore callAfter outcome degrades was attempt =>
      cases running.symm.trans attempt
      cases current
      cases outcome with
      | threw code => simp [cutsReattach, open_] at spared
      | settled =>
      cases peer : connection.peer with
      | none => simp [cutsReattach, open_, was, peer, degrades] at spared
      | some installed =>
          rw [peerCall_of_peer peer] at failed
          cases failed
  | wentOn outer inner callBefore callAfter outcome was peer attempt =>
      cases running.symm.trans attempt
      cases outcome with
      | threw code => simp [cutsReattach, open_] at spared
      | settled =>
      cases installed : connection.peer with
      | none =>
          have left := ahead_before_resumed (handlesMove_step stepped)
            (ahead_of_nextCall current)
          simp [cutsReattach, open_, was, installed] at spared
          rcases spared with ⟨⟨_, noneTaken⟩, noneLeft⟩
          rcases left with member | ⟨entry, member, inSet⟩
          · rw [noneTaken] at member
            cases member
          · rw [noneLeft entry.1 entry.2 member] at inSet
            cases inSet
      | some other =>
          have waiting := state_nextCall current
          rw [failed, peerCall_of_peer (peer.trans installed)] at waiting
          cases waiting

/-! ## Every registered handle gets its call -/

/-- A loop without a call is at its end. -/
def SpentLoop (connection : TargetConnection) : Prop :=
  ∀ loop, connection.attempt = some (.reattaching loop) → loop.current = none →
    loop.outer = [] ∧ loop.inner = []

theorem SpentLoop.step {connection next : TargetConnection} (spent : connection.SpentLoop)
    {event : ConnectionEvent} (stepped : connection.step event = some next) :
    next.SpentLoop := by
  intro loop running finishes
  cases loopMove_step stepped with
  | outside outside _ => exact absurd running (outside loop)
  | kept attempt => exact spent loop (attempt ▸ running) finishes
  | started _ _ _ _ _ _ attempt =>
      cases running.symm.trans attempt
      exact spent_nextCall finishes
  | settled _ _ _ _ _ attempt _ =>
      cases running.symm.trans attempt
      cases finishes
  | fellBack _ _ _ _ _ _ _ attempt =>
      cases running.symm.trans attempt
      cases finishes
  | wentOn _ _ _ _ _ _ _ attempt =>
      cases running.symm.trans attempt
      exact spent_nextCall finishes

/-- The loop in flight has the handle ahead of it. -/
def Awaits (connection : TargetConnection) (handle : HandleId) : Prop :=
  ∃ loop, connection.attempt = some (.reattaching loop) ∧
    connection.Ahead loop.outer loop.inner handle

theorem reattaches_of_callFor {connection : TargetConnection} {loop : ReattachLoop}
    {handle : HandleId} {sessionId : SessionId} {detached : Bool}
    (running : connection.attempt = some (.reattaching loop))
    (current : loop.current = some (connection.callFor handle))
    (known : connection.registration handle = some (sessionId, detached)) :
    connection.Reattaches handle := by
  rcases Option.map_eq_some_iff.mp known with ⟨subscriber, found, _⟩
  refine ⟨loop, _, subscriber, running, current, rfl, rfl, found, ?_⟩
  simp only [callFor, found, Option.elim_some]

/-- A loop that starts, or goes on, calls the handle or still has it ahead. -/
theorem Awaits.nextCall {connection : TargetConnection} {outer : List (SessionId × Nat)}
    {inner : List HandleId} {handle : HandleId} {sessionId : SessionId} {detached : Bool}
    (running : connection.attempt =
      some (.reattaching (connection.nextCall outer inner)))
    (known : connection.registration handle = some (sessionId, detached))
    (ahead : connection.Ahead outer inner handle) :
    connection.Reattaches handle ∨ connection.Awaits handle := by
  rcases ahead_nextCall ahead with current | later
  · exact Or.inl (reattaches_of_callFor running current known)
  · exact Or.inr ⟨_, running, later⟩

theorem ahead_step {before after : TargetConnection} {event : ConnectionEvent}
    (moved : HandlesMove before event after) (notCleared : event ≠ .closeFinished)
    {handle : HandleId} {sessionId : SessionId}
    (live : after.registration handle = some (sessionId, false))
    {outer : List (SessionId × Nat)} {inner : List HandleId}
    (ahead : before.Ahead outer inner handle) : after.Ahead outer inner handle := by
  rcases ahead with member | ⟨entry, member, inSet⟩
  · exact Or.inl member
  · exact Or.inr ⟨entry, member, mem_snapshotOf_step moved notCleared live inSet⟩

theorem Awaits.step {before after : TargetConnection} {event : ConnectionEvent}
    {handle : HandleId} (awaits : before.Awaits handle)
    (stepped : before.step event = some after) (notCleared : event ≠ .closeFinished)
    (notFinished : event ≠ .reattachFinished) {sessionId : SessionId}
    (live : after.registration handle = some (sessionId, false)) :
    after.Reattaches handle ∨ after.Awaits handle := by
  rcases awaits with ⟨loop, running, before_⟩
  have ahead := ahead_step (handlesMove_step stepped) notCleared live before_
  cases loopMove_step stepped with
  | outside _ reason =>
      rcases reason with finished | notLoop
      · exact absurd finished notFinished
      · exact absurd running (notLoop loop)
  | kept attempt => exact Or.inr ⟨loop, attempt.trans running, ahead⟩
  | started _ _ reason _ _ _ _ =>
      subst reason
      simp only [TargetConnection.step, running] at stepped
      cases stepped
  | settled outer inner _ _ was attempt _ =>
      cases running.symm.trans was
      exact Or.inr ⟨_, attempt, ahead⟩
  | fellBack outer inner _ _ _ _ was attempt =>
      cases running.symm.trans was
      exact Or.inr ⟨_, attempt, ahead⟩
  | wentOn outer inner _ _ _ was _ attempt =>
      cases running.symm.trans was
      exact Awaits.nextCall attempt live ahead

/-! ## Runs -/

theorem open_before_run {start finish : TargetConnection} {events : List ConnectionEvent}
    (reached : Execution.run step start events = some finish)
    (open_ : finish.disposed = false) : start.disposed = false := by
  cases disposed : start.disposed with
  | false => rfl
  | true =>
      have closed : finish.disposed = true :=
        Execution.reachable_invariant (fun connection => connection.disposed = true)
          (fun disposed stepped => disposed_stays disposed stepped) disposed reached
      rw [open_] at closed
      cases closed

theorem nextHandle_step {before after : TargetConnection} {event : ConnectionEvent}
    (moved : HandlesMove before event after) : before.nextHandle ≤ after.nextHandle := by
  cases moved with
  | kept _ _ nextHandle => exact Nat.le_of_eq nextHandle.symm
  | subscribed _ _ _ _ subscribed =>
      rw [subscribed]
      exact Nat.le_succ _
  | detached _ _ _ _ _ _ nextHandle => exact Nat.le_of_eq nextHandle.symm

theorem live_before_run {start finish : TargetConnection} {events : List ConnectionEvent}
    (reached : Execution.run step start events = some finish) {handle : HandleId}
    {sessionId : SessionId} (known : handle < start.nextHandle)
    (live : finish.registration handle = some (sessionId, false)) :
    start.registration handle = some (sessionId, false) := by
  induction events generalizing start with
  | nil =>
      cases reached
      exact live
  | cons event rest induction =>
      rw [Execution.run_cons] at reached
      rcases Option.bind_eq_some_iff.mp reached with ⟨next, stepped, restReached⟩
      have moved := handlesMove_step stepped
      have knownNext := Nat.lt_of_lt_of_le known (nextHandle_step moved)
      exact live_before moved (induction restReached knownNext) known

/-- A loop that had the handle ahead of it calls it before it is over. -/
theorem reattaches_before_finish {start finish finished : TargetConnection}
    {events : List ConnectionEvent} {handle : HandleId} {sessionId : SessionId}
    (begun : start.Reattaches handle ∨ start.Awaits handle) (spent : start.SpentLoop)
    (known : handle < start.nextHandle)
    (reached : Execution.run step start events = some finish)
    (unfinished : Execution.AllSteps step (fun _ event => event ≠ .reattachFinished) start events)
    (finishes : finish.step .reattachFinished = some finished)
    (open_ : finish.disposed = false)
    (live : finish.registration handle = some (sessionId, false)) :
    ∃ first rest middle, events = first ++ rest ∧
      Execution.run step start first = some middle ∧ middle.Reattaches handle := by
  induction events generalizing start with
  | nil =>
      cases reached
      rcases begun with now | ⟨loop, running, ahead⟩
      · exact ⟨[], [], _, rfl, rfl, now⟩
      · simp only [step, running] at finishes
        split at finishes
        · next outer inner isLoop =>
            cases isLoop
            rcases spent _ running rfl with ⟨noOuter, noInner⟩
            rcases ahead with member | ⟨entry, member, _⟩
            · rw [noInner] at member
              cases member
            · rw [noOuter] at member
              cases member
        · cases finishes
  | cons event rest induction =>
      rcases begun with now | awaits
      · exact ⟨[], event :: rest, start, rfl, rfl, now⟩
      · have startOpen := open_before_run reached open_
        rw [Execution.run_cons] at reached
        rcases Option.bind_eq_some_iff.mp reached with ⟨next, stepped, restReached⟩
        rcases (Execution.AllSteps.cons_iff stepped).mp unfinished with ⟨notFinished, later⟩
        have knownNext := Nat.lt_of_lt_of_le known (nextHandle_step (handlesMove_step stepped))
        have liveNext := live_before_run restReached knownNext live
        have notCleared : event ≠ .closeFinished := by
          rintro rfl
          simp [step, startOpen] at stepped
        have begunNext := awaits.step stepped notCleared notFinished liveNext
        rcases induction begunNext (spent.step stepped) knownNext restReached later with
          ⟨first, last, middle, split, firstReached, called⟩
        refine ⟨event :: first, last, middle, by rw [split]; rfl, ?_, called⟩
        rw [Execution.run_cons, stepped]
        exact firstReached

/-- Why a handle may be detached. -/
inductive DetachReason (connection : TargetConnection) (handle : HandleId)
    (event : ConnectionEvent) : Prop
  | own (isOwn : event = .detach handle)
  | closed (disposed : connection.disposed = true)
  | refused (loop : ReattachLoop) (call : ReattachCall) (error : RemoteError)
      (resumed : event = .reattachResumed)
      (running : connection.attempt = some (.reattaching loop))
      (current : loop.current = some call) (mine : call.handle = handle)
      (refusal : call.state = .failed (.refused error))

/-- What holds of a connection none of whose re-attaches was cut off. -/
structure Uncut (connection : TargetConnection) : Prop where
  refusedOnly : connection.disposed = false → connection.RefusedOnly
  registered : connection.disposed = false → connection.Registered
  spent : connection.SpentLoop

theorem Uncut.step {connection next : TargetConnection} (uncut : connection.Uncut)
    {event : ConnectionEvent} (stepped : connection.step event = some next)
    (spared : connection.cutsReattach event = false) : next.Uncut := by
  have openBefore : next.disposed = false → connection.disposed = false := by
    intro open_
    cases disposed : connection.disposed with
    | false => rfl
    | true => exact (disposed_stays disposed stepped).symm.trans open_
  refine ⟨?_, ?_, uncut.spent.step stepped⟩
  · intro open_
    have before := openBefore open_
    exact (uncut.refusedOnly before).step stepped before spared
  · intro open_
    have before := openBefore open_
    refine (uncut.registered before).step stepped ?_
    rintro rfl
    simp [TargetConnection.step, before] at stepped

theorem uncut_init (config : TargetConnectionConfig) : (init config).Uncut := by
  refine ⟨fun _ => ?_, fun _ => registered_init config, ?_⟩
  · intro loop call failure running
    cases running
  · intro loop running
    cases running

/-- In every run in which no re-attach is cut off, whatever the drops: a handle that
is not detached stays so but for its own detach, a closed connection or a refusal of
the backend; it is registered; and an open that comes to its end has re-attached it
from its cursor. -/
theorem live_outlastsDrops (config : TargetConnectionConfig) (events : List ConnectionEvent)
    (connection : TargetConnection)
    (reached : Execution.run step (init config) events = some connection)
    (spared : Execution.AllSteps step
      (fun connection event => connection.cutsReattach event = false) (init config) events)
    (handle : HandleId) (sessionId : SessionId)
    (live : connection.registration handle = some (sessionId, false)) :
    (∀ event next, connection.step event = some next → connection.cutsReattach event = false →
      next.registration handle ≠ some (sessionId, false) →
        DetachReason connection handle event) ∧
    (connection.disposed = false → handle ∈ connection.membersOf sessionId) ∧
    ∀ opened loop later finish finished, connection.step .installed = some opened →
      opened.attempt = some (.reattaching loop) →
      Execution.run step opened later = some finish →
      Execution.AllSteps step (fun _ event => event ≠ .reattachFinished) opened later →
      finish.step .reattachFinished = some finished → finish.disposed = false →
      finish.registration handle = some (sessionId, false) →
        ∃ first rest middle, later = first ++ rest ∧
          Execution.run step opened first = some middle ∧ middle.Reattaches handle := by
  have uncut : connection.Uncut :=
    Execution.run_invariant Uncut (fun holds allowed stepped => holds.step stepped allowed)
      (uncut_init config) spared reached
  refine ⟨?_, fun open_ => (uncut.registered open_).member handle sessionId live, ?_⟩
  · intro event next stepped uncutNow gone
    cases disposed : connection.disposed with
    | true => exact .closed disposed
    | false =>
        cases handlesMove_step stepped with
        | kept registration _ _ => exact absurd ((registration handle).trans live) gone
        | subscribed own mode lastSeq _ subscribed =>
            have known := (uncut.registered disposed).fresh handle (by rw [live]; simp)
            rw [subscribed, registration_subscribe, if_neg (Nat.ne_of_lt known)] at gone
            exact absurd live gone
        | detached torn tornSession reason was registration _ _ =>
            rw [registration] at gone
            split at gone
            · next mine =>
                rcases reason with own | ⟨resumed, loop, call, failure, running, current,
                  ofCall, failed⟩ | ⟨code, rfl⟩
                · exact .own (own.trans (by rw [mine]))
                · rcases uncut.refusedOnly disposed loop call failure running current failed
                    with ⟨error, rfl⟩
                  exact .refused loop call error resumed running current (ofCall.trans mine.symm)
                    failed
                · simp [cutsReattach, disposed] at uncutNow
            · exact absurd live gone
  · intro opened loop later finish finished stepped running laterReached unfinished finishes open_
      stillLive
    have start : Execution.run step connection (.installed :: later) = some finish := by
      rw [Execution.run_cons, stepped]
      exact laterReached
    have registered := uncut.registered (open_before_run start open_)
    have known := registered.fresh handle (by rw [live]; simp)
    have moved := handlesMove_step stepped
    have knownOpened := Nat.lt_of_lt_of_le known (nextHandle_step moved)
    have liveOpened := live_before_run laterReached knownOpened stillLive
    have begun : opened.Reattaches handle ∨ opened.Awaits handle := by
      have ahead := ahead_step moved (by simp) liveOpened
        (ahead_reattachAll (registered.member handle sessionId live))
      cases loopMove_step stepped with
      | outside outside _ => exact absurd running (outside loop)
      | kept attempt =>
          cases stepped_of_step stepped with
          | installed handshook =>
              rw [attempt, handshook] at running
              cases running
          | reattachResumed _ _ outcome => cases outcome
      | started _ outer _ _ snapshot _ attempt =>
          subst snapshot
          exact Awaits.nextCall attempt liveOpened ahead
      | settled _ _ _ _ was _ _ | fellBack _ _ _ _ _ _ was _ | wentOn _ _ _ _ _ was _ _ =>
          simp only [step, was] at stepped
          cases stepped
    exact reattaches_before_finish begun (uncut.spent.step stepped) knownOpened laterReached
      unfinished finishes open_ stillLive

/-- One subscriber whose stream drops; the next open is about to install its peer. -/
def droppedOnce : List ConnectionEvent :=
  firstOpen ++
    [.subscribe "s" .write 4, .dropped 0, .peerClosed, .timerFired, .execStarted,
      .handshakeAnswered "c2" []]

/-- The lease was lost meanwhile: the loop falls back to reading and ends. -/
theorem live_outlastsDrops_once :
    ∃ connection opened finish finished,
      Execution.run step (init {}) droppedOnce = some connection ∧
      connection.step .installed = some opened ∧
      Execution.run step opened
        [.reattachAnswered (.error ⟨.sessionLocked, "held by c9", none⟩), .reattachResumed,
          .reattachAnswered (.ok ⟨"s", some "c9", 6, none⟩), .reattachResumed] = some finish ∧
      finish.step .reattachFinished = some finished ∧
      0 ∈ connection.membersOf "s" ∧
      ∃ first rest middle,
        [.reattachAnswered (.error ⟨.sessionLocked, "held by c9", none⟩), .reattachResumed,
          .reattachAnswered (.ok ⟨"s", some "c9", 6, none⟩), .reattachResumed] = first ++ rest ∧
          Execution.run step opened first = some middle ∧ middle.Reattaches 0 := by
  have facts := live_outlastsDrops {} droppedOnce _ rfl (by decide) 0 "s" rfl
  exact ⟨_, _, _, _, rfl, rfl, rfl, rfl, facts.2.1 rfl,
    facts.2.2 _ _ _ _ _ rfl rfl rfl (.of_events (by simp) _) rfl rfl rfl⟩

/-- In the run that drops twice the loop, going on after the second drop, detaches a
registered handle nobody detached and the backend was not asked about. -/
theorem live_lostInSecondDrop :
    ∃ events connection next,
      Execution.run step (init {}) events = some connection ∧
      connection.step .reattachResumed = some next ∧ connection.disposed = false ∧
      connection.registration 0 = some ("s", false) ∧
      next.registration 0 = some ("s", true) ∧ next.membersOf "s" = [] ∧
      ¬DetachReason connection 0 .reattachResumed := by
  refine ⟨droppedTwice.take 14, _, _, rfl, rfl, rfl, rfl, rfl, rfl, ?_⟩
  intro reason
  cases reason with
  | own isOwn => cases isOwn
  | closed disposed => cases disposed
  | refused loop call error _ running current _ refusal =>
      cases running
      cases current
      cases refusal

end TargetConnection

end DshRemote.Client
