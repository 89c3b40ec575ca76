import DshRemote.Client.Connection

/-! # The channel of a connection

While no stream ends under an attempt that has its handshake behind it, a
connection that was not closed is in one of four situations: no peer, a peer being
installed, a peer in use, or a lost peer whose callback is queued. -/

namespace DshRemote.Client

namespace TargetConnection

/-! ## Steps -/

/-- How a loop goes on from its call: as it was settled, or as failed by what a callback
threw. -/
inductive Outcome (was : ReattachCall) : ConnectionEvent → ReattachCall → Prop
  | settled : Outcome was .reattachResumed was
  | threw (code : Option RemoteErrorCode) :
      Outcome was (.reattachThrew code) { was with state := .failed (.threw code) }

/-- What each event does where it is possible. -/
inductive Stepped (connection : TargetConnection) : ConnectionEvent → TargetConnection → Prop
  | ensureConnected : Stepped connection .ensureConnected connection.ensureConnected
  | timerFired : Stepped connection .timerFired connection.timerFired
  | close : Stepped connection .close connection.close
  | closeFinished (disposed : connection.disposed = true) :
      Stepped connection .closeFinished { connection with subscribers := .empty }
  | execStarted {gen : Nat} (running : connection.attempt = some (.opening gen)) :
      Stepped connection .execStarted { connection with
        attempt := some (.handshaking gen connection.nextPeer)
        nextPeer := connection.nextPeer + 1 }
  | openFailed {attempt : Attempt} (running : connection.attempt = some attempt)
      (opens : (∃ gen, attempt = .opening gen) ∨ ∃ gen peer, attempt = .handshaking gen peer) :
      Stepped connection .openFailed { connection with attempt := some (.settled false) }
  | handshakeAnswered {gen : Nat} {peer : PeerId} (clientId : ClientId)
      (capabilities : List String)
      (running : connection.attempt = some (.handshaking gen peer))
      (flowing : peer ∉ connection.ended) :
      Stepped connection (.handshakeAnswered clientId capabilities)
        { connection with attempt := some (.handshook gen peer clientId capabilities) }
  | installed {gen : Nat} {peer : PeerId} {clientId : ClientId} {capabilities : List String}
      (running : connection.attempt = some (.handshook gen peer clientId capabilities)) :
      Stepped connection .installed (connection.install gen peer clientId capabilities)
  | reattachAnswered {outer : List (SessionId × Nat)} {inner : List HandleId} {handle : HandleId}
      {base : SessionAttachParams} {fallback : Bool} {callee : PeerId}
      (answer : Except RemoteError SessionAttachResult)
      (running : connection.attempt = some (.reattaching ⟨outer, inner,
        some ⟨handle, base, fallback, .waiting callee⟩⟩)) :
      Stepped connection (.reattachAnswered answer) { connection with
        attempt := some (.reattaching ⟨outer, inner, some ⟨handle, base, fallback,
          match answer with
          | .ok result => .answered result
          | .error refused => .failed (.refused refused)⟩⟩) }
  | reattachTimedOut {outer : List (SessionId × Nat)} {inner : List HandleId} {handle : HandleId}
      {base : SessionAttachParams} {fallback : Bool} {callee : PeerId}
      (running : connection.attempt = some (.reattaching ⟨outer, inner,
        some ⟨handle, base, fallback, .waiting callee⟩⟩)) :
      Stepped connection .reattachTimedOut { connection with
        attempt := some (.reattaching ⟨outer, inner,
          some ⟨handle, base, fallback, .failed .timedOut⟩⟩) }
  | reattachResumed {outer : List (SessionId × Nat)} {inner : List HandleId}
      {was call : ReattachCall} {event : ConnectionEvent}
      (running : connection.attempt = some (.reattaching ⟨outer, inner, some was⟩))
      (settled : ∀ peer, call.state ≠ .waiting peer) (outcome : Outcome was event call) :
      Stepped connection event (connection.resumeReattach ⟨outer, inner, some call⟩ call)
  | reattachFinished {outer : List (SessionId × Nat)} {inner : List HandleId}
      (running : connection.attempt = some (.reattaching ⟨outer, inner, none⟩)) :
      Stepped connection .reattachFinished
        { connection with state := .connected, attempt := some (.settled true) }
  | attemptSettled {succeeded : Bool}
      (running : connection.attempt = some (.settled succeeded)) :
      Stepped connection .attemptSettled (connection.attemptSettled succeeded)
  | dropped (peer : PeerId) : Stepped connection (.dropped peer) (connection.drop peer)
  | peerClosed {gen : Nat} {rest : List Nat} (queued : connection.closing = gen :: rest) :
      Stepped connection .peerClosed ({ connection with closing := rest }.onPeerClosed gen)
  | subscribe (sessionId : SessionId) (mode : AttachMode) (lastSeq : Int) :
      Stepped connection (.subscribe sessionId mode lastSeq)
        (connection.subscribe sessionId mode lastSeq)
  | detach (handle : HandleId) : Stepped connection (.detach handle) (connection.detach handle)
  | sessionEvent (sessionId : SessionId) (event : SessionEvent) :
      Stepped connection (.sessionEvent sessionId event)
        (connection.dispatch sessionId fun handle => (handle.handleEvent event).1)
  | controlChanged (sessionId : SessionId) (holder : Option ClientId)
      (reason : ControlChangeReason) :
      Stepped connection (.controlChanged sessionId holder reason)
        (connection.dispatch sessionId fun handle =>
          handle.handleControl connection.clientId holder reason)

theorem stepped_of_step {connection next : TargetConnection} {event : ConnectionEvent}
    (stepped : connection.step event = some next) : Stepped connection event next := by
  unfold TargetConnection.step at stepped
  split at stepped
  · cases stepped
    exact .ensureConnected
  · split at stepped <;> cases stepped
    exact .timerFired
  · cases stepped
    exact .close
  · split at stepped
    · next disposed =>
      cases stepped
      exact .closeFinished disposed
    · cases stepped
  · split at stepped
    · next running =>
      cases stepped
      exact .execStarted running
    · cases stepped
  · split at stepped
    · next running =>
      cases stepped
      exact .openFailed running (Or.inl ⟨_, rfl⟩)
    · next running =>
      cases stepped
      exact .openFailed running (Or.inr ⟨_, _, rfl⟩)
    · cases stepped
  · split at stepped
    · next running =>
      split at stepped
      · cases stepped
      · next flowing =>
        cases stepped
        exact .handshakeAnswered _ _ running flowing
    · cases stepped
  · split at stepped
    · next running =>
      cases stepped
      exact .installed running
    · cases stepped
  · next answer =>
    split at stepped
    · next running =>
      split at stepped <;> cases stepped
      exact .reattachAnswered answer running
    · cases stepped
  · split at stepped
    · next running =>
      cases stepped
      exact .reattachTimedOut running
    · cases stepped
  · split at stepped
    · next running =>
      split at stepped
      · cases stepped
      · next settled =>
        cases stepped
        exact .reattachResumed running settled .settled
    · cases stepped
  · next code =>
    split at stepped
    · next running =>
      cases stepped
      exact .reattachResumed running nofun (.threw code)
    · cases stepped
  · split at stepped
    · next running =>
      cases stepped
      exact .reattachFinished running
    · cases stepped
  · split at stepped
    · next running =>
      cases stepped
      exact .attemptSettled running
    · cases stepped
  · split at stepped <;> cases stepped
    exact .dropped _
  · split at stepped
    · cases stepped
    · next queued =>
      cases stepped
      exact .peerClosed queued
  · cases stepped
    exact .subscribe _ _ _
  · cases stepped
    exact .detach _
  · cases stepped
    exact .sessionEvent _ _
  · cases stepped
    exact .controlChanged _ _ _

/-- An attempt that has not installed a peer, or has nothing left to do. -/
def Detached : Option Attempt → Prop
  | some (.reattaching _) => False
  | _ => True

instance : (attempt : Option Attempt) → Decidable (Detached attempt)
  | some (.reattaching _) => isFalse id
  | none | some (.opening _) | some (.handshaking _ _) | some (.handshook _ _ _ _)
  | some (.settled _) => isTrue trivial

/-- No attempt, or one whose callbacks have not run. -/
def Idle : Option Attempt → Prop
  | none | some (.settled _) => True
  | _ => False

theorem Idle.detached {attempt : Option Attempt} (idle : Idle attempt) : Detached attempt := by
  cases attempt with
  | none => trivial
  | some running => cases running <;> trivial

/-- The proof was answered by a peer whose stream has not ended since. -/
def Answered (connection : TargetConnection) : Prop :=
  ∀ gen peer clientId capabilities,
    connection.attempt = some (.handshook gen peer clientId capabilities) →
      peer ∉ connection.ended

/-- The situations of the channel. -/
inductive Channel (connection : TargetConnection) : Prop
  | down (peer : connection.peer = none) (state : connection.state = .down)
      (closing : connection.closing = [])
      (watched : ∀ other, connection.watched.get other = none)
      (attempt : Detached connection.attempt) (answered : connection.Answered)
  | reattaching (peer : PeerId) (loop : ReattachLoop) (installed : connection.peer = some peer)
      (state : connection.state = .down) (closing : connection.closing = [])
      (watched : ∀ other, connection.watched.get other =
        if other = peer then some connection.gen else none)
      (attempt : connection.attempt = some (.reattaching loop))
      (flowing : peer ∉ connection.ended)
  | connected (peer : PeerId) (installed : connection.peer = some peer)
      (state : connection.state = .connected) (closing : connection.closing = [])
      (watched : ∀ other, connection.watched.get other =
        if other = peer then some connection.gen else none)
      (attempt : Idle connection.attempt) (flowing : peer ∉ connection.ended)
  | lost (peer : PeerId) (installed : connection.peer = some peer)
      (state : connection.state = .connected) (closing : connection.closing = [connection.gen])
      (watched : ∀ other, connection.watched.get other = none)
      (attempt : Idle connection.attempt)

/-- A step that touches neither the peer nor what is known of streams. -/
structure SameWire (before after : TargetConnection) : Prop where
  peer : after.peer = before.peer
  state : after.state = before.state
  gen : after.gen = before.gen
  disposed : after.disposed = before.disposed
  ended : after.ended = before.ended
  watched : after.watched = before.watched
  closing : after.closing = before.closing

theorem SameWire.refl (connection : TargetConnection) : SameWire connection connection :=
  ⟨rfl, rfl, rfl, rfl, rfl, rfl, rfl⟩

theorem SameWire.trans {first second third : TargetConnection}
    (left : SameWire first second) (right : SameWire second third) : SameWire first third :=
  ⟨right.peer.trans left.peer, right.state.trans left.state, right.gen.trans left.gen,
    right.disposed.trans left.disposed, right.ended.trans left.ended,
    right.watched.trans left.watched, right.closing.trans left.closing⟩

/-! ## Which operations leave the wire alone -/

theorem sameWire_scheduleReconnect (connection : TargetConnection) :
    SameWire connection connection.scheduleReconnect ∧
      connection.scheduleReconnect.attempt = connection.attempt := by
  simp only [scheduleReconnect]
  split
  · exact ⟨.refl _, rfl⟩
  · split
    · split <;> exact ⟨⟨rfl, rfl, rfl, rfl, rfl, rfl, rfl⟩, rfl⟩
    · exact ⟨⟨rfl, rfl, rfl, rfl, rfl, rfl, rfl⟩, rfl⟩

theorem sameWire_unsubscribe (connection : TargetConnection) (sessionId : SessionId)
    (handle : HandleId) :
    SameWire connection (connection.unsubscribe sessionId handle) ∧
      (connection.unsubscribe sessionId handle).attempt = connection.attempt := by
  simp only [unsubscribe]
  split <;> exact ⟨⟨rfl, rfl, rfl, rfl, rfl, rfl, rfl⟩, rfl⟩

theorem sameWire_detach (connection : TargetConnection) (handle : HandleId) :
    SameWire connection (connection.detach handle) ∧
      (connection.detach handle).attempt = connection.attempt := by
  simp only [detach]
  split
  · exact ⟨.refl _, rfl⟩
  · split
    · exact ⟨.refl _, rfl⟩
    · next current _ _ =>
        have rest := sameWire_unsubscribe (connection.update handle DaemonAgentHandle.detach)
          current.sessionId handle
        have updated : SameWire connection
            (connection.update handle DaemonAgentHandle.detach) :=
          ⟨rfl, rfl, rfl, rfl, rfl, rfl, rfl⟩
        exact ⟨updated.trans rest.1, rest.2⟩

theorem sameWire_onReattachFailed (connection : TargetConnection) (handle : HandleId) :
    SameWire connection (connection.onReattachFailed handle) := by
  simp only [onReattachFailed]
  split
  · exact .refl _
  · split
    · exact .refl _
    · next current _ _ =>
        have rest := sameWire_unsubscribe
          (connection.update handle DaemonAgentHandle.onReattachFailed) current.sessionId handle
        have updated : SameWire connection
            (connection.update handle DaemonAgentHandle.onReattachFailed) :=
          ⟨rfl, rfl, rfl, rfl, rfl, rfl, rfl⟩
        exact updated.trans rest.1

/-- The loop moves on without touching the wire, and is still the attempt. -/
theorem sameWire_resumeReattach (connection : TargetConnection) (loop : ReattachLoop)
    (call : ReattachCall) (settled : ∀ peer, call.state ≠ .waiting peer) :
    SameWire connection (connection.resumeReattach loop call) ∧
      ∃ next, (connection.resumeReattach loop call).attempt = some (.reattaching next) := by
  simp only [resumeReattach]
  split
  · next peer waiting => exact absurd waiting (settled peer)
  · split <;> exact ⟨⟨rfl, rfl, rfl, rfl, rfl, rfl, rfl⟩, _, rfl⟩
  · split
    · exact ⟨⟨rfl, rfl, rfl, rfl, rfl, rfl, rfl⟩, _, rfl⟩
    · have same := sameWire_onReattachFailed connection call.handle
      exact ⟨⟨same.peer, same.state, same.gen, same.disposed, same.ended, same.watched,
        same.closing⟩, _, rfl⟩

/-! ## Preservation -/

theorem Channel.of_same {before after : TargetConnection} (channel : before.Channel)
    (same : SameWire before after) (attempt : after.attempt = before.attempt) :
    after.Channel := by
  cases channel with
  | down peer state closing watched detached answered =>
      refine .down (same.peer.trans peer) (same.state.trans state)
        (same.closing.trans closing) ?_ (by rwa [attempt]) ?_
      · rw [same.watched]
        exact watched
      · simp only [Answered, attempt, same.ended]
        exact answered
  | reattaching peer loop installed state closing watched running flowing =>
      refine .reattaching peer loop (same.peer.trans installed) (same.state.trans state)
        (same.closing.trans closing) ?_ (attempt.trans running) (by rwa [same.ended])
      rw [same.watched, same.gen]
      exact watched
  | connected peer installed state closing watched idle flowing =>
      refine .connected peer (same.peer.trans installed) (same.state.trans state)
        (same.closing.trans closing) ?_ (by rwa [attempt]) (by rwa [same.ended])
      rw [same.watched, same.gen]
      exact watched
  | lost peer installed state closing watched idle =>
      refine .lost peer (same.peer.trans installed) (same.state.trans state) ?_ ?_
        (by rwa [attempt])
      · rw [same.closing, same.gen]
        exact closing
      · rw [same.watched]
        exact watched

/-- Without a peer, an attempt may get to any point before the installation. -/
theorem Channel.before_install {before after : TargetConnection} (channel : before.Channel)
    (same : SameWire before after) (running : ¬Idle before.attempt ∨ before.state = .down)
    (notReattaching : Detached before.attempt) (detached : Detached after.attempt)
    (answered : after.Answered) : after.Channel := by
  cases channel with
  | down peer state closing watched _ _ =>
      refine .down (same.peer.trans peer) (same.state.trans state)
        (same.closing.trans closing) ?_ detached answered
      rw [same.watched]
      exact watched
  | reattaching peer loop installed state closing watched attempt flowing =>
      rw [attempt] at notReattaching
      cases notReattaching
  | connected peer installed state closing watched idle flowing =>
      rcases running with busy | down
      · exact absurd idle busy
      · cases state.symm.trans down
  | lost peer installed state closing watched idle =>
      rcases running with busy | down
      · exact absurd idle busy
      · cases state.symm.trans down

/-- A re-attach loop stays one. -/
theorem Channel.during_reattach {before after : TargetConnection} (channel : before.Channel)
    {loop next : ReattachLoop} (running : before.attempt = some (.reattaching loop))
    (same : SameWire before after) (attempt : after.attempt = some (.reattaching next)) :
    after.Channel := by
  cases channel with
  | down peer state closing watched detached answered =>
      rw [running] at detached
      cases detached
  | reattaching peer _ installed state closing watched _ flowing =>
      refine .reattaching peer next (same.peer.trans installed) (same.state.trans state)
        (same.closing.trans closing) ?_ attempt (by rwa [same.ended])
      rw [same.watched, same.gen]
      exact watched
  | connected peer installed state closing watched idle flowing =>
      rw [running] at idle
      cases idle
  | lost peer installed state closing watched idle =>
      rw [running] at idle
      cases idle

/-- The stream of the attempt's peer ends after the handshake was answered and
before the attempt has reported the connection. -/
def DropsAttempt (connection : TargetConnection) : ConnectionEvent → Prop
  | .dropped peer =>
      match connection.attempt with
      | some (.handshook _ handshook _ _) => peer = handshook
      | some (.reattaching _) => connection.peer = some peer
      | _ => False
  | _ => False

theorem Channel.launch {connection : TargetConnection} (channel : connection.Channel)
    (down : connection.state = .down) (none : connection.attempt = none) :
    connection.launchAttempt.Channel := by
  refine channel.before_install ⟨rfl, rfl, rfl, rfl, rfl, rfl, rfl⟩ (Or.inr down) ?_ trivial ?_
  · rw [none]
    trivial
  · intro gen peer clientId capabilities attempt
    cases attempt

theorem Channel.ensureConnected {connection : TargetConnection} (channel : connection.Channel) :
    connection.ensureConnected.Channel := by
  simp only [TargetConnection.ensureConnected]
  split
  · exact channel
  · next open_ =>
      have down : connection.state = .down := by
        cases state : connection.state with
        | down => rfl
        | connected => exact absurd (Or.inr state) open_
      have cancelled : Channel { connection with timer := false } :=
        channel.of_same ⟨rfl, rfl, rfl, rfl, rfl, rfl, rfl⟩ rfl
      split
      · exact cancelled
      · next vacant => exact cancelled.launch down (by simpa using vacant)

theorem Channel.timerFired {connection : TargetConnection} (channel : connection.Channel) :
    connection.timerFired.Channel := by
  have fired : Channel { connection with timer := false } :=
    channel.of_same ⟨rfl, rfl, rfl, rfl, rfl, rfl, rfl⟩ rfl
  simp only [TargetConnection.timerFired]
  split
  · exact fired
  · next open_ =>
      have down : connection.state = .down := by
        cases state : connection.state with
        | down => rfl
        | connected => exact absurd (Or.inr (Or.inl state)) open_
      exact fired.launch down (by
        cases attempt : connection.attempt with
        | none => rfl
        | some running => exact absurd (Or.inr (Or.inr (by simp [attempt]))) open_)

theorem Channel.install {connection : TargetConnection} (channel : connection.Channel)
    {gen : Nat} {peer : PeerId} {clientId : ClientId} {capabilities : List String}
    (attempt : connection.attempt = some (.handshook gen peer clientId capabilities)) :
    (connection.install gen peer clientId capabilities).Channel := by
  have busy : ¬Idle connection.attempt := by
    rw [attempt]
    exact id
  have detached : Detached connection.attempt := by
    rw [attempt]
    trivial
  simp only [TargetConnection.install]
  split
  · refine channel.before_install ⟨rfl, rfl, rfl, rfl, rfl, rfl, rfl⟩ (Or.inl busy) detached
      trivial ?_
    intro _ _ _ _ settled
    cases settled
  · next open_ =>
      have sameGen : gen = connection.gen := by
        by_contra different
        exact open_ (Or.inr different)
      cases channel with
      | down noPeer state closing watched _ answered =>
          have flowing : peer ∉ connection.ended := answered _ _ _ _ attempt
          refine .reattaching peer _ rfl state ?_ ?_ rfl flowing
          · simp only [flowing, if_false]
            exact closing
          · intro other
            simp only [flowing, if_false, OrderedMap.get_set, watched, sameGen]
      | reattaching _ _ _ _ _ _ running _ => cases attempt.symm.trans running
      | connected _ _ _ _ _ idle _ => exact absurd idle busy
      | lost _ _ _ _ _ idle => exact absurd idle busy

theorem attempt_drop (connection : TargetConnection) (peer : PeerId) :
    (connection.drop peer).attempt = connection.attempt ∨
      ∃ loop next, connection.attempt = some (.reattaching loop) ∧
        (connection.drop peer).attempt = some (.reattaching next) := by
  simp only [TargetConnection.drop]
  split
  · next outer inner handle base fallback callee running =>
      split
      · exact Or.inr ⟨_, _, running, rfl⟩
      · exact Or.inl rfl
  · exact Or.inl rfl

theorem Channel.drop {connection : TargetConnection} (channel : connection.Channel)
    {peer : PeerId} (spared : ¬connection.DropsAttempt (.dropped peer)) :
    (connection.drop peer).Channel := by
  have attempt := connection.attempt_drop peer
  have unmoved : (∀ loop, connection.attempt ≠ some (.reattaching loop)) →
      (connection.drop peer).attempt = connection.attempt := by
    intro notReattaching
    rcases attempt with same | ⟨loop, next, running, _⟩
    · exact same
    · exact absurd running (notReattaching loop)
  have watchedAfter : ∀ other, (connection.drop peer).watched.get other =
      if other = peer then none else connection.watched.get other :=
    fun other => OrderedMap.get_delete _ _ _
  have unwatched : connection.watched.get peer = none →
      (connection.drop peer).closing = connection.closing := by
    intro none
    simp only [TargetConnection.drop, none]
  cases channel with
  | down noPeer state closing watched detached answered =>
      have same := unmoved (by
        intro loop running
        rw [running] at detached
        cases detached)
      refine .down noPeer state ((unwatched (watched peer)).trans closing) ?_
        (by rwa [same]) ?_
      · intro other
        rw [watchedAfter, watched]
        split <;> rfl
      · intro gen handshook clientId capabilities running
        rw [same] at running
        have different : handshook ≠ peer := by
          intro equal
          refine spared ?_
          simp only [DropsAttempt, running]
          exact equal.symm
        intro member
        rcases (OrderedSet.mem_add _ _ _).mp member with earlier | equal
        · exact answered _ _ _ _ running earlier
        · exact different equal
  | reattaching installed loop isInstalled state closing watched running flowing =>
      have different : installed ≠ peer := by
        intro equal
        refine spared ?_
        simp only [DropsAttempt, running]
        rw [isInstalled, equal]
      have next : ∃ next, (connection.drop peer).attempt = some (.reattaching next) := by
        rcases attempt with same | ⟨_, next, _, moved⟩
        · exact ⟨loop, same.trans running⟩
        · exact ⟨next, moved⟩
      rcases next with ⟨next, moved⟩
      have none : connection.watched.get peer = none := by
        rw [watched, if_neg (Ne.symm different)]
      refine .reattaching installed next isInstalled state ((unwatched none).trans closing) ?_
        moved ?_
      · intro other
        rw [watchedAfter, watched]
        by_cases isPeer : other = peer
        · subst isPeer
          simp [Ne.symm different]
        · rw [if_neg isPeer]
          rfl
      · intro member
        rcases (OrderedSet.mem_add _ _ _).mp member with earlier | equal
        · exact flowing earlier
        · exact different equal
  | connected installed isInstalled state closing watched idle flowing =>
      have same := unmoved (by
        intro loop running
        rw [running] at idle
        cases idle)
      by_cases mine : installed = peer
      · subst mine
        have found : connection.watched.get installed = some connection.gen := by
          rw [watched, if_pos rfl]
        refine .lost installed isInstalled state ?_ ?_ (by rwa [same])
        · simp only [TargetConnection.drop, found, closing, List.nil_append]
        · intro other
          rw [watchedAfter, watched]
          split <;> rfl
      · have none : connection.watched.get peer = none := by
          rw [watched, if_neg (Ne.symm mine)]
        refine .connected installed isInstalled state ((unwatched none).trans closing) ?_
          (by rwa [same]) ?_
        · intro other
          rw [watchedAfter, watched]
          by_cases isPeer : other = peer
          · subst isPeer
            simp [Ne.symm mine]
          · rw [if_neg isPeer]
            rfl
        · intro member
          rcases (OrderedSet.mem_add _ _ _).mp member with earlier | equal
          · exact flowing earlier
          · exact mine equal
  | lost installed isInstalled state closing watched idle =>
      have same := unmoved (by
        intro loop running
        rw [running] at idle
        cases idle)
      refine .lost installed isInstalled state ((unwatched (watched peer)).trans closing) ?_
        (by rwa [same])
      intro other
      rw [watchedAfter, watched]
      split <;> rfl

/-- The callback of the one lost peer takes the channel down. -/
theorem Channel.onPeerClosed {connection : TargetConnection} (channel : connection.Channel)
    {gen : Nat} {rest : List Nat} (queued : connection.closing = gen :: rest)
    (open_ : connection.disposed = false) :
    ({ connection with closing := rest }.onPeerClosed gen).Channel := by
  cases channel with
  | down _ _ closing _ _ _ => cases closing.symm.trans queued
  | reattaching _ _ _ _ closing _ _ _ => cases closing.symm.trans queued
  | connected _ _ _ closing _ _ _ => cases closing.symm.trans queued
  | lost peer installed state closing watched idle =>
      cases closing.symm.trans queued
      rw [TargetConnection.onPeerClosed, if_neg (by simp [open_])]
      have scheduled := sameWire_scheduleReconnect { connection with
        closing := []
        state := .down
        peer := none
        clientId := ""
        capabilities := []
        attempts := 0
        backoffMs := connection.config.reconnectInitialDelayMs }
      refine Channel.of_same ?_ scheduled.1 scheduled.2
      refine .down rfl rfl rfl watched ?_ ?_
      · exact idle.detached
      · intro gen peer clientId capabilities running
        rw [running] at idle
        cases idle

theorem Channel.attemptSettled {connection : TargetConnection} (channel : connection.Channel)
    {succeeded : Bool} (settled : connection.attempt = some (.settled succeeded)) :
    (connection.attemptSettled succeeded).Channel := by
  have cleared : ∀ next : TargetConnection, SameWire connection next → next.attempt = none →
      next.Channel := by
    intro next same none
    cases channel with
    | down peer state closing watched _ _ =>
        refine .down (same.peer.trans peer) (same.state.trans state)
          (same.closing.trans closing) ?_ (by rw [none]; trivial) ?_
        · rw [same.watched]
          exact watched
        · intro gen peer clientId capabilities running
          cases none.symm.trans running
    | reattaching _ _ _ _ _ _ running _ => cases settled.symm.trans running
    | connected peer installed state closing watched _ flowing =>
        refine .connected peer (same.peer.trans installed) (same.state.trans state)
          (same.closing.trans closing) ?_ (by rw [none]; trivial) (by rwa [same.ended])
        rw [same.watched, same.gen]
        exact watched
    | lost peer installed state closing watched _ =>
        refine .lost peer (same.peer.trans installed) (same.state.trans state) ?_ ?_
          (by rw [none]; trivial)
        · rw [same.closing, same.gen]
          exact closing
        · rw [same.watched]
          exact watched
  simp only [TargetConnection.attemptSettled]
  split
  · exact cleared _ ⟨rfl, rfl, rfl, rfl, rfl, rfl, rfl⟩ rfl
  · have failed : SameWire connection { connection with
        attempt := none
        attempts := connection.attempts + 1
        backoffMs := min (connection.backoffMs * 2) connection.config.reconnectMaxDelayMs } :=
      ⟨rfl, rfl, rfl, rfl, rfl, rfl, rfl⟩
    have scheduled := sameWire_scheduleReconnect { connection with
      attempt := none
      attempts := connection.attempts + 1
      backoffMs := min (connection.backoffMs * 2) connection.config.reconnectMaxDelayMs }
    exact cleared _ (failed.trans scheduled.1) scheduled.2

theorem Channel.finish {connection : TargetConnection} (channel : connection.Channel)
    {loop : ReattachLoop} (running : connection.attempt = some (.reattaching loop)) :
    Channel { connection with state := .connected, attempt := some (.settled true) } := by
  cases channel with
  | down _ _ _ _ detached _ =>
      rw [running] at detached
      cases detached
  | reattaching peer _ installed _ closing watched _ flowing =>
      exact .connected peer installed rfl closing watched trivial flowing
  | connected _ _ _ _ _ idle _ =>
      rw [running] at idle
      cases idle
  | lost _ _ _ _ _ idle =>
      rw [running] at idle
      cases idle

theorem Channel.step {connection next : TargetConnection} (channel : connection.Channel)
    {event : ConnectionEvent} (stepped : connection.step event = some next)
    (open_ : next.disposed = false) (spared : ¬connection.DropsAttempt event) :
    next.Channel := by
  have wire : ∀ {attempt}, SameWire connection { connection with attempt := attempt } :=
    ⟨rfl, rfl, rfl, rfl, rfl, rfl, rfl⟩
  cases stepped_of_step stepped with
  | ensureConnected => exact channel.ensureConnected
  | timerFired => exact channel.timerFired
  | close =>
      simp only [TargetConnection.close] at open_ ⊢
      split at open_
      · next closed => simp [closed] at open_
      · cases open_
  | closeFinished closed => simp [closed] at open_
  | execStarted running =>
      refine channel.before_install ⟨rfl, rfl, rfl, rfl, rfl, rfl, rfl⟩
        (Or.inl (by rw [running]; exact id)) (by rw [running]; trivial) trivial ?_
      intro _ _ _ _ moved
      cases moved
  | openFailed running opens =>
      rcases opens with ⟨_, rfl⟩ | ⟨_, _, rfl⟩
      all_goals
        refine channel.before_install wire
          (Or.inl (by rw [running]; exact id)) (by rw [running]; trivial) trivial ?_
        intro _ _ _ _ moved
        cases moved
  | handshakeAnswered clientId capabilities running flowing =>
      refine channel.before_install wire
        (Or.inl (by rw [running]; exact id)) (by rw [running]; trivial) trivial ?_
      intro _ _ _ _ moved
      cases moved
      exact flowing
  | installed running => exact channel.install running
  | reattachAnswered answer running => exact channel.during_reattach running wire rfl
  | reattachTimedOut running => exact channel.during_reattach running wire rfl
  | @reattachResumed outer inner _ call _ running settled =>
      rcases connection.sameWire_resumeReattach ⟨outer, inner, some call⟩ call settled
        with ⟨same, next, moved⟩
      exact channel.during_reattach running same moved
  | reattachFinished running => exact channel.finish running
  | attemptSettled running => exact channel.attemptSettled running
  | dropped peer => exact channel.drop spared
  | peerClosed queued =>
      refine channel.onPeerClosed queued ?_
      cases closed : connection.disposed with
      | false => rfl
      | true => simp [TargetConnection.onPeerClosed, closed] at open_
  | detach handle =>
      have same := connection.sameWire_detach handle
      exact channel.of_same same.1 same.2
  | subscribe | sessionEvent | controlChanged =>
      exact channel.of_same ⟨rfl, rfl, rfl, rfl, rfl, rfl, rfl⟩ rfl

/-! ## A closed connection -/

/-- Only `close` disposes of a connection, and nothing revives it. -/
theorem disposed_step {connection next : TargetConnection} {event : ConnectionEvent}
    (stepped : connection.step event = some next) :
    next.disposed = connection.disposed ∨ event = .close := by
  refine or_iff_not_imp_right.mpr fun notClose => ?_
  cases stepped_of_step stepped with
  | close => exact absurd rfl notClose
  | ensureConnected =>
      simp only [ensureConnected]
      split
      · rfl
      · split <;> rfl
  | timerFired =>
      simp only [timerFired]
      split <;> rfl
  | installed =>
      simp only [install]
      split <;> rfl
  | @reattachResumed outer inner _ call _ _ settled =>
      exact (connection.sameWire_resumeReattach ⟨outer, inner, some call⟩ call settled).1.disposed
  | attemptSettled =>
      simp only [attemptSettled]
      split
      · rfl
      · exact (sameWire_scheduleReconnect _).1.disposed
  | peerClosed =>
      simp only [onPeerClosed]
      split
      · rfl
      · exact (sameWire_scheduleReconnect _).1.disposed
  | detach handle => exact (connection.sameWire_detach handle).1.disposed
  | _ => rfl

theorem disposed_stays {connection next : TargetConnection} {event : ConnectionEvent}
    (disposed : connection.disposed = true) (stepped : connection.step event = some next) :
    next.disposed = true := by
  rcases disposed_step stepped with same | rfl
  · exact same.trans disposed
  · cases stepped
    simp only [close, disposed, if_true]

/-- A closed connection that was not re-attaching never reports a connection again. -/
theorem closed_step {connection next : TargetConnection} (disposed : connection.disposed = true)
    (down : connection.state = .down) (detached : Detached connection.attempt)
    {event : ConnectionEvent} (stepped : connection.step event = some next) :
    next.state = .down ∧ Detached next.attempt := by
  have notReattaching : ∀ {loop}, connection.attempt ≠ some (.reattaching loop) := by
    intro loop running
    rw [running] at detached
    cases detached
  cases stepped_of_step stepped with
  | ensureConnected =>
      simp only [ensureConnected, disposed, true_or, if_true]
      exact ⟨down, detached⟩
  | timerFired =>
      simp only [timerFired, disposed, true_or, if_true]
      exact ⟨down, detached⟩
  | close =>
      simp only [close, disposed, if_true]
      exact ⟨down, detached⟩
  | execStarted | openFailed | handshakeAnswered => exact ⟨down, trivial⟩
  | installed =>
      simp only [install, disposed, true_or, if_true]
      exact ⟨down, trivial⟩
  | reattachAnswered _ running => exact absurd running notReattaching
  | reattachTimedOut running | reattachResumed running | reattachFinished running =>
      exact absurd running notReattaching
  | attemptSettled =>
      simp only [attemptSettled]
      split
      · exact ⟨down, trivial⟩
      · rw [(sameWire_scheduleReconnect _).1.state, (sameWire_scheduleReconnect _).2]
        exact ⟨down, trivial⟩
  | dropped peer =>
      refine ⟨down, ?_⟩
      rcases connection.attempt_drop peer with same | ⟨loop, next, running, _⟩
      · rw [same]
        exact detached
      · exact absurd running notReattaching
  | peerClosed =>
      simp only [onPeerClosed, disposed, true_or, if_true]
      exact ⟨down, detached⟩
  | detach handle =>
      have same := connection.sameWire_detach handle
      rw [same.1.state, same.2]
      exact ⟨down, detached⟩
  | closeFinished | subscribe | sessionEvent | controlChanged => exact ⟨down, detached⟩

/-! ## A connection that reports connected -/

/-- `close` is called while an attempt re-attaches its subscribers. -/
def ClosesReattach (connection : TargetConnection) : ConnectionEvent → Prop
  | .close => ¬Detached connection.attempt
  | _ => False

/-- What holds of a connection all of whose steps spared its attempts. -/
structure Undisturbed (connection : TargetConnection) : Prop where
  channel : connection.disposed = false → connection.Channel
  closed : connection.disposed = true →
    connection.state = .down ∧ Detached connection.attempt

theorem Undisturbed.step {connection next : TargetConnection}
    (undisturbed : connection.Undisturbed) {event : ConnectionEvent}
    (stepped : connection.step event = some next) (spared : ¬connection.DropsAttempt event)
    (notClosing : ¬connection.ClosesReattach event) : next.Undisturbed := by
  cases disposed : connection.disposed with
  | true =>
      rcases undisturbed.closed disposed with ⟨down, detached⟩
      exact ⟨fun open_ => by simp [disposed_stays disposed stepped] at open_,
        fun _ => closed_step disposed down detached stepped⟩
  | false =>
      refine ⟨fun open_ => (undisturbed.channel disposed).step stepped open_ spared, ?_⟩
      intro closed
      rcases disposed_step stepped with same | rfl
      · rw [same, disposed] at closed
        cases closed
      · cases stepped
        simp only [close, disposed]
        exact ⟨rfl, not_not.mp notClosing⟩

theorem undisturbed_init (config : TargetConnectionConfig) : (init config).Undisturbed := by
  refine ⟨fun _ => .down rfl rfl rfl (fun other => rfl) trivial ?_, fun closed => by cases closed⟩
  intro gen peer clientId capabilities running
  cases running

/-- In every run in which no stream ends between the answer to the handshake and
the report of the connection, and in which nobody closes it while it re-attaches: a
connection that reports connected, with no close callback queued, holds a peer whose
stream has not been torn down, and a call goes to that peer. -/
theorem connected_hasPeer (config : TargetConnectionConfig) (events : List ConnectionEvent)
    (connection : TargetConnection)
    (reached : Execution.run step (init config) events = some connection)
    (spared : Execution.AllSteps step
      (fun connection event =>
        ¬connection.DropsAttempt event ∧ ¬connection.ClosesReattach event)
      (init config) events)
    (connected : connection.state = .connected) (atRest : connection.closing = []) :
    ∃ peer, connection.peer = some peer ∧ peer ∉ connection.ended ∧
      connection.callee = some peer := by
  have undisturbed : connection.Undisturbed := by
    refine Execution.run_invariant Undisturbed ?_ (undisturbed_init config) spared reached
    intro before event after holds allowed stepped
    exact holds.step stepped allowed.1 allowed.2
  cases disposed : connection.disposed with
  | true =>
      cases connected.symm.trans (undisturbed.closed disposed).1
  | false =>
      have callee : connection.callee = connection.peer := by
        simp only [callee, connected, if_true]
      rw [callee]
      cases undisturbed.channel disposed with
      | down _ state _ _ _ _ => cases connected.symm.trans state
      | reattaching _ _ _ state _ _ _ _ => cases connected.symm.trans state
      | connected peer installed _ _ _ _ flowing => exact ⟨peer, installed, flowing, installed⟩
      | lost _ _ _ closing _ _ => cases atRest.symm.trans closing

instance (connection : TargetConnection) :
    (event : ConnectionEvent) → Decidable (connection.DropsAttempt event)
  | .dropped peer =>
      match attempt : connection.attempt with
      | some (.handshook _ handshook _ _) =>
          decidable_of_iff (peer = handshook) (by simp only [DropsAttempt, attempt])
      | some (.reattaching _) =>
          decidable_of_iff (connection.peer = some peer) (by simp only [DropsAttempt, attempt])
      | none | some (.opening _) | some (.handshaking _ _) | some (.settled _) =>
          isFalse (by simp only [DropsAttempt, attempt, not_false_eq_true])
  | .ensureConnected | .timerFired | .close | .closeFinished | .execStarted | .openFailed
  | .handshakeAnswered _ _ | .installed | .reattachAnswered _ | .reattachTimedOut
  | .reattachResumed | .reattachThrew _ | .reattachFinished | .attemptSettled | .peerClosed
  | .subscribe _ _ _ | .detach _ | .sessionEvent _ _ | .controlChanged _ _ _ => isFalse id

instance (connection : TargetConnection) :
    (event : ConnectionEvent) → Decidable (connection.ClosesReattach event)
  | .close => inferInstanceAs (Decidable (¬Detached connection.attempt))
  | .ensureConnected | .timerFired | .closeFinished | .execStarted | .openFailed
  | .handshakeAnswered _ _ | .installed | .reattachAnswered _ | .reattachTimedOut
  | .reattachResumed | .reattachThrew _ | .reattachFinished | .attemptSettled | .dropped _
  | .peerClosed | .subscribe _ _ _ | .detach _ | .sessionEvent _ _ | .controlChanged _ _ _ => isFalse id

/-- A first open, with nothing to re-attach. -/
def firstOpen : List ConnectionEvent :=
  [.ensureConnected, .execStarted, .handshakeAnswered "c1" [], .installed, .reattachFinished,
    .attemptSettled]

theorem connected_hasPeer_firstOpen :
    ∃ connection, Execution.run step (init {}) firstOpen = some connection ∧
      ∃ peer, connection.peer = some peer ∧ peer ∉ connection.ended ∧
        connection.callee = some peer :=
  Exists.intro _ (And.intro rfl
    (connected_hasPeer {} firstOpen _ rfl (by decide) (by decide) (by decide)))

/-- One subscriber; the stream drops, and drops again while it is re-attached. The
loop goes on before the close callback, `runOpen` after it. -/
def droppedTwice : List ConnectionEvent :=
  firstOpen ++
    [.subscribe "s" .read 0, .dropped 0, .peerClosed, .timerFired, .execStarted,
      .handshakeAnswered "c2" [], .installed, .dropped 1, .reattachResumed, .peerClosed,
      .reattachFinished, .attemptSettled, .timerFired]

/-- The connection rests as connected without a peer: every call fails, asking to
connect does nothing, and neither an attempt nor a timer is pending. -/
theorem connected_withoutPeer :
    ∃ connection, Execution.run step (init {}) droppedTwice = some connection ∧
      connection.state = .connected ∧ connection.closing = [] ∧ connection.peer = none ∧
      connection.callee = none ∧ connection.ensureConnected = connection ∧
      connection.attempt = none ∧ connection.timer = false :=
  ⟨_, rfl, rfl, rfl, rfl, rfl, rfl, rfl, rfl⟩

end TargetConnection

end DshRemote.Client
