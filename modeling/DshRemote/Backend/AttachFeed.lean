import DshRemote.Backend.LiveFeed

/-! # What an attach sends to its client

The snapshot and the buffered events overlap, and the host goes on appending while they
are written; a client that holds the log up to its cursor is taken to the end of the log
all the same, without a gap. -/

namespace DshRemote.Backend.SessionBroker

/-! ## While the listener buffers -/

variable {environment : Environment} {subscription : Subscription}

/-- What the host appends while a listener buffers is buffered and not yet written. -/
structure Buffers (subscription : Subscription) (before : Replay) (more : List SessionEvent)
    (after : Replay) : Prop where
  grows : Grows subscription.sessionId before.broker more after.broker
  liveBuffer : after.liveBuffer = before.liveBuffer ++ more
  sent : eventsFor subscription.clientId subscription.sessionId after.sent =
    eventsFor subscription.clientId subscription.sessionId before.sent
  unheard : after.broker.heardBy (some subscription.listener) subscription.clientId
    subscription.sessionId = []
  duringForward : after.duringForward = before.duringForward

theorem liveBuffer_hostAppend (environment : Environment) (subscription : Subscription)
    (replay : Replay) (request : HostAppend) :
    (replay.hostAppend environment subscription request).liveBuffer =
      replay.liveBuffer ++ appendedTo subscription.sessionId request
        (replay.broker.hostAppend environment (some subscription.listener) request).2.2 := by
  simp only [Replay.hostAppend, appendedTo]
  split
  · next isNone => simp [isNone]
  · next event isEvent =>
      rw [isEvent]
      split <;> simp

theorem buffers_hostAppends (reaches : environment.Reaches subscription.clientId)
    {replay : Replay} (unheard : replay.broker.heardBy (some subscription.listener)
      subscription.clientId subscription.sessionId = []) (requests : List HostAppend) :
    ∃ more, more.length ≤ requests.length ∧
      Buffers subscription replay more (replay.hostAppends environment subscription requests) := by
  simp only [Replay.hostAppends]
  induction requests generalizing replay with
  | nil =>
      exact ⟨[], Nat.le_refl _, .of_sessions rfl, (List.append_nil _).symm, rfl, unheard, rfl⟩
  | cons request rest induction =>
      have logged := onlyLogged_hostAppend environment replay.broker
        (some subscription.listener) request
      have step := hostAppend_feeds environment replay.broker (some subscription.listener)
        request subscription.sessionId
      have written := step.2 subscription.clientId reaches
      rw [unheard] at written
      have stillUnheard := (congrFun (congrFun (congrFun
        (heardBy_congr logged.listeners) _) _) _).trans unheard
      rcases @induction (replay.hostAppend environment subscription request) stillUnheard with
        ⟨more, short, later⟩
      refine ⟨_ ++ more, ?_, step.1.trans later.grows, ?_, ?_, later.unheard,
        later.duringForward⟩
      · have one := length_appendedTo subscription.sessionId request
          (replay.broker.hostAppend environment (some subscription.listener) request).2.2
        rw [List.length_append, List.length_cons]
        omega
      · refine later.liveBuffer.trans ?_
        rw [liveBuffer_hostAppend, List.append_assoc]
      · refine later.sent.trans ((eventsFor_append _ _ _ _).trans ?_)
        rw [written]
        simp

/-- An attach at work: the buffer holds the log from `place` on, and what was written so
far takes a client that waits for the event at `first` to the one at `reach`. -/
structure Catching (subscription : Subscription) (first place reach : Nat) (replay : Replay) :
    Prop where
  contiguous : Contiguous SessionEvent.seq (replay.broker.logOf subscription.sessionId)
  buffered : replay.liveBuffer = (replay.broker.logOf subscription.sessionId).drop place
  inside : place ≤ (replay.broker.logOf subscription.sessionId).length
  fed : Feeds (replay.broker.logOf subscription.sessionId) first
    (eventsFor subscription.clientId subscription.sessionId replay.sent) reach
  unheard : replay.broker.heardBy (some subscription.listener) subscription.clientId
    subscription.sessionId = []

namespace Catching

variable {first place reach : Nat} {replay : Replay}

theorem buffers (catching : Catching subscription first place reach replay)
    {more : List SessionEvent} {next : Replay} (buffers : Buffers subscription replay more next) :
    Catching subscription first place reach next where
  contiguous := buffers.grows.contiguous catching.contiguous
  buffered := by
    rw [buffers.liveBuffer, catching.buffered, buffers.grows.log,
      List.drop_append_of_le_length catching.inside]
  inside := Nat.le_trans catching.inside buffers.grows.length_le
  fed := by
    rw [buffers.grows.log, buffers.sent]
    exact catching.fed.grow more
  unheard := buffers.unheard

theorem forward (catching : Catching subscription first place reach replay)
    (reaches : environment.Reaches subscription.clientId) {at_ : Nat} {event : SessionEvent}
    (found : (replay.broker.logOf subscription.sessionId)[at_]? = some event)
    (noGap : at_ ≤ reach) :
    ∃ next more, replay.forward environment subscription event = .ok next ∧
      Grows subscription.sessionId replay.broker more next.broker ∧
      next.remaining ≤ replay.remaining ∧
      Catching subscription first place (max reach (at_ + 1)) next := by
  let written : Replay := { replay with
    sent := replay.sent ++ [⟨subscription.clientId, .sessionEvent subscription.sessionId event⟩]
    duringForward := replay.duringForward.tail }
  have writing : Catching subscription first place (max reach (at_ + 1)) written :=
    { catching with
      fed := by
        have own : eventsFor subscription.clientId subscription.sessionId
            [⟨subscription.clientId, .sessionEvent subscription.sessionId event⟩] = [event] :=
          (eventsFor_sessionEvent _ _ _ _ _).trans (if_pos ⟨rfl, rfl⟩)
        simp only [written, eventsFor_append, own]
        exact catching.fed.append (Feeds.single found noGap) }
  rcases buffers_hostAppends reaches writing.unheard (replay.duringForward.headD []) with
    ⟨more, short, buffered⟩
  refine ⟨_, more, ?_, buffered.grows, ?_, writing.buffers buffered⟩
  · simp only [Replay.forward]
    rw [if_pos (reaches _)]
  · have total : (replay.duringForward.headD []).length +
        (replay.duringForward.tail.map List.length).sum =
          (replay.duringForward.map List.length).sum := by
      cases replay.duringForward <;> simp
    simp only [Replay.remaining, buffered.liveBuffer, buffered.duringForward, written,
      List.length_append]
    omega

theorem replaySnapshot (reaches : environment.Reaches subscription.clientId)
    {sinceSeq : Int} (cursor : sinceSeq + 1 = first) (earlier rest : List SessionEvent)
    (catching : Catching subscription first place (max first earlier.length) replay)
    (snapshot : earlier ++ rest <+: replay.broker.logOf subscription.sessionId) :
    ∃ next more, replay.replaySnapshot environment subscription sinceSeq rest = .ok next ∧
      Grows subscription.sessionId replay.broker more next.broker ∧
      Catching subscription first place (max first (earlier.length + rest.length)) next := by
  induction rest generalizing replay earlier with
  | nil => exact ⟨replay, [], rfl, .of_sessions rfl, catching⟩
  | cons event rest induction =>
      have found : (replay.broker.logOf subscription.sessionId)[earlier.length]? = some event := by
        rcases snapshot with ⟨more, log⟩
        simp [← log]
      have number : event.seq = earlier.length := catching.contiguous.seq_of_getElem? found
      have longer : earlier.length + (event :: rest).length =
          (earlier ++ [event]).length + rest.length := by
        simp only [List.length_cons, List.length_append, List.length_nil]
        omega
      have split : earlier ++ event :: rest = (earlier ++ [event]) ++ rest := by simp
      rw [longer]
      rw [split] at snapshot
      simp only [Replay.replaySnapshot, number]
      split
      · rcases catching.forward reaches found (Nat.le_max_right _ _) with
          ⟨next, more, forwarded, grows, _, caught⟩
        rw [forwarded]
        have reached : max (max first earlier.length) (earlier.length + 1) =
            max first (earlier ++ [event]).length := by simp
        rw [reached] at caught
        rcases induction (earlier ++ [event]) caught
          (grows.log ▸ snapshot.trans (List.prefix_append _ _)) with
          ⟨final, later, replayed, laterGrows, done⟩
        exact ⟨final, more ++ later, replayed, grows.trans laterGrows, done⟩
      · next old =>
          have reached : max first earlier.length = max first (earlier ++ [event]).length := by
            simp; omega
          exact induction (earlier ++ [event]) (reached ▸ catching) snapshot

theorem drained (catching : Catching subscription first place reach replay)
    (empty : replay.liveBuffer = []) :
    place = (replay.broker.logOf subscription.sessionId).length := by
  have all := List.drop_eq_nil_iff.mp (catching.buffered.symm.trans empty)
  exact Nat.le_antisymm catching.inside all

theorem drain (reaches : environment.Reaches subscription.clientId) (fuel : Nat)
    {watermark : Int} (catching : Catching subscription first place reach replay)
    (below : watermark + 1 ≤ reach) (placed : place ≤ reach)
    (enough : replay.remaining ≤ fuel) :
    ∃ next more reached, replay.drain environment subscription fuel watermark = .ok next ∧
      Grows subscription.sessionId replay.broker more next.broker ∧
      Catching subscription first (next.broker.logOf subscription.sessionId).length reached next ∧
      (next.broker.logOf subscription.sessionId).length ≤ reached := by
  induction fuel generalizing replay watermark place reach with
  | zero =>
      have empty : replay.liveBuffer = [] := by
        rw [← List.length_eq_zero_iff]
        simp only [Replay.remaining] at enough
        omega
      have finished := catching.drained empty
      subst finished
      exact ⟨replay, [], reach, rfl, .of_sessions rfl, catching, placed⟩
  | succ fuel induction =>
      simp only [Replay.drain]
      split
      · next empty =>
          have finished := catching.drained empty
          subst finished
          exact ⟨replay, [], reach, rfl, .of_sessions rfl, catching, placed⟩
      · next event rest buffer =>
          have left := catching.buffered.symm.trans buffer
          have found : (replay.broker.logOf subscription.sessionId)[place]? = some event := by
            have head := congrArg List.head? left
            rwa [List.head?_drop] at head
          have number : event.seq = place := catching.contiguous.seq_of_getElem? found
          have inside : place < (replay.broker.logOf subscription.sessionId).length :=
            (List.getElem?_eq_some_iff.mp found).1
          have shifted : Catching subscription first (place + 1) reach
              { replay with liveBuffer := rest } :=
            { catching with
              buffered := by
                have tail := congrArg List.tail left
                rwa [List.tail_drop, eq_comm] at tail
              inside := inside }
          have fewer : Replay.remaining { replay with liveBuffer := rest } ≤ fuel := by
            simp only [Replay.remaining, buffer, List.length_cons] at enough ⊢
            omega
          rw [number]
          split
          · rcases shifted.forward reaches found placed with
              ⟨next, more, forwarded, grows, noMore, caught⟩
            rw [forwarded]
            have stillBelow : (place : Int) + 1 ≤ (max reach (place + 1) : Nat) := by omega
            rcases induction caught stillBelow (Nat.le_max_right _ _)
              (Nat.le_trans noMore fewer) with
              ⟨final, later, reached, drained, laterGrows, done⟩
            exact ⟨final, more ++ later, reached, drained, grows.trans laterGrows, done⟩
          · exact induction shifted below (by omega) fewer

end Catching

/-- The broker right after the subscription: the new listener buffers, and the client has
no other subscription of the session. -/
theorem unheard_subscribed {broker : SessionBroker} (consistent : Consistent broker)
    {clientId : ClientId} {sessionId : SessionId}
    (detached : ¬broker.IsAttached clientId sessionId) :
    (broker.subscribed clientId sessionId).heardBy (some broker.sessions.nextListener) clientId
      sessionId = [] := by
  rw [heardBy_subscribed consistent, liveSubscriptions_of_notAttached consistent detached]

/-- Before the snapshot nothing is written, whoever the client is and wherever it stands. -/
theorem prepareReplay_catching {environment : AttachEnvironment} {broker : SessionBroker}
    {clientId : ClientId} {sessionId : SessionId} (consistent : Consistent broker)
    (reaches : environment.Reaches clientId)
    (detached : ¬broker.IsAttached clientId sessionId)
    (contiguous : Contiguous SessionEvent.seq (broker.logOf sessionId)) :
    let prepared := broker.prepareReplay environment clientId sessionId
    (∃ more, Grows sessionId broker more prepared.broker) ∧
      ∀ first, Catching (broker.subscription clientId sessionId) first
        (broker.logOf sessionId).length first prepared := by
  have start : ∀ first, Catching (broker.subscription clientId sessionId) first
      (broker.logOf sessionId).length first
        (broker.startReplay environment clientId sessionId) := by
    intro first
    exact {
      contiguous := contiguous
      buffered := List.drop_length.symm
      inside := Nat.le_refl _
      fed := .nil
      unheard := unheard_subscribed consistent detached }
  rcases buffers_hostAppends reaches (start 0).unheard environment.beforeSnapshot with
    ⟨more, _, buffered⟩
  exact ⟨⟨more, buffered.grows.log, buffered.grows.contiguous⟩,
    fun first => (start first).buffers buffered⟩

theorem events_snapshot {before after : SessionBroker} {sessionId : SessionId}
    {session : HostSession} {more : List SessionEvent}
    (live : before.sessions.get sessionId = some session)
    (grows : Grows sessionId before more after) :
    ((after.sessions.get sessionId).getD session).events = after.logOf sessionId := by
  have log := grows.log
  rw [logOf_eq live] at log
  cases found : after.sessions.get sessionId with
  | some current => exact (logOf_eq found).symm
  | none =>
      have gone : after.logOf sessionId = [] := by simp [logOf, found]
      rw [gone] at log ⊢
      exact (List.append_eq_nil_iff.mp log.symm).1

/-- The place from which an attach takes its client on: behind its cursor, or the end of
the log for a client that tails from now. -/
def resumeFrom (sinceSeq : Option Int) (log : List SessionEvent) : Nat :=
  match sinceSeq with
  | none => log.length
  | some sinceSeq => (sinceSeq + 1).toNat

/-- A cursor names an event of the log, or the place before the first. -/
def CursorWithin (sinceSeq : Option Int) (log : List SessionEvent) : Prop :=
  ∀ cursor, sinceSeq = some cursor → -1 ≤ cursor ∧ cursor < log.length

/-- A replay takes the client from where it stands to the end of the log. -/
theorem replay_feeds {environment : AttachEnvironment} {broker : SessionBroker}
    {clientId : ClientId} {params : SessionAttachParams} {session : HostSession}
    (consistent : Consistent broker) (reaches : environment.Reaches clientId)
    (detached : ¬broker.IsAttached clientId params.sessionId)
    (contiguous : Contiguous SessionEvent.seq (broker.logOf params.sessionId))
    (within : CursorWithin params.sinceSeq (broker.logOf params.sessionId))
    (live : broker.sessions.get params.sessionId = some session) :
    ∃ replayed more, broker.replay environment clientId params session = .ok replayed ∧
      Grows params.sessionId broker more replayed.broker ∧
      let log := replayed.broker.logOf params.sessionId
      Feeds log (resumeFrom params.sinceSeq log)
        (eventsFor clientId params.sessionId replayed.sent) log.length := by
  rcases prepareReplay_catching consistent reaches detached contiguous with
    ⟨⟨early, prepared⟩, catching⟩
  have snapshot := events_snapshot live prepared
  have grown := prepared.length_le
  generalize preparedIs : broker.prepareReplay environment clientId params.sessionId = ready at *
  cases since : params.sinceSeq with
  | none =>
      have caught := catching (ready.broker.logOf params.sessionId).length
      have below : ((ready.broker.logOf params.sessionId).length - 1 : Int) + 1 ≤
          (ready.broker.logOf params.sessionId).length := by omega
      rcases caught.drain reaches ready.remaining below grown (Nat.le_refl _) with
        ⟨next, later, reached, finished, grows, done, all⟩
      refine ⟨next, early ++ later, ?_, prepared.trans grows, ?_⟩
      · simp only [replay, Replay.replaySince, initialWatermark, preparedIs, since,
          HostSession.seq, snapshot]
        exact finished
      · have last := done.fed.within grows.length_le
        have raised := done.fed.raise grows.length_le
        rwa [Nat.max_eq_left last] at raised
  | some sinceSeq =>
      have cursor := within sinceSeq since
      have first : sinceSeq + 1 = (sinceSeq + 1).toNat := by omega
      have caught : Catching (broker.subscription clientId params.sessionId)
          (sinceSeq + 1).toNat (broker.logOf params.sessionId).length
          (max (sinceSeq + 1).toNat ([] : List SessionEvent).length) ready := by
        simpa using catching (sinceSeq + 1).toNat
      rcases caught.replaySnapshot reaches first [] (ready.broker.logOf params.sessionId)
        (List.prefix_rfl) with ⟨middle, more, replayed, middleGrows, read⟩
      rw [List.length_nil, Nat.zero_add] at read
      have grownOn : (ready.broker.logOf params.sessionId).length ≤
          (middle.broker.logOf params.sessionId).length := middleGrows.length_le
      have below : sinceSeq + 1 ≤ (max (sinceSeq + 1).toNat
          (ready.broker.logOf params.sessionId).length : Nat) := by omega
      rcases read.drain reaches middle.remaining below
        (Nat.le_trans grown (Nat.le_max_right _ _)) (Nat.le_refl _) with
        ⟨next, later, reached, finished, grows, done, all⟩
      have grownMore : (middle.broker.logOf params.sessionId).length ≤
          (next.broker.logOf params.sessionId).length := grows.length_le
      refine ⟨next, early ++ more ++ later, ?_, (prepared.trans middleGrows).trans grows, ?_⟩
      · simp only [replay, Replay.replaySince, initialWatermark, preparedIs, since, snapshot]
        rw [replayed]
        exact finished
      · have inside : (sinceSeq + 1).toNat ≤ (next.broker.logOf params.sessionId).length := by
          omega
        rw [Nat.le_antisymm (done.fed.within inside) all] at done
        exact done.fed

/-- What an attach does for the client that asked for it. -/
structure AttachFeeds (clientId : ClientId) (params : SessionAttachParams)
    (before : SessionBroker) (outcome : AttachOutcome) : Prop where
  grows : ∃ more, Grows params.sessionId before more outcome.broker
  fed : ∃ last, last ≤ (outcome.broker.logOf params.sessionId).length ∧
    Feeds (outcome.broker.logOf params.sessionId)
      (resumeFrom params.sinceSeq (outcome.broker.logOf params.sessionId))
      (eventsFor clientId params.sessionId outcome.sent) last ∧
    (outcome.broker.IsAttached clientId params.sessionId →
      last = (outcome.broker.logOf params.sessionId).length)
  lastSeq : ∀ result, outcome.result = .ok result →
    result.lastSeq + 1 = (outcome.broker.logOf params.sessionId).length
  attachedIff : outcome.broker.IsAttached clientId params.sessionId ↔
    ∃ result, outcome.result = .ok result

theorem resumeFrom_le {sinceSeq : Option Int} {before after : SessionBroker}
    {sessionId : SessionId} {more : List SessionEvent}
    (within : CursorWithin sinceSeq (before.logOf sessionId))
    (grows : Grows sessionId before more after) :
    resumeFrom sinceSeq (after.logOf sessionId) ≤ (after.logOf sessionId).length := by
  have grown := grows.length_le
  cases sinceSeq with
  | none => exact Nat.le_refl _
  | some cursor =>
      have bounds := within cursor rfl
      simp only [resumeFrom]
      omega

theorem attach_feeds {environment : AttachEnvironment} {broker : SessionBroker}
    {clientId : ClientId} {params : SessionAttachParams} (consistent : Consistent broker)
    (reaches : environment.Reaches clientId)
    (detached : ¬broker.IsAttached clientId params.sessionId)
    (contiguous : Contiguous SessionEvent.seq (broker.logOf params.sessionId))
    (within : CursorWithin params.sinceSeq (broker.logOf params.sessionId))
    (pendingInteractions : Option (List PendingInteraction)) :
    AttachFeeds clientId params broker
      (broker.attach environment clientId params pendingInteractions) := by
  have replays : ∀ session, broker.sessions.get params.sessionId = some session → _ :=
    fun session live => replay_feeds consistent reaches detached contiguous within live
  have ends := attach_ends environment broker clientId params pendingInteractions
  generalize broker.attach environment clientId params pendingInteractions = outcome at ends ⊢
  cases ends with
  | unknown absent =>
      have same : Grows params.sessionId broker [] broker := .of_sessions rfl
      exact {
        grows := ⟨[], same⟩
        fed := ⟨_, resumeFrom_le within same, .nil, fun isAttached =>
          absurd isAttached detached⟩
        lastSeq := fun result failed => by cases failed
        attachedIff := ⟨fun isAttached => absurd isAttached detached, fun failed => by
          cases failed.choose_spec⟩ }
  | @notifyThrew session failed connected live threw =>
      rcases replays session live with ⟨_, _, finished, _⟩
      rw [threw] at finished
      cases finished
  | @locked session replay refused connected live finished writing refusal =>
      rcases replays session live with ⟨replayed, more, finishedSame, grows, fed⟩
      cases finished.symm.trans finishedSame
      have kept : SessionBroker.logOf ((replay.broker.trackAttachment clientId params.sessionId
          broker.sessions.nextListener).dropAttachment clientId params.sessionId)
            params.sessionId = replay.broker.logOf params.sessionId := by
        simp [logOf, SessionHost.get]
      have tracked : (replay.broker.trackAttachment clientId params.sessionId
          broker.sessions.nextListener).attachment clientId params.sessionId =
            some ⟨params.sessionId, broker.sessions.nextListener⟩ := by
        rw [attachment_trackAttachment, if_pos ⟨rfl, rfl⟩]
      have gone : ¬((replay.broker.trackAttachment clientId params.sessionId
          broker.sessions.nextListener).dropAttachment clientId params.sessionId).IsAttached
            clientId params.sessionId := by
        rw [isAttached_dropAttachment tracked]
        exact fun remains => remains.1 ⟨rfl, rfl⟩
      exact {
        grows := ⟨more, grows.andSessions (by simp)⟩
        fed := ⟨_, Nat.le_of_eq (congrArg _ kept.symm), kept.symm ▸ fed, fun isAttached =>
          absurd isAttached gone⟩
        lastSeq := fun result failed => by cases failed
        attachedIff := ⟨fun isAttached => absurd isAttached gone, fun failed => by
          cases failed.choose_spec⟩ }
  | @attached session replay holding broadcast connected live finished granted =>
      rcases replays session live with ⟨replayed, more, finishedSame, grows, fed⟩
      cases finished.symm.trans finishedSame
      have tracked : (replay.broker.trackAttachment clientId params.sessionId
          broker.sessions.nextListener).IsAttached clientId params.sessionId :=
        (isAttached_trackAttachment _ _ _ _ _ _).mpr (Or.inl ⟨rfl, rfl⟩)
      have sessions := sessions_trackAttachment replay.broker clientId params.sessionId
        broker.sessions.nextListener
      have held : holding.sessions.sessions = replay.broker.sessions.sessions ∧
          holding.IsAttached clientId params.sessionId ∧
          eventsFor clientId params.sessionId broadcast = [] := by
        rcases granted with ⟨rfl, rfl⟩ | ⟨_, _, rfl, reason, rfl⟩
        · exact ⟨sessions, tracked, rfl⟩
        · exact ⟨sessions, tracked, eventsFor_broadcastControl _ _ _ _ _ _ _⟩
      have kept : holding.logOf params.sessionId = replay.broker.logOf params.sessionId := by
        simp only [logOf, SessionHost.get, held.1]
      have whole := grows.andSessions held.1
      exact {
        grows := ⟨more, whole⟩
        fed := ⟨_, Nat.le_of_eq (congrArg _ kept.symm), by
          rw [eventsFor_append, held.2.2, List.append_nil]
          exact kept.symm ▸ fed, fun _ => congrArg _ kept.symm⟩
        lastSeq := by
          intro result isResult
          cases isResult
          simp only [attachResult, HostSession.seq, events_snapshot live whole]
          omega
        attachedIff := ⟨fun _ => ⟨_, rfl⟩, fun _ => held.2.1⟩ }

end DshRemote.Backend.SessionBroker
