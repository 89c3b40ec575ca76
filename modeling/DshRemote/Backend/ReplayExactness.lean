import DshRemote.Backend.AttachFeed

/-! # Replay, exactly once

An attach writes the snapshot behind the cursor of its request and then what its listener
buffered meanwhile. The cursor of the request is also where the watermark of the drain
starts, so that an event of the snapshot that was buffered as well is written again; and a
client that was attached before hears through its old subscription what it is yet to be
sent through the new one. -/

namespace DshRemote.Backend

/-- How many of the host's appends go to one session. -/
def appendsTo (sessionId : SessionId) (requests : List HostAppend) : Nat :=
  requests.countP fun request => request.sessionId = sessionId

@[simp] theorem appendsTo_nil (sessionId : SessionId) : appendsTo sessionId [] = 0 := rfl

@[simp] theorem appendsTo_append (sessionId : SessionId) (first second : List HostAppend) :
    appendsTo sessionId (first ++ second) =
      appendsTo sessionId first + appendsTo sessionId second :=
  List.countP_append

/-- What the subscriptions that already hear a session write of its new events. -/
def echo (heard : List ListenerId) (events : List SessionEvent) : List SessionEvent :=
  events.flatMap fun event => heard.map fun _ => event

@[simp] theorem echo_nil (heard : List ListenerId) : echo heard [] = [] := rfl

@[simp] theorem echo_silent (events : List SessionEvent) : echo [] events = [] := by
  simp [echo]

@[simp] theorem echo_single (listener : ListenerId) (events : List SessionEvent) :
    echo [listener] events = events := by
  simp [echo]

@[simp] theorem echo_append (heard : List ListenerId) (first second : List SessionEvent) :
    echo heard (first ++ second) = echo heard first ++ echo heard second :=
  List.flatMap_append

theorem mem_of_mem_echo {heard : List ListenerId} {events : List SessionEvent}
    {event : SessionEvent} (member : event ∈ echo heard events) : event ∈ events := by
  rcases List.mem_flatMap.mp member with ⟨source, inEvents, copied⟩
  rcases List.mem_map.mp copied with ⟨_, _, rfl⟩
  exact inEvents

/-- The events of a stretch that lie above a sequence number. -/
def eventsAbove (mark : Int) (events : List SessionEvent) : List SessionEvent :=
  events.filter fun event => mark < event.seq

@[simp] theorem eventsAbove_nil (mark : Int) : eventsAbove mark [] = [] := rfl

@[simp] theorem eventsAbove_append (mark : Int) (first second : List SessionEvent) :
    eventsAbove mark (first ++ second) = eventsAbove mark first ++ eventsAbove mark second :=
  List.filter_append first second

@[simp] theorem eventsAbove_eventsAbove (mark : Int) (events : List SessionEvent) :
    eventsAbove mark (eventsAbove mark events) = eventsAbove mark events := by
  simp [eventsAbove, List.filter_filter]

theorem eventsAbove_eq_nil_iff {mark : Int} {events : List SessionEvent} :
    eventsAbove mark events = [] ↔ ∀ event ∈ events, (event.seq : Int) ≤ mark := by
  simp [eventsAbove]

/-- The events forwarded one after the other, each followed by the echo of what the host
appended meanwhile. -/
inductive Voiced (heard : List ListenerId) :
    List SessionEvent → List SessionEvent → List SessionEvent → Prop
  | nil : Voiced heard [] [] []
  | cons {event : SessionEvent} {forwarded meanwhile more voice : List SessionEvent}
      (later : Voiced heard forwarded more voice) :
      Voiced heard (event :: forwarded) (meanwhile ++ more)
        (event :: echo heard meanwhile ++ voice)

namespace Voiced

variable {heard : List ListenerId} {forwarded more voice : List SessionEvent}

theorem append {later moreLater voiceLater : List SessionEvent}
    (first : Voiced heard forwarded more voice)
    (second : Voiced heard later moreLater voiceLater) :
    Voiced heard (forwarded ++ later) (more ++ moreLater) (voice ++ voiceLater) := by
  induction first with
  | nil => exact second
  | cons rest induction =>
      rw [List.cons_append, List.append_assoc, List.append_assoc]
      exact .cons induction

theorem perm (voiced : Voiced heard forwarded more voice) :
    voice.Perm (forwarded ++ echo heard more) := by
  induction voiced with
  | nil => exact .nil
  | @cons event forwarded meanwhile more voice later induction =>
      rw [echo_append, List.cons_append, List.cons_append, ← List.append_assoc]
      refine List.Perm.cons event ?_
      calc
        echo heard meanwhile ++ voice
        _ |>.Perm (echo heard meanwhile ++ (forwarded ++ echo heard more)) :=
          induction.append_left _
        _ |>.Perm (forwarded ++ echo heard meanwhile ++ echo heard more) := by
          rw [← List.append_assoc]
          exact List.perm_append_comm.append_right _

theorem silent (voiced : Voiced [] forwarded more voice) : voice = forwarded := by
  induction voiced with
  | nil => rfl
  | cons later induction => rw [echo_silent, induction, List.singleton_append]

theorem undisturbed (voiced : Voiced heard forwarded more voice) (nothing : more = []) :
    voice = forwarded := by
  induction voiced with
  | nil => rfl
  | cons later induction =>
      rcases List.append_eq_nil_iff.mp nothing with ⟨rfl, rest⟩
      rw [induction rest, echo_nil, List.singleton_append]

end Voiced

/-- Nothing that happens to the broker is an act of the client itself, loses a line to it
or takes the session away. -/
def BrokerEvent.Uneventful (clientId : ClientId) (sessionId : SessionId) (event : BrokerEvent) :
    Prop :=
  event.Reaches clientId ∧ event.concerns clientId sessionId = false ∧
    event.keepsSession sessionId = true

/-! ## What a replay writes -/

namespace SessionBroker

variable {environment : Environment} {subscription : Subscription}

/-- The subscriptions that already hear the session while its new listener buffers. -/
def hearing (subscription : Subscription) (replay : Replay) : List ListenerId :=
  replay.broker.heardBy (some subscription.listener) subscription.clientId
    subscription.sessionId

theorem logOf_of_sessions {before after : SessionBroker}
    (same : after.sessions.sessions = before.sessions.sessions) (sessionId : SessionId) :
    after.logOf sessionId = before.logOf sessionId := by
  simp only [logOf, SessionHost.get, same]

theorem known_hostAppend (environment : Environment) (broker : SessionBroker)
    (buffering : Option ListenerId) (request : HostAppend) {sessionId : SessionId}
    (known : (broker.sessions.get sessionId).isSome) :
    ((broker.hostAppend environment buffering request).1.sessions.get sessionId).isSome := by
  have sessions : (broker.hostAppend environment buffering request).1.sessions =
      (broker.sessions.append request).1 := by
    simp only [hostAppend]
    split <;> rfl
  rw [sessions]
  simp only [SessionHost.append]
  split
  · exact known
  · simp only [SessionHost.get, OrderedMap.get_set]
    split
    · rfl
    · exact known

theorem length_appendedTo_known (environment : Environment) (broker : SessionBroker)
    (buffering : Option ListenerId) (request : HostAppend) {sessionId : SessionId}
    (known : (broker.sessions.get sessionId).isSome) :
    (appendedTo sessionId request
      (broker.hostAppend environment buffering request).2.2).length =
        appendsTo sessionId [request] := by
  by_cases here : request.sessionId = sessionId
  · subst here
    rcases Option.isSome_iff_exists.mp known with ⟨session, live⟩
    simp [appendedTo, appendsTo, hostAppend, SessionHost.append, live]
  · simp [appendedTo, appendsTo, here]

/-- The host appended while the new listener buffers: the log and the buffer grew by the
same events, which only the older subscriptions wrote. -/
structure Overheard (subscription : Subscription) (before : Replay) (more : List SessionEvent)
    (after : Replay) : Prop where
  grows : Grows subscription.sessionId before.broker more after.broker
  liveBuffer : after.liveBuffer = before.liveBuffer ++ more
  sent : eventsFor subscription.clientId subscription.sessionId after.sent =
    eventsFor subscription.clientId subscription.sessionId before.sent ++
      echo (hearing subscription before) more
  hearing : hearing subscription after = hearing subscription before
  known : (after.broker.sessions.get subscription.sessionId).isSome
  duringForward : after.duringForward = before.duringForward

theorem overheard_hostAppends (reaches : environment.Reaches subscription.clientId)
    {replay : Replay} (known : (replay.broker.sessions.get subscription.sessionId).isSome)
    (requests : List HostAppend) :
    ∃ more, more.length = appendsTo subscription.sessionId requests ∧
      Overheard subscription replay more
        (replay.hostAppends environment subscription requests) := by
  simp only [Replay.hostAppends]
  induction requests generalizing replay with
  | nil =>
      exact ⟨[], rfl, .of_sessions rfl, (List.append_nil _).symm, (List.append_nil _).symm, rfl,
        known, rfl⟩
  | cons request rest induction =>
      have logged := onlyLogged_hostAppend environment replay.broker
        (some subscription.listener) request
      have step := hostAppend_feeds environment replay.broker (some subscription.listener)
        request subscription.sessionId
      have sameHearing : hearing subscription (replay.hostAppend environment subscription request) =
          hearing subscription replay :=
        congrFun (congrFun (congrFun (heardBy_congr logged.listeners) _) _) _
      have stillKnown := known_hostAppend environment replay.broker (some subscription.listener)
        request known
      rcases @induction (replay.hostAppend environment subscription request) stillKnown with
        ⟨more, amount, later⟩
      refine ⟨_ ++ more, ?_, step.1.trans later.grows, ?_, ?_,
        later.hearing.trans sameHearing, later.known, later.duringForward⟩
      · rw [List.length_append, length_appendedTo_known _ _ _ _ known, amount, ← appendsTo_append,
          List.singleton_append]
      · refine later.liveBuffer.trans ?_
        rw [liveBuffer_hostAppend, List.append_assoc]
      · refine later.sent.trans ?_
        rw [sameHearing, echo_append, ← List.append_assoc]
        congr 1
        exact (eventsFor_append _ _ _ _).trans
          (congrArg _ (step.2 subscription.clientId reaches))

/-- An attach at work: the events it forwarded, and what the host appended meanwhile. -/
structure Wrote (subscription : Subscription) (before : Replay)
    (forwarded more : List SessionEvent) (after : Replay) : Prop where
  grows : Grows subscription.sessionId before.broker more after.broker
  sent : ∃ voice, Voiced (hearing subscription before) forwarded more voice ∧
    eventsFor subscription.clientId subscription.sessionId after.sent =
      eventsFor subscription.clientId subscription.sessionId before.sent ++ voice
  hearing : hearing subscription after = hearing subscription before
  known : (after.broker.sessions.get subscription.sessionId).isSome
  duringForward : after.duringForward = before.duringForward.drop forwarded.length
  amount : more.length =
    appendsTo subscription.sessionId (before.duringForward.take forwarded.length).flatten

namespace Wrote

theorem refl {replay : Replay}
    (known : (replay.broker.sessions.get subscription.sessionId).isSome) :
    Wrote subscription replay [] [] replay :=
  ⟨.of_sessions rfl, ⟨[], .nil, (List.append_nil _).symm⟩, rfl, known, rfl, rfl⟩

theorem of_buffer {before after : Replay} {buffer forwarded more : List SessionEvent}
    (wrote : Wrote subscription { before with liveBuffer := buffer } forwarded more after) :
    Wrote subscription before forwarded more after :=
  ⟨wrote.grows, wrote.sent, wrote.hearing, wrote.known, wrote.duringForward, wrote.amount⟩

theorem trans {first second third : Replay} {early earlyMore late lateMore : List SessionEvent}
    (left : Wrote subscription first early earlyMore second)
    (right : Wrote subscription second late lateMore third) :
    Wrote subscription first (early ++ late) (earlyMore ++ lateMore) third where
  grows := left.grows.trans right.grows
  sent := by
    rcases left.sent with ⟨voice, voiced, sent⟩
    rcases right.sent with ⟨later, laterVoiced, laterSent⟩
    refine ⟨voice ++ later, voiced.append (left.hearing ▸ laterVoiced), ?_⟩
    rw [laterSent, sent, List.append_assoc]
  hearing := right.hearing.trans left.hearing
  known := right.known
  duringForward := by
    rw [right.duringForward, left.duringForward, List.drop_drop, List.length_append]
  amount := by
    rw [List.length_append, left.amount, right.amount, left.duringForward, List.length_append,
      List.take_add, List.flatten_append, appendsTo_append]

theorem of_overheard {before written after : Replay} {event : SessionEvent}
    {more : List SessionEvent} (overheard : Overheard subscription written more after)
    (broker : written.broker = before.broker)
    (sent : written.sent = before.sent ++
      [⟨subscription.clientId, .sessionEvent subscription.sessionId event⟩])
    (duringForward : written.duringForward = before.duringForward.tail)
    (amount : more.length =
      appendsTo subscription.sessionId (before.duringForward.headD [])) :
    Wrote subscription before [event] more after where
  grows := broker ▸ overheard.grows
  sent := by
    have one : Voiced (SessionBroker.hearing subscription before) [event] (more ++ [])
        (event :: echo (SessionBroker.hearing subscription before) more ++ []) := .cons .nil
    rw [List.append_nil, List.append_nil] at one
    refine ⟨_, one, ?_⟩
    rw [overheard.sent, sent, eventsFor_append, eventsFor_sessionEvent, if_pos ⟨rfl, rfl⟩,
      List.append_assoc, SessionBroker.hearing, broker]
    rfl
  hearing := by
    rw [overheard.hearing, SessionBroker.hearing, broker, SessionBroker.hearing]
  known := overheard.known
  duringForward := by
    rw [overheard.duringForward, duringForward, List.length_singleton, List.drop_one]
  amount := by
    rw [amount]
    cases before.duringForward <;> simp

end Wrote

theorem wrote_forward (reaches : environment.Reaches subscription.clientId) {replay : Replay}
    (known : (replay.broker.sessions.get subscription.sessionId).isSome) (event : SessionEvent) :
    ∃ next more, replay.forward environment subscription event = .ok next ∧
      Wrote subscription replay [event] more next ∧
      next.liveBuffer = replay.liveBuffer ++ more ∧ next.remaining ≤ replay.remaining := by
  let written : Replay := { replay with
    sent := replay.sent ++ [⟨subscription.clientId, .sessionEvent subscription.sessionId event⟩]
    duringForward := replay.duringForward.tail }
  have writtenKnown : (written.broker.sessions.get subscription.sessionId).isSome := known
  rcases overheard_hostAppends reaches writtenKnown (replay.duringForward.headD []) with
    ⟨more, amount, overheard⟩
  refine ⟨_, more, ?_, .of_overheard overheard rfl rfl rfl amount, overheard.liveBuffer, ?_⟩
  · simp only [Replay.forward, reaches (.sessionEvent subscription.sessionId event), if_true]
    rfl
  · have short : more.length ≤ (replay.duringForward.headD []).length := by
      rw [amount]
      exact List.countP_le_length
    simp only [Replay.remaining, overheard.liveBuffer, overheard.duringForward,
      List.length_append, written]
    cases isDuring : replay.duringForward with
    | nil =>
        rw [isDuring] at short
        simp at short
        simp [short]
    | cons first others =>
        rw [isDuring] at short
        simp at short ⊢
        omega

theorem wrote_replaySnapshot (reaches : environment.Reaches subscription.clientId)
    (sinceSeq : Int) (events : List SessionEvent) {replay : Replay}
    (known : (replay.broker.sessions.get subscription.sessionId).isSome) :
    ∃ next more, replay.replaySnapshot environment subscription sinceSeq events = .ok next ∧
      Wrote subscription replay (eventsAbove sinceSeq events) more next ∧
      next.liveBuffer = replay.liveBuffer ++ more := by
  induction events generalizing replay with
  | nil => exact ⟨replay, [], rfl, .refl known, (List.append_nil _).symm⟩
  | cons event rest induction =>
      simp only [Replay.replaySnapshot, eventsAbove, List.filter_cons, decide_eq_true_eq]
      split
      · rcases wrote_forward reaches known event with ⟨next, more, forwarded, wrote, buffer, _⟩
        rcases induction wrote.known with ⟨final, later, replayed, laterWrote, laterBuffer⟩
        rw [forwarded]
        refine ⟨final, more ++ later, replayed, wrote.trans laterWrote, ?_⟩
        rw [laterBuffer, buffer, List.append_assoc]
      · exact induction known

/-- The drain forwards what the buffer holds above the watermark, with what is pushed to
it while it runs: the buffer is the end of a log whose numbers ascend. -/
theorem wrote_drain (reaches : environment.Reaches subscription.clientId) (fuel : Nat)
    (watermark : Int) {place : Nat} {replay : Replay}
    (known : (replay.broker.sessions.get subscription.sessionId).isSome)
    (contiguous : Contiguous SessionEvent.seq (replay.broker.logOf subscription.sessionId))
    (buffered : replay.liveBuffer = (replay.broker.logOf subscription.sessionId).drop place)
    (inside : place ≤ (replay.broker.logOf subscription.sessionId).length)
    (enough : replay.remaining ≤ fuel) :
    ∃ next more, replay.drain environment subscription fuel watermark = .ok next ∧
      Wrote subscription replay
        (eventsAbove watermark ((next.broker.logOf subscription.sessionId).drop place)) more
        next := by
  induction fuel generalizing replay watermark place with
  | zero =>
      have empty : replay.liveBuffer = [] := by
        rw [← List.length_eq_zero_iff]
        simp only [Replay.remaining] at enough
        omega
      refine ⟨replay, [], rfl, ?_⟩
      rw [← buffered, empty]
      exact .refl known
  | succ fuel induction =>
      simp only [Replay.drain]
      split
      · next empty =>
          refine ⟨replay, [], rfl, ?_⟩
          rw [← buffered, empty]
          exact .refl known
      · next event rest buffer =>
          have left := buffered.symm.trans buffer
          have found : (replay.broker.logOf subscription.sessionId)[place]? = some event := by
            have head := congrArg List.head? left
            rwa [List.head?_drop] at head
          have number : event.seq = place := contiguous.seq_of_getElem? found
          have before : place < (replay.broker.logOf subscription.sessionId).length :=
            (List.getElem?_eq_some_iff.mp found).1
          have shifted : rest = (replay.broker.logOf subscription.sessionId).drop (place + 1) := by
            have tail := congrArg List.tail left
            rwa [List.tail_drop, eq_comm] at tail
          let behind : Replay := { replay with liveBuffer := rest }
          have behindKnown : (behind.broker.sessions.get subscription.sessionId).isSome := known
          have fewer : behind.remaining ≤ fuel := by
            simp only [Replay.remaining, buffer, List.length_cons, behind] at enough ⊢
            omega
          -- The event stays where it is when the log grows.
          have heads : ∀ {next : SessionBroker} {more : List SessionEvent},
              Grows subscription.sessionId replay.broker more next →
              (next.logOf subscription.sessionId).drop place =
                event :: (next.logOf subscription.sessionId).drop (place + 1) := by
            intro next more grows
            rw [grows.log, List.drop_append_of_le_length inside,
              List.drop_append_of_le_length before, left, shifted, List.cons_append]
          split
          · next above =>
              rcases wrote_forward reaches behindKnown event with
                ⟨next, more, forwarded, wrote, nextBuffer, noMore⟩
              rw [forwarded]
              have stillBuffered : next.liveBuffer =
                  (next.broker.logOf subscription.sessionId).drop (place + 1) := by
                rw [nextBuffer, wrote.grows.log, List.drop_append_of_le_length before, ← shifted]
              rcases induction event.seq wrote.known (wrote.grows.contiguous contiguous)
                stillBuffered (Nat.le_trans before wrote.grows.length_le) (Nat.le_trans noMore fewer) with
                ⟨final, later, drained, laterWrote⟩
              refine ⟨final, more ++ later, drained, ?_⟩
              have whole := wrote.grows.trans laterWrote.grows
              have both := (wrote.trans laterWrote).of_buffer
              -- Both watermarks lie below everything that is still to come.
              have allAbove : ∀ mark : Int, mark ≤ place →
                  eventsAbove mark
                    ((final.broker.logOf subscription.sessionId).drop (place + 1)) =
                  (final.broker.logOf subscription.sessionId).drop (place + 1) := by
                intro mark low
                have numbered := (whole.contiguous contiguous).numbered_drop
                  (Nat.le_trans before whole.length_le)
                rw [eventsAbove, numbered.filter_above, Nat.sub_eq_zero_of_le (by omega), List.drop_zero]
              rw [heads whole, eventsAbove, List.filter_cons_of_pos (by simpa using above),
                ← eventsAbove, allAbove watermark (by omega)]
              rw [number, allAbove place (Int.le_refl _)] at both
              exact both
          · next old =>
              rcases induction watermark behindKnown contiguous shifted before fewer with ⟨final, later, drained, laterWrote⟩
              refine ⟨final, later, drained, ?_⟩
              rw [heads laterWrote.grows, eventsAbove,
                List.filter_cons_of_neg (by simpa using old)]
              exact laterWrote.of_buffer

/-- A buffer with nothing above the watermark is dropped. -/
theorem drain_stale (environment : Environment) (subscription : Subscription) (fuel : Nat)
    (watermark : Int) {replay : Replay}
    (stale : ∀ event ∈ replay.liveBuffer, (event.seq : Int) ≤ watermark)
    (enough : replay.remaining ≤ fuel) :
    replay.drain environment subscription fuel watermark =
      .ok { replay with liveBuffer := [] } := by
  induction fuel generalizing replay with
  | zero =>
      have empty : replay.liveBuffer = [] := by
        rw [← List.length_eq_zero_iff]
        simp only [Replay.remaining] at enough
        omega
      simp only [Replay.drain, ← empty]
  | succ fuel induction =>
      simp only [Replay.drain]
      split
      · next empty => rw [← empty]
      · next event rest buffer =>
          have old := stale event (by simp [buffer])
          rw [if_neg (Int.not_lt.mpr old)]
          refine induction ?_ ?_
          · intro other member
            exact stale other (by simp [buffer, member])
          · simp only [Replay.remaining, buffer, List.length_cons] at enough ⊢
            omega

/-! ## A whole replay -/

theorem hearing_startReplay {broker : SessionBroker} (consistent : Consistent broker)
    (environment : AttachEnvironment) (clientId : ClientId) (sessionId : SessionId) :
    hearing (broker.subscription clientId sessionId)
      (broker.startReplay environment clientId sessionId) =
        broker.liveSubscriptions clientId sessionId :=
  congrFun (congrFun (heardBy_subscribed consistent clientId sessionId) _) _

/-- Until the snapshot is read, the client only hears its older subscriptions. -/
theorem prepareReplay_overheard {environment : AttachEnvironment} {broker : SessionBroker}
    {clientId : ClientId} {sessionId : SessionId} {session : HostSession}
    (reaches : environment.Reaches clientId)
    (live : broker.sessions.get sessionId = some session) :
    ∃ early, early.length = appendsTo sessionId environment.beforeSnapshot ∧
      Overheard (broker.subscription clientId sessionId)
        (broker.startReplay environment clientId sessionId) early
        (broker.prepareReplay environment clientId sessionId) := by
  have known : ((broker.startReplay environment clientId sessionId).broker.sessions.get
      (broker.subscription clientId sessionId).sessionId).isSome :=
    Option.isSome_of_eq_some live
  exact overheard_hostAppends reaches known environment.beforeSnapshot

theorem replay_fromNow {environment : AttachEnvironment} {broker : SessionBroker}
    {clientId : ClientId} {params : SessionAttachParams} {session : HostSession}
    (consistent : Consistent broker) (reaches : environment.Reaches clientId)
    (contiguous : Contiguous SessionEvent.seq (broker.logOf params.sessionId))
    (live : broker.sessions.get params.sessionId = some session)
    (fromNow : params.sinceSeq = none) :
    ∃ replayed early, broker.replay environment clientId params session = .ok replayed ∧
      Grows params.sessionId broker early replayed.broker ∧
      (broker.prepareReplay environment clientId params.sessionId).broker.logOf params.sessionId =
        replayed.broker.logOf params.sessionId ∧
      eventsFor clientId params.sessionId replayed.sent =
        echo (broker.liveSubscriptions clientId params.sessionId) early := by
  rcases prepareReplay_overheard reaches live with ⟨early, _, overheard⟩
  have grows : Grows params.sessionId broker early
      (broker.prepareReplay environment clientId params.sessionId).broker :=
    ⟨overheard.grows.log, overheard.grows.contiguous⟩
  have snapshot := events_snapshot live grows
  have stale : ∀ event ∈ (broker.prepareReplay environment clientId params.sessionId).liveBuffer,
      (event.seq : Int) ≤ ((broker.prepareReplay environment clientId
        params.sessionId).broker.logOf params.sessionId).length - 1 := by
    intro event member
    have inLog : event ∈ (broker.prepareReplay environment clientId
        params.sessionId).broker.logOf params.sessionId := by
      rw [grows.log]
      rw [overheard.liveBuffer] at member
      exact List.mem_append_right _ (by simpa [startReplay] using member)
    rcases List.mem_iff_getElem?.mp inLog with ⟨place, found⟩
    have number := (grows.contiguous contiguous).seq_of_getElem? found
    have inside := (List.getElem?_eq_some_iff.mp found).1
    omega
  refine ⟨{ broker.prepareReplay environment clientId params.sessionId with liveBuffer := [] },
    early, ?_, grows, rfl, ?_⟩
  · simp only [replay, Replay.replaySince, initialWatermark, fromNow, HostSession.seq, snapshot]
    exact drain_stale _ _ _ _ stale (Nat.le_refl _)
  · have sent := overheard.sent
    rw [hearing_startReplay consistent] at sent
    exact sent

/-- What a replay from a cursor writes: what the client hears through its older
subscriptions until the snapshot is read, the snapshot behind the cursor, and what the
buffer then holds behind it. -/
structure ReplayedSince (environment : AttachEnvironment) (broker : SessionBroker)
    (clientId : ClientId) (sessionId : SessionId) (sinceSeq : Int)
    (early more later : List SessionEvent) (replayed : Replay) : Prop where
  grows : Grows sessionId broker (early ++ (more ++ later)) replayed.broker
  beforeSnapshot : early.length = appendsTo sessionId environment.beforeSnapshot
  duringSnapshot : more.length = appendsTo sessionId (environment.duringForward.take
    (eventsAbove sinceSeq (broker.logOf sessionId ++ early)).length).flatten
  staleBuffer : (∀ event ∈ early ++ more, (event.seq : Int) ≤ sinceSeq) → later = []
  sent : ∃ voice,
    Voiced (broker.liveSubscriptions clientId sessionId)
      (eventsAbove sinceSeq (broker.logOf sessionId ++ early) ++
        eventsAbove sinceSeq (early ++ (more ++ later)))
      (more ++ later) voice ∧
    eventsFor clientId sessionId replayed.sent =
      echo (broker.liveSubscriptions clientId sessionId) early ++ voice

theorem replay_since {environment : AttachEnvironment} {broker : SessionBroker}
    {clientId : ClientId} {params : SessionAttachParams} {session : HostSession}
    (consistent : Consistent broker) (reaches : environment.Reaches clientId)
    (contiguous : Contiguous SessionEvent.seq (broker.logOf params.sessionId))
    (live : broker.sessions.get params.sessionId = some session) {sinceSeq : Int}
    (since : params.sinceSeq = some sinceSeq) :
    ∃ replayed early more later, broker.replay environment clientId params session =
      .ok replayed ∧ ReplayedSince environment broker clientId params.sessionId sinceSeq early
        more later replayed := by
  rcases prepareReplay_overheard reaches live with ⟨early, early_length, overheard⟩
  have grows : Grows params.sessionId broker early
      (broker.prepareReplay environment clientId params.sessionId).broker :=
    ⟨overheard.grows.log, overheard.grows.contiguous⟩
  have snapshot := events_snapshot live grows
  generalize prepared : broker.prepareReplay environment clientId params.sessionId = ready at *
  have buffered : ready.liveBuffer = early := by
    rw [overheard.liveBuffer]
    rfl
  rcases wrote_replaySnapshot reaches sinceSeq (broker.logOf params.sessionId ++ early)
    overheard.known with ⟨middle, more, replayed, wrote, middleBuffer⟩
  have middleGrows := grows.trans wrote.grows
  have stillBuffered : middle.liveBuffer =
      (middle.broker.logOf params.sessionId).drop (broker.logOf params.sessionId).length := by
    rw [middleBuffer, buffered, middleGrows.log, List.drop_left]
  rcases wrote_drain reaches middle.remaining sinceSeq wrote.known
    (middleGrows.contiguous contiguous) stillBuffered middleGrows.length_le (Nat.le_refl _) with
    ⟨final, later, drained, wroteLater⟩
  have whole := middleGrows.trans wroteLater.grows
  have finalLog : (final.broker.logOf params.sessionId).drop
      (broker.logOf params.sessionId).length = early ++ (more ++ later) := by
    rw [whole.log, List.drop_left, List.append_assoc]
  refine ⟨final, early, more, later, ?_, ?_, early_length, ?_, ?_, ?_⟩
  · simp only [replay, Replay.replaySince, initialWatermark, prepared, since, snapshot]
    rw [grows.log, replayed]
    exact drained
  · rw [← List.append_assoc]
    exact whole
  · have amount := wrote.amount
    rw [overheard.duringForward] at amount
    exact amount
  · intro low
    have stale : ∀ event ∈ middle.liveBuffer, (event.seq : Int) ≤ sinceSeq := by
      rw [middleBuffer, buffered]
      exact low
    have nothing := drain_stale environment.toEnvironment
      (broker.subscription clientId params.sessionId) middle.remaining sinceSeq stale
      (Nat.le_refl _)
    rw [drained] at nothing
    have same : final.broker = middle.broker := by
      cases nothing
      rfl
    have log := wroteLater.grows.log
    rw [same] at log
    exact List.self_eq_append_right.mp log
  · rcases (wrote.trans wroteLater).sent with ⟨voice, voiced, sent⟩
    have heard := overheard.hearing.trans (hearing_startReplay consistent environment clientId
      params.sessionId)
    have first := overheard.sent
    rw [hearing_startReplay consistent] at first
    refine ⟨voice, ?_, sent.trans (congrArg (· ++ voice) first)⟩
    rw [heard] at voiced
    have read := finalLog
    simp only [subscription] at voiced
    rw [read] at voiced
    exact voiced

/-! ## Exactly once -/

/-- Of the log, the client is sent every event above a sequence number exactly once, and
whatever it is sent comes in ascending order. -/
structure SentExactly (mark : Int) (log sent : List SessionEvent) : Prop where
  each : eventsAbove mark sent = eventsAbove mark log
  ascending : sent.Pairwise fun earlier later => earlier.seq < later.seq

/-- The sequence number behind which everything is owed to the client: the cursor of its
request, or the head of the log when the snapshot is read. -/
def owedAbove (environment : AttachEnvironment) (broker : SessionBroker) (clientId : ClientId)
    (params : SessionAttachParams) : Int :=
  match params.sinceSeq with
  | some sinceSeq => sinceSeq
  | none => ((broker.prepareReplay environment clientId params.sessionId).broker.logOf
      params.sessionId).length - 1

/-- What a request with a cursor needs of the host: it appends no event above the cursor
between the subscription and the snapshot and, when the client is attached already, none
while the snapshot is forwarded. -/
def ReplaysOnce (environment : AttachEnvironment) (broker : SessionBroker) (clientId : ClientId)
    (params : SessionAttachParams) : Prop :=
  ∀ sinceSeq, params.sinceSeq = some sinceSeq →
    let early := appendsTo params.sessionId environment.beforeSnapshot
    let head := (broker.logOf params.sessionId).length + early
    (early = 0 ∨ head ≤ (sinceSeq + 1).toNat) ∧
      (broker.IsAttached clientId params.sessionId →
        appendsTo params.sessionId
          (environment.duringForward.take (head - (sinceSeq + 1).toNat)).flatten = 0)

/-- What a live subscription goes on to write decides nothing. -/
theorem SentExactly.append_iff {mark : Int} {log more sent : List SessionEvent}
    (contiguous : Contiguous SessionEvent.seq (log ++ more))
    (logged : ∀ event ∈ sent, event ∈ log) :
    SentExactly mark (log ++ more) (sent ++ more) ↔ SentExactly mark log sent := by
  have numbered := NumberedFrom.append_iff.mp contiguous.numbered
  constructor
  · intro exactly
    have each := exactly.each
    rw [eventsAbove_append, eventsAbove_append] at each
    exact ⟨List.append_cancel_right each, (List.pairwise_append.mp exactly.ascending).1⟩
  · intro exactly
    refine ⟨by rw [eventsAbove_append, eventsAbove_append, exactly.each], ?_⟩
    refine List.pairwise_append.mpr ⟨exactly.ascending, numbered.2.pairwise, ?_⟩
    intro earlier inSent later inMore
    exact (List.pairwise_append.mp contiguous.numbered.pairwise).2.2 earlier
      (logged earlier inSent) later inMore

theorem liveSubscriptions_cases {broker : SessionBroker} (consistent : Consistent broker)
    (clientId : ClientId) (sessionId : SessionId) :
    (¬broker.IsAttached clientId sessionId ∧
        broker.liveSubscriptions clientId sessionId = []) ∨
      broker.IsAttached clientId sessionId ∧
        ∃ listener, broker.liveSubscriptions clientId sessionId = [listener] := by
  by_cases isAttached : broker.IsAttached clientId sessionId
  · rcases consistent.attachedIff.mp isAttached with ⟨attachment, found⟩
    exact Or.inr ⟨isAttached, _, liveSubscriptions_of_attachment consistent found⟩
  · exact Or.inl ⟨isAttached, liveSubscriptions_of_notAttached consistent isAttached⟩

namespace ReplayedSince

variable {environment : AttachEnvironment} {broker : SessionBroker} {clientId : ClientId}
  {sessionId : SessionId} {sinceSeq : Int} {early more later : List SessionEvent}
  {replayed : Replay}

theorem logged (since : ReplayedSince environment broker clientId sessionId sinceSeq early more
    later replayed) :
    ∀ event ∈ eventsFor clientId sessionId replayed.sent,
      event ∈ replayed.broker.logOf sessionId := by
  intro event member
  rcases since.sent with ⟨voice, voiced, sent⟩
  rw [sent, List.mem_append, voiced.perm.mem_iff, List.mem_append, List.mem_append] at member
  have log := since.grows.log
  rw [log]
  rcases member with echoed | (replay | drained) | echoed
  · have inEarly := mem_of_mem_echo echoed
    simp [inEarly]
  · have inSnapshot := List.mem_of_mem_filter replay
    rcases List.mem_append.mp inSnapshot with old | new
    · simp [old]
    · simp [new]
  · exact List.mem_append_right _ (List.mem_of_mem_filter drained)
  · have inMore := mem_of_mem_echo echoed
    exact List.mem_append_right _ (List.mem_append_right _ inMore)

/-- The lengths of what is sent and of what is owed leave no room for an event that is
written a second time. -/
theorem nothingTwice (since : ReplayedSince environment broker clientId sessionId sinceSeq early
    more later replayed)
    (each : eventsAbove sinceSeq (eventsFor clientId sessionId replayed.sent) =
      eventsAbove sinceSeq (replayed.broker.logOf sessionId)) :
    eventsAbove sinceSeq early = [] ∧
      eventsAbove sinceSeq (echo (broker.liveSubscriptions clientId sessionId) (more ++ later)) =
        [] := by
  rcases since.sent with ⟨voice, voiced, sent⟩
  have voiceLength : (eventsAbove sinceSeq voice).length = (eventsAbove sinceSeq _).length :=
    (voiced.perm.filter _).length_eq
  have lengths := congrArg List.length each
  rw [sent, since.grows.log] at lengths
  simp only [eventsAbove_append, List.length_append] at lengths
  simp only [echo_append, eventsAbove_append, eventsAbove_eventsAbove, List.length_append]
    at voiceLength
  constructor
  · rw [← List.length_eq_zero_iff]
    omega
  · simp only [echo_append, eventsAbove_append, ← List.length_eq_zero_iff, List.length_append]
    omega

theorem numbered (since : ReplayedSince environment broker clientId sessionId sinceSeq early more
    later replayed) (contiguous : Contiguous SessionEvent.seq (broker.logOf sessionId)) :
    NumberedFrom SessionEvent.seq 0 (broker.logOf sessionId ++ early) ∧
      NumberedFrom SessionEvent.seq (broker.logOf sessionId).length early ∧
      NumberedFrom SessionEvent.seq ((broker.logOf sessionId).length + early.length)
        (more ++ later) := by
  have whole := (since.grows.contiguous contiguous).numbered
  rw [since.grows.log, ← List.append_assoc] at whole
  have stretches := NumberedFrom.append_iff.mp whole
  have snapshot := NumberedFrom.append_iff.mp stretches.1
  rw [Nat.zero_add, List.length_append] at stretches
  exact ⟨NumberedFrom.append_iff.mpr snapshot, by simpa using snapshot.2, stretches.2⟩

theorem replaysOnce (since : ReplayedSince environment broker clientId sessionId sinceSeq early
    more later replayed) (consistent : Consistent broker)
    (contiguous : Contiguous SessionEvent.seq (broker.logOf sessionId))
    (each : eventsAbove sinceSeq (eventsFor clientId sessionId replayed.sent) =
      eventsAbove sinceSeq (replayed.broker.logOf sessionId)) :
    (early.length = 0 ∨
        (broker.logOf sessionId).length + early.length ≤ (sinceSeq + 1).toNat) ∧
      (broker.IsAttached clientId sessionId → more.length = 0) := by
  rcases since.nothingTwice each with ⟨noneEarly, noneEchoed⟩
  rcases since.numbered contiguous with ⟨snapshotNumbered, earlyNumbered, laterNumbered⟩
  constructor
  · rw [eventsAbove, earlyNumbered.filter_above, List.drop_eq_nil_iff] at noneEarly
    omega
  · intro isAttached
    rcases liveSubscriptions_cases consistent clientId sessionId with
      ⟨detached, _⟩ | ⟨_, listener, hears⟩
    · exact absurd isAttached detached
    · rw [hears, echo_single, eventsAbove, laterNumbered.filter_above, List.drop_eq_nil_iff,
        List.length_append] at noneEchoed
      rcases Nat.lt_or_ge (sinceSeq + 1).toNat
        ((broker.logOf sessionId).length + early.length) with inside | beyond
      · omega
      · -- With the cursor at the head or above it, nothing is forwarded at all.
        have forwardsNone : eventsAbove sinceSeq (broker.logOf sessionId ++ early) = [] := by
          rw [eventsAbove, snapshotNumbered.filter_above, List.drop_eq_nil_iff,
            List.length_append]
          omega
        rw [since.duringSnapshot, forwardsNone]
        simp

theorem exactly (since : ReplayedSince environment broker clientId sessionId sinceSeq early more
    later replayed) (consistent : Consistent broker)
    (contiguous : Contiguous SessionEvent.seq (broker.logOf sessionId))
    (noneEarly : early.length = 0 ∨
      (broker.logOf sessionId).length + early.length ≤ (sinceSeq + 1).toNat)
    (noneMore : broker.IsAttached clientId sessionId → more.length = 0) :
    SentExactly sinceSeq (replayed.broker.logOf sessionId)
      (eventsFor clientId sessionId replayed.sent) := by
  rcases since.numbered contiguous with ⟨snapshotNumbered, earlyNumbered, _⟩
  have stale : eventsAbove sinceSeq early = [] := by
    rw [eventsAbove, earlyNumbered.filter_above, List.drop_eq_nil_iff]
    omega
  have log := since.grows.log
  have ascends := (since.grows.contiguous contiguous).numbered.pairwise
  rcases since.sent with ⟨voice, voiced, sent⟩
  rw [eventsAbove_append sinceSeq early, stale, List.nil_append] at voiced
  rcases liveSubscriptions_cases consistent clientId sessionId with
    ⟨_, hears⟩ | ⟨isAttached, listener, hears⟩
  · -- Nobody else writes: what is sent is what lies above the cursor.
    rw [hears] at voiced sent
    have owed : eventsFor clientId sessionId replayed.sent =
        eventsAbove sinceSeq (replayed.broker.logOf sessionId) := by
      rw [sent, echo_silent, List.nil_append, voiced.silent, log, ← eventsAbove_append,
        List.append_assoc]
    rw [owed]
    exact ⟨eventsAbove_eventsAbove _ _, ascends.filter _⟩
  · -- The old subscription writes the early events, which lie below the cursor.
    have noMore : more = [] := List.length_eq_zero_iff.mp (noneMore isAttached)
    have noLater : later = [] := by
      refine since.staleBuffer fun event member => ?_
      rw [noMore, List.append_nil] at member
      exact eventsAbove_eq_nil_iff.mp stale event member
    subst noMore noLater
    have spoken := voiced.undisturbed rfl
    rw [hears, echo_single] at sent
    rw [sent, spoken, log]
    simp only [List.append_nil, eventsAbove_append, eventsAbove_nil, stale] at ascends log ⊢
    rw [log] at ascends
    refine ⟨by simp [stale], ?_⟩
    rcases noneEarly with isEmpty | below
    · rw [List.length_eq_zero_iff.mp isEmpty, List.nil_append]
      exact ((List.pairwise_append.mp ascends).1).filter _
    · have nothing : eventsAbove sinceSeq (broker.logOf sessionId) = [] := by
        have none : eventsAbove sinceSeq (broker.logOf sessionId ++ early) = [] := by
          rw [eventsAbove, snapshotNumbered.filter_above, List.drop_eq_nil_iff,
            List.length_append]
          omega
        rw [eventsAbove_append] at none
        exact (List.append_eq_nil_iff.mp none).1
      rw [nothing, List.append_nil]
      exact earlyNumbered.pairwise

end ReplayedSince

/-- A replay writes exactly what it owes just when the host does not interfere. -/
theorem replay_exactly_iff {environment : AttachEnvironment} {broker : SessionBroker}
    {clientId : ClientId} {params : SessionAttachParams} {session : HostSession}
    (consistent : Consistent broker) (reaches : environment.Reaches clientId)
    (contiguous : Contiguous SessionEvent.seq (broker.logOf params.sessionId))
    (live : broker.sessions.get params.sessionId = some session) :
    ∃ replayed more, broker.replay environment clientId params session = .ok replayed ∧
      Grows params.sessionId broker more replayed.broker ∧
      (∀ event ∈ eventsFor clientId params.sessionId replayed.sent,
        event ∈ replayed.broker.logOf params.sessionId) ∧
      (SentExactly (owedAbove environment broker clientId params)
        (replayed.broker.logOf params.sessionId)
        (eventsFor clientId params.sessionId replayed.sent) ↔
          ReplaysOnce environment broker clientId params) := by
  cases since : params.sinceSeq with
  | none =>
      rcases replay_fromNow consistent reaches contiguous live since with
        ⟨replayed, early, finished, grows, head, sent⟩
      have logged : ∀ event ∈ eventsFor clientId params.sessionId replayed.sent,
          event ∈ replayed.broker.logOf params.sessionId := by
        intro event member
        rw [sent] at member
        rw [grows.log]
        exact List.mem_append_right _ (mem_of_mem_echo member)
      refine ⟨replayed, early, finished, grows, logged, ?_⟩
      have always : ReplaysOnce environment broker clientId params := by
        intro sinceSeq isSome
        rw [since] at isSome
        cases isSome
      refine iff_of_true ⟨?_, ?_⟩ always
      · -- The head is the last of the log: nothing above it is owed or sent.
        have low : ∀ event ∈ replayed.broker.logOf params.sessionId,
            (event.seq : Int) ≤ owedAbove environment broker clientId params := by
          intro event member
          rcases List.mem_iff_getElem?.mp member with ⟨place, found⟩
          have number := (grows.contiguous contiguous).seq_of_getElem? found
          have inside := (List.getElem?_eq_some_iff.mp found).1
          simp only [owedAbove, since, head]
          omega
        rw [eventsAbove_eq_nil_iff.mpr low,
          eventsAbove_eq_nil_iff.mpr fun event member => low event (logged event member)]
      · rw [sent]
        have whole := (grows.contiguous contiguous).numbered.pairwise
        rw [grows.log] at whole
        rcases liveSubscriptions_cases consistent clientId params.sessionId with
          ⟨_, hears⟩ | ⟨_, listener, hears⟩
        · rw [hears, echo_silent]
          exact .nil
        · rw [hears, echo_single]
          exact (List.pairwise_append.mp whole).2.1
  | some sinceSeq =>
      rcases replay_since consistent reaches contiguous live since with
        ⟨replayed, early, more, later, finished, replays⟩
      refine ⟨replayed, _, finished, replays.grows, replays.logged, ?_⟩
      have owed : owedAbove environment broker clientId params = sinceSeq := by
        simp only [owedAbove, since]
      have forwards : (eventsAbove sinceSeq (broker.logOf params.sessionId ++ early)).length =
          (broker.logOf params.sessionId).length +
            appendsTo params.sessionId environment.beforeSnapshot - (sinceSeq + 1).toNat := by
        rw [eventsAbove, (replays.numbered contiguous).1.filter_above, List.length_drop,
          List.length_append, replays.beforeSnapshot, Nat.sub_zero]
      have amount := replays.duringSnapshot
      rw [forwards] at amount
      rw [owed]
      constructor
      · intro exactly cursor isCursor
        cases since.symm.trans isCursor
        have once := replays.replaysOnce consistent contiguous exactly.each
        rwa [replays.beforeSnapshot, amount] at once
      · intro once
        rcases once sinceSeq since with ⟨noneEarly, noneMore⟩
        rw [← replays.beforeSnapshot] at noneEarly
        rw [← amount] at noneMore
        exact replays.exactly consistent contiguous noneEarly noneMore

/-! ## The attach and what follows it -/

/-- The broker after a run of events, and what it wrote to its clients. -/
def performAll (broker : SessionBroker) : List BrokerEvent → SessionBroker × List Sent
  | [] => (broker, [])
  | event :: rest =>
      let next := broker.perform event
      let later := next.1.performAll rest
      (later.1, next.2 ++ later.2)

theorem performAll_publishes {broker : SessionBroker} (consistent : Consistent broker)
    {clientId : ClientId} {sessionId : SessionId} {events : List BrokerEvent}
    (uneventful : ∀ event ∈ events, BrokerEvent.Uneventful clientId sessionId event)
    (attached : (broker.performAll events).1.IsAttached clientId sessionId) :
    broker.IsAttached clientId sessionId ∧
      ∃ more, Grows sessionId broker more (broker.performAll events).1 ∧
        eventsFor clientId sessionId (broker.performAll events).2 = more := by
  induction events generalizing broker with
  | nil => exact ⟨attached, [], .of_sessions rfl, rfl⟩
  | cons event rest induction =>
      rcases uneventful event (by simp) with ⟨reaches, foreign, keeps⟩
      rcases induction (consistent.perform event)
        (fun other member => uneventful other (by simp [member])) attached with
        ⟨attachedNext, later, laterGrows, laterSent⟩
      have attachedNow := ((isAttached_perform consistent foreign).mp attachedNext).1
      rcases perform_publishes consistent keeps with ⟨more, grows, published⟩
      refine ⟨attachedNow, more ++ later, grows.trans laterGrows, ?_⟩
      simp only [performAll]
      rw [eventsFor_append, published clientId reaches foreign, if_pos attachedNow, laterSent]

theorem attach_replayed {environment : AttachEnvironment} {broker : SessionBroker}
    {clientId : ClientId} {params : SessionAttachParams} {session : HostSession}
    {replayed : Replay} (consistent : Consistent broker)
    (live : broker.sessions.get params.sessionId = some session)
    (finished : broker.replay environment clientId params session = .ok replayed)
    (pendingInteractions : Option (List PendingInteraction))
    (attached : (broker.attach environment clientId params pendingInteractions).broker.IsAttached
      clientId params.sessionId) :
    let outcome := broker.attach environment clientId params pendingInteractions
    outcome.broker.logOf params.sessionId = replayed.broker.logOf params.sessionId ∧
      eventsFor clientId params.sessionId outcome.sent =
        eventsFor clientId params.sessionId replayed.sent := by
  have ends := attach_ends environment broker clientId params pendingInteractions
  intro outcome
  generalize isOutcome : broker.attach environment clientId params pendingInteractions = ended
    at ends attached
  simp only [outcome, isOutcome]
  cases ends with
  | unknown absent =>
      rcases absent with absent | absent
      · exact absurd (consistent.connected attached) absent
      · rw [live] at absent
        cases absent
  | @notifyThrew other failed connected found threw =>
      cases live.symm.trans found
      cases finished.symm.trans threw
  | @locked other replay refused connected found finishedToo writing refusal =>
      have tracked : (replay.broker.trackAttachment clientId params.sessionId
          broker.sessions.nextListener).attachment clientId params.sessionId =
            some ⟨params.sessionId, broker.sessions.nextListener⟩ := by
        rw [attachment_trackAttachment, if_pos ⟨rfl, rfl⟩]
      rw [isAttached_dropAttachment tracked] at attached
      exact absurd ⟨rfl, rfl⟩ attached.1
  | @attached other replay holding broadcast connected found finishedToo granted =>
      cases live.symm.trans found
      cases finished.symm.trans finishedToo
      have sessions := sessions_trackAttachment replayed.broker clientId params.sessionId
        broker.sessions.nextListener
      rcases granted with ⟨rfl, rfl⟩ | ⟨_, _, rfl, reason, rfl⟩
      · refine ⟨?_, by rw [eventsFor_append, eventsFor_nil, List.append_nil]⟩
        exact logOf_of_sessions sessions _
      · refine ⟨logOf_of_sessions sessions _, ?_⟩
        rw [eventsFor_append, eventsFor_broadcastControl, List.append_nil]

/-- In every reachable broker, whatever the host appends while an attach runs and whatever
happens afterwards: as long as the client stays attached, it is sent each event above its
cursor exactly once and in ascending order just when no such event was appended between
the subscription and the snapshot, nor, to a client that was attached before, while the
snapshot was forwarded. A client that gives no cursor is always served exactly. -/
theorem attach_exactly_iff (sessions : OrderedMap SessionId HostSession)
    (agents : OrderedMap SessionId AgentStatus) (extras : SessionBrokerExtras)
    (past : List BrokerEvent) (broker : SessionBroker)
    (reachable : Execution.run step (init sessions agents extras) past = some broker)
    (environment : AttachEnvironment) (clientId : ClientId) (params : SessionAttachParams)
    (pendingInteractions : Option (List PendingInteraction)) (session : HostSession)
    (live : broker.sessions.get params.sessionId = some session)
    (contiguous : Contiguous SessionEvent.seq session.events)
    (reaches : environment.Reaches clientId) (afterwards : List BrokerEvent)
    (uneventful : ∀ event ∈ afterwards,
      BrokerEvent.Uneventful clientId params.sessionId event)
    (final : SessionBroker) (sent : List Sent)
    (performed : broker.performAll
      (.attach environment clientId params pendingInteractions :: afterwards) = (final, sent))
    (attached : final.IsAttached clientId params.sessionId) :
    SentExactly (owedAbove environment broker clientId params) (final.logOf params.sessionId)
      (eventsFor clientId params.sessionId sent) ↔
        ReplaysOnce environment broker clientId params := by
  have consistent := reachable_consistent reachable
  have numbered : Contiguous SessionEvent.seq (broker.logOf params.sessionId) := by
    rwa [logOf_eq live]
  rcases replay_exactly_iff consistent reaches numbered live with
    ⟨replayed, more, finished, grows, logged, exactly⟩
  rcases Prod.mk.inj performed with ⟨isFinal, isSent⟩
  have consistentNext := consistent.perform
    (.attach environment clientId params pendingInteractions)
  have attachedLast : ((broker.perform (.attach environment clientId params
      pendingInteractions)).1.performAll afterwards).1.IsAttached clientId params.sessionId := by
    rw [isFinal]
    exact attached
  rcases performAll_publishes consistentNext uneventful attachedLast with
    ⟨attachedNext, later, laterGrows, laterSent⟩
  rcases attach_replayed consistent live finished pendingInteractions attachedNext with
    ⟨sameLog, sameSent⟩
  have log : final.logOf params.sessionId =
      replayed.broker.logOf params.sessionId ++ later := by
    rw [← isFinal, laterGrows.log, ← sameLog]
    rfl
  have whole : Contiguous SessionEvent.seq
      (replayed.broker.logOf params.sessionId ++ later) := by
    rw [← log, ← isFinal]
    refine laterGrows.contiguous ?_
    have outcome : (broker.perform (.attach environment clientId params
        pendingInteractions)).1.logOf params.sessionId = _ := sameLog
    rw [outcome]
    exact grows.contiguous numbered
  rw [log, ← isSent, eventsFor_append, laterSent]
  have first : eventsFor clientId params.sessionId (broker.perform (.attach environment clientId
      params pendingInteractions)).2 = _ := sameSent
  rw [first, SentExactly.append_iff whole logged]
  exact exactly

def turnLogged : HostAppend := { sessionId := "s", type := "turn/start" }

/-- A client that connects to a session with one logged event. -/
def loggedOnce : List BrokerEvent := [.connect "a", .host {} (.append turnLogged)]

/-- The host appends while the snapshot is forwarded, and once more after the attach. -/
theorem attach_exactly_during :
    ∃ broker session final sent,
      Execution.run step (init oneSession .empty {}) loggedOnce = some broker ∧
      broker.sessions.get "s" = some session ∧
      broker.performAll [.attach { duringForward := [[turnLogged]] } "a"
        { sessionId := "s", mode := .read, sinceSeq := some (-1) } none,
        .host {} (.append turnLogged)] = (final, sent) ∧
      (eventsFor "a" "s" sent).map SessionEvent.seq = [0, 1, 2] ∧
      (SentExactly (-1) (final.logOf "s") (eventsFor "a" "s" sent) ↔
        ReplaysOnce { duringForward := [[turnLogged]] } broker "a"
          { sessionId := "s", mode := .read, sinceSeq := some (-1) }) := by
  refine ⟨_, _, _, _, rfl, rfl, rfl, rfl, ?_⟩
  refine attach_exactly_iff oneSession .empty {} loggedOnce _ rfl
    { duringForward := [[turnLogged]] } "a"
    { sessionId := "s", mode := .read, sinceSeq := some (-1) } none _ rfl (by decide)
    (fun _ => rfl) [.host {} (.append turnLogged)] ?_ _ _ rfl (by decide)
  intro event member
  rcases List.mem_singleton.mp member with rfl
  exact ⟨fun _ => rfl, rfl, rfl⟩

/-- An event appended between the subscription and the snapshot is sent out of the snapshot
and once more out of the buffer. -/
theorem attach_sends_twice :
    ∃ broker final sent,
      Execution.run step (init oneSession .empty {}) loggedOnce = some broker ∧
      broker.performAll [.attach { beforeSnapshot := [turnLogged] } "a"
        { sessionId := "s", mode := .read, sinceSeq := some (-1) } none] = (final, sent) ∧
      (eventsFor "a" "s" sent).map SessionEvent.seq = [0, 1, 1] ∧
      ¬SentExactly (-1) (final.logOf "s") (eventsFor "a" "s" sent) := by
  refine ⟨_, _, _, rfl, rfl, rfl, fun exactly => ?_⟩
  have ascending := exactly.ascending
  revert ascending
  decide

end SessionBroker

end DshRemote.Backend
