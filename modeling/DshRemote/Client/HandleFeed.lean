import DshRemote.Backend.AttachFeed
import DshRemote.Client.HandleRun

/-! # What a handle hands on

The event lines on the wire continue the log from where the handle, or the attach that
will make it, stands. The callbacks of a handle get the log from its attach on, without
a gap or a repetition, unless a line comes before there is a handle to take it. -/

namespace DshRemote.Client

open Backend

/-- The event of a session on a line. -/
def Line.eventOf (sessionId : SessionId) : Line → Option SessionEvent
  | .notification message => message.eventOf sessionId
  | .response => none

namespace HandleRun

def log (run : HandleRun) : List SessionEvent := run.broker.logOf run.sessionId

/-- The events of the session still on the wire. -/
def wireEvents (run : HandleRun) : List SessionEvent :=
  run.wire.filterMap (Line.eventOf run.sessionId)

/-- Where the wire is read from: behind the cursor of a live handle, behind what the
attach in flight covers, or the end of the log before it is answered. -/
def placeOf (handle : Option DaemonAgentHandle) (answer : Option (Option AttachAnswer))
    (length : Nat) : Option Nat :=
  match handle, answer with
  | some handle, _ => if handle.detached then none else some (handle.cursor + 1).toNat
  | none, some none => some length
  | none, some (some (.ok result)) => some (result.lastSeq + 1).toNat
  | none, some (some (.error _)) => none
  | none, none => none

def position (run : HandleRun) : Option Nat :=
  placeOf run.handle (run.call.map fun call => call.phase.answer) run.log.length

/-- Whether the channel's client is attached to the session. -/
def IsAttached (run : HandleRun) : Prop :=
  ∃ clientId, run.clientId = some clientId ∧ run.broker.IsAttached clientId run.sessionId

def IsConnected (run : HandleRun) : Prop :=
  ∃ clientId, run.clientId = some clientId ∧ clientId ∈ run.broker.connections

/-- Which call this is: the one that makes the handle, or one that resumes it. -/
structure CallFits (run : HandleRun) (call : AttachCall) : Prop where
  session : call.params.sessionId = run.sessionId
  creates : run.handle = none → call.purpose = .create ∧ call.params.sinceSeq = none
  resumes : ∀ handle, run.handle = some handle → call.purpose ≠ .create ∧
    handle.detached = false ∧ ∃ sinceSeq, call.params.sinceSeq = some sinceSeq ∧
      -1 ≤ sinceSeq ∧ sinceSeq ≤ handle.cursor

/-- What the backend and the client know of each other. -/
def Settled (run : HandleRun) : Option AttachAnswer → Prop
  | none => run.clientId.isSome ∧ ¬run.IsAttached
  | some (.ok result) => (-1 ≤ result.lastSeq ∧ result.lastSeq < run.log.length) ∧
      (run.IsConnected → run.IsAttached)
  | some (.error _) => ¬run.IsAttached

/-- The callbacks have been given the log from the attach to the cursor. -/
structure Reads (run : HandleRun) (handle : DaemonAgentHandle) : Prop where
  session : handle.sessionId = run.sessionId
  attachedAt : -1 ≤ run.attachedAt
  cursor : run.attachedAt ≤ handle.cursor
  inside : handle.cursor < run.log.length
  received : run.received =
    slice run.log (run.attachedAt + 1).toNat (handle.cursor + 1).toNat

theorem isAttached_iff {run : HandleRun} {clientId : ClientId}
    (up : run.clientId = some clientId) :
    run.IsAttached ↔ run.broker.IsAttached clientId run.sessionId := by
  simp [IsAttached, up]

theorem isConnected_iff {run : HandleRun} {clientId : ClientId}
    (up : run.clientId = some clientId) :
    run.IsConnected ↔ clientId ∈ run.broker.connections := by
  simp [IsConnected, up]

structure Sound (run : HandleRun) : Prop where
  consistent : SessionBroker.Consistent run.broker
  contiguous : Contiguous SessionEvent.seq run.log
  call : ∀ call, run.call = some call → run.CallFits call ∧ run.Settled call.phase.answer
  idle : run.call = none → ∀ handle, run.handle = some handle → handle.detached = false →
    run.IsConnected → run.IsAttached
  reads : ∀ handle, run.handle = some handle → run.Reads handle
  unread : run.handle = none → run.received = []
  wire : run.clientId.isSome → ∀ place, run.position = some place →
    ∃ last, last ≤ run.log.length ∧ Feeds run.log place run.wireEvents last ∧
      (run.IsAttached → last = run.log.length)

/-! ## The backend's side -/

theorem wireEvents_append (run : HandleRun) (clientId : ClientId) (sent : List Sent) :
    ((run.wire ++ (notificationsTo clientId sent).map Line.notification).filterMap
      (Line.eventOf run.sessionId)) =
        run.wireEvents ++ eventsFor clientId run.sessionId sent := by
  simp [wireEvents, eventsFor, List.filterMap_map, Function.comp_def, Line.eventOf]

theorem Reads.grow {run next : HandleRun} {handle : DaemonAgentHandle}
    (reads : run.Reads handle) {more : List SessionEvent} (log : next.log = run.log ++ more)
    (sessionId : next.sessionId = run.sessionId) (attachedAt : next.attachedAt = run.attachedAt)
    (received : next.received = run.received) : next.Reads handle where
  session := reads.session.trans sessionId.symm
  attachedAt := attachedAt ▸ reads.attachedAt
  cursor := attachedAt ▸ reads.cursor
  inside := by
    have inside := reads.inside
    rw [log, List.length_append]
    omega
  received := by
    have inside := reads.inside
    rw [received, attachedAt, log, slice_grow _ _ (by omega), reads.received]

theorem Reads.same {run next : HandleRun} {handle : DaemonAgentHandle}
    (reads : run.Reads handle) (log : next.log = run.log)
    (sessionId : next.sessionId = run.sessionId) (attachedAt : next.attachedAt = run.attachedAt)
    (received : next.received = run.received) : next.Reads handle :=
  reads.grow (log.trans (List.append_nil _).symm) sessionId attachedAt received

theorem position_grow {run next : HandleRun} (handle : next.handle = run.handle)
    (call : next.call = run.call) :
    next.position = run.position ∨
      run.position = some run.log.length ∧ next.position = some next.log.length ∧
        ∃ call, run.call = some call ∧ call.phase.answer = none := by
  simp only [position, handle, call]
  cases run.handle with
  | some current => exact Or.inl rfl
  | none =>
      cases run.call with
      | none => exact Or.inl rfl
      | some pending =>
          simp only [Option.map_some]
          cases unanswered : pending.phase.answer with
          | none => exact Or.inr ⟨rfl, rfl, pending, rfl, unanswered⟩
          | some answer => cases answer <;> exact Or.inl rfl

theorem Sound.grow {run next : HandleRun} (sound : run.Sound)
    {more : List SessionEvent} (consistent : SessionBroker.Consistent next.broker)
    (grows : SessionBroker.Grows run.sessionId run.broker more next.broker)
    (same : next = { run with broker := next.broker, wire := next.wire })
    (fed : next.clientId.isSome → (run.IsAttached → next.wireEvents = run.wireEvents ++ more) ∧
      (¬run.IsAttached → next.wireEvents = run.wireEvents))
    (attachedIff : next.IsAttached ↔ run.IsAttached ∧ next.IsConnected)
    (connected : next.IsConnected → run.IsConnected) : next.Sound := by
  have sessionId : next.sessionId = run.sessionId := by rw [same]
  have clientId : next.clientId = run.clientId := by rw [same]
  have call : next.call = run.call := by rw [same]
  have handle : next.handle = run.handle := by rw [same]
  have attachedAt : next.attachedAt = run.attachedAt := by rw [same]
  have received : next.received = run.received := by rw [same]
  have log : next.log = run.log ++ more := by
    simp only [HandleRun.log, sessionId]
    exact grows.log
  have longer : run.log.length ≤ next.log.length := by simp [log]
  have stays : (run.IsConnected → run.IsAttached) → next.IsConnected → next.IsAttached :=
    fun settled isConnected =>
      attachedIff.mpr ⟨settled (connected isConnected), isConnected⟩
  constructor
  · exact consistent
  · simp only [HandleRun.log, sessionId]
    exact grows.contiguous sound.contiguous
  · intro pending isPending
    rcases sound.call pending (call ▸ isPending) with ⟨fits, settled⟩
    refine ⟨⟨sessionId ▸ fits.session, fun none => fits.creates (handle ▸ none),
      fun current found => fits.resumes current (handle ▸ found)⟩, ?_⟩
    match pending.phase.answer, settled with
    | none, settled =>
        exact ⟨clientId ▸ settled.1, fun isAttached => settled.2 (attachedIff.mp isAttached).1⟩
    | some (.ok result), settled =>
        exact ⟨⟨settled.1.1, by have below := settled.1.2; omega⟩, stays settled.2⟩
    | some (.error failure), settled =>
        exact fun isAttached => settled (attachedIff.mp isAttached).1
  · intro idle current found live
    exact stays (sound.idle (call ▸ idle) current (handle ▸ found) live)
  · intro current found
    exact (sound.reads current (handle ▸ found)).grow log sessionId attachedAt received
  · intro none
    rw [received]
    exact sound.unread (handle ▸ none)
  · intro up place isPlace
    have fedNow := fed up
    rw [clientId] at up
    rcases position_grow handle call with unmoved | ⟨before, after, pending, isPending, open_⟩
    · rcases sound.wire up place (unmoved ▸ isPlace) with ⟨last, inside, feeds, atEnd⟩
      by_cases isAttached : run.IsAttached
      · have whole := (feeds.grow more)
        rw [atEnd isAttached] at whole
        refine ⟨next.log.length, Nat.le_refl _, ?_, fun _ => rfl⟩
        rw [fedNow.1 isAttached, log]
        exact whole.append (Feeds.appended run.log more)
      · refine ⟨last, Nat.le_trans inside longer, ?_, fun now =>
          absurd (attachedIff.mp now).1 isAttached⟩
        rw [fedNow.2 isAttached, log]
        exact feeds.grow more
    · -- The attach is not served yet: whatever is on the wire lies behind it.
      have settled := (sound.call pending isPending).2
      rw [open_] at settled
      rw [after] at isPlace
      cases isPlace
      rcases sound.wire up _ before with ⟨last, inside, feeds, _⟩
      refine ⟨next.log.length, Nat.le_refl _, ?_, fun _ => rfl⟩
      have raised := (feeds.grow more).raise (log ▸ longer)
      rw [Nat.max_eq_left (by rw [← log]; omega), ← log] at raised
      rwa [fedNow.2 settled.2]

theorem Sound.backend {run next : HandleRun} (sound : run.Sound) {event : BrokerEvent}
    (stepped : run.step (.backend event) = some next) : next.Sound := by
  simp only [step] at stepped
  split at stepped
  · next keeps =>
      split at stepped
      · next down =>
          cases stepped
          rcases SessionBroker.perform_publishes sound.consistent keeps with ⟨more, grows, _⟩
          refine sound.grow (sound.consistent.perform event) grows rfl ?_ ?_ ?_
          · intro up
            simp [down] at up
          · simp [IsAttached, down]
          · simp [IsConnected, down]
      · next clientId up =>
          split at stepped
          · cases stepped
          · next foreign =>
              cases stepped
              rw [Bool.not_eq_true, ← BrokerEvent.concerns_reaching] at foreign
              rcases SessionBroker.perform_publishes sound.consistent
                ((event.keepsSession_reaching clientId run.sessionId).trans keeps) with
                ⟨more, grows, fed⟩
              have written := fed clientId (event.reaches_reaching clientId) foreign
              refine sound.grow (sound.consistent.perform _) grows (by rw [up]) ?_ ?_ ?_
              · intro _
                have events := run.wireEvents_append clientId
                  (run.broker.perform (event.reaching clientId)).2
                rw [written] at events
                simp only [isAttached_iff up]
                constructor
                · intro isAttached
                  rwa [if_pos isAttached] at events
                · intro detached
                  rwa [if_neg detached, List.append_nil] at events
              · rw [isAttached_iff up]
                refine (isAttached_iff (by exact up)).trans ?_
                refine (SessionBroker.isAttached_perform sound.consistent foreign).trans ?_
                exact and_congr_right fun _ => Iff.symm (by exact isConnected_iff up)
              · intro stays
                have member := (isConnected_iff (by exact up)).mp stays
                rw [isConnected_iff up]
                exact SessionBroker.connected_perform foreign member
  · cases stepped

/-! ## The call -/

theorem Sound.cursorWithin {run : HandleRun} (sound : run.Sound) {call : AttachCall}
    (fits : run.CallFits call) : SessionBroker.CursorWithin call.params.sinceSeq run.log := by
  intro cursor isCursor
  cases handle : run.handle with
  | none =>
      rw [(fits.creates handle).2] at isCursor
      cases isCursor
  | some current =>
      rcases fits.resumes current handle with ⟨_, _, sinceSeq, isSince, lower, upper⟩
      cases isCursor.symm.trans isSince
      exact ⟨lower, Int.lt_of_le_of_lt upper (sound.reads current handle).inside⟩

theorem settled_of_attach {run : HandleRun} {clientId : ClientId}
    {result : Except Thrown SessionAttachResult} (up : run.clientId = some clientId)
    (lastSeq : ∀ answer, result = .ok answer → answer.lastSeq + 1 = run.log.length)
    (attachedIff : run.broker.IsAttached clientId run.sessionId ↔ ∃ answer, result = .ok answer) :
    run.Settled (some (answerOf result)) := by
  cases result with
  | ok answer =>
      have last := lastSeq answer rfl
      refine ⟨by omega, fun _ => (isAttached_iff up).mpr (attachedIff.mpr ⟨answer, rfl⟩)⟩
  | error thrown =>
      have detached : ¬run.IsAttached := by
        rw [isAttached_iff up, attachedIff]
        rintro ⟨answer, failed⟩
        cases failed
      cases thrown <;> exact detached

/-- The backend has served the request: it sent the log from the asked place on, and its
answer tells whether the client is attached now. -/
theorem Sound.answered {run next : HandleRun} (sound : run.Sound) {clientId : ClientId}
    {purpose : AttachPurpose} {params : SessionAttachParams}
    {result : Except Thrown SessionAttachResult} {more fed : List SessionEvent}
    (up : run.clientId = some clientId) (isCall : run.call = some ⟨purpose, params, .requested⟩)
    (consistent : SessionBroker.Consistent next.broker)
    (grows : SessionBroker.Grows run.sessionId run.broker more next.broker)
    (same : next = { run with
      broker := next.broker
      wire := next.wire
      call := some ⟨purpose, params, .served (answerOf result)⟩ })
    (wire : next.wireEvents = run.wireEvents ++ fed)
    (feeds : ∃ last, last ≤ next.log.length ∧
      Feeds next.log (SessionBroker.resumeFrom params.sinceSeq next.log) fed last ∧
      (next.broker.IsAttached clientId run.sessionId → last = next.log.length))
    (lastSeq : ∀ answer, result = .ok answer → answer.lastSeq + 1 = next.log.length)
    (attachedIff : next.broker.IsAttached clientId run.sessionId ↔
      ∃ answer, result = .ok answer) : next.Sound := by
  have sessionId : next.sessionId = run.sessionId := by rw [same]
  have upNow : next.clientId = some clientId := by rw [same]; exact up
  have call : next.call = some ⟨purpose, params, .served (answerOf result)⟩ := by rw [same]
  have handle : next.handle = run.handle := by rw [same]
  have attachedAt : next.attachedAt = run.attachedAt := by rw [same]
  have received : next.received = run.received := by rw [same]
  have log : next.log = run.log ++ more := by
    simp only [HandleRun.log, sessionId]
    exact grows.log
  rcases sound.call _ isCall with ⟨fits, settled⟩
  rcases feeds with ⟨gained, below, fedFrom, whole⟩
  rw [← sessionId] at attachedIff whole
  constructor
  · exact consistent
  · simp only [HandleRun.log, sessionId]
    exact grows.contiguous sound.contiguous
  · intro current isCurrent
    cases call.symm.trans isCurrent
    exact ⟨⟨sessionId ▸ fits.session, fun none => fits.creates (handle ▸ none),
      fun current found => fits.resumes current (handle ▸ found)⟩,
      settled_of_attach upNow lastSeq attachedIff⟩
  · intro idle
    cases call.symm.trans idle
  · intro current found
    exact (sound.reads current (handle ▸ found)).grow log sessionId attachedAt received
  · intro none
    rw [received]
    exact sound.unread (handle ▸ none)
  · intro _ place isPlace
    rw [wire]
    simp only [position, call, handle] at isPlace
    cases isHandle : run.handle with
    | none =>
        -- The handle will be made from this answer: everything sent so far lies behind it.
        have before : run.position = some run.log.length := by
          rw [position, isHandle, isCall]
          rfl
        rcases sound.wire (by simp [up]) _ before with ⟨last, inside, behind, _⟩
        cases result with
        | error thrown => cases thrown <;> simp [isHandle, answerOf, AttachPhase.answer, placeOf] at isPlace
        | ok answer =>
            have atEnd := lastSeq answer rfl
            simp only [isHandle, answerOf, AttachPhase.answer, placeOf, Option.map_some,
              Option.some.injEq] at isPlace
            have isEnd : place = next.log.length := by omega
            subst isEnd
            rw [(fits.creates isHandle).2] at fedFrom
            have longer : run.log.length ≤ next.log.length := by simp [log]
            have raised := (behind.grow more).raise longer
            rw [← log, Nat.max_eq_left (Nat.le_trans inside longer)] at raised
            refine ⟨next.log.length, Nat.le_refl _, ?_, fun _ => rfl⟩
            rw [Nat.le_antisymm below fedFrom.advances] at fedFrom
            exact raised.append fedFrom
    | some current =>
        -- The handle asks from its cursor, which the wire has passed already.
        rcases fits.resumes current isHandle with ⟨_, live, cursor, isSince, lower, upper⟩
        simp only [isHandle, placeOf, live, Bool.false_eq_true, if_false] at isPlace
        have before : run.position = some place := by
          simp only [position, isHandle, placeOf, live, Bool.false_eq_true, if_false]
          exact isPlace
        cases isPlace
        rcases sound.wire (by simp [up]) _ before with ⟨last, inside, feeds, _⟩
        have reached := feeds.advances
        rw [isSince] at fedFrom
        have raised := fedFrom.raise (show (cursor + 1).toNat ≤ last by omega)
        have longer : run.log.length ≤ next.log.length := by simp [log]
        refine ⟨max last gained, by omega, ?_, ?_⟩
        · rw [log] at raised ⊢
          exact (feeds.grow more).append raised
        · intro isAttached
          rw [isAttached_iff upNow] at isAttached
          rw [whole isAttached]
          omega

theorem Sound.served {run next : HandleRun} (sound : run.Sound) {environment : AttachEnvironment}
    {pendingInteractions : Option (List PendingInteraction)}
    (stepped : run.step (.served environment pendingInteractions) = some next) : next.Sound := by
  simp only [step] at stepped
  split at stepped
  · next clientId purpose params up isCall =>
      rcases sound.call _ isCall with ⟨fits, settled⟩
      have session : params.sessionId = run.sessionId := fits.session
      have within := sound.cursorWithin fits
      have detached : ¬run.broker.IsAttached clientId run.sessionId :=
        fun isAttached => settled.2 ((isAttached_iff up).mpr isAttached)
      have feeds : SessionBroker.AttachFeeds clientId params run.broker _ :=
        SessionBroker.attach_feeds sound.consistent (environment.reaches_reaching clientId)
          (session ▸ detached) (session ▸ sound.contiguous) (session ▸ within)
          pendingInteractions
      have consistent := sound.consistent.attach (environment.reaching clientId) clientId params
        pendingInteractions
      have events := run.wireEvents_append clientId (run.broker.attach
        (environment.reaching clientId) clientId params pendingInteractions).sent
      generalize run.broker.attach (environment.reaching clientId) clientId params
        pendingInteractions = outcome at stepped feeds consistent events
      rcases feeds with ⟨⟨more, grows⟩, ⟨gained, below, fed, whole⟩, lastSeq, attachedIff⟩
      rw [session] at grows below fed whole lastSeq attachedIff
      cases stepped
      refine sound.answered up isCall consistent grows rfl events
        ⟨gained, below, fed, whole⟩ lastSeq attachedIff
  · cases stepped

theorem Sound.phase {run next : HandleRun} (sound : run.Sound) {call : AttachCall}
    {phase : AttachPhase} (isCall : run.call = some call)
    (answer : phase.answer = call.phase.answer)
    (same : next = { run with wire := next.wire, call := some { call with phase := phase } })
    (events : next.wireEvents = run.wireEvents) : next.Sound := by
  rcases sound.call _ isCall with ⟨fits, settled⟩
  have callNow : next.call = some { call with phase := phase } := by rw [same]
  have position : next.position = run.position := by
    rw [same, HandleRun.position, HandleRun.position, isCall]
    simp only [Option.map_some, answer]
    rfl
  have log : next.log = run.log := by rw [same]; rfl
  have attached : next.IsAttached ↔ run.IsAttached := by rw [same]; rfl
  constructor
  · rw [same]
    exact sound.consistent
  · rw [log]
    exact sound.contiguous
  · intro current isCurrent
    cases callNow.symm.trans isCurrent
    rw [same, answer]
    exact ⟨⟨fits.session, fits.creates, fits.resumes⟩, settled⟩
  · intro idle
    cases callNow.symm.trans idle
  · intro handle found
    rw [same] at found ⊢
    exact (sound.reads handle found).same rfl rfl rfl rfl
  · rw [same]
    exact sound.unread
  · rw [events, position, log, attached, same]
    exact sound.wire

theorem Sound.written {run next : HandleRun} (sound : run.Sound)
    (stepped : run.step .written = some next) : next.Sound := by
  simp only [step] at stepped
  split at stepped
  · next clientId purpose params answer up isCall =>
      cases stepped
      have events : HandleRun.wireEvents { run with
          wire := run.wire ++ [.response]
          call := some ⟨purpose, params, .written answer⟩ } = run.wireEvents := by
        simp [wireEvents, Line.eventOf]
      exact @Sound.phase _ _ sound _ (.written answer) isCall rfl rfl events
  · cases stepped

/-! ## The client's side -/

theorem Sound.taken {run next : HandleRun} (sound : run.Sound)
    (same : next = { run with
      wire := next.wire, handle := next.handle, received := next.received })
    (moves : run.handle = none ∧ next.handle = none ∧ next.received = run.received ∨
      ∃ handle moved, run.handle = some handle ∧ next.handle = some moved ∧
        moved.detached = handle.detached ∧ handle.cursor ≤ moved.cursor ∧ next.Reads moved)
    (wire : next.clientId.isSome → ∀ place, next.position = some place →
      ∃ last, last ≤ next.log.length ∧ Feeds next.log place next.wireEvents last ∧
        (next.IsAttached → last = next.log.length)) : next.Sound := by
  have log : next.log = run.log := by rw [same]; rfl
  have attached : next.IsAttached ↔ run.IsAttached := by rw [same]; rfl
  have connected : next.IsConnected ↔ run.IsConnected := by rw [same]; rfl
  have callSame : next.call = run.call := by rw [same]
  have fromBefore : ∀ moved, next.handle = some moved → ∃ handle, run.handle = some handle ∧
      moved.detached = handle.detached ∧ handle.cursor ≤ moved.cursor ∧ next.Reads moved := by
    intro moved found
    rcases moves with ⟨_, none, _⟩ | ⟨handle, other, before, after, facts⟩
    · cases none.symm.trans found
    · cases after.symm.trans found
      exact ⟨handle, before, facts⟩
  constructor
  · rw [same]
    exact sound.consistent
  · rw [log]
    exact sound.contiguous
  · intro call isCall
    rcases sound.call call (callSame ▸ isCall) with ⟨fits, settled⟩
    refine ⟨⟨?_, ?_, ?_⟩, ?_⟩
    · rw [same]
      exact fits.session
    · intro isNone
      rcases moves with ⟨none, _, _⟩ | ⟨_, _, _, after, _⟩
      · exact fits.creates none
      · cases isNone.symm.trans after
    · intro moved found
      rcases fromBefore moved found with ⟨handle, before, detached, cursor, _⟩
      rcases fits.resumes handle before with ⟨purpose, live, sinceSeq, isSince, lower, upper⟩
      exact ⟨purpose, detached.trans live, sinceSeq, isSince, lower, Int.le_trans upper cursor⟩
    · match call.phase.answer, settled with
      | none, settled => exact ⟨by rw [same]; exact settled.1, attached.not.mpr settled.2⟩
      | some (.ok result), settled =>
          rw [Settled, attached, connected, log]
          exact settled
      | some (.error failure), settled => exact attached.not.mpr settled
  · intro idle moved found live
    rcases fromBefore moved found with ⟨handle, before, detached, _⟩
    rw [attached, connected]
    exact sound.idle (callSame ▸ idle) handle before (detached.symm.trans live)
  · intro moved found
    exact (fromBefore moved found).choose_spec.2.2.2
  · intro isNone
    rcases moves with ⟨none, _, received⟩ | ⟨_, _, _, after, _⟩
    · exact received.trans (sound.unread none)
    · cases isNone.symm.trans after
  · exact wire

theorem Sound.quiet {run next : HandleRun} (sound : run.Sound)
    {change : DaemonAgentHandle → DaemonAgentHandle}
    (keeps : ∀ handle, (change handle).sessionId = handle.sessionId ∧
      (change handle).detached = handle.detached ∧ (change handle).cursor = handle.cursor)
    (same : next = { run with wire := next.wire, handle := run.handle.map change })
    (events : next.wireEvents = run.wireEvents) : next.Sound := by
  have handle : next.handle = run.handle.map change := by rw [same]
  have position : next.position = run.position := by
    rw [HandleRun.position, HandleRun.position, handle]
    cases run.handle with
    | none => rw [same]; rfl
    | some current => simp [placeOf, keeps current]
  refine sound.taken (by rw [same]) ?_ ?_
  · cases before : run.handle with
    | none => exact Or.inl ⟨rfl, by rw [handle, before]; rfl, by rw [same]⟩
    | some current =>
        rcases keeps current with ⟨session, detached, cursor⟩
        have reads := sound.reads current before
        refine Or.inr ⟨current, change current, rfl, by rw [handle, before]; rfl, detached,
          Int.le_of_eq cursor.symm, ?_⟩
        rw [same]
        exact ⟨session.trans reads.session, reads.attachedAt, by rw [cursor]; exact reads.cursor,
          by rw [cursor]; exact reads.inside, by rw [cursor]; exact reads.received⟩
  · rw [position, events]
    have attached : next.IsAttached ↔ run.IsAttached := by rw [same]; rfl
    have log : next.log = run.log := by rw [same]; rfl
    rw [attached, log]
    intro up
    exact sound.wire (by rw [same] at up; exact up)

/-- An event that nobody waits for lies before the place the wire is read from. -/
theorem behind_of_taken {run : HandleRun} {event : SessionEvent} (none : run.handle = none)
    (taken : run.missesLine (.notification (.sessionEvent run.sessionId event)) = false)
    (found : run.log[event.seq]? = some event) {place : Nat}
    (isPlace : run.position = some place) : event.seq < place := by
  rcases List.getElem?_eq_some_iff.mp found with ⟨inside, _⟩
  cases isCall : run.call with
  | none => simp [position, none, isCall, placeOf] at isPlace
  | some call =>
      rw [position, none, isCall] at isPlace
      simp only [missesLine, announced, none, isCall] at taken
      cases answer : call.phase.answer with
      | none =>
          rw [Option.map_some, answer] at isPlace
          cases isPlace
          exact inside
      | some given =>
          rw [Option.map_some, answer] at isPlace
          cases given with
          | error failure => cases isPlace
          | ok result =>
              cases isPlace
              have covered : ¬result.lastSeq < event.seq := by simpa [answer] using taken
              omega

theorem Sound.unheard {run : HandleRun} (sound : run.Sound) {message : Notification}
    {event : SessionEvent} {rest : List Line} (none : run.handle = none)
    (head : run.wire = .notification message :: rest)
    (taken : run.missesLine (.notification message) = false)
    (isEvent : message.eventOf run.sessionId = some event) :
    HandleRun.Sound { run with wire := rest } := by
  have isMessage : message = .sessionEvent run.sessionId event := by
    cases message with
    | sessionEvent session carried =>
        simp only [Notification.eventOf] at isEvent
        split at isEvent
        · next here =>
            cases isEvent
            rw [here]
        · cases isEvent
    | sessionStatus | sessionControlChanged | approvalRequest | approvalClosed
    | questionRequest | questionClosed => cases isEvent
  subst isMessage
  have events : run.wireEvents = event :: rest.filterMap (Line.eventOf run.sessionId) := by
    rw [wireEvents, head, List.filterMap_cons]
    simp [Line.eventOf, Notification.eventOf]
  refine sound.taken rfl (Or.inl ⟨none, none, rfl⟩) ?_
  intro up place isPlace
  rcases sound.wire up place isPlace with ⟨last, inside, feeds, atEnd⟩
  rw [events] at feeds
  have found := (feeds.next sound.contiguous).1
  exact ⟨last, inside, feeds.skip sound.contiguous (behind_of_taken none taken found isPlace),
    atEnd⟩

theorem Sound.handed {run : HandleRun} (sound : run.Sound) (up : run.clientId.isSome)
    {handle : DaemonAgentHandle} {event : SessionEvent} {rest : List Line} (isHandle : run.handle = some handle)
    (head : run.wire = .notification (.sessionEvent run.sessionId event) :: rest) :
    HandleRun.Sound { run with
      wire := rest
      handle := some (handle.handleEvent event).1
      received := run.received ++ (handle.handleEvent event).2.toList } := by
  have events : run.wireEvents = event :: rest.filterMap (Line.eventOf run.sessionId) := by
    rw [wireEvents, head, List.filterMap_cons]
    simp [Line.eventOf, Notification.eventOf]
  have reads := sound.reads handle isHandle
  by_cases stale : handle.detached = true ∨ (event.seq : Int) ≤ handle.cursor
  · have dropped : handle.handleEvent event = (handle, none) := by
      simp only [DaemonAgentHandle.handleEvent]
      rw [if_pos stale]
    rw [dropped]
    refine sound.taken rfl (Or.inr ⟨handle, handle, isHandle, rfl, rfl, Int.le_refl _,
      reads.same rfl rfl rfl (List.append_nil _)⟩) ?_
    intro _ place isPlace
    have before : run.position = some place := by
      rw [position, isHandle]
      exact isPlace
    rcases sound.wire up place before with ⟨last, inside, feeds, atEnd⟩
    rw [events] at feeds
    refine ⟨last, inside, feeds.skip sound.contiguous ?_, atEnd⟩
    cases live : handle.detached with
    | true => simp [position, placeOf, live] at isPlace
    | false =>
        have seen : (event.seq : Int) ≤ handle.cursor := by simpa [live] using stale
        simp only [position, placeOf, live, Bool.false_eq_true, if_false,
          Option.some.injEq] at isPlace
        omega
  · have accepted : handle.handleEvent event =
        ({ handle with cursor := event.seq }, some event) := by
      simp only [DaemonAgentHandle.handleEvent]
      rw [if_neg stale]
    rw [not_or, Bool.not_eq_true] at stale
    rcases stale with ⟨live, fresh⟩
    rw [accepted]
    have before : run.position = some (handle.cursor + 1).toNat := by
      rw [position, isHandle]
      simp [placeOf, live]
    have lower := reads.attachedAt
    have ordered := reads.cursor
    rcases sound.wire up _ before with ⟨last, inside, feeds, atEnd⟩
    rw [events] at feeds
    rcases feeds.take sound.contiguous (by omega) with ⟨isNext, found, later⟩
    have within := (List.getElem?_eq_some_iff.mp found).1
    have following : (event.seq : Int) = handle.cursor + 1 := by omega
    have read : run.received ++ [event] =
        slice run.log (run.attachedAt + 1).toNat ((event.seq : Int) + 1).toNat := by
      rw [reads.received, show ((event.seq : Int) + 1).toNat = (handle.cursor + 1).toNat + 1
        by omega]
      exact (slice_succ (by omega) found).symm
    have insideNow : (event.seq : Int) < run.log.length := by omega
    have passed : run.attachedAt ≤ (event.seq : Int) := by omega
    have moves : handle.cursor ≤ (event.seq : Int) := by omega
    refine sound.taken rfl (Or.inr ⟨handle, _, isHandle, rfl, rfl, moves,
      ⟨reads.session, lower, passed, insideNow, read⟩⟩) ?_
    intro _ place isPlace
    simp only [position, placeOf, live, Bool.false_eq_true, if_false,
      Option.some.injEq] at isPlace
    have isLater : place = (handle.cursor + 1).toNat + 1 := by omega
    subst isLater
    exact ⟨last, inside, later, atEnd⟩

/-- The client handles one line, which no missing handle makes it lose. -/
theorem Sound.handleLine {run : HandleRun} (sound : run.Sound) (up : run.clientId.isSome)
    {line : Line} {rest : List Line} (head : run.wire = line :: rest) (taken : run.missesLine line = false) :
    ({ run with wire := rest }.handleLine line).Sound := by
  have events : run.wireEvents =
      (line.eventOf run.sessionId).toList ++ rest.filterMap (Line.eventOf run.sessionId) := by
    rw [wireEvents, head, List.filterMap_cons]
    cases line.eventOf run.sessionId <;> rfl
  have unmoved : line.eventOf run.sessionId = none →
      HandleRun.Sound { run with wire := rest } := by
    intro none
    rw [none] at events
    exact @Sound.quiet _ _ sound id (fun _ => ⟨rfl, rfl, rfl⟩) (by simp) events.symm
  cases line with
  | response =>
      simp only [HandleRun.handleLine]
      split
      · next purpose params answer isCall =>
          exact @Sound.phase _ _ sound _ (.answered answer) isCall rfl rfl events.symm
      · exact unmoved rfl
  | notification message =>
      simp only [HandleRun.handleLine]
      split
      · next none =>
          cases isEvent : message.eventOf run.sessionId with
          | none => exact unmoved isEvent
          | some event => exact sound.unheard none head taken isEvent
      · next handle isHandle =>
          split
          · next session event =>
              split
              · next here =>
                  subst here
                  exact sound.handed up isHandle head
              · next elsewhere =>
                  exact unmoved (by simp [Line.eventOf, Notification.eventOf, elsewhere])
          · next session holder reason =>
              split
              · refine @Sound.quiet _ _ sound (fun handle =>
                  handle.handleControl (run.clientId.getD "") holder reason) ?_ ?_ events.symm
                · exact fun handle => ⟨by simp, by simp, by simp⟩
                · simp [isHandle]
              · exact unmoved rfl
          · next notEvent _ =>
              refine unmoved ?_
              cases message with
              | sessionEvent session event => exact absurd rfl (notEvent session event)
              | sessionStatus | sessionControlChanged | approvalRequest | approvalClosed
              | questionRequest | questionClosed => rfl

theorem clientId_handleLine (run : HandleRun) (line : Line) :
    (run.handleLine line).clientId = run.clientId := by
  cases line with
  | response =>
      simp only [handleLine]
      split <;> rfl
  | notification message =>
      simp only [handleLine]
      repeat' split
      all_goals rfl

/-- Handling a line neither makes a handle nor answers the call anew. -/
theorem missesLine_handleLine (run : HandleRun) (line : Line) :
    (run.handleLine line).missesLine = run.missesLine := by
  have same : (run.handleLine line).announced = run.announced ∧
      (run.handleLine line).sessionId = run.sessionId := by
    cases line with
    | response =>
        simp only [handleLine]
        split
        · next purpose params answer isCall =>
            refine ⟨?_, rfl⟩
            simp only [announced, isCall]
            cases run.handle <;> rfl
        · exact ⟨rfl, rfl⟩
    | notification message =>
        simp only [handleLine]
        split
        · exact ⟨rfl, rfl⟩
        · next handle isHandle =>
            repeat' split
            all_goals simp [announced, isHandle]
  funext other
  simp only [missesLine, same]

theorem wire_handleLine (run : HandleRun) (line : Line) :
    (run.handleLine line).wire = run.wire := by
  cases line with
  | response =>
      simp only [handleLine]
      split <;> rfl
  | notification message =>
      simp only [handleLine]
      repeat' split
      all_goals rfl

theorem Sound.deliver {run : HandleRun} (sound : run.Sound) (up : run.clientId.isSome)
    (count : Nat) (taken : (run.wire.take count).any run.missesLine = false) :
    (run.deliver count).Sound := by
  induction count generalizing run with
  | zero => exact sound
  | succ count induction =>
      simp only [HandleRun.deliver]
      split
      · exact sound
      · next line rest head =>
          rw [head, List.take_succ_cons, List.any_cons, Bool.or_eq_false_iff] at taken
          apply induction (sound.handleLine up head taken.1)
          · rwa [clientId_handleLine]
          · rw [wire_handleLine, missesLine_handleLine]
            exact taken.2

/-! ## The continuation, and the channel -/

theorem cursor_onReattachFailed (handle : DaemonAgentHandle) :
    handle.onReattachFailed.cursor = handle.cursor := by
  simp only [DaemonAgentHandle.onReattachFailed]
  split <;> rfl

theorem Sound.ended {run next : HandleRun} (sound : run.Sound)
    {change : DaemonAgentHandle → DaemonAgentHandle}
    (keeps : ∀ handle, (change handle).sessionId = handle.sessionId ∧
      (change handle).cursor = handle.cursor)
    (same : next = { run with call := none, handle := run.handle.map change })
    (live : ∀ handle, run.handle = some handle → (change handle).detached = false →
      handle.detached = false ∧ (run.IsConnected → run.IsAttached)) : next.Sound := by
  have handle : next.handle = run.handle.map change := by rw [same]
  have fromBefore : ∀ moved, next.handle = some moved →
      ∃ current, run.handle = some current ∧ change current = moved := by
    intro moved found
    exact Option.map_eq_some_iff.mp (handle.symm.trans found)
  have attached : next.IsAttached ↔ run.IsAttached := by rw [same]; rfl
  have connected : next.IsConnected ↔ run.IsConnected := by rw [same]; rfl
  constructor
  · rw [same]
    exact sound.consistent
  · rw [same]
    exact sound.contiguous
  · intro call isCall
    rw [same] at isCall
    cases isCall
  · intro _ moved found isLive
    rcases fromBefore moved found with ⟨current, isCurrent, rfl⟩
    rw [attached, connected]
    exact (live current isCurrent isLive).2
  · intro moved found
    rcases fromBefore moved found with ⟨current, isCurrent, rfl⟩
    have reads := sound.reads current isCurrent
    rcases keeps current with ⟨session, cursor⟩
    rw [same]
    exact ⟨session.trans reads.session, reads.attachedAt, by rw [cursor]; exact reads.cursor,
      by rw [cursor]; exact reads.inside, by rw [cursor]; exact reads.received⟩
  · intro isNone
    rw [same]
    exact sound.unread (Option.map_eq_none_iff.mp (handle.symm.trans isNone))
  · intro up place isPlace
    have before : run.position = some place := by
      rw [position, handle] at isPlace
      cases isHandle : run.handle with
      | none =>
          rw [isHandle, same] at isPlace
          cases isPlace
      | some current =>
          rw [isHandle, Option.map_some, placeOf] at isPlace
          split at isPlace
          · cases isPlace
          · next isLive =>
              rw [Bool.not_eq_true] at isLive
              rw [position, isHandle, placeOf, (live current isHandle isLive).1,
                ← (keeps current).2]
              exact isPlace
    rw [attached]
    rw [same] at up ⊢
    exact sound.wire up place before

theorem Sound.made {run : HandleRun} (sound : run.Sound) {params : SessionAttachParams}
    {result : SessionAttachResult} {mode : AttachMode} (absent : run.handle = none)
    (isCall : run.call = some ⟨.create, params, .answered (.ok result)⟩) :
    HandleRun.Sound { run with
      call := none
      handle := some { sessionId := run.sessionId, mode := mode, cursor := result.lastSeq }
      attachedAt := result.lastSeq } := by
  have settled := (sound.call _ isCall).2
  constructor
  · exact sound.consistent
  · exact sound.contiguous
  · intro call pending
    cases pending
  · intro _ handle _ _
    exact settled.2
  · intro handle found
    cases found
    exact ⟨rfl, settled.1.1, Int.le_refl _, settled.1.2,
      (sound.unread absent).trans (slice_self _ _).symm⟩
  · intro gone
    cases gone
  · intro up place isPlace
    refine sound.wire up place ?_
    rw [position, absent, isCall]
    exact isPlace

/-- The refused write attach is tried again as a read attach. -/
theorem Sound.again {run : HandleRun} (sound : run.Sound) {params degraded : SessionAttachParams}
    {failure : CallFailure} (isCall : run.call = some ⟨.reattach, params, .answered (.error failure)⟩)
    (session : degraded.sessionId = params.sessionId)
    (sinceSeq : degraded.sinceSeq = params.sinceSeq) :
    HandleRun.Sound { run with call := some (run.request .fallback degraded) } := by
  rcases sound.call _ isCall with ⟨fits, detached⟩
  have exists_ : ∃ handle, run.handle = some handle := by
    cases isHandle : run.handle with
    | none => cases (fits.creates isHandle).1
    | some handle => exact ⟨handle, rfl⟩
  rcases exists_ with ⟨handle, isHandle⟩
  refine { sound with call := ?_, idle := ?_, reads := ?_, wire := ?_ }
  · intro call isNew
    cases isNew
    refine ⟨⟨session.trans fits.session, fun absent => ?_, fun current found => ?_⟩, ?_⟩
    · cases isHandle.symm.trans absent
    · rcases fits.resumes current found with ⟨_, live, cursor⟩
      exact ⟨nofun, live, sinceSeq ▸ cursor⟩
    · simp only [request]
      split
      · next up => exact ⟨up, detached⟩
      · exact detached
  · intro idle
    cases idle
  · intro current found
    exact (sound.reads current found).same rfl rfl rfl rfl
  · intro up place isPlace
    refine sound.wire up place ?_
    rw [position, isHandle] at isPlace ⊢
    exact isPlace

theorem Sound.resumed {run next : HandleRun} (sound : run.Sound)
    (stepped : run.step .resumed = some next) : next.Sound := by
  simp only [step] at stepped
  split at stepped
  · next purpose params answer isCall =>
      cases stepped
      rcases sound.call _ isCall with ⟨fits, settled⟩
      have unchanged : ({ run with call := none } : HandleRun) =
          { run with call := none, handle := run.handle.map id } := by simp
      cases answer with
      | ok result =>
          cases purpose with
          | create =>
              cases isHandle : run.handle with
              | none => exact sound.made isHandle isCall
              | some handle => exact absurd rfl (fits.resumes handle isHandle).1
          | reattach =>
              exact sound.ended (fun _ => ⟨rfl, rfl⟩) unchanged fun _ _ live => ⟨live, settled.2⟩
          | fallback =>
              refine sound.ended (fun handle => ⟨?_, ?_⟩) rfl fun handle _ live => ⟨?_, settled.2⟩
              · exact handle.sessionId_handleControl _ _ _
              · exact handle.cursor_handleControl _ _ _
              · rwa [handle.detached_handleControl] at live
      | error failure =>
          have gone : ∀ handle : DaemonAgentHandle,
              handle.onReattachFailed.sessionId = handle.sessionId ∧
              handle.onReattachFailed.cursor = handle.cursor :=
            fun handle => ⟨handle.sessionId_onReattachFailed, cursor_onReattachFailed handle⟩
          have dead : ∀ handle : DaemonAgentHandle, handle.onReattachFailed.detached ≠ false := by
            intro handle
            simp
          cases purpose with
          | create =>
              refine sound.ended (fun _ => ⟨rfl, rfl⟩) unchanged fun handle isHandle _ => ?_
              exact absurd rfl (fits.resumes handle isHandle).1
          | reattach =>
              simp only [resume]
              split
              · exact sound.again isCall rfl rfl
              · exact sound.ended gone rfl fun handle _ live => absurd live (dead handle)
          | fallback => exact sound.ended gone rfl fun handle _ live => absurd live (dead handle)
  · cases stepped

theorem Sound.dropped {run next : HandleRun} (sound : run.Sound)
    (stepped : run.step .dropped = some next) : next.Sound := by
  simp only [step] at stepped
  split at stepped
  · cases stepped
    have detached : ¬run.drop.IsAttached := by
      rintro ⟨clientId, up, _⟩
      cases up
    have disconnected : ¬run.drop.IsConnected := by
      rintro ⟨clientId, up, _⟩
      cases up
    constructor
    · exact sound.consistent
    · exact sound.contiguous
    · intro call isCall
      rcases Option.map_eq_some_iff.mp isCall with ⟨before, isBefore, rfl⟩
      rcases sound.call before isBefore with ⟨fits, settled⟩
      cases phase : before.phase with
      | answered answer =>
          refine ⟨⟨fits.session, fits.creates, fits.resumes⟩, ?_⟩
          rw [phase] at settled
          simp only [phase]
          cases answer with
          | ok result => exact ⟨settled.1, fun connected => absurd connected disconnected⟩
          | error failure => exact detached
      | requested | served | written =>
          exact ⟨⟨fits.session, fits.creates, fits.resumes⟩, detached⟩
    · intro _ _ _ _ connected
      exact absurd connected disconnected
    · intro handle found
      exact (sound.reads handle found).same rfl rfl rfl rfl
    · exact sound.unread
    · intro up
      cases up
  · cases stepped

theorem Sound.reconnected {run next : HandleRun} (sound : run.Sound) {clientId : ClientId}
    (stepped : run.step (.reconnected clientId) = some next) : next.Sound := by
  simp only [step] at stepped
  split at stepped
  · next fresh =>
      cases stepped
      rcases fresh with ⟨_, idle, unknown⟩
      have detached : ¬(run.reconnect clientId).IsAttached := by
        rintro ⟨same, up, isAttached⟩
        cases up
        exact unknown (sound.consistent.connected isAttached)
      have callOf : ∀ call, (run.reconnect clientId).call = some call →
          ∃ handle, run.handle = some handle ∧ handle.detached = false ∧
            call = ⟨.reattach, handle.reattachRequest, .requested⟩ := by
        intro call isCall
        simp only [reconnect] at isCall
        split at isCall
        · cases isCall
        · next handle isHandle =>
            split at isCall
            · cases isCall
            · next live =>
                cases isCall
                exact ⟨handle, isHandle, by simpa using live, rfl⟩
      constructor
      · exact sound.consistent.connect clientId
      · exact sound.contiguous
      · intro call isCall
        rcases callOf call isCall with ⟨handle, isHandle, live, rfl⟩
        have reads := sound.reads handle isHandle
        refine ⟨⟨reads.session, fun absent => ?_, fun current found => ?_⟩, rfl, detached⟩
        · cases isHandle.symm.trans absent
        · cases isHandle.symm.trans found
          exact ⟨nofun, live, handle.cursor, rfl, Int.le_trans reads.attachedAt reads.cursor,
            Int.le_refl _⟩
      · intro none handle found live
        have again : (run.reconnect clientId).call =
            some ⟨.reattach, handle.reattachRequest, .requested⟩ := by
          have isHandle : run.handle = some handle := found
          simp [reconnect, isHandle, live]
        cases none.symm.trans again
      · intro handle found
        exact (sound.reads handle found).same rfl rfl rfl rfl
      · exact sound.unread
      · intro _ place isPlace
        -- Nothing is on the new wire, and the handle stands within the log.
        refine ⟨place, ?_, .nil, fun isAttached => absurd isAttached detached⟩
        have isPosition : placeOf run.handle ((run.reconnect clientId).call.map fun call =>
            call.phase.answer) run.log.length = some place := isPlace
        cases isHandle : run.handle with
        | none =>
            rw [isHandle] at isPosition
            have noCall : (run.reconnect clientId).call = none := by simp [reconnect, isHandle]
            rw [noCall] at isPosition
            cases isPosition
        | some handle =>
            have inside := (sound.reads handle isHandle).inside
            rw [isHandle, placeOf] at isPosition
            split at isPosition
            · cases isPosition
            · cases isPosition
              show (handle.cursor + 1).toNat ≤ run.log.length
              omega
  · cases stepped

/-! ## Whole runs -/

theorem Sound.step {run next : HandleRun} (sound : run.Sound) {event : HandleRunEvent}
    (taken : run.misses event = false) (stepped : run.step event = some next) : next.Sound := by
  cases event with
  | backend event => exact sound.backend stepped
  | served environment pendingInteractions => exact sound.served stepped
  | written => exact sound.written stepped
  | chunk count =>
      simp only [HandleRun.step] at stepped
      split at stepped
      · next enabled =>
          cases stepped
          exact sound.deliver enabled.1 count taken
      · cases stepped
  | resumed => exact sound.resumed stepped
  | dropped => exact sound.dropped stepped
  | reconnected clientId => exact sound.reconnected stepped

theorem sound_start {broker : SessionBroker} (consistent : SessionBroker.Consistent broker)
    {sessionId : SessionId} {clientId : ClientId} (mode : AttachMode) (force : Bool)
    {wire : List Notification} (contiguous : Contiguous SessionEvent.seq (broker.logOf sessionId))
    (detached : ¬broker.IsAttached clientId sessionId)
    (stale : ∀ message ∈ wire, ∀ event, message.eventOf sessionId = some event →
      event ∈ broker.logOf sessionId) :
    (start broker sessionId clientId mode force wire).Sound := by
  constructor
  · exact consistent
  · exact contiguous
  · intro call isCall
    cases isCall
    refine ⟨⟨rfl, fun _ => ⟨rfl, rfl⟩, nofun⟩, rfl, ?_⟩
    rintro ⟨same, up, isAttached⟩
    cases up
    exact detached isAttached
  · intro idle
    cases idle
  · exact nofun
  · exact fun _ => rfl
  · intro _ place isPlace
    have atEnd : place = (broker.logOf sessionId).length := (Option.some.inj isPlace).symm
    subst atEnd
    refine ⟨_, Nat.le_refl _, Feeds.of_mem ?_, fun _ => rfl⟩
    intro event member
    rcases List.mem_filterMap.mp member with ⟨line, onWire, isEvent⟩
    rcases List.mem_map.mp onWire with ⟨message, written, rfl⟩
    exact stale message written event isEvent

/-- What the callbacks of the handle were given so far. -/
structure FedExactly (run : HandleRun) : Prop where
  /-- The remote events behind the attach result's `lastSeq`, as far as the cursor. -/
  received : ∀ handle, run.handle = some handle →
    -1 ≤ run.attachedAt ∧ run.attachedAt ≤ handle.cursor ∧ handle.cursor < run.log.length ∧
    run.received = slice run.log (run.attachedAt + 1).toNat (handle.cursor + 1).toNat
  seqs : run.received.map SessionEvent.seq =
    List.range' (run.attachedAt + 1).toNat run.received.length
  /-- With nothing in flight on a channel the backend still holds, that is all of them. -/
  caughtUp : ∀ handle, run.handle = some handle → handle.detached = false → run.IsConnected →
    run.call = none → run.wireEvents = [] → handle.cursor + 1 = run.log.length

theorem Sound.fedExactly {run : HandleRun} (sound : run.Sound) : run.FedExactly where
  received := by
    intro handle isHandle
    have reads := sound.reads handle isHandle
    exact ⟨reads.attachedAt, reads.cursor, reads.inside, reads.received⟩
  seqs := by
    cases isHandle : run.handle with
    | none => rw [sound.unread isHandle]; rfl
    | some handle =>
        have reads := sound.reads handle isHandle
        have inside : (handle.cursor + 1).toNat ≤ run.log.length := by
          have below := reads.inside
          omega
        rw [reads.received, sound.contiguous.map_slice inside, length_slice inside]
  caughtUp := by
    intro handle isHandle live connected idle silent
    have isAttached := sound.idle idle handle isHandle live connected
    have place : run.position = some (handle.cursor + 1).toNat := by
      simp [position, isHandle, placeOf, live]
    rcases connected with ⟨clientId, up, _⟩
    rcases sound.wire (by simp [up]) _ place with ⟨last, _, feeds, atEnd⟩
    rw [silent, atEnd isAttached] at feeds
    have reads := sound.reads handle isHandle
    have lower := reads.attachedAt
    have ordered := reads.cursor
    have all := feeds.eq_of_nil
    omega

/-- From any reachable backend on, through any appends, grouping of lines into chunks,
drops and re-attaches: the callbacks are given the remote events from the attach on,
each once and in order, if no event line above the attach result's `lastSeq` is handled
before the handle exists. -/
theorem exactFeed (sessions : OrderedMap SessionId HostSession)
    (agents : OrderedMap SessionId AgentStatus) (extras : SessionBrokerExtras)
    (past : List BrokerEvent) (broker : SessionBroker)
    (reachable : Execution.run SessionBroker.step (SessionBroker.init sessions agents extras)
      past = some broker)
    (sessionId : SessionId) (clientId : ClientId) (mode : AttachMode) (force : Bool)
    (wire : List Notification)
    (contiguous : Contiguous SessionEvent.seq (broker.logOf sessionId))
    (detached : ¬broker.IsAttached clientId sessionId)
    (stale : ∀ message ∈ wire, ∀ event, message.eventOf sessionId = some event →
      event ∈ broker.logOf sessionId)
    (events : List HandleRunEvent) (run : HandleRun)
    (reached : Execution.run step (start broker sessionId clientId mode force wire) events =
      some run)
    (condition : Execution.AllSteps step (fun run event => run.misses event = false)
      (start broker sessionId clientId mode force wire) events) :
    run.FedExactly := by
  have consistent := SessionBroker.reachable_consistent reachable
  have initially := sound_start consistent mode force contiguous detached stale
  exact (Execution.run_invariant Sound (fun sound taken stepped => sound.step taken stepped)
    initially condition reached).fedExactly

/-- One session that has logged one event. -/
def loggedSession : OrderedMap SessionId HostSession :=
  OrderedMap.empty.set "s"
    { createdAt := 0, events := [{ seq := 0, type := "turn/start", time := 0, data := none }] }

def loggedBroker : SessionBroker :=
  (SessionBroker.init loggedSession .empty {}).connect "a"

def turnLogged : HandleRunEvent :=
  .backend (.host {} (.append { sessionId := "s", type := "turn/end" }))

/-- The response arrives alone; later the channel drops and an event is logged meanwhile. -/
def droppedOnce : List HandleRunEvent :=
  [.served {} none, .written, .chunk 1, .resumed, turnLogged, .chunk 1, .dropped, turnLogged,
    .reconnected "b", .served {} none, .written, .chunk 2, .resumed]

theorem exactFeed_droppedOnce :
    ∃ run, Execution.run step (start loggedBroker "s" "a" .read false []) droppedOnce =
      some run ∧ run.FedExactly ∧ run.received.map SessionEvent.seq = [1, 2] :=
  ⟨_, rfl, exactFeed loggedSession .empty {} [.connect "a"] loggedBroker rfl "s" "a" .read false
    [] (by decide) (by decide) nofun droppedOnce _ rfl (by decide), rfl⟩

/-- The chunk of the response holds the next event as well. -/
def eventAfterResponse : List HandleRunEvent :=
  [.served {} none, .written, turnLogged, .chunk 2, .resumed, turnLogged, .chunk 1]

/-- The first event behind the attach is never handed on, the second one is. -/
theorem lostEvent_sameChunk :
    ∃ run handle,
      Execution.run step (start loggedBroker "s" "a" .read false []) eventAfterResponse =
        some run ∧
      run.handle = some handle ∧ run.attachedAt = 0 ∧
      run.received.map SessionEvent.seq = [2] :=
  ⟨_, _, rfl, rfl, rfl, rfl⟩

end HandleRun

end DshRemote.Client
