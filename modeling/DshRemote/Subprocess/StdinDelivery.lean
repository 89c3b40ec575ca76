import DshRemote.Subprocess.DeferredStdin

/-! # What reaches the standard input

Whenever the process is launched, the header is sent first and then, in order, what the chunks
carry; no chunk is lost or sent twice. -/

namespace DshRemote.Subprocess

open Utf8 (encode)

/-! ## What is on its way -/

namespace Operation

/-- The chunk that waits for the process. -/
def taken : Operation → List Chunk
  | .writing chunk false => [chunk]
  | _ => []

def isCalled : Operation → Bool
  | .idle => false
  | .writing _ called => called
  | .finalizing called => called
  | .finished => true

def isFinal : Operation → Bool
  | .finalizing _ | .finished => true
  | _ => false

def closing : Operation → List StdinCall
  | .finalizing true | .finished => [.endStdin]
  | _ => []

theorem closing_of_not_called {operation : Operation} (notCalled : operation.isCalled = false) :
    operation.closing = [] := by
  cases operation with
  | finalizing called =>
      cases notCalled
      rfl
  | finished => cases notCalled
  | _ => rfl

end Operation

namespace StdinEvent

def written : StdinEvent → List Chunk
  | .write chunk => [chunk]
  | _ => []

end StdinEvent

/-- What the caller has written. -/
def writtenOf (events : List StdinEvent) : List Chunk := events.flatMap StdinEvent.written

/-- What the stream keeps: the chunk at the head waits for the process, the rest for the chunk. -/
structure Queued (chunks : List Chunk) (state : DeferredStdin) : Prop where
  chunks : chunks = state.operation.taken ++ state.buffered
  idle : state.operation = .idle → state.buffered = []
  final : state.operation.isFinal = true → state.ending = true ∧ state.buffered = []
  unharmed : state.destroyed = false

def writes (chunks : List Chunk) : List StdinCall := chunks.map fun chunk => .write chunk.carried

/-- Nothing is sent before the launch, and then the header and what has come through. -/
def Carries (header : Text) (chunks : List Chunk) (state : DeferredStdin) : Prop :=
  match state.ready with
  | .pending => state.sent = [] ∧ state.operation.isCalled = false ∧ Queued chunks state
  | .resolved =>
      ∃ done rest, chunks = done ++ rest ∧ Queued rest state ∧
        state.sent = .write (encode header) :: writes done ++ state.operation.closing
  | .rejected => state.sent = []

/-- No write comes after the end. -/
def InTime (state : DeferredStdin) : StdinEvent → Prop
  | .write _ => state.ending = false
  | _ => True

variable {header : Text} {chunks : List Chunk} {state next : DeferredStdin} {event : StdinEvent}

namespace Queued

theorem take (queued : Queued chunks state) (isIdle : state.operation = .idle) (chunk : Chunk) :
    Queued (chunks ++ [chunk]) { state with operation := .writing chunk false } where
  chunks := by
    rw [queued.chunks, queued.idle isIdle, isIdle]
    rfl
  idle := nofun
  final := nofun
  unharmed := queued.unharmed

theorem keep (queued : Queued chunks state) (isBusy : state.operation ≠ .idle)
    (isOpen : state.ending = false) (chunk : Chunk) :
    Queued (chunks ++ [chunk]) { state with buffered := state.buffered ++ [chunk] } where
  chunks := by
    rw [queued.chunks, List.append_assoc]
  idle := fun isIdle => absurd isIdle isBusy
  final := by
    intro isFinal
    have ended := (queued.final isFinal).1
    rw [isOpen] at ended
    cases ended
  unharmed := queued.unharmed

end Queued

/-- After a launch that has failed nothing is sent, and only the caller ends the stream. -/
structure Frames (event : StdinEvent) (state next : DeferredStdin) : Prop where
  rejected : state.ready = .rejected → next.ready = .rejected ∧ next.sent = state.sent
  ending : event ≠ .ended → next.destroyed = false →
    state.destroyed = false ∧ next.ending = state.ending

theorem frames_step (stepped : state.step header event = some next) : Frames event state next := by
  have quiet {after : DeferredStdin} (ready : after.ready = state.ready)
      (sent : after.sent = state.sent) (destroyed : after.destroyed = state.destroyed)
      (ending : after.ending = state.ending) : Frames event state after :=
    ⟨fun isRejected => ⟨ready.trans isRejected, sent⟩,
      fun _ unharmed => ⟨destroyed.symm.trans unharmed, ending⟩⟩
  have launches {after : DeferredStdin} (notRejected : state.ready ≠ .rejected)
      (destroyed : after.destroyed = state.destroyed) (ending : after.ending = state.ending) :
      Frames event state after :=
    ⟨fun isRejected => absurd isRejected notRejected,
      fun _ unharmed => ⟨destroyed.symm.trans unharmed, ending⟩⟩
  have destroys {operation : Operation} :
      Frames event state { state.destroy with operation := operation } :=
    ⟨fun isRejected => ⟨isRejected, rfl⟩, nofun⟩
  cases event with
  | write chunk =>
      rw [DeferredStdin.step] at stepped
      split at stepped
      · cases stepped
        exact destroys
      · split at stepped
        · cases stepped
          exact quiet rfl rfl rfl rfl
        · split at stepped
          · cases stepped
            exact quiet rfl rfl rfl rfl
          · cases stepped
            exact quiet rfl rfl rfl rfl
  | ended =>
      cases stepped
      refine ⟨fun isRejected => ?_, fun other => absurd rfl other⟩
      split
      · exact ⟨isRejected, rfl⟩
      · exact ⟨isRejected, rfl⟩
  | launched | launchFailed =>
      rw [DeferredStdin.step] at stepped
      split at stepped
      · next isPending =>
          cases stepped
          exact launches (by simp [isPending]) rfl rfl
      · cases stepped
  | called =>
      rw [DeferredStdin.step] at stepped
      split at stepped
      · next isResolved _ =>
          cases stepped
          exact launches (by simp [isResolved]) rfl rfl
      · next isResolved _ =>
          cases stepped
          exact launches (by simp [isResolved]) rfl rfl
      · cases stepped
  | settled =>
      rw [DeferredStdin.step] at stepped
      split at stepped
      · cases stepped
        exact quiet rfl rfl rfl rfl
      · cases stepped
        exact quiet rfl rfl rfl rfl
      · cases stepped
        exact quiet rfl rfl rfl rfl
      · cases stepped
  | failed =>
      rw [DeferredStdin.step] at stepped
      split at stepped
      · cases stepped
        exact destroys
      · cases stepped
        exact destroys
      · cases stepped
  | finalized =>
      rw [DeferredStdin.step] at stepped
      split at stepped
      · cases stepped
        exact quiet rfl rfl rfl rfl
      · cases stepped

/-- A step of the stream alone: what it keeps is as before, with what is written now. -/
structure Kept (more : List Chunk) (state next : DeferredStdin) : Prop where
  queued : ∀ {chunks}, Queued chunks state → Queued (chunks ++ more) next
  ready : next.ready = state.ready
  sent : next.sent = state.sent
  isCalled : next.operation.isCalled = state.operation.isCalled
  closing : next.operation.closing = state.operation.closing

theorem Kept.carries {more : List Chunk} (kept : Kept more state next)
    (carries : Carries header chunks state) : Carries header (chunks ++ more) next := by
  unfold Carries at carries ⊢
  rw [kept.ready]
  split at carries
  · rcases carries with ⟨nothing, notCalled, queued⟩
    exact ⟨kept.sent.trans nothing, kept.isCalled.trans notCalled, kept.queued queued⟩
  · rcases carries with ⟨done, rest, rfl, queued, isSent⟩
    refine ⟨done, rest ++ more, List.append_assoc _ _ _, kept.queued queued, ?_⟩
    rw [kept.sent, kept.closing, isSent]
  · exact kept.sent.trans carries

theorem kept_write {chunk : Chunk} (isOpen : state.ending = false)
    (unharmed : state.destroyed = false)
    (stepped : state.step header (.write chunk) = some next) : Kept [chunk] state next := by
  rw [DeferredStdin.step, if_neg (by simp [isOpen]), if_neg (by simp [unharmed])] at stepped
  split at stepped
  · next isIdle =>
      cases stepped
      constructor
      · exact fun queued => queued.take isIdle chunk
      · rfl
      · rfl
      · rw [isIdle]
        rfl
      · rw [isIdle]
        rfl
  · next isBusy =>
      cases stepped
      constructor
      · exact fun queued => queued.keep isBusy isOpen chunk
      all_goals rfl

theorem kept_ended (unharmed : state.destroyed = false)
    (stepped : state.step header .ended = some next) : Kept [] state next := by
  rw [DeferredStdin.step, if_neg (by simp [unharmed])] at stepped
  cases stepped
  constructor
  · intro chunks queued
    rw [List.append_nil]
    exact ⟨queued.chunks, queued.idle, fun isFinal => ⟨rfl, (queued.final isFinal).2⟩,
      queued.unharmed⟩
  all_goals rfl

theorem kept_finalized (stepped : state.step header .finalized = some next) :
    Kept [] state next := by
  rw [DeferredStdin.step] at stepped
  split at stepped
  · next due =>
      rcases due with ⟨isEnding, isIdle, isEmpty, _⟩
      cases stepped
      constructor
      · intro chunks queued
        rw [List.append_nil]
        refine ⟨?_, nofun, fun _ => ⟨isEnding, isEmpty⟩, queued.unharmed⟩
        rw [queued.chunks, isIdle]
        rfl
      · rfl
      · rfl
      · rw [isIdle]
        rfl
      · rw [isIdle]
        rfl
  · cases stepped

namespace Carries

theorem launched (carries : Carries header chunks state)
    (stepped : state.step header .launched = some next) : Carries header chunks next := by
  rw [DeferredStdin.step] at stepped
  split at stepped
  · next isPending =>
      cases stepped
      rw [Carries, isPending] at carries
      rcases carries with ⟨nothing, notCalled, queued⟩
      refine ⟨[], chunks, rfl, ⟨queued.chunks, queued.idle, queued.final, queued.unharmed⟩, ?_⟩
      rw [DeferredStdin.send, DeferredStdin.resolve, nothing,
        Operation.closing_of_not_called notCalled]
      rfl
  · cases stepped

theorem launchFailed (carries : Carries header chunks state)
    (stepped : state.step header .launchFailed = some next) : Carries header chunks next := by
  rw [DeferredStdin.step] at stepped
  split at stepped
  · next isPending =>
      cases stepped
      rw [Carries, isPending] at carries
      exact carries.1
  · cases stepped

theorem of_resolved (isResolved : state.ready = .resolved) {done rest : List Chunk}
    (queued : Queued rest state)
    (isSent : state.sent = .write (encode header) :: writes done ++ state.operation.closing) :
    Carries header (done ++ rest) state := by
  rw [Carries, isResolved]
  exact ⟨done, rest, rfl, queued, isSent⟩

theorem called (carries : Carries header chunks state)
    (stepped : state.step header .called = some next) : Carries header chunks next := by
  rw [DeferredStdin.step] at stepped
  split at stepped
  · next chunk isResolved isWriting =>
      cases stepped
      rw [Carries, isResolved] at carries
      rcases carries with ⟨done, rest, rfl, queued, isSent⟩
      have isRest : rest = [chunk] ++ state.buffered := by
        rw [queued.chunks, isWriting]
        rfl
      rw [isRest, ← List.append_assoc]
      apply of_resolved
      · exact isResolved
      · exact ⟨rfl, nofun, nofun, queued.unharmed⟩
      · rw [DeferredStdin.send, isSent, isWriting]
        simp [Operation.closing, writes]
  · next isResolved isFinalizing =>
      cases stepped
      rw [Carries, isResolved] at carries
      rcases carries with ⟨done, rest, rfl, queued, isSent⟩
      apply of_resolved
      · exact isResolved
      · have final := queued.final (by rw [isFinalizing]; rfl)
        refine ⟨?_, nofun, fun _ => final, queued.unharmed⟩
        rw [queued.chunks, isFinalizing]
        rfl
      · rw [DeferredStdin.send, isSent, isFinalizing]
        simp [Operation.closing]
  · cases stepped

theorem settled (carries : Carries header chunks state)
    (stepped : state.step header .settled = some next) : Carries header chunks next := by
  have after : state.operation.isCalled = true ∧ next.ready = state.ready ∧
      next.sent = state.sent ∧ next.operation.closing = state.operation.closing ∧
      ∀ {rest}, Queued rest state → Queued rest next := by
    rw [DeferredStdin.step] at stepped
    split at stepped
    · next chunk isWriting isEmpty =>
        cases stepped
        rw [isWriting]
        refine ⟨rfl, rfl, rfl, rfl, fun queued => ⟨?_, fun _ => isEmpty, nofun, queued.unharmed⟩⟩
        rw [queued.chunks, isWriting]
        rfl
    · next chunk first others isWriting isBuffered =>
        cases stepped
        rw [isWriting]
        refine ⟨rfl, rfl, rfl, rfl, fun queued => ⟨?_, nofun, nofun, queued.unharmed⟩⟩
        rw [queued.chunks, isWriting, isBuffered]
        rfl
    · next isFinalizing =>
        cases stepped
        rw [isFinalizing]
        refine ⟨rfl, rfl, rfl, rfl, fun queued => ?_⟩
        have final := queued.final (by rw [isFinalizing]; rfl)
        refine ⟨?_, nofun, fun _ => final, queued.unharmed⟩
        rw [queued.chunks, isFinalizing]
        rfl
    · cases stepped
  rcases after with ⟨isCalled, ready, sent, closing, queued⟩
  unfold Carries at carries ⊢
  rw [ready]
  split at carries
  · rw [isCalled] at carries
    cases carries.2.1
  · rcases carries with ⟨done, rest, isSplit, wasQueued, isSent⟩
    exact ⟨done, rest, isSplit, queued wasQueued, by rw [sent, closing, isSent]⟩
  · exact sent.trans carries

theorem unharmed (carries : Carries header chunks state) (notRejected : state.ready ≠ .rejected) :
    state.destroyed = false := by
  unfold Carries at carries
  split at carries
  · exact carries.2.2.unharmed
  · rcases carries with ⟨_, _, _, queued, _⟩
    exact queued.unharmed
  · next isRejected => exact absurd isRejected notRejected

theorem step (carries : Carries header chunks state) (inTime : InTime state event)
    (stepped : state.step header event = some next) :
    Carries header (chunks ++ event.written) next := by
  by_cases isRejected : state.ready = .rejected
  · rcases (frames_step stepped).rejected isRejected with ⟨ready, sent⟩
    rw [Carries, isRejected] at carries
    rw [Carries, ready]
    exact sent.trans carries
  · have unharmed := carries.unharmed isRejected
    have quiet (later : Carries header chunks next) : Carries header (chunks ++ []) next := by
      rw [List.append_nil]
      exact later
    cases event with
    | write chunk => exact (kept_write inTime unharmed stepped).carries carries
    | ended => exact (kept_ended unharmed stepped).carries carries
    | finalized => exact (kept_finalized stepped).carries carries
    | failed =>
        rw [DeferredStdin.step] at stepped
        split at stepped
        · next isRejected' _ => exact absurd isRejected' isRejected
        · next isRejected' _ => exact absurd isRejected' isRejected
        · cases stepped
    | launched => exact quiet (carries.launched stepped)
    | launchFailed => exact quiet (carries.launchFailed stepped)
    | called => exact quiet (carries.called stepped)
    | settled => exact quiet (carries.settled stepped)

theorem run {events : List StdinEvent}
    (inTime : Execution.AllSteps (DeferredStdin.step header) InTime .start events)
    (reached : Execution.run (DeferredStdin.step header) .start events = some state) :
    Carries header (writtenOf events) state := by
  apply Execution.allowed_history_invariant (fun past => Carries header (writtenOf past)) ?_ ?_
    inTime reached
  · exact ⟨rfl, rfl, rfl, fun _ => rfl, nofun, rfl⟩
  · intro past state event next carries inTime stepped
    have written : writtenOf (past ++ [event]) = writtenOf past ++ event.written := by
      simp [writtenOf]
    rw [written]
    exact carries.step inTime stepped

end Carries

/-! ## The end -/

/-- The stream is ending exactly if the caller has said so, unless it is destroyed. -/
def NotesEnd (events : List StdinEvent) (state : DeferredStdin) : Prop :=
  state.destroyed = false → (state.ending = true ↔ .ended ∈ events)

theorem NotesEnd.step {events : List StdinEvent} (notes : NotesEnd events state)
    (stepped : state.step header event = some next) : NotesEnd (events ++ [event]) next := by
  by_cases isEnded : event = .ended
  · subst isEnded
    cases stepped
    split
    · next isDestroyed =>
        intro unharmed
        rw [isDestroyed] at unharmed
        cases unharmed
    · intro _
      simp
  · intro unharmed
    rcases (frames_step stepped).ending isEnded unharmed with ⟨before, ending⟩
    rw [ending, notes before, List.mem_append, List.mem_singleton]
    simp [Ne.symm isEnded]

/-! ## Delivery -/

/-- What happens without the caller and without the launch. -/
def StdinEvent.isInternal : StdinEvent → Bool
  | .called | .settled | .failed | .finalized => true
  | _ => false

/-- Nothing more happens by itself. -/
def AtRest (header : Text) (state : DeferredStdin) : Prop :=
  ∀ event, event.isInternal = true → state.step header event = none

def octetsOf (sent : List StdinCall) : List Octet := sent.flatMap StdinCall.octets

/-- The header goes first, then the octets in order, and the end goes last, once. When the stream
has come to rest after the launch, all of it has been sent. -/
structure Delivers (header : Text) (octets : List Octet) (isEnded : Prop)
    (state : DeferredStdin) : Prop where
  unlaunched : state.ready ≠ .resolved → state.sent = []
  begins : state.ready = .resolved →
    ∃ later, state.sent = .write (encode header) :: later
  inOrder : octetsOf state.sent <+: encode header ++ octets
  closed : .endStdin ∈ state.sent → isEnded ∧ octetsOf state.sent = encode header ++ octets ∧
    ∃ earlier, state.sent = earlier ++ [.endStdin] ∧ .endStdin ∉ earlier
  rest : state.ready = .resolved → AtRest header state →
    octetsOf state.sent = encode header ++ octets ∧ (isEnded → .endStdin ∈ state.sent)

theorem octetsOf_writes (header : Text) (done : List Chunk) (operation : Operation) :
    octetsOf (.write (encode header) :: writes done ++ operation.closing) =
      encode header ++ done.flatMap Chunk.carried := by
  have each : octetsOf (writes done) = done.flatMap Chunk.carried := by
    rw [octetsOf, writes, List.flatMap_map]
    rfl
  have none : octetsOf operation.closing = [] := by
    cases operation with
    | finalizing called => cases called <;> rfl
    | _ => rfl
  rw [octetsOf, List.flatMap_append, List.flatMap_cons, ← octetsOf, ← octetsOf, each, none,
    List.append_nil]
  rfl

theorem endStdin_notMem_writes (header : Text) (done : List Chunk) :
    .endStdin ∉ .write (encode header) :: writes done := by
  simp [writes]

theorem Operation.closing_cases (operation : Operation) :
    operation.closing = [] ∨ operation.closing = [.endStdin] ∧ operation.isFinal = true := by
  cases operation with
  | finalizing called =>
      cases called with
      | false => exact Or.inl rfl
      | true => exact Or.inr ⟨rfl, rfl⟩
  | finished => exact Or.inr ⟨rfl, rfl⟩
  | _ => exact Or.inl rfl

theorem Queued.nothing_of_final (queued : Queued chunks state)
    (isFinal : state.operation.isFinal = true) : chunks = [] := by
  have noneTaken : state.operation.taken = [] := by
    cases operation : state.operation with
    | writing chunk called =>
        rw [operation] at isFinal
        cases isFinal
    | _ => rfl
  rw [queued.chunks, noneTaken, (queued.final isFinal).2]
  rfl

/-- A stream at rest waits for the caller or is through. -/
theorem Queued.atRest (queued : Queued chunks state) (isResolved : state.ready = .resolved)
    (atRest : AtRest header state) :
    chunks = [] ∧ (state.ending = true → state.operation.closing = [.endStdin]) := by
  cases operation : state.operation with
  | idle =>
      have isEmpty := queued.idle operation
      constructor
      · rw [queued.chunks, operation, isEmpty]
        rfl
      · intro isEnding
        have blocked := atRest .finalized rfl
        rw [DeferredStdin.step, if_pos ⟨isEnding, operation, isEmpty, by simp [queued.unharmed]⟩]
          at blocked
        cases blocked
  | writing chunk called =>
      cases called with
      | false =>
          have blocked := atRest .called rfl
          simp [DeferredStdin.step, isResolved, operation] at blocked
      | true =>
          have blocked := atRest .settled rfl
          cases buffered : state.buffered with
          | nil => simp [DeferredStdin.step, operation, buffered] at blocked
          | cons first others => simp [DeferredStdin.step, operation, buffered] at blocked
  | finalizing called =>
      cases called with
      | false =>
          have blocked := atRest .called rfl
          simp [DeferredStdin.step, isResolved, operation] at blocked
      | true =>
          have blocked := atRest .settled rfl
          simp [DeferredStdin.step, operation] at blocked
  | finished =>
      constructor
      · apply queued.nothing_of_final
        rw [operation]
        rfl
      · intro _
        rfl

theorem Carries.delivers {events : List StdinEvent} (carries : Carries header chunks state)
    (notes : NotesEnd events state) :
    Delivers header (chunks.flatMap Chunk.carried) (.ended ∈ events) state := by
  by_cases isResolved : state.ready = .resolved
  · rw [Carries, isResolved] at carries
    rcases carries with ⟨done, rest, rfl, queued, isSent⟩
    have octets := octetsOf_writes header done state.operation
    rw [← isSent] at octets
    constructor
    · exact fun unlaunched => absurd isResolved unlaunched
    · intro _
      exact ⟨_, isSent⟩
    · rw [octets, List.flatMap_append, ← List.append_assoc]
      exact List.prefix_append _ _
    · intro closed
      rcases state.operation.closing_cases with isOpen | ⟨isClosed, isFinal⟩
      · rw [isSent, isOpen, List.append_nil] at closed
        exact absurd closed (endStdin_notMem_writes header done)
      · rw [queued.nothing_of_final isFinal, List.append_nil]
        refine ⟨(notes queued.unharmed).mp (queued.final isFinal).1, octets, _, ?_,
          endStdin_notMem_writes header done⟩
        rw [isSent, isClosed]
    · intro _ atRest
      rcases queued.atRest isResolved atRest with ⟨rfl, closing⟩
      constructor
      · rw [List.append_nil]
        exact octets
      · intro isEnded
        rw [isSent, closing ((notes queued.unharmed).mpr isEnded)]
        exact List.mem_append_right _ (List.mem_singleton_self _)
  · have nothing : state.sent = [] := by
      unfold Carries at carries
      split at carries
      · exact carries.1
      · next resolved => exact absurd resolved isResolved
      · exact carries
    constructor
    · exact fun _ => nothing
    · exact fun resolved => absurd resolved isResolved
    · rw [nothing]
      exact List.nil_prefix
    · intro closed
      rw [nothing] at closed
      cases closed
    · exact fun resolved => absurd resolved isResolved

/-! ## Coming to rest -/

/-- How many steps the operation has before it at most, and how many a chunk adds. -/
def Operation.remaining : Operation → Nat
  | .writing _ false => 5
  | .writing _ true => 4
  | .idle => 3
  | .finalizing false => 2
  | .finalizing true => 1
  | .finished => 0

def DeferredStdin.remaining (self : DeferredStdin) : Nat :=
  self.operation.remaining + 3 * self.buffered.length

theorem remaining_step (isResolved : state.ready = .resolved) (isInternal : event.isInternal = true)
    (stepped : state.step header event = some next) :
    next.ready = .resolved ∧ next.remaining < state.remaining := by
  cases event with
  | called =>
      rw [DeferredStdin.step] at stepped
      split at stepped
      · next chunk _ isWriting =>
          cases stepped
          refine ⟨isResolved, ?_⟩
          simp [DeferredStdin.remaining, DeferredStdin.send, isWriting, Operation.remaining]
      · next _ isFinalizing =>
          cases stepped
          refine ⟨isResolved, ?_⟩
          simp [DeferredStdin.remaining, DeferredStdin.send, isFinalizing, Operation.remaining]
      · cases stepped
  | settled =>
      rw [DeferredStdin.step] at stepped
      split at stepped
      · next chunk isWriting isEmpty =>
          cases stepped
          refine ⟨isResolved, ?_⟩
          simp [DeferredStdin.remaining, isWriting, isEmpty, Operation.remaining]
      · next chunk first others isWriting isBuffered =>
          cases stepped
          refine ⟨isResolved, ?_⟩
          simp only [DeferredStdin.remaining, isWriting, isBuffered, Operation.remaining,
            List.length_cons]
          omega
      · next isFinalizing =>
          cases stepped
          refine ⟨isResolved, ?_⟩
          simp [DeferredStdin.remaining, isFinalizing, Operation.remaining]
      · cases stepped
  | failed => simp [DeferredStdin.step, isResolved] at stepped
  | finalized =>
      rw [DeferredStdin.step] at stepped
      split at stepped
      · next due =>
          cases stepped
          refine ⟨isResolved, ?_⟩
          simp [DeferredStdin.remaining, due.2.1, Operation.remaining]
      · cases stepped
  | _ => cases isInternal

/-- After the launch the stream comes to rest by itself. -/
theorem comesToRest (isResolved : state.ready = .resolved) :
    ∃ later finish, (∀ event ∈ later, event.isInternal = true) ∧
      Execution.run (DeferredStdin.step header) state later = some finish ∧
      finish.ready = .resolved ∧ AtRest header finish := by
  induction amount : state.remaining using Nat.strong_induction_on generalizing state with
  | _ amount induction =>
      by_cases atRest : AtRest header state
      · exact ⟨[], state, nofun, rfl, isResolved, atRest⟩
      · simp only [AtRest, not_forall, exists_prop] at atRest
        rcases atRest with ⟨event, isInternal, possible⟩
        rcases Option.ne_none_iff_exists'.mp possible with ⟨next, stepped⟩
        rcases remaining_step isResolved isInternal stepped with ⟨stillResolved, fewer⟩
        rcases induction next.remaining (amount ▸ fewer) stillResolved rfl with
          ⟨later, finish, allInternal, reached, rest⟩
        have all : ∀ other ∈ event :: later, other.isInternal = true :=
          List.forall_mem_cons.mpr ⟨isInternal, allInternal⟩
        refine ⟨event :: later, finish, all, ?_, rest⟩
        rw [Execution.run_cons, stepped]
        exact reached

/-! ## What the caller's writes stand for -/

section Runs

variable {events : List StdinEvent}

theorem NotesEnd.run
    (reached : Execution.run (DeferredStdin.step header) .start events = some state) :
    NotesEnd events state := by
  apply Execution.history_invariant NotesEnd ?_ NotesEnd.step reached
  intro _
  simp [DeferredStdin.start]

/-- Whenever and however the writes come, what they carry is sent. -/
theorem stdin_carries (inTime : Execution.AllSteps (DeferredStdin.step header) InTime .start events)
    (reached : Execution.run (DeferredStdin.step header) .start events = some state) :
    Delivers header ((writtenOf events).flatMap Chunk.carried) (.ended ∈ events) state :=
  (Carries.run inTime reached).delivers (NotesEnd.run reached)

/-- The write does not come after the end, and stands for its UTF-8 form. -/
def Proper (state : DeferredStdin) (event : StdinEvent) : Prop :=
  InTime state event ∧ ∀ chunk ∈ event.written, chunk.IsTransparent

theorem transparent_of_proper
    (proper : Execution.AllSteps (DeferredStdin.step header) Proper .start events)
    (reached : Execution.run (DeferredStdin.step header) .start events = some state) :
    ∀ chunk ∈ writtenOf events, chunk.IsTransparent := by
  apply Execution.allowed_history_invariant
    (fun past _ => ∀ chunk ∈ writtenOf past, chunk.IsTransparent) nofun ?_ proper reached
  intro past before event after earlier now _ chunk member
  rcases List.mem_flatMap.mp member with ⟨other, isOther, isWritten⟩
  rcases List.mem_append.mp isOther with isEarlier | isNow
  · exact earlier chunk (List.mem_flatMap.mpr ⟨other, isEarlier, isWritten⟩)
  · rw [List.mem_singleton.mp isNow] at isWritten
    exact now.2 chunk isWritten

/-- If each write stands for its UTF-8 form and none comes after the end, the header and all they
stand for is sent, in order, whenever and however they come. -/
theorem stdin_delivers
    (proper : Execution.AllSteps (DeferredStdin.step header) Proper .start events)
    (reached : Execution.run (DeferredStdin.step header) .start events = some state) :
    Delivers header ((writtenOf events).flatMap Chunk.denoted) (.ended ∈ events) state ∧
      (state.ready = .resolved →
        ∃ later finish, (∀ event ∈ later, event.isInternal = true) ∧
          Execution.run (DeferredStdin.step header) state later = some finish ∧
          finish.ready = .resolved ∧ AtRest header finish) := by
  constructor
  · have carries := stdin_carries (proper.imp And.left) reached
    have transparent := transparent_of_proper proper reached
    have same : (writtenOf events).flatMap Chunk.carried =
        (writtenOf events).flatMap Chunk.denoted := by
      apply List.flatMap_congr
      intro chunk member
      exact chunk.carried_eq_denoted_iff.mpr (transparent chunk member)
    rw [← same]
    exact carries
  · exact comesToRest

end Runs

def listingHeader : Text := encodeSpawnHeader (listing.headerFields listingEntries)

/-- Two writes before the launch, then the end. -/
def typing : List StdinEvent :=
  [.write (.string (Json.asciiText "first-") .utf8), .write (.buffer [0xFF]), .launched, .called,
    .settled, .called, .ended, .settled, .finalized, .called, .settled]

theorem stdin_delivers_typing :
    ∃ state, Execution.run (DeferredStdin.step listingHeader) .start typing = some state ∧
      Delivers listingHeader ((writtenOf typing).flatMap Chunk.denoted) (.ended ∈ typing)
        state := by
  have other {state : DeferredStdin} {event : StdinEvent} (notWrite : event.written = [])
      (inTime : InTime state event) : Proper state event :=
    ⟨inTime, by rw [notWrite]; exact nofun⟩
  have proper : Execution.AllSteps (DeferredStdin.step listingHeader) Proper .start typing :=
    ⟨⟨rfl, by decide⟩, ⟨rfl, by decide⟩, other rfl trivial, other rfl trivial, other rfl trivial,
      other rfl trivial, other rfl trivial, other rfl trivial, other rfl trivial,
      other rfl trivial, other rfl trivial, trivial⟩
  exact ⟨_, rfl, (stdin_delivers proper rfl).1⟩

/-- A write in hexadecimal digits: the digits are sent. -/
def digits : List StdinEvent :=
  [.launched, .write (.string (Json.asciiText "ff") .hex), .called, .settled, .ended, .finalized,
    .called, .settled]

theorem stdin_digits :
    ∃ state, Execution.run (DeferredStdin.step listingHeader) .start digits = some state ∧
      ¬Delivers listingHeader ((writtenOf digits).flatMap Chunk.denoted) (.ended ∈ digits)
        state := by
  refine ⟨_, rfl, fun delivers => ?_⟩
  have closed : .endStdin ∈ [.write (encode listingHeader),
      .write (encode (Json.asciiText "ff")), StdinCall.endStdin] := by simp
  have same := List.append_cancel_left (delivers.closed closed).2.1
  revert same
  decide

end DshRemote.Subprocess
