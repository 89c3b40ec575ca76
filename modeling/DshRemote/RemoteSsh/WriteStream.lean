import DshRemote.Foundation.Execution
import DshRemote.Foundation.Utf8

/-! # `SshSftp.createWriteStream`

A stream that is written and ended, beside the SFTP stream under it, which accepts chunks, fails
and closes on its own. It emits `error` at most once, and `close` once; an `error` nobody
listens for is thrown. The listeners are attached by `end`. -/

namespace DshRemote.RemoteSsh

/-- The promise `end` returns; a resolved one with what had been written and accepted. -/
inductive EndPromise where
  | notCalled
  | pending
  | resolved (written accepted : List (List Octet))
  | rejected
deriving DecidableEq, Repr

structure SftpWriteStream where
  written : List (List Octet) := []
  accepted : List (List Octet) := []
  errored : Bool := false
  closed : Bool := false
  /-- The `error` was emitted without a listener. -/
  uncaught : Bool := false
  promise : EndPromise := .notCalled
deriving DecidableEq, Repr

inductive WriteStreamEvent where
  | write (chunk : List Octet)
  | end
  /-- The server has taken the oldest chunk that it has not accepted. -/
  | accepted
  | failed
  | closed
deriving DecidableEq, Repr

namespace SftpWriteStream

/-- An `error` goes to the listener of `end`. -/
def emitError (self : SftpWriteStream) : SftpWriteStream :=
  { self with
    errored := true
    uncaught := self.uncaught || self.promise = .notCalled
    promise := if self.promise = .pending then .rejected else self.promise }

def emitClose (self : SftpWriteStream) : SftpWriteStream :=
  { self with
    closed := true
    promise :=
      if self.promise = .pending then .resolved self.written self.accepted else self.promise }

/-- `write`. After `end` it is an error of a stream that is not destroyed. -/
def write (self : SftpWriteStream) (chunk : List Octet) : SftpWriteStream :=
  let next := { self with written := self.written ++ [chunk] }
  if self.promise ≠ .notCalled ∧ self.errored = false ∧ self.closed = false then next.emitError
  else next

def step (self : SftpWriteStream) : WriteStreamEvent → Option SftpWriteStream
  | .write chunk => some (self.write chunk)
  | .end =>
      -- A destroyed stream reports the end to nobody.
      if self.promise = .notCalled then some { self with promise := .pending } else none
  | .accepted =>
      if self.errored ∨ self.closed then none
      else
        match self.written.drop self.accepted.length with
        | [] => none
        | chunk :: _ => some { self with accepted := self.accepted ++ [chunk] }
  | .failed => if self.errored ∨ self.closed then none else some self.emitError
  | .closed => if self.closed then none else some self.emitClose

/-- No error goes unheard, `end` resolves only when every octet was accepted, it rejects when
the stream failed, and it does not wait for a stream that is closed. -/
structure Safe (stream : SftpWriteStream) : Prop where
  heard : stream.uncaught = false
  complete : ∀ written accepted, stream.promise = .resolved written accepted →
    accepted.flatten = written.flatten
  rejects : stream.errored = true → stream.promise = .notCalled ∨ stream.promise = .rejected
  settles : stream.closed = true → stream.promise ≠ .pending

/-- A failure finds a listener, `end` finds a stream that is not closed, and a stream that closes
after `end` has failed or has accepted everything. -/
def Favourable (self : SftpWriteStream) : WriteStreamEvent → Prop
  | .failed => self.promise ≠ .notCalled
  | .end => self.closed = false
  | .closed => self.promise = .pending → self.accepted.flatten = self.written.flatten
  | .write _ | .accepted => True

instance (self : SftpWriteStream) : (event : WriteStreamEvent) → Decidable (self.Favourable event)
  | .failed => inferInstanceAs (Decidable (self.promise ≠ .notCalled))
  | .end => inferInstanceAs (Decidable (self.closed = false))
  | .closed => inferInstanceAs (Decidable (_ → _))
  | .write _ | .accepted => isTrue trivial

/-! ## What the fields say of each other -/

structure Consistent (stream : SftpWriteStream) : Prop where
  thrown : stream.uncaught = true → stream.errored = true
  unheard : stream.errored = true → stream.promise = .notCalled → stream.uncaught = true
  rejection : stream.promise = .rejected → stream.errored = true
  resolution : ∀ written accepted, stream.promise = .resolved written accepted →
    stream.closed = true

theorem consistent_new : ({} : SftpWriteStream).Consistent where
  thrown thrown := nomatch thrown
  unheard errored := nomatch errored
  rejection rejected := nomatch rejected
  resolution _ _ resolved := nomatch resolved

variable {self : SftpWriteStream}

theorem Consistent.written (consistent : self.Consistent) (written accepted : List (List Octet)) :
    ({ self with written := written, accepted := accepted } : SftpWriteStream).Consistent where
  thrown := consistent.thrown
  unheard := consistent.unheard
  rejection := consistent.rejection
  resolution := consistent.resolution

theorem Consistent.unsettled (consistent : self.Consistent) (sound : self.errored = false)
    (isOpen : self.closed = false) : self.promise = .notCalled ∨ self.promise = .pending := by
  cases promise : self.promise with
  | notCalled => exact Or.inl rfl
  | pending => exact Or.inr rfl
  | resolved written accepted =>
      have closed := consistent.resolution written accepted promise
      rw [isOpen] at closed
      cases closed
  | rejected =>
      have errored := consistent.rejection promise
      rw [sound] at errored
      cases errored

theorem Consistent.safe (consistent : self.Consistent) (sound : self.errored = false)
    (isOpen : self.closed = false) : self.Safe where
  heard := by
    cases thrown : self.uncaught with
    | false => rfl
    | true =>
        have errored := consistent.thrown thrown
        rw [sound] at errored
        cases errored
  complete written accepted resolved := by
    have closed := consistent.resolution written accepted resolved
    rw [isOpen] at closed
    cases closed
  rejects errored := by
    rw [sound] at errored
    cases errored
  settles closed := by
    rw [isOpen] at closed
    cases closed

theorem Consistent.emitError (consistent : self.Consistent) (sound : self.errored = false)
    (isOpen : self.closed = false) : self.emitError.Consistent := by
  rcases consistent.unsettled sound isOpen with notCalled | pending
  · constructor <;> simp [SftpWriteStream.emitError, notCalled]
  · constructor <;> simp [SftpWriteStream.emitError, pending]

theorem Consistent.safe_emitError (consistent : self.Consistent) (sound : self.errored = false)
    (isOpen : self.closed = false) : self.emitError.Safe ↔ self.promise ≠ .notCalled := by
  have heard := (consistent.safe sound isOpen).heard
  rcases consistent.unsettled sound isOpen with notCalled | pending
  · constructor
    · intro safe
      simp [SftpWriteStream.emitError, notCalled] at safe
      exact absurd safe.heard (by simp)
    · intro called
      exact absurd notCalled called
  · constructor
    · simp [pending]
    · intro _
      constructor <;> simp [SftpWriteStream.emitError, pending, heard, isOpen]

theorem safe_written_iff (written accepted : List (List Octet)) :
    ({ self with written := written, accepted := accepted } : SftpWriteStream).Safe ↔
      self.Safe := by
  constructor
  · intro safe
    exact ⟨safe.heard, safe.complete, safe.rejects, safe.settles⟩
  · intro safe
    exact ⟨safe.heard, safe.complete, safe.rejects, safe.settles⟩

/-! ## Steps -/

theorem Consistent.write (consistent : self.Consistent) (chunk : List Octet) :
    (self.write chunk).Consistent := by
  have next := consistent.written (self.written ++ [chunk]) self.accepted
  unfold SftpWriteStream.write
  dsimp only
  split
  · next late => exact next.emitError late.2.1 late.2.2
  · exact next

theorem Consistent.safe_write (consistent : self.Consistent) (chunk : List Octet) :
    (self.write chunk).Safe ↔ self.Safe := by
  have next := consistent.written (self.written ++ [chunk]) self.accepted
  unfold SftpWriteStream.write
  dsimp only
  split
  · next late =>
      rw [next.safe_emitError late.2.1 late.2.2]
      exact iff_of_true late.1 (consistent.safe late.2.1 late.2.2)
  · exact safe_written_iff _ _

theorem Consistent.end (consistent : self.Consistent) :
    ({ self with promise := .pending } : SftpWriteStream).Consistent where
  thrown := consistent.thrown
  unheard _ called := nomatch called
  rejection rejected := nomatch rejected
  resolution _ _ resolved := nomatch resolved

theorem Consistent.safe_end (consistent : self.Consistent)
    (notCalled : self.promise = .notCalled) :
    ({ self with promise := .pending } : SftpWriteStream).Safe ↔
      self.Safe ∧ self.closed = false := by
  constructor
  · intro safe
    have isOpen : self.closed = false := by
      by_contra closed
      exact safe.settles (by simpa using closed) rfl
    have sound : self.errored = false := by
      by_contra errored
      simpa using safe.rejects (by simpa using errored)
    exact ⟨consistent.safe sound isOpen, isOpen⟩
  · intro both
    rcases both with ⟨safe, isOpen⟩
    constructor
    · exact safe.heard
    · intro _ _ resolved
      cases resolved
    · intro errored
      -- A failure before the end would have been thrown.
      have thrown := consistent.unheard errored notCalled
      rw [safe.heard] at thrown
      cases thrown
    · intro closed
      rw [isOpen] at closed
      cases closed

theorem Consistent.emitClose (consistent : self.Consistent) : self.emitClose.Consistent := by
  cases promise : self.promise with
  | notCalled =>
      constructor
      · exact consistent.thrown
      · intro errored _
        exact consistent.unheard errored promise
      · simp [SftpWriteStream.emitClose, promise]
      · simp [SftpWriteStream.emitClose]
  | pending | resolved =>
      constructor
      · exact consistent.thrown
      · simp [SftpWriteStream.emitClose, promise]
      · simp [SftpWriteStream.emitClose, promise]
      · simp [SftpWriteStream.emitClose]
  | rejected =>
      constructor
      · exact consistent.thrown
      · simp [SftpWriteStream.emitClose, promise]
      · intro _
        exact consistent.rejection promise
      · simp [SftpWriteStream.emitClose]

theorem safe_emitClose (isOpen : self.closed = false) :
    self.emitClose.Safe ↔ self.Safe ∧
      (self.promise = .pending → self.accepted.flatten = self.written.flatten) := by
  by_cases pending : self.promise = .pending
  · constructor
    · intro safe
      have sound : self.errored = false := by
        by_contra errored
        have failed : self.errored = true := by simpa using errored
        simpa [emitClose, pending] using safe.rejects failed
      constructor
      · constructor
        · exact safe.heard
        · simp [pending]
        · simp [sound]
        · simp [isOpen]
      · intro _
        exact safe.complete self.written self.accepted (by simp [emitClose, pending])
    · intro both
      rcases both with ⟨safe, complete⟩
      constructor
      · exact safe.heard
      · simp [emitClose, pending, complete pending]
      · intro errored
        simpa [pending] using safe.rejects errored
      · simp [emitClose, pending]
  · have same : self.emitClose.promise = self.promise := by simp [emitClose, pending]
    constructor
    · intro safe
      refine ⟨⟨safe.heard, ?_, ?_, ?_⟩, fun isPending => absurd isPending pending⟩
      · rw [← same]
        exact safe.complete
      · rw [← same]
        exact safe.rejects
      · simp [pending]
    · intro both
      rcases both with ⟨safe, _⟩
      refine ⟨safe.heard, ?_, ?_, ?_⟩
      · rw [same]
        exact safe.complete
      · rw [same]
        exact safe.rejects
      · simp [same, pending]

/-- What a step yields, and which steps keep the stream safe. -/
theorem Consistent.step (consistent : self.Consistent) {event : WriteStreamEvent}
    {next : SftpWriteStream} (stepped : self.step event = some next) :
    next.Consistent ∧ (next.Safe ↔ self.Safe ∧ self.Favourable event) := by
  cases event with
  | write chunk =>
      cases stepped
      exact ⟨consistent.write chunk,
        (consistent.safe_write chunk).trans (and_iff_left trivial).symm⟩
  | «end» =>
      rcases Option.ite_none_right_eq_some.mp stepped with ⟨notCalled, isNext⟩
      cases isNext
      exact ⟨consistent.end, consistent.safe_end notCalled⟩
  | accepted =>
      rcases Option.ite_none_left_eq_some.mp stepped with ⟨_, isNext⟩
      split at isNext
      · cases isNext
      · cases isNext
        exact ⟨consistent.written _ _, (safe_written_iff _ _).trans (and_iff_left trivial).symm⟩
  | failed =>
      rcases Option.ite_none_left_eq_some.mp stepped with ⟨alive, isNext⟩
      cases isNext
      rw [not_or, Bool.not_eq_true, Bool.not_eq_true] at alive
      constructor
      · exact consistent.emitError alive.1 alive.2
      · rw [consistent.safe_emitError alive.1 alive.2]
        exact (and_iff_right (consistent.safe alive.1 alive.2)).symm
  | closed =>
      rcases Option.ite_none_left_eq_some.mp stepped with ⟨isOpen, isNext⟩
      cases isNext
      exact ⟨consistent.emitClose, safe_emitClose (by simpa using isOpen)⟩

/-- A stream is safe along a run exactly when all steps of the run are favourable. -/
theorem safe_iff_allSteps {events : List WriteStreamEvent}
    (reached : Execution.run step {} events = some self) :
    self.Safe ↔ Execution.AllSteps step Favourable {} events := by
  have both := Execution.survives_iff_allSteps Consistent Safe
    (fun consistent stepped => (consistent.step stepped).1)
    (fun consistent stepped => (consistent.step stepped).2) consistent_new reached
  exact both.trans (and_iff_right (consistent_new.safe rfl rfl))

/-- Two chunks, the end and then the close: resolved. -/
theorem safe_upload : ∃ stream : SftpWriteStream,
    Execution.run step {}
        [.write [1], .accepted, .write [2], .end, .accepted, .closed] = some stream ∧
      stream.Safe ∧ stream.promise = .resolved [[1], [2]] [[1], [2]] := by
  obtain ⟨stream, reached⟩ : ∃ stream, Execution.run step {}
      [.write [1], .accepted, .write [2], .end, .accepted, .closed] = some stream :=
    ⟨_, rfl⟩
  have safe := (safe_iff_allSteps reached).mpr (by decide)
  cases reached
  exact ⟨_, rfl, safe, rfl⟩

/-- A failure between two writes is thrown, the end after a close waits for ever, and a close that
comes before the last chunk was accepted, or after a failure, makes the end resolve. -/
theorem unsafe_uploads :
    (Execution.run step {} [.write [1], .failed]).map (fun stream => stream.uncaught) =
        some true ∧
      (Execution.run step {} [.write [1], .closed, .end]).map
        (fun stream => (stream.closed, stream.promise)) = some (true, .pending) ∧
      (Execution.run step {} [.write [1], .end, .closed]).map (fun stream => stream.promise) =
        some (.resolved [[1]] []) ∧
      (Execution.run step {} [.write [1], .failed, .end, .closed]).map
        (fun stream => (stream.errored, stream.promise)) = some (true, .resolved [[1]] []) := by
  decide

end SftpWriteStream

end DshRemote.RemoteSsh
