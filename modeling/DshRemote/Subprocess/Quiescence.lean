import DshRemote.Subprocess.ChildGroup

/-! # What `waitForExit` has seen when it returns true

A probe of the group that has ended with an exit code, unless the connection is gone or the
spawn failed in time. What leads past the probe is that the exit of the child is known before
its group is, and a probe that ends without an exit code. -/

namespace DshRemote.Subprocess

open Json (asciiText)

/-! ## What holds of the handle -/

/-- `run` is in its `catch` or behind it, or has returned. -/
def RunPhase.isCaught : RunPhase → Bool
  | .rollingBack _ | .removing _ | .finished => true
  | _ => false

/-- The status that the outcome will be made of. -/
def RunPhase.status : RunPhase → Option Text
  | .flushing status | .draining status | .cutting status => some status
  | _ => none

namespace ProcessHandle

/-- What holds apart from where `run` is. -/
structure Kept (world : World) (handle : ProcessHandle) : Prop where
  transport : handle.transport = false → handle.lost = true
  ended : handle.ended.isSome = true → world.group.hasExited = true
  spawnFailed : handle.spawnFailed = true → handle.failure.isSome = true
  launched : handle.launched = .rejected → handle.failure.isSome = true
  failure : handle.failure.isSome = true → world.failedBefore = true ∨ world.group ≠ .absent
  started : 0 < handle.remotePgid → handle.started.isSettled = true
  proven : handle.quiescenceProven = true → world.Accounts handle.lost
  returned : ∀ wait ∈ handle.waits, wait = .returned (.ok true) → world.Accounts handle.lost

structure Sound (world : World) (handle : ProcessHandle) : Prop extends Kept world handle where
  status : handle.run.status.isSome = true → world.group.hasExited = true
  caught : handle.failure.isSome = true → handle.run.isCaught = true
  settled : handle.settled = true → handle.run = .finished
  finished : handle.run.isCaught = true →
    handle.failure.isSome = true ∨ world.group.hasExited = true

variable {world : World} {self next : ProcessHandle}

theorem takesExit_terminate (self : ProcessHandle) :
    self.terminate.takesExit = self.takesExit := by
  rw [terminate]
  split
  · rfl
  · rfl

theorem failure_terminate (self : ProcessHandle) : self.terminate.failure = self.failure := by
  rw [terminate]
  split
  · rfl
  · rfl

theorem settled_terminate (self : ProcessHandle) : self.terminate.settled = self.settled := by
  rw [terminate]
  split
  · rfl
  · rfl

/-- The step is no breach: the connection is gone, the spawn failed in time, or there is no
group. -/
def Excused (world : World) (lost : Bool) : Prop :=
  lost = true ∨ world.failedBefore = true ∨ world.group = .absent

theorem Excused.of_failure (sound : Sound world self) (excused : Excused world self.lost)
    (failed : self.failure.isSome = true ∨ world.group.hasExited = true) :
    world.Accounts self.lost := by
  rcases excused with lost | failedBefore | absent
  · exact Or.inl lost
  · exact Or.inr (Or.inl failedBefore)
  · rcases failed with failure | exited
    · rcases sound.failure failure with before | present
      · exact Or.inr (Or.inl before)
      · exact absurd absent present
    · rw [absent] at exited
      cases exited

theorem Excused.of_takesExit (sound : Sound world self) (excused : Excused world self.lost)
    (taken : self.takesExit = true) : world.Accounts self.lost := by
  refine excused.of_failure sound ?_
  simp only [takesExit, Bool.or_eq_true, Bool.and_eq_true] at taken
  rcases taken with spawnFailed | ⟨ended | settled, _⟩
  · exact Or.inl (sound.spawnFailed spawnFailed)
  · exact Or.inr (sound.ended ended)
  · exact sound.finished (by rw [sound.settled settled]; rfl)

theorem Excused.of_present {lost : Bool} (excused : Excused world lost)
    (present : world.group ≠ .absent) : world.Accounts lost := by
  rcases excused with isLost | failedBefore | absent
  · exact Or.inl isLost
  · exact Or.inr (Or.inl failedBefore)
  · exact absurd absent present

/-- A group id that the handle holds is the one of the child. -/
def World.Names (world : World) (pgid : Int) : Prop :=
  pgid = world.pgid ∧ world.group ≠ .absent

namespace Kept

theorem markQuiescent (kept : Kept world self) (accounts : world.Accounts self.lost) :
    Kept world self.markQuiescent :=
  { kept with proven := fun _ => accounts }

theorem issue (kept : Kept world self) (command : KillCommand) :
    Kept world (self.issue command) :=
  { kept with }

theorem terminate (kept : Kept world self) : Kept world self.terminate := by
  rw [ProcessHandle.terminate]
  split
  · exact kept
  · exact { kept with }

theorem accounts_mono {lost more : Bool} (implies : lost = true → more = true)
    (accounts : world.Accounts lost) : world.Accounts more := by
  rcases accounts with lost | others
  · exact Or.inl (implies lost)
  · exact Or.inr others

theorem withLost (kept : Kept world self) {lost : Bool}
    (implies : self.lost = true → lost = true) : Kept world { self with lost := lost } :=
  { kept with
    transport := fun gone => implies (kept.transport gone)
    proven := fun proven => accounts_mono implies (kept.proven proven)
    returned := fun wait member isTrue => accounts_mono implies (kept.returned wait member isTrue) }

/-! ### `waitForExit` -/

/-- A turn of the loop of `waitForExit` that is right if it returns true. -/
structure Turned (world : World) (handle : ProcessHandle) (next : ProcessHandle × WaitPhase) :
    Prop where
  kept : Kept world next.1
  returned : next.2 = .returned (.ok true) → world.Accounts next.1.lost
  run : next.1.run = handle.run
  failure : next.1.failure = handle.failure
  settled : next.1.settled = handle.settled

theorem stays (kept : Kept world self) {phase : WaitPhase}
    (other : phase ≠ .returned (.ok true)) : Turned world self (self, phase) :=
  ⟨kept, fun isTrue => absurd isTrue other, rfl, rfl, rfl⟩

theorem marks (kept : Kept world self) (accounts : world.Accounts self.lost) :
    Turned world self (self.markQuiescent, .returned (.ok true)) :=
  ⟨kept.markQuiescent accounts, fun _ => accounts, rfl, rfl, rfl⟩

theorem judge (kept : Kept world self) {exited alive : Bool} (aborted : Bool)
    (dead : exited = true → alive = false → world.Accounts self.lost) :
    Turned world self (self.judge exited alive aborted) := by
  rw [ProcessHandle.judge]
  split
  · next isDead =>
    rw [Bool.and_eq_true, Bool.not_eq_true'] at isDead
    exact kept.marks (dead isDead.1 isDead.2)
  · split
    · exact kept.stays (by simp)
    · exact kept.stays (by simp)

theorem probeGroup (kept : Kept world self) {exited : Bool} (aborted : Bool)
    (dead : exited = true → self.remotePgid ≤ 0 → world.Accounts self.lost) :
    Turned world self (self.probeGroup exited aborted) := by
  rw [ProcessHandle.probeGroup]
  split
  · exact ⟨kept.issue _, by simp, rfl, rfl, rfl⟩
  · next unknown => exact kept.judge aborted fun isSo _ => dead isSo (not_lt.mp unknown)

theorem turn (kept : Kept world self) (aborted : Bool)
    (calm : self.quiescenceProven = false → self.terminationFailure = none → aborted = false →
      self.takesExit = true → world.Accounts self.lost) :
    Turned world self (self.turn aborted) := by
  rw [ProcessHandle.turn]
  split
  · next proven => exact ⟨kept, fun _ => kept.proven proven, rfl, rfl, rfl⟩
  · next unproven =>
    split
    · exact kept.stays (by simp)
    · next noFailure =>
      split
      · exact kept.stays (by simp)
      · next notAborted =>
        have quiet := calm (by simpa using unproven) noFailure (by simpa using notAborted)
        split
        · next spawnFailed => exact kept.marks (quiet (by rw [takesExit, spawnFailed]; rfl))
        · split
          · next noTransport =>
            exact kept.marks (Or.inl (kept.transport (by simpa using noTransport)))
          · split
            · next exited =>
              refine kept.probeGroup aborted fun _ unknown => quiet ?_
              rw [takesExit, exited]
              simp [unknown]
            · exact kept.stays (by simp)

theorem waitFailed (kept : Kept world self) (fault : Fault) (aborted : Bool) :
    Turned world self (self.waitFailed fault aborted) := by
  have known : Kept world { self with lost := self.lost || fault.connLost } :=
    kept.withLost fun lost => by rw [lost]; rfl
  rw [ProcessHandle.waitFailed]
  split
  · exact ⟨known, by simp, rfl, rfl, rfl⟩
  · split
    · next connLost =>
      have gone : world.Accounts (self.lost || fault.connLost) :=
        Or.inl (by rw [connLost, Bool.or_true])
      exact ⟨known.markQuiescent gone, fun _ => gone, rfl, rfl, rfl⟩
    · exact ⟨known, by simp, rfl, rfl, rfl⟩

theorem waitForExit {aborted : Bool}
    (turns : Turned world self (self.turn aborted)) : Kept world (self.waitForExit aborted) :=
  { turns.kept with
    returned := by
      intro wait member isTrue
      rcases List.mem_append.mp member with old | isNew
      · exact turns.kept.returned wait old isTrue
      · rw [List.mem_singleton.mp isNew] at isTrue
        exact turns.returned isTrue }

end Kept

namespace Sound

theorem of_turned {turned : ProcessHandle × WaitPhase} (sound : Sound world self)
    (turns : Kept.Turned world self turned) : Sound world turned.1 :=
  { turns.kept with
    status := turns.run ▸ sound.status
    caught := by
      rw [turns.failure, turns.run]
      exact sound.caught
    settled := by
      rw [turns.settled, turns.run]
      exact sound.settled
    finished := by
      rw [turns.failure, turns.run]
      exact sound.finished }

theorem setWait {turned : ProcessHandle × WaitPhase} (index : Nat) (sound : Sound world self)
    (turns : Kept.Turned world self turned) : Sound world (setWait index turned) :=
  { sound.of_turned turns with
    returned := by
      intro wait member isTrue
      rcases List.mem_or_eq_of_mem_set member with old | rfl
      · exact turns.kept.returned wait old isTrue
      · exact turns.returned isTrue }

theorem waitForExit {aborted : Bool} (sound : Sound world self)
    (turns : Kept.Turned world self (self.turn aborted)) :
    Sound world (self.waitForExit aborted) :=
  { sound.of_turned turns with returned := (Kept.waitForExit turns).returned }

theorem terminate (sound : Sound world self) : Sound world self.terminate := by
  rw [ProcessHandle.terminate]
  split
  · exact sound
  · exact { sound with }

theorem withLost (sound : Sound world self) {lost : Bool}
    (implies : self.lost = true → lost = true) : Sound world { self with lost := lost } :=
  { sound with
    transport := (sound.toKept.withLost implies).transport
    proven := (sound.toKept.withLost implies).proven
    returned := (sound.toKept.withLost implies).returned }

theorem attemptDone (sound : Sound world self) (accounts : world.Accounts self.lost) :
    Sound world self.attemptDone :=
  { sound with proven := fun _ => accounts }

theorem attempting (sound : Sound world self) (phase : TerminationPhase) :
    Sound world (self.attempting phase) :=
  { sound with }

/-! ### The attempt to terminate -/

theorem sendSignal (sound : Sound world self) (kill : Bool) (pgid : Int) :
    Sound world (self.sendSignal kill pgid) :=
  { sound with }

theorem probeForDeath (sound : Sound world self) (kill : Bool) (pgid : Int) :
    Sound world (self.probeForDeath kill pgid) :=
  { sound with }

theorem stillAlive (sound : Sound world self) (kill : Bool) (pgid : Int) (error : Text) :
    Sound world (self.stillAlive kill pgid error) := by
  rw [ProcessHandle.stillAlive]
  split
  · exact sound.attempting _
  · exact sound.sendSignal true pgid

theorem attemptStarted (sound : Sound world self) (pgid : Int) :
    Sound world (self.attemptStarted pgid) := by
  rw [ProcessHandle.attemptStarted]
  split
  · exact sound.attempting _
  · split
    · next noTransport =>
      exact sound.attemptDone (Or.inl (sound.transport (by simpa using noTransport)))
    · exact sound.sendSignal false pgid

theorem attemptResumed {phase : TerminationPhase} (sound : Sound world self)
    (isAt : self.terminationAttempt = some phase)
    (calm : self.concludes .attemptResumed = true → Excused world self.lost)
    (resumed : self.attemptResumed phase = some next) : Sound world next := by
  rw [concludes, isAt] at calm
  unfold ProcessHandle.attemptResumed at resumed
  split at resumed
  · split at resumed
    · cases resumed
    · next rejected =>
      cases resumed
      have failed := sound.launched rejected
      exact sound.attemptDone ((calm (decide_eq_true rejected)).of_failure sound (Or.inl failed))
    · cases resumed
      exact sound.attempting _
  · split at resumed
    · cases resumed
    · cases resumed
      exact sound.attemptStarted _
    · cases resumed
      exact sound.attemptStarted _
  · split at resumed
    · next settled =>
      cases resumed
      have ended := sound.finished (by rw [sound.settled settled]; rfl)
      exact sound.attemptDone ((calm settled).of_failure sound ended)
    · cases resumed
  · cases resumed

theorem attemptCaptured {phase : TerminationPhase} {capture : Capture} {expired : Bool}
    (sound : Sound world self)
    (dead : ∀ kill pgid code stdout stderr, phase = .probing kill pgid →
      capture = .completed code stdout stderr → code ≠ some 0 → world.Accounts self.lost)
    (captured : self.attemptCaptured capture expired phase = some next) : Sound world next := by
  unfold ProcessHandle.attemptCaptured at captured
  split at captured
  · split at captured
    · split at captured
      · cases captured
        exact (sound.withLost fun _ => rfl).probeForDeath _ _
      · cases captured
        exact sound.sendSignal _ _
    · cases captured
      exact sound.probeForDeath _ _
  · cases captured
    have known : Sound world { self with lost := self.lost || capture.connLost } :=
      sound.withLost fun lost => by rw [lost]; rfl
    exact known.attempting _
  · next kill pgid =>
    split at captured
    · split at captured
      · cases captured
        have known : Sound world { self with lost := true } := sound.withLost fun _ => rfl
        exact known.attemptDone (Or.inl rfl)
      · cases captured
        exact sound.stillAlive _ _ _
    · next code stdout stderr =>
      split at captured
      · next isDead =>
        cases captured
        exact sound.attemptDone (dead kill pgid code stdout stderr rfl rfl isDead)
      · split at captured
        · cases captured
          exact sound.stillAlive _ _ _
        · cases captured
          exact sound.attempting _
  · cases captured

theorem attemptClosed {phase : TerminationPhase} {fault : Option Fault}
    (sound : Sound world self) (closed : self.attemptClosed fault phase = some next) :
    Sound world next := by
  unfold ProcessHandle.attemptClosed at closed
  split at closed
  · split at closed
    · cases closed
      exact sound.attempting _
    · cases closed
      exact sound.attempting _
  · cases closed
    exact sound.probeForDeath _ _
  · cases closed

/-! ### `run` -/

theorem notFailed (sound : Sound world self) (running : self.run.isCaught = false) :
    self.failure = none := by
  cases failure : self.failure with
  | none => rfl
  | some error =>
      have caught := sound.caught (by rw [failure]; rfl)
      rw [running] at caught
      cases caught

theorem notSettled (sound : Sound world self) (running : self.run.isCaught = false) :
    self.settled = false := by
  cases settled : self.settled with
  | false => rfl
  | true =>
      rw [sound.settled settled] at running
      cases running

/-- What a failure has to come with: the spawn failed in time, or there is a group. -/
theorem fail (sound : Sound world self) (running : self.run.isCaught = false)
    (known : world.failedBefore = true ∨ world.group ≠ .absent) (error : Text) :
    Sound world (self.fail error) := by
  have noFailure := sound.notFailed running
  have notSpawnFailed : self.spawnFailed = false := by
    cases spawnFailed : self.spawnFailed with
    | false => rfl
    | true =>
        have failed := sound.spawnFailed spawnFailed
        rw [noFailure] at failed
        cases failed
  have rejects : ∀ {pgid : Int}, 0 < pgid → (0 < pgid → self.started.isSettled = true) →
      self.started.reject.isSettled = true := by
    intro pgid positive settled
    cases started : self.started with
    | pending => rfl
    | resolved value => rfl
    | rejected => rfl
  rw [ProcessHandle.fail]
  dsimp only
  split
  · next rollsBack =>
    have isStarted := sound.started rollsBack.1
    have unsettled := sound.notSettled running
    -- The group id is there, so `spawnFailed` stays as it was.
    have stillFalse : (self.spawnFailed ||
        (!self.started.isSettled && !self.ended.isSome && !self.failed.isSome)) = false := by
      rw [notSpawnFailed, isStarted]
      rfl
    rw [stillFalse]
    have caught : Kept world { self with
        failure := some error, spawnFailed := false
        started := self.started.reject, launched := self.launched.reject } :=
      { sound with
        spawnFailed := by simp
        launched := fun _ => rfl
        failure := fun _ => known
        started := fun positive => rejects positive sound.started }
    have turns := caught.terminate.turn false (by
      intro _ _ _ taken
      rw [takesExit_terminate, takesExit] at taken
      simp only [Bool.false_or, Bool.and_eq_true, decide_eq_true_eq] at taken
      exact absurd rollsBack.1 (not_lt.mpr taken.2))
    have failed := turns.failure.trans (failure_terminate _)
    have settled := turns.settled.trans (settled_terminate _)
    exact { Kept.waitForExit turns with
      status := fun impossible => by cases impossible
      caught := fun _ => rfl
      settled := fun isSettled => by
        have : (false : Bool) = true := unsettled.symm.trans (settled.symm.trans isSettled)
        cases this
      finished := fun _ => Or.inl (congrArg Option.isSome failed) }
  · exact { sound with
      status := fun impossible => by cases impossible
      spawnFailed := fun _ => rfl
      launched := fun _ => rfl
      caught := fun _ => rfl
      settled := fun settled => by
        have unsettled := sound.notSettled running
        dsimp only at settled
        rw [unsettled] at settled
        cases settled
      finished := fun _ => Or.inl rfl
      failure := fun _ => known
      started := fun positive => rejects positive sound.started }

theorem finish (sound : Sound world self) (outcome : Except Text SubprocessOutcome)
    (ended : self.failure.isSome = true ∨ world.group.hasExited = true) :
    Sound world (self.finish outcome) :=
  { sound with
    status := nofun
    caught := fun _ => rfl
    settled := fun _ => rfl
    finished := fun _ => ended }

/-- An outcome is made of a status, which there is once the child has exited. -/
theorem finishOutcome (sound : Sound world self) (running : self.run.isCaught = false)
    (exited : world.group.hasExited = true) (statusText : Text) :
    Sound world (self.finishOutcome statusText) := by
  have known : world.failedBefore = true ∨ world.group ≠ .absent := by
    refine Or.inr fun absent => ?_
    rw [absent] at exited
    cases exited
  rw [ProcessHandle.finishOutcome]
  split
  · exact sound.fail running known _
  · split
    · exact sound.fail running known _
    · exact sound.finish _ (Or.inr exited)

theorem withRun (sound : Sound world self) (running : self.run.isCaught = false)
    {run : RunPhase} (stillRunning : run.isCaught = false)
    (status : run.status.isSome = true → world.group.hasExited = true) :
    Sound world { self with run := run } :=
  { sound with
    status := status
    caught := fun failed => by
      dsimp only at failed
      rw [sound.notFailed running] at failed
      cases failed
    settled := fun settled => by
      dsimp only at settled
      rw [sound.notSettled running] at settled
      cases settled
    finished := fun caught => by
      dsimp only at caught
      rw [stillRunning] at caught
      cases caught }

theorem expireDrain (sound : Sound world self) : Sound world self.expireDrain :=
  { sound with }

end Sound

theorem failure_fail (self : ProcessHandle) (error : Text) :
    (self.fail error).failure = some error := by
  have kept : ∀ (handle : ProcessHandle) (exited alive aborted : Bool),
      (handle.judge exited alive aborted).1.failure = handle.failure := by
    intro handle exited alive aborted
    rw [judge]
    split
    · rfl
    · split
      · rfl
      · rfl
  have turned : ∀ (handle : ProcessHandle) (aborted : Bool),
      (handle.turn aborted).1.failure = handle.failure := by
    intro handle aborted
    rw [turn]
    split
    · rfl
    · split
      · rfl
      · split
        · rfl
        · split
          · rfl
          · split
            · rfl
            · split
              · rw [probeGroup]
                split
                · rfl
                · exact kept _ _ _ _
              · rfl
  rw [fail]
  dsimp only
  split
  · exact (turned _ false).trans (failure_terminate _)
  · rfl

/-- A failure comes with what it has to come with: the spawn failed in time, or there is a
group. -/
def FailsRightly (world : World) (handle next : ProcessHandle) : Prop :=
  handle.failure = none → next.failure.isSome = true →
    world.failedBefore = true ∨ world.group ≠ .absent

namespace Sound

theorem failing (sound : Sound world self) (running : self.run.isCaught = false) {error : Text}
    (rightly : FailsRightly world self (self.fail error)) : Sound world (self.fail error) :=
  sound.fail running
    (rightly (sound.notFailed running) (by rw [failure_fail]; rfl)) error

theorem raced {winner : RaceWinner} (sound : Sound world self) (racing : self.run = .racing)
    (allowed : world.allows self (.raced winner) = true) (rightly : FailsRightly world self next)
    (won : self.raced winner = some next) : Sound world next := by
  have running : self.run.isCaught = false := by rw [racing]; rfl
  cases winner with
  | ended =>
      rcases Option.map_eq_some_iff.mp won with ⟨status, ended, rfl⟩
      exact sound.withRun running rfl fun _ => sound.ended (by rw [ended]; rfl)
  | failed =>
      rcases Option.map_eq_some_iff.mp won with ⟨message, _, rfl⟩
      exact sound.failing running rightly
  | status text =>
      rw [ProcessHandle.raced] at won
      split at won
      · cases won
        exact sound.withRun running rfl fun _ => allowed
      · cases won
  | closed =>
      rw [ProcessHandle.raced] at won
      split at won
      · cases won
        exact sound.withRun running rfl fun impossible => by cases impossible
      · cases won

theorem classify (sound : Sound world self) (closing : self.run = .closing)
    (rightly : FailsRightly world self self.classify) : Sound world self.classify := by
  have running : self.run.isCaught = false := by rw [closing]; rfl
  unfold ProcessHandle.classify at rightly ⊢
  split at rightly
  · exact sound.failing running rightly
  · next status _ ended =>
    exact sound.finishOutcome running (sound.ended (by rw [ended]; rfl)) status
  · exact sound.withRun running rfl nofun

theorem statusRead {text : Option Text} (sound : Sound world self)
    (reading : self.run = .readingStatus) (allowed : world.allows self (.statusRead text) = true)
    (rightly : FailsRightly world self (self.statusRead text)) :
    Sound world (self.statusRead text) := by
  have running : self.run.isCaught = false := by rw [reading]; rfl
  unfold ProcessHandle.statusRead at rightly ⊢
  split at rightly
  · next status isStatus =>
    have exited : world.group.hasExited = true := by
      rcases Option.filter_eq_some_iff.mp isStatus with ⟨rfl, isText⟩
      have published : isPublished (some status) = true := isText
      simpa [World.allows, published] using allowed
    exact sound.expireDrain.finishOutcome running exited status
  · split at rightly
    · next unstarted =>
      rw [if_pos unstarted]
      exact sound.failing running rightly
    · next started =>
      rw [if_neg started]
      exact sound.failing running rightly

theorem rolledBack (sound : Sound world self) {wait : Nat} (rolling : self.run = .rollingBack wait)
    (result : Except Text Bool) : Sound world (self.rolledBack result) := by
  have caught : self.run.isCaught = true := by rw [rolling]; rfl
  have unsettled : self.settled ≠ true := by
    intro settled
    have finished := sound.settled settled
    rw [rolling] at finished
    cases finished
  cases result with
  | ok value =>
      exact { sound with
        status := nofun
        caught := fun _ => rfl
        settled := fun settled => absurd settled unsettled
        finished := fun _ => sound.finished caught }
  | error message =>
      have failed : world.failedBefore = true ∨ world.group ≠ .absent := by
        rcases sound.finished caught with failure | exited
        · exact sound.failure failure
        · refine Or.inr fun absent => ?_
          rw [absent] at exited
          cases exited
      exact { sound with
        spawnFailed := fun _ => rfl
        launched := fun _ => rfl
        failure := fun _ => failed
        status := nofun
        caught := fun _ => rfl
        settled := fun settled => absurd settled unsettled
        finished := fun _ => Or.inl rfl }

theorem onControl {line : Text} (sound : Sound world self)
    (allowed : world.allows self (.control line) = true) :
    Sound world (self.onControl line) := by
  rw [World.allows] at allowed
  unfold ProcessHandle.onControl
  split
  · exact { sound with }
  · next rest isStart =>
    split
    · next pgid parsed =>
      refine { sound with started := fun _ => ?_ }
      dsimp only
      cases self.started with
      | pending => rfl
      | resolved value => rfl
      | rejected => rfl
    · exact { sound with }
  · exact { sound with }
  · next rest isEnd =>
    rw [isEnd] at allowed
    exact { sound with ended := fun _ => allowed }

/-! ### Steps -/

/-- A probe that has come to its end without the exit code 0 accounts for the group. -/
theorem accounts_of_probe {event : ProcessEvent} {pgid : Int} {code : Option Int}
    (names : World.Names world pgid) (result : self.probeResult event = some (pgid, code))
    (dead : code ≠ some 0)
    (allowed : ∀ number, code = some number →
      number = 0 ∨ pgid ≠ world.pgid ∨ world.group = .empty)
    (calm : code = none → Excused world self.lost)
    (found : ∀ pgid number, self.probeResult event = some (pgid, some number) → number ≠ 0 →
      pgid = world.pgid → world.foundEmpty = true) : world.Accounts self.lost := by
  cases code with
  | none => exact (calm rfl).of_present names.2
  | some number =>
      have nonzero : number ≠ 0 := by
        rintro rfl
        exact dead rfl
      rcases allowed number rfl with isZero | other | empty
      · exact absurd isZero nonzero
      · exact absurd names.1 other
      · exact Or.inr (Or.inr ⟨found pgid number result nonzero names.1, empty⟩)

theorem resolve (sound : Sound world self) :
    Sound world { self with launched := self.launched.resolve () } :=
  { sound with
    launched := by
      intro rejected
      refine sound.launched ?_
      dsimp only at rejected
      cases isLaunched : self.launched with
      | pending | resolved =>
          rw [isLaunched] at rejected
          cases rejected
      | rejected => rfl }

theorem step {event : ProcessEvent} (sound : Sound world self)
    (carries : self.Carries (World.Names world))
    (allowed : world.allows self event = true)
    (calm : self.concludes event = true → Excused world self.lost)
    (rightly : FailsRightly world self next)
    (found : ∀ pgid code, self.probeResult event = some (pgid, some code) → code ≠ 0 →
      pgid = world.pgid → world.foundEmpty = true)
    (stepped : self.step event = some next) : Sound world next := by
  cases stepped_of_step stepped with
  | unprepared error running | unopened error _ running =>
      exact sound.failing (by rw [running]; rfl) rightly
  | prepared running => exact sound.withRun (by rw [running]; rfl) rfl nofun
  | unwritten error running =>
      exact sound.resolve.failing (by rw [running]; rfl) rightly
  | opened running => exact sound.resolve.withRun (by rw [running]; rfl) rfl nofun
  | control line => exact sound.onControl allowed
  | diagnostic | pumpFailed | channelClosed | attemptForgotten => exact { sound with }
  | raced racing won => exact sound.raced racing allowed rightly won
  | expired draining =>
      have running : self.run.isCaught = false := by rw [draining]; rfl
      exact sound.expireDrain.withRun running rfl fun _ => sound.status (by rw [draining]; rfl)
  | drained running | channelCut running =>
      refine sound.withRun (by rw [running]; rfl) rfl fun _ => ?_
      exact sound.status (by rw [running]; rfl)
  | flushed flushing =>
      exact sound.finishOutcome (by rw [flushing]; rfl) (sound.status (by rw [flushing]; rfl)) _
  | closed closing => exact sound.classify closing rightly
  | statusRead text reading => exact sound.statusRead reading allowed rightly
  | rolledBack result rolling => exact sound.rolledBack rolling result
  | dirRemoved removing => exact sound.finish _ (sound.finished (by rw [removing]; rfl))
  | connectionLost => exact sound.withLost fun _ => rfl
  | transportLost =>
      exact { sound.withLost (fun _ => rfl : self.lost = true → true = true) with
        transport := fun _ => rfl }
  | transportBack => exact { sound with transport := nofun }
  | terminate => exact sound.terminate
  | attemptResumed isAt resumed => exact sound.attemptResumed isAt calm resumed
  | @attemptCaptured _ expired _ _ isAt captured =>
      refine sound.attemptCaptured ?_ captured
      rintro kill pgid code stdout stderr rfl rfl dead
      have result : self.probeResult (.attemptCaptured (.completed code stdout stderr) expired) =
          some (pgid, code) := by
        rw [probeResult, isAt]
      refine accounts_of_probe (carries.attempt _ isAt pgid rfl) result dead ?_ ?_ found
      · rintro number rfl
        rw [World.allows, result] at allowed
        · simpa using allowed
        all_goals nofun
      · rintro rfl
        exact calm (by rw [concludes, isAt])
  | attemptClosed _ closed => exact sound.attemptClosed closed
  | attemptPaused => exact sound.probeForDeath _ _
  | waitForExit aborted =>
      refine sound.waitForExit (sound.toKept.turn aborted fun unproven noFailure running taken => ?_)
      refine Excused.of_takesExit sound (calm ?_) taken
      rw [concludes, unproven, noFailure, running, taken]
      rfl
  | statusUnread index fault aborted | waitUnprobed index fault aborted =>
      exact sound.setWait index (sound.toKept.waitFailed fault aborted)
  | waitStatusRead index code stdout stderr aborted =>
      refine sound.setWait index (sound.toKept.probeGroup aborted fun published unknown => ?_)
      have exited : world.group.hasExited = true := by
        simpa [World.allows, published] using allowed
      refine Excused.of_failure sound (calm ?_) (Or.inr exited)
      rw [concludes, published, decide_eq_true unknown]
      rfl
  | @waitProbed index _ pgid code stdout stderr aborted isAt =>
      have names := carries.waits _ (List.mem_of_getElem? isAt) pgid rfl
      have result : self.probeResult (.waitProbed index (.completed code stdout stderr) aborted) =
          some (pgid, code) := by
        rw [probeResult, isAt]
      refine sound.setWait index (sound.toKept.judge aborted fun hasExited notAlive => ?_)
      refine accounts_of_probe names result (of_decide_eq_false notAlive) ?_ ?_ found
      · rintro number rfl
        rw [World.allows, result] at allowed
        · simpa using allowed
        all_goals nofun
      · rintro rfl
        refine calm ?_
        rw [concludes, isAt]
        exact hasExited
  | waitAborted index => exact sound.setWait index (sound.toKept.stays nofun)
  | waitTicked index =>
      refine sound.setWait index (sound.toKept.turn false fun unproven noFailure _ taken => ?_)
      refine Excused.of_takesExit sound (calm ?_) taken
      rw [concludes, unproven, noFailure, taken]
      rfl

end Sound

end ProcessHandle

/-! ## Scenes -/

/-- The remote side goes on, and what has been recorded stays. -/
structure World.Advances (world later : World) : Prop where
  pgid : later.pgid = world.pgid
  present : world.group ≠ .absent → later.group ≠ .absent
  exited : world.group.hasExited = true → later.group.hasExited = true
  empty : world.group = .empty → later.group = .empty
  failedBefore : world.failedBefore = true → later.failedBefore = true
  foundEmpty : world.foundEmpty = true → later.foundEmpty = true

namespace ProcessHandle

variable {world later : World} {self next : ProcessHandle}

theorem accounts_later (advances : world.Advances later) {lost : Bool}
    (accounts : world.Accounts lost) : later.Accounts lost := by
  rcases accounts with isLost | failedBefore | ⟨foundEmpty, empty⟩
  · exact Or.inl isLost
  · exact Or.inr (Or.inl (advances.failedBefore failedBefore))
  · exact Or.inr (Or.inr ⟨advances.foundEmpty foundEmpty, advances.empty empty⟩)

theorem Sound.advanced (sound : Sound world self) (advances : world.Advances later) :
    Sound later self where
  transport := sound.transport
  ended ended := advances.exited (sound.ended ended)
  spawnFailed := sound.spawnFailed
  launched := sound.launched
  failure failed := (sound.failure failed).imp advances.failedBefore advances.present
  started := sound.started
  proven proven := accounts_later advances (sound.proven proven)
  returned wait member isTrue := accounts_later advances (sound.returned wait member isTrue)
  status status := advances.exited (sound.status status)
  caught := sound.caught
  settled := sound.settled
  finished caught := (sound.finished caught).imp_right advances.exited

theorem Carries.imp {condition weaker : Int → Prop} (carries : self.Carries condition)
    (implies : ∀ pgid, condition pgid → weaker pgid) : self.Carries weaker where
  published positive := implies _ (carries.published positive)
  started pgid same := implies _ (carries.started pgid same)
  attempt phase member pgid isGroup := implies _ (carries.attempt phase member pgid isGroup)
  waits wait member pgid isGroup := implies _ (carries.waits wait member pgid isGroup)
  issued command member pgid isTarget := implies _ (carries.issued command member pgid isTarget)

theorem Carries.advanced (carries : self.Carries (World.Names world))
    (advances : world.Advances later) : self.Carries (World.Names later) :=
  carries.imp fun _ names => ⟨names.1.trans advances.pgid.symm, advances.present names.2⟩

theorem sound_fresh (world : World) {transport : Bool} :
    Sound world { transport := transport, lost := !transport } where
  transport gone := by
    dsimp only at gone
    rw [gone]
    rfl
  ended := nofun
  spawnFailed := nofun
  launched := nofun
  failure := nofun
  started positive := absurd positive (show ¬(0 : Int) < -1 by decide)
  proven := nofun
  returned := nofun
  status := nofun
  caught := nofun
  settled := nofun
  finished := nofun

/-- A constructor that fails has failed before there was a group. -/
theorem sound_create {transport root aborted : Bool}
    (before : (create transport root aborted).failure.isSome = true → world.failedBefore = true) :
    Sound world (create transport root aborted) := by
  have fresh : Sound world { transport := transport, lost := !transport } := sound_fresh world
  have fails : ∀ error : Text,
      (create transport root aborted).failure =
        (({ transport := transport, lost := !transport } : ProcessHandle).fail error).failure →
      Sound world (({ transport := transport, lost := !transport } : ProcessHandle).fail error) := by
    intro error same
    refine fresh.fail rfl (Or.inl (before ?_)) error
    rw [same, failure_fail]
    rfl
  have begun : ∀ {handle : ProcessHandle}, Sound world handle →
      Sound world (if aborted then handle.terminate else handle) := by
    intro handle sound
    split
    · exact sound.terminate
    · exact sound
  have failure : ∀ handle : ProcessHandle,
      (if aborted then handle.terminate else handle).failure = handle.failure := by
    intro handle
    split
    · exact failure_terminate handle
    · rfl
  rw [create] at fails ⊢
  rw [failure] at fails
  refine begun ?_
  split
  · next noTransport =>
    rw [if_pos noTransport] at fails
    exact fails _ rfl
  · next isThere =>
    rw [if_neg isThere] at fails
    split
    · next noRoot =>
      rw [if_pos noRoot] at fails
      exact fails _ rfl
    · exact fresh

end ProcessHandle

namespace Scene

open ProcessHandle

variable {self next : Scene}

structure Sound (scene : Scene) : Prop where
  handle : ProcessHandle.Sound scene.world scene.handle
  carries : scene.handle.Carries (World.Names scene.world)

theorem advances_after (world : World) (handle next : ProcessHandle) (event : ProcessEvent) :
    world.Advances (world.after handle next event) where
  pgid := rfl
  present := id
  exited := id
  empty := id
  failedBefore before := by simp [World.after, before]
  foundEmpty found := by simp [World.after, found]

theorem Sound.move (sound : self.Sound) {world : World} (advances : self.world.Advances world) :
    Scene.Sound { self with world := world } :=
  ⟨sound.handle.advanced advances, sound.carries.advanced advances⟩

theorem Sound.step {event : SceneEvent} (sound : self.Sound)
    (timely : self.premature event = false) (stepped : self.step event = some next) :
    next.Sound := by
  cases event with
  | childStarted =>
      rw [Scene.step] at stepped
      split at stepped
      · next free =>
        cases stepped
        refine sound.move ⟨rfl, nofun, fun exited => ?_, fun empty => ?_, id, id⟩
        · rw [free.1] at exited
          cases exited
        · rw [free.1] at empty
          cases empty
      · cases stepped
  | childExited =>
      rw [Scene.step] at stepped
      split at stepped
      · next isRunning =>
        cases stepped
        refine sound.move ⟨rfl, nofun, fun _ => rfl, fun empty => ?_, id, id⟩
        rw [isRunning] at empty
        cases empty
      · cases stepped
  | groupEmptied =>
      rw [Scene.step] at stepped
      split at stepped
      · cases stepped
        exact sound.move ⟨rfl, nofun, fun _ => rfl, fun _ => rfl, id, id⟩
      · cases stepped
  | handle event =>
      rw [Scene.step] at stepped
      split at stepped
      · next allowed =>
        rcases Option.map_eq_some_iff.mp stepped with ⟨after, handleStep, rfl⟩
        have advances := advances_after self.world self.handle after event
        have carries := sound.carries.advanced advances
        refine ⟨(sound.handle.advanced advances).step carries allowed ?_ ?_ ?_ handleStep, ?_⟩
        · intro concluded
          rw [premature, concluded, Bool.and_true, Bool.and_eq_false_iff,
            Bool.and_eq_false_iff] at timely
          rcases timely with (live | unfailed) | absent
          · exact Or.inl (by simpa using live)
          · exact Or.inr (Or.inl (advances.failedBefore (by simpa using unfailed)))
          · have isAbsent : self.world.group = .absent := by simpa using absent
            exact Or.inr (Or.inr isAbsent)
        · intro noFailure failed
          by_cases absent : self.world.group = .absent
          · refine Or.inl ?_
            simp [World.after, noFailure, failed, absent]
          · exact Or.inr absent
        · intro pgid code result nonzero isOurs
          have isOurs : pgid = self.world.pgid := isOurs
          simp [World.after, result, nonzero, isOurs]
        · refine carries.step (fun line rest pgid isLine isStart parsed => ?_) handleStep
          subst isLine
          rw [World.allows, isStart] at allowed
          simp only [parsed, decide_eq_true_eq] at allowed
          exact allowed
      · cases stepped

theorem sound_start (pgid : Int) (transport root aborted : Bool) :
    (start pgid transport root aborted).Sound :=
  ⟨sound_create id, .create transport root aborted⟩

/-- In every run in which no step is premature, a call of `waitForExit` has returned true only
for a lost connection, a spawn that failed in time, or a completed probe of the empty group.
So has quiescence been recorded. -/
theorem waitForExit_accounts {pgid : Int} {transport root aborted : Bool}
    {events : List SceneEvent} {scene : Scene}
    (reached : Execution.run step (start pgid transport root aborted) events = some scene)
    (timely : Execution.AllSteps step (fun scene event => scene.premature event = false)
      (start pgid transport root aborted) events) :
    (∀ wait ∈ scene.handle.waits, wait = .returned (.ok true) →
        scene.world.Accounts scene.handle.lost) ∧
      (scene.handle.quiescenceProven = true → scene.world.Accounts scene.handle.lost) := by
  have sound : scene.Sound := Execution.run_invariant Scene.Sound
    (fun sound timely stepped => sound.step timely stepped)
    (sound_start pgid transport root aborted) timely reached
  exact ⟨sound.handle.returned, sound.handle.proven⟩

/-- A child that has started, with a handle that has processed its `START` frame or not. -/
def spawning (started : Bool) : List SceneEvent :=
  [.handle (.prepared none), .handle (.opened none none), .childStarted] ++
    if started then [.handle (.control (asciiText "!DSHSSH START 1717"))] else []

/-- The child exits and leaves a descendant, which a probe finds; a later one does not. -/
def observed : List SceneEvent :=
  spawning true ++
    [.childExited, .handle (.waitForExit false),
      .handle (.waitStatusRead 0 (.completed (some 0) (asciiText "exit:0\n") []) false),
      .handle (.waitProbed 0 (.completed (some 0) [] []) false), .groupEmptied,
      .handle (.control (asciiText "!DSHSSH END exit:0")), .handle (.waitTicked 0 false),
      .handle (.waitProbed 0 (.completed (some 1) [] []) false)]

theorem waitForExit_accounts_observed :
    ∃ scene, Execution.run step (start 1717 true true false) observed = some scene ∧
      scene.handle.waits.length = 1 ∧ scene.handle.quiescenceProven = true ∧
      scene.world.Accounts scene.handle.lost :=
  ⟨_, rfl, by decide, by decide,
    (@waitForExit_accounts 1717 true true false observed _ rfl (by decide)).2 (by decide)⟩

/-- The status file is read before the `START` frame is processed. -/
def overtaken : List SceneEvent :=
  spawning false ++
    [.childExited, .handle (.waitForExit false),
      .handle (.waitStatusRead 0 (.completed (some 0) (asciiText "exit:0\n") []) false)]

/-- The call is aborted during its probe, which closes the channel of the probe. -/
def abandoned : List SceneEvent :=
  spawning true ++
    [.childExited, .handle (.control (asciiText "!DSHSSH END exit:0")),
      .handle (.waitForExit false), .handle (.waitProbed 0 (.completed none [] []) true)]

/-- Either way `waitForExit` returns true over a live connection, while a descendant is still
in the group. -/
theorem returns_early :
    (∃ scene, Execution.run step (start 1717 true true false) overtaken = some scene ∧
      (∃ wait ∈ scene.handle.waits, wait = .returned (.ok true)) ∧
      scene.world.group = .orphaned ∧ ¬scene.world.Accounts scene.handle.lost) ∧
    ∃ scene, Execution.run step (start 1717 true true false) abandoned = some scene ∧
      (∃ wait ∈ scene.handle.waits, wait = .returned (.ok true)) ∧
      scene.world.group = .orphaned ∧ ¬scene.world.Accounts scene.handle.lost := by
  constructor
  · refine ⟨_, rfl, ⟨_, List.mem_singleton_self _, rfl⟩, rfl, ?_⟩
    rintro (lost | before | ⟨found, _⟩)
    · cases lost
    · cases before
    · cases found
  · refine ⟨_, rfl, ⟨_, List.mem_singleton_self _, rfl⟩, rfl, ?_⟩
    rintro (lost | before | ⟨found, _⟩)
    · cases lost
    · cases before
    · cases found

end Scene

end DshRemote.Subprocess
