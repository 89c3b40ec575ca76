import DshRemote.Subprocess.ProcessHandle

/-! # Where `run` is

Most steps of a handle leave `run` where it is. The others happen while `done` is not settled,
and the waits they lead to say what has happened. -/

namespace DshRemote.Subprocess

namespace ProcessHandle

/-- What the waits of `run` say about its result. -/
structure Wound (handle : ProcessHandle) : Prop where
  settled : handle.settled = true → handle.run = .finished
  removing : ∀ canceled, handle.run = .removing canceled → handle.failure.isSome = true
  rolling : ∀ wait, handle.run = .rollingBack wait → handle.failure.isSome = true

/-- `run` stays where it is. -/
structure Still (handle next : ProcessHandle) : Prop where
  run : next.run = handle.run
  settled : next.settled = handle.settled
  failure : next.failure = handle.failure
  expired : next.outputDrainExpired = handle.outputDrainExpired

/-- A call of `waitForExit` leaves alone what `run` goes by. -/
structure Watching (handle next : ProcessHandle) : Prop extends Still handle next where
  failed : next.failed = handle.failed
  ended : next.ended = handle.ended
  troubled : next.outputTransportError = handle.outputTransportError
  requested : next.terminationRequested = handle.terminationRequested
  attempt : next.terminationAttempt = handle.terminationAttempt

/-- The events with which `done` may settle. -/
def Settles (next : ProcessHandle) : ProcessEvent → Prop
  | .flushed => True
  | .dirRemoved => True
  | .statusRead _ => next.outputDrainExpired = true
  | _ => False

/-- `run` goes on, which it does only while `done` has not settled. -/
structure Moved (handle : ProcessHandle) (event : ProcessEvent) (next : ProcessHandle) : Prop where
  unsettled : handle.settled = false
  wound : next.Wound
  settles : next.settled = true → next.Settles event

variable {self next : ProcessHandle} {event : ProcessEvent}

/-! ### Steps -/

/-- What each event does where it is possible. -/
inductive Stepped (self : ProcessHandle) : ProcessEvent → ProcessHandle → Prop
  | unprepared (error : Text) (running : self.run = .preparing) :
      Stepped self (.prepared (some error)) (self.fail error)
  | prepared (running : self.run = .preparing) :
      Stepped self (.prepared none) { self with run := .opening }
  | unopened (error : Text) (writeFault : Option Text) (running : self.run = .opening) :
      Stepped self (.opened (some error) writeFault) (self.fail error)
  | unwritten (error : Text) (running : self.run = .opening) :
      Stepped self (.opened none (some error))
        (fail { self with launched := self.launched.resolve () } error)
  | opened (running : self.run = .opening) :
      Stepped self (.opened none none)
        { self with launched := self.launched.resolve (), run := .racing }
  | control (line : Text) : Stepped self (.control line) (self.onControl line)
  | diagnostic (line : Text) :
      Stepped self (.diagnostic line) { self with diagnostics := self.diagnostics ++ [line] }
  | pumpFailed (message : Text) :
      Stepped self (.pumpFailed message)
        { self with outputTransportError := self.outputTransportError.or (some message) }
  | channelClosed : Stepped self .channelClosed { self with channelClosed := true }
  | raced {winner : RaceWinner} {next : ProcessHandle} (running : self.run = .racing)
      (raced : self.raced winner = some next) : Stepped self (.raced winner) next
  | expired {status : Text} (running : self.run = .draining status) :
      Stepped self (.drained true) { self.expireDrain with run := .cutting status }
  | drained {status published : Text} (running : self.run = .draining status)
      (ended : self.ended = some published) :
      Stepped self (.drained false) { self with run := .flushing published }
  | channelCut {status : Text} (running : self.run = .cutting status) :
      Stepped self .channelCut { self with run := .flushing status }
  | flushed {status : Text} (running : self.run = .flushing status) :
      Stepped self .flushed (self.finishOutcome status)
  | closed (running : self.run = .closing) : Stepped self .flushed self.classify
  | statusRead (text : Option Text) (running : self.run = .readingStatus) :
      Stepped self (.statusRead text) (self.statusRead text)
  | rolledBack {wait : Nat} (result : Except Text Bool) (running : self.run = .rollingBack wait) :
      Stepped self .rolledBack (self.rolledBack result)
  | dirRemoved {canceled : Bool} (running : self.run = .removing canceled) :
      Stepped self .dirRemoved
        (self.finish (if canceled then
            .ok { exitCode := none, signal := some (Json.asciiText "SIGTERM") }
          else .error (self.failure.getD [])))
  | connectionLost : Stepped self .connectionLost { self with lost := true }
  | transportLost : Stepped self .transportLost { self with transport := false, lost := true }
  | transportBack : Stepped self .transportBack { self with transport := true }
  | terminate : Stepped self .terminate self.terminate
  | attemptResumed {phase : TerminationPhase} {next : ProcessHandle}
      (attempt : self.terminationAttempt = some phase)
      (resumed : self.attemptResumed phase = some next) : Stepped self .attemptResumed next
  | attemptCaptured {capture : Capture} {expired : Bool} {phase : TerminationPhase}
      {next : ProcessHandle} (attempt : self.terminationAttempt = some phase)
      (captured : self.attemptCaptured capture expired phase = some next) :
      Stepped self (.attemptCaptured capture expired) next
  | attemptClosed {fault : Option Fault} {phase : TerminationPhase} {next : ProcessHandle}
      (attempt : self.terminationAttempt = some phase)
      (closed : self.attemptClosed fault phase = some next) :
      Stepped self (.attemptClosed fault) next
  | attemptPaused {kill : Bool} {pgid : Int}
      (attempt : self.terminationAttempt = some (.pausing kill pgid)) :
      Stepped self .attemptPaused (self.probeForDeath kill pgid)
  | attemptForgotten {error : Text} (attempt : self.terminationAttempt = some (.thrown error)) :
      Stepped self .attemptForgotten { self with
        terminationAttempt := none
        terminationFailure :=
          if self.quiescenceProven then self.terminationFailure else some error }
  | waitForExit (aborted : Bool) : Stepped self (.waitForExit aborted) (self.waitForExit aborted)
  | statusUnread (index : Nat) (fault : Fault) (aborted : Bool) :
      Stepped self (.waitStatusRead index (.failed fault) aborted)
        (setWait index (self.waitFailed fault aborted))
  | waitStatusRead (index : Nat) (code : Option Int) (stdout stderr : Text) (aborted : Bool) :
      Stepped self (.waitStatusRead index (.completed code stdout stderr) aborted)
        (setWait index
          (self.probeGroup (isPublished (Capture.completed code stdout stderr).fileText) aborted))
  | waitUnprobed (index : Nat) (fault : Fault) (aborted : Bool) :
      Stepped self (.waitProbed index (.failed fault) aborted)
        (setWait index (self.waitFailed fault aborted))
  | waitProbed {index : Nat} {exited : Bool} {pgid : Int} (code : Option Int)
      (stdout stderr : Text) (aborted : Bool)
      (probing : self.waits[index]? = some (.probing exited pgid)) :
      Stepped self (.waitProbed index (.completed code stdout stderr) aborted)
        (setWait index (self.judge exited (code = some 0) aborted))
  | waitAborted (index : Nat) :
      Stepped self (.waitTicked index true) (setWait index (self, .returned (.ok false)))
  | waitTicked (index : Nat) :
      Stepped self (.waitTicked index false) (setWait index (self.turn false))

theorem stepped_of_step (stepped : self.step event = some next) : Stepped self event next := by
  unfold step at stepped
  split at stepped
  · split at stepped
    · next fault running =>
      cases stepped
      cases fault with
      | some error => exact .unprepared error running
      | none => exact .prepared running
    · cases stepped
  · split at stepped
    · next fault writeFault running =>
      cases stepped
      cases fault with
      | some error => exact .unopened error writeFault running
      | none =>
          cases writeFault with
          | some error => exact .unwritten error running
          | none => exact .opened running
    · cases stepped
  · split at stepped
    · cases stepped
      exact .control _
    · cases stepped
  · cases stepped
    exact .diagnostic _
  · cases stepped
    exact .pumpFailed _
  · split at stepped
    · cases stepped
      exact .channelClosed
    · cases stepped
  · split at stepped
    · next running => exact .raced running stepped
    · cases stepped
  · split at stepped
    · next running =>
      split at stepped
      · cases stepped
        exact .expired running
      · next ended =>
        cases stepped
        exact .drained running ended
      · cases stepped
    · cases stepped
  · split at stepped
    · next running =>
      cases stepped
      exact .channelCut running
    · cases stepped
  · split at stepped
    · next running =>
      cases stepped
      exact .flushed running
    · next running =>
      cases stepped
      exact .closed running
    · cases stepped
  · split at stepped
    · next running =>
      cases stepped
      exact .statusRead _ running
    · cases stepped
  · split at stepped
    · next running =>
      split at stepped
      · cases stepped
        exact .rolledBack _ running
      · cases stepped
    · cases stepped
  · split at stepped
    · next running =>
      cases stepped
      exact .dirRemoved running
    · cases stepped
  · cases stepped
    exact .connectionLost
  · cases stepped
    exact .transportLost
  · cases stepped
    exact .transportBack
  · cases stepped
    exact .terminate
  · rcases Option.bind_eq_some_iff.mp stepped with ⟨phase, attempt, resumed⟩
    exact .attemptResumed attempt resumed
  · rcases Option.bind_eq_some_iff.mp stepped with ⟨phase, attempt, captured⟩
    exact .attemptCaptured attempt captured
  · rcases Option.bind_eq_some_iff.mp stepped with ⟨phase, attempt, closed⟩
    exact .attemptClosed attempt closed
  · split at stepped
    · next attempt =>
      cases stepped
      exact .attemptPaused attempt
    · cases stepped
  · split at stepped
    · next attempt =>
      cases stepped
      exact .attemptForgotten attempt
    · cases stepped
  · cases stepped
    exact .waitForExit _
  · next index capture aborted =>
    split at stepped
    · cases stepped
      cases capture with
      | failed fault => exact .statusUnread index fault aborted
      | completed code stdout stderr => exact .waitStatusRead index code stdout stderr aborted
    · cases stepped
  · next index capture aborted =>
    split at stepped
    · next probing =>
      cases stepped
      cases capture with
      | failed fault => exact .waitUnprobed index fault aborted
      | completed code stdout stderr => exact .waitProbed code stdout stderr aborted probing
    · cases stepped
  · next index aborted =>
    split at stepped
    · cases stepped
      cases aborted with
      | true => exact .waitAborted index
      | false => exact .waitTicked index
    · cases stepped

theorem Still.refl (self : ProcessHandle) : Still self self := ⟨rfl, rfl, rfl, rfl⟩

theorem Still.trans {middle : ProcessHandle} (first : Still self middle)
    (second : Still middle next) : Still self next :=
  ⟨second.run.trans first.run, second.settled.trans first.settled,
    second.failure.trans first.failure, second.expired.trans first.expired⟩

theorem Still.wound (still : Still self next) (wound : self.Wound) : next.Wound where
  settled := by
    rw [still.settled, still.run]
    exact wound.settled
  removing := by
    rw [still.failure, still.run]
    exact wound.removing
  rolling := by
    rw [still.failure, still.run]
    exact wound.rolling

theorem still_onControl (self : ProcessHandle) (line : Text) :
    Still self (self.onControl line) := by
  unfold onControl
  split
  · exact ⟨rfl, rfl, rfl, rfl⟩
  · split
    · exact ⟨rfl, rfl, rfl, rfl⟩
    · exact ⟨rfl, rfl, rfl, rfl⟩
  · exact ⟨rfl, rfl, rfl, rfl⟩
  · exact ⟨rfl, rfl, rfl, rfl⟩

theorem still_terminate (self : ProcessHandle) : Still self self.terminate := by
  rw [terminate]
  split
  · exact Still.refl self
  · exact ⟨rfl, rfl, rfl, rfl⟩

theorem Watching.refl (self : ProcessHandle) : Watching self self :=
  ⟨.refl self, rfl, rfl, rfl, rfl, rfl⟩

theorem watching_markQuiescent (self : ProcessHandle) : Watching self self.markQuiescent :=
  ⟨⟨rfl, rfl, rfl, rfl⟩, rfl, rfl, rfl, rfl, rfl⟩

theorem watching_issue (self : ProcessHandle) (command : KillCommand) :
    Watching self (self.issue command) :=
  ⟨⟨rfl, rfl, rfl, rfl⟩, rfl, rfl, rfl, rfl, rfl⟩

theorem watching_judge (self : ProcessHandle) (exited alive aborted : Bool) :
    Watching self (self.judge exited alive aborted).1 := by
  rw [judge]
  split
  · exact watching_markQuiescent self
  · split
    · exact .refl self
    · exact .refl self

theorem watching_probeGroup (self : ProcessHandle) (exited aborted : Bool) :
    Watching self (self.probeGroup exited aborted).1 := by
  rw [probeGroup]
  split
  · exact watching_issue self _
  · exact watching_judge self exited false aborted

theorem watching_turn (self : ProcessHandle) (aborted : Bool) :
    Watching self (self.turn aborted).1 := by
  rw [turn]
  split
  · exact .refl self
  · split
    · exact .refl self
    · split
      · exact .refl self
      · split
        · exact watching_markQuiescent self
        · split
          · exact watching_markQuiescent self
          · split
            · exact watching_probeGroup self true aborted
            · exact .refl self

theorem watching_waitFailed (self : ProcessHandle) (fault : Fault) (aborted : Bool) :
    Watching self (self.waitFailed fault aborted).1 := by
  rw [waitFailed]
  split
  · exact ⟨⟨rfl, rfl, rfl, rfl⟩, rfl, rfl, rfl, rfl, rfl⟩
  · split
    · exact ⟨⟨rfl, rfl, rfl, rfl⟩, rfl, rfl, rfl, rfl, rfl⟩
    · exact ⟨⟨rfl, rfl, rfl, rfl⟩, rfl, rfl, rfl, rfl, rfl⟩

theorem watching_setWait {turned : ProcessHandle × WaitPhase} (index : Nat)
    (watching : Watching self turned.1) : Watching self (setWait index turned) :=
  { watching with }

theorem watching_waitForExit (self : ProcessHandle) (aborted : Bool) :
    Watching self (self.waitForExit aborted) :=
  { watching_turn self aborted with }

/-- The events of calls of `waitForExit`. -/
def isWatching : ProcessEvent → Bool
  | .waitForExit _ | .waitStatusRead _ _ _ | .waitProbed _ _ _ | .waitTicked _ _ => true
  | _ => false

theorem step_watching (watches : isWatching event = true)
    (stepped : self.step event = some next) : Watching self next := by
  cases stepped_of_step stepped with
  | waitForExit aborted => exact watching_waitForExit self aborted
  | statusUnread index fault aborted | waitUnprobed index fault aborted =>
      exact watching_setWait index (watching_waitFailed self fault aborted)
  | waitStatusRead index code stdout stderr aborted =>
      exact watching_setWait index (watching_probeGroup self _ aborted)
  | @waitProbed index _ _ code stdout stderr aborted _ =>
      exact watching_setWait index (watching_judge self _ _ aborted)
  | waitAborted index => exact watching_setWait index (.refl self)
  | waitTicked index => exact watching_setWait index (watching_turn self false)
  | _ => cases watches

theorem still_stillAlive (self : ProcessHandle) (kill : Bool) (pgid : Int) (error : Text) :
    Still self (self.stillAlive kill pgid error) := by
  rw [stillAlive]
  split
  · exact ⟨rfl, rfl, rfl, rfl⟩
  · exact ⟨rfl, rfl, rfl, rfl⟩

theorem still_attemptStarted (self : ProcessHandle) (pgid : Int) :
    Still self (self.attemptStarted pgid) := by
  rw [attemptStarted]
  split
  · exact ⟨rfl, rfl, rfl, rfl⟩
  · split
    · exact ⟨rfl, rfl, rfl, rfl⟩
    · exact ⟨rfl, rfl, rfl, rfl⟩

theorem still_attemptResumed {phase : TerminationPhase}
    (resumed : self.attemptResumed phase = some next) : Still self next := by
  unfold attemptResumed at resumed
  split at resumed
  · split at resumed
    · cases resumed
    · cases resumed
      exact ⟨rfl, rfl, rfl, rfl⟩
    · cases resumed
      exact ⟨rfl, rfl, rfl, rfl⟩
  · split at resumed
    · cases resumed
    · cases resumed
      exact still_attemptStarted self _
    · cases resumed
      exact still_attemptStarted self _
  · split at resumed
    · cases resumed
      exact ⟨rfl, rfl, rfl, rfl⟩
    · cases resumed
  · cases resumed

theorem still_attemptCaptured {phase : TerminationPhase} {capture : Capture} {expired : Bool}
    (captured : self.attemptCaptured capture expired phase = some next) : Still self next := by
  unfold attemptCaptured at captured
  split at captured
  · split at captured
    · split at captured
      · cases captured
        exact ⟨rfl, rfl, rfl, rfl⟩
      · cases captured
        exact ⟨rfl, rfl, rfl, rfl⟩
    · cases captured
      exact ⟨rfl, rfl, rfl, rfl⟩
  · cases captured
    exact ⟨rfl, rfl, rfl, rfl⟩
  · split at captured
    · split at captured
      · cases captured
        exact ⟨rfl, rfl, rfl, rfl⟩
      · cases captured
        exact still_stillAlive self _ _ _
    · split at captured
      · cases captured
        exact ⟨rfl, rfl, rfl, rfl⟩
      · split at captured
        · cases captured
          exact still_stillAlive self _ _ _
        · cases captured
          exact ⟨rfl, rfl, rfl, rfl⟩
  · cases captured

theorem still_attemptClosed {phase : TerminationPhase} {fault : Option Fault}
    (closed : self.attemptClosed fault phase = some next) : Still self next := by
  unfold attemptClosed at closed
  split at closed
  · split at closed
    · cases closed
      exact ⟨rfl, rfl, rfl, rfl⟩
    · cases closed
      exact ⟨rfl, rfl, rfl, rfl⟩
  · cases closed
    exact ⟨rfl, rfl, rfl, rfl⟩
  · cases closed

/-! ### `run` -/

theorem settled_fail (self : ProcessHandle) (error : Text) :
    (self.fail error).settled = self.settled := by
  rw [fail]
  dsimp only
  split
  · exact ((still_terminate _).trans (watching_waitForExit _ false).toStill).settled
  · rfl

theorem wound_fail (unsettled : self.settled = false) (error : Text) : (self.fail error).Wound := by
  have open' : (self.fail error).settled = false := (settled_fail self error).trans unsettled
  refine ⟨fun settled => absurd (open'.symm.trans settled) nofun, ?_, ?_⟩
  all_goals
    rw [fail]
    dsimp only
    split
  · exact nofun
  · exact fun _ _ => rfl
  · exact fun _ _ =>
      congrArg Option.isSome ((still_terminate _).trans (watching_waitForExit _ false).toStill).failure
  · exact nofun

theorem Moved.ofOpen (unsettled : self.settled = false) (wound : next.Wound)
    (same : next.settled = self.settled) : self.Moved event next :=
  ⟨unsettled, wound, fun settled =>
    absurd ((same.trans unsettled).symm.trans settled) nofun⟩

theorem Moved.fail (unsettled : self.settled = false) (error : Text) :
    self.Moved event (self.fail error) :=
  Moved.ofOpen unsettled (wound_fail unsettled error) (settled_fail self error)

theorem Moved.wait (unsettled : self.settled = false) (run : RunPhase)
    (notRemoving : ∀ canceled, run ≠ .removing canceled)
    (notRolling : ∀ wait, run ≠ .rollingBack wait) (same : next.settled = self.settled)
    (isRun : next.run = run) : self.Moved event next := by
  refine Moved.ofOpen unsettled ⟨fun settled => ?_, fun canceled => ?_, fun wait => ?_⟩ same
  · exact absurd ((same.trans unsettled).symm.trans settled) nofun
  · exact fun removing => absurd (isRun.symm.trans removing) (notRemoving canceled)
  · exact fun rolling => absurd (isRun.symm.trans rolling) (notRolling wait)

theorem wound_finish (outcome : Except Text SubprocessOutcome) : (self.finish outcome).Wound :=
  ⟨fun _ => rfl, nofun, nofun⟩

/-- The outcome of a status either fails or settles `done`. -/
theorem finishOutcome_cases (self : ProcessHandle) (statusText : Text) :
    (∃ error, self.finishOutcome statusText = self.fail error) ∨
      ∃ outcome, self.finishOutcome statusText = self.finish (.ok outcome) := by
  rw [finishOutcome]
  split
  · exact Or.inl ⟨_, rfl⟩
  · split
    · exact Or.inl ⟨_, rfl⟩
    · exact Or.inr ⟨_, rfl⟩

theorem wound_finishOutcome (unsettled : self.settled = false) (statusText : Text) :
    (self.finishOutcome statusText).Wound := by
  rcases finishOutcome_cases self statusText with ⟨error, isFail⟩ | ⟨outcome, isEnd⟩
  · rw [isFail]
    exact wound_fail unsettled error
  · rw [isEnd]
    exact wound_finish _

/-- A step leaves `run` where it is or moves it on. -/
theorem step_run (wound : self.Wound) (stepped : self.step event = some next) :
    Still self next ∨ self.Moved event next := by
  have unsettled : self.run ≠ .finished → self.settled = false := by
    intro running
    cases settled : self.settled with
    | false => rfl
    | true => exact absurd (wound.settled settled) running
  cases stepped_of_step stepped with
  | unprepared error running | unopened error _ running =>
      exact Or.inr (Moved.fail (unsettled (by rw [running]; nofun)) error)
  | prepared running =>
      exact Or.inr (Moved.wait (unsettled (by rw [running]; nofun)) .opening nofun nofun rfl rfl)
  | unwritten error running =>
      have unfinished := unsettled (by rw [running]; nofun)
      have launched : ({ self with launched := self.launched.resolve () } :
          ProcessHandle).settled = false := unfinished
      exact Or.inr (Moved.ofOpen unfinished (wound_fail launched error) (settled_fail _ error))
  | opened running =>
      exact Or.inr (Moved.wait (unsettled (by rw [running]; nofun)) .racing nofun nofun rfl rfl)
  | control line => exact Or.inl (still_onControl self line)
  | diagnostic | pumpFailed | channelClosed | connectionLost | transportLost | transportBack =>
      exact Or.inl ⟨rfl, rfl, rfl, rfl⟩
  | raced running won =>
      have unfinished := unsettled (by rw [running]; nofun)
      refine Or.inr ?_
      unfold raced at won
      split at won
      · rcases Option.map_eq_some_iff.mp won with ⟨status, _, rfl⟩
        exact Moved.wait unfinished (.flushing status) nofun nofun rfl rfl
      · rcases Option.map_eq_some_iff.mp won with ⟨message, _, rfl⟩
        exact Moved.fail unfinished _
      · split at won
        · cases won
          exact Moved.wait unfinished (.draining _) nofun nofun rfl rfl
        · cases won
      · split at won
        · cases won
          exact Moved.wait unfinished .closing nofun nofun rfl rfl
        · cases won
  | @expired status running =>
      exact Or.inr
        (Moved.wait (unsettled (by rw [running]; nofun)) (.cutting status) nofun nofun rfl rfl)
  | @drained _ published running _ =>
      exact Or.inr
        (Moved.wait (unsettled (by rw [running]; nofun)) (.flushing published) nofun nofun rfl rfl)
  | @channelCut status running =>
      exact Or.inr
        (Moved.wait (unsettled (by rw [running]; nofun)) (.flushing status) nofun nofun rfl rfl)
  | flushed running =>
      have unfinished := unsettled (by rw [running]; nofun)
      exact Or.inr ⟨unfinished, wound_finishOutcome unfinished _, fun _ => trivial⟩
  | closed running =>
      have unfinished := unsettled (by rw [running]; nofun)
      refine Or.inr ⟨unfinished, ?_, fun _ => trivial⟩
      unfold classify
      split
      · exact wound_fail unfinished _
      · exact wound_finishOutcome unfinished _
      · have moved : self.Moved .flushed { self with run := .readingStatus } :=
          Moved.wait unfinished .readingStatus nofun nofun rfl rfl
        exact moved.wound
  | statusRead text running =>
      have unfinished := unsettled (by rw [running]; nofun)
      refine Or.inr ?_
      unfold statusRead
      split
      · next status _ =>
        refine ⟨unfinished, @wound_finishOutcome self.expireDrain unfinished _, fun settled => ?_⟩
        rcases finishOutcome_cases self.expireDrain status with ⟨error, isFail⟩ | ⟨outcome, isEnd⟩
        · rw [isFail, settled_fail] at settled
          exact absurd (unfinished.symm.trans settled) nofun
        · rw [isEnd]
          rfl
      · split
        · exact Moved.fail unfinished _
        · exact Moved.fail unfinished _
  | @rolledBack wait result running =>
      have unfinished := unsettled (by rw [running]; nofun)
      have failed := wound.rolling wait running
      refine Or.inr ?_
      cases result with
      | ok value =>
          exact Moved.ofOpen unfinished
            ⟨fun settled => absurd (unfinished.symm.trans settled) nofun,
              fun _ _ => failed, nofun⟩ rfl
      | error message =>
          exact Moved.ofOpen unfinished
            ⟨fun settled => absurd (unfinished.symm.trans settled) nofun,
              fun _ _ => rfl, nofun⟩ rfl
  | dirRemoved running =>
      exact Or.inr ⟨unsettled (by rw [running]; nofun), wound_finish _, fun _ => trivial⟩
  | terminate => exact Or.inl (still_terminate self)
  | attemptResumed _ resumed => exact Or.inl (still_attemptResumed resumed)
  | attemptCaptured _ captured => exact Or.inl (still_attemptCaptured captured)
  | attemptClosed _ closed => exact Or.inl (still_attemptClosed closed)
  | attemptPaused | attemptForgotten => exact Or.inl ⟨rfl, rfl, rfl, rfl⟩
  | _ => exact Or.inl (step_watching rfl stepped).toStill

theorem create_open (transport root aborted : Bool) :
    (create transport root aborted).Wound ∧ (create transport root aborted).settled = false ∧
      (create transport root aborted).outputDrainExpired = false := by
  have terminated : ∀ begun : ProcessHandle,
      Still begun (if aborted then begun.terminate else begun) := by
    intro begun
    cases aborted with
    | true => exact still_terminate begun
    | false => exact Still.refl begun
  have begins : ∀ begun : ProcessHandle, begun.Wound → begun.settled = false →
      begun.outputDrainExpired = false →
      (if aborted then begun.terminate else begun).Wound ∧
        (if aborted then begun.terminate else begun).settled = false ∧
        (if aborted then begun.terminate else begun).outputDrainExpired = false :=
    fun begun wound unsettled unexpired =>
      ⟨(terminated begun).wound wound, (terminated begun).settled.trans unsettled,
        (terminated begun).expired.trans unexpired⟩
  cases transport with
  | false =>
      have fresh : ({ transport := false, lost := true } : ProcessHandle).settled = false := rfl
      have result := begins _ (wound_fail fresh (connLostError "no live SSH connection")) rfl rfl
      exact result
  | true =>
      cases root with
      | false =>
          have fresh : ({} : ProcessHandle).settled = false := rfl
          have result := begins _
            (wound_fail fresh (connLostError "remote runtime root unavailable")) rfl rfl
          exact result
      | true => exact begins _ ⟨nofun, nofun, nofun⟩ rfl rfl

/-- `done` settles once. -/
theorem step_settled (wound : self.Wound) (stepped : self.step event = some next)
    (settled : self.settled = true) : Still self next := by
  rcases step_run wound stepped with still | moved
  · exact still
  · exact absurd (moved.unsettled.symm.trans settled) nofun

end ProcessHandle

end DshRemote.Subprocess
