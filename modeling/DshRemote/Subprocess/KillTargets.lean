import DshRemote.Subprocess.RunPhases

/-! # What `kill` commands are aimed at

Every group id that a process handle holds has come through `parsePublishedPgid`. A terminal
takes the groups of its session out of a listing, where 1 is left out, and its foreground
group out of another one, where it is not. -/

namespace DshRemote.Subprocess

open Json (asciiText)

/-! ## Process handles -/

/-- The group that a phase of an attempt is about. -/
def TerminationPhase.group : TerminationPhase → Option Int
  | .signalling _ pgid | .closing pgid | .probing _ pgid | .pausing _ pgid => some pgid
  | _ => none

def WaitPhase.group : WaitPhase → Option Int
  | .probing _ pgid => some pgid
  | _ => none

namespace ProcessHandle

/-- Every group id that the handle holds or has put into a command meets a condition. -/
structure Carries (condition : Int → Prop) (handle : ProcessHandle) : Prop where
  published : 0 < handle.remotePgid → condition handle.remotePgid
  started : ∀ pgid, handle.started = .resolved pgid → condition pgid
  attempt : ∀ phase ∈ handle.terminationAttempt, ∀ pgid ∈ phase.group, condition pgid
  waits : ∀ wait ∈ handle.waits, ∀ pgid ∈ wait.group, condition pgid
  issued : ∀ command ∈ handle.issued, ∀ pgid ∈ command.groups, condition pgid

variable {condition : Int → Prop} {self next : ProcessHandle}

namespace Carries

/-- What leaves the group ids alone. -/
theorem of_same (carries : Carries condition self) (remotePgid : next.remotePgid = self.remotePgid)
    (started : ∀ pgid, next.started = .resolved pgid → self.started = .resolved pgid)
    (attempt : ∀ phase ∈ next.terminationAttempt, phase.group = none ∨
      phase ∈ self.terminationAttempt)
    (waits : next.waits = self.waits) (issued : next.issued = self.issued) :
    Carries condition next where
  published := by
    rw [remotePgid]
    exact carries.published
  started pgid same := carries.started pgid (started pgid same)
  attempt := by
    intro phase member pgid isGroup
    rcases attempt phase member with none | old
    · rw [none] at isGroup
      cases isGroup
    · exact carries.attempt phase old pgid isGroup
  waits := by
    rw [waits]
    exact carries.waits
  issued := by
    rw [issued]
    exact carries.issued

theorem issue {command : KillCommand} (carries : Carries condition self)
    (aimed : ∀ pgid ∈ command.groups, condition pgid) : Carries condition (self.issue command) where
  published := carries.published
  started := carries.started
  attempt := carries.attempt
  waits := carries.waits
  issued := by
    intro other member
    rcases List.mem_append.mp member with old | isNew
    · exact carries.issued other old
    · rw [List.mem_singleton.mp isNew]
      exact aimed

theorem attempting {phase : TerminationPhase} (carries : Carries condition self)
    (aimed : ∀ pgid ∈ phase.group, condition pgid) :
    Carries condition (self.attempting phase) where
  published := carries.published
  started := carries.started
  attempt := by
    intro other member
    cases member
    exact aimed
  waits := carries.waits
  issued := carries.issued

theorem markQuiescent (carries : Carries condition self) :
    Carries condition self.markQuiescent :=
  carries.of_same rfl (fun _ => id) (fun _ => Or.inr) rfl rfl

theorem attemptDone (carries : Carries condition self) : Carries condition self.attemptDone :=
  carries.of_same rfl (fun _ => id) (fun _ absent => by cases absent) rfl rfl

theorem terminate (carries : Carries condition self) : Carries condition self.terminate := by
  rw [ProcessHandle.terminate]
  split
  · exact carries
  · refine carries.of_same rfl (fun _ => id) (fun phase member => ?_) rfl rfl
    cases member
    exact Or.inl rfl

theorem withLost (carries : Carries condition self) (lost : Bool) :
    Carries condition { self with lost := lost } :=
  carries.of_same rfl (fun _ => id) (fun _ => Or.inr) rfl rfl

theorem withRun (carries : Carries condition self) (run : RunPhase) :
    Carries condition { self with run := run } :=
  carries.of_same rfl (fun _ => id) (fun _ => Or.inr) rfl rfl

/-! ### `waitForExit` -/

/-- A turn of the loop of `waitForExit` keeps the ids, and the phase that it ends in is about
one of them. -/
structure Turned (condition : Int → Prop) (handle : ProcessHandle)
    (next : ProcessHandle × WaitPhase) : Prop where
  carries : Carries condition next.1
  waits : next.1.waits = handle.waits
  aimed : ∀ pgid ∈ next.2.group, condition pgid

theorem judge (carries : Carries condition self) (exited alive aborted : Bool) :
    Turned condition self (self.judge exited alive aborted) := by
  rw [ProcessHandle.judge]
  split
  · exact ⟨carries.markQuiescent, rfl, fun _ absent => by cases absent⟩
  · split
    · exact ⟨carries, rfl, fun _ absent => by cases absent⟩
    · exact ⟨carries, rfl, fun _ absent => by cases absent⟩

theorem probeGroup (carries : Carries condition self) (exited aborted : Bool) :
    Turned condition self (self.probeGroup exited aborted) := by
  rw [ProcessHandle.probeGroup]
  split
  · next positive =>
    have published := carries.published positive
    refine ⟨carries.issue ?_, rfl, ?_⟩
    · intro pgid member
      rw [List.mem_singleton.mp member]
      exact published
    · intro pgid member
      cases member
      exact published
  · exact carries.judge exited false aborted

theorem turn (carries : Carries condition self) (aborted : Bool) :
    Turned condition self (self.turn aborted) := by
  have stays : ∀ {phase : WaitPhase}, phase.group = none → Turned condition self (self, phase) :=
    fun none => ⟨carries, rfl, fun _ member => by rw [none] at member; cases member⟩
  have marks : Turned condition self (self.markQuiescent, .returned (.ok true)) :=
    ⟨carries.markQuiescent, rfl, fun _ absent => by cases absent⟩
  rw [ProcessHandle.turn]
  split
  · exact stays rfl
  · split
    · exact stays rfl
    · split
      · exact stays rfl
      · split
        · exact marks
        · split
          · exact marks
          · split
            · exact carries.probeGroup true aborted
            · exact stays rfl

theorem waitFailed (carries : Carries condition self) (fault : Fault) (aborted : Bool) :
    Turned condition self (self.waitFailed fault aborted) := by
  have known := carries.withLost (self.lost || fault.connLost)
  rw [ProcessHandle.waitFailed]
  split
  · exact ⟨known, rfl, fun _ absent => by cases absent⟩
  · split
    · exact ⟨known.markQuiescent, rfl, fun _ absent => by cases absent⟩
    · exact ⟨known, rfl, fun _ absent => by cases absent⟩

theorem setWait {turned : ProcessHandle × WaitPhase} (index : Nat)
    (turns : Turned condition self turned) : Carries condition (setWait index turned) where
  published := turns.carries.published
  started := turns.carries.started
  attempt := turns.carries.attempt
  waits := by
    intro wait member
    rcases List.mem_or_eq_of_mem_set member with old | rfl
    · exact turns.carries.waits wait old
    · exact turns.aimed
  issued := turns.carries.issued

theorem waitForExit (carries : Carries condition self) (aborted : Bool) :
    Carries condition (self.waitForExit aborted) where
  published := (carries.turn aborted).carries.published
  started := (carries.turn aborted).carries.started
  attempt := (carries.turn aborted).carries.attempt
  waits := by
    intro wait member
    rcases List.mem_append.mp member with old | isNew
    · exact (carries.turn aborted).carries.waits wait old
    · rw [List.mem_singleton.mp isNew]
      exact (carries.turn aborted).aimed
  issued := (carries.turn aborted).carries.issued

/-! ### The attempt to terminate -/

theorem sendSignal {pgid : Int} (carries : Carries condition self) (holds : condition pgid)
    (kill : Bool) : Carries condition (self.sendSignal kill pgid) := by
  have same : ∀ {other : Int}, other = pgid → condition other := fun equal => equal ▸ holds
  have sent := (carries.attempting (fun other (member : some pgid = some other) =>
    same (Option.some.inj member).symm) : Carries condition
      (self.attempting (.signalling kill pgid)))
  have named : Carries condition
      { self with
        terminationSignal := some (if kill then asciiText "SIGKILL" else asciiText "SIGTERM")
        terminationAttempt := some (.signalling kill pgid) } :=
    sent.of_same rfl (fun _ => id) (fun _ => Or.inr) rfl rfl
  have aimed : ∀ other ∈ [pgid], condition other := fun other member =>
    same (List.mem_singleton.mp member)
  exact named.issue aimed

theorem probeForDeath {pgid : Int} (carries : Carries condition self) (holds : condition pgid)
    (kill : Bool) : Carries condition (self.probeForDeath kill pgid) := by
  have aimed : ∀ other ∈ (TerminationPhase.probing kill pgid).group, condition other := by
    intro other member
    cases member
    exact holds
  refine (carries.attempting aimed).issue fun other member => ?_
  rw [List.mem_singleton.mp member]
  exact holds

theorem stillAlive {pgid : Int} (carries : Carries condition self) (holds : condition pgid)
    (kill : Bool) (error : Text) : Carries condition (self.stillAlive kill pgid error) := by
  rw [ProcessHandle.stillAlive]
  split
  · exact carries.attempting fun _ absent => by cases absent
  · exact carries.sendSignal holds true

theorem attemptStarted {pgid : Int} (carries : Carries condition self)
    (holds : ¬pgid ≤ 1 → condition pgid) : Carries condition (self.attemptStarted pgid) := by
  rw [ProcessHandle.attemptStarted]
  split
  · exact carries.attempting fun _ absent => by cases absent
  · next large =>
    split
    · exact carries.attemptDone
    · exact carries.sendSignal (holds large) false

theorem attemptResumed {phase : TerminationPhase} (carries : Carries condition self)
    (resumed : self.attemptResumed phase = some next) : Carries condition next := by
  unfold ProcessHandle.attemptResumed at resumed
  split at resumed
  · split at resumed
    · cases resumed
    · cases resumed
      exact carries.attemptDone
    · cases resumed
      exact carries.attempting fun _ absent => by cases absent
  · split at resumed
    · cases resumed
    · cases resumed
      exact carries.attemptStarted fun large => absurd (by decide) large
    · next pgid started =>
      cases resumed
      exact carries.attemptStarted fun _ => carries.started pgid started
  · split at resumed
    · cases resumed
      exact carries.attemptDone
    · cases resumed
  · cases resumed

theorem attemptCaptured {phase : TerminationPhase} {capture : Capture} {expired : Bool}
    (carries : Carries condition self) (holds : ∀ pgid ∈ phase.group, condition pgid)
    (captured : self.attemptCaptured capture expired phase = some next) :
    Carries condition next := by
  unfold ProcessHandle.attemptCaptured at captured
  split at captured
  · next pgid =>
    have aimed := holds pgid rfl
    split at captured
    · split at captured
      · cases captured
        exact (carries.withLost true).probeForDeath aimed false
      · cases captured
        exact carries.sendSignal aimed true
    · cases captured
      exact carries.probeForDeath aimed false
  · next pgid =>
    cases captured
    have closing : ∀ other ∈ (TerminationPhase.closing pgid).group, condition other := holds
    exact (carries.attempting closing).of_same rfl (fun _ => id) (fun _ => Or.inr) rfl rfl
  · next kill pgid =>
    have aimed := holds pgid rfl
    split at captured
    · split at captured
      · cases captured
        exact (carries.withLost true).attemptDone
      · cases captured
        exact carries.stillAlive aimed kill _
    · split at captured
      · cases captured
        exact carries.attemptDone
      · split at captured
        · cases captured
          exact carries.stillAlive aimed kill _
        · cases captured
          exact carries.attempting holds
  · cases captured

theorem attemptClosed {phase : TerminationPhase} {fault : Option Fault}
    (carries : Carries condition self) (holds : ∀ pgid ∈ phase.group, condition pgid)
    (closed : self.attemptClosed fault phase = some next) : Carries condition next := by
  unfold ProcessHandle.attemptClosed at closed
  split at closed
  · split at closed
    · cases closed
      exact carries.attempting fun _ absent => by cases absent
    · cases closed
      split
      · exact carries.attempting fun _ absent => by cases absent
      · exact carries.attempting fun _ absent => by cases absent
  · next pgid =>
    cases closed
    exact carries.probeForDeath (holds pgid rfl) true
  · cases closed

/-! ### `run` -/

theorem fail (carries : Carries condition self) (error : Text) :
    Carries condition (self.fail error) := by
  rw [ProcessHandle.fail]
  dsimp only
  have kept : ∀ pgid, self.started.reject = .resolved pgid → self.started = .resolved pgid := by
    intro pgid same
    cases started : self.started with
    | pending =>
        rw [started] at same
        cases same
    | resolved value =>
        rw [started] at same
        exact same
    | rejected =>
        rw [started] at same
        cases same
  have caught : ∀ {failure : Option Text} {spawnFailed : Bool} {launched : Deferred Unit},
      Carries condition { self with
        failure := failure, spawnFailed := spawnFailed, started := self.started.reject
        launched := launched } :=
    carries.of_same rfl kept (fun _ => Or.inr) rfl rfl
  split
  · exact (caught.terminate.waitForExit false).withRun _
  · exact caught.withRun _

theorem finishOutcome (carries : Carries condition self) (statusText : Text) :
    Carries condition (self.finishOutcome statusText) := by
  rw [ProcessHandle.finishOutcome]
  split
  · exact carries.fail _
  · split
    · exact carries.fail _
    · exact carries.of_same rfl (fun _ => id) (fun _ => Or.inr) rfl rfl

theorem expireDrain (carries : Carries condition self) : Carries condition self.expireDrain :=
  carries.of_same rfl (fun _ => id) (fun _ => Or.inr) rfl rfl

theorem raced {winner : RaceWinner} (carries : Carries condition self)
    (won : self.raced winner = some next) : Carries condition next := by
  cases winner with
  | ended =>
      rcases Option.map_eq_some_iff.mp won with ⟨status, _, rfl⟩
      exact carries.withRun _
  | failed =>
      rcases Option.map_eq_some_iff.mp won with ⟨message, _, rfl⟩
      exact carries.fail _
  | status | closed =>
      rw [ProcessHandle.raced] at won
      split at won
      · cases won
        exact carries.withRun _
      · cases won

theorem classify (carries : Carries condition self) : Carries condition self.classify := by
  unfold ProcessHandle.classify
  split
  · exact carries.fail _
  · exact carries.finishOutcome _
  · exact carries.withRun _

theorem statusRead (carries : Carries condition self) (text : Option Text) :
    Carries condition (self.statusRead text) := by
  unfold ProcessHandle.statusRead
  split
  · exact carries.expireDrain.finishOutcome _
  · split
    · exact carries.fail _
    · exact carries.fail _

theorem onControl {line : Text} (carries : Carries condition self)
    (holds : ∀ rest pgid, matchControl line = some (.START, rest) →
      parsePublishedPgid rest = .ok pgid → condition pgid) :
    Carries condition (self.onControl line) := by
  have same : ∀ {diagnostics : List Text} {failed ended : Option Text}, Carries condition
      { self with diagnostics := diagnostics, failed := failed, ended := ended } :=
    carries.of_same rfl (fun _ => id) (fun _ => Or.inr) rfl rfl
  unfold ProcessHandle.onControl
  split
  · exact same
  · next rest isStart =>
    split
    · next pgid parsed =>
      have published := holds rest pgid isStart parsed
      refine ⟨fun _ => published, ?_, carries.attempt, carries.waits, carries.issued⟩
      intro other resolved
      cases started : self.started with
      | pending =>
          dsimp only at resolved
          rw [started] at resolved
          cases resolved
          exact published
      | resolved value =>
          dsimp only at resolved
          rw [started] at resolved
          exact carries.started other (started.trans resolved)
      | rejected =>
          dsimp only at resolved
          rw [started] at resolved
          cases resolved
    · exact same
  · exact same
  · exact same

theorem create (transport root aborted : Bool) :
    Carries condition (ProcessHandle.create transport root aborted) := by
  have fresh : Carries condition { transport := transport, lost := !transport } :=
    { published := fun positive => absurd positive (show ¬(0 : Int) < -1 by decide)
      started := fun _ absent => by cases absent
      attempt := fun _ absent => by cases absent
      waits := fun _ absent => by cases absent
      issued := fun _ absent => by cases absent }
  have begun : Carries condition
      (if !transport then
        ({ transport := transport, lost := !transport } : ProcessHandle).fail
          (connLostError "no live SSH connection")
      else if !root then
        ({ transport := transport, lost := !transport } : ProcessHandle).fail
          (connLostError "remote runtime root unavailable")
      else { transport := transport, lost := !transport }) := by
    split
    · exact fresh.fail _
    · split
      · exact fresh.fail _
      · exact fresh
  rw [ProcessHandle.create]
  split
  · exact begun.terminate
  · exact begun

/-- The group ids of the handle meet the condition in every step, if those of the `START`
frames do. -/
theorem step {event : ProcessEvent} (carries : Carries condition self)
    (holds : ∀ line rest pgid, event = .control line → matchControl line = some (.START, rest) →
      parsePublishedPgid rest = .ok pgid → condition pgid)
    (stepped : self.step event = some next) : Carries condition next := by
  have same : ∀ {other : ProcessHandle}, other.remotePgid = self.remotePgid →
      other.started = self.started → other.terminationAttempt = self.terminationAttempt →
      other.waits = self.waits → other.issued = self.issued → Carries condition other := by
    intro other remotePgid started attempt waits issued
    exact carries.of_same remotePgid (fun _ => started ▸ id) (fun _ member => Or.inr
      (attempt ▸ member)) waits issued
  cases stepped_of_step stepped with
  | unprepared error | unopened error => exact carries.fail error
  | prepared => exact carries.withRun _
  | unwritten error =>
      have launched : Carries condition { self with launched := self.launched.resolve () } :=
        same rfl rfl rfl rfl rfl
      exact launched.fail error
  | control line => exact carries.onControl fun rest pgid => holds line rest pgid rfl
  | raced _ won => exact carries.raced won
  | flushed => exact carries.finishOutcome _
  | closed => exact carries.classify
  | statusRead text => exact carries.statusRead text
  | rolledBack result =>
      cases result with
      | ok value => exact same rfl rfl rfl rfl rfl
      | error message => exact same rfl rfl rfl rfl rfl
  | terminate => exact carries.terminate
  | attemptResumed _ resumed => exact carries.attemptResumed resumed
  | attemptCaptured attempt captured =>
      exact carries.attemptCaptured (carries.attempt _ attempt) captured
  | attemptClosed attempt closed => exact carries.attemptClosed (carries.attempt _ attempt) closed
  | @attemptPaused kill _ attempt =>
      exact carries.probeForDeath (carries.attempt _ attempt _ rfl) kill
  | attemptForgotten =>
      exact carries.of_same rfl (fun _ => id) (fun _ absent => by cases absent) rfl rfl
  | waitForExit aborted => exact carries.waitForExit aborted
  | statusUnread index fault aborted | waitUnprobed index fault aborted =>
      exact setWait index (carries.waitFailed fault aborted)
  | waitStatusRead index code stdout stderr aborted =>
      exact setWait index (carries.probeGroup _ aborted)
  | @waitProbed index _ _ code stdout stderr aborted _ =>
      exact setWait index (carries.judge _ _ aborted)
  | waitAborted index => exact setWait index ⟨carries, rfl, fun _ absent => by cases absent⟩
  | waitTicked index => exact setWait index (carries.turn false)
  | _ => exact same rfl rfl rfl rfl rfl

end Carries

end ProcessHandle

/-! ## Terminals -/

namespace Terminal

variable {self next : Terminal}

/-- `signalForeground` goes on with a listing that names group 1 as the foreground. -/
def escapes (self : Terminal) : TerminalEvent → Bool
  | .captured index capture transport =>
      match self.operations[index]? with
      | some (.inspecting (some signal)) =>
          match inspectedForeground self.pid self.topLevelExited capture with
          | .ok (some foreground) =>
              foreground.processGroupId = 1 ∧ transport ∧ ¬(signal = .SIGKILL ∧ self.pid = 1)
          | _ => false
      | _ => false
  | _ => false

/-- What is issued in a step, and that it is fenced unless the step escapes. -/
structure Issues (terminal next : Terminal) (escapes : Bool) (commands : List KillCommand) :
    Prop where
  issued : next.issued = terminal.issued ++ commands
  fenced : (∀ command ∈ commands, command.Fenced) ↔ escapes = false

theorem Issues.nothing (same : next.issued = self.issued) : Issues self next false [] where
  issued := by rw [same, List.append_nil]
  fenced := ⟨fun _ => rfl, fun _ _ absent => by cases absent⟩

theorem Issues.groups {pid : Int} {code : Option Int} {stdout : Text} {signal : String}
    (issued : next.issued =
      self.issued ++ [signalRemoteGroups (sessionGroups pid code stdout) signal]) :
    Issues self next false [signalRemoteGroups (sessionGroups pid code stdout) signal] where
  issued := issued
  fenced := by
    refine ⟨fun _ => rfl, fun _ command member group isTarget => ?_⟩
    rw [List.mem_singleton.mp member] at isTarget
    exact sessionGroups_large isTarget

theorem issued_conclude (self : Terminal) (groups : List Int) :
    (self.conclude groups).issued = self.issued := by
  rw [conclude]
  split
  · rfl
  · split
    · rfl
    · rfl

theorem issued_escalate (self : Terminal) (groups : List Int) :
    (self.escalate groups).issued = self.issued := by
  rw [escalate]
  split
  · rfl
  · exact issued_conclude self groups

theorem issued_afterTerm (self : Terminal) (groups : List Int) :
    (self.afterTerm groups).issued = self.issued := by
  rw [afterTerm]
  split
  · rfl
  · exact issued_escalate self groups

theorem issued_afterKill (self : Terminal) (groups : List Int) :
    (self.afterKill groups).issued = self.issued := by
  rw [afterKill]
  split
  · rfl
  · exact issued_conclude self groups

theorem issued_signalled (self : Terminal) (kill expired : Bool) (capture : Capture) :
    (self.signalled kill expired capture).issued = self.issued := by
  have loop : (self.awaitSessionEmpty kill expired).issued = self.issued := by
    rw [awaitSessionEmpty]
    split
    · rfl
    · split
      · rfl
      · rfl
  cases capture with
  | completed code stdout stderr => exact loop
  | failed fault =>
      rw [signalled]
      split
      · exact loop
      · rfl

theorem issues_listed (self : Terminal) (expired : Bool) (stage : Listing) (capture : Capture) :
    ∃ commands, Issues self (self.listed expired stage capture) false commands := by
  unfold listed
  split
  · split
    · exact ⟨[], .nothing (issued_afterTerm self _)⟩
    · exact ⟨[], .nothing rfl⟩
  · exact ⟨[], .nothing rfl⟩
  · dsimp only
    split
    · exact ⟨_, .groups rfl⟩
    · exact ⟨[], .nothing (issued_afterTerm self _)⟩
  · dsimp only
    split
    · exact ⟨[], .nothing (issued_afterTerm self _)⟩
    · exact ⟨[], .nothing rfl⟩
  · dsimp only
    split
    · exact ⟨[], .nothing (issued_afterKill self _)⟩
    · exact ⟨_, .groups rfl⟩
  · exact ⟨[], .nothing (issued_afterKill self _)⟩

/-- `signalForeground` is the one place where a group comes in as any positive number. -/
theorem issues_captured {index : Nat} {capture : Capture} {transport : Bool}
    (stepped : self.step (.captured index capture transport) = some next) :
    ∃ commands, Issues self next (self.escapes (.captured index capture transport)) commands := by
  rcases Option.bind_eq_some_iff.mp stepped with ⟨operation, isAt, captured⟩
  rw [escapes, isAt]
  cases operation with
  | settled result => cases captured
  | signalling signal group =>
      cases captured
      exact ⟨[], .nothing rfl⟩
  | inspecting signal =>
      cases signal with
      | none =>
          cases captured
          exact ⟨[], .nothing rfl⟩
      | some signal =>
          cases captured
          dsimp only
          cases inspected : inspectedForeground self.pid self.topLevelExited capture with
          | error message => exact ⟨[], .nothing rfl⟩
          | ok found =>
              cases found with
              | none => exact ⟨[], .nothing rfl⟩
              | some foreground =>
                  have positive := inspectedForeground_pos inspected
                  rw [signalGroup]
                  split
                  · next refused =>
                    refine ⟨[], (List.append_nil _).symm, ⟨fun _ => ?_, nofun⟩⟩
                    rw [decide_eq_false_iff_not]
                    rintro ⟨isOne, _, allowed⟩
                    exact allowed ⟨refused.1, refused.2.symm.trans isOne⟩
                  · next allowed =>
                    split
                    · next noTransport =>
                      refine ⟨[], (List.append_nil _).symm, ⟨fun _ => ?_, nofun⟩⟩
                      rw [decide_eq_false_iff_not]
                      rintro ⟨_, isThere, _⟩
                      rw [isThere] at noTransport
                      cases noTransport
                    · next isThere =>
                      refine ⟨_, rfl, ?_⟩
                      rw [decide_eq_false_iff_not]
                      constructor
                      · rintro fenced ⟨isOne, _, _⟩
                        have large := fenced _ (List.mem_singleton_self _)
                          foreground.processGroupId (List.mem_singleton_self _)
                        omega
                      · intro notOne command member group isTarget
                        rw [List.mem_singleton.mp member] at isTarget
                        rw [List.mem_singleton.mp isTarget]
                        have different : foreground.processGroupId ≠ 1 := by
                          intro isOne
                          refine notOne ⟨isOne, by simpa using isThere, ?_⟩
                          rintro ⟨isKill, pidIsOne⟩
                          exact allowed ⟨isKill, isOne.trans pidIsOne.symm⟩
                        omega

theorem issues_step {event : TerminalEvent} (stepped : self.step event = some next) :
    ∃ commands, Issues self next (self.escapes event) commands := by
  have quiet : ∀ {other : Terminal}, other.issued = self.issued →
      ∃ commands, Issues self other false commands := fun same => ⟨[], .nothing same⟩
  cases event with
  | captured index capture transport => exact issues_captured stepped
  | listed capture expired =>
      rw [step] at stepped
      split at stepped
      · cases stepped
        rcases issues_listed
          { self with listing := some capture, lost := self.lost || capture.connLost } expired _
          capture with ⟨commands, issued, fenced⟩
        exact ⟨commands, issued, fenced⟩
      · cases stepped
  | write data fault =>
      unfold step at stepped
      dsimp only at stepped
      split at stepped
      · cases stepped
        exact quiet rfl
      · split at stepped
        · cases stepped
          exact quiet rfl
        · split at stepped
          · cases stepped
            exact quiet rfl
          · cases stepped
            exact quiet rfl
  | inspectForeground | signalForeground | terminate =>
      rw [step] at stepped
      split at stepped
      · cases stepped
        exact quiet rfl
      · cases stepped
        exact quiet rfl
  | forgotten | paused | removed | cleanupForgotten =>
      rw [step] at stepped
      split at stepped
      · cases stepped
        exact quiet rfl
      · cases stepped
  | exited result =>
      rw [step] at stepped
      split at stepped
      · cases stepped
      · cases stepped
        exact quiet rfl
  | connectionLost =>
      cases stepped
      exact quiet rfl
  | operationsSettled transport =>
      rw [step] at stepped
      split at stepped
      · cases stepped
        split
        · exact quiet rfl
        · exact quiet rfl
      · cases stepped
  | signalled capture expired =>
      rw [step] at stepped
      split at stepped
      · cases stepped
        exact quiet (issued_signalled _ _ _ _)
      · cases stepped
  | raced =>
      rw [step] at stepped
      split at stepped
      · cases stepped
        exact quiet (issued_escalate self _)
      · cases stepped
        exact quiet (issued_conclude self _)
      · cases stepped
  | procKilled fault =>
      unfold step at stepped
      dsimp only at stepped
      split at stepped
      · cases stepped
        exact quiet rfl
      · cases stepped
        exact quiet rfl
      · split at stepped
        · cases stepped
          exact quiet rfl
        · cases stepped
          exact quiet rfl
      · cases stepped

end Terminal

/-! ## The provider -/

/-- The handles that the provider has given out. -/
structure Provider where
  processes : List ProcessHandle := []
  terminals : List Terminal := []

inductive ProviderEvent
  | spawn (transport root aborted : Bool)
  /-- The `pid` file of a terminal was read, which is the last thing that can go wrong. -/
  | spawnTerminal (pidRaw : Text)
  | process (index : Nat) (event : ProcessEvent)
  | terminal (index : Nat) (event : TerminalEvent)

namespace Provider

def step (self : Provider) : ProviderEvent → Option Provider
  | .spawn transport root aborted =>
      some { self with
        processes := self.processes ++ [ProcessHandle.create transport root aborted] }
  | .spawnTerminal pidRaw =>
      match parsePositiveId pidRaw
          (asciiText "subprocess-ssh: terminal published invalid pid " ++ Json.quote pidRaw) with
      | .ok pid => some { self with terminals := self.terminals ++ [{ pid := pid }] }
      | .error _ => some self
  | .process index event =>
      (self.processes[index]?).bind fun process =>
        (process.step event).map fun next =>
          { self with processes := self.processes.set index next }
  | .terminal index event =>
      (self.terminals[index]?).bind fun terminal =>
        (terminal.step event).map fun next =>
          { self with terminals := self.terminals.set index next }

/-- Every `kill` command that was issued, from whichever handle. -/
def issued (self : Provider) : List KillCommand :=
  self.processes.flatMap ProcessHandle.issued ++ self.terminals.flatMap Terminal.issued

def escapes (self : Provider) : ProviderEvent → Bool
  | .terminal index event => (self.terminals[index]?).any fun terminal => terminal.escapes event
  | _ => false

/-- A terminal has issued a command that is not fenced. -/
def Strays (self : Provider) : Prop :=
  ∃ terminal ∈ self.terminals, ∃ command ∈ terminal.issued, ¬command.Fenced

variable {self next : Provider}

theorem exists_mem_set_iff {Item : Type} {holds : Item → Prop} {items : List Item} {index : Nat}
    {before after : Item} {change : Prop} (isAt : items[index]? = some before)
    (changes : holds after ↔ holds before ∨ change) :
    (∃ item ∈ items.set index after, holds item) ↔ (∃ item ∈ items, holds item) ∨ change := by
  rcases List.getElem?_eq_some_iff.mp isAt with ⟨inside, same⟩
  have isNew : after ∈ items.set index after := List.mem_set inside after
  constructor
  · rintro ⟨item, member, isSo⟩
    rcases List.mem_or_eq_of_mem_set member with old | rfl
    · exact Or.inl ⟨item, old, isSo⟩
    · rcases changes.mp isSo with held | changed
      · exact Or.inl ⟨before, List.mem_of_getElem? isAt, held⟩
      · exact Or.inr changed
  · rintro (⟨item, member, isSo⟩ | changed)
    · rcases List.mem_iff_getElem?.mp member with ⟨place, isThere⟩
      by_cases samePlace : index = place
      · subst samePlace
        cases isAt.symm.trans isThere
        exact ⟨after, isNew, changes.mpr (Or.inl isSo)⟩
      · refine ⟨item, List.mem_of_getElem? (i := place) ?_, isSo⟩
        rw [List.getElem?_set_ne samePlace]
        exact isThere
    · exact ⟨after, isNew, changes.mpr (Or.inr changed)⟩

/-- A command that is not fenced comes out of a step that escapes, and stays. -/
theorem strays_step {event : ProviderEvent} (stepped : self.step event = some next) :
    next.Strays ↔ self.Strays ∨ self.escapes event = true := by
  have quiet : ∀ {other : Provider}, other.terminals = self.terminals →
      (other.Strays ↔ self.Strays ∨ false = true) := by
    intro other same
    rw [Strays, same, Strays]
    simp
  cases event with
  | spawn transport root aborted =>
      cases stepped
      exact quiet rfl
  | spawnTerminal pidRaw =>
      rw [step] at stepped
      split at stepped
      · cases stepped
        simp [Strays, escapes]
      · cases stepped
        exact quiet rfl
  | process index event =>
      rcases Option.bind_eq_some_iff.mp stepped with ⟨process, _, moved⟩
      rcases Option.map_eq_some_iff.mp moved with ⟨after, _, rfl⟩
      exact quiet rfl
  | terminal index event =>
      rcases Option.bind_eq_some_iff.mp stepped with ⟨terminal, isAt, moved⟩
      rcases Option.map_eq_some_iff.mp moved with ⟨after, terminalStep, rfl⟩
      rcases Terminal.issues_step terminalStep with ⟨commands, issued, fenced⟩
      rw [escapes, isAt, Option.any_some]
      refine exists_mem_set_iff isAt ?_
      rw [issued]
      simp only [List.mem_append, or_and_right, exists_or]
      refine or_congr Iff.rfl ?_
      rw [← not_iff_not, Bool.not_eq_true, ← fenced]
      simp

theorem strays_run {start finish : Provider} {events : List ProviderEvent}
    (reached : Execution.run step start events = some finish) :
    finish.Strays ↔ start.Strays ∨
      ¬Execution.AllSteps step (fun provider event => provider.escapes event = false) start
        events := by
  induction events generalizing start with
  | nil =>
      cases reached
      simp [Execution.AllSteps]
  | cons event rest induction =>
      rw [Execution.run_cons] at reached
      rcases Option.bind_eq_some_iff.mp reached with ⟨middle, stepped, restReached⟩
      rw [induction restReached, strays_step stepped, Execution.AllSteps.cons_iff stepped,
        not_and_or, Bool.not_eq_false, or_assoc]

theorem carries_run {finish : Provider} {events : List ProviderEvent}
    (reached : Execution.run step {} events = some finish) :
    ∀ process ∈ finish.processes, process.Carries (2 ≤ ·) := by
  refine Execution.reachable_invariant
    (fun provider : Provider => ∀ process ∈ provider.processes, process.Carries (2 ≤ ·)) ?_
    (fun _ absent => by cases absent) reached
  intro provider event after carries stepped
  cases event with
  | spawn transport root aborted =>
      cases stepped
      intro process member
      rcases List.mem_append.mp member with old | isNew
      · exact carries process old
      · rw [List.mem_singleton.mp isNew]
        exact .create transport root aborted
  | spawnTerminal pidRaw =>
      rw [step] at stepped
      split at stepped
      · cases stepped
        exact carries
      · cases stepped
        exact carries
  | process index event =>
      rcases Option.bind_eq_some_iff.mp stepped with ⟨process, isAt, moved⟩
      rcases Option.map_eq_some_iff.mp moved with ⟨changed, processStep, rfl⟩
      have before := carries process (List.mem_of_getElem? isAt)
      intro other member
      rcases List.mem_or_eq_of_mem_set member with old | rfl
      · exact carries other old
      · exact before.step
          (fun _ _ _ _ _ parsed => two_le_of_parsePublishedPgid parsed) processStep
  | terminal index event =>
      rcases Option.bind_eq_some_iff.mp stepped with ⟨terminal, _, moved⟩
      rcases Option.map_eq_some_iff.mp moved with ⟨after, _, rfl⟩
      exact carries

/-- In every run of the provider, all `kill` commands address groups of 2 and more exactly when
no `signalForeground` went on with a listing that names group 1. -/
theorem kills_fenced_iff {provider : Provider} {events : List ProviderEvent}
    (reached : Execution.run step {} events = some provider) :
    (∀ command ∈ provider.issued, command.Fenced) ↔
      Execution.AllSteps step (fun provider event => provider.escapes event = false) {}
        events := by
  have strays := strays_run reached
  have noneYet : ¬({} : Provider).Strays := by
    rintro ⟨terminal, absent, _⟩
    cases absent
  rw [or_iff_right noneYet] at strays
  rw [← not_iff_not, ← strays]
  constructor
  · intro notAll
    by_contra fenced
    refine notAll fun command member => ?_
    rcases List.mem_append.mp member with ofProcess | ofTerminal
    · rcases List.mem_flatMap.mp ofProcess with ⟨process, isThere, isIssued⟩
      exact (carries_run reached process isThere).issued command isIssued
    · rcases List.mem_flatMap.mp ofTerminal with ⟨terminal, isThere, isIssued⟩
      by_contra loose
      exact fenced ⟨terminal, isThere, command, isIssued, loose⟩
  · rintro ⟨terminal, isThere, command, isIssued, loose⟩ fenced
    exact loose (fenced command
      (List.mem_append_right _ (List.mem_flatMap.mpr ⟨terminal, isThere, isIssued⟩)))

/-- A process and a terminal that are both terminated. -/
def terminated : List ProviderEvent :=
  [.spawn true true false, .process 0 (.prepared none), .process 0 (.opened none none),
    .process 0 (.control (asciiText "!DSHSSH START 1717")), .process 0 .terminate,
    .process 0 .attemptResumed, .process 0 .attemptResumed,
    .process 0 (.attemptCaptured (.completed (some 0) [] []) false),
    .spawnTerminal (asciiText "4242\n"), .terminal 0 (.signalForeground .SIGINT true),
    .terminal 0 (.captured 0 (.completed (some 0) (asciiText " 4250 S+\n") []) true),
    .terminal 0 (.captured 0 (.completed (some 0) [] []) true), .terminal 0 .terminate,
    .terminal 0 (.operationsSettled true),
    .terminal 0 (.listed
      (.completed (some 0) (asciiText "4242 4242 Ss\n4242 4250 S+\n") []) false)]

theorem kills_fenced_terminated :
    ∃ provider, Execution.run step {} terminated = some provider ∧
      provider.issued.map KillCommand.line = [asciiText "kill -TERM -1717",
        asciiText "kill -0 -1717", asciiText "kill -INT -4250",
        asciiText "kill -TERM -4242 -4250"] ∧
      ((∀ command ∈ provider.issued, command.Fenced) ↔
        Execution.AllSteps step (fun provider event => provider.escapes event = false) {}
          terminated) :=
  ⟨_, rfl, by decide, kills_fenced_iff rfl⟩

/-- A forged listing names group 1 as the foreground of the terminal. -/
def forged : List ProviderEvent :=
  [.spawnTerminal (asciiText "4242\n"), .terminal 0 (.signalForeground .SIGINT true),
    .terminal 0 (.captured 0 (.completed (some 0) (asciiText "1 S+\n") []) true)]

/-- Every process is addressed. -/
theorem kills_every_process :
    ∃ provider, Execution.run step {} forged = some provider ∧
      ∃ command ∈ provider.issued, command.line = asciiText "kill -INT -1" ∧ ¬command.Fenced :=
  ⟨_, rfl, _, List.mem_singleton_self _, by decide, by decide⟩

end Provider

end DshRemote.Subprocess
