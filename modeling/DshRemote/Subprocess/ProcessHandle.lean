import DshRemote.Subprocess.OutputFrames
import DshRemote.Subprocess.Terminal

/-! # `SshSubprocessHandle`

The control side of a handle: `run` with its race for the exit of the child, the calls of
`waitForExit`, and the attempt to terminate the process group. An event is one synchronous
stretch of code. What the remote side answers, which of several promises is seen first and
whether a timer has expired is part of the event. -/

namespace DshRemote.Subprocess

open Json (ascii asciiText printInt quote readNat)
open NumberText (trim)

/-! ## Texts of the wrapper -/

inductive ControlVerb
  | START
  | FAIL
  | END
deriving DecidableEq, Repr

def controlPrefix : Text := asciiText "!DSHSSH "

/-- What `.` matches in a regular expression. -/
def IsDot (unit : CodeUnit) : Prop :=
  unit ≠ 0x0A ∧ unit ≠ 0x0D ∧ unit ≠ 0x2028 ∧ unit ≠ 0x2029

instance (unit : CodeUnit) : Decidable (IsDot unit) := instDecidableAnd

/-- `(?: (.*))?$`, with the default of `rest`. -/
def controlRest : Text → Option Text
  | [] => some []
  | space :: rest =>
      if space = ascii ' ' ∧ rest.all fun unit => IsDot unit then some rest else none

/-- `/^!DSHSSH (START|FAIL|END)(?: (.*))?$/`. -/
def matchControl (line : Text) : Option (ControlVerb × Text) :=
  if ¬controlPrefix <+: line then none
  else
    let tail := line.drop controlPrefix.length
    if asciiText "START" <+: tail then (controlRest (tail.drop 5)).map (.START, ·)
    else if asciiText "FAIL" <+: tail then (controlRest (tail.drop 4)).map (.FAIL, ·)
    else if asciiText "END" <+: tail then (controlRest (tail.drop 3)).map (.END, ·)
    else none

/-- `Buffer.from(rest, 'base64').toString('utf8')`. -/
def failMessage (rest : Text) : Text := Utf8.bufferText (Base64.decode rest)

def isSignalLetter (unit : CodeUnit) : Bool :=
  (0x41 ≤ unit.val ∧ unit.val ≤ 0x5A) || (0x30 ≤ unit.val ∧ unit.val ≤ 0x39)

/-- `parseStatusText`. -/
def parseStatusText (text : Text) : Option SubprocessOutcome :=
  let trimmed := trim text
  let digits := trimmed.drop 5
  let name := trimmed.drop 7
  if asciiText "exit:" <+: trimmed ∧ 1 ≤ digits.length ∧ digits.length ≤ 3 ∧
      digits.all fun unit => Json.IsDigit unit then
    if readNat digits ≤ 255 then some { exitCode := some (readNat digits), signal := none }
    else none
  else if asciiText "signal:" <+: trimmed ∧ asciiText "SIG" <+: name ∧ 4 ≤ name.length ∧
      name.all isSignalLetter then
    some { exitCode := none, signal := some name }
  else none

/-- What `readRemoteFile` gives. -/
def Capture.fileText : Capture → Option Text
  | .completed code stdout _ => if code = some 0 then some stdout else none
  | .failed _ => none

/-- `text !== undefined && text.trim().length > 0`. -/
def isPublished (text : Option Text) : Bool := text.any fun text => trim text ≠ []

/-! ## The state -/

inductive Deferred (Value : Type)
  | pending
  | resolved (value : Value)
  | rejected
deriving DecidableEq, Repr

namespace Deferred

def isSettled : Deferred Value → Bool
  | .pending => false
  | _ => true

/-- The promise keeps the first settlement. -/
def resolve (self : Deferred Value) (value : Value) : Deferred Value :=
  match self with
  | .pending => .resolved value
  | _ => self

def reject (self : Deferred Value) : Deferred Value :=
  match self with
  | .pending => .rejected
  | _ => self

end Deferred

/-- Where `run` waits. -/
inductive RunPhase
  /-- For the environment of the child. -/
  | preparing
  /-- For the channel. -/
  | opening
  /-- For the first of END, FAIL, the status file and the close of the channel. -/
  | racing
  /-- For the pumps, before the outcome of a status. -/
  | flushing (status : Text)
  /-- For END, with the text of the status file. -/
  | draining (status : Text)
  /-- For `proc.kill()`, with that text. -/
  | cutting (status : Text)
  /-- For the pumps, after the channel has closed. -/
  | closing
  /-- For the status file, after that. -/
  | readingStatus
  /-- For the call of `waitForExit` with an index, after the failure. -/
  | rollingBack (wait : Nat)
  /-- For the removal of the state directory. -/
  | removing (canceled : Bool)
  | finished
deriving DecidableEq, Repr

/-- Where the attempt to terminate waits. -/
inductive TerminationPhase
  | awaitingLaunch
  | awaitingStart
  /-- For `proc.kill()`, when no group was published. -/
  | closingUnstarted
  | awaitingSettled
  /-- For `kill -TERM` or `kill -KILL`. -/
  | signalling (kill : Bool) (pgid : Int)
  /-- For `proc.kill()`. -/
  | closing (pgid : Int)
  /-- For `kill -0`, after `TERM` or after `KILL`. -/
  | probing (kill : Bool) (pgid : Int)
  | pausing (kill : Bool) (pgid : Int)
  /-- The attempt has thrown; its continuation is still to run. -/
  | thrown (error : Text)
deriving DecidableEq, Repr

/-- Where a call of `waitForExit` waits. -/
inductive WaitPhase
  /-- For the status file. -/
  | readingStatus
  /-- For `kill -0` of a group, knowing whether the child has exited. -/
  | probing (exited : Bool) (pgid : Int)
  | ticking
  | returned (result : Except Text Bool)

structure ProcessHandle where
  launched : Deferred Unit := .pending
  started : Deferred Int := .pending
  failed : Option Text := none
  ended : Option Text := none
  channelClosed : Bool := false
  settled : Bool := false
  remotePgid : Int := -1
  spawnFailed : Bool := false
  outputDrainExpired : Bool := false
  outputTransportError : Option Text := none
  quiescenceProven : Bool := false
  terminationRequested : Bool := false
  terminationAttempt : Option TerminationPhase := none
  terminationFailure : Option Text := none
  terminationSignal : Option Text := none
  diagnostics : List Text := []
  run : RunPhase := .preparing
  /-- The error that `run` has caught. -/
  failure : Option Text := none
  /-- What `done` has settled with. -/
  outcome : Option (Except Text SubprocessOutcome) := none
  waits : List WaitPhase := []
  /-- `getTransport()` returns a transport. -/
  transport : Bool := true
  /-- A connection of the handle is gone. -/
  lost : Bool := false
  /-- The `kill` commands that were issued. -/
  issued : List KillCommand := []

/-- What the race of `monitor` has seen first. -/
inductive RaceWinner
  | ended
  | failed
  | status (text : Text)
  | closed

inductive ProcessEvent
  /-- The environment is there, or what went wrong before the channel was asked for. -/
  | prepared (fault : Option Text)
  /-- The channel is there, or not, and the header was written to it, or not. -/
  | opened (fault writeFault : Option Text)
  /-- A pump hands on a control line or a diagnostic. -/
  | control (line : Text)
  | diagnostic (line : Text)
  | pumpFailed (message : Text)
  | channelClosed
  | raced (winner : RaceWinner)
  | drained (expired : Bool)
  | channelCut
  /-- The pumps are done or their timer has expired. -/
  | flushed
  | statusRead (text : Option Text)
  | rolledBack
  | dirRemoved
  /-- The connection is gone; the transport does not show it yet. -/
  | connectionLost
  | transportLost
  | transportBack
  | terminate
  /-- The promise that the attempt awaits has settled. -/
  | attemptResumed
  | attemptCaptured (capture : Capture) (expired : Bool)
  | attemptClosed (fault : Option Fault)
  | attemptPaused
  | attemptForgotten
  | waitForExit (aborted : Bool)
  | waitStatusRead (index : Nat) (capture : Capture) (aborted : Bool)
  | waitProbed (index : Nat) (capture : Capture) (aborted : Bool)
  | waitTicked (index : Nat) (aborted : Bool)

namespace ProcessHandle

def issue (self : ProcessHandle) (command : KillCommand) : ProcessHandle :=
  { self with issued := self.issued ++ [command] }

def markQuiescent (self : ProcessHandle) : ProcessHandle :=
  { self with quiescenceProven := true, terminationFailure := none }

/-! ## `waitForExit` -/

/-- The end of a turn of the loop. -/
def judge (self : ProcessHandle) (exited alive aborted : Bool) : ProcessHandle × WaitPhase :=
  if exited && !alive then (self.markQuiescent, .returned (.ok true))
  else if aborted then (self, .returned (.ok false))
  else (self, .ticking)

/-- From the probe of the group on. -/
def probeGroup (self : ProcessHandle) (exited aborted : Bool) : ProcessHandle × WaitPhase :=
  if 0 < self.remotePgid then
    (self.issue (probeCommand self.remotePgid), .probing exited self.remotePgid)
  else self.judge exited false aborted

/-- A turn of the loop up to its first `await`. -/
def turn (self : ProcessHandle) (aborted : Bool) : ProcessHandle × WaitPhase :=
  if self.quiescenceProven then (self, .returned (.ok true))
  else
    match self.terminationFailure with
    | some failure => (self, .returned (.error failure))
    | none =>
        if aborted then (self, .returned (.ok false))
        else if self.spawnFailed then (self.markQuiescent, .returned (.ok true))
        else if !self.transport then (self.markQuiescent, .returned (.ok true))
        else if self.ended.isSome || self.settled then self.probeGroup true aborted
        else (self, .readingStatus)

/-- The `catch` in the loop. -/
def waitFailed (self : ProcessHandle) (fault : Fault) (aborted : Bool) :
    ProcessHandle × WaitPhase :=
  let self : ProcessHandle := { self with lost := self.lost || fault.connLost }
  if aborted then (self, .returned (.ok false))
  else if fault.connLost then (self.markQuiescent, .returned (.ok true))
  else (self, .returned (.error fault.message))

def setWait (index : Nat) (next : ProcessHandle × WaitPhase) : ProcessHandle :=
  { next.1 with waits := next.1.waits.set index next.2 }

/-- A call of `waitForExit`. -/
def waitForExit (self : ProcessHandle) (aborted : Bool) : ProcessHandle :=
  let next := self.turn aborted
  { next.1 with waits := next.1.waits ++ [next.2] }

/-! ## `terminate` -/

def terminate (self : ProcessHandle) : ProcessHandle :=
  if self.quiescenceProven || self.terminationAttempt.isSome then self
  else
    { self with
      terminationRequested := true, terminationFailure := none
      terminationAttempt := some .awaitingLaunch }

def attempting (self : ProcessHandle) (phase : TerminationPhase) : ProcessHandle :=
  { self with terminationAttempt := some phase }

/-- The attempt has returned. -/
def attemptDone (self : ProcessHandle) : ProcessHandle :=
  { self.markQuiescent with terminationAttempt := none }

/-- `kill -TERM` or `kill -KILL` is sent. -/
def sendSignal (self : ProcessHandle) (kill : Bool) (pgid : Int) : ProcessHandle :=
  ({ self with
    terminationSignal := some (if kill then asciiText "SIGKILL" else asciiText "SIGTERM")
    terminationAttempt := some (.signalling kill pgid) }).issue
    (signalRemoteGroups [pgid] (if kill then "KILL" else "TERM"))

/-- A turn of `waitGroupDead` up to its probe. -/
def probeForDeath (self : ProcessHandle) (kill : Bool) (pgid : Int) : ProcessHandle :=
  (self.attempting (.probing kill pgid)).issue (probeCommand pgid)

/-- On when the group has not been seen dead after `TERM`, and the end after `KILL`. -/
def stillAlive (self : ProcessHandle) (kill : Bool) (pgid : Int) (error : Text) :
    ProcessHandle :=
  if kill then self.attempting (.thrown error) else self.sendSignal true pgid

/-- With the group id that the attempt has got, which is -1 when there is none. -/
def attemptStarted (self : ProcessHandle) (pgid : Int) : ProcessHandle :=
  if pgid ≤ 1 then self.attempting .closingUnstarted
  else if !self.transport then self.attemptDone
  else self.sendSignal false pgid

/-- A promise that the attempt awaits has settled. -/
def attemptResumed (self : ProcessHandle) : TerminationPhase → Option ProcessHandle
  | .awaitingLaunch =>
      match self.launched with
      | .pending => none
      | .rejected => some self.attemptDone
      | .resolved _ => some (self.attempting .awaitingStart)
  | .awaitingStart =>
      match self.started with
      | .pending => none
      | .rejected => some (self.attemptStarted (-1))
      | .resolved pgid => some (self.attemptStarted pgid)
  | .awaitingSettled => if self.settled then some self.attemptDone else none
  | _ => none

/-- A command of the attempt has come to an end. -/
def attemptCaptured (self : ProcessHandle) (capture : Capture) (expired : Bool) :
    TerminationPhase → Option ProcessHandle
  | .signalling false pgid =>
      match capture with
      | .failed fault =>
          if fault.connLost then
            let known : ProcessHandle := { self with lost := true }
            some (known.probeForDeath false pgid)
          else some (self.sendSignal true pgid)
      | .completed _ _ _ => some (self.probeForDeath false pgid)
  | .signalling true pgid =>
      some { self with
        lost := self.lost || capture.connLost
        terminationAttempt := some (.closing pgid) }
  | .probing kill pgid =>
      match capture with
      | .failed fault =>
          if fault.connLost then
            let known : ProcessHandle := { self with lost := true }
            some known.attemptDone
          else some (self.stillAlive kill pgid fault.message)
      | .completed code _ _ =>
          if code ≠ some 0 then some self.attemptDone
          else if expired then
            some (self.stillAlive kill pgid (asciiText "subprocess-ssh: remote process group " ++
              printInt pgid ++ asciiText " remained live after force termination"))
          else some (self.attempting (.pausing kill pgid))
  | _ => none

/-- `proc.kill()` has come to an end. -/
def attemptClosed (self : ProcessHandle) (fault : Option Fault) :
    TerminationPhase → Option ProcessHandle
  | .closingUnstarted =>
      match fault with
      | none => some (self.attempting .awaitingSettled)
      | some fault =>
          some (self.attempting
            (if fault.connLost then .awaitingSettled else .thrown fault.message))
  | .closing pgid => some (self.probeForDeath true pgid)
  | _ => none

/-! ## `run` -/

/-- The `catch` of `run`, up to its first `await`. -/
def fail (self : ProcessHandle) (error : Text) : ProcessHandle :=
  let canceled := self.terminationRequested && !self.started.isSettled && !self.ended.isSome
  let caught : ProcessHandle :=
    { self with
      failure := some error
      spawnFailed := self.spawnFailed ||
        (!self.started.isSettled && !self.ended.isSome && !self.failed.isSome)
      started := self.started.reject
      launched := self.launched.reject }
  if 0 < caught.remotePgid ∧ !caught.quiescenceProven then
    let waiting := caught.terminate.waitForExit false
    { waiting with run := .rollingBack caught.waits.length }
  else { caught with run := .removing canceled }

/-- The `finally` of `run`. -/
def finish (self : ProcessHandle) (outcome : Except Text SubprocessOutcome) : ProcessHandle :=
  { self with run := .finished, outcome := some outcome, settled := true }

def spawnFailure (self : ProcessHandle) (detail : Option Text) : Text :=
  let parts := asciiText "subprocess-ssh: remote spawn failed" :: (detail.toList ++
    if self.diagnostics = [] then [] else [[ascii '\n'].intercalate self.diagnostics])
  (asciiText ": ").intercalate parts

/-- The conversion of an ambiguous exit code behind a requested termination. -/
def reportedOutcome (self : ProcessHandle) (parsed : SubprocessOutcome) : SubprocessOutcome :=
  if parsed.signal = none ∧ self.terminationSignal.isSome ∧
      parsed.exitCode.any fun code => 128 < code then
    { exitCode := none, signal := self.terminationSignal }
  else parsed

def finishOutcome (self : ProcessHandle) (statusText : Text) : ProcessHandle :=
  match parseStatusText statusText with
  | none =>
      self.fail (asciiText "subprocess-ssh: remote wrapper published invalid status " ++
        quote statusText)
  | some parsed =>
      match self.outputTransportError with
      | some error => self.fail error
      | none => self.finish (.ok (self.reportedOutcome parsed))

/-- `outputDrainExpired`, which also invalidates the spills. -/
def expireDrain (self : ProcessHandle) : ProcessHandle :=
  { self with outputDrainExpired := true }

/-- The branches of `monitor`, up to their first `await`. -/
def raced (self : ProcessHandle) : RaceWinner → Option ProcessHandle
  | .ended => self.ended.map fun status => { self with run := .flushing status }
  | .failed => self.failed.map fun message => self.fail (self.spawnFailure (some message))
  | .status text =>
      if isPublished (some text) then some { self with run := .draining text } else none
  | .closed => if self.channelClosed then some { self with run := .closing } else none

/-- What `monitor` does when the pumps are done after the channel has closed. -/
def classify (self : ProcessHandle) : ProcessHandle :=
  match self.failed, self.ended with
  | some message, _ => self.fail (self.spawnFailure (some message))
  | none, some status => self.finishOutcome status
  | none, none => { self with run := .readingStatus }

/-- With the status file, if there is one. -/
def statusRead (self : ProcessHandle) (text : Option Text) : ProcessHandle :=
  match text.filter fun text => trim text ≠ [] with
  | some status => self.expireDrain.finishOutcome status
  | none =>
      if !self.started.isSettled then self.fail (self.spawnFailure none)
      else
        self.fail (connLostError "command channel closed before the wrapper published completion")

/-- Behind the call of `waitForExit` in the `catch`. -/
def rolledBack (self : ProcessHandle) : Except Text Bool → ProcessHandle
  | .ok _ => { self with run := .removing false }
  | .error _ =>
      { self with
        run := .removing false
        failure := some (asciiText ("subprocess-ssh: command monitoring failed and " ++
          "process-group rollback did not reach quiescence")) }

/-- `onControl`. -/
def onControl (self : ProcessHandle) (line : Text) : ProcessHandle :=
  match matchControl line with
  | none => { self with diagnostics := self.diagnostics ++ [line] }
  | some (.START, rest) =>
      match parsePublishedPgid rest with
      | .ok pgid => { self with remotePgid := pgid, started := self.started.resolve pgid }
      | .error message => { self with failed := self.failed.or (some message) }
  | some (.FAIL, rest) => { self with failed := self.failed.or (some (failMessage rest)) }
  | some (.END, rest) => { self with ended := self.ended.or (some rest) }

/-! ## Steps -/

/-- The constructor, with an abort signal that may have fired already. -/
def create (transport root aborted : Bool) : ProcessHandle :=
  let fresh : ProcessHandle := { transport := transport, lost := !transport }
  let begun :=
    if !transport then fresh.fail (connLostError "no live SSH connection")
    else if !root then fresh.fail (connLostError "remote runtime root unavailable")
    else fresh
  if aborted then begun.terminate else begun

def step (self : ProcessHandle) : ProcessEvent → Option ProcessHandle
  | .prepared fault =>
      if self.run = .preparing then
        some (match fault with
          | some error => self.fail error
          | none => { self with run := .opening })
      else none
  | .opened fault writeFault =>
      if self.run = .opening then
        some (match fault with
          | some error => self.fail error
          | none =>
              let launched : ProcessHandle := { self with launched := self.launched.resolve () }
              match writeFault with
              | some error => launched.fail error
              | none => { launched with run := .racing })
      else none
  | .control line => if self.launched = .resolved () then some (self.onControl line) else none
  | .diagnostic line => some { self with diagnostics := self.diagnostics ++ [line] }
  | .pumpFailed message =>
      some { self with outputTransportError := self.outputTransportError.or (some message) }
  | .channelClosed =>
      if self.launched = .resolved () then some { self with channelClosed := true } else none
  | .raced winner => if self.run = .racing then self.raced winner else none
  | .drained expired =>
      match self.run with
      | .draining status =>
          match self.ended, expired with
          | none, true => some { self.expireDrain with run := .cutting status }
          | some drained, false => some { self with run := .flushing drained }
          | _, _ => none
      | _ => none
  | .channelCut =>
      match self.run with
      | .cutting status => some { self with run := .flushing status }
      | _ => none
  | .flushed =>
      match self.run with
      | .flushing status => some (self.finishOutcome status)
      | .closing => some self.classify
      | _ => none
  | .statusRead text => if self.run = .readingStatus then some (self.statusRead text) else none
  | .rolledBack =>
      match self.run with
      | .rollingBack wait =>
          match self.waits[wait]? with
          | some (.returned result) => some (self.rolledBack result)
          | _ => none
      | _ => none
  | .dirRemoved =>
      match self.run with
      | .removing canceled =>
          some (self.finish (if canceled then
              .ok { exitCode := none, signal := some (asciiText "SIGTERM") }
            else .error (self.failure.getD [])))
      | _ => none
  | .connectionLost => some { self with lost := true }
  | .transportLost => some { self with transport := false, lost := true }
  | .transportBack => some { self with transport := true }
  | .terminate => some self.terminate
  | .attemptResumed => self.terminationAttempt.bind self.attemptResumed
  | .attemptCaptured capture expired =>
      self.terminationAttempt.bind (self.attemptCaptured capture expired)
  | .attemptClosed fault => self.terminationAttempt.bind (self.attemptClosed fault)
  | .attemptPaused =>
      match self.terminationAttempt with
      | some (.pausing kill pgid) => some (self.probeForDeath kill pgid)
      | _ => none
  | .attemptForgotten =>
      match self.terminationAttempt with
      | some (.thrown error) =>
          some { self with
            terminationAttempt := none
            terminationFailure :=
              if self.quiescenceProven then self.terminationFailure else some error }
      | _ => none
  | .waitForExit aborted => some (self.waitForExit aborted)
  | .waitStatusRead index capture aborted =>
      match self.waits[index]? with
      | some .readingStatus =>
          some (setWait index (match capture with
            | .failed fault => self.waitFailed fault aborted
            | .completed _ _ _ => self.probeGroup (isPublished capture.fileText) aborted))
      | _ => none
  | .waitProbed index capture aborted =>
      match self.waits[index]? with
      | some (.probing exited _) =>
          some (setWait index (match capture with
            | .failed fault => self.waitFailed fault aborted
            | .completed code _ _ => self.judge exited (code = some 0) aborted))
      | _ => none
  | .waitTicked index aborted =>
      match self.waits[index]? with
      | some .ticking =>
          some (setWait index (if aborted then (self, .returned (.ok false)) else self.turn false))
      | _ => none

end ProcessHandle

end DshRemote.Subprocess
