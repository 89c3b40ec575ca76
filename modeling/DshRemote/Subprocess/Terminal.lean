import DshRemote.Foundation.Execution
import DshRemote.Subprocess.RemoteIds

/-! # `SshTerminalHandle`

A terminal with the operations that are under way on it and the attempt to end its session.
An event is one synchronous stretch of code: a call up to its first `await`, or what follows
an `await`. What the remote side answers, whether a transport is at hand and whether a
deadline has passed is part of the event. -/

namespace DshRemote.Subprocess

open Json (asciiText printInt join)
open NumberText (trim)

/-- How a channel closed. -/
structure ExecResult where
  code : Option Int
  signal : Option Text := none
deriving DecidableEq, Repr

structure SubprocessOutcome where
  exitCode : Option Int
  signal : Option Text
deriving DecidableEq, Repr

inductive SubprocessTerminalSignal
  | SIGINT
  | SIGTERM
  | SIGKILL
  | SIGTSTP
  | SIGHUP
deriving DecidableEq, Repr

/-- `signal.slice(3)`. -/
def SubprocessTerminalSignal.slice : SubprocessTerminalSignal → Text
  | .SIGINT => asciiText "INT"
  | .SIGTERM => asciiText "TERM"
  | .SIGKILL => asciiText "KILL"
  | .SIGTSTP => asciiText "TSTP"
  | .SIGHUP => asciiText "HUP"

def connLostError (what : String) : Text :=
  asciiText ("subprocess-ssh: " ++ what ++ ": remote connection lost")

inductive OperationValue
  | written
  | inspected (foreground : Option Foreground)
  | signalled (group : Int)
deriving DecidableEq, Repr

/-- Where an operation of the terminal waits. -/
inductive TerminalOperation
  /-- For `ps`, for the sake of a signal if there is one. -/
  | inspecting (signal : Option SubprocessTerminalSignal)
  /-- For `kill`. -/
  | signalling (signal : SubprocessTerminalSignal) (group : Int)
  /-- The promise has settled; it is still in the set. -/
  | settled (result : Except Text OperationValue)

def TerminalOperation.isSettled : TerminalOperation → Bool
  | .settled _ => true
  | _ => false

/-- The listings of the processes that an attempt makes. -/
inductive Listing
  | first
  /-- In the grace after `TERM`. -/
  | afterTerm
  /-- In the grace after the channel was closed. -/
  | afterKill
  /-- When that grace has passed. -/
  | last
deriving DecidableEq, Repr

/-- Where an attempt to end the session waits. -/
inductive Cleanup
  | idle
  | awaitingOperations
  /-- For `proc.kill()`, when no transport was at hand. -/
  | killingGone
  | listing (stage : Listing)
  /-- For `kill`, which is the one in the loop after the channel was closed or not. -/
  | signalling (kill : Bool)
  | pausing (kill : Bool)
  /-- For the exit of the top-level process or the grace, before the channel is closed. -/
  | racing
  /-- For the same, after it. -/
  | racingLast (groups : List Int)
  /-- For `proc.kill()`. -/
  | killing
  | removing
  | resolved
  | rejected (error : Text)
deriving DecidableEq, Repr

/-- How an attempt ended, and what was known by then. -/
structure Settlement where
  error : Option Text
  /-- The connection was gone. -/
  lost : Bool
  /-- The last listing that the attempt got. -/
  listing : Option Capture
  topLevelExited : Bool
deriving DecidableEq, Repr

structure Terminal where
  pid : Int
  topLevelExited : Bool := false
  /-- What `done` has settled with. -/
  outcome : Option (Except Text SubprocessOutcome) := none
  terminationSignal : Option Text := none
  /-- `operationController.signal.aborted`. -/
  aborted : Bool := false
  operations : List TerminalOperation := []
  cleanup : Cleanup := .idle
  /-- What was written to the channel. -/
  written : List Text := []
  /-- The `kill` commands that were issued. -/
  issued : List KillCommand := []
  /-- The connection is gone. -/
  lost : Bool := false
  /-- The last listing of the attempt under way. -/
  listing : Option Capture := none
  settlements : List Settlement := []

inductive TerminalEvent
  | write (data : Text) (fault : Option Fault)
  | inspectForeground (transport : Bool)
  | signalForeground (signal : SubprocessTerminalSignal) (transport : Bool)
  /-- The command of an operation has come to an end. -/
  | captured (index : Nat) (capture : Capture) (transport : Bool)
  /-- A settled operation is taken out of the set. -/
  | forgotten (index : Nat)
  /-- The channel of the terminal has closed. -/
  | exited (result : ExecResult)
  | connectionLost
  | terminate
  | operationsSettled (transport : Bool)
  | listed (capture : Capture) (expired : Bool)
  | signalled (capture : Capture) (expired : Bool)
  | paused
  | raced
  | procKilled (fault : Option Fault)
  | removed (capture : Capture)
  /-- The `catch` on the attempt. -/
  | cleanupForgotten

namespace Capture

/-- The command failed because the connection is lost. -/
def connLost : Capture → Bool
  | .failed fault => fault.connLost
  | .completed _ _ _ => false

end Capture

/-- What `waitForCommand` comes to. -/
def commandOutcome (terminationSignal : Option Text) (result : ExecResult) :
    Except Text SubprocessOutcome :=
  match result.signal.filter (· ≠ []) with
  | some name =>
      .ok { exitCode := result.code
            signal := some (if asciiText "SIG" <+: name then name else asciiText "SIG" ++ name) }
  | none =>
      match result.code, terminationSignal with
      | some code, _ => .ok { exitCode := some code, signal := none }
      | none, some name => .ok { exitCode := none, signal := some name }
      | none, none => .error (connLostError "terminal channel closed without an exit status")

namespace Terminal

/-! ## The attempt to end the session -/

def reject (self : Terminal) (error : Text) : Terminal :=
  { self with
    cleanup := .rejected error
    settlements := self.settlements ++ [{
      error := some error, lost := self.lost, listing := self.listing
      topLevelExited := self.topLevelExited }] }

def resolve (self : Terminal) : Terminal :=
  { self with
    cleanup := .resolved
    settlements := self.settlements ++ [{
      error := none, lost := self.lost, listing := self.listing
      topLevelExited := self.topLevelExited }] }

def issue (self : Terminal) (command : KillCommand) : Terminal :=
  { self with issued := self.issued ++ [command] }

/-- The checks at the end of `closeOnce`. -/
def conclude (self : Terminal) (groups : List Int) : Terminal :=
  if groups ≠ [] then
    self.reject (asciiText "subprocess-ssh: terminal cleanup failed; surviving process groups: " ++
      (asciiText ", ").intercalate (groups.map printInt))
  else if !self.topLevelExited then
    self.reject (asciiText "subprocess-ssh: terminal cleanup failed; surviving pid: " ++
      printInt self.pid)
  else { self with cleanup := .removing }

/-- From the decision to close the channel on. -/
def escalate (self : Terminal) (groups : List Int) : Terminal :=
  if groups ≠ [] ∨ !self.topLevelExited then
    { self with terminationSignal := some (asciiText "SIGKILL"), cleanup := .killing }
  else self.conclude groups

/-- With the groups that are left after `TERM`. -/
def afterTerm (self : Terminal) (groups : List Int) : Terminal :=
  if groups = [] ∧ !self.topLevelExited then { self with cleanup := .racing }
  else self.escalate groups

/-- With the groups that are left after the channel was closed. -/
def afterKill (self : Terminal) (groups : List Int) : Terminal :=
  if !self.topLevelExited then { self with cleanup := .racingLast groups }
  else self.conclude groups

/-- What follows a listing. -/
def listed (self : Terminal) (expired : Bool) : Listing → Capture → Terminal
  | .first, .failed fault =>
      if fault.connLost then self.afterTerm [] else self.reject fault.message
  | _, .failed fault => self.reject fault.message
  | .first, .completed code stdout _ =>
      let groups := sessionGroups self.pid code stdout
      if groups ≠ [] then
        ({ self with
          terminationSignal := some (asciiText "SIGTERM"), cleanup := .signalling false }).issue
          (signalRemoteGroups groups "TERM")
      else self.afterTerm groups
  | .afterTerm, .completed code stdout _ =>
      let groups := sessionGroups self.pid code stdout
      if groups = [] ∨ expired then self.afterTerm groups
      else { self with cleanup := .pausing false }
  | .afterKill, .completed code stdout _ =>
      let groups := sessionGroups self.pid code stdout
      if groups = [] then self.afterKill groups
      else ({ self with cleanup := .signalling true }).issue (signalRemoteGroups groups "KILL")
  | .last, .completed code stdout _ => self.afterKill (sessionGroups self.pid code stdout)

/-- On from a signal in `awaitSessionEmpty`, or into it. -/
def awaitSessionEmpty (self : Terminal) (kill expired : Bool) : Terminal :=
  if !kill then { self with cleanup := .listing .afterTerm }
  else if expired then { self with cleanup := .listing .last }
  else { self with cleanup := .pausing true }

/-- What follows `signalRemoteGroups`, which has tolerated a lost connection. -/
def signalled (self : Terminal) (kill expired : Bool) : Capture → Terminal
  | .failed fault =>
      if fault.connLost then self.awaitSessionEmpty kill expired else self.reject fault.message
  | .completed _ _ _ => self.awaitSessionEmpty kill expired

/-! ## The operations -/

def track (self : Terminal) (operation : TerminalOperation) : Terminal :=
  { self with operations := self.operations ++ [operation] }

def settle (self : Terminal) (index : Nat) (result : Except Text OperationValue) : Terminal :=
  { self with operations := self.operations.set index (.settled result) }

/-- An inspection up to its `await`. -/
def inspect (self : Terminal) (signal : Option SubprocessTerminalSignal) (transport : Bool) :
    Terminal :=
  self.track (if transport then .inspecting signal
    else .settled (.error (connLostError "no live SSH connection")))

/-- `signalForeground`, from the foreground group on. -/
def signalGroup (self : Terminal) (index : Nat) (signal : SubprocessTerminalSignal)
    (transport : Bool) : Except Text (Option Foreground) → Terminal
  | .error message => self.settle index (.error message)
  | .ok none => self.settle index (.error (noForeground self.pid))
  | .ok (some foreground) =>
      if signal = .SIGKILL ∧ foreground.processGroupId = self.pid then
        self.settle index (.error (asciiText ("refusing to SIGKILL the terminal shell; " ++
          "terminate the terminal session instead")))
      else if !transport then
        self.settle index (.error (connLostError "no live SSH connection"))
      else
        ({ self with
          operations := self.operations.set index
            (.signalling signal foreground.processGroupId) }).issue
          { signal := signal.slice, groups := [foreground.processGroupId] }

/-- What follows the command of an operation. -/
def captured (self : Terminal) (index : Nat) (capture : Capture) (transport : Bool) :
    TerminalOperation → Option Terminal
  | .inspecting none =>
      some (self.settle index
        ((inspectedForeground self.pid self.topLevelExited capture).map .inspected))
  | .inspecting (some signal) =>
      some (self.signalGroup index signal transport
        (inspectedForeground self.pid self.topLevelExited capture))
  | .signalling signal group =>
      some (self.settle index (match capture with
        | .failed fault => .error fault.message
        | .completed code _ stderr =>
            if code ≠ some 0 then
              .error (asciiText "subprocess-ssh: signal SIG" ++ signal.slice ++
                asciiText " to group " ++ printInt group ++ asciiText " failed: " ++ trim stderr)
            else .ok (.signalled group)))
  | .settled _ => none

/-! ## Steps -/

def step (self : Terminal) : TerminalEvent → Option Terminal
  | .write data fault =>
      if self.aborted then some self
      else if self.topLevelExited then
        some (self.track (.settled (.error
          (asciiText "subprocess-ssh: terminal process has exited"))))
      else
        match fault with
        | some fault => some (self.track (.settled (.error fault.message)))
        | none =>
            some (({ self with written := self.written ++ [data] }).track
              (.settled (.ok .written)))
  | .inspectForeground transport =>
      if self.aborted then some self else some (self.inspect none transport)
  | .signalForeground signal transport =>
      if self.aborted then some self else some (self.inspect (some signal) transport)
  | .captured index capture transport =>
      (self.operations[index]?).bind (self.captured index capture transport)
  | .forgotten index =>
      match self.operations[index]? with
      | some (.settled _) => some { self with operations := self.operations.eraseIdx index }
      | _ => none
  | .exited result =>
      if self.outcome.isSome then none
      else
        some { self with
          topLevelExited := true
          outcome := some (commandOutcome self.terminationSignal result) }
  | .connectionLost => some { self with lost := true }
  | .terminate =>
      if self.cleanup = .idle then
        some { self with aborted := true, cleanup := .awaitingOperations }
      else some self
  | .operationsSettled transport =>
      if self.cleanup = .awaitingOperations ∧ self.operations.all TerminalOperation.isSettled then
        some (if transport then { self with cleanup := .listing .first, listing := none }
          else { self with cleanup := .killingGone, listing := none, lost := true })
      else none
  | .listed capture expired =>
      match self.cleanup with
      | .listing stage =>
          let known : Terminal :=
            { self with listing := some capture, lost := self.lost || capture.connLost }
          some (known.listed expired stage capture)
      | _ => none
  | .signalled capture expired =>
      match self.cleanup with
      | .signalling kill =>
          let known : Terminal := { self with lost := self.lost || capture.connLost }
          some (known.signalled kill expired capture)
      | _ => none
  | .paused =>
      match self.cleanup with
      | .pausing kill =>
          some { self with cleanup := .listing (if kill then .afterKill else .afterTerm) }
      | _ => none
  | .raced =>
      match self.cleanup with
      | .racing => some (self.escalate [])
      | .racingLast groups => some (self.conclude groups)
      | _ => none
  | .procKilled fault =>
      match self.cleanup, fault with
      | .killingGone, _ => some self.resolve
      | .killing, none => some { self with cleanup := .listing .afterKill }
      | .killing, some fault =>
          if fault.connLost then
            let known : Terminal := { self with lost := true }
            some known.resolve
          else some (self.reject fault.message)
      | _, _ => none
  | .removed _ => if self.cleanup = .removing then some self.resolve else none
  | .cleanupForgotten =>
      match self.cleanup with
      | .rejected _ => some { self with cleanup := .idle }
      | _ => none

end Terminal

end DshRemote.Subprocess
