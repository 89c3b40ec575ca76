import DshRemote.Subprocess.KillTargets

/-! # A handle and the process group of its child

A handle together with the process group of its child. The remote side is truthful: a
`START` frame names the group of the child once there is one, the status file and `END` come
after the child has exited, and `kill -0` fails only on a group without members. The order in
which the handle gets to know of all this is free. -/

namespace DshRemote.Subprocess

/-- The process group of the child. -/
inductive RemoteGroup
  | absent
  /-- The child is alive. -/
  | running
  /-- The child has exited; a descendant may be alive. -/
  | orphaned
  /-- No member is left. -/
  | empty
deriving DecidableEq, Repr

def RemoteGroup.hasExited : RemoteGroup → Bool
  | .absent | .running => false
  | .orphaned | .empty => true

structure World where
  pgid : Int
  group : RemoteGroup := .absent
  /-- `run` has failed before there was a group. -/
  failedBefore : Bool := false
  /-- A probe that ran to its end has found no member. -/
  foundEmpty : Bool := false

/-- The connection is gone, the spawn failed before there was a group, or a completed probe
found no member of the group, behind the exit of the child. -/
def World.Accounts (world : World) (lost : Bool) : Prop :=
  lost = true ∨ world.failedBefore = true ∨ world.foundEmpty = true ∧ world.group = .empty

namespace ProcessHandle

/-- The target and the exit code of a probe that has come to its end. -/
def probeResult (self : ProcessHandle) : ProcessEvent → Option (Int × Option Int)
  | .waitProbed index (.completed code _ _) _ =>
      match self.waits[index]? with
      | some (.probing _ pgid) => some (pgid, code)
      | _ => none
  | .attemptCaptured (.completed code _ _) _ =>
      match self.terminationAttempt with
      | some (.probing _ pgid) => some (pgid, code)
      | _ => none
  | _ => none

/-- A turn of `waitForExit` takes the group for dead without a probe. -/
def takesExit (self : ProcessHandle) : Bool :=
  self.spawnFailed || ((self.ended.isSome || self.settled) && self.remotePgid ≤ 0)

/-- A call of `waitForExit` or the attempt to terminate goes by something else than a probe
with an exit code. -/
def concludes (self : ProcessHandle) : ProcessEvent → Bool
  | .waitForExit aborted | .waitTicked _ aborted =>
      !self.quiescenceProven && self.terminationFailure.isNone && !aborted && self.takesExit
  | .waitStatusRead _ capture _ => isPublished capture.fileText && self.remotePgid ≤ 0
  | .waitProbed index (.completed none _ _) _ =>
      match self.waits[index]? with
      | some (.probing exited _) => exited
      | _ => false
  | .attemptCaptured (.completed none _ _) _ =>
      match self.terminationAttempt with
      | some (.probing _ _) => true
      | _ => false
  | .attemptResumed =>
      match self.terminationAttempt with
      | some .awaitingLaunch => self.launched = .rejected
      | some .awaitingSettled => self.settled
      | _ => false
  | _ => false

end ProcessHandle

namespace World

/-- What the remote side can have sent. -/
def allows (self : World) (handle : ProcessHandle) : ProcessEvent → Bool
  | .control line =>
      match matchControl line with
      | some (.START, rest) =>
          match parsePublishedPgid rest with
          | .ok pgid => pgid = self.pgid ∧ self.group ≠ .absent
          | .error _ => true
      | some (.END, _) => self.group.hasExited
      | _ => true
  | .raced (.status _) => self.group.hasExited
  | .statusRead text => !isPublished text || self.group.hasExited
  | .waitStatusRead _ capture _ => !isPublished capture.fileText || self.group.hasExited
  | event =>
      match handle.probeResult event with
      | some (pgid, some code) => code = 0 ∨ pgid ≠ self.pgid ∨ self.group = .empty
      | _ => true

/-- What has come to be the case in a step of the handle. -/
def after (self : World) (handle next : ProcessHandle) (event : ProcessEvent) : World :=
  { self with
    failedBefore := self.failedBefore ||
      (handle.failure.isNone && next.failure.isSome && self.group = .absent)
    foundEmpty := self.foundEmpty ||
      match handle.probeResult event with
      | some (pgid, some code) => code ≠ 0 ∧ pgid = self.pgid
      | _ => false }

end World

structure Scene where
  world : World
  handle : ProcessHandle

inductive SceneEvent
  /-- The wrapper starts the child. -/
  | childStarted
  | childExited
  /-- The last member of the group is gone. -/
  | groupEmptied
  | handle (event : ProcessEvent)

namespace Scene

/-- A handle that was just made. There is no group yet. -/
def start (pgid : Int) (transport root aborted : Bool) : Scene where
  world := {
    pgid := pgid
    failedBefore := (ProcessHandle.create transport root aborted).failure.isSome }
  handle := ProcessHandle.create transport root aborted

def step (self : Scene) : SceneEvent → Option Scene
  | .childStarted =>
      if self.world.group = .absent ∧ self.handle.launched = .resolved () then
        some { self with world := { self.world with group := .running } }
      else none
  | .childExited =>
      if self.world.group = .running then
        some { self with world := { self.world with group := .orphaned } }
      else none
  | .groupEmptied =>
      if self.world.group = .orphaned then
        some { self with world := { self.world with group := .empty } }
      else none
  | .handle event =>
      if self.world.allows self.handle event then
        (self.handle.step event).map fun next =>
          { world := self.world.after self.handle next event, handle := next }
      else none

/-- Over a live connection and with a group that exists, the handle goes by something else than
a probe with an exit code. -/
def premature (self : Scene) : SceneEvent → Bool
  | .handle event =>
      !self.handle.lost && !self.world.failedBefore && self.world.group ≠ .absent &&
        self.handle.concludes event
  | _ => false

end Scene

end DshRemote.Subprocess
