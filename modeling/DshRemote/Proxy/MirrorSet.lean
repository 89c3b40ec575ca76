import DshRemote.Foundation.Execution
import DshRemote.Foundation.OrderedMap
import DshRemote.Protocol

/-! # The mirror set of `RemoteProxy`

The mirrors by session id, the bootstraps in flight, and everything that creates or tears
down a mirror: `reconcile`, `mirrorSession` behind it and behind the agent factory and
`forkRemote`, the handles the factory returns, and `dispose`. An event is one synchronous
stretch of code; between two of them any other may run. What a remote call or a bootstrap
comes to is part of the event that settles it. -/

namespace DshRemote.Proxy

/-- The identity of a `SessionMirror` object: its place among those constructed so far. -/
abbrev MirrorId := Nat

/-- A `SessionMirror` as the set sees it. -/
structure MirrorObject where
  sessionId : SessionId
  disposed : Bool := false
deriving DecidableEq, Repr

/-- An entry of `client.list`. -/
structure ListedSession where
  sessionId : SessionId
  /-- `state === 'active'`. -/
  active : Bool
deriving DecidableEq, Repr

/-- Who awaits a promise of `mirrorSession`. -/
inductive MirrorCaller
  | createAgent
  | resume
  | forkRemote
  /-- A run of `reconcile`, with its active ids and the summaries it has not seen yet. -/
  | reconcile (active : List SessionId) (rest : List ListedSession)
deriving DecidableEq, Repr

/-- The promise of `SessionMirror.create`. -/
inductive BootstrapState
  | running
  | created (mirror : MirrorId)
  | failed
deriving DecidableEq, Repr

/-- An entry of `inflight`, with the callers that await it. -/
structure Bootstrap where
  state : BootstrapState := .running
  callers : List MirrorCaller
deriving DecidableEq, Repr

/-- A function that awaits something, and where it goes on. -/
inductive MirrorTask
  /-- `reconcile` awaits `client.list`. -/
  | listing
  /-- `reconcile` awaits `client.attach` of one session. -/
  | attaching (active : List SessionId) (sessionId : SessionId) (rest : List ListedSession)
  /-- `reconcile` awaits the teardown of one mirror. -/
  | tearing (active : List SessionId) (rest : List (SessionId × MirrorId))
  /-- `resume` of a session without a mirror awaits `prepare` and the write attach. -/
  | resuming (sessionId : SessionId)
  /-- `forkRemote` awaits the fork and the attach of the child. -/
  | forking
  /-- A caller of `mirrorSession` whose promise has settled. -/
  | answered (caller : MirrorCaller) (mirror : Option MirrorId)
  /-- `disposeOwned` awaits `mirror.dispose`, which did something if it was the first. -/
  | disposingOwned (mirror : MirrorId) (first : Bool)
  /-- `RemoteProxy.dispose` awaits one mirror, with the others still to come. -/
  | disposingAll (rest : List MirrorId)
deriving DecidableEq, Repr

structure MirrorSet where
  mirrors : OrderedMap SessionId MirrorId := .empty
  inflight : OrderedMap SessionId Bootstrap := .empty
  disposed : Bool := false
  /-- The mirrors that `SessionMirror.create` has returned so far. One that it constructs and
  then fails with is held by nobody. -/
  objects : List MirrorObject := []
  tasks : List MirrorTask := []
  /-- The mirrors whose `disposeOwned` the factory has handed out. -/
  owned : List MirrorId := []
deriving DecidableEq

inductive MirrorSetEvent
  | reconcile
  /-- `client.create` inside `createAgent` has returned the handle of this session. -/
  | createAgent (sessionId : SessionId)
  | resume (sessionId : SessionId)
  | forkRemote (source : SessionId)
  /-- `dispose` of a handle that the factory returned. -/
  | disposeOwned (mirror : MirrorId)
  | dispose
  | listed (summaries : Option (List ListedSession))
  | attached (active : List SessionId) (sessionId : SessionId) (rest : List ListedSession)
      (succeeded : Bool)
  | resumed (sessionId : SessionId) (succeeded : Bool)
  | forked (child : Option SessionId)
  /-- `SessionMirror.create` returns or throws. -/
  | bootstrapped (sessionId : SessionId) (succeeded : Bool)
  /-- `mirrorSession` goes on behind its `await promise`. -/
  | settled (sessionId : SessionId)
  | answered (caller : MirrorCaller) (mirror : Option MirrorId)
  | toreDown (active : List SessionId) (rest : List (SessionId × MirrorId))
  | disposedOwned (mirror : MirrorId) (first : Bool) (succeeded : Bool)
  | disposedOne (rest : List MirrorId)
deriving DecidableEq, Repr

namespace MirrorSet

def await (set : MirrorSet) (task : MirrorTask) : MirrorSet :=
  { set with tasks := task :: set.tasks }

/-- The set in which an awaited promise has settled. -/
def resume (set : MirrorSet) (task : MirrorTask) : Option MirrorSet :=
  if task ∈ set.tasks then some { set with tasks := set.tasks.erase task } else none

/-- The first synchronous stretch of `SessionMirror.dispose`. -/
def disposeMirror (set : MirrorSet) (mirror : MirrorId) : MirrorSet :=
  { set with objects := set.objects.modify mirror fun object => { object with disposed := true } }

/-- `mirror.disposed`. -/
def isDisposed (set : MirrorSet) (mirror : MirrorId) : Bool :=
  (set.objects[mirror]?).any MirrorObject.disposed

/-- `mirror.handle.sessionId`. -/
def sessionOf (set : MirrorSet) (mirror : MirrorId) : Option SessionId :=
  (set.objects[mirror]?).map MirrorObject.sessionId

/-- `mirrorSession`, up to its first `await`. -/
def mirrorSession (set : MirrorSet) (sessionId : SessionId) (caller : MirrorCaller) : MirrorSet :=
  match set.mirrors.get sessionId with
  | some existing => set.await (.answered caller (some existing))
  | none =>
      let callers := match set.inflight.get sessionId with
        | some pending => { pending with callers := pending.callers ++ [caller] }
        | none => { callers := [caller] }
      { set with inflight := set.inflight.set sessionId callers }

/-- The teardown loop of `reconcile`, up to its next `await`. -/
def tearDown (set : MirrorSet) (active : List SessionId) : List (SessionId × MirrorId) → MirrorSet
  | [] => set
  | (sessionId, mirror) :: rest =>
      if sessionId ∈ active then set.tearDown active rest
      else
        (({ set with mirrors := set.mirrors.delete sessionId }).disposeMirror mirror).await
          (.tearing active rest)

/-- The mirroring loop of `reconcile`, up to its next `await`. -/
def sweep (set : MirrorSet) (active : List SessionId) : List ListedSession → MirrorSet
  | [] => set.tearDown active set.mirrors.entries
  | summary :: rest =>
      if !summary.active then set.sweep active rest
      else if set.mirrors.has summary.sessionId || set.inflight.has summary.sessionId then
        set.sweep active rest
      else set.await (.attaching active summary.sessionId rest)

/-- A caller of `mirrorSession` goes on with a mirror, or without one after an error. -/
def answer (set : MirrorSet) : MirrorCaller → Option MirrorId → MirrorSet
  | .createAgent, some mirror | .resume, some mirror =>
      { set with owned := mirror :: set.owned }
  | .createAgent, none | .resume, none | .forkRemote, _ => set
  | .reconcile active rest, _ => set.sweep active rest

/-- `mirrorSession` behind its `await`: register, settle, and let the callers go on. -/
def settle (set : MirrorSet) (sessionId : SessionId) (bootstrap : Bootstrap) :
    Option MirrorSet :=
  let answers := fun mirror => bootstrap.callers.map (MirrorTask.answered · mirror)
  match bootstrap.state with
  | .running => none
  | .created mirror => some { set with
      mirrors := set.mirrors.set sessionId mirror
      inflight := set.inflight.delete sessionId
      tasks := answers (some mirror) ++ set.tasks }
  | .failed => some { set with
      inflight := set.inflight.delete sessionId
      tasks := answers none ++ set.tasks }

/-- The loop of `RemoteProxy.dispose`, up to its next `await`. -/
def disposeAll (set : MirrorSet) : List MirrorId → MirrorSet
  | [] => set
  | mirror :: rest => (set.disposeMirror mirror).await (.disposingAll rest)

/-- `disposeOwned` behind its `await`. A teardown that threw leaves the entry. -/
def forget (set : MirrorSet) (mirror : MirrorId) (succeeded : Bool) : MirrorSet :=
  match set.sessionOf mirror with
  | some sessionId =>
      if succeeded then { set with mirrors := set.mirrors.delete sessionId } else set
  | none => set

def step (set : MirrorSet) : MirrorSetEvent → Option MirrorSet
  | .reconcile => some (if set.disposed then set else set.await .listing)
  | .createAgent sessionId => some (set.mirrorSession sessionId .createAgent)
  | .resume sessionId =>
      -- An existing mirror is escalated in place; its handle only releases control.
      some (if set.mirrors.has sessionId then set else set.await (.resuming sessionId))
  | .forkRemote source =>
      some (if set.mirrors.has source then set.await .forking else set)
  | .disposeOwned mirror =>
      if mirror ∈ set.owned then
        some ((set.disposeMirror mirror).await (.disposingOwned mirror !set.isDisposed mirror))
      else none
  | .dispose =>
      some (if set.disposed then set
        else { set with disposed := true, mirrors := .empty }.disposeAll set.mirrors.values)
  | .listed summaries => (set.resume .listing).map fun next =>
      match summaries with
      | none => next
      | some summaries =>
          next.sweep ((summaries.filter (·.active)).map (·.sessionId)) summaries
  | .attached active sessionId rest succeeded =>
      (set.resume (.attaching active sessionId rest)).map fun next =>
        if succeeded then next.mirrorSession sessionId (.reconcile active rest)
        else next.sweep active rest
  | .resumed sessionId succeeded => (set.resume (.resuming sessionId)).map fun next =>
      if succeeded then next.mirrorSession sessionId .resume else next
  | .forked child => (set.resume .forking).map fun next =>
      match child with
      | some sessionId => next.mirrorSession sessionId .forkRemote
      | none => next
  | .bootstrapped sessionId succeeded =>
      match set.inflight.get sessionId with
      | some ⟨.running, callers⟩ =>
          if succeeded then some { set with
            objects := set.objects ++ [{ sessionId := sessionId }]
            inflight := set.inflight.set sessionId ⟨.created set.objects.length, callers⟩ }
          else some { set with
            inflight := set.inflight.set sessionId ⟨.failed, callers⟩ }
      | _ => none
  | .settled sessionId => (set.inflight.get sessionId).bind fun bootstrap =>
      set.settle sessionId bootstrap
  | .answered caller mirror => (set.resume (.answered caller mirror)).map fun next =>
      next.answer caller mirror
  | .toreDown active rest => (set.resume (.tearing active rest)).map fun next =>
      next.tearDown active rest
  | .disposedOwned mirror first succeeded =>
      if !first && !succeeded then none
      else (set.resume (.disposingOwned mirror first)).map fun next =>
        next.forget mirror succeeded
  | .disposedOne rest => (set.resume (.disposingAll rest)).map fun next =>
      next.disposeAll rest

end MirrorSet

end DshRemote.Proxy
