import DshRemote.Foundation.Execution
import DshRemote.Proxy.RemoteHistory

/-! # SessionMirror

One remote session mirrored into a local session: the bootstrap of `create`, with the
live feed tapped before the history is read, and the appends that follow. The pages
are served and the composition hook and the publication succeed; what the upstream
session library rejects is a parameter. -/

namespace DshRemote.Proxy

open Backend

/-- A wire event plus the surface metadata that may travel with it verbatim. -/
structure MirroredWireEvent extends SessionEvent where
  surfaceOp : Option Unknown := none
  sourceEventSeqs : Option (List Nat) := none
deriving DecidableEq, Repr

/-- An event of the local session, numbered by the session. -/
structure LocalEvent where
  seq : Nat
  type : String
  data : Unknown
  surfaceOp : Option Unknown := none
  sourceEventSeqs : Option (List Nat) := none
deriving DecidableEq, Repr

/-- What the mirror uses of the upstream session library. -/
structure SessionLibrary where
  isSurfaceEligibleType : String → Bool
  /-- The error that `append` of this event to this log throws. -/
  rejects : List LocalEvent → LocalEvent → Option String

/-- The event `append` makes of a wire event. A surface-eligible type without a marker
gets the intent to append. -/
def SessionLibrary.localEvent (library : SessionLibrary) (seq : Nat) (wire : MirroredWireEvent) :
    LocalEvent :=
  let data := (wire.data.filter (· ≠ "null")).getD "\x7b\x7d"
  if library.isSurfaceEligibleType wire.type then
    ⟨seq, wire.type, data, some (wire.surfaceOp.getD "\"append\""), wire.sourceEventSeqs⟩
  else ⟨seq, wire.type, data, none, none⟩

def appendMirroredEvent (library : SessionLibrary) (session : List LocalEvent)
    (wire : MirroredWireEvent) : Except String (List LocalEvent) :=
  let event := library.localEvent session.length wire
  match library.rejects session event with
  | some thrown => .error thrown
  | none => .ok (session ++ [event])

/-! ## The mirror -/

structure Mirror where
  session : List LocalEvent
  /-- Set when a seq or validation failure froze the mirror. -/
  failed : Option String := none
  /-- The inbox splices fed to the agent. -/
  splices : List (Option Unknown) := []
deriving DecidableEq, Repr

/-- Append one live wire event, upholding the seq-exact contract. -/
def Mirror.appendEvent (library : SessionLibrary) (sessionId : SessionId) (mirror : Mirror)
    (wire : MirroredWireEvent) : Mirror :=
  if mirror.failed.isSome then mirror
  else if wire.seq ≠ mirror.session.length then
    { mirror with
      failed := some ("session \"" ++ sessionId ++ "\": remote event seq " ++ toString wire.seq ++
        " breaks the mirror (next local seq is " ++ toString mirror.session.length ++
        "); mirroring stopped") }
  else
    match appendMirroredEvent library mirror.session wire with
    | .error thrown => { mirror with failed := some thrown }
    | .ok session =>
        { mirror with
          session := session
          splices :=
            if wire.type = "agent/inbox/spliced" then mirror.splices ++ [wire.data]
            else mirror.splices }

/-- The history appended to the session before it is published. -/
def replayHistory (library : SessionLibrary) (sessionId : SessionId) :
    List LocalEvent → List MirroredWireEvent → Except String (List LocalEvent)
  | session, [] => .ok session
  | session, wire :: rest =>
      if wire.seq ≠ session.length then
        .error ("session \"" ++ sessionId ++ "\": history replay diverged (expected seq " ++
          toString session.length ++ ", got " ++ toString wire.seq ++ ")")
      else
        match appendMirroredEvent library session wire with
        | .error thrown => .error thrown
        | .ok next => replayHistory library sessionId next rest

/-! ## The bootstrap -/

inductive MirrorPhase
  | reading (read : HistoryRead MirroredWireEvent)
  /-- The history is appended; the composition hook is awaited. -/
  | composing (session : List LocalEvent)
  | live (mirror : Mirror)
  | rejected (error : String)

structure MirrorRun where
  sessionId : SessionId
  remote : List MirroredWireEvent
  /-- The next event the handle delivers. -/
  position : Nat
  seedSession : Option (List LocalEvent)
  buffered : List MirroredWireEvent := []
  phase : MirrorPhase := .reading {}
  /-- The length of the remote log when the handle was attached. -/
  attachedAt : Nat
  /-- The length of the remote log when the first page was served. -/
  snapshot : Option Nat := none

inductive MirrorEvent
  | remoteAppended (event : MirroredWireEvent)
  | delivered
  | pageServed
  | pageReceived
  | composed

namespace MirrorRun

def start (sessionId : SessionId) (remote : List MirroredWireEvent)
    (seedSession : Option (List LocalEvent)) : MirrorRun where
  sessionId := sessionId
  remote := remote
  position := remote.length
  seedSession := seedSession
  attachedAt := remote.length

/-- A resume session already holds the events before this one. -/
def fromSeq (run : MirrorRun) : Nat := (run.seedSession.map List.length).getD 0

def seqOf (event : MirroredWireEvent) : Nat := event.seq

/-- Page size of the history top-up. -/
def pageSize : Nat := 500

/-- The event callback: buffer until the mirror is live. -/
def deliver (library : SessionLibrary) (run : MirrorRun) (wire : MirroredWireEvent) : MirrorRun :=
  match run.phase with
  | .live mirror =>
      { run with phase := .live (mirror.appendEvent library run.sessionId wire) }
  | _ => { run with buffered := run.buffered ++ [wire] }

/-- The end of the history read: its replay, or the rejection of `create`. -/
def historyRead (library : SessionLibrary) (run : MirrorRun)
    (result : Except String (List MirroredWireEvent)) : MirrorRun :=
  match result with
  | .error thrown => { run with phase := .rejected thrown }
  | .ok history =>
      match replayHistory library run.sessionId (run.seedSession.getD []) history with
      | .error thrown => { run with phase := .rejected thrown }
      | .ok session => { run with phase := .composing session }

def step (library : SessionLibrary) (run : MirrorRun) : MirrorEvent → Option MirrorRun
  | .remoteAppended event =>
      some { run with remote := run.remote ++ [{ event with seq := run.remote.length }] }
  | .delivered =>
      match run.remote[run.position]? with
      | none => none
      | some wire => some { run.deliver library wire with position := run.position + 1 }
  | .pageServed =>
      match run.phase with
      | .reading read =>
          match read.serve seqOf pageSize run.remote with
          | none => none
          | some next =>
              some { run with
                phase := .reading next
                snapshot := some (run.snapshot.getD run.remote.length) }
      | _ => none
  | .pageReceived =>
      match run.phase with
      | .reading read =>
          match read.receive seqOf run.fromSeq with
          | none => none
          | some next =>
              match next.phase with
              | .done result => some (run.historyRead library result)
              | _ => some { run with phase := .reading next }
      | _ => none
  | .composed =>
      match run.phase with
      | .composing session =>
          -- Go live: drain what was buffered, then append directly.
          some { run with
            phase := .live (run.buffered.foldl (Mirror.appendEvent library run.sessionId)
              { session := session }) }
      | _ => none

end MirrorRun

end DshRemote.Proxy
