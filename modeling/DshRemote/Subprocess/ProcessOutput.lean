import DshRemote.Subprocess.ProcessHandle
import DshRemote.Subprocess.TailOutputReader

/-! # The output of a process handle

The two pumps of a handle with the streams they write to and the readers they feed, on top of
its control side. The channel yields its chunks to the pumps; how they are cut, when a stream
is full and when its consumer takes something is part of the events. -/

namespace DshRemote.Subprocess

open Json (asciiText)

inductive OutputSide
  | stdout
  | stderr
deriving DecidableEq, Repr

/-- `SubprocessOutputMode`. -/
inductive SubprocessOutputMode
  | pipe
  | inherit
  | collect (maxBytes : Nat) (spillMaxBytes : Option Nat)
deriving DecidableEq, Repr

/-- The stream that a pump writes to: the `PassThrough` of the handle, or the stream of the
harness that is inherited. -/
structure Pipe where
  /-- Written, and not yet read by the consumer. -/
  buffered : List Octet := []
  /-- What the consumer has read. -/
  delivered : List Octet := []
  /-- `end()` was called. -/
  ended : Bool := false
  /-- The consumer has seen the end. -/
  finished : Bool := false
  destroyed : Bool := false
deriving DecidableEq

def Reception.byte : Reception → Option Octet
  | .octet value => some value
  | _ => none

/-- Where a pump waits. -/
inductive PumpPhase
  /-- For the next chunk. -/
  | reading
  /-- For the stream to drain, with the last text of the channel or before it. -/
  | stalled (tail : Bool)
  | done
deriving DecidableEq, Repr

structure OutputStream where
  mode : SubprocessOutputMode
  reader : Option TailOutputReader := none
  pipe : Option Pipe := none
  text : Utf8.TextDecoder := {}
  decoder : FrameDecoder := {}
  phase : PumpPhase := .reading
  /-- The chunks that the channel has not yielded yet. -/
  incoming : List (List Octet)
  /-- Everything that the pump has handed on. -/
  handedOn : List Octet := []

namespace OutputStream

def create (mode : SubprocessOutputMode) (spillPath : Text) (incoming : List (List Octet)) :
    OutputStream where
  mode := mode
  incoming := incoming
  reader := match mode with
    | .collect maxBytes spillMaxBytes =>
        some { maxBytes := maxBytes, maxSpillBytes := spillMaxBytes, spillPath := spillPath }
    | _ => none
  pipe := match mode with
    | .collect _ _ => none
    | _ => some {}

def mapPipe (self : OutputStream) (change : Pipe → Pipe) : OutputStream :=
  { self with pipe := self.pipe.map change }

/-- `destroy()` on the stream of the handle. -/
def destroy (self : OutputStream) : OutputStream :=
  if self.mode = .pipe then self.mapPipe fun pipe => { pipe with destroyed := true } else self

/-- `end()` on the stream of the handle, unless it is destroyed. -/
def endPipe (self : OutputStream) : OutputStream :=
  if self.mode = .pipe then
    self.mapPipe fun pipe => if pipe.destroyed then pipe else { pipe with ended := true }
  else self

def invalidateSpill (self : OutputStream) : OutputStream :=
  { self with reader := self.reader.map TailOutputReader.invalidateSpill }

/-- The bytes are pushed to the reader. -/
def push (self : OutputStream) (bytes : List Octet) : OutputStream :=
  { self with
    reader := self.reader.map fun reader => reader.push bytes
    handedOn := self.handedOn ++ bytes }

/-- The condition of `finalizeSpills` on a stream. -/
def hasUselessSpill (self : OutputStream) (outputDrainExpired : Bool) : Bool :=
  match self.mode, self.reader with
  | .collect maxBytes (some cap), some reader =>
      outputDrainExpired || reader.totalBytes ≤ maxBytes || cap < reader.totalBytes
  | _, _ => false

end OutputStream

structure ProcessOutput where
  control : ProcessHandle
  stdout : OutputStream
  stderr : OutputStream
  /-- `outputReleased.signal.aborted`. -/
  outputReleased : Bool := false
  /-- The spills of the command of `finalizeSpills`. -/
  removals : List OutputSide := []
  /-- The spills that this command has removed. -/
  removed : List OutputSide := []
  /-- The state directory is removed. -/
  dirGone : Bool := false

inductive OutputEvent
  | control (event : ProcessEvent)
  /-- The channel yields a chunk; the stream may be full with what is written. -/
  | read (side : OutputSide) (full : Bool)
  /-- The channel has come to its end. -/
  | readEnd (side : OutputSide) (full : Bool)
  | readFailed (side : OutputSide) (message : Text)
  /-- The channel was closed before it had yielded everything. -/
  | cut (side : OutputSide)
  /-- The stream has drained, is closed or is released. -/
  | resumed (side : OutputSide)
  | stallFailed (side : OutputSide) (message : Text)
  /-- The wait for the pumps is over. -/
  | flushed (expired : Bool)
  | dirRemoved (done : Bool)
  | spillsRemoved
  /-- The consumer reads. -/
  | consumed (side : OutputSide) (size : Nat)
  /-- The consumer sees the end of the stream. -/
  | finished (side : OutputSide)
  /-- The consumer destroys the stream. -/
  | destroyed (side : OutputSide)

/-- Events of the control side that the output brings about. -/
def ProcessEvent.isOutput : ProcessEvent → Bool
  | .control _ | .diagnostic _ | .pumpFailed _ | .flushed | .dirRemoved => true
  | _ => false

/-- `run` has let the channel go. -/
def RunPhase.isCutting : RunPhase → Bool
  | .cutting _ => true
  | _ => false

namespace ProcessOutput

def stream (self : ProcessOutput) : OutputSide → OutputStream
  | .stdout => self.stdout
  | .stderr => self.stderr

def setStream (self : ProcessOutput) (side : OutputSide) (stream : OutputStream) :
    ProcessOutput :=
  match side with
  | .stdout => { self with stdout := stream }
  | .stderr => { self with stderr := stream }

@[simp] theorem setStream_control (self : ProcessOutput) (side : OutputSide)
    (stream : OutputStream) : (self.setStream side stream).control = self.control := by
  cases side with
  | stdout => rfl
  | stderr => rfl

@[simp] theorem stream_setStream (self : ProcessOutput) (side : OutputSide)
    (stream : OutputStream) : (self.setStream side stream).stream side = stream := by
  cases side with
  | stdout => rfl
  | stderr => rfl

theorem stream_setStream_other (self : ProcessOutput) {side other : OutputSide}
    (isOther : other ≠ side) (stream : OutputStream) :
    (self.setStream side stream).stream other = self.stream other := by
  cases side with
  | stdout =>
      cases other with
      | stdout => exact absurd rfl isOther
      | stderr => rfl
  | stderr =>
      cases other with
      | stdout => rfl
      | stderr => exact absurd rfl isOther

/-- What a frame brings apart from bytes. Only `stdout` has a handler for control lines. -/
def hear (side : OutputSide) (control : ProcessHandle) : Reception → ProcessHandle
  | .control line => if side = .stdout then control.onControl line else control
  | .diagnostic line => { control with diagnostics := control.diagnostics ++ [line] }
  | .octet _ => control

/-- What follows a step of the control side for the streams: they are destroyed by `terminate`,
the spills are invalidated when the drain expires, and `run` ends the streams in the end. -/
def absorbed (before next : ProcessHandle) (stream : OutputStream) : OutputStream :=
  let terminated := if next.terminationRequested && !before.terminationRequested then
    stream.destroy else stream
  let expired := if next.outputDrainExpired && !before.outputDrainExpired then
    terminated.invalidateSpill else terminated
  if next.settled && !before.settled then expired.endPipe else expired

/-- The spills of the command that `finalizeSpills` makes. -/
def uselessSpills (self : ProcessOutput) (outputDrainExpired : Bool) : List OutputSide :=
  [.stdout, .stderr].filter fun side => (self.stream side).hasUselessSpill outputDrainExpired

def absorb (self : ProcessOutput) (next : ProcessHandle) : ProcessOutput :=
  { self with
    control := next
    stdout := absorbed self.control next self.stdout
    stderr := absorbed self.control next self.stderr
    outputReleased := self.outputReleased || next.run.isCutting
    -- An outcome that is not made of an error has gone through `finishOutcome`.
    removals := if next.settled && !self.control.settled && next.failure.isNone then
      self.uselessSpills next.outputDrainExpired else self.removals }

/-! ## The pumps -/

/-- The `catch` of a pump. -/
def pumpFails (self : ProcessOutput) (side : OutputSide) (message : Text) : ProcessOutput :=
  let failed : ProcessOutput :=
    { self with control := { self.control with
        outputTransportError := self.control.outputTransportError.or (some message) } }
  failed.setStream side { (self.stream side).destroy with phase := .done }

/-- `decoder.finish`. -/
def pumpEnds (self : ProcessOutput) (side : OutputSide) : ProcessOutput :=
  let requireComplete := !self.control.outputDrainExpired && !self.control.terminationRequested
  if requireComplete ∧ ¬Framing.IsBlank (self.stream side).decoder.pending then
    self.pumpFails side (asciiText "subprocess-ssh: truncated base64 output transport")
  else self.setStream side { self.stream side with phase := .done }

/-- On from what was handed on. -/
def proceed (self : ProcessOutput) (side : OutputSide) (tail : Bool) : ProcessOutput :=
  if tail then self.pumpEnds side
  else self.setStream side { self.stream side with phase := .reading }

/-- `writeOutput`, up to its `await`. -/
def writeOutput (self : ProcessOutput) (side : OutputSide) (tail : Bool) (bytes : List Octet)
    (full : Bool) : ProcessOutput :=
  match (self.stream side).pipe with
  | none => self.proceed side tail
  | some pipe =>
      if self.control.terminationRequested ∨ pipe.destroyed then self.proceed side tail
      else if pipe.ended then self.pumpFails side (asciiText "write after end")
      else
        let written := self.setStream side
          ((self.stream side).mapPipe fun pipe => { pipe with buffered := pipe.buffered ++ bytes })
        if full then
          written.setStream side { written.stream side with phase := .stalled tail }
        else written.proceed side tail

/-- `dispatchOutput`. -/
def dispatchOutput (self : ProcessOutput) (side : OutputSide) (tail : Bool) (bytes : List Octet)
    (full : Bool) : ProcessOutput :=
  (self.setStream side ((self.stream side).push bytes)).writeOutput side tail bytes full

/-- What the pump does with what the decoder has made of a text. -/
def handOn (self : ProcessOutput) (side : OutputSide) (tail : Bool) (pushed : Pushed)
    (full : Bool) : ProcessOutput :=
  let heard : ProcessOutput :=
    { self with control := pushed.received.foldl (hear side) self.control }
  let decoded := heard.setStream side { heard.stream side with decoder := pushed.decoder }
  match pushed.failure with
  | some message => decoded.pumpFails side (asciiText message)
  | none =>
      let bytes := pushed.received.filterMap Reception.byte
      if bytes = [] then decoded.proceed side tail
      else decoded.dispatchOutput side tail bytes full

/-- The next text of the channel. -/
def take (self : ProcessOutput) (side : OutputSide) (tail : Bool) (chunk : List Octet)
    (rest : List (List Octet)) (full : Bool) : ProcessOutput :=
  let stream := self.stream side
  let decoded := stream.text.decode chunk !tail
  (self.setStream side { stream with text := decoded.1, incoming := rest }).handOn side tail
    (stream.decoder.push decoded.2) full

/-! ## Steps -/

/-- A handle that was just made. An abort signal that has fired destroys its streams. -/
def create (transport root aborted : Bool) (stdout stderr : OutputStream) : ProcessOutput where
  control := ProcessHandle.create transport root aborted
  stdout := if aborted then stdout.destroy else stdout
  stderr := if aborted then stderr.destroy else stderr

def step (self : ProcessOutput) : OutputEvent → Option ProcessOutput
  | .control event =>
      if event.isOutput then none else (self.control.step event).map self.absorb
  | .read side full =>
      match (self.stream side).phase, (self.stream side).incoming with
      | .reading, chunk :: rest =>
          if self.control.launched = .resolved () then some (self.take side false chunk rest full)
          else none
      | _, _ => none
  | .readEnd side full =>
      match (self.stream side).phase, (self.stream side).incoming with
      | .reading, [] =>
          if self.control.launched = .resolved () then some (self.take side true [] [] full)
          else none
      | _, _ => none
  | .readFailed side message =>
      if (self.stream side).phase = .reading then some (self.pumpFails side message) else none
  | .cut side =>
      if self.outputReleased ∨ self.control.terminationRequested ∨ self.control.lost then
        some (self.setStream side { self.stream side with incoming := [] })
      else none
  | .resumed side =>
      match (self.stream side).phase with
      | .stalled tail => some (self.proceed side tail)
      | _ => none
  | .stallFailed side message =>
      match (self.stream side).phase with
      | .stalled _ => some (self.pumpFails side message)
      | _ => none
  | .flushed expired =>
      if expired ∨ self.stdout.phase = .done ∧ self.stderr.phase = .done then
        (self.control.step .flushed).map self.absorb
      else none
  | .dirRemoved done =>
      if done ∧ ¬self.control.transport then none
      else
        (self.control.step .dirRemoved).map fun next =>
          { self.absorb next with dirGone := self.dirGone || done }
  | .spillsRemoved =>
      if self.control.settled then some { self with removed := self.removals } else none
  | .consumed side size =>
      match (self.stream side).pipe with
      | some pipe =>
          if pipe.destroyed then none
          else
            some (self.setStream side ((self.stream side).mapPipe fun pipe =>
              { pipe with
                delivered := pipe.delivered ++ pipe.buffered.take size
                buffered := pipe.buffered.drop size }))
      | none => none
  | .finished side =>
      match (self.stream side).pipe with
      | some pipe =>
          if pipe.ended ∧ pipe.buffered = [] ∧ ¬pipe.destroyed then
            some (self.setStream side ((self.stream side).mapPipe fun pipe =>
              { pipe with finished := true, destroyed := true }))
          else none
      | none => none
  | .destroyed side => some (self.setStream side (self.stream side).destroy)

end ProcessOutput

end DshRemote.Subprocess
