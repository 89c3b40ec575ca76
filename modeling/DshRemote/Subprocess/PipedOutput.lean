import DshRemote.Subprocess.CollectedSpills
import DshRemote.Subprocess.PublishedTexts

/-! # The output of the child comes through

A child that has closed its output when it exits, and a handle that is neither terminated nor
loses its connection. What the pumps hand on is what the child has written, as long as nobody
stops waiting for them. -/

namespace DshRemote.Subprocess

open Json (ascii asciiText)
open Utf8 (encode TextDecoder)

/-! ## What a pump has read -/

/-- The lines of a channel bring these receptions, and the last line is ended. -/
structure Brings (text : Text) (all : List Reception) : Prop where
  lines : receiveLines (Lines.cut Framing.newline (TextDecoder.textOf (encode text))).1 =
    (all, none)
  closed : (Lines.cut Framing.newline (TextDecoder.textOf (encode text))).2 = []

/-- A pump is somewhere in the channel. -/
structure Reads (text : Text) (stream : OutputStream) (received : List Reception) : Prop where
  position : ∃ consumed, stream.text = TextDecoder.after consumed ∧
    Stands consumed stream.decoder received ∧
    consumed ++ stream.incoming.flatten = encode text
  handedOn : stream.handedOn = received.filterMap Reception.byte

variable {text : Text} {all received : List Reception} {stream : OutputStream}

/-- What was received is the beginning of everything. -/
theorem Brings.begins (brings : Brings text all) {consumed : List Octet} {decoder : FrameDecoder}
    {rest : List (List Octet)} (stands : Stands consumed decoder received)
    (whole : consumed ++ rest.flatten = encode text) : received <+: all := by
  rcases stands.continues rest.flatten with ⟨tail, failure, lines⟩
  rw [whole, brings.lines] at lines
  exact ⟨tail, (Prod.mk.inj lines).1.symm⟩

theorem Reads.chunk (reads : Reads text stream received) (brings : Brings text all)
    {chunk : List Octet} {rest : List (List Octet)} (incoming : stream.incoming = chunk :: rest) :
    let decoded := stream.text.decode chunk true
    let pushed := stream.decoder.push decoded.2
    pushed.failure = none ∧ ∃ consumed, decoded.1 = TextDecoder.after consumed ∧
      Stands consumed pushed.decoder (received ++ pushed.received) ∧
      consumed ++ rest.flatten = encode text := by
  rcases reads.position with ⟨consumed, isText, stands, whole⟩
  rw [incoming, List.flatten_cons, ← List.append_assoc] at whole
  dsimp only
  rw [isText]
  rcases stands.push chunk with ⟨noFailure, next⟩ | ⟨_, never⟩
  · exact ⟨noFailure, consumed ++ chunk, (TextDecoder.decode_after consumed chunk).1, next, whole⟩
  · have thrown := never rest.flatten
    rw [whole, brings.lines] at thrown
    exact absurd rfl thrown

/-- At its end the pump has received everything, and nothing is pending. -/
theorem Reads.finish (reads : Reads text stream received) (brings : Brings text all)
    (incoming : stream.incoming = []) :
    received = all ∧
      stream.decoder.push (stream.text.decode [] false).2 = ⟨⟨[]⟩, [], none⟩ := by
  rcases reads.position with ⟨consumed, isText, stands, whole⟩
  rw [incoming, List.flatten_nil, List.append_nil] at whole
  subst whole
  have noPending : stream.decoder.pending = [] := stands.pending.trans brings.closed
  refine ⟨(Prod.mk.inj (stands.lines.symm.trans brings.lines)).1, ?_⟩
  rw [isText, TextDecoder.decode_end, FrameDecoder.push, noPending]
  rfl

/-- The cap of the spill that the wrapper gets for a mode. -/
def SubprocessOutputMode.spillCap : SubprocessOutputMode → Option Nat
  | .collect _ spillMaxBytes => spillMaxBytes
  | .pipe | .inherit => none

namespace SpawnedChild

variable (child : SpawnedChild)

theorem brings_receptions (octets : List Octet) :
    Brings (child.channelText [] (linesText (base64Lines octets))) (child.receptions octets) := by
  have same := Utf8.textOf_encode_small
    (child.small_channelText (List.nil_append (linesText (base64Lines octets))))
  refine ⟨?_, ?_⟩
  · rw [same]
    exact child.receiveLines_ordered octets
  · rw [same]
    exact child.closed_channelText [] _

theorem brings_letters (errors : List Octet) :
    Brings (linesText (base64Lines errors)) (errors.map .octet) := by
  have plain : ∀ line ∈ base64Lines errors, IsPlainLine line := fun line member =>
    isPlainLine_of_printable (base64Lines_printable errors line member)
  have cut : Lines.cut Framing.newline (linesText (base64Lines errors)) = (base64Lines errors, []) :=
    Lines.cut_unite (fun line member => (plain line member).1) List.not_mem_nil
  have same := Utf8.textOf_encode_small (small_linesText plain)
  refine ⟨?_, ?_⟩
  · rw [same, cut]
    exact receiveLines_base64 errors
  · rw [same, cut]

/-- The bytes that the child has written to a side. -/
def bytesOf (errors : List Octet) : OutputSide → List Octet
  | .stdout => child.output
  | .stderr => errors

/-- The text of the channel for a side, when the encoder has waited for START and has got
everything. -/
def channelOf (errors : List Octet) : OutputSide → Text
  | .stdout => child.channelText [] (linesText (base64Lines child.output))
  | .stderr => linesText (base64Lines errors)

def receptionsOf (errors : List Octet) : OutputSide → List Reception
  | .stdout => child.expected
  | .stderr => errors.map .octet

theorem brings_receptionsOf (errors : List Octet) (side : OutputSide) :
    Brings (child.channelOf errors side) (child.receptionsOf errors side) := by
  cases side with
  | stdout => exact child.brings_receptions child.output
  | stderr => exact brings_letters errors

theorem byte_octets (bytes : List Octet) :
    (bytes.map Reception.octet).filterMap Reception.byte = bytes := by
  rw [List.filterMap_map]
  exact List.filterMap_some

theorem bytes_receptions (errors : List Octet) (side : OutputSide) :
    (child.receptionsOf errors side).filterMap Reception.byte = child.bytesOf errors side := by
  cases side with
  | stdout =>
      have ends : [Reception.control child.endLine].filterMap Reception.byte = [] := rfl
      change (Reception.control child.startLine :: child.output.map Reception.octet ++
        [Reception.control child.endLine]).filterMap Reception.byte = child.output
      rw [List.filterMap_append, ends, List.append_nil]
      exact byte_octets child.output
  | stderr => exact byte_octets errors

theorem control_mem_receptions {errors : List Octet} {side : OutputSide} {line : Text}
    (member : Reception.control line ∈ child.receptionsOf errors side) :
    side = .stdout ∧ (line = child.startLine ∨ line = child.endLine) := by
  cases side with
  | stdout =>
      rcases List.mem_append.mp member with early | late
      · rcases List.mem_cons.mp early with start | inOutput
        · cases start
          exact ⟨rfl, Or.inl rfl⟩
        · rcases List.mem_map.mp inOutput with ⟨octet, _, impossible⟩
          cases impossible
      · cases List.mem_singleton.mp late
        exact ⟨rfl, Or.inr rfl⟩
  | stderr =>
      rcases List.mem_map.mp member with ⟨octet, _, impossible⟩
      cases impossible

end SpawnedChild

/-! ## The control side -/

/-- `run` is on its way to an outcome. -/
def RunPhase.IsCalm : RunPhase → Prop
  | .flushing status | .draining status | .cutting status =>
      (parseStatusText status).isSome = true
  | .readingStatus | .rollingBack _ | .removing _ => False
  | _ => True

namespace ProcessHandle

/-- Nothing has gone wrong, and what has been published are statuses. -/
structure Calm (handle : ProcessHandle) : Prop where
  wound : handle.Wound
  failed : handle.failed = none
  ended : ∀ status, handle.ended = some status → IsStatusText status
  untroubled : handle.outputTransportError = none
  requested : handle.terminationRequested = false
  attempt : handle.terminationAttempt = none
  phase : handle.run.IsCalm

/-- What the pumps go by has not changed. -/
structure Level (handle next : ProcessHandle) : Prop where
  settled : next.settled = handle.settled
  ended : handle.ended.isSome = true → next.ended.isSome = true

variable {self next : ProcessHandle}

theorem Watching.calm (watching : Watching self next) (calm : self.Calm) : next.Calm where
  wound := watching.wound calm.wound
  failed := watching.failed.trans calm.failed
  ended := by
    rw [watching.ended]
    exact calm.ended
  untroubled := watching.troubled.trans calm.untroubled
  requested := watching.requested.trans calm.requested
  attempt := watching.attempt.trans calm.attempt
  phase := by
    rw [watching.run]
    exact calm.phase

theorem Watching.level (watching : Watching self next) : Level self next where
  settled := watching.settled
  ended := by
    rw [watching.ended]
    exact id

theorem Level.refl (self : ProcessHandle) : Level self self := ⟨rfl, id⟩

theorem Level.trans {middle : ProcessHandle} (first : Level self middle)
    (second : Level middle next) : Level self next :=
  ⟨second.settled.trans first.settled, second.ended ∘ first.ended⟩

/-! ### Control lines -/

theorem onControl_startLine {child : SpawnedChild} (large : 2 ≤ child.pgid)
    (safe : child.pgid < 2 ^ 53) (calm : self.Calm) :
    (self.onControl child.startLine).Calm ∧ Level self (self.onControl child.startLine) := by
  have heard : self.onControl child.startLine =
      { self with remotePgid := child.pgid, started := self.started.resolve child.pgid } := by
    rw [onControl, SpawnedChild.startLine, matchControl_startFrame]
    dsimp only
    rw [parsePublishedPgid_printNat large safe]
  have wound := (still_onControl self child.startLine).wound calm.wound
  rw [heard] at wound ⊢
  exact ⟨{ calm with wound := wound }, rfl, id⟩

theorem onControl_endLine {child : SpawnedChild} (small : child.status ≤ 255) (calm : self.Calm) :
    (self.onControl child.endLine).Calm ∧ Level self (self.onControl child.endLine) ∧
      (self.onControl child.endLine).ended.isSome = true := by
  have isStatus := isStatusText_statusText small child.killName
  have heard : self.onControl child.endLine =
      { self with ended := self.ended.or (some (statusText child.status child.killName)) } := by
    rw [onControl, SpawnedChild.endLine, matchControl_endFrame isStatus.dots]
  have wound := (still_onControl self child.endLine).wound calm.wound
  rw [heard] at wound ⊢
  cases isEnded : self.ended with
  | none =>
      refine ⟨{ calm with wound := isEnded ▸ wound, ended := fun status same => ?_ }, ⟨rfl, ?_⟩, rfl⟩
      · cases same
        exact isStatus
      · exact fun _ => rfl
  | some earlier =>
      refine ⟨{ calm with wound := isEnded ▸ wound, ended := fun status same => ?_ }, ⟨rfl, ?_⟩, rfl⟩
      · cases same
        exact calm.ended earlier isEnded
      · exact fun _ => rfl

/-! ### Steps -/

/-- The events of a handle that is not terminated and keeps its connection, for a child that
was started. The status file has the status of the child. -/
def isUndisturbed (child : SpawnedChild) : ProcessEvent → Bool
  | .prepared fault => fault.isNone
  | .opened fault writeFault => fault.isNone && writeFault.isNone
  | .raced (.status text) =>
      text = statusText child.status child.killName ++ [Framing.newline]
  | .terminate | .connectionLost | .transportLost => false
  | _ => true

theorem Calm.wait (calm : self.Calm) (run : RunPhase) (notFinished : self.settled = false)
    (notRemoving : ∀ canceled, run ≠ .removing canceled)
    (notRolling : ∀ wait, run ≠ .rollingBack wait)
    (phase : run.IsCalm) : Calm { self with run := run } :=
  { calm with
    wound := (@Moved.wait self { self with run := run } .flushed notFinished run notRemoving
      notRolling rfl rfl).wound
    phase := phase }

theorem Calm.step {child : SpawnedChild} (small : child.status ≤ 255) (calm : self.Calm)
    {event : ProcessEvent} (inside : event.isOutput = false)
    (undisturbed : isUndisturbed child event = true) (stepped : self.step event = some next) :
    next.Calm ∧ Level self next := by
  have unsettled : self.run ≠ .finished → self.settled = false := by
    intro running
    cases settled : self.settled with
    | false => rfl
    | true => exact absurd (calm.wound.settled settled) running
  have phase := calm.phase
  cases watches : isWatching event with
  | true =>
      have watching := step_watching watches stepped
      exact ⟨watching.calm calm, watching.level⟩
  | false =>
      cases stepped_of_step stepped with
      | prepared preparing =>
          exact ⟨calm.wait .opening (unsettled (by rw [preparing]; nofun)) nofun nofun trivial,
            rfl, id⟩
      | opened opening =>
          have racing := calm.wait .racing (unsettled (by rw [opening]; nofun)) nofun nofun trivial
          exact ⟨{ racing with wound := { racing.wound with } }, rfl, id⟩
      | channelClosed | transportBack =>
          exact ⟨{ calm with wound := { calm.wound with } }, rfl, id⟩
      | @raced winner _ racing won =>
          have open' := unsettled (by rw [racing]; nofun)
          cases winner with
          | ended =>
              rcases Option.map_eq_some_iff.mp won with ⟨status, isEnded, rfl⟩
              have isStatus := calm.ended status isEnded
              exact ⟨calm.wait (.flushing status) open' nofun nofun
                (isStatus.parsed status (NumberText.trim_of_solid isStatus.solid)), rfl, id⟩
          | failed =>
              rcases Option.map_eq_some_iff.mp won with ⟨message, isFailed, _⟩
              cases calm.failed.symm.trans isFailed
          | status text =>
              have isText := of_decide_eq_true undisturbed
              have isStatus := isStatusText_statusText small child.killName
              unfold raced at won
              dsimp only at won
              split at won
              · cases won
                refine ⟨calm.wait (.draining text) open' nofun nofun ?_, rfl, id⟩
                exact isStatus.parsed text (isText ▸ NumberText.trim_line isStatus.solid)
              · cases won
          | closed =>
              unfold raced at won
              dsimp only at won
              split at won
              · cases won
                exact ⟨calm.wait .closing open' nofun nofun trivial, rfl, id⟩
              · cases won
      | @expired status draining =>
          rw [draining] at phase
          have cutting := calm.wait (.cutting status) (unsettled (by rw [draining]; nofun)) nofun
            nofun phase
          exact ⟨{ cutting with wound := { cutting.wound with } }, rfl, id⟩
      | @drained _ published draining isEnded =>
          have isStatus := calm.ended published isEnded
          exact ⟨calm.wait (.flushing published) (unsettled (by rw [draining]; nofun)) nofun nofun
            (isStatus.parsed published (NumberText.trim_of_solid isStatus.solid)), rfl, id⟩
      | @channelCut status cutting =>
          rw [cutting] at phase
          exact ⟨calm.wait (.flushing status) (unsettled (by rw [cutting]; nofun)) nofun nofun
            phase, rfl, id⟩
      | statusRead _ running | rolledBack _ running =>
          rw [running] at phase
          exact phase.elim
      | attemptResumed isAttempt | attemptCaptured isAttempt | attemptClosed isAttempt
      | attemptPaused isAttempt | attemptForgotten isAttempt =>
          cases calm.attempt.symm.trans isAttempt
      | control | diagnostic | pumpFailed | flushed | closed | dirRemoved => cases inside
      | unprepared | unopened | unwritten | terminate | connectionLost | transportLost =>
          cases undisturbed
      | _ => cases watches

/-- When the pumps are done, `done` settles without an error. -/
theorem Calm.flushed (calm : self.Calm) (ended : self.ended.isSome = true)
    (stepped : self.step .flushed = some next) :
    next.Calm ∧ next.settled = true ∧ self.settled = false ∧ next.ended = self.ended := by
  have unsettled : self.run ≠ .finished → self.settled = false := by
    intro running
    cases settled : self.settled with
    | false => rfl
    | true => exact absurd (calm.wound.settled settled) running
  have phase := calm.phase
  have finishes : ∀ {status parsed}, parseStatusText status = some parsed →
      self.finishOutcome status = self.finish (.ok (self.reportedOutcome parsed)) := by
    intro status parsed isParsed
    rw [finishOutcome, isParsed, calm.untroubled]
  have finished : ∀ outcome, (self.finish outcome).Calm := fun outcome =>
    { calm with wound := wound_finish outcome, phase := trivial }
  cases stepped_of_step stepped with
  | flushed flushing =>
      rw [flushing] at phase
      rcases Option.isSome_iff_exists.mp phase with ⟨parsed, isParsed⟩
      rw [finishes isParsed]
      exact ⟨finished _, rfl, unsettled (by rw [flushing]; simp), rfl⟩
  | closed closing =>
      rcases Option.isSome_iff_exists.mp ended with ⟨status, isEnded⟩
      have isStatus := calm.ended status isEnded
      have parses := isStatus.parsed status (NumberText.trim_of_solid isStatus.solid)
      rcases Option.isSome_iff_exists.mp parses with ⟨parsed, isParsed⟩
      have classified : self.classify = self.finishOutcome status := by
        rw [classify, calm.failed, isEnded]
      rw [classified, finishes isParsed]
      exact ⟨finished _, rfl, unsettled (by rw [closing]; simp), rfl⟩

end ProcessHandle

/-! ## The streams -/

/-- What a consumer has and will get of what was handed on. -/
structure Pipe.Flows (pipe : Pipe) (handedOn : List Octet) (settled : Bool) : Prop where
  flows : pipe.delivered ++ pipe.buffered = handedOn
  ended : pipe.ended = true → settled = true
  finished : pipe.finished = true → pipe.ended = true ∧ pipe.buffered = []
  destroyed : pipe.destroyed = true → pipe.finished = true

/-- One side of a handle whose control side is calm. `published` says that END is received. -/
structure OutputStream.Streams (text : Text) (all : List Reception) (mark : Reception)
    (stream : OutputStream) (settled published : Bool) : Prop where
  running : stream.phase ≠ .done → ∃ received, Reads text stream received ∧
    (mark ∈ received → published = true)
  done : stream.phase = .done → stream.handedOn = all.filterMap Reception.byte ∧
    (mark ∈ all → published = true)
  straight : stream.phase ≠ .stalled true
  piped : ∀ pipe, stream.pipe = some pipe → pipe.Flows stream.handedOn settled
  settled : settled = true → stream.phase = .done ∧
    (stream.mode = .pipe → ∀ pipe, stream.pipe = some pipe → pipe.ended = true)

namespace OutputStream

variable {mark : Reception} {settled published : Bool} {next : OutputStream}

theorem Streams.beside (streams : stream.Streams text all mark settled published)
    {later : Bool} (publishes : published = true → later = true)
    (mode : next.mode = stream.mode) (phase : next.phase = stream.phase)
    (isText : next.text = stream.text) (decoder : next.decoder = stream.decoder)
    (incoming : next.incoming = stream.incoming) (handedOn : next.handedOn = stream.handedOn)
    (pipe : next.pipe = stream.pipe) : next.Streams text all mark settled later where
  running := by
    rw [phase]
    intro isRunning
    rcases streams.running isRunning with ⟨received, reads, published⟩
    refine ⟨received, ⟨?_, handedOn.trans reads.handedOn⟩, publishes ∘ published⟩
    rw [isText, decoder, incoming]
    exact reads.position
  done := by
    rw [phase, handedOn]
    exact fun isDone => ⟨(streams.done isDone).1, publishes ∘ (streams.done isDone).2⟩
  straight := by
    rw [phase]
    exact streams.straight
  piped := by
    rw [pipe, handedOn]
    exact streams.piped
  settled := by
    rw [phase, mode, pipe]
    exact streams.settled

theorem Streams.publish (streams : stream.Streams text all mark settled published) {later : Bool}
    (publishes : published = true → later = true) :
    stream.Streams text all mark settled later :=
  streams.beside publishes rfl rfl rfl rfl rfl rfl rfl

theorem Streams.unsettled (streams : stream.Streams text all mark settled published)
    (isRunning : stream.phase ≠ .done) : settled = false := by
  cases isSettled : settled with
  | false => rfl
  | true => exact absurd (streams.settled isSettled).1 isRunning

/-- Nobody ends or destroys a stream before its pump is done. -/
theorem Streams.writable (streams : stream.Streams text all mark settled published)
    (isRunning : stream.phase ≠ .done) {pipe : Pipe} (isPipe : stream.pipe = some pipe) :
    pipe.ended = false ∧ pipe.destroyed = false := by
  have flows := streams.piped pipe isPipe
  have notEnded : pipe.ended = false := by
    cases ended : pipe.ended with
    | false => rfl
    | true => exact absurd ((streams.unsettled isRunning).symm.trans (flows.ended ended)) nofun
  refine ⟨notEnded, ?_⟩
  cases destroyed : pipe.destroyed with
  | false => rfl
  | true =>
      have finished := flows.finished (flows.destroyed destroyed)
      exact absurd (notEnded.symm.trans finished.1) nofun

theorem Streams.endPipe (streams : stream.Streams text all mark false published)
    (isDone : stream.phase = .done) : stream.endPipe.Streams text all mark true published := by
  have open' : ∀ pipe, stream.pipe = some pipe → pipe.destroyed = false := by
    intro pipe isPipe
    have flows := streams.piped pipe isPipe
    cases destroyed : pipe.destroyed with
    | false => rfl
    | true =>
        have ended := flows.ended (flows.finished (flows.destroyed destroyed)).1
        cases ended
  rw [OutputStream.endPipe]
  split
  · next isPipeMode =>
    refine ⟨fun isRunning => absurd isDone isRunning, fun _ => streams.done isDone,
      streams.straight, fun pipe isPipe => ?_, fun _ => ⟨isDone, fun _ pipe isPipe => ?_⟩⟩
    all_goals
      rcases Option.map_eq_some_iff.mp isPipe with ⟨before, isBefore, rfl⟩
      rw [if_neg (by rw [open' before isBefore]; simp)]
    · have flows := streams.piped before isBefore
      exact ⟨flows.flows, fun _ => rfl, fun finished => ⟨rfl, (flows.finished finished).2⟩,
        flows.destroyed⟩
  · next otherMode =>
    exact { streams with
      piped := fun pipe isPipe =>
        { streams.piped pipe isPipe with ended := fun _ => rfl }
      settled := fun _ => ⟨isDone, fun isPipeMode => absurd isPipeMode otherMode⟩ }

/-- Bytes have been handed on, and the pump reads on or waits for the consumer. -/
structure HandsOn (before : OutputStream) (decoder : FrameDecoder) (bytes : List Octet)
    (after : OutputStream) : Prop where
  mode : after.mode = before.mode
  text : after.text = before.text
  decoder : after.decoder = decoder
  incoming : after.incoming = before.incoming
  handedOn : after.handedOn = before.handedOn ++ bytes
  phase : after.phase = .reading ∨ after.phase = .stalled false
  pipe : ∀ pipe, after.pipe = some pipe → ∃ early, before.pipe = some early ∧
    pipe = { early with buffered := early.buffered ++ bytes }

theorem Streams.handsOn (streams : stream.Streams text all mark settled published)
    (isRunning : stream.phase ≠ .done) {decoded : TextDecoder} {decoder : FrameDecoder}
    {rest : List (List Octet)} {received later : List Reception} {publishes : Bool}
    (handsOn : HandsOn { stream with text := decoded, incoming := rest } decoder
      (later.filterMap Reception.byte) next)
    (handedOn : stream.handedOn = received.filterMap Reception.byte)
    (position : ∃ consumed, decoded = TextDecoder.after consumed ∧
      Stands consumed decoder (received ++ later) ∧ consumed ++ rest.flatten = encode text)
    (marked : mark ∈ received ++ later → publishes = true) :
    next.Streams text all mark settled publishes where
  running _ := by
    refine ⟨received ++ later, ⟨?_, ?_⟩, marked⟩
    · rw [handsOn.text, handsOn.decoder, handsOn.incoming]
      exact position
    · rw [handsOn.handedOn, List.filterMap_append, ← handedOn]
  done isDone := by
    rcases handsOn.phase with reading | stalled
    · cases reading.symm.trans isDone
    · cases stalled.symm.trans isDone
  straight := by
    rcases handsOn.phase with reading | stalled
    · rw [reading]
      nofun
    · rw [stalled]
      nofun
  piped pipe isPipe := by
    rcases handsOn.pipe pipe isPipe with ⟨early, isEarly, rfl⟩
    have flows := streams.piped early isEarly
    have writable := streams.writable isRunning isEarly
    refine ⟨?_, flows.ended, fun finished => ?_, flows.destroyed⟩
    · rw [handsOn.handedOn, ← flows.flows, List.append_assoc]
    · exact absurd (writable.1.symm.trans (flows.finished finished).1) nofun
  settled isSettled := absurd ((streams.unsettled isRunning).symm.trans isSettled) nofun

theorem Streams.finishes (streams : stream.Streams text all mark settled published)
    (isRunning : stream.phase ≠ .done) {decoded : TextDecoder} {decoder : FrameDecoder}
    (handedOn : stream.handedOn = all.filterMap Reception.byte)
    (marked : mark ∈ all → published = true) :
    ({ stream with text := decoded, incoming := [], decoder := decoder, phase := .done } :
      OutputStream).Streams text all mark settled published where
  running isRunning := absurd rfl isRunning
  done _ := ⟨handedOn, marked⟩
  straight := nofun
  piped := streams.piped
  settled isSettled := absurd ((streams.unsettled isRunning).symm.trans isSettled) nofun

end OutputStream

/-! ## The pumps -/

namespace ProcessOutput

variable {self next : ProcessOutput} {side : OutputSide}

@[simp] theorem setStream_setStream (self : ProcessOutput) (side : OutputSide)
    (first second : OutputStream) :
    (self.setStream side first).setStream side second = self.setStream side second := by
  cases side with
  | stdout => rfl
  | stderr => rfl

@[simp] theorem stream_withControl (self : ProcessOutput) (control : ProcessHandle)
    (side : OutputSide) :
    ({ self with control := control } : ProcessOutput).stream side = self.stream side := by
  cases side with
  | stdout => rfl
  | stderr => rfl

@[simp] theorem setStream_withControl (self : ProcessOutput) (side : OutputSide)
    (first second : OutputStream) (control : ProcessHandle) :
    ({ self.setStream side first with control := control } : ProcessOutput).setStream side second =
      ({ self with control := control } : ProcessOutput).setStream side second := by
  cases side with
  | stdout => rfl
  | stderr => rfl

theorem writeOutput_writes (requested : self.control.terminationRequested = false)
    (writable : ∀ pipe, (self.stream side).pipe = some pipe →
      pipe.ended = false ∧ pipe.destroyed = false) (bytes : List Octet) (full : Bool) :
    ∃ next, self.writeOutput side false bytes full = self.setStream side next ∧
      next.mode = (self.stream side).mode ∧ next.text = (self.stream side).text ∧
      next.decoder = (self.stream side).decoder ∧ next.incoming = (self.stream side).incoming ∧
      next.handedOn = (self.stream side).handedOn ∧
      (next.phase = .reading ∨ next.phase = .stalled false) ∧
      ∀ pipe, next.pipe = some pipe → ∃ early, (self.stream side).pipe = some early ∧
        pipe = { early with buffered := early.buffered ++ bytes } := by
  unfold writeOutput
  split
  · next noPipe =>
    refine ⟨_, rfl, rfl, rfl, rfl, rfl, rfl, Or.inl rfl, fun pipe isPipe => ?_⟩
    cases noPipe.symm.trans isPipe
  · next early isEarly =>
    have free := writable early isEarly
    let written := (self.stream side).mapPipe fun pipe =>
      { pipe with buffered := pipe.buffered ++ bytes }
    have mapped : ∀ pipe, written.pipe = some pipe → ∃ early,
        (self.stream side).pipe = some early ∧
          pipe = { early with buffered := early.buffered ++ bytes } := by
      intro pipe isPipe
      rcases Option.map_eq_some_iff.mp isPipe with ⟨before, isBefore, rfl⟩
      exact ⟨before, isBefore, rfl⟩
    rw [if_neg (by rw [requested, free.2]; nofun), if_neg (by rw [free.1]; nofun)]
    cases full with
    | true =>
        refine ⟨{ written with phase := .stalled false }, ?_, rfl, rfl, rfl, rfl, rfl, Or.inr rfl,
          mapped⟩
        rw [if_pos rfl, setStream_setStream, stream_setStream]
    | false =>
        refine ⟨{ written with phase := .reading }, ?_, rfl, rfl, rfl, rfl, rfl, Or.inl rfl, mapped⟩
        rw [if_neg nofun, proceed, if_neg nofun, setStream_setStream, stream_setStream]

theorem requested_hears (side : OutputSide) (receptions : List Reception)
    (control : ProcessHandle) : (receptions.foldl (hear side) control).terminationRequested =
      control.terminationRequested := by
  induction receptions generalizing control with
  | nil => rfl
  | cons reception rest induction =>
      refine (induction (hear side control reception)).trans ?_
      cases reception with
      | control line =>
          rw [hear]
          split
          · unfold ProcessHandle.onControl
            split
            · rfl
            · split
              · rfl
              · rfl
            · rfl
            · rfl
          · rfl
      | octet value => rfl
      | diagnostic line => rfl

theorem take_chunk (requested : self.control.terminationRequested = false)
    (writable : ∀ pipe, (self.stream side).pipe = some pipe →
      pipe.ended = false ∧ pipe.destroyed = false) (chunk : List Octet)
    (rest : List (List Octet)) (full : Bool)
    (noFailure : ((self.stream side).decoder.push
      ((self.stream side).text.decode chunk true).2).failure = none) :
    let decoded := (self.stream side).text.decode chunk true
    let pushed := (self.stream side).decoder.push decoded.2
    ∃ next, self.take side false chunk rest full =
        ({ self with control := pushed.received.foldl (hear side) self.control } :
          ProcessOutput).setStream side next ∧
      OutputStream.HandsOn { self.stream side with text := decoded.1, incoming := rest }
        pushed.decoder (pushed.received.filterMap Reception.byte) next := by
  dsimp only
  generalize isDecoded : (self.stream side).text.decode chunk true = decoded at noFailure ⊢
  generalize isPushed : (self.stream side).decoder.push decoded.2 = pushed at noFailure ⊢
  rw [take]
  simp only [Bool.not_false, isDecoded, isPushed]
  unfold handOn
  simp only [noFailure, stream_withControl, stream_setStream, setStream_control,
    setStream_withControl]
  split
  · next noBytes =>
    refine ⟨{ self.stream side with
      text := decoded.1, incoming := rest, decoder := pushed.decoder, phase := .reading }, ?_, ?_⟩
    · rw [proceed, if_neg (by simp), setStream_setStream, stream_setStream]
    · refine ⟨rfl, rfl, rfl, rfl, ?_, Or.inl rfl, fun pipe isPipe => ⟨pipe, isPipe, ?_⟩⟩
      · rw [noBytes, List.append_nil]
      · rw [noBytes, List.append_nil]
  · rw [dispatchOutput, setStream_setStream, stream_setStream]
    generalize pushed.received.filterMap Reception.byte = bytes
    let decodedStream : OutputStream := { self.stream side with
      text := decoded.1, incoming := rest, decoder := pushed.decoder }
    let heard : ProcessOutput :=
      { self with control := pushed.received.foldl (hear side) self.control }
    have asked : (heard.setStream side (decodedStream.push bytes)).control.terminationRequested =
        false := by
      rw [setStream_control]
      exact (requested_hears side pushed.received self.control).trans requested
    have open' : ∀ pipe, ((heard.setStream side (decodedStream.push bytes)).stream side).pipe =
        some pipe → pipe.ended = false ∧ pipe.destroyed = false := by
      rw [stream_setStream]
      exact writable
    rcases writeOutput_writes asked open' bytes full with
      ⟨next, written, mode, isText, decoder, incoming, handedOn, phase, pipe⟩
    rw [stream_setStream] at mode isText decoder incoming handedOn pipe
    refine ⟨next, ?_, mode, isText, decoder, incoming, handedOn, phase, pipe⟩
    exact written.trans (setStream_setStream heard side _ next)

/-! ## Runs -/

/-- The child and its output are in good order. -/
structure InOrder (child : SpawnedChild) : Prop where
  large : 2 ≤ child.pgid
  safe : child.pgid < 2 ^ 53
  small : child.status ≤ 255

/-- What has come through of the output of the child. -/
structure ComesThrough (child : SpawnedChild) (errors : List Octet) (output : ProcessOutput) :
    Prop where
  calm : output.control.Calm
  streams : ∀ side, (output.stream side).Streams (child.channelOf errors side)
    (child.receptionsOf errors side) (.control child.endLine) output.control.settled
    output.control.ended.isSome

variable {child : SpawnedChild} {errors : List Octet}

theorem hear_spec (inOrder : InOrder child) {control : ProcessHandle} (calm : control.Calm)
    {reception : Reception} (member : reception ∈ child.receptionsOf errors side) :
    (hear side control reception).Calm ∧ control.Level (hear side control reception) ∧
      (reception = .control child.endLine → (hear side control reception).ended.isSome = true) := by
  cases reception with
  | control line =>
      rcases child.control_mem_receptions member with ⟨isStdout, isLine⟩
      rw [hear, if_pos isStdout]
      by_cases isEnd : line = child.endLine
      · have heard := isEnd ▸ ProcessHandle.onControl_endLine inOrder.small calm
        exact ⟨heard.1, heard.2.1, fun _ => heard.2.2⟩
      · have isStart := isLine.resolve_right isEnd
        subst isStart
        have heard := ProcessHandle.onControl_startLine inOrder.large inOrder.safe calm
        refine ⟨heard.1, heard.2, fun same => ?_⟩
        -- START is no END.
        cases same
  | octet value => exact ⟨calm, .refl control, by simp⟩
  | diagnostic line =>
      exact ⟨{ calm with wound := { calm.wound with } }, ⟨rfl, id⟩, by simp⟩

theorem hears_spec (inOrder : InOrder child) {receptions : List Reception}
    {control : ProcessHandle} (calm : control.Calm)
    (members : ∀ reception ∈ receptions, reception ∈ child.receptionsOf errors side) :
    (receptions.foldl (hear side) control).Calm ∧
      control.Level (receptions.foldl (hear side) control) ∧
      (Reception.control child.endLine ∈ receptions →
        (receptions.foldl (hear side) control).ended.isSome = true) := by
  induction receptions generalizing control with
  | nil => exact ⟨calm, .refl control, nofun⟩
  | cons reception rest induction =>
      have heard := hear_spec inOrder calm (members reception List.mem_cons_self)
      have later := induction heard.1 fun other member =>
        members other (List.mem_cons_of_mem _ member)
      refine ⟨later.1, heard.2.1.trans later.2.1, fun member => ?_⟩
      rcases List.mem_cons.mp member with rfl | inRest
      · exact later.2.1.ended (heard.2.2 rfl)
      · exact later.2.2 inRest

theorem ComesThrough.set (through : self.ComesThrough child errors) {control : ProcessHandle}
    (calm : control.Calm) (level : self.control.Level control) {stream : OutputStream}
    (streams : stream.Streams (child.channelOf errors side) (child.receptionsOf errors side)
      (.control child.endLine) control.settled control.ended.isSome) :
    (({ self with control := control } : ProcessOutput).setStream side stream).ComesThrough child
      errors := by
  refine ⟨?_, fun other => ?_⟩
  · rw [setStream_control]
    exact calm
  · rw [setStream_control]
    by_cases same : other = side
    · subst same
      rw [stream_setStream]
      exact streams
    · rw [stream_setStream_other _ same, stream_withControl, level.settled]
      exact (through.streams other).publish level.ended

theorem ComesThrough.setStream (through : self.ComesThrough child errors) {stream : OutputStream}
    (streams : stream.Streams (child.channelOf errors side) (child.receptionsOf errors side)
      (.control child.endLine) self.control.settled self.control.ended.isSome) :
    (self.setStream side stream).ComesThrough child errors :=
  through.set through.calm (.refl _) streams

theorem ComesThrough.take (through : self.ComesThrough child errors) (inOrder : InOrder child)
    (isReading : (self.stream side).phase = .reading) {chunk : List Octet}
    {rest : List (List Octet)} (incoming : (self.stream side).incoming = chunk :: rest)
    (full : Bool) : (self.take side false chunk rest full).ComesThrough child errors := by
  have streams := through.streams side
  have isRunning : (self.stream side).phase ≠ .done := by
    rw [isReading]
    nofun
  rcases streams.running isRunning with ⟨received, reads, marked⟩
  have brings := child.brings_receptionsOf errors side
  rcases reads.chunk brings incoming with ⟨noFailure, position⟩
  rcases take_chunk through.calm.requested (fun pipe => streams.writable isRunning) chunk
    rest full noFailure with ⟨next, taken, handsOn⟩
  generalize (self.stream side).text.decode chunk true = decoded at position taken handsOn
  generalize (self.stream side).decoder.push decoded.2 = pushed at position taken handsOn
  have members : ∀ reception ∈ pushed.received, reception ∈ child.receptionsOf errors side := by
    intro reception member
    rcases position with ⟨consumed, _, stands, whole⟩
    exact (brings.begins stands whole).subset (List.mem_append_right _ member)
  have heard := hears_spec inOrder through.calm members
  rw [taken]
  refine through.set heard.1 heard.2.1 ?_
  rw [heard.2.1.settled]
  refine streams.handsOn isRunning handsOn reads.handedOn position fun member => ?_
  rcases List.mem_append.mp member with early | late
  · exact heard.2.1.ended (marked early)
  · exact heard.2.2 late

theorem ComesThrough.takeEnd (through : self.ComesThrough child errors)
    (isReading : (self.stream side).phase = .reading) (incoming : (self.stream side).incoming = [])
    (full : Bool) : (self.take side true [] [] full).ComesThrough child errors := by
  have streams := through.streams side
  have isRunning : (self.stream side).phase ≠ .done := by
    rw [isReading]
    nofun
  rcases streams.running isRunning with ⟨received, reads, marked⟩
  rcases reads.finish (child.brings_receptionsOf errors side) incoming with ⟨rfl, pushed⟩
  have blank : Framing.IsBlank [] := fun unit member => (List.not_mem_nil member).elim
  let decoded := ((self.stream side).text.decode [] false).1
  have taken : self.take side true [] [] full = self.setStream side { self.stream side with
      text := decoded, incoming := [], decoder := ⟨[]⟩, phase := .done } := by
    rw [ProcessOutput.take]
    simp only [Bool.not_true, pushed]
    unfold handOn
    simp only [List.foldl_nil, List.filterMap_nil, setStream_control, stream_withControl,
      stream_setStream, setStream_withControl, if_true]
    rw [proceed, if_pos rfl, pumpEnds]
    simp only [stream_setStream, setStream_setStream, blank, not_true_eq_false, and_false, if_false]
    rfl
  rw [taken]
  exact through.setStream (streams.finishes isRunning reads.handedOn marked)

theorem ComesThrough.resumed (through : self.ComesThrough child errors) {tail : Bool}
    (stalled : (self.stream side).phase = .stalled tail) :
    (self.proceed side tail).ComesThrough child errors := by
  have streams := through.streams side
  cases tail with
  | true => exact absurd stalled streams.straight
  | false =>
      have isRunning : (self.stream side).phase ≠ .done := by
        rw [stalled]
        intro impossible
        cases impossible
      rw [proceed, if_neg (by simp)]
      refine through.setStream ⟨fun _ => ?_, by simp, by simp, streams.piped, fun isSettled => ?_⟩
      · rcases streams.running isRunning with ⟨received, reads, marked⟩
        exact ⟨received, ⟨reads.position, reads.handedOn⟩, marked⟩
      · cases (streams.unsettled isRunning).symm.trans isSettled

theorem ComesThrough.mapPipe (through : self.ComesThrough child errors) {change : Pipe → Pipe}
    (flows : ∀ pipe, (self.stream side).pipe = some pipe →
      pipe.Flows (self.stream side).handedOn self.control.settled →
      (change pipe).Flows (self.stream side).handedOn self.control.settled)
    (ended : ∀ pipe, (change pipe).ended = pipe.ended) :
    (self.setStream side ((self.stream side).mapPipe change)).ComesThrough child errors := by
  have streams := through.streams side
  refine through.setStream ⟨?_, streams.done, streams.straight, ?_, ?_⟩
  · intro isRunning
    rcases streams.running isRunning with ⟨received, reads, marked⟩
    exact ⟨received, ⟨reads.position, reads.handedOn⟩, marked⟩
  · intro pipe isPipe
    rcases Option.map_eq_some_iff.mp isPipe with ⟨before, isBefore, rfl⟩
    exact flows before isBefore (streams.piped before isBefore)
  · intro isSettled
    refine ⟨(streams.settled isSettled).1, fun isPipeMode pipe isPipe => ?_⟩
    rcases Option.map_eq_some_iff.mp isPipe with ⟨before, isBefore, rfl⟩
    rw [ended]
    exact (streams.settled isSettled).2 isPipeMode before isBefore

/-! ### The conditions on a run -/

/-- The child is neither terminated nor cut off, and the consumers keep reading. -/
def undisturbed (child : SpawnedChild) : OutputEvent → Bool
  | .control event => ProcessHandle.isUndisturbed child event
  | .readFailed _ _ | .stallFailed _ _ | .destroyed _ => false
  | _ => true

/-- No pump is waited for in vain, and no chunk is lost when the channel is cut. -/
def timely (self : ProcessOutput) : OutputEvent → Bool
  | .flushed _ => self.stdout.phase = .done && self.stderr.phase = .done
  | .cut side => (self.stream side).incoming = []
  | _ => true

theorem ComesThrough.absorb (through : self.ComesThrough child errors) {control : ProcessHandle}
    (calm : control.Calm) (level : self.control.Level control) :
    (self.absorb control).ComesThrough child errors := by
  refine ⟨calm, fun side => ?_⟩
  have streams := (through.streams side).publish level.ended
  have absorbedStream : (self.absorb control).stream side =
      absorbed self.control control (self.stream side) := stream_absorb self control _ side
  have notTerminated : (control.terminationRequested && !self.control.terminationRequested) =
      false := by
    rw [calm.requested]
    rfl
  have notSettling : (control.settled && !self.control.settled) = false := by
    rw [level.settled, Bool.and_not_self]
  rw [absorbedStream, absorbed]
  simp only [notTerminated, notSettling, Bool.false_eq_true, if_false]
  change OutputStream.Streams _ _ _ _ control.settled _
  rw [level.settled]
  split
  · exact streams.beside id rfl rfl rfl rfl rfl rfl rfl
  · exact streams

theorem ComesThrough.settle (through : self.ComesThrough child errors)
    (stdoutDone : self.stdout.phase = .done) (stderrDone : self.stderr.phase = .done)
    {control : ProcessHandle} (stepped : self.control.step .flushed = some control) :
    (self.absorb control).ComesThrough child errors := by
  have published : self.control.ended.isSome = true :=
    ((through.streams .stdout).done stdoutDone).2 (List.mem_append_right _ List.mem_cons_self)
  rcases through.calm.flushed published stepped with ⟨calm, settled, unsettled, sameEnd⟩
  refine ⟨calm, fun side => ?_⟩
  have isDone : (self.stream side).phase = .done := by
    cases side with
    | stdout => exact stdoutDone
    | stderr => exact stderrDone
  have streams := through.streams side
  rw [unsettled] at streams
  have absorbedStream : (self.absorb control).stream side =
      absorbed self.control control (self.stream side) := stream_absorb self control _ side
  have notTerminated : (control.terminationRequested && !self.control.terminationRequested) =
      false := by
    rw [calm.requested]
    rfl
  change OutputStream.Streams _ _ _ _ control.settled control.ended.isSome
  rw [absorbedStream, absorbed, settled, unsettled, sameEnd]
  simp only [notTerminated, Bool.false_eq_true, if_false, Bool.not_false, Bool.and_self, if_true]
  split
  · refine OutputStream.Streams.endPipe ?_ isDone
    exact streams.beside id rfl rfl rfl rfl rfl rfl rfl
  · exact streams.endPipe isDone

theorem ComesThrough.step {event : OutputEvent} (through : self.ComesThrough child errors)
    (inOrder : InOrder child) (allowed : undisturbed child event = true)
    (inTime : self.timely event = true) (stepped : self.step event = some next) :
    next.ComesThrough child errors := by
  cases event with
  | control event =>
      unfold ProcessOutput.step at stepped
      dsimp only at stepped
      split at stepped
      · cases stepped
      · next inside =>
        rcases Option.map_eq_some_iff.mp stepped with ⟨control, handleStep, rfl⟩
        have goes := through.calm.step inOrder.small (Bool.eq_false_iff.mpr inside) allowed
          handleStep
        exact through.absorb goes.1 goes.2
  | read side full =>
      unfold ProcessOutput.step at stepped
      dsimp only at stepped
      split at stepped
      · next chunk rest reading incoming =>
        split at stepped
        · cases stepped
          exact through.take inOrder reading incoming full
        · cases stepped
      · cases stepped
  | readEnd side full =>
      unfold ProcessOutput.step at stepped
      dsimp only at stepped
      split at stepped
      · next reading incoming =>
        split at stepped
        · cases stepped
          exact through.takeEnd reading incoming full
        · cases stepped
      · cases stepped
  | cut side =>
      unfold ProcessOutput.step at stepped
      dsimp only at stepped
      split at stepped
      · cases stepped
        have nothing : (self.stream side).incoming = [] := of_decide_eq_true inTime
        exact through.setStream
          ((through.streams side).beside id rfl rfl rfl rfl nothing.symm rfl rfl)
      · cases stepped
  | resumed side =>
      unfold ProcessOutput.step at stepped
      dsimp only at stepped
      split at stepped
      · next tail stalled =>
        cases stepped
        exact through.resumed stalled
      · cases stepped
  | flushed expired =>
      unfold ProcessOutput.step at stepped
      dsimp only at stepped
      split at stepped
      · rcases Option.map_eq_some_iff.mp stepped with ⟨control, handleStep, rfl⟩
        simp only [timely, Bool.and_eq_true, decide_eq_true_eq] at inTime
        exact through.settle inTime.1 inTime.2 handleStep
      · cases stepped
  | dirRemoved done =>
      have phase := through.calm.phase
      unfold ProcessOutput.step at stepped
      dsimp only at stepped
      split at stepped
      · cases stepped
      · rcases Option.map_eq_some_iff.mp stepped with ⟨control, handleStep, _⟩
        cases ProcessHandle.stepped_of_step handleStep with
        | dirRemoved removing =>
            rw [removing] at phase
            exact phase.elim
  | spillsRemoved =>
      unfold ProcessOutput.step at stepped
      dsimp only at stepped
      split at stepped
      · cases stepped
        refine ⟨through.calm, fun side => ?_⟩
        have same := through.streams side
        cases side with
        | stdout => exact same
        | stderr => exact same
      · cases stepped
  | consumed side size =>
      unfold ProcessOutput.step at stepped
      dsimp only at stepped
      split at stepped
      · split at stepped
        · cases stepped
        · cases stepped
          refine through.mapPipe (fun pipe _ flows => ⟨?_, flows.ended, fun finished => ?_,
            flows.destroyed⟩) fun _ => rfl
          · rw [List.append_assoc, List.take_append_drop]
            exact flows.flows
          · have earlier := flows.finished finished
            exact ⟨earlier.1, by rw [earlier.2, List.drop_nil]⟩
      · cases stepped
  | finished side =>
      unfold ProcessOutput.step at stepped
      dsimp only at stepped
      split at stepped
      · next pipe isPipe =>
        split at stepped
        · next atEnd =>
          cases stepped
          refine through.mapPipe (fun other isOther flows => ?_) fun _ => rfl
          cases isPipe.symm.trans isOther
          exact ⟨flows.flows, flows.ended, fun _ => ⟨atEnd.1, atEnd.2.1⟩, fun _ => rfl⟩
        · cases stepped
      · cases stepped
  | readFailed side message => cases allowed
  | stallFailed side message => cases allowed
  | destroyed side => cases allowed

/-- Each stream delivers exactly the bytes of the child, in their order, before it ends, and
each reader is pushed exactly them before `done` settles. -/
def Delivers (child : SpawnedChild) (errors : List Octet) (output : ProcessOutput) : Prop :=
  ∀ side, (output.stream side).handedOn <+: child.bytesOf errors side ∧
    (∀ pipe, (output.stream side).pipe = some pipe →
      pipe.delivered ++ pipe.buffered <+: child.bytesOf errors side ∧
      (pipe.ended = true → pipe.delivered ++ pipe.buffered = child.bytesOf errors side) ∧
      (pipe.finished = true → pipe.delivered = child.bytesOf errors side) ∧
      (pipe.destroyed = true → pipe.finished = true)) ∧
    (output.control.settled = true →
      (output.stream side).handedOn = child.bytesOf errors side ∧
      ((output.stream side).mode = .pipe → ∀ pipe, (output.stream side).pipe = some pipe →
        pipe.ended = true) ∧
      ∀ reader, (output.stream side).reader = some reader →
        reader.totalBytes = (child.bytesOf errors side).length)

theorem ComesThrough.delivers (through : self.ComesThrough child errors)
    (counted : ∀ side, (self.stream side).Counted) : self.Delivers child errors := by
  intro side
  have streams := through.streams side
  have bytes := child.bytes_receptions errors side
  have isDone : (self.stream side).phase = .done →
      (self.stream side).handedOn = child.bytesOf errors side := fun done =>
    (streams.done done).1.trans bytes
  have handedOn : (self.stream side).handedOn <+: child.bytesOf errors side := by
    by_cases done : (self.stream side).phase = .done
    · rw [isDone done]
    · rcases streams.running done with ⟨received, reads, _⟩
      rcases reads.position with ⟨consumed, _, stands, whole⟩
      have begins := (child.brings_receptionsOf errors side).begins stands whole
      rw [reads.handedOn, ← bytes]
      exact begins.filterMap _
  have complete : self.control.settled = true →
      (self.stream side).handedOn = child.bytesOf errors side := fun settled =>
    isDone (streams.settled settled).1
  refine ⟨handedOn, fun pipe isPipe => ?_, fun settled => ⟨complete settled,
    (streams.settled settled).2, fun reader isReader => ?_⟩⟩
  · have flows := streams.piped pipe isPipe
    refine ⟨flows.flows ▸ handedOn, fun ended => flows.flows.trans (complete (flows.ended ended)),
      fun finished => ?_, flows.destroyed⟩
    have atEnd := flows.finished finished
    rw [← complete (flows.ended atEnd.1), ← flows.flows, atEnd.2, List.append_nil]
  · rw [(counted side).total reader isReader, complete settled]

/-- The consumer lets the pump wait, the status file comes before END, and the drain grace is
over before the pump goes on. -/
def paused : List OutputEvent :=
  [.control (.prepared none), .control (.opened none none), .read .stdout false,
    .read .stdout true, .control (.raced (.status (asciiText "exit:0\n"))),
    .control (.drained true), .consumed .stdout 1, .resumed .stdout, .read .stdout false,
    .readEnd .stdout false, .readEnd .stderr false, .control .channelCut, .flushed false,
    .consumed .stdout 1, .finished .stdout]

end ProcessOutput

end DshRemote.Subprocess
