import DshRemote.Subprocess.ProcessOutput
import DshRemote.Subprocess.RunPhases

/-! # When an advertised spill is there

A reader advertises its spill by what it was pushed so far. Useless spills are removed by what
it was pushed when `run` returned, and a failure removes the directory of all of them. -/

namespace DshRemote.Subprocess

open Json (asciiText)

/-- What the wrapper leaves in a spill file: `head -c` of the stream. -/
def spillFile (stream : List Octet) (cap : Nat) : List Octet := stream.take cap

/-! ## One stream -/

namespace OutputStream

/-- The reader has counted what the pump has handed on. -/
structure Counted (stream : OutputStream) : Prop where
  wellFormed : ∀ reader, stream.reader = some reader → reader.WellFormed
  total : ∀ reader, stream.reader = some reader → reader.totalBytes = stream.handedOn.length
  mode : ∀ reader, stream.reader = some reader →
    stream.mode = .collect reader.maxBytes reader.maxSpillBytes

/-- What becomes of a stream: it keeps its mode, and its reader is pushed to or its spill is
invalidated. -/
structure Grows (before after : OutputStream) : Prop where
  counted : before.Counted → after.Counted
  reader : ∀ late, after.reader = some late → ∃ early, before.reader = some early ∧
    late.maxBytes = early.maxBytes ∧ late.maxSpillBytes = early.maxSpillBytes ∧
    early.totalBytes ≤ late.totalBytes ∧ (late.spillValid = true → early.spillValid = true)

/-- A pump that is done stays so. -/
def Rests (before after : OutputStream) : Prop :=
  before.phase = .done → after.phase = .done ∧ after.handedOn = before.handedOn

/-- The spill is invalidated. -/
def Invalid (stream : OutputStream) : Prop :=
  ∀ reader, stream.reader = some reader → reader.spillValid = false

/-- The reader of a stream of these bytes may advertise the spill, now or later. -/
def mayAdvertise (stream : OutputStream) (bytes : List Octet) : Bool :=
  stream.reader.any fun reader =>
    reader.spillValid && reader.maxSpillBytes.any fun cap =>
      reader.totalBytes ≤ cap ∧ reader.maxBytes < cap ∧
        reader.maxBytes < if stream.phase = .done then reader.totalBytes else bytes.length

/-- The spill holds these bytes. -/
def isFitting (stream : OutputStream) (bytes : List Octet) : Bool :=
  stream.reader.any fun reader => reader.maxSpillBytes.any fun cap => bytes.length ≤ cap

/-- The stream has outgrown the memory of its reader. -/
def isBeyondMemory (stream : OutputStream) : Bool :=
  stream.reader.any fun reader => reader.maxBytes < reader.totalBytes

variable {before middle after : OutputStream}

theorem Grows.refl (stream : OutputStream) : Grows stream stream :=
  ⟨id, fun late isLate => ⟨late, isLate, rfl, rfl, Nat.le_refl _, id⟩⟩

theorem Grows.trans (first : Grows before middle) (second : Grows middle after) :
    Grows before after where
  counted counted := second.counted (first.counted counted)
  reader late isLate := by
    rcases second.reader late isLate with ⟨between, isBetween, max, cap, total, valid⟩
    rcases first.reader between isBetween with ⟨early, isEarly, max', cap', total', valid'⟩
    exact ⟨early, isEarly, max.trans max', cap.trans cap', total'.trans total, valid' ∘ valid⟩

theorem Rests.refl (stream : OutputStream) : Rests stream stream := fun done => ⟨done, rfl⟩

theorem Rests.trans (first : Rests before middle) (second : Rests middle after) :
    Rests before after := fun done =>
  ⟨(second (first done).1).1, (second (first done).1).2.trans (first done).2⟩

theorem Grows.invalid (grows : Grows before after) (invalid : before.Invalid) :
    after.Invalid := by
  intro late isLate
  rcases grows.reader late isLate with ⟨early, isEarly, _, _, _, valid⟩
  cases isValid : late.spillValid with
  | false => rfl
  | true => exact absurd ((invalid early isEarly).symm.trans (valid isValid)) nofun

theorem Grows.beside (mode : after.mode = before.mode) (reader : after.reader = before.reader)
    (handedOn : after.handedOn = before.handedOn) : Grows before after where
  counted counted := by
    refine ⟨?_, ?_, ?_⟩
    · rw [reader]
      exact counted.wellFormed
    · rw [reader, handedOn]
      exact counted.total
    · rw [reader, mode]
      exact counted.mode
  reader late isLate := ⟨late, reader.symm.trans isLate, rfl, rfl, Nat.le_refl _, id⟩

theorem grows_destroy (self : OutputStream) : Grows self self.destroy := by
  rw [destroy]
  split
  · exact Grows.beside rfl rfl rfl
  · exact Grows.refl self

theorem rests_destroy (self : OutputStream) : Rests self self.destroy := by
  rw [destroy]
  split
  · exact fun done => ⟨done, rfl⟩
  · exact fun done => ⟨done, rfl⟩

theorem grows_endPipe (self : OutputStream) : Grows self self.endPipe := by
  rw [endPipe]
  split
  · exact Grows.beside rfl rfl rfl
  · exact Grows.refl self

theorem rests_endPipe (self : OutputStream) : Rests self self.endPipe := by
  rw [endPipe]
  split
  · exact fun done => ⟨done, rfl⟩
  · exact fun done => ⟨done, rfl⟩

theorem grows_invalidateSpill (self : OutputStream) : Grows self self.invalidateSpill where
  counted counted := by
    refine ⟨fun reader isReader => ?_, fun reader isReader => ?_, fun reader isReader => ?_⟩
    all_goals
      rcases Option.map_eq_some_iff.mp isReader with ⟨early, isEarly, rfl⟩
    · exact ⟨(counted.wellFormed early isEarly).counted, (counted.wellFormed early isEarly).bounded⟩
    · exact counted.total early isEarly
    · exact counted.mode early isEarly
  reader late isLate := by
    rcases Option.map_eq_some_iff.mp isLate with ⟨early, isEarly, rfl⟩
    exact ⟨early, isEarly, rfl, rfl, Nat.le_refl _, nofun⟩

theorem invalid_invalidateSpill (self : OutputStream) : self.invalidateSpill.Invalid := by
  intro reader isReader
  rcases Option.map_eq_some_iff.mp isReader with ⟨early, _, rfl⟩
  rfl

theorem grows_push (self : OutputStream) (bytes : List Octet) : Grows self (self.push bytes) where
  counted counted := by
    refine ⟨fun reader isReader => ?_, fun reader isReader => ?_, fun reader isReader => ?_⟩
    all_goals
      rcases Option.map_eq_some_iff.mp isReader with ⟨early, isEarly, rfl⟩
    · exact (counted.wellFormed early isEarly).push bytes
    · rw [TailOutputReader.totalBytes_push, counted.total early isEarly]
      exact List.length_append.symm
    · rw [(early.push_fixed bytes).1, (early.push_fixed bytes).2.1]
      exact counted.mode early isEarly
  reader late isLate := by
    rcases Option.map_eq_some_iff.mp isLate with ⟨early, isEarly, rfl⟩
    have fixed := early.push_fixed bytes
    refine ⟨early, isEarly, fixed.1, fixed.2.1, ?_, fun valid => fixed.2.2.symm.trans valid⟩
    rw [TailOutputReader.totalBytes_push]
    exact Nat.le_add_right _ _

theorem counted_create (mode : SubprocessOutputMode) (spillPath : Text)
    (incoming : List (List Octet)) : (create mode spillPath incoming).Counted := by
  cases mode with
  | pipe => exact ⟨nofun, nofun, nofun⟩
  | inherit => exact ⟨nofun, nofun, nofun⟩
  | collect maxBytes spillMaxBytes =>
      refine ⟨fun reader isReader => ?_, fun reader isReader => ?_, fun reader isReader => ?_⟩
      · cases isReader
        exact ⟨rfl, (Nat.zero_min _).symm⟩
      · cases isReader
        rfl
      · cases isReader
        rfl

theorem mayAdvertise_iff {stream : OutputStream} {bytes : List Octet} :
    stream.mayAdvertise bytes = true ↔
      ∃ reader cap, stream.reader = some reader ∧ reader.spillValid = true ∧
        reader.maxSpillBytes = some cap ∧ reader.totalBytes ≤ cap ∧ reader.maxBytes < cap ∧
        reader.maxBytes < if stream.phase = .done then reader.totalBytes else bytes.length := by
  rw [mayAdvertise, Option.any_eq_true]
  constructor
  · rintro ⟨reader, isReader, may⟩
    rw [Bool.and_eq_true, Option.any_eq_true] at may
    rcases may with ⟨valid, cap, isCap, bounds⟩
    exact ⟨reader, cap, isReader, valid, isCap, of_decide_eq_true bounds⟩
  · rintro ⟨reader, cap, isReader, valid, isCap, bounds⟩
    refine ⟨reader, isReader, ?_⟩
    rw [Bool.and_eq_true, Option.any_eq_true]
    exact ⟨valid, cap, isCap, decide_eq_true bounds⟩

theorem Invalid.not_mayAdvertise {stream : OutputStream} (invalid : stream.Invalid)
    (bytes : List Octet) : stream.mayAdvertise bytes = false := by
  refine Bool.eq_false_iff.mpr fun may => ?_
  rcases mayAdvertise_iff.mp may with ⟨reader, _, isReader, valid, _⟩
  exact absurd ((invalid reader isReader).symm.trans valid) nofun

/-- A spill that may be advertised could have been before. -/
theorem Grows.mayAdvertise (grows : Grows before after) (rests : Rests before after)
    (counted : before.Counted) {bytes : List Octet} (within : after.handedOn <+: bytes)
    (may : after.mayAdvertise bytes = true) : before.mayAdvertise bytes = true := by
  rw [mayAdvertise_iff] at may ⊢
  rcases may with ⟨late, cap, isLate, valid, isCap, fits, useful, beyond⟩
  rcases grows.reader late isLate with ⟨early, isEarly, max, sameCap, total, wasValid⟩
  refine ⟨early, cap, isEarly, wasValid valid, sameCap.symm.trans isCap, total.trans fits,
    max ▸ useful, ?_⟩
  rw [max] at beyond
  have lateTotal := (grows.counted counted).total late isLate
  have earlyTotal := counted.total early isEarly
  have bounded := within.length_le
  split
  · next done =>
    have rested := rests done
    rw [if_pos rested.1, lateTotal, rested.2, ← earlyTotal] at beyond
    exact beyond
  · split at beyond
    · omega
    · exact beyond

theorem isFitting_iff {stream : OutputStream} {bytes : List Octet} :
    stream.isFitting bytes = true ↔ ∃ reader cap, stream.reader = some reader ∧
      reader.maxSpillBytes = some cap ∧ bytes.length ≤ cap := by
  rw [isFitting, Option.any_eq_true]
  constructor
  · rintro ⟨reader, isReader, fits⟩
    rw [Option.any_eq_true] at fits
    rcases fits with ⟨cap, isCap, within⟩
    exact ⟨reader, cap, isReader, isCap, of_decide_eq_true within⟩
  · rintro ⟨reader, cap, isReader, isCap, within⟩
    refine ⟨reader, isReader, ?_⟩
    rw [Option.any_eq_true]
    exact ⟨cap, isCap, decide_eq_true within⟩

theorem Grows.kept (grows : Grows before after) (rests : Rests before after)
    (counted : before.Counted) {bytes : List Octet} (within : after.handedOn <+: bytes)
    {there : Prop} (kept : before.mayAdvertise bytes = false ∨
      before.isFitting bytes = true ∧ there) :
    after.mayAdvertise bytes = false ∨ after.isFitting bytes = true ∧ there := by
  cases may : after.mayAdvertise bytes with
  | false => exact Or.inl rfl
  | true =>
      have mayBefore := grows.mayAdvertise rests counted within may
      rcases kept with never | ⟨fits, isThere⟩
      · exact absurd (never.symm.trans mayBefore) nofun
      · rcases mayAdvertise_iff.mp may with ⟨late, cap, isLate, _, isCap, _⟩
        rcases grows.reader late isLate with ⟨early, isEarly, _, sameCap, _⟩
        rcases isFitting_iff.mp fits with ⟨other, size, isOther, isSize, room⟩
        cases isEarly.symm.trans isOther
        exact Or.inr ⟨isFitting_iff.mpr ⟨late, size, isLate, sameCap.trans isSize, room⟩, isThere⟩

/-- Only a spill that may be useful is advertised. -/
theorem Counted.advertised {stream : OutputStream} (counted : stream.Counted)
    {bytes : List Octet} (within : stream.handedOn <+: bytes)
    {reader : TailOutputReader} (isReader : stream.reader = some reader) {fromByte : Nat}
    (advertised : (reader.readFrom fromByte).spillPath.isSome = true) :
    stream.mayAdvertise bytes = true := by
  rcases (counted.wellFormed reader isReader).advertised advertised with
    ⟨valid, beyond, cap, isCap, fits⟩
  have total := counted.total reader isReader
  have bounded := within.length_le
  refine mayAdvertise_iff.mpr ⟨reader, cap, isReader, valid, isCap, fits, by omega, ?_⟩
  split
  · exact beyond
  · omega

/-- A spill is cleaned up when it was not written to its end, when the stream fits into the
memory, and when it does not fit into the spill. -/
theorem Counted.useless {stream : OutputStream} (counted : stream.Counted) {expired : Bool}
    (useless : stream.hasUselessSpill expired = true) :
    expired = true ∨ stream.isBeyondMemory = false ∨
      ∀ bytes, stream.mayAdvertise bytes = false := by
  unfold hasUselessSpill at useless
  split at useless
  · next maxBytes cap reader isMode isReader =>
    have mode := (counted.mode reader isReader).symm.trans isMode
    rw [SubprocessOutputMode.collect.injEq] at mode
    rw [Bool.or_eq_true, Bool.or_eq_true, decide_eq_true_eq, decide_eq_true_eq] at useless
    rcases useless with (expired | fits) | outgrown
    · exact Or.inl expired
    · refine Or.inr (Or.inl ?_)
      rw [isBeyondMemory, isReader, Option.any_some, mode.1]
      exact decide_eq_false (Nat.not_lt.mpr fits)
    · refine Or.inr (Or.inr fun bytes => Bool.eq_false_iff.mpr fun may => ?_)
      rcases mayAdvertise_iff.mp may with ⟨other, size, isOther, _, isSize, within, _⟩
      cases isReader.symm.trans isOther
      cases isSize.symm.trans mode.2
      omega
  · cases useless

end OutputStream

/-! ## Both streams -/

namespace ProcessOutput

/-- What a pump or a consumer does: one stream goes on, and `run` stays where it is. -/
structure Touched (side : OutputSide) (before after : ProcessOutput) : Prop where
  still : before.control.Still after.control
  grows : (before.stream side).Grows (after.stream side)
  others : ∀ other, other ≠ side → after.stream other = before.stream other
  dirGone : after.dirGone = before.dirGone
  removals : after.removals = before.removals
  removed : after.removed = before.removed

variable {side : OutputSide} {self next : ProcessOutput}

theorem Touched.trans {middle : ProcessOutput} (first : Touched side self middle)
    (second : Touched side middle next) : Touched side self next :=
  ⟨first.still.trans second.still, first.grows.trans second.grows,
    fun other isOther => (second.others other isOther).trans (first.others other isOther),
    second.dirGone.trans first.dirGone, second.removals.trans first.removals,
    second.removed.trans first.removed⟩

theorem touched_setStream (self : ProcessOutput) {stream : OutputStream}
    (grows : (self.stream side).Grows stream) : Touched side self (self.setStream side stream) := by
  refine ⟨?_, ?_, fun other isOther => stream_setStream_other self isOther stream, ?_, ?_, ?_⟩
  · rw [setStream_control]
    exact .refl _
  · rw [stream_setStream]
    exact grows
  · cases side with
    | stdout => rfl
    | stderr => rfl
  · cases side with
    | stdout => rfl
    | stderr => rfl
  · cases side with
    | stdout => rfl
    | stderr => rfl

theorem touched_control (side : OutputSide) {control : ProcessHandle}
    (still : self.control.Still control) :
    Touched side self { self with control := control } := by
  refine ⟨still, ?_, fun other _ => ?_, rfl, rfl, rfl⟩
  · cases side with
    | stdout => exact .refl _
    | stderr => exact .refl _
  · cases other with
    | stdout => rfl
    | stderr => rfl

theorem touched_pumpFails (self : ProcessOutput) (side : OutputSide) (message : Text) :
    Touched side self (self.pumpFails side message) := by
  have still : self.control.Still { self.control with
      outputTransportError := self.control.outputTransportError.or (some message) } :=
    ⟨rfl, rfl, rfl, rfl⟩
  have failed := touched_control side still
  refine failed.trans (touched_setStream _ ?_)
  have same := (OutputStream.grows_destroy (self.stream side)).trans
    (@OutputStream.Grows.beside _ { (self.stream side).destroy with phase := .done } rfl rfl rfl)
  cases side with
  | stdout => exact same
  | stderr => exact same

theorem touched_pumpEnds (self : ProcessOutput) (side : OutputSide) :
    Touched side self (self.pumpEnds side) := by
  rw [pumpEnds]
  dsimp only
  split
  · exact touched_pumpFails self side _
  · exact touched_setStream self (.beside rfl rfl rfl)

theorem touched_proceed (self : ProcessOutput) (side : OutputSide) (tail : Bool) :
    Touched side self (self.proceed side tail) := by
  rw [proceed]
  split
  · exact touched_pumpEnds self side
  · exact touched_setStream self (.beside rfl rfl rfl)

theorem touched_writeOutput (self : ProcessOutput) (side : OutputSide) (tail : Bool)
    (bytes : List Octet) (full : Bool) :
    Touched side self (self.writeOutput side tail bytes full) := by
  unfold writeOutput
  split
  · exact touched_proceed self side tail
  · split
    · exact touched_proceed self side tail
    · split
      · exact touched_pumpFails self side _
      · dsimp only
        split
        · refine (touched_setStream self ?_).trans (touched_setStream _ (.beside rfl rfl rfl))
          exact .beside rfl rfl rfl
        · refine (touched_setStream self ?_).trans (touched_proceed _ side tail)
          exact .beside rfl rfl rfl

theorem touched_dispatchOutput (self : ProcessOutput) (side : OutputSide) (tail : Bool)
    (bytes : List Octet) (full : Bool) :
    Touched side self (self.dispatchOutput side tail bytes full) :=
  (touched_setStream self ((self.stream side).grows_push bytes)).trans
    (touched_writeOutput _ side tail bytes full)

theorem still_hear (side : OutputSide) (control : ProcessHandle) (reception : Reception) :
    control.Still (hear side control reception) := by
  cases reception with
  | control line =>
      rw [hear]
      split
      · exact ProcessHandle.still_onControl control line
      · exact .refl _
  | octet value => exact .refl _
  | diagnostic line => exact ⟨rfl, rfl, rfl, rfl⟩

theorem still_hears (side : OutputSide) (receptions : List Reception) (control : ProcessHandle) :
    control.Still (receptions.foldl (hear side) control) := by
  induction receptions generalizing control with
  | nil => exact .refl _
  | cons reception rest induction => exact (still_hear side control reception).trans (induction _)

theorem touched_handOn (self : ProcessOutput) (side : OutputSide) (tail : Bool) (pushed : Pushed)
    (full : Bool) : Touched side self (self.handOn side tail pushed full) := by
  have heard := touched_control side (still_hears side pushed.received self.control)
  have decoded := heard.trans
    (@touched_setStream side _ { (self.stream side) with decoder := pushed.decoder }
      (by cases side with
        | stdout => exact .beside rfl rfl rfl
        | stderr => exact .beside rfl rfl rfl))
  have same : ({ self with control := pushed.received.foldl (hear side) self.control } :
      ProcessOutput).stream side = self.stream side := by
    cases side with
    | stdout => rfl
    | stderr => rfl
  unfold handOn
  dsimp only
  rw [same]
  split
  · exact decoded.trans (touched_pumpFails _ side _)
  · split
    · exact decoded.trans (touched_proceed _ side tail)
    · exact decoded.trans (touched_dispatchOutput _ side tail _ full)

theorem touched_take (self : ProcessOutput) (side : OutputSide) (tail : Bool) (chunk : List Octet)
    (rest : List (List Octet)) (full : Bool) :
    Touched side self (self.take side tail chunk rest full) := by
  refine (touched_setStream self ?_).trans (touched_handOn _ side tail _ full)
  exact .beside rfl rfl rfl

/-- The events that are not steps of `run`. -/
def isBeside : OutputEvent → Bool
  | .control _ | .flushed _ | .dirRemoved _ | .spillsRemoved => false
  | _ => true

theorem step_beside {event : OutputEvent} (beside : isBeside event = true)
    (stepped : self.step event = some next) :
    ∃ side, Touched side self next ∧ (self.stream side).Rests (next.stream side) := by
  cases event with
  | read side full =>
      unfold step at stepped
      dsimp only at stepped
      split at stepped
      · next chunk rest reading _ =>
        split at stepped
        · cases stepped
          exact ⟨side, touched_take self side false chunk rest full,
            fun done => absurd (reading.symm.trans done) nofun⟩
        · cases stepped
      · cases stepped
  | readEnd side full =>
      unfold step at stepped
      dsimp only at stepped
      split at stepped
      · next reading _ =>
        split at stepped
        · cases stepped
          exact ⟨side, touched_take self side true [] [] full,
            fun done => absurd (reading.symm.trans done) nofun⟩
        · cases stepped
      · cases stepped
  | readFailed side message =>
      unfold step at stepped
      dsimp only at stepped
      split at stepped
      · next reading =>
        cases stepped
        exact ⟨side, touched_pumpFails self side message,
          fun done => absurd (reading.symm.trans done) nofun⟩
      · cases stepped
  | cut side =>
      unfold step at stepped
      dsimp only at stepped
      split at stepped
      · cases stepped
        refine ⟨side, touched_setStream self (.beside rfl rfl rfl), fun done => ?_⟩
        rw [stream_setStream]
        exact ⟨done, rfl⟩
      · cases stepped
  | resumed side =>
      unfold step at stepped
      dsimp only at stepped
      split at stepped
      · next tail stalled =>
        cases stepped
        exact ⟨side, touched_proceed self side tail,
          fun done => absurd (stalled.symm.trans done) nofun⟩
      · cases stepped
  | stallFailed side message =>
      unfold step at stepped
      dsimp only at stepped
      split at stepped
      · next tail stalled =>
        cases stepped
        exact ⟨side, touched_pumpFails self side message,
          fun done => absurd (stalled.symm.trans done) nofun⟩
      · cases stepped
  | consumed side size =>
      unfold step at stepped
      dsimp only at stepped
      split at stepped
      · split at stepped
        · cases stepped
        · cases stepped
          refine ⟨side, touched_setStream self (.beside rfl rfl rfl), fun done => ?_⟩
          rw [stream_setStream]
          exact ⟨done, rfl⟩
      · cases stepped
  | finished side =>
      unfold step at stepped
      dsimp only at stepped
      split at stepped
      · split at stepped
        · cases stepped
          refine ⟨side, touched_setStream self (.beside rfl rfl rfl), fun done => ?_⟩
          rw [stream_setStream]
          exact ⟨done, rfl⟩
        · cases stepped
      · cases stepped
  | destroyed side =>
      cases stepped
      refine ⟨side, touched_setStream self (OutputStream.grows_destroy _), ?_⟩
      rw [stream_setStream]
      exact OutputStream.rests_destroy _
  | control event => cases beside
  | flushed expired => cases beside
  | dirRemoved done => cases beside
  | spillsRemoved => cases beside

/-! ## Steps of `run` -/

theorem advances_absorbed (before after : ProcessHandle) (stream : OutputStream) :
    stream.Grows (absorbed before after stream) ∧ stream.Rests (absorbed before after stream) := by
  unfold absorbed
  dsimp only
  have destroyed : ∀ terminates : Bool,
      stream.Grows (if terminates then stream.destroy else stream) ∧
        stream.Rests (if terminates then stream.destroy else stream) := by
    intro terminates
    cases terminates with
    | true => exact ⟨stream.grows_destroy, stream.rests_destroy⟩
    | false => exact ⟨.refl stream, .refl stream⟩
  rcases destroyed (after.terminationRequested && !before.terminationRequested) with ⟨grows, rests⟩
  generalize (if after.terminationRequested && !before.terminationRequested then
    stream.destroy else stream) = middle at grows rests
  have invalidated := grows.trans middle.grows_invalidateSpill
  have rested : stream.Rests middle.invalidateSpill := rests
  split
  · split
    · exact ⟨invalidated.trans (OutputStream.grows_endPipe _),
        rested.trans (OutputStream.rests_endPipe _)⟩
    · exact ⟨grows.trans middle.grows_endPipe, rests.trans middle.rests_endPipe⟩
  · split
    · exact ⟨invalidated, rested⟩
    · exact ⟨grows, rests⟩

theorem invalid_absorbed {before after : ProcessHandle} {stream : OutputStream}
    (expired : after.outputDrainExpired = true)
    (earlier : before.outputDrainExpired = true → stream.Invalid) :
    (absorbed before after stream).Invalid := by
  cases isBefore : before.outputDrainExpired with
  | true => exact (advances_absorbed before after stream).1.invalid (earlier isBefore)
  | false =>
      unfold absorbed
      dsimp only
      simp only [expired, isBefore, Bool.not_false, Bool.and_self, if_true]
      split
      · exact (OutputStream.grows_endPipe _).invalid (OutputStream.invalid_invalidateSpill _)
      · exact OutputStream.invalid_invalidateSpill _

theorem stream_absorb (self : ProcessOutput) (after : ProcessHandle) (gone : Bool)
    (side : OutputSide) : ({ self.absorb after with dirGone := gone } : ProcessOutput).stream side =
      absorbed self.control after (self.stream side) := by
  cases side with
  | stdout => rfl
  | stderr => rfl

/-- A status has been published that makes an outcome. -/
def publishesOutcome (self : ProcessHandle) : Bool :=
  self.outputTransportError.isNone &&
    match self.run with
    | .flushing status => (parseStatusText status).isSome
    | .closing => self.failed.isNone && self.ended.any fun status => (parseStatusText status).isSome
    | _ => false

/-- When `done` settles with this event, each spill that may still be advertised is there and
holds the stream. -/
def keepsSpills (streams : OutputSide → List Octet) (self : ProcessOutput) :
    OutputEvent → Bool
  | .flushed _ =>
      !publishesOutcome self.control || [OutputSide.stdout, .stderr].all fun side =>
        !(self.stream side).mayAdvertise (streams side) ||
          (self.stream side).isFitting (streams side) && (self.stream side).isBeyondMemory
  | .dirRemoved done =>
      [OutputSide.stdout, .stderr].all fun side =>
        !(self.stream side).mayAdvertise (streams side) ||
          (self.stream side).isFitting (streams side) && !done
  | _ => true

/-- A step of a handle whose channel brings nothing but what the child has written. -/
def stepFrom (streams : OutputSide → List Octet) (self : ProcessOutput) (event : OutputEvent) :
    Option ProcessOutput :=
  (self.step event).filter fun next =>
    next.stdout.handedOn <+: streams .stdout ∧ next.stderr.handedOn <+: streams .stderr

/-- Once `done` has settled, a spill that a reader advertises is there and holds the stream. -/
def AdvertisesRightly (streams : OutputSide → List Octet) (self : ProcessOutput) : Prop :=
  self.control.settled = true → ∀ side reader fromByte, (self.stream side).reader = some reader →
    (reader.readFrom fromByte).spillPath.isSome = true →
      self.dirGone = false ∧ side ∉ self.removed ∧
        ∃ cap, reader.maxSpillBytes = some cap ∧ spillFile (streams side) cap = streams side

structure Sound (streams : OutputSide → List Octet) (output : ProcessOutput) : Prop where
  wound : output.control.Wound
  counted : ∀ side, (output.stream side).Counted
  within : ∀ side, (output.stream side).handedOn <+: streams side
  expired : output.control.outputDrainExpired = true → ∀ side, (output.stream side).Invalid
  fresh : output.control.settled = false →
    output.dirGone = false ∧ output.removals = [] ∧ output.removed = []
  removed : ∀ side ∈ output.removed, side ∈ output.removals
  kept : output.control.settled = true → ∀ side,
    (output.stream side).mayAdvertise (streams side) = false ∨
      (output.stream side).isFitting (streams side) = true ∧ output.dirGone = false ∧
        side ∉ output.removals

variable {streams : OutputSide → List Octet}

theorem Sound.advertisesRightly (sound : self.Sound streams) : self.AdvertisesRightly streams := by
  intro settled side reader fromByte isReader advertised
  have may := (sound.counted side).advertised (sound.within side) isReader advertised
  rcases sound.kept settled side with never | ⟨fits, present, notRemoved⟩
  · exact absurd (never.symm.trans may) nofun
  · rcases OutputStream.isFitting_iff.mp fits with ⟨other, cap, isOther, isCap, within⟩
    cases isReader.symm.trans isOther
    exact ⟨present, fun removed => notRemoved (sound.removed side removed), cap, isCap,
      List.take_of_length_le within⟩

theorem Sound.touch (sound : self.Sound streams) {side : OutputSide}
    (touched : Touched side self next) (rests : (self.stream side).Rests (next.stream side))
    (within : ∀ side, (next.stream side).handedOn <+: streams side) : next.Sound streams := by
  have goes : ∀ other, (self.stream other).Grows (next.stream other) ∧
      (self.stream other).Rests (next.stream other) := by
    intro other
    by_cases same : other = side
    · subst same
      exact ⟨touched.grows, rests⟩
    · rw [touched.others other same]
      exact ⟨.refl _, .refl _⟩
  refine ⟨touched.still.wound sound.wound, fun other => (goes other).1.counted (sound.counted other),
    within, ?_, ?_, ?_, ?_⟩
  · rw [touched.still.expired]
    exact fun expired other => (goes other).1.invalid (sound.expired expired other)
  · rw [touched.still.settled, touched.dirGone, touched.removals, touched.removed]
    exact sound.fresh
  · rw [touched.removals, touched.removed]
    exact sound.removed
  · rw [touched.still.settled, touched.dirGone, touched.removals]
    intro settled other
    exact (goes other).1.kept (goes other).2 (sound.counted other) (within other)
      (sound.kept settled other)

theorem mem_uselessSpills {expired : Bool} (useless : side ∈ self.uselessSpills expired) :
    (self.stream side).hasUselessSpill expired = true :=
  (List.mem_filter.mp useless).2

theorem Sound.absorb (sound : self.Sound streams) {event : ProcessEvent} {after : ProcessHandle}
    (stepped : self.control.step event = some after) {gone : Bool}
    (same : self.control.settled = true → gone = self.dirGone)
    (early : after.settled = false → gone = false)
    (within : ∀ side, (({ self.absorb after with dirGone := gone } : ProcessOutput).stream
      side).handedOn <+: streams side)
    (settling : self.control.settled = false → after.settled = true → ∀ side,
      after.outputDrainExpired = true ∨
        (self.stream side).mayAdvertise (streams side) = false ∨
        (self.stream side).isFitting (streams side) = true ∧ gone = false ∧
          (after.failure.isNone = true → (self.stream side).isBeyondMemory = true)) :
    Sound streams { self.absorb after with dirGone := gone } := by
  have goes := fun side => advances_absorbed self.control after (self.stream side)
  simp only [stream_absorb] at within
  have invalid : after.outputDrainExpired = true →
      ∀ side, (absorbed self.control after (self.stream side)).Invalid :=
    fun expired side => invalid_absorbed expired fun earlier => sound.expired earlier side
  have run := ProcessHandle.step_run sound.wound stepped
  have wound : after.Wound := by
    rcases run with still | moved
    · exact still.wound sound.wound
    · exact moved.wound
  have steady : self.control.settled = true → after.settled = true := fun settled =>
    (ProcessHandle.step_settled sound.wound stepped settled).settled.trans settled
  have removals : (self.absorb after).removals = self.removals ∨
      self.control.settled = false ∧ after.settled = true ∧ after.failure.isNone = true ∧
        (self.absorb after).removals = self.uselessSpills after.outputDrainExpired := by
    unfold ProcessOutput.absorb
    dsimp only
    split
    · next isSo =>
      rw [Bool.and_eq_true, Bool.and_eq_true, Bool.not_eq_true'] at isSo
      exact Or.inr ⟨isSo.1.2, isSo.1.1, isSo.2, rfl⟩
    · exact Or.inl rfl
  refine ⟨wound, fun side => ?_, fun side => ?_, fun expired side => ?_, fun open' => ?_, ?_, ?_⟩
  · rw [stream_absorb]
    exact (goes side).1.counted (sound.counted side)
  · rw [stream_absorb]
    exact within side
  · rw [stream_absorb]
    exact invalid expired side
  · have before : self.control.settled = false := by
      cases settled : self.control.settled with
      | false => rfl
      | true => exact absurd (open'.symm.trans (steady settled)) nofun
    have fresh := sound.fresh before
    refine ⟨early open', ?_, fresh.2.2⟩
    rcases removals with kept | ⟨_, settled, _⟩
    · exact kept.trans fresh.2.1
    · exact absurd (open'.symm.trans settled) nofun
  · intro side isRemoved
    rcases removals with kept | ⟨before, _⟩
    · exact kept ▸ sound.removed side isRemoved
    · have noneRemoved : side ∈ ([] : List OutputSide) := (sound.fresh before).2.2 ▸ isRemoved
      cases noneRemoved
  · intro settled side
    rw [stream_absorb]
    cases before : self.control.settled with
    | true =>
        have unchanged : (self.absorb after).removals = self.removals := by
          rcases removals with kept | ⟨unsettled, _⟩
          · exact kept
          · exact absurd (unsettled.symm.trans before) nofun
        refine (goes side).1.kept (goes side).2 (sound.counted side) (within side) ?_
        dsimp only
        rw [unchanged, same before]
        exact sound.kept before side
    | false =>
        have never : (self.stream side).mayAdvertise (streams side) = false →
            (absorbed self.control after (self.stream side)).mayAdvertise (streams side) = false :=
          fun never => by
            rcases (goes side).1.kept (goes side).2 (sound.counted side) (within side)
              (@Or.inl _ (_ ∧ False) never) with never | ⟨_, impossible⟩
            · exact never
            · exact impossible.elim
        rcases settling before settled side with expired | unadvertised | ⟨fits, present, beyond⟩
        · exact Or.inl ((invalid expired side).not_mayAdvertise _)
        · exact Or.inl (never unadvertised)
        · by_cases isRemoval : side ∈ (self.absorb after).removals
          · refine Or.inl ?_
            rcases removals with kept | ⟨_, _, success, isUseless⟩
            · rw [kept, (sound.fresh before).2.1] at isRemoval
              cases isRemoval
            · rw [isUseless] at isRemoval
              rcases (sound.counted side).useless (mem_uselessSpills isRemoval) with
                expired | small | unadvertised
              · exact (invalid expired side).not_mayAdvertise _
              · exact absurd (small.symm.trans (beyond success)) nofun
              · exact never (unadvertised _)
          · exact (goes side).1.kept (goes side).2 (sound.counted side) (within side)
              (Or.inr ⟨fits, present, isRemoval⟩)

theorem publishesOutcome_flushed {control after : ProcessHandle} (unsettled : control.settled = false)
    (stepped : control.step .flushed = some after) (settled : after.settled = true) :
    publishesOutcome control = true := by
  have finishes : ∀ status, (control.finishOutcome status).settled = true →
      control.outputTransportError = none ∧ (parseStatusText status).isSome = true := by
    intro status finished
    rw [ProcessHandle.finishOutcome] at finished
    split at finished
    · rw [ProcessHandle.settled_fail] at finished
      cases unsettled.symm.trans finished
    · next parsed isParsed =>
      split at finished
      · rw [ProcessHandle.settled_fail] at finished
        cases unsettled.symm.trans finished
      · next noError => exact ⟨noError, congrArg Option.isSome isParsed⟩
  cases ProcessHandle.stepped_of_step stepped with
  | @flushed status flushing =>
      have published := finishes status settled
      simp [publishesOutcome, flushing, published]
  | closed closing =>
      unfold ProcessHandle.classify at settled
      split at settled
      · rw [ProcessHandle.settled_fail] at settled
        cases unsettled.symm.trans settled
      · next status noFailure isEnded =>
        have published := finishes status settled
        simp [publishesOutcome, closing, noFailure, isEnded, published]
      · cases unsettled.symm.trans settled

theorem both_sides {condition : OutputSide → Bool}
    (both : [OutputSide.stdout, .stderr].all condition = true) (side : OutputSide) :
    condition side = true := by
  rw [List.all_eq_true] at both
  cases side with
  | stdout => exact both _ (List.mem_cons_self)
  | stderr => exact both _ (List.mem_cons_of_mem _ List.mem_cons_self)

theorem Sound.step {event : OutputEvent} (sound : self.Sound streams)
    (allowed : self.keepsSpills streams event = true)
    (stepped : self.stepFrom streams event = some next) : next.Sound streams := by
  rcases Option.filter_eq_some_iff.mp stepped with ⟨stepped, isWithin⟩
  have isWithin := of_decide_eq_true isWithin
  have within : ∀ side, (next.stream side).handedOn <+: streams side := by
    intro side
    cases side with
    | stdout => exact isWithin.1
    | stderr => exact isWithin.2
  have present {event : ProcessEvent} {after : ProcessHandle}
      (handleStep : self.control.step event = some after) (unsettled : after.settled = false) :
      self.dirGone = false := by
    cases before : self.control.settled with
    | false => exact (sound.fresh before).1
    | true =>
        have same := (ProcessHandle.step_settled sound.wound handleStep before).settled
        exact absurd (unsettled.symm.trans (same.trans before)) nofun
  cases beside : isBeside event with
  | true =>
      rcases step_beside beside stepped with ⟨side, touched, rests⟩
      exact sound.touch touched rests within
  | false =>
      cases event with
      | control event =>
          unfold ProcessOutput.step at stepped
          dsimp only at stepped
          split at stepped
          · cases stepped
          · next isControl =>
            rcases Option.map_eq_some_iff.mp stepped with ⟨after, handleStep, rfl⟩
            refine sound.absorb handleStep (fun _ => rfl) (present handleStep) within ?_
            · intro unsettled settled side
              rcases ProcessHandle.step_run sound.wound handleStep with still | moved
              · exact absurd (unsettled.symm.trans (still.settled.symm.trans settled)) nofun
              · have settles := moved.settles settled
                cases event with
                | statusRead text => exact Or.inl settles
                | flushed => exact absurd rfl isControl
                | dirRemoved => exact absurd rfl isControl
                | _ => exact settles.elim
      | flushed expired =>
          unfold ProcessOutput.step at stepped
          dsimp only at stepped
          split at stepped
          · rcases Option.map_eq_some_iff.mp stepped with ⟨after, handleStep, rfl⟩
            refine sound.absorb handleStep (fun _ => rfl) (present handleStep) within ?_
            · intro unsettled settled side
              have published := publishesOutcome_flushed unsettled handleStep settled
              rw [keepsSpills, published, Bool.not_true, Bool.false_or] at allowed
              have either := both_sides allowed side
              simp only [Bool.or_eq_true, Bool.not_eq_true', Bool.and_eq_true] at either
              rcases either with never | ⟨fits, beyond⟩
              · exact Or.inr (Or.inl never)
              · exact Or.inr (Or.inr ⟨fits, (sound.fresh unsettled).1, fun _ => beyond⟩)
          · cases stepped
      | dirRemoved done =>
          unfold ProcessOutput.step at stepped
          dsimp only at stepped
          split at stepped
          · cases stepped
          · rcases Option.map_eq_some_iff.mp stepped with ⟨after, handleStep, rfl⟩
            have removing : ∃ canceled, self.control.run = .removing canceled ∧
                after.failure = self.control.failure ∧ after.settled = true := by
              cases ProcessHandle.stepped_of_step handleStep with
              | @dirRemoved canceled isRemoving => exact ⟨canceled, isRemoving, rfl, rfl⟩
            rcases removing with ⟨canceled, isRemoving, failure, isSettled⟩
            refine sound.absorb handleStep (fun settled => ?_) (fun unsettled => ?_) within ?_
            · have finished := sound.wound.settled settled
              rw [isRemoving] at finished
              cases finished
            · exact absurd (unsettled.symm.trans isSettled) nofun
            · intro unsettled _ side
              rw [keepsSpills] at allowed
              have either := both_sides allowed side
              simp only [Bool.or_eq_true, Bool.not_eq_true', Bool.and_eq_true] at either
              rcases either with never | ⟨fits, kept⟩
              · exact Or.inr (Or.inl never)
              · refine Or.inr (Or.inr ⟨fits, ?_, fun success => ?_⟩)
                · rw [(sound.fresh unsettled).1, kept]
                  rfl
                · have failed := sound.wound.removing canceled isRemoving
                  rw [← failure] at failed
                  rw [Option.isNone_iff_eq_none] at success
                  rw [success] at failed
                  cases failed
      | spillsRemoved =>
          unfold ProcessOutput.step at stepped
          dsimp only at stepped
          split at stepped
          · next settled =>
            cases stepped
            refine { sound with
              fresh := fun unsettled => absurd (unsettled.symm.trans settled) nofun
              removed := fun side isRemoved => isRemoved }
          · cases stepped
      | _ => cases beside

theorem sound_create (transport root aborted : Bool) {stdout stderr : OutputStream}
    (isStdout : ∃ mode path incoming, stdout = OutputStream.create mode path incoming)
    (isStderr : ∃ mode path incoming, stderr = OutputStream.create mode path incoming) :
    (create transport root aborted stdout stderr).Sound streams := by
  have fresh : ∀ stream : OutputStream,
      (∃ mode path incoming, stream = OutputStream.create mode path incoming) →
      (if aborted then stream.destroy else stream).Counted ∧
        (if aborted then stream.destroy else stream).handedOn = [] := by
    rintro stream ⟨mode, path, incoming, rfl⟩
    have counted := OutputStream.counted_create mode path incoming
    cases aborted with
    | false => exact ⟨counted, rfl⟩
    | true =>
        refine ⟨(OutputStream.grows_destroy _).counted counted, ?_⟩
        rw [if_pos rfl, OutputStream.destroy]
        split
        · rfl
        · rfl
  rcases ProcessHandle.create_open transport root aborted with ⟨wound, unsettled, unexpired⟩
  refine ⟨wound, ?_, ?_, ?_, fun _ => ⟨rfl, rfl, rfl⟩, fun side isRemoved => ?_, ?_⟩
  · intro side
    cases side with
    | stdout => exact (fresh stdout isStdout).1
    | stderr => exact (fresh stderr isStderr).1
  · intro side
    cases side with
    | stdout => exact (fresh stdout isStdout).2 ▸ List.nil_prefix
    | stderr => exact (fresh stderr isStderr).2 ▸ List.nil_prefix
  · exact fun expired => absurd (unexpired.symm.trans expired) nofun
  · cases isRemoved
  · exact fun settled => absurd (unsettled.symm.trans settled) nofun

/-- In every run in which `done` only settles when the spills that may still be advertised are
kept and hold their stream, it holds ever after of each spill that is advertised. -/
theorem advertises_rightly {transport root aborted : Bool}
    {stdoutMode stderrMode : SubprocessOutputMode} {stdoutSpill stderrSpill : Text}
    {stdoutChunks stderrChunks : List (List Octet)} {events : List OutputEvent}
    {output : ProcessOutput}
    (reached : Execution.run (stepFrom streams)
      (create transport root aborted (OutputStream.create stdoutMode stdoutSpill stdoutChunks)
        (OutputStream.create stderrMode stderrSpill stderrChunks)) events = some output)
    (timely : Execution.AllSteps (stepFrom streams)
      (fun output event => output.keepsSpills streams event = true)
      (create transport root aborted (OutputStream.create stdoutMode stdoutSpill stdoutChunks)
        (OutputStream.create stderrMode stderrSpill stderrChunks)) events) :
    output.AdvertisesRightly streams := by
  have sound : output.Sound streams := Execution.run_invariant (Sound streams)
    (fun sound allowed stepped => sound.step allowed stepped)
    (sound_create transport root aborted ⟨stdoutMode, stdoutSpill, stdoutChunks, rfl⟩
      ⟨stderrMode, stderrSpill, stderrChunks, rfl⟩) timely reached
  exact sound.advertisesRightly

/-- A child that writes two bytes, of which the memory of the reader takes one. On `stderr` it
writes nothing, but the login shell has. -/
def written : OutputSide → List Octet
  | .stdout => [104, 105]
  | .stderr => []

def writtenFrames : List (List Octet) :=
  [Utf8.encode (asciiText "!DSHSSH START 1717\n"), Utf8.encode (asciiText "aGk=\n"),
    Utf8.encode (asciiText "!DSHSSH END exit:0\n")]

def collecting (banner : List (List Octet)) : ProcessOutput :=
  create true true false
    (OutputStream.create (.collect 1 (some 100)) (asciiText "/run/processes/1/stdout.spill")
      writtenFrames)
    (OutputStream.create .pipe [] banner)

/-- Both pumps are done before the outcome. -/
def drained : List OutputEvent :=
  [.control (.prepared none), .control (.opened none none), .read .stdout false,
    .read .stdout false, .read .stdout false, .control (.raced .ended), .readEnd .stdout false,
    .readEnd .stderr false, .flushed false]

theorem advertises_rightly_drained :
    ∃ output, Execution.run (stepFrom written) (collecting []) drained = some output ∧
      output.control.settled = true ∧
      (∃ reader, output.stdout.reader = some reader ∧
        (reader.readFrom 0).spillPath.isSome = true) ∧
      output.AdvertisesRightly written :=
  ⟨_, rfl, rfl, ⟨_, rfl, rfl⟩,
    @advertises_rightly written true true false (.collect 1 (some 100)) .pipe
      (asciiText "/run/processes/1/stdout.spill") [] writtenFrames [] drained _ rfl (by decide)⟩

/-- The banner ends the pump of `stderr`, and the outcome fails. -/
def bannered : List OutputEvent :=
  [.control (.prepared none), .control (.opened none none), .read .stderr false,
    .read .stdout false, .read .stdout false, .read .stdout false, .control (.raced .ended),
    .readEnd .stdout false, .flushed false,
    .control (.waitProbed 0 (.completed (some 1) [] []) false), .control .rolledBack,
    .dirRemoved true]

/-- The directory is removed, and the reader still advertises the spill in it. -/
theorem advertises_removed :
    ∃ output, Execution.run (stepFrom written)
        (collecting [Utf8.encode (asciiText "login\n")]) bannered = some output ∧
      output.control.settled = true ∧ output.dirGone = true ∧
      (∃ reader, output.stdout.reader = some reader ∧
        (reader.readFrom 0).spillPath.isSome = true) ∧
      ¬output.AdvertisesRightly written := by
  refine ⟨_, rfl, rfl, rfl, ⟨_, rfl, rfl⟩, fun rightly => ?_⟩
  have present := (rightly rfl .stdout _ 0 rfl rfl).1
  cases present

end ProcessOutput

end DshRemote.Subprocess
