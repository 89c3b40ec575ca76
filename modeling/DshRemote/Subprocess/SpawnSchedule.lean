import DshRemote.Foundation.Execution
import DshRemote.Foundation.JsonIntegers
import DshRemote.Subprocess.OutputFrames

/-! # Who writes to the channel, and when

The shell of the inner wrapper and the base64 encoder of the child's output have one
descriptor. The encoder runs from before the child is started, and writes its text in
blocks of any size; the shell prints START once it has started the child, and END once the
encoder is done. An output with a spill goes to the encoder through `tee`, which may be killed
before it has passed on everything. -/

namespace DshRemote.Subprocess

open Json (ascii asciiText)
open Utf8 (encode TextDecoder)
open Execution

/-! ## The text of the encoder -/

/-- A line of 76 columns holds 57 octets. -/
def octetsPerLine : Nat := 57

/-- The lines of `base64` for the whole output of the child. -/
def base64Lines (output : List Octet) : List Text :=
  if _ended : output = [] then []
  else Base64.encode (output.take octetsPerLine) :: base64Lines (output.drop octetsPerLine)
termination_by output.length
decreasing_by
  have positive := List.length_pos_iff.mpr _ended
  simp only [List.length_drop, octetsPerLine]
  omega

/-- Lines with a line feed behind each. -/
def linesText (lines : List Text) : Text := Lines.unite Framing.newline lines []

/-! ## The text of the shell -/

/-- `dsh_status_text`, with the name that `kill -l` has for the signal. -/
def statusText (status : Nat) (killName : Text) : Text :=
  let name := if asciiText "SIG" <+: killName then killName.drop 3 else killName
  if 128 < status ∧ name ≠ [] ∧ ∀ unit ∈ name, isSignalUnit unit = true then
    asciiText "signal:SIG" ++ name
  else asciiText "exit:" ++ Json.printNat status
where
  /-- `[A-Z0-9]`. -/
  isSignalUnit (unit : CodeUnit) : Bool :=
    (0x41 ≤ unit.val ∧ unit.val ≤ 0x5A) || (0x30 ≤ unit.val ∧ unit.val ≤ 0x39)

def startFrame (pgid : Nat) : Text := asciiText "!DSHSSH START " ++ Json.printNat pgid

def endFrame (status : Text) : Text := asciiText "!DSHSSH END " ++ status

/-! ## The schedule -/

inductive SpawnPhase
  | launching
  | running
  | ended
deriving DecidableEq, Repr

structure SpawnChannel where
  /-- What the encoder has not written yet. -/
  unwritten : Text
  channel : Text := []
  phase : SpawnPhase := .launching
deriving DecidableEq, Repr

inductive SpawnEvent
  /-- The encoder writes a block. -/
  | block (size : Nat)
  /-- The shell prints START for the child it has started. -/
  | start
  /-- The shell has waited for the encoder and prints END. -/
  | finish
deriving DecidableEq, Repr

/-- What a child writes to one stream, and what of it the encoder gets. -/
structure ChildOutput where
  bytes : List Octet
  /-- The cap of the spill, where the stream has one. -/
  spillCap : Option Nat
  passed : List Octet
  begins : passed <+: bytes
  /-- `head -c` leaves with as many octets as the cap allows, and the next write to the spill
  kills `tee`. -/
  spilled : passed ≠ bytes → ∃ cap ∈ spillCap, cap ≤ passed.length

namespace ChildOutput

/-- `tee` was not killed before the encoder had everything. -/
def Whole (output : ChildOutput) : Prop := output.passed = output.bytes

/-- An output without a spill. -/
def direct (bytes : List Octet) : ChildOutput where
  bytes := bytes
  spillCap := none
  passed := bytes
  begins := List.prefix_rfl
  spilled cut := absurd rfl cut

end ChildOutput

/-- A child with its output and the facts that the shell prints about it. -/
structure SpawnedChild where
  stdout : ChildOutput
  pgid : Nat
  status : Nat
  killName : Text

namespace SpawnedChild

def output (child : SpawnedChild) : List Octet := child.stdout.bytes

def startLine (child : SpawnedChild) : Text := startFrame child.pgid

def endLine (child : SpawnedChild) : Text := endFrame (statusText child.status child.killName)

def step (child : SpawnedChild) (state : SpawnChannel) : SpawnEvent → Option SpawnChannel
  | .block size =>
      if 0 < size ∧ size ≤ state.unwritten.length ∧ state.phase ≠ .ended then
        some { state with
          unwritten := state.unwritten.drop size
          channel := state.channel ++ state.unwritten.take size }
      else none
  | .start =>
      if state.phase = .launching then
        some { state with
          channel := state.channel ++ linesText [child.startLine]
          phase := .running }
      else none
  | .finish =>
      if state.phase = .running ∧ state.unwritten = [] then
        some { state with
          channel := state.channel ++ linesText [child.endLine]
          phase := .ended }
      else none

def initial (child : SpawnedChild) : SpawnChannel where
  unwritten := linesText (base64Lines child.stdout.passed)

/-- What the local side receives of the channel, in whatever chunks it comes. -/
def received (chunks : List (List Octet)) : Pumped := pump true {} {} chunks

/-- START, some octets, and END. -/
def receptions (child : SpawnedChild) (octets : List Octet) : List Reception :=
  .control child.startLine :: octets.map .octet ++ [.control child.endLine]

/-- START, the output, and END. -/
def expected (child : SpawnedChild) : List Reception := child.receptions child.output

/-- The encoder writes nothing before START is printed. -/
def EncoderWaits (child : SpawnedChild) (events : List SpawnEvent) : Prop :=
  AllSteps child.step (fun state event => ∀ size, event = .block size → state.phase ≠ .launching)
    child.initial events

end SpawnedChild

/-! ## The lines of the channel -/

theorem linesText_append (first second : List Text) :
    linesText (first ++ second) = linesText first ++ linesText second := by
  simp only [linesText, Lines.unite, List.flatMap_append, List.append_nil]

theorem receiveLines_base64 (output : List Octet) :
    receiveLines (base64Lines output) = (output.map .octet, none) := by
  induction output using base64Lines.induct with
  | case1 => rw [base64Lines, dif_pos rfl, receiveLines, List.map_nil]
  | case2 output someOutput induction =>
      have someLine : output.take octetsPerLine ≠ [] := by
        intro none
        rcases List.take_eq_nil_iff.mp none with impossible | empty
        · cases impossible
        · exact someOutput empty
      rw [base64Lines, dif_neg someOutput, receiveLines, receiveLine_encode someLine]
      simp only [induction, ← List.map_append, List.take_append_drop]

theorem base64Lines_printable (output : List Octet) :
    ∀ line ∈ base64Lines output, ∀ unit ∈ line, Base64.IsPrintable unit := by
  induction output using base64Lines.induct with
  | case1 =>
      rw [base64Lines, dif_pos rfl]
      exact fun line member => (List.not_mem_nil member).elim
  | case2 output someOutput induction =>
      rw [base64Lines, dif_neg someOutput]
      exact List.forall_mem_cons.mpr ⟨Base64.isPrintable_encode _, induction⟩

/-- ASCII, and nothing that ends a line. -/
def IsPlainLine (line : Text) : Prop :=
  Framing.newline ∉ line ∧ carriageReturn ∉ line ∧ ∀ unit ∈ line, unit.val < 0x80

theorem isPlainLine_of_printable {line : Text}
    (printable : ∀ unit ∈ line, Base64.IsPrintable unit) : IsPlainLine line :=
  ⟨fun member => absurd (printable _ member).1 (by decide),
    fun member => absurd (printable _ member).1 (by decide),
    fun unit member => Nat.lt_trans (printable unit member).2 (by decide)⟩

theorem IsPlainLine.append {first second : Text} (isFirst : IsPlainLine first)
    (isSecond : IsPlainLine second) : IsPlainLine (first ++ second) := by
  simp only [IsPlainLine, List.mem_append, not_or]
  refine ⟨⟨isFirst.1, isSecond.1⟩, ⟨isFirst.2.1, isSecond.2.1⟩, ?_⟩
  rintro unit (inFirst | inSecond)
  · exact isFirst.2.2 unit inFirst
  · exact isSecond.2.2 unit inSecond

theorem isPlainLine_printNat (size : Nat) : IsPlainLine (Json.printNat size) := by
  refine isPlainLine_of_printable fun unit member => ?_
  have digit := Json.isDigit_printNat size unit member
  exact ⟨Nat.lt_of_lt_of_le (by decide) digit.1, Nat.lt_of_le_of_lt digit.2 (by decide)⟩

theorem isPlainLine_ascii {line : Text}
    (checked : line.all (fun unit => decide (0x20 ≤ unit.val ∧ unit.val < 0x7F)) = true) :
    IsPlainLine line := by
  have each : ∀ unit ∈ line, 0x20 ≤ unit.val ∧ unit.val < 0x7F := fun unit member =>
    of_decide_eq_true (List.all_eq_true.mp checked unit member)
  exact ⟨fun member => absurd (each _ member).1 (by decide),
    fun member => absurd (each _ member).1 (by decide),
    fun unit member => Nat.lt_trans (each unit member).2 (by decide)⟩

theorem isPlainLine_statusText (status : Nat) (killName : Text) :
    IsPlainLine (statusText status killName) := by
  have signal : IsPlainLine (asciiText "signal:SIG") := isPlainLine_ascii (by decide +kernel)
  have exit : IsPlainLine (asciiText "exit:") := isPlainLine_ascii (by decide +kernel)
  simp only [statusText]
  generalize (if asciiText "SIG" <+: killName then killName.drop 3 else killName) = name
  split
  · next isSignal =>
      refine signal.append (isPlainLine_of_printable fun unit member => ?_)
      have isUnit := isSignal.2.2 unit member
      simp only [statusText.isSignalUnit, Bool.or_eq_true, decide_eq_true_eq] at isUnit
      rw [Base64.IsPrintable]
      omega
  · exact exit.append (isPlainLine_printNat status)

theorem isPlainLine_startLine (child : SpawnedChild) : IsPlainLine child.startLine := by
  have verb : IsPlainLine (asciiText "!DSHSSH START ") := isPlainLine_ascii (by decide +kernel)
  exact verb.append (isPlainLine_printNat child.pgid)

theorem isPlainLine_endLine (child : SpawnedChild) : IsPlainLine child.endLine := by
  have verb : IsPlainLine (asciiText "!DSHSSH END ") := isPlainLine_ascii (by decide +kernel)
  exact verb.append (isPlainLine_statusText child.status child.killName)

theorem receiveLine_control {rest : Text} (plain : IsPlainLine (exclamation :: rest)) :
    receiveLine (exclamation :: rest) = .ok [.control (exclamation :: rest)] := by
  have noReturn : (exclamation :: rest).getLast? ≠ some carriageReturn := fun last =>
    plain.2.1 (List.mem_of_getLast? last)
  simp only [receiveLine, noReturn, reduceCtorEq, List.head?_cons, if_false, if_true]

namespace SpawnedChild

variable (child : SpawnedChild)

theorem receiveLine_startLine : receiveLine child.startLine = .ok [.control child.startLine] :=
  receiveLine_control (isPlainLine_startLine child)

theorem receiveLine_endLine : receiveLine child.endLine = .ok [.control child.endLine] :=
  receiveLine_control (isPlainLine_endLine child)

def letters : Text := linesText (base64Lines child.stdout.passed)

/-- The channel when START stands between two parts of the letters. -/
def channelText (early late : Text) : Text :=
  early ++ linesText [child.startLine] ++ late ++ linesText [child.endLine]

theorem small_linesText {lines : List Text} (plain : ∀ line ∈ lines, IsPlainLine line) :
    ∀ unit ∈ linesText lines, unit.val < 0x80 := by
  intro unit member
  rw [linesText, Lines.unite, List.append_nil, List.mem_flatMap] at member
  rcases member with ⟨line, isLine, member⟩
  rcases List.mem_append.mp member with inLine | isFeed
  · exact (plain line isLine).2.2 unit inLine
  · rw [List.mem_singleton.mp isFeed]
    decide

theorem small_channelText {early late : Text} {octets : List Octet}
    (split : early ++ late = linesText (base64Lines octets)) :
    ∀ unit ∈ child.channelText early late, unit.val < 0x80 := by
  have letters : ∀ unit ∈ early ++ late, unit.val < 0x80 := by
    rw [split]
    exact small_linesText fun line member =>
      isPlainLine_of_printable (base64Lines_printable _ line member)
  have start : ∀ unit ∈ linesText [child.startLine], unit.val < 0x80 :=
    small_linesText (List.forall_mem_singleton.mpr (isPlainLine_startLine child))
  have finish : ∀ unit ∈ linesText [child.endLine], unit.val < 0x80 :=
    small_linesText (List.forall_mem_singleton.mpr (isPlainLine_endLine child))
  intro unit member
  simp only [channelText, List.mem_append] at member letters
  rcases member with ((inEarly | inStart) | inLate) | inEnd
  · exact letters unit (Or.inl inEarly)
  · exact start unit inStart
  · exact letters unit (Or.inr inLate)
  · exact finish unit inEnd

theorem closed_channelText (early late : Text) :
    (Lines.cut Framing.newline (child.channelText early late)).2 = [] := by
  have ends : child.channelText early late =
      early ++ linesText [child.startLine] ++ late ++ child.endLine ++ [Framing.newline] := by
    simp only [channelText, linesText, Lines.unite, List.flatMap_singleton, List.append_nil,
      List.append_assoc]
  rw [ends, Lines.cut_closed]

theorem received_iff {early late : Text} (split : early ++ late = child.letters)
    {chunks : List (List Octet)}
    (whole : chunks.flatten = encode (child.channelText early late)) (all : List Reception) :
    received chunks = ⟨all, none⟩ ↔
      receiveLines (Lines.cut Framing.newline (child.channelText early late)).1 = (all, none) := by
  have stands : Stands [] {} [] := ⟨rfl, rfl⟩
  have text := Utf8.textOf_encode_small (child.small_channelText split)
  have pumped := stands.pump_iff true
    (show [] ++ chunks.flatten = encode (child.channelText early late) by
      rw [List.nil_append, whole])
    (by rw [text, closed_channelText]) all
  rw [text, List.nil_append] at pumped
  exact pumped

theorem receiveLines_ordered (octets : List Octet) :
    receiveLines (Lines.cut Framing.newline
        (child.channelText [] (linesText (base64Lines octets)))).1 =
      (child.receptions octets, none) := by
  have lines : child.channelText [] (linesText (base64Lines octets)) =
      linesText (child.startLine :: base64Lines octets ++ [child.endLine]) := by
    rw [linesText_append, ← List.singleton_append, linesText_append]
    rfl
  have plain : ∀ line ∈ child.startLine :: base64Lines octets ++ [child.endLine],
      Framing.newline ∉ line := by
    intro line member
    simp only [List.cons_append, List.mem_cons, List.mem_append, List.not_mem_nil,
      or_false] at member
    rcases member with rfl | isLetters | rfl
    · exact (isPlainLine_startLine child).1
    · exact (isPlainLine_of_printable (base64Lines_printable _ line isLetters)).1
    · exact (isPlainLine_endLine child).1
  have finish : receiveLines [child.endLine] = ([.control child.endLine], none) := by
    rw [receiveLines, receiveLine_endLine]
    rfl
  rw [lines, linesText, Lines.cut_unite plain List.not_mem_nil, List.cons_append, receiveLines,
    receiveLine_startLine]
  simp only [receiveLines_append (receiveLines_base64 octets), finish]
  rfl

theorem letters_head {first : CodeUnit} {rest : Text} (letters : child.letters = first :: rest) :
    isBase64Letter first = true := by
  rw [SpawnedChild.letters, base64Lines] at letters
  split at letters
  · cases letters
  · next someOutput =>
      have someLine : child.stdout.passed.take octetsPerLine ≠ [] := by
        intro none
        rcases List.take_eq_nil_iff.mp none with impossible | empty
        · cases impossible
        · exact someOutput empty
      rcases encode_head someLine with ⟨letter, others, line, isLetter⟩
      rw [linesText, Lines.unite_cons, line] at letters
      rw [← (List.cons.inj letters).1]
      exact isLetter

/-- A letter in front of START: the first thing received is not START. -/
theorem receiveLines_early {early late : Text} (split : early ++ late = child.letters)
    (someEarly : early ≠ []) :
    receiveLines (Lines.cut Framing.newline (child.channelText early late)).1 ≠
      (child.expected, none) := by
  rcases List.exists_cons_of_ne_nil someEarly with ⟨first, others, rfl⟩
  have isLetter := child.letters_head split.symm
  have notNewline : first ≠ Framing.newline := by
    rintro rfl
    cases isLetter
  have text : child.channelText (first :: others) late =
      first :: child.channelText others late := rfl
  rw [text, Lines.cut, if_neg notNewline]
  rcases Lines.cut Framing.newline (child.channelText others late) with ⟨_ | ⟨line, lines⟩, rest⟩
  · intro impossible
    cases impossible
  · intro ordered
    simp only [Lines.extend, receiveLines] at ordered
    cases now : receiveLine (first :: line) with
    | error message =>
        rw [now] at ordered
        cases ordered
    | ok here =>
        rw [now] at ordered
        rcases receiveLine_letter isLetter now with ⟨reception, later, rfl, notControl⟩
        have heads := congrArg List.head? (Prod.mk.inj ordered).1
        exact notControl _ (Option.some.inj heads)

/-! ## Every run -/

/-- What a run has written, and whether the encoder has waited. -/
def Written (events : List SpawnEvent) (state : SpawnChannel) : Prop :=
  match state.phase with
  | .launching =>
      state.channel ++ state.unwritten = child.letters ∧
        (child.EncoderWaits events ↔ state.channel = [])
  | .running =>
      ∃ early late, state.channel = early ++ linesText [child.startLine] ++ late ∧
        early ++ late ++ state.unwritten = child.letters ∧
        (child.EncoderWaits events ↔ early = [])
  | .ended =>
      ∃ early late, state.channel = child.channelText early late ∧
        early ++ late = child.letters ∧ (child.EncoderWaits events ↔ early = [])

theorem encoderWaits_snoc {events : List SpawnEvent} {state : SpawnChannel}
    (reached : run child.step child.initial events = some state) (event : SpawnEvent) :
    child.EncoderWaits (events ++ [event]) ↔
      child.EncoderWaits events ∧ ∀ size, event = .block size → state.phase ≠ .launching := by
  rw [EncoderWaits, EncoderWaits, AllSteps.append_iff reached, AllSteps, and_congr_right_iff]
  intro _
  constructor
  · exact fun both => both.1
  · intro allowed
    refine ⟨allowed, ?_⟩
    cases child.step state event with
    | none => trivial
    | some next => trivial

theorem written_step {events : List SpawnEvent} {state next : SpawnChannel} {event : SpawnEvent}
    (reached : run child.step child.initial events = some state)
    (written : child.Written events state) (stepped : child.step state event = some next) :
    child.Written (events ++ [event]) next := by
  have waits := child.encoderWaits_snoc reached event
  rcases state with ⟨unwritten, channel, phase⟩
  cases event with
  | block size =>
      rw [step] at stepped
      split at stepped
      · next possible =>
          cases stepped
          cases phase with
          | launching =>
              rcases written with ⟨whole, _⟩
              refine ⟨?_, waits.trans ⟨?_, ?_⟩⟩
              · rw [List.append_assoc, List.take_append_drop]
                exact whole
              · exact fun both => absurd rfl (both.2 size rfl)
              · -- A block is not empty.
                intro none
                have noBlock := (List.append_eq_nil_iff.mp none).2
                have length := congrArg List.length noBlock
                rw [List.length_take, Nat.min_eq_left possible.2.1] at length
                exact absurd length (Nat.ne_of_gt possible.1)
          | running =>
              rcases written with ⟨early, late, isChannel, whole, waited⟩
              refine ⟨early, late ++ unwritten.take size, ?_, ?_, ?_⟩
              · simp only at isChannel
                rw [isChannel, List.append_assoc, List.append_assoc, List.append_assoc,
                  List.append_assoc]
              · rw [List.append_assoc, List.append_assoc, List.take_append_drop, ← List.append_assoc]
                exact whole
              · rw [waits, waited]
                exact and_iff_left fun _ _ impossible => nomatch impossible
          | ended => exact absurd rfl possible.2.2
      · cases stepped
  | start =>
      rw [step] at stepped
      split at stepped
      · next launching =>
          cases launching
          cases stepped
          rcases written with ⟨whole, waited⟩
          refine ⟨channel, [], ?_, ?_, ?_⟩
          · rw [List.append_nil]
          · rw [List.append_nil]
            exact whole
          · rw [waits, waited]
            exact and_iff_left fun _ impossible => nomatch impossible
      · cases stepped
  | finish =>
      rw [step] at stepped
      split at stepped
      · next done =>
          rcases done with ⟨running, empty⟩
          cases running
          cases stepped
          rcases written with ⟨early, late, isChannel, whole, waited⟩
          refine ⟨early, late, ?_, ?_, ?_⟩
          · simp only at isChannel
            rw [isChannel, channelText]
          · simp only at empty whole
            rw [empty, List.append_nil] at whole
            exact whole
          · rw [waits, waited]
            exact and_iff_left fun _ impossible => nomatch impossible
      · cases stepped

theorem written_of_reached {events : List SpawnEvent} {state : SpawnChannel}
    (reached : run child.step child.initial events = some state) : child.Written events state := by
  have history : run child.step child.initial events = some state ∧
      child.Written events state := by
    refine history_invariant (fun events state => run child.step child.initial events =
      some state ∧ child.Written events state) ?_ ?_ reached
    · exact ⟨rfl, List.nil_append _, iff_of_true trivial rfl⟩
    · intro past state event next both stepped
      exact ⟨run_snoc both.1 stepped, child.written_step both.1 both.2 stepped⟩
  exact history.2

theorem expected_eq_receptions_iff (octets : List Octet) :
    child.receptions octets = child.expected ↔ octets = child.output := by
  have octet : Function.Injective Reception.octet := fun _ _ => Reception.octet.inj
  rw [expected, receptions, receptions, List.append_left_inj, List.cons.injEq,
    and_iff_right rfl, octet.list_map.eq_iff]

/-- The local side receives START, the output and END, in this order and nothing else, exactly
when the encoder wrote nothing before START was printed and `tee` passed on the whole output. -/
theorem received_expected_iff {events : List SpawnEvent} {finish : SpawnChannel}
    (reached : run child.step child.initial events = some finish)
    (ended : finish.phase = .ended) {chunks : List (List Octet)}
    (whole : chunks.flatten = encode finish.channel) :
    received chunks = ⟨child.expected, none⟩ ↔
      child.EncoderWaits events ∧ child.stdout.Whole := by
  have written := child.written_of_reached reached
  rw [Written, ended] at written
  rcases written with ⟨early, late, channel, split, waits⟩
  rw [channel] at whole
  rw [child.received_iff split whole, waits]
  have inOrder : early = [] →
      (receiveLines (Lines.cut Framing.newline (child.channelText early late)).1 =
        (child.expected, none) ↔ child.stdout.Whole) := by
    rintro rfl
    rw [List.nil_append] at split
    rw [split, letters, child.receiveLines_ordered, Prod.mk.injEq, and_iff_left rfl,
      expected_eq_receptions_iff]
    rfl
  constructor
  · intro ordered
    have none : early = [] := by
      by_contra someEarly
      exact child.receiveLines_early split someEarly ordered
    exact ⟨none, (inOrder none).mp ordered⟩
  · exact fun both => (inOrder both.1).mpr both.2

def greeting : SpawnedChild where
  stdout := .direct [0x68, 0x69]
  pgid := 7
  status := 0
  killName := []

theorem initial_greeting : greeting.initial = ⟨asciiText "aGk=\n", [], .launching⟩ := by
  have last : base64Lines ([0x68, 0x69].drop octetsPerLine) = [] := by
    rw [base64Lines]
    rfl
  rw [initial, greeting, ChildOutput.direct, base64Lines, dif_neg (List.cons_ne_nil _ _), last]
  decide +kernel

theorem received_greeting :
    let channel := asciiText "!DSHSSH START 7\naGk=\n!DSHSSH END exit:0\n"
    received [encode channel] = ⟨greeting.expected, none⟩ ↔
      greeting.EncoderWaits [.start, .block 5, .finish] ∧ greeting.stdout.Whole := by
  have reached : run greeting.step greeting.initial [.start, .block 5, .finish] =
      some ⟨[], asciiText "!DSHSSH START 7\naGk=\n!DSHSSH END exit:0\n", .ended⟩ := by
    rw [initial_greeting]
    rfl
  exact greeting.received_expected_iff reached rfl (by rw [List.flatten_singleton])

/-- The encoder writes half a line before START: no START is received, and the rest of the
line is refused. -/
theorem received_divided :
    let channel := asciiText "aG!DSHSSH START 7\nk=\n!DSHSSH END exit:0\n"
    run greeting.step greeting.initial [.block 2, .start, .block 3, .finish] =
        some ⟨[], channel, .ended⟩ ∧
      received [encode channel] = ⟨[.diagnostic (asciiText "aG!DSHSSH START 7")],
        some "subprocess-ssh: invalid base64 output transport"⟩ ∧
      received [encode channel] ≠ ⟨greeting.expected, none⟩ := by
  rw [initial_greeting]
  exact ⟨rfl, by decide +kernel, by decide +kernel⟩

end SpawnedChild

end DshRemote.Subprocess
