import DshRemote.Subprocess.OutputFrames

/-! # A stream of frames

What a `FrameDecoder` makes of the text that an encoder and the wrapper have written: lines
of encoded octets with control lines between them. -/

namespace DshRemote.Subprocess

open Framing (newline IsBlank)

/-- The decoder behind the call, and what it threw. -/
def FrameDecoder.finish (self : FrameDecoder) (requireComplete : Bool) :
    FrameDecoder × Option String :=
  if !requireComplete then (⟨[]⟩, none)
  else if ¬IsBlank self.pending then
    (self, some "subprocess-ssh: truncated base64 output transport")
  else (self, none)

/-- The chunks of a text pushed one after another, up to the first error. -/
def FrameDecoder.pushAll (self : FrameDecoder) : List Text → Pushed
  | [] => ⟨self, [], none⟩
  | chunk :: later =>
      let pushed := self.push chunk
      match pushed.failure with
      | some message => ⟨pushed.decoder, pushed.received, some message⟩
      | none =>
          let rest := pushed.decoder.pushAll later
          ⟨rest.decoder, pushed.received ++ rest.received, rest.failure⟩

def Reception.octets : Reception → List Octet
  | .octet value => [value]
  | _ => []

def Reception.controls : Reception → List Text
  | .control value => [value]
  | _ => []

/-! ## What is written -/

inductive Frame
  | payload (octets : List Octet)
  /-- The exclamation mark, and the text behind it. -/
  | control (text : Text)
deriving DecidableEq

namespace Frame

def text : Frame → Text
  | .payload octets => Base64.encode octets
  | .control text => exclamation :: text

def octets : Frame → List Octet
  | .payload octets => octets
  | .control _ => []

def controls : Frame → List Text
  | .payload _ => []
  | .control text => [exclamation :: text]

def brings : Frame → List Reception
  | .payload octets => octets.map .octet
  | .control text => [.control (exclamation :: text)]

end Frame

/-- A frame on a line of its own. A frame that ends in a carriage return is written with
another one, since the last one is taken for the end of the line. -/
structure FrameLine where
  frame : Frame
  carriage : Bool
  oneLine : newline ∉ frame.text
  ending : carriage = false → frame.text.getLast? ≠ some carriageReturn

def FrameLine.line (self : FrameLine) : Text :=
  self.frame.text ++ if self.carriage then [carriageReturn] else []

/-! ## A line -/

/-- The carriage return of the line comes off, and no other one. -/
theorem FrameLine.line_frame (line : FrameLine) :
    (if line.line.getLast? = some carriageReturn then line.line.dropLast else line.line) =
      line.frame.text := by
  rw [FrameLine.line]
  cases carriage : line.carriage with
  | true =>
      rw [if_pos rfl, List.getLast?_concat, if_pos rfl, List.dropLast_concat]
  | false =>
      rw [if_neg Bool.false_ne_true, List.append_nil, if_neg (line.ending carriage)]

theorem receiveLine_congr {first second frame : Text}
    (firstFrame : (if first.getLast? = some carriageReturn then first.dropLast else first) = frame)
    (secondFrame :
      (if second.getLast? = some carriageReturn then second.dropLast else second) = frame) :
    receiveLine first = receiveLine second := by
  simp only [receiveLine, firstFrame, secondFrame]

theorem encode_getLast (octets : List Octet) :
    (Base64.encode octets).getLast? ≠ some carriageReturn := by
  intro last
  exact absurd (Base64.isPrintable_encode octets _ (List.mem_of_getLast? last)).1 (by decide)

theorem receiveLine_frame (line : FrameLine) :
    receiveLine line.line = .ok line.frame.brings := by
  have isFrame := line.line_frame
  cases frame : line.frame with
  | payload octets =>
      rw [frame, Frame.text] at isFrame
      rw [receiveLine_congr isFrame (if_neg (encode_getLast octets))]
      by_cases someOctets : octets = []
      · subst someOctets
        rfl
      · exact receiveLine_encode someOctets
  | control text =>
      rw [frame, Frame.text] at isFrame
      simp only [receiveLine, isFrame, reduceCtorEq, if_false, List.head?_cons, if_true]
      rfl

/-- No line of encoded octets begins as a control line does. -/
theorem encode_not_control (octets : List Octet) :
    (Base64.encode octets).head? ≠ some exclamation := by
  by_cases someOctets : octets = []
  · subst someOctets
    exact fun impossible => nomatch impossible
  · rcases encode_head someOctets with ⟨first, rest, isEncoded, isLetter⟩
    rw [isEncoded, List.head?_cons]
    intro same
    cases same
    cases isLetter

theorem receiveLines_frames (lines : List FrameLine) :
    receiveLines (lines.map FrameLine.line) =
      (lines.flatMap fun line => line.frame.brings, none) := by
  induction lines with
  | nil => rfl
  | cons line later induction =>
      rw [List.map_cons, receiveLines, receiveLine_frame]
      dsimp only
      rw [induction, List.flatMap_cons]

/-! ## The chunks -/

/-- However the text is cut: its closed lines are received, and its open rest is left. -/
theorem pushAll_cut (decoder : FrameDecoder) (chunks : List Text) {received : List Reception}
    (absent : newline ∉ decoder.pending)
    (good : receiveLines (Lines.cut newline (decoder.pending ++ chunks.flatten)).1 =
      (received, none)) :
    decoder.pushAll chunks =
      ⟨⟨(Lines.cut newline (decoder.pending ++ chunks.flatten)).2⟩, received, none⟩ := by
  induction chunks generalizing decoder received with
  | nil =>
      rw [List.flatten_nil, List.append_nil, Lines.cut_of_notMem absent] at good ⊢
      cases good
      rfl
  | cons chunk later induction =>
      have parts := Lines.cut_append newline (decoder.pending ++ chunk) later.flatten
      rw [List.flatten_cons, ← List.append_assoc, parts] at good ⊢
      rcases push_eq decoder chunk with ⟨noFailure, lines, pending⟩ | ⟨failure, lines⟩
      · rw [receiveLines_append lines, ← pending] at good
        have rest := induction (decoder.push chunk).decoder
          (by
            rw [pending]
            exact (Lines.cut_absent newline _).2)
          (Prod.ext rfl (Prod.mk.inj good).2)
        rw [FrameDecoder.pushAll]
        simp only [noFailure, rest]
        rw [(Prod.mk.inj good).1, pending]
      · exact absurd (congrArg Prod.snd good) (receiveLines_append_failure lines _)

theorem octets_brings (lines : List FrameLine) :
    (lines.flatMap fun line => line.frame.brings).flatMap Reception.octets =
      lines.flatMap fun line => line.frame.octets := by
  rw [List.flatMap_assoc]
  congr 1
  funext line
  cases line.frame with
  | payload octets =>
      rw [Frame.brings, List.flatMap_map]
      exact List.flatMap_singleton' octets
  | control text => rfl

theorem controls_brings (lines : List FrameLine) :
    (lines.flatMap fun line => line.frame.brings).flatMap Reception.controls =
      lines.flatMap fun line => line.frame.controls := by
  rw [List.flatMap_assoc]
  congr 1
  funext line
  cases line.frame with
  | payload octets =>
      rw [Frame.brings, List.flatMap_map]
      exact List.flatMap_eq_nil_iff.mpr fun octet _ => rfl
  | control text => rfl

/-- For any octets in any lines, any control lines between them and any chunks of the text:
the frames are received in their order, the octets are those of the stream and the control
lines are those of the wrapper. No line of octets begins as a control line does, and a call
of `finish` throws exactly when the open rest is not blank. -/
theorem FrameDecoder.pushAll_frames (lines : List FrameLine) (rest : Text) (chunks : List Text)
    (openRest : newline ∉ rest)
    (whole : chunks.flatten = Lines.unite newline (lines.map FrameLine.line) rest) :
    let pushed := FrameDecoder.pushAll ⟨[]⟩ chunks
    pushed.failure = none ∧
      pushed.received = (lines.flatMap fun line => line.frame.brings) ∧
      pushed.received.flatMap Reception.octets =
        (lines.flatMap fun line => line.frame.octets) ∧
      pushed.received.flatMap Reception.controls =
        (lines.flatMap fun line => line.frame.controls) ∧
      (∀ octets, (Base64.encode octets).head? ≠ some exclamation) ∧
      ((pushed.decoder.finish true).2 ≠ none ↔ ¬IsBlank rest) ∧
      (pushed.decoder.finish false).2 = none := by
  have absent : ∀ line ∈ lines.map FrameLine.line, newline ∉ line := by
    intro text member
    rcases List.mem_map.mp member with ⟨line, -, rfl⟩
    rw [FrameLine.line, List.mem_append, not_or]
    refine ⟨line.oneLine, ?_⟩
    split
    · decide
    · exact List.not_mem_nil
  have isCut : Lines.cut newline ([] ++ chunks.flatten) = (lines.map FrameLine.line, rest) := by
    rw [List.nil_append, whole, Lines.cut_unite absent openRest]
  have good : receiveLines (Lines.cut newline ([] ++ chunks.flatten)).1 =
      (lines.flatMap fun line => line.frame.brings, none) := by
    rw [isCut]
    exact receiveLines_frames lines
  have pushed := pushAll_cut ⟨[]⟩ chunks List.not_mem_nil good
  rw [isCut] at pushed
  dsimp only
  rw [pushed]
  refine ⟨rfl, rfl, octets_brings lines, controls_brings lines, encode_not_control, ?_, rfl⟩
  rw [FrameDecoder.finish, if_neg (by decide)]
  split
  · next filled => exact iff_of_true (Option.some_ne_none _) filled
  · next blank => exact iff_of_false (fun some => some rfl) blank

/-- Two lines in three chunks, with a control line that ends in a carriage return. -/
theorem FrameDecoder.pushAll_two_lines :
    (FrameDecoder.pushAll ⟨[]⟩ (["TWF", "u\n!x\r", "\nTQ"].map Json.asciiText)).received =
      [.octet 0x4D, .octet 0x61, .octet 0x6E, .control (Json.asciiText "!x")] :=
  (FrameDecoder.pushAll_frames
    [⟨.payload [0x4D, 0x61, 0x6E], false, by decide, by decide⟩,
      ⟨.control (Json.asciiText "x"), true, by decide, by decide⟩]
    (Json.asciiText "TQ") (["TWF", "u\n!x\r", "\nTQ"].map Json.asciiText)
    (by decide) (by decide)).2.1

end DshRemote.Subprocess
