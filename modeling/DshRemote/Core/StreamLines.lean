import DshRemote.Core.LineLimit

/-! # Lines on a stream of anything

Whatever has come before, an encoded value that begins a line is read as that value. Every line
feed closes one line, and a decoder with a handler for invalid lines goes on after each. -/

namespace DshRemote.Utf8

namespace Decoder

theorem bounded_feed {decoder : Decoder} (bounded : decoder.Bounded) (octets : List Octet) :
    (decoder.feed octets).1.Bounded := by
  induction octets generalizing decoder with
  | nil => exact bounded
  | cons octet rest induction => exact induction (step_bounded bounded octet).1

theorem step_lineFeed {decoder : Decoder} (bounded : decoder.Bounded) :
    ∃ before, decoder.step lineFeed = (idle, before ++ [lineFeed.val]) := by
  have notInside : lineFeed.val < decoder.lower := Nat.lt_of_lt_of_le (by decide) bounded.lower
  rw [step]
  split
  · exact ⟨[], rfl⟩
  · rw [if_pos (Or.inl notInside)]
    exact ⟨[replacement], rfl⟩

theorem feed_lineFeed (octets : List Octet) :
    ∃ before, idle.feed (octets ++ [lineFeed]) = (idle, before ++ [lineFeed.val]) := by
  rcases step_lineFeed (bounded_feed bounded_idle octets) with ⟨before, stepped⟩
  refine ⟨(idle.feed octets).2 ++ before, ?_⟩
  rw [feed_append, feed, stepped, feed]
  simp only [List.append_nil, List.append_assoc]

end Decoder

namespace TextDecoder

/-- After a line feed nothing is begun, and a byte order mark is a character. -/
theorem after_lineFeed (octets : List Octet) :
    after (octets ++ [lineFeed]) = { bomSeen := true } := by
  rcases Decoder.feed_lineFeed octets with ⟨before, fed⟩
  rw [after, fed]
  cases before <;> rfl

theorem textOf_lineFeed (octets : List Octet) :
    ∃ text, textOf (octets ++ [lineFeed]) = text ++ [Framing.newline] := by
  rcases Decoder.feed_lineFeed octets with ⟨before, fed⟩
  have ends (values : List Nat) :
      ∃ text, (values ++ [lineFeed.val]).flatMap units = text ++ [Framing.newline] :=
    ⟨values.flatMap units, List.flatMap_append⟩
  rw [textOf, fed]
  cases before with
  | nil => exact ends []
  | cons scalar rest =>
      rw [List.cons_append, dropMark]
      split
      · exact ends rest
      · exact ends (scalar :: rest)

end TextDecoder

end DshRemote.Utf8

namespace DshRemote

open Framing

variable {Number : Type} (format : Json.NumberFormat Number)

/-! ## The beginning of a line -/

/-- No line has been begun. -/
def AtLineStart (octets : List Octet) : Prop :=
  octets = [] ∨ ∃ before, octets = before ++ [lineFeed]

theorem encodeLine_eq (value : Json Number) :
    encodeLine format value = Utf8.encode (Json.stringify format value) ++ [lineFeed] := by
  rw [encodeLine, Utf8.encode_append (by intro unit head; cases head; decide)]
  rfl

theorem atLineStart_encodeLine (octets : List Octet) (value : Json Number) :
    AtLineStart (octets ++ encodeLine format value) := by
  rw [encodeLine_eq, ← List.append_assoc]
  exact Or.inr ⟨_, rfl⟩

theorem AtLineStart.tail {octets : List Octet} (start : AtLineStart octets) :
    openText octets = [] := by
  rcases start with rfl | ⟨before, rfl⟩
  · rfl
  · rcases Utf8.TextDecoder.textOf_lineFeed before with ⟨text, ends⟩
    rw [openText, ends, Lines.cut_append, Lines.cut_line (Lines.cut_absent newline text).2]
    rfl

theorem AtLineStart.decode_encode {octets : List Octet} (start : AtLineStart octets) {text : Text}
    (transparent : Transparent text) :
    ((Utf8.TextDecoder.after octets).decode (Utf8.encode text) true).2 = text := by
  rcases start with rfl | ⟨before, rfl⟩
  · have whole := (Utf8.TextDecoder.decode_after [] (Utf8.encode text)).2
    rw [List.nil_append, transparent.textOf_encode] at whole
    exact whole.symm
  · rw [Utf8.TextDecoder.after_lineFeed, Utf8.TextDecoder.decode, Utf8.encode]
    have fed := Utf8.Decoder.feed_encode (Utf8.isScalar_scalars text)
    simp only [if_true]
    rw [fed]
    exact transparent.wellFormed

theorem transparent_line (value : Json Number) :
    Transparent (Json.stringify format value ++ [newline]) := by
  have line := transparent_streamText format [value] Utf8.wellFormed_nil (by exact nofun)
  rwa [streamText_cons, streamText_nil] at line

theorem AtLineStart.closedLines_encodeLine {octets : List Octet} (start : AtLineStart octets)
    (value : Json Number) :
    closedLines octets (encodeLine format value) = [Json.stringify format value] := by
  rw [closedLines, encodeLine, start.decode_encode (transparent_line format value), start.tail,
    List.nil_append, Lines.cut_line (newline_notMem_stringify format value)]
  rfl

theorem count_encodeLine (value : Json Number) :
    (encodeLine format value).count lineFeed = 1 := by
  rw [← length_closedLines [], AtLineStart.closedLines_encodeLine format (Or.inl rfl)]
  rfl

/-! ## A decoder with a handler for invalid lines -/

theorem readLines_handled_append (first second : List Text) :
    (readLines format true (first ++ second)).1 =
      (readLines format true first).1 ++ (readLines format true second).1 := by
  rw [readLines_append, readLines_handled]

theorem readLines_stringify {values : List (Json Number)} (valid : ∀ value ∈ values, value.Valid) :
    (readLines format true (values.map (Json.stringify format))).1 = values ∧
      invalidLines format (values.map (Json.stringify format)) = [] := by
  induction values with
  | nil => exact ⟨rfl, rfl⟩
  | cons value rest induction =>
      rcases List.forall_mem_cons.mp valid with ⟨now, later⟩
      rcases induction later with ⟨read, invalid⟩
      have parsed := Json.parse_stringify format now
      rw [List.map_cons, readLines, if_neg (readable_stringify format now).1, parsed,
        invalidLines, List.filter_cons_of_neg (by simp [parsed]), ← invalidLines, invalid]
      exact ⟨congrArg (value :: ·) read, rfl⟩

theorem textLines_encodeLines (values : List (Json Number)) :
    textLines (values.flatMap (encodeLine format)) = values.map (Json.stringify format) ∧
      AtLineStart (values.flatMap (encodeLine format)) := by
  induction values using List.reverseRecOn with
  | nil => exact ⟨rfl, Or.inl rfl⟩
  | append_singleton values value induction =>
      rcases induction with ⟨lines, start⟩
      rw [List.flatMap_append, List.flatMap_singleton, List.map_append, textLines_append, lines,
        start.closedLines_encodeLine]
      exact ⟨rfl, atLineStart_encodeLine format _ value⟩

namespace LineDecoder

section Handled

variable {limit : Nat} {octets chunk : List Octet} {before : LineDecoder}

theorem Stands.push_handled (stands : Stands limit true octets before)
    (fits : ¬limit < before.lineBytes + chunk.length) :
    ∃ next, before.push format chunk =
        (next, .ok (readLines format true (closedLines octets chunk)).1) ∧
      next.reported = before.reported ++ invalidLines format (closedLines octets chunk) ∧
      Stands limit true (octets ++ chunk) next := by
  rcases stands.push_fits format fits with ⟨next, pushed, goesOn⟩
  rw [readLines_handled] at pushed
  refine ⟨next, pushed, ?_, (goesOn (readLines_handled format _)).1⟩
  have fits' : ¬before.lineBytes + chunk.length > before.maxLineBytes := by
    rw [stands.limited]
    exact fits
  have taken := taken_takeLines format
    { before with
      lineBytes := before.lineBytes + chunk.length
      decoder := (before.decoder.decode chunk true).1
      tail := before.tail ++ (before.decoder.decode chunk true).2 } []
  have reported := taken.reported stands.handles
  rw [← DshRemote.push_fits format fits', pushed, stands.tail, stands.decodes] at reported
  exact reported

theorem Stands.push_refused (stands : Stands limit true octets before)
    (long : limit < before.lineBytes + chunk.length) :
    before.push format chunk =
      ({ before with lineBytes := before.lineBytes + chunk.length },
        .error (limitExceeded limit)) := by
  rw [push, stands.limited, if_pos long]
  rfl

end Handled

end LineDecoder

end DshRemote
