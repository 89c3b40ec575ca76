import DshRemote.Core.FramingRoundTrip
import DshRemote.Foundation.AsciiOctets
import DshRemote.Foundation.Execution
import Mathlib.Data.List.DropRight

/-! # The limit of a line

What a stream yields is a matter of its octets alone: the values of its lines up to the first
one that is longer than the limit. A decoder that gets the stream in chunks compares the limit
with the octets it has counted for the unfinished line and all octets of the next chunk. Which
octets these are depends on where the stream is cut. -/

namespace DshRemote

open Framing

variable {Number : Type} (format : Json.NumberFormat Number)

/-! ## What a stream yields -/

def lineFeed : Octet := 0x0A

/-- A line is longer than the limit. The octet that ends a line is one of its octets. -/
def HasLongLine (limit : Nat) (octets : List Octet) : Prop :=
  (∃ line ∈ (Lines.cut lineFeed octets).1, limit < line.length + 1) ∨
    limit < (Lines.cut lineFeed octets).2.length

instance (limit : Nat) (octets : List Octet) : Decidable (HasLongLine limit octets) :=
  instDecidableOr

/-- How many lines end before the first one that is too long. -/
def shortLines (limit : Nat) (octets : List Octet) : Nat :=
  ((Lines.cut lineFeed octets).1.takeWhile fun line => line.length + 1 ≤ limit).length

def textLines (octets : List Octet) : List Text :=
  (Lines.cut newline (Utf8.TextDecoder.textOf octets)).1

/-- The text that has been read behind the last line feed. A character whose last octets have
not come is not in it. -/
def openText (octets : List Octet) : Text :=
  (Lines.cut newline (Utf8.TextDecoder.textOf octets)).2

/-- What is counted for the unfinished line of a stream that has come in chunks: for the chunks
up to the last one with a line feed, the octets that their open text takes when it is encoded
again, and every octet of the chunks behind that one. -/
def openOctets (chunks : List (List Octet)) : Nat :=
  (Utf8.encode (openText (chunks.rdropWhile (·.all (· ≠ lineFeed))).flatten)).length +
    (chunks.rtakeWhile (·.all (· ≠ lineFeed))).flatten.length

/-- The values of lines, up to one that is no JSON unless a handler takes it. -/
def readLines (onInvalidLine : Bool) : List Text → List (Json Number) × Option Text
  | [] => ([], none)
  | raw :: later =>
      if IsBlank raw then readLines onInvalidLine later
      else
        match Json.parse format raw with
        | some value =>
            (value :: (readLines onInvalidLine later).1, (readLines onInvalidLine later).2)
        | none => if onInvalidLine then readLines onInvalidLine later else ([], some raw)

/-- The lines that are no JSON. -/
def invalidLines (lines : List Text) : List Text :=
  lines.filter fun raw => decide (¬IsBlank raw) && (Json.parse format raw).isNone

namespace LineDecoder

def limitExceeded (limit : Nat) : Failure :=
  .protocol ("framing line exceeds the " ++ toString limit ++ "-byte limit")

/-- What ends the lines that were read. -/
def failureOf (limit : Nat) (stopped : Option Text) (long : Bool) : Option Failure :=
  match stopped with
  | some raw => some (.invalidJson raw)
  | none => if long then some (limitExceeded limit) else none

/-- The values of a stream and what ends it, however it comes. -/
def expected (limit : Nat) (onInvalidLine : Bool) (octets : List Octet) :
    List (Json Number) × Option Failure :=
  let read := readLines format onInvalidLine ((textLines octets).take (shortLines limit octets))
  (read.1, failureOf limit read.2 (HasLongLine limit octets))

/-- The values that the calls of `push` return, and the error of the call that throws. -/
def decodeAll (self : LineDecoder) :
    List (List Octet) → List (Json Number) × Option Failure
  | [] => ([], none)
  | chunk :: later =>
      match self.push format chunk with
      | (_, .error failure) => ([], some failure)
      | (next, .ok out) => (out ++ (next.decodeAll later).1, (next.decodeAll later).2)

/-- A call of `push` that returns. -/
def pushStep (self : LineDecoder) (chunk : List Octet) : Option LineDecoder :=
  match self.push format chunk with
  | (next, .ok _) => some next
  | (_, .error _) => none

end LineDecoder

/-! ## Lines of octets and lines of text -/

theorem length_textLines (octets : List Octet) :
    (textLines octets).length = (Lines.cut lineFeed octets).1.length := by
  rw [textLines, Lines.length_cut, Lines.length_cut]
  exact @Utf8.TextDecoder.count_textOf octets lineFeed (by decide)

/-- The lines that a chunk closes. -/
def closedLines (octets chunk : List Octet) : List Text :=
  (Lines.cut newline (openText octets ++
    ((Utf8.TextDecoder.after octets).decode chunk true).2)).1

theorem cut_textOf_append (octets chunk : List Octet) :
    Lines.cut newline (Utf8.TextDecoder.textOf (octets ++ chunk)) =
      (textLines octets ++ closedLines octets chunk,
        (Lines.cut newline (openText octets ++
          ((Utf8.TextDecoder.after octets).decode chunk true).2)).2) := by
  rw [(Utf8.TextDecoder.decode_after octets chunk).2, Lines.cut_append]
  rfl

theorem textLines_append (octets chunk : List Octet) :
    textLines (octets ++ chunk) = textLines octets ++ closedLines octets chunk := by
  rw [textLines, cut_textOf_append]

theorem openText_append (octets chunk : List Octet) :
    openText (octets ++ chunk) = (Lines.cut newline (openText octets ++
      ((Utf8.TextDecoder.after octets).decode chunk true).2)).2 := by
  rw [openText, cut_textOf_append]

theorem length_closedLines (octets chunk : List Octet) :
    (closedLines octets chunk).length = chunk.count lineFeed := by
  have all := length_textLines (octets ++ chunk)
  rw [textLines_append, List.length_append, length_textLines, Lines.length_cut, Lines.length_cut,
    List.count_append] at all
  exact Nat.add_left_cancel all

theorem newline_mem_iff (octets chunk : List Octet) :
    newline ∈ openText octets ++ ((Utf8.TextDecoder.after octets).decode chunk true).2 ↔
      lineFeed ∈ chunk := by
  rw [← List.count_pos_iff, ← List.count_pos_iff, ← Lines.length_cut, ← length_closedLines,
    closedLines]

theorem openOctets_append (chunks : List (List Octet)) (chunk : List Octet) :
    openOctets (chunks ++ [chunk]) =
      if lineFeed ∈ chunk then (Utf8.encode (openText (chunks.flatten ++ chunk))).length
      else openOctets chunks + chunk.length := by
  rw [openOctets, List.rdropWhile_concat, List.rtakeWhile_concat]
  by_cases closed : lineFeed ∈ chunk
  · have lineEnds : ¬chunk.all (· ≠ lineFeed) = true := by simpa using closed
    rw [if_neg lineEnds, if_neg lineEnds, if_pos closed, List.flatten_concat]
    rfl
  · have goesOn : chunk.all (· ≠ lineFeed) = true := by
      rw [List.all_eq_true]
      exact fun octet member => decide_eq_true (ne_of_mem_of_not_mem member closed)
    rw [if_pos goesOn, if_pos goesOn, if_neg closed, List.flatten_concat, List.length_append,
      ← Nat.add_assoc, openOctets]

/-- Lines that are read on from where others stopped, unless they stopped. -/
theorem readLines_append (onInvalidLine : Bool) (first second : List Text) :
    readLines format onInvalidLine (first ++ second) =
      match (readLines format onInvalidLine first).2 with
      | some raw => ((readLines format onInvalidLine first).1, some raw)
      | none => ((readLines format onInvalidLine first).1 ++
          (readLines format onInvalidLine second).1, (readLines format onInvalidLine second).2) := by
  induction first with
  | nil => rfl
  | cons raw later induction =>
      rw [List.cons_append, readLines, readLines]
      split
      · exact induction
      · split
        · next value parsed =>
            rw [induction]
            cases (readLines format onInvalidLine later).2 <;> rfl
        · split
          · exact induction
          · rfl

theorem readLines_handled (lines : List Text) : (readLines format true lines).2 = none := by
  induction lines with
  | nil => rfl
  | cons raw later induction =>
      rw [readLines]
      split
      · exact induction
      · split <;> exact induction

theorem shortLines_le (limit : Nat) (octets : List Octet) :
    shortLines limit octets ≤ (textLines octets).length := by
  rw [length_textLines]
  exact (List.takeWhile_prefix _).length_le

theorem shortLines_of_notLong {limit : Nat} {octets : List Octet}
    (short : ¬HasLongLine limit octets) : shortLines limit octets = (textLines octets).length := by
  rw [length_textLines, shortLines, List.takeWhile_eq_self_iff.mpr]
  intro line member
  rw [decide_eq_true_eq]
  exact Nat.le_of_not_lt fun long => short (Or.inl ⟨line, member, long⟩)

theorem le_shortLines {limit : Nat} {octets : List Octet} (short : ¬HasLongLine limit octets)
    (more : List Octet) : (textLines octets).length ≤ shortLines limit (octets ++ more) := by
  have allShort : ∀ line ∈ (Lines.cut lineFeed octets).1, decide (line.length + 1 ≤ limit) := by
    intro line member
    rw [decide_eq_true_eq]
    exact Nat.le_of_not_lt fun longer => short (Or.inl ⟨line, member, longer⟩)
  rw [length_textLines, shortLines, Lines.cut_append, List.takeWhile_append_of_pos allShort,
    List.length_append]
  exact Nat.le_add_right _ _

theorem long_append {limit : Nat} {octets : List Octet} (long : HasLongLine limit octets)
    (more : List Octet) :
    HasLongLine limit (octets ++ more) ∧
      shortLines limit (octets ++ more) = shortLines limit octets := by
  rw [HasLongLine, shortLines, shortLines, Lines.cut_append]
  by_cases closed : ∃ line ∈ (Lines.cut lineFeed octets).1, limit < line.length + 1
  · rcases closed with ⟨line, member, tooLong⟩
    refine ⟨Or.inl ⟨line, List.mem_append_left _ member, tooLong⟩, ?_⟩
    rw [List.takeWhile_append, if_neg]
    intro whole
    have all := List.takeWhile_eq_self_iff.mp ((List.takeWhile_prefix _).eq_of_length whole)
    have short := of_decide_eq_true (all line member)
    omega
  · have tooLong := long.resolve_left closed
    have allShort : ∀ line ∈ (Lines.cut lineFeed octets).1, decide (line.length + 1 ≤ limit) := by
      intro line member
      rw [decide_eq_true_eq]
      exact Nat.le_of_not_lt fun longer => closed ⟨line, member, longer⟩
    rw [List.takeWhile_append_of_pos allShort, List.takeWhile_eq_self_iff.mpr allShort]
    rcases Lines.cut_open (Lines.cut_absent lineFeed octets).2 more with
      ⟨none, rest⟩ | ⟨line, later, first⟩
    · rw [none, rest, List.length_append]
      exact ⟨Or.inr (by omega), by rw [List.takeWhile_nil, List.append_nil]⟩
    · have firstLong : limit < ((Lines.cut lineFeed octets).2 ++ line).length + 1 := by
        rw [List.length_append]
        omega
      rw [first, List.takeWhile_cons_of_neg (by rw [decide_eq_true_eq]; omega), List.append_nil]
      exact ⟨Or.inl ⟨_, List.mem_append_right _ List.mem_cons_self, firstLong⟩, rfl⟩

/-! ## What has ended a stream ends every longer one -/

namespace LineDecoder

theorem failureOf_none {limit : Nat} {stopped : Option Text} {long : Bool} :
    failureOf limit stopped long = none ↔ stopped = none ∧ long = false := by
  cases stopped <;> cases long <;> simp [failureOf]

theorem expected_of_notLong {limit : Nat} {octets : List Octet}
    (short : ¬HasLongLine limit octets) (onInvalidLine : Bool) :
    expected format limit onInvalidLine octets =
      ((readLines format onInvalidLine (textLines octets)).1,
        (readLines format onInvalidLine (textLines octets)).2.map Failure.invalidJson) := by
  rw [expected, shortLines_of_notLong short, List.take_length, decide_eq_false short]
  cases (readLines format onInvalidLine (textLines octets)).2 <;> rfl

/-- The lines of a chunk before the first one that is too long. -/
def newLines (limit : Nat) (octets chunk : List Octet) : List Text :=
  ((textLines (octets ++ chunk)).take (shortLines limit (octets ++ chunk))).drop
    (textLines octets).length

theorem expected_append {limit : Nat} {octets : List Octet}
    (short : ¬HasLongLine limit octets) (onInvalidLine : Bool) (chunk : List Octet) :
    expected format limit onInvalidLine (octets ++ chunk) =
      ((readLines format onInvalidLine (textLines octets ++ newLines limit octets chunk)).1,
        failureOf limit
          (readLines format onInvalidLine (textLines octets ++ newLines limit octets chunk)).2
          (HasLongLine limit (octets ++ chunk))) := by
  have split : (textLines (octets ++ chunk)).take (shortLines limit (octets ++ chunk)) =
      textLines octets ++ newLines limit octets chunk := by
    have first : ((textLines (octets ++ chunk)).take (shortLines limit (octets ++ chunk))).take
        (textLines octets).length = textLines octets := by
      rw [List.take_take, Nat.min_eq_left (le_shortLines short chunk), textLines_append,
        List.take_left]
    exact (List.take_append_drop _ _).symm.trans (by rw [first, newLines])
  rw [expected, split]

theorem expected_failed {limit : Nat} {onInvalidLine : Bool} {octets : List Octet}
    (failed : (expected format limit onInvalidLine octets).2 ≠ none) (more : List Octet) :
    expected format limit onInvalidLine (octets ++ more) =
      expected format limit onInvalidLine octets := by
  by_cases long : HasLongLine limit octets
  · rcases long_append long more with ⟨stillLong, same⟩
    rw [expected, expected, same, textLines_append,
      List.take_append_of_le_length (shortLines_le limit octets), decide_eq_true long,
      decide_eq_true stillLong]
  · rw [expected_of_notLong format long] at failed ⊢
    rw [expected_append format long, readLines_append]
    cases stopped : (readLines format onInvalidLine (textLines octets)).2 with
    | none => exact absurd (by rw [stopped]; rfl) failed
    | some raw => rfl

/-! ## One call -/

/-- A decoder that has returned for a part of a stream. -/
structure Stands (limit : Nat) (onInvalidLine : Bool) (octets : List Octet)
    (decoder : LineDecoder) : Prop where
  decodes : decoder.decoder = Utf8.TextDecoder.after octets
  tail : decoder.tail = openText octets
  limited : decoder.maxLineBytes = limit
  handles : decoder.onInvalidLine = onInvalidLine

/-- It has counted what is open of the chunks. -/
def Counts (limit : Nat) (onInvalidLine : Bool) (first : List (List Octet))
    (decoder : LineDecoder) : Prop :=
  Stands limit onInvalidLine first.flatten decoder ∧ decoder.lineBytes = openOctets first

theorem invalidLines_cons_neg {raw : Text} (lines : List Text)
    (valid : IsBlank raw ∨ (Json.parse format raw).isSome) :
    invalidLines format (raw :: lines) = invalidLines format lines := by
  refine List.filter_cons_of_neg ?_
  rcases valid with blank | parsed
  · rw [decide_eq_false (not_not_intro blank)]
    exact Bool.false_ne_true
  · rw [Option.isNone_eq_false_iff.mpr parsed, Bool.and_false]
    exact Bool.false_ne_true

/-- The lines of a tail were read, those that are no JSON given to the handler, and its open rest
was left. -/
structure Taken (decoder : LineDecoder) (out : List (Json Number))
    (result : LineDecoder × Except Failure (List (Json Number))) : Prop where
  decodes : result.1.decoder = decoder.decoder
  limited : result.1.maxLineBytes = decoder.maxLineBytes
  handles : result.1.onInvalidLine = decoder.onInvalidLine
  returned : result.2 =
    let read := readLines format decoder.onInvalidLine (Lines.cut newline decoder.tail).1
    match read.2 with
    | none => .ok (out ++ read.1)
    | some raw => .error (.invalidJson raw)
  reported : decoder.onInvalidLine = true → result.1.reported =
    decoder.reported ++ invalidLines format (Lines.cut newline decoder.tail).1
  kept : newline ∉ decoder.tail → result.1.lineBytes = decoder.lineBytes
  rest : (readLines format decoder.onInvalidLine (Lines.cut newline decoder.tail).1).2 = none →
    result.1.tail = (Lines.cut newline decoder.tail).2 ∧
      (newline ∈ decoder.tail ∨ decoder.lineBytes = (Utf8.encode decoder.tail).length →
        result.1.lineBytes = (Utf8.encode (Lines.cut newline decoder.tail).2).length)

theorem taken_takeLines (decoder : LineDecoder) (out : List (Json Number)) :
    Taken format decoder out (decoder.takeLines format out) := by
  induction decoder, out using LineDecoder.takeLines.induct format with
  | case1 decoder out present nl raw tail next blank induction =>
      rw [takeLines, dif_pos present]
      dsimp only
      rw [if_pos blank]
      refine ⟨induction.decodes, induction.limited, induction.handles, ?_, ?_,
        fun absent => absurd present absent, ?_⟩
      · rw [induction.returned, Lines.cut_of_mem present, readLines, if_pos blank]
      · intro handles
        rw [induction.reported handles, Lines.cut_of_mem present,
          invalidLines_cons_neg format _ (Or.inl blank)]
      · rw [Lines.cut_of_mem present, readLines, if_pos blank]
        exact fun goesOn => (induction.rest goesOn).imp_right fun counted _ => counted (Or.inr rfl)
  | case2 decoder out present nl raw tail next notBlank value parsed induction =>
      have read : readLines format decoder.onInvalidLine (Lines.cut newline decoder.tail).1 =
          (value :: (readLines format next.onInvalidLine (Lines.cut newline next.tail).1).1,
            (readLines format next.onInvalidLine (Lines.cut newline next.tail).1).2) := by
        rw [Lines.cut_of_mem present, readLines, if_neg notBlank]
        simp only [nl, raw] at parsed
        simp only [parsed, next, tail, nl]
      rw [takeLines, dif_pos present]
      dsimp only
      rw [if_neg notBlank, parsed]
      refine ⟨induction.decodes, induction.limited, induction.handles, ?_, ?_,
        fun absent => absurd present absent, ?_⟩
      · rw [induction.returned, read]
        dsimp only
        cases (readLines format next.onInvalidLine (Lines.cut newline next.tail).1).2 with
        | none => dsimp only; rw [List.append_assoc, List.singleton_append]
        | some stopped => rfl
      · intro handles
        rw [induction.reported handles, Lines.cut_of_mem present,
          invalidLines_cons_neg format _ (Or.inr (Option.isSome_of_mem parsed))]
      · rw [read, Lines.cut_of_mem present]
        exact fun goesOn => (induction.rest goesOn).imp_right fun counted _ => counted (Or.inr rfl)
  | case3 decoder out present nl raw tail next notBlank invalid handled induction =>
      have read : readLines format decoder.onInvalidLine (Lines.cut newline decoder.tail).1 =
          readLines format next.onInvalidLine (Lines.cut newline next.tail).1 := by
        rw [Lines.cut_of_mem present, readLines, if_neg notBlank]
        simp only [nl, raw] at invalid
        simp only [invalid, handled, if_true, next, tail, nl]
      rw [takeLines, dif_pos present]
      dsimp only
      rw [if_neg notBlank, invalid]
      dsimp only
      rw [if_pos handled]
      refine ⟨induction.decodes, induction.limited, induction.handles, ?_, ?_,
        fun absent => absurd present absent, ?_⟩
      · rw [induction.returned, read]
      · intro handles
        rw [induction.reported handles, Lines.cut_of_mem present, List.append_assoc,
          List.singleton_append]
        refine congrArg (decoder.reported ++ ·) (List.filter_cons_of_pos ?_).symm
        rw [decide_eq_true notBlank, Bool.true_and]
        exact Option.isNone_iff_eq_none.mpr invalid
      · rw [read, Lines.cut_of_mem present]
        exact fun goesOn => (induction.rest goesOn).imp_right fun counted _ => counted (Or.inr rfl)
  | case4 decoder out present nl raw notBlank invalid unhandled =>
      have read : readLines format decoder.onInvalidLine (Lines.cut newline decoder.tail).1 =
          ([], some raw) := by
        rw [Lines.cut_of_mem present, readLines, if_neg notBlank]
        simp only [nl, raw] at invalid ⊢
        simp only [invalid, unhandled, Bool.false_eq_true, if_false]
      rw [takeLines, dif_pos present]
      dsimp only
      rw [if_neg notBlank, invalid]
      dsimp only
      rw [if_neg unhandled]
      refine ⟨rfl, rfl, rfl, ?_, fun handles => absurd handles unhandled,
        fun absent => absurd present absent, ?_⟩
      · rw [read]
      · intro goesOn
        rw [read] at goesOn
        cases goesOn
  | case5 decoder out absent =>
      rw [takeLines_done format absent]
      refine ⟨rfl, rfl, rfl, ?_, ?_, fun _ => rfl, ?_⟩
      · rw [Lines.cut_of_notMem absent]
        simp only [readLines, List.append_nil]
      · rw [Lines.cut_of_notMem absent]
        exact fun _ => (List.append_nil _).symm
      · rw [Lines.cut_of_notMem absent]
        exact fun _ => ⟨rfl, fun counted => counted.resolve_left absent⟩

/-- The octets of the chunk and those counted for the unfinished line fit into the limit, unless
a line is too long. Then the chunk closes no line with a value before that one, nor before one
that stops the decoder. -/
def PushFits (limit : Nat) (onInvalidLine : Bool) (first : List (List Octet))
    (chunk : List Octet) : Prop :=
  let read := readLines format onInvalidLine (newLines limit first.flatten chunk)
  (limit < openOctets first + chunk.length ↔
    read.2 = none ∧ HasLongLine limit (first.flatten ++ chunk)) ∧
  (read.2 ≠ none ∨ HasLongLine limit (first.flatten ++ chunk) → read.1 = [])

section Push

variable {limit : Nat} {onInvalidLine : Bool} {octets chunk : List Octet} {before : LineDecoder}

theorem Stands.push_long (stands : Stands limit onInvalidLine octets before)
    (long : limit < before.lineBytes + chunk.length) :
    ∃ next, before.push format chunk = (next, .error (limitExceeded limit)) := by
  rw [push, stands.limited, if_pos long]
  exact ⟨_, rfl⟩

theorem Stands.push_fits (stands : Stands limit onInvalidLine octets before)
    (fits : ¬limit < before.lineBytes + chunk.length) :
    ∃ next, before.push format chunk =
        (next, match (readLines format onInvalidLine (closedLines octets chunk)).2 with
          | none => .ok (readLines format onInvalidLine (closedLines octets chunk)).1
          | some raw => .error (.invalidJson raw)) ∧
      ((readLines format onInvalidLine (closedLines octets chunk)).2 = none →
        Stands limit onInvalidLine (octets ++ chunk) next ∧
          next.lineBytes =
            if lineFeed ∈ chunk then (Utf8.encode (openText (octets ++ chunk))).length
            else before.lineBytes + chunk.length) := by
  have fits' : ¬before.lineBytes + chunk.length > before.maxLineBytes := by
    rw [stands.limited]
    exact fits
  have taken := taken_takeLines format
    { before with
      lineBytes := before.lineBytes + chunk.length
      decoder := (before.decoder.decode chunk true).1
      tail := before.tail ++ (before.decoder.decode chunk true).2 } []
  rw [DshRemote.push_fits format fits']
  generalize LineDecoder.takeLines format _ [] = result at taken ⊢
  rcases result with ⟨next, returned⟩
  rcases taken with ⟨decodes, limited, handles, isReturned, _, kept, rest⟩
  dsimp only at decodes limited handles isReturned kept rest
  rw [stands.tail, stands.decodes, stands.handles] at isReturned rest
  rw [stands.tail, stands.decodes, newline_mem_iff] at kept
  rw [newline_mem_iff, ← openText_append] at rest
  rw [stands.decodes, (Utf8.TextDecoder.decode_after octets chunk).1] at decodes
  refine ⟨next, ?_, fun goesOn => ⟨⟨decodes, (rest goesOn).1, limited.trans stands.limited,
    handles.trans stands.handles⟩, ?_⟩⟩
  · rw [isReturned, closedLines]
    rfl
  · split
    · next closed => exact (rest goesOn).2 (Or.inl closed)
    · next isOpen => exact kept isOpen

theorem newLines_prefix (limit : Nat) (octets chunk : List Octet) :
    newLines limit octets chunk <+: closedLines octets chunk := by
  rw [newLines, textLines_append, List.drop_take, List.drop_left]
  exact List.take_prefix _ _

theorem newLines_of_notLong (short : ¬HasLongLine limit (octets ++ chunk)) :
    newLines limit octets chunk = closedLines octets chunk := by
  rw [newLines, shortLines_of_notLong short, List.take_length, textLines_append, List.drop_left]

/-- What one call adds is what the chunk is expected to add exactly when the chunk fits. -/
theorem Counts.decodes_iff {first : List (List Octet)}
    (counts : Counts limit onInvalidLine first before)
    (short : ¬HasLongLine limit first.flatten)
    (goesOn : (readLines format onInvalidLine (textLines first.flatten)).2 = none)
    (chunk : List Octet) :
    ((expected format limit onInvalidLine first.flatten).1 ++
          (before.decodeAll format [chunk]).1,
        (before.decodeAll format [chunk]).2) =
      expected format limit onInvalidLine (first.flatten ++ chunk) ↔
    PushFits format limit onInvalidLine first chunk := by
  rcases counts with ⟨stands, counted⟩
  rw [expected_append format short, readLines_append, goesOn, expected_of_notLong format short,
    PushFits, ← counted, Prod.mk.injEq, List.append_cancel_left_eq]
  by_cases long : limit < before.lineBytes + chunk.length
  · rcases stands.push_long format long with ⟨next, pushed⟩
    have added : before.decodeAll format [chunk] = ([], some (limitExceeded limit)) := by
      rw [decodeAll, pushed]
    rw [added, iff_true_left long]
    generalize readLines format onInvalidLine (newLines limit first.flatten chunk) = read
    rcases read with ⟨values, stopped⟩
    cases stopped with
    | some raw => simp [failureOf, limitExceeded]
    | none =>
        by_cases isLong : HasLongLine limit (first.flatten ++ chunk)
        · simp only [failureOf, isLong, decide_true, if_true, and_true, true_and, or_true,
            true_implies, eq_comm]
        · simp [failureOf, isLong]
  · rcases stands.push_fits format long with ⟨next, pushed, _⟩
    have added : before.decodeAll format [chunk] =
        match (readLines format onInvalidLine (closedLines first.flatten chunk)).2 with
        | none => ((readLines format onInvalidLine (closedLines first.flatten chunk)).1, none)
        | some raw => ([], some (.invalidJson raw)) := by
      rw [decodeAll, pushed]
      cases (readLines format onInvalidLine (closedLines first.flatten chunk)).2 with
      | none => simp only [decodeAll, List.append_nil]
      | some raw => rfl
    rw [added, iff_false_left long]
    by_cases isLong : HasLongLine limit (first.flatten ++ chunk)
    · rcases newLines_prefix limit first.flatten chunk with ⟨more, closed⟩
      rw [← closed, readLines_append]
      generalize readLines format onInvalidLine (newLines limit first.flatten chunk) = read
      rcases read with ⟨values, stopped⟩
      cases stopped with
      | some raw => simp [failureOf, isLong, eq_comm]
      | none =>
          refine iff_of_false ?_ (fun both => both.1 ⟨rfl, isLong⟩)
          rintro ⟨_, failed⟩
          cases stops : (readLines format onInvalidLine more).2 with
          | none => simp [stops, failureOf, isLong] at failed
          | some raw => simp [stops, failureOf, isLong, limitExceeded] at failed
    · rw [newLines_of_notLong isLong]
      generalize readLines format onInvalidLine (closedLines first.flatten chunk) = read
      rcases read with ⟨values, stopped⟩
      cases stopped with
      | some raw => simp [failureOf, isLong, eq_comm]
      | none => simp [failureOf, isLong]

end Push

/-! ## All calls -/

theorem decodeAll_append {self before : LineDecoder} {first : List (List Octet)}
    (reached : Execution.run (pushStep format) self first = some before)
    (later : List (List Octet)) :
    self.decodeAll format (first ++ later) =
        ((self.decodeAll format first).1 ++ (before.decodeAll format later).1,
          (before.decodeAll format later).2) ∧
      (self.decodeAll format first).2 = none := by
  induction first generalizing self with
  | nil =>
      cases reached
      exact ⟨rfl, rfl⟩
  | cons chunk rest induction =>
      rw [Execution.run_cons, pushStep] at reached
      rw [List.cons_append, decodeAll, decodeAll]
      generalize self.push format chunk = pushed at reached ⊢
      rcases pushed with ⟨next, out | out⟩
      · cases reached
      · rcases induction reached with ⟨values, goesOn⟩
        simp only [values, goesOn, List.append_assoc, and_self]

theorem run_of_decodeAll {self : LineDecoder} {chunks : List (List Octet)}
    (returned : (self.decodeAll format chunks).2 = none) :
    ∃ last, Execution.run (pushStep format) self chunks = some last := by
  induction chunks generalizing self with
  | nil => exact ⟨self, rfl⟩
  | cons chunk rest induction =>
      rw [decodeAll] at returned
      rw [Execution.run_cons, pushStep]
      generalize self.push format chunk = pushed at returned ⊢
      rcases pushed with ⟨next, failure | out⟩
      · cases returned
      · exact induction returned

theorem decodeAll_failed {self : LineDecoder} {first : List (List Octet)}
    (failed : (self.decodeAll format first).2 ≠ none) (later : List (List Octet)) :
    self.decodeAll format (first ++ later) = self.decodeAll format first := by
  induction first generalizing self with
  | nil => exact absurd rfl failed
  | cons chunk rest induction =>
      rw [List.cons_append, decodeAll]
      rw [decodeAll] at failed ⊢
      generalize self.push format chunk = pushed at failed ⊢
      rcases pushed with ⟨next, failure | out⟩
      · rfl
      · simp only [induction failed]

section Runs

variable {limit : Nat} {onInvalidLine : Bool}

theorem stands_create (limit : Nat) (onInvalidLine : Bool) :
    Stands limit onInvalidLine [] (create limit onInvalidLine) :=
  ⟨rfl, rfl, rfl, rfl⟩

theorem Counts.step {first : List (List Octet)} {chunk : List Octet} {before next : LineDecoder}
    (counts : Counts limit onInvalidLine first before)
    (stepped : before.pushStep format chunk = some next) :
    Counts limit onInvalidLine (first ++ [chunk]) next := by
  rcases counts with ⟨stands, counted⟩
  rw [pushStep] at stepped
  by_cases long : limit < before.lineBytes + chunk.length
  · rcases stands.push_long format long with ⟨other, pushed⟩
    rw [pushed] at stepped
    cases stepped
  · rcases stands.push_fits format long with ⟨other, pushed, stands⟩
    rw [pushed] at stepped
    cases stops : (readLines format onInvalidLine (closedLines first.flatten chunk)).2 with
    | none =>
        rw [stops] at stepped
        cases stepped
        rw [Counts, List.flatten_concat, openOctets_append, ← counted]
        exact stands stops
    | some raw =>
        rw [stops] at stepped
        cases stepped

theorem run_counts {chunks : List (List Octet)} {last : LineDecoder}
    (reached : Execution.run (pushStep format) (create limit onInvalidLine) chunks = some last) :
    Counts limit onInvalidLine chunks last :=
  Execution.history_invariant (Counts limit onInvalidLine)
    ⟨stands_create limit onInvalidLine, rfl⟩
    (fun counts stepped => counts.step format stepped) reached

end Runs

/-- A decoder that is created for a limit decodes a stream as far as it has come, whatever the
chunks are, in the values of the lines up to the first one that is too long, exactly when every
chunk fits before which nothing in the stream ends it. -/
theorem decodes_expected_iff (limit : Nat) (onInvalidLine : Bool) (chunks : List (List Octet)) :
    (∀ part, part <+: chunks →
      (create limit onInvalidLine).decodeAll format part =
        expected format limit onInvalidLine part.flatten) ↔
    ∀ first chunk later, chunks = first ++ chunk :: later →
      (expected format limit onInvalidLine first.flatten).2 = none →
        PushFits format limit onInvalidLine first chunk := by
  have fits_iff : ∀ first chunk,
      (expected format limit onInvalidLine first.flatten).2 = none →
      (create limit onInvalidLine).decodeAll format first =
        expected format limit onInvalidLine first.flatten →
      ((create limit onInvalidLine).decodeAll format (first ++ [chunk]) =
          expected format limit onInvalidLine (first ++ [chunk]).flatten ↔
        PushFits format limit onInvalidLine first chunk) := by
    intro first chunk noneExpected agrees
    rcases run_of_decodeAll format ((congrArg Prod.snd agrees).trans noneExpected) with
      ⟨before, reached⟩
    rcases decodeAll_append format reached [chunk] with ⟨values, _⟩
    rw [expected, failureOf_none, decide_eq_false_iff_not] at noneExpected
    rcases noneExpected with ⟨notStopped, short⟩
    rw [shortLines_of_notLong short, List.take_length] at notStopped
    rw [values, List.flatten_concat, agrees]
    exact (run_counts format reached).decodes_iff format short notStopped chunk
  constructor
  · intro agrees first chunk later split goesOn
    have beforeChunk : first <+: chunks := ⟨chunk :: later, split.symm⟩
    have withChunk : first ++ [chunk] <+: chunks := ⟨later, by rw [split]; simp⟩
    exact (fits_iff first chunk goesOn (agrees first beforeChunk)).mp
      (agrees (first ++ [chunk]) withChunk)
  · intro fits part
    induction part using List.reverseRecOn with
    | nil =>
        intro _
        have short : ¬HasLongLine limit [] := by simp [HasLongLine, Lines.cut]
        rw [List.flatten_nil, expected_of_notLong format short]
        rfl
    | append_singleton first chunk induction =>
        intro within
        have agrees := induction ((List.prefix_append first [chunk]).trans within)
        rcases within with ⟨later, split⟩
        by_cases goesOn : (expected format limit onInvalidLine first.flatten).2 = none
        · exact (fits_iff first chunk goesOn agrees).mpr
            (fits first chunk later (by rw [← split]; simp) goesOn)
        · rw [decodeAll_failed format (by rw [agrees]; exact goesOn), agrees,
            List.flatten_concat, expected_failed format goesOn]

/-- Two lines of two octets in one chunk. -/
def twoLines : List Octet := [0x31, 0x0A, 0x32, 0x0A]

/-- A decoder for lines of at most three octets rejects them, and takes them when they come in
two chunks. -/
theorem decodeAll_twoLines :
    ¬HasLongLine 3 twoLines ∧
      (create 3 true).decodeAll Json.integers [twoLines] = ([], some (limitExceeded 3)) ∧
      ((create 3 true).decodeAll Json.integers [twoLines.take 2, twoLines.drop 2]).2 = none := by
  refine ⟨by decide, ?_, ?_⟩
  · rcases (stands_create 3 true).push_long Json.integers
      (show 3 < (create 3 true).lineBytes + twoLines.length by decide) with ⟨next, pushed⟩
    rw [decodeAll, pushed]
  · rcases (stands_create 3 true).push_fits Json.integers
      (show ¬3 < (create 3 true).lineBytes + (twoLines.take 2).length by decide) with
      ⟨next, first, goesOn⟩
    rcases goesOn (readLines_handled Json.integers _) with ⟨stands, counted⟩
    have fits : ¬3 < next.lineBytes + (twoLines.drop 2).length := by
      rw [counted]
      decide +kernel
    rcases stands.push_fits Json.integers fits with ⟨last, second, _⟩
    rw [readLines_handled] at first second
    rw [decodeAll, first]
    dsimp only
    rw [decodeAll, second]
    rfl

end LineDecoder

end DshRemote
