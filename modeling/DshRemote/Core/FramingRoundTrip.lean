import DshRemote.Core.Framing
import DshRemote.Foundation.JsonText
import DshRemote.Foundation.JsonIntegers

/-! # Values through a stream in chunks

The decoder after a part of a stream is determined by that part: however it was divided,
the decoder of the octets stands where it stands after them, and the tail is what their
text leaves open. -/

namespace DshRemote

open Framing

variable {Number : Type} (format : Json.NumberFormat Number)

/-! ## The loop over the lines -/

/-- A line that yields a value. -/
def Readable (raw : Text) : Prop := ¬IsBlank raw ∧ (Json.parse format raw).isSome

instance (raw : Text) : Decidable (Readable format raw) := instDecidableAnd

theorem takeLines_done {decoder : LineDecoder} (absent : newline ∉ decoder.tail)
    (out : List (Json Number)) : decoder.takeLines format out = (decoder, .ok out) := by
  rw [LineDecoder.takeLines, dif_neg absent]

theorem takeLines_value {decoder : LineDecoder} (present : newline ∈ decoder.tail)
    {value : Json Number} (notBlank : ¬IsBlank (decoder.tail.take (decoder.tail.idxOf newline)))
    (parsed : Json.parse format (decoder.tail.take (decoder.tail.idxOf newline)) = some value)
    (out : List (Json Number)) :
    decoder.takeLines format out =
      { decoder with
        tail := decoder.tail.drop (decoder.tail.idxOf newline + 1)
        lineBytes := (Utf8.encode (decoder.tail.drop (decoder.tail.idxOf newline + 1))).length
        }.takeLines format (out ++ [value]) := by
  rw [LineDecoder.takeLines, dif_pos present]
  simp only [notBlank, if_false, parsed]

theorem cut_of_none {text : Text} (lines : (Lines.cut newline text).1 = []) :
    newline ∉ text ∧ (Lines.cut newline text).2 = text := by
  have absent : newline ∉ text := fun present => by
    rw [Lines.cut_of_mem present] at lines
    cases lines
  exact ⟨absent, by rw [Lines.cut_of_notMem absent]⟩

theorem newline_mem_of_cut {text raw : Text} {later : List Text}
    (lines : (Lines.cut newline text).1 = raw :: later) : newline ∈ text := by
  by_contra absent
  rw [Lines.cut_of_notMem absent] at lines
  cases lines

/-- Lines that all yield a value are taken off the tail, and only their rest stays. -/
theorem takeLines_readable (decoder : LineDecoder) (out : List (Json Number))
    (readable : ∀ raw ∈ (Lines.cut newline decoder.tail).1, Readable format raw) :
    ∃ lineBytes,
      decoder.takeLines format out =
        ({ decoder with tail := (Lines.cut newline decoder.tail).2, lineBytes := lineBytes },
          .ok (out ++ (Lines.cut newline decoder.tail).1.filterMap (Json.parse format))) ∧
      ((Lines.cut newline decoder.tail).1 = [] ∧ lineBytes = decoder.lineBytes ∨
        lineBytes = (Utf8.encode (Lines.cut newline decoder.tail).2).length) := by
  induction lines : (Lines.cut newline decoder.tail).1 generalizing decoder out with
  | nil =>
      rcases cut_of_none lines with ⟨absent, rest⟩
      rw [takeLines_done format absent, rest]
      exact ⟨decoder.lineBytes, by rw [List.filterMap_nil, List.append_nil], Or.inl ⟨rfl, rfl⟩⟩
  | cons raw later induction =>
      have present := newline_mem_of_cut lines
      have cutTail := Lines.cut_of_mem present
      rw [cutTail] at lines readable ⊢
      rcases List.cons.inj lines with ⟨isRaw, isLater⟩
      rcases List.forall_mem_cons.mp readable with ⟨first, rest⟩
      rcases Option.isSome_iff_exists.mp first.2 with ⟨value, parsed⟩
      rw [takeLines_value format present first.1 parsed]
      let tail := decoder.tail.drop (decoder.tail.idxOf newline + 1)
      rcases induction { decoder with tail := tail, lineBytes := (Utf8.encode tail).length }
        (out ++ [value]) rest isLater with ⟨lineBytes, taken, counted⟩
      refine ⟨lineBytes, ?_, Or.inr ?_⟩
      · rw [taken, ← isRaw, List.filterMap_cons_some parsed, isLater, List.append_assoc]
        rfl
      · rcases counted with ⟨noMore, counted⟩ | counted
        · rw [counted, (cut_of_none (isLater.trans noMore)).2]
        · exact counted

theorem push_fits {decoder : LineDecoder} {chunk : List Octet}
    (fits : ¬decoder.lineBytes + chunk.length > decoder.maxLineBytes) :
    decoder.push format chunk =
      { decoder with
        lineBytes := decoder.lineBytes + chunk.length
        decoder := (decoder.decoder.decode chunk true).1
        tail := decoder.tail ++ (decoder.decoder.decode chunk true).2 }.takeLines format [] := by
  rw [LineDecoder.push, if_neg fits]

/-! ## The octets of lines -/

theorem encode_newline (later : Text) :
    Utf8.encode (newline :: later) = Utf8.encode [newline] ++ Utf8.encode later := by
  have notHigh : ¬Utf8.IsHigh newline := by decide
  have notLow : ¬Utf8.IsLow newline := by decide
  rw [Utf8.encode, Utf8.encode, Utf8.encode, Utf8.scalars_plain notHigh notLow,
    Utf8.scalars_plain notHigh notLow, ← List.flatMap_append]
  rfl

theorem encode_line (line later : Text) :
    Utf8.encode (line ++ newline :: later) =
      Utf8.encode (line ++ [newline]) ++ Utf8.encode later := by
  have apart : ∀ rest : Text, ∀ unit ∈ (newline :: rest).head?, ¬Utf8.IsLow unit := by
    intro rest unit head
    cases head
    decide
  rw [Utf8.encode_append (apart later), Utf8.encode_append (apart []), encode_newline,
    List.append_assoc]

theorem encode_unite (lines : List Text) (rest : Text) :
    Utf8.encode (Lines.unite newline lines rest) =
      lines.flatMap (fun line => Utf8.encode (line ++ [newline])) ++ Utf8.encode rest := by
  induction lines with
  | nil => rfl
  | cons line lines induction =>
      rw [Lines.unite_cons, encode_line, induction, List.flatMap_cons, List.append_assoc]

theorem length_encode_cut_le (text : Text) :
    (Utf8.encode (Lines.cut newline text).2).length ≤ (Utf8.encode text).length := by
  have united := congrArg Utf8.encode (Lines.unite_cut newline text)
  rw [encode_unite] at united
  rw [← united, List.length_append]
  omega

/-! ## A part of a text -/

/-- A text that a decoder gives back: no lone surrogates, and no byte order mark before it. -/
structure Transparent (text : Text) : Prop where
  wellFormed : Utf8.WellFormed text
  unmarked : ∀ scalar ∈ (Utf8.scalars text).head?, scalar ≠ Utf8.byteOrderMark

/-- The text of a part of the octets is a part of the text, and what is missing of the last
scalar value emits nothing. -/
theorem Transparent.exists_of_prefix {text : Text} (transparent : Transparent text)
    {octets : List Octet} (before : octets <+: Utf8.encode text) :
    ∃ first rest begun, Utf8.scalars text = first ++ rest ∧
      octets = first.flatMap Utf8.encodeScalar ++ begun ∧
      Utf8.TextDecoder.textOf octets = first.flatMap Utf8.units ∧
      (begun = [] ∨ ∃ scalar later, rest = scalar :: later ∧ begun <+: Utf8.encodeScalar scalar ∧
        begun ≠ Utf8.encodeScalar scalar) := by
  rcases Utf8.exists_of_prefix_encode before with ⟨first, rest, begun, values, parts, unfinished⟩
  have valid := Utf8.isScalar_scalars text
  rw [values] at valid
  have unmarked := transparent.unmarked
  rw [values] at unmarked
  have silent : (Utf8.Decoder.idle.feed begun).2 = [] := by
    rcases unfinished with whole | ⟨scalar, later, next, beginning, shorter⟩
    · rw [whole]
      rfl
    · have isScalar : Utf8.IsScalar scalar :=
        valid scalar (by rw [next]; exact List.mem_append_right _ List.mem_cons_self)
      exact ((Utf8.Decoder.reads_encodeScalar isScalar).feed_part beginning shorter).1
  refine ⟨first, rest, begun, values, parts, ?_, unfinished⟩
  rw [Utf8.TextDecoder.textOf, parts, Utf8.Decoder.feed_append,
    Utf8.Decoder.feed_encode fun scalar member => valid scalar (List.mem_append_left _ member),
    silent, List.append_nil]
  cases first with
  | nil => rfl
  | cons scalar more => rw [Utf8.dropMark, if_neg (unmarked scalar rfl)]

theorem Transparent.textOf_prefix {text : Text} (transparent : Transparent text)
    {octets : List Octet} (before : octets <+: Utf8.encode text) :
    Utf8.TextDecoder.textOf octets <+: text ∧
      (Utf8.encode (Utf8.TextDecoder.textOf octets)).length ≤ octets.length := by
  rcases transparent.exists_of_prefix before with ⟨first, rest, begun, values, parts, read, _⟩
  have valid := Utf8.isScalar_scalars text
  rw [values] at valid
  constructor
  · refine ⟨rest.flatMap Utf8.units, ?_⟩
    rw [read, ← List.flatMap_append, ← values]
    exact transparent.wellFormed
  · rw [read, Utf8.encode_flatMap_units fun scalar member =>
      valid scalar (List.mem_append_left _ member), parts, List.length_append]
    omega

/-! ## Pushing a part of a text -/

/-- The decoder after a part of a stream. -/
structure LineDecoder.At (decoder : LineDecoder) (octets : List Octet) : Prop where
  decodes : decoder.decoder = Utf8.TextDecoder.after octets
  tail : decoder.tail = (Lines.cut newline (Utf8.TextDecoder.textOf octets)).2
  lineBytes : decoder.lineBytes ≤ octets.length

section Stream

variable {text : Text} (transparent : Transparent text)
  (readable : ∀ raw ∈ (Lines.cut newline text).1, Readable format raw)

include transparent readable

theorem LineDecoder.At.push {decoder : LineDecoder} {octets chunk : List Octet}
    (holds : decoder.At octets) (before : octets ++ chunk <+: Utf8.encode text)
    (fits : (octets ++ chunk).length ≤ decoder.maxLineBytes) :
    ∃ next out, decoder.push format chunk = (next, .ok out) ∧ next.At (octets ++ chunk) ∧
      next.maxLineBytes = decoder.maxLineBytes ∧
      (Lines.cut newline (Utf8.TextDecoder.textOf (octets ++ chunk))).1.filterMap
          (Json.parse format) =
        (Lines.cut newline (Utf8.TextDecoder.textOf octets)).1.filterMap (Json.parse format) ++
          out := by
  rcases Utf8.TextDecoder.decode_after octets chunk with ⟨decoded, text_eq⟩
  rcases transparent.textOf_prefix before with ⟨⟨more, part⟩, short⟩
  generalize newText : ((Utf8.TextDecoder.after octets).decode chunk true).2 = added at text_eq
  have cut := Lines.cut_append newline (Utf8.TextDecoder.textOf octets) added
  rw [← text_eq, ← holds.tail] at cut
  have lines := Lines.cut_append newline (Utf8.TextDecoder.textOf (octets ++ chunk)) more
  rw [part] at lines
  have readableNow : ∀ raw ∈ (Lines.cut newline (decoder.tail ++ added)).1,
      Readable format raw := by
    intro raw member
    apply readable
    rw [lines, cut]
    exact List.mem_append_left _ (List.mem_append_right _ member)
  have notLong : ¬decoder.lineBytes + chunk.length > decoder.maxLineBytes := by
    have counted := holds.lineBytes
    rw [List.length_append] at fits
    omega
  rcases takeLines_readable format
    { decoder with
      lineBytes := decoder.lineBytes + chunk.length
      decoder := Utf8.TextDecoder.after (octets ++ chunk)
      tail := decoder.tail ++ added } [] readableNow with ⟨lineBytes, taken, counted⟩
  rw [push_fits format notLong, holds.decodes, decoded, newText]
  refine ⟨_, _, taken, ⟨rfl, ?_, ?_⟩, rfl, ?_⟩
  · rw [cut]
  · rcases counted with ⟨_, counted⟩ | counted
    · have before := holds.lineBytes
      rw [List.length_append]
      dsimp only at counted ⊢
      omega
    · have cutLength := length_encode_cut_le (Utf8.TextDecoder.textOf (octets ++ chunk))
      rw [cut] at cutLength
      dsimp only at counted cutLength ⊢
      omega
  · rw [cut, List.filterMap_append, List.nil_append]

/-- A stream that is pushed in chunks yields the values of the lines that it closes. -/
theorem LineDecoder.At.pushAll {decoder : LineDecoder} {octets : List Octet}
    (holds : decoder.At octets) {chunks : List (List Octet)}
    (before : octets ++ chunks.flatten <+: Utf8.encode text)
    (fits : (octets ++ chunks.flatten).length ≤ decoder.maxLineBytes) :
    ∃ last out, decoder.pushAll format chunks = (last, .ok out) ∧
      last.At (octets ++ chunks.flatten) ∧
      (Lines.cut newline (Utf8.TextDecoder.textOf (octets ++ chunks.flatten))).1.filterMap
          (Json.parse format) =
        (Lines.cut newline (Utf8.TextDecoder.textOf octets)).1.filterMap (Json.parse format) ++
          out := by
  induction chunks generalizing decoder octets with
  | nil =>
      rw [List.flatten_nil, List.append_nil]
      exact ⟨decoder, [], rfl, holds, by rw [List.append_nil]⟩
  | cons chunk later induction =>
      rw [List.flatten_cons, ← List.append_assoc] at before fits ⊢
      have beforeChunk : octets ++ chunk <+: Utf8.encode text :=
        (List.prefix_append _ _).trans before
      have fitsChunk : (octets ++ chunk).length ≤ decoder.maxLineBytes := by
        rw [List.length_append] at fits
        omega
      rcases holds.push format transparent readable beforeChunk fitsChunk with
        ⟨next, out, pushed, holdsNext, limit, values⟩
      rcases induction holdsNext before (by rw [limit]; exact fits) with
        ⟨last, more, pushedAll, holdsLast, valuesLast⟩
      refine ⟨last, out ++ more, ?_, holdsLast, ?_⟩
      · rw [LineDecoder.pushAll, pushed]
        simp only [pushedAll]
      · rw [valuesLast, values, List.append_assoc]

end Stream

theorem LineDecoder.at_create (maxLineBytes : Nat) (onInvalidLine : Bool) :
    (LineDecoder.create maxLineBytes onInvalidLine).At [] :=
  ⟨rfl, rfl, Nat.le_refl 0⟩

/-! ## The stream of a list of values -/

/-- The text of the lines of some values, and of what follows them. -/
def streamText (values : List (Json Number)) (rest : Text) : Text :=
  Lines.unite newline (values.map (Json.stringify format)) rest

theorem streamText_nil (rest : Text) : streamText format [] rest = rest := rfl

theorem streamText_cons (value : Json Number) (values : List (Json Number)) (rest : Text) :
    streamText format (value :: values) rest =
      Json.stringify format value ++ newline :: streamText format values rest :=
  Lines.unite_cons _ _ _

theorem streamText_append (values : List (Json Number)) (rest : Text) :
    streamText format values rest = streamText format values [] ++ rest := by
  rw [streamText, streamText, Lines.unite, Lines.unite, List.append_nil]

theorem encode_streamText (values : List (Json Number)) (rest : Text) :
    Utf8.encode (streamText format values rest) =
      values.flatMap (encodeLine format) ++ Utf8.encode rest := by
  rw [streamText, encode_unite, List.flatMap_map]
  rfl

theorem newline_notMem_stringify (value : Json Number) :
    newline ∉ Json.stringify format value := fun member =>
  absurd (Json.printable_stringify format value newline member) (by decide)

theorem cut_streamText (values : List (Json Number)) {rest : Text} (absent : newline ∉ rest) :
    Lines.cut newline (streamText format values rest) =
      (values.map (Json.stringify format), rest) := by
  apply Lines.cut_unite _ absent
  intro line member
  rcases List.mem_map.mp member with ⟨value, _, rfl⟩
  exact newline_notMem_stringify format value

theorem notTrimmed_of_begins {first : CodeUnit} (begins : Json.Begins first)
    (printable : 0x20 ≤ first.val) : ¬IsTrimmed first := by
  rcases begins with ⟨notSpace, _, _, small⟩
  unfold IsTrimmed
  unfold Json.IsSpace at notSpace
  generalize first.val = unit at *
  omega

theorem readable_stringify {value : Json Number} (valid : value.Valid) :
    Readable format (Json.stringify format value) := by
  constructor
  · intro blank
    rcases Json.stringify_head format value with ⟨first, rest, text, begins⟩
    have member : first ∈ Json.stringify format value := by
      rw [text]
      exact List.mem_cons_self
    exact notTrimmed_of_begins begins (Json.printable_stringify format value first member)
      (blank first member)
  · rw [Json.parse_stringify format valid]
    rfl

theorem filterMap_parse_stringify {values : List (Json Number)}
    (valid : ∀ value ∈ values, value.Valid) :
    (values.map (Json.stringify format)).filterMap (Json.parse format) = values := by
  rw [List.filterMap_map]
  induction values with
  | nil => rfl
  | cons value rest induction =>
      rcases List.forall_mem_cons.mp valid with ⟨now, later⟩
      have parsed : (Json.parse format ∘ Json.stringify format) value = some value :=
        Json.parse_stringify format now
      rw [List.filterMap_cons_some parsed, induction later]

theorem unmarked_of_small {text : Text} (small : ∀ unit ∈ text.head?, unit.val < 0x80) :
    ∀ scalar ∈ (Utf8.scalars text).head?, scalar ≠ Utf8.byteOrderMark := by
  cases text with
  | nil => exact fun scalar head => by cases head
  | cons unit rest =>
      have bounded := small unit rfl
      have notHigh : ¬Utf8.IsHigh unit := fun high => absurd high.1 (by omega)
      have notLow : ¬Utf8.IsLow unit := fun low => absurd low.1 (by omega)
      rw [Utf8.scalars_plain notHigh notLow]
      intro scalar head same
      cases head
      rw [Utf8.byteOrderMark] at same
      omega

theorem stringify_small (value : Json Number) :
    ∀ unit ∈ (Json.stringify format value).head?, unit.val < 0x80 := by
  rcases Json.stringify_head format value with ⟨first, rest, text, begins⟩
  rw [text]
  intro unit head
  cases head
  exact begins.2.2.2

theorem transparent_streamText (values : List (Json Number)) {rest : Text}
    (wellFormed : Utf8.WellFormed rest) (small : ∀ unit ∈ rest.head?, unit.val < 0x80) :
    Transparent (streamText format values rest) := by
  constructor
  · induction values with
    | nil => exact wellFormed
    | cons value values induction =>
        have mark : Utf8.WellFormed [newline] :=
          Utf8.wellFormed_unit (by decide) (by decide)
        rw [streamText_cons]
        exact (Json.wellFormed_stringify format value).append (mark.append induction)
  · apply unmarked_of_small
    cases values with
    | nil => exact small
    | cons value values =>
        have small := stringify_small format value
        rcases Json.stringify_head format value with ⟨first, more, text, _⟩
        rw [text] at small
        rw [streamText_cons, text]
        exact small

theorem transparent_stringify (values : List (Json Number)) (value : Json Number) :
    Transparent (streamText format values (Json.stringify format value)) :=
  transparent_streamText format values (Json.wellFormed_stringify format value)
    (stringify_small format value)

theorem Transparent.textOf_encode {text : Text} (transparent : Transparent text) :
    Utf8.TextDecoder.textOf (Utf8.encode text) = text := by
  rw [Utf8.TextDecoder.textOf, Utf8.encode, Utf8.Decoder.feed_encode (Utf8.isScalar_scalars text)]
  have drop : Utf8.dropMark (Utf8.scalars text) = Utf8.scalars text := by
    have unmarked := transparent.unmarked
    cases values : Utf8.scalars text with
    | nil => rfl
    | cons scalar rest =>
        rw [values] at unmarked
        rw [Utf8.dropMark, if_neg (unmarked scalar rfl)]
  rw [drop]
  exact transparent.wellFormed

/-! ## A stream that ends inside a line -/

theorem encode_cons_small {first : CodeUnit} (small : first.val < 0x80) (text : Text) :
    Utf8.encode (first :: text) = Fin.ofNat 256 first.val :: Utf8.encode text := by
  have notHigh : ¬Utf8.IsHigh first := fun high => absurd high.1 (by omega)
  have notLow : ¬Utf8.IsLow first := fun low => absurd low.1 (by omega)
  rw [Utf8.encode, Utf8.scalars_plain notHigh notLow, List.flatMap_cons, Utf8.encodeScalar,
    if_pos small]
  rfl

theorem prefix_encode_of_shorter {value : Json Number} {part : List Octet}
    (before : part <+: encodeLine format value) (shorter : part ≠ encodeLine format value) :
    part <+: Utf8.encode (Json.stringify format value) := by
  rw [encodeLine, Utf8.encode_append (by intro unit head; cases head; decide)] at before shorter
  have mark : Utf8.encode [newline] = [0x0A] := by decide
  rw [mark] at before shorter
  exact (List.prefix_concat_iff.mp before).resolve_left shorter

/-- What is read of a part of a line is a part of its text, and not nothing. -/
theorem textOf_part {values : List (Json Number)} {value : Json Number} {part : List Octet}
    (before : part <+: Utf8.encode (Json.stringify format value)) (notEmpty : part ≠ []) :
    ∃ first more, Utf8.TextDecoder.textOf (values.flatMap (encodeLine format) ++ part) =
        streamText format values (first :: more) ∧
      first :: more <+: Json.stringify format value ∧ Json.Begins first := by
  rcases Json.stringify_head format value with ⟨first, text, isText, begins⟩
  have whole := transparent_stringify format values value
  have firstFormed : Utf8.WellFormed [first] :=
    Utf8.wellFormed_unit (fun high => absurd high.1 (by have := begins.2.2.2; omega))
      (fun low => absurd low.1 (by have := begins.2.2.2; omega))
  have started := transparent_streamText format values firstFormed fun unit head => by
    cases head
    exact begins.2.2.2
  have beforeWhole : values.flatMap (encodeLine format) ++ part <+:
      Utf8.encode (streamText format values (Json.stringify format value)) := by
    rw [encode_streamText]
    exact (List.prefix_append_right_inj _).mpr before
  have reached : ∃ later, values.flatMap (encodeLine format) ++ part =
      Utf8.encode (streamText format values [first]) ++ later := by
    rw [isText, encode_cons_small begins.2.2.2] at before
    rw [encode_streamText, encode_cons_small begins.2.2.2]
    cases part with
    | nil => exact absurd rfl notEmpty
    | cons octet later =>
        rw [(List.cons_prefix_cons.mp before).1]
        exact ⟨later, by rw [List.append_assoc]; rfl⟩
  rcases reached with ⟨later, octets⟩
  rcases Utf8.TextDecoder.textOf_append (Utf8.encode (streamText format values [first])) later with
    ⟨more, read⟩
  rw [started.textOf_encode, ← octets, streamText_append, List.append_assoc] at read
  refine ⟨first, more, ?_, ?_, begins⟩
  · rw [read, streamText_append format values (first :: more)]
    rfl
  · have prefixes := (whole.textOf_prefix beforeWhole).1
    rw [read, streamText_append format values (Json.stringify format value)] at prefixes
    exact (List.prefix_append_right_inj _).mp prefixes

theorem flush_closed {decoder : LineDecoder} (tail : decoder.tail = [])
    (nothing : (decoder.decoder.decode [] false).2 = []) : decoder.flush.2 = .ok () := by
  have blank : IsBlank (decoder.tail ++ (decoder.decoder.decode [] false).2) := by
    rw [tail, nothing]
    exact fun unit member => (List.not_mem_nil member).elim
  rw [LineDecoder.flush]
  exact if_pos blank

theorem flush_open {decoder : LineDecoder} {first : CodeUnit} {more : Text}
    (tail : decoder.tail = first :: more) (notTrimmed : ¬IsTrimmed first) :
    decoder.flush.2 = .error (.protocol "stream ended with a truncated line") := by
  have notBlank : ¬IsBlank (decoder.tail ++ (decoder.decoder.decode [] false).2) := by
    rw [tail]
    exact fun blank => notTrimmed (blank first List.mem_cons_self)
  rw [LineDecoder.flush]
  exact if_neg notBlank

/-! ## Any stream -/

section Decoding

variable {values : List (Json Number)} (valid : ∀ value ∈ values, value.Valid) {text rest : Text}
  {maxLineBytes : Nat} (onInvalidLine : Bool) {chunks : List (List Octet)}

include valid

/-- A stream whose closed lines are the values, and that leaves some text open. -/
theorem pushAll_streamText (transparent : Transparent (streamText format values text))
    (absent : newline ∉ text) (before : chunks.flatten <+: Utf8.encode (streamText format values text))
    (read : Utf8.TextDecoder.textOf chunks.flatten = streamText format values rest)
    (absentRest : newline ∉ rest) (fits : chunks.flatten.length ≤ maxLineBytes) :
    ∃ last, (LineDecoder.create maxLineBytes onInvalidLine).pushAll format chunks =
        (last, .ok values) ∧ last.At chunks.flatten ∧ last.tail = rest := by
  have readable : ∀ raw ∈ (Lines.cut newline (streamText format values text)).1,
      Readable format raw := by
    rw [cut_streamText format values absent]
    intro raw member
    rcases List.mem_map.mp member with ⟨value, isValue, rfl⟩
    exact readable_stringify format (valid value isValue)
  rcases (LineDecoder.at_create maxLineBytes onInvalidLine).pushAll format transparent readable
    before fits with ⟨last, out, pushed, holds, parsed⟩
  rw [List.nil_append] at holds parsed
  have tail := holds.tail
  rw [read, cut_streamText format values absentRest] at parsed tail
  rw [filterMap_parse_stringify format valid] at parsed
  exact ⟨last, by rw [parsed]; exact pushed, holds, tail⟩

end Decoding

/-- Whatever the chunks, the values come out that went in; and a stream that ends inside a
line yields the values before it and is reported. -/
theorem pushAll_encodeLine (values : List (Json Number)) (valid : ∀ value ∈ values, value.Valid)
    (chunks : List (List Octet)) (maxLineBytes : Nat) (onInvalidLine : Bool)
    (fits : chunks.flatten.length ≤ maxLineBytes) :
    (chunks.flatten = values.flatMap (encodeLine format) →
      ∃ last, (LineDecoder.create maxLineBytes onInvalidLine).pushAll format chunks =
          (last, .ok values) ∧ last.flush.2 = .ok ()) ∧
    ∀ value part, value.Valid → part <+: encodeLine format value → part ≠ [] →
      part ≠ encodeLine format value →
        chunks.flatten = values.flatMap (encodeLine format) ++ part →
          ∃ last, (LineDecoder.create maxLineBytes onInvalidLine).pushAll format chunks =
              (last, .ok values) ∧
            last.flush.2 = .error (.protocol "stream ended with a truncated line") := by
  constructor
  · intro whole
    have transparent := transparent_streamText format values Utf8.wellFormed_nil
      fun unit head => by cases head
    have octets : chunks.flatten = Utf8.encode (streamText format values []) := by
      rw [encode_streamText, whole]
      exact (List.append_nil _).symm
    rcases pushAll_streamText format valid onInvalidLine transparent List.not_mem_nil
      (by rw [octets]) (by rw [octets, transparent.textOf_encode]) List.not_mem_nil fits with
      ⟨last, pushed, holds, tail⟩
    refine ⟨last, pushed, flush_closed tail ?_⟩
    rw [holds.decodes, octets]
    exact Utf8.TextDecoder.decode_end _
  · intro value part validValue before notEmpty shorter octets
    have beforeText := prefix_encode_of_shorter format before shorter
    rcases @textOf_part _ format values value part beforeText notEmpty with
      ⟨first, more, read, partOfText, begins⟩
    have absent := newline_notMem_stringify format value
    have transparent := transparent_stringify format values value
    have beforeWhole : chunks.flatten <+:
        Utf8.encode (streamText format values (Json.stringify format value)) := by
      rw [octets, encode_streamText]
      exact (List.prefix_append_right_inj _).mpr beforeText
    rcases pushAll_streamText format valid onInvalidLine transparent absent beforeWhole
      (by rw [octets, read]) (fun member => absent (partOfText.subset member)) fits with
      ⟨last, pushed, _, tail⟩
    have printable := Json.printable_stringify format value first
      (partOfText.subset List.mem_cons_self)
    exact ⟨last, pushed, flush_open tail (notTrimmed_of_begins begins printable)⟩

/-- An object with a character of two octets, one of four and a lone surrogate. -/
def accented : Json Int := .object [([0x61], .string [0x00E9, 0xD83D, 0xDE00, 0xD800])]

def listed : Json Int := .array [.number 12, .null]

/-- A stream of two values in chunks that divide a character, and one that is cut before the
second value is closed. -/
theorem pushAll_encodeLine_divided :
    let octets := [accented, listed].flatMap (encodeLine Json.integers)
    let begun := [accented].flatMap (encodeLine Json.integers) ++
      (encodeLine Json.integers listed).take 3
    (∃ last, (LineDecoder.create 64 false).pushAll Json.integers
        [octets.take 7, [], octets.drop 7] = (last, .ok [accented, listed]) ∧
      last.flush.2 = .ok ()) ∧
      ∃ last, (LineDecoder.create 64 false).pushAll Json.integers [begun.take 9, begun.drop 9] =
          (last, .ok [accented]) ∧
        last.flush.2 = .error (.protocol "stream ended with a truncated line") := by
  intro octets begun
  have validFirst : accented.Valid := ⟨by decide, trivial, trivial⟩
  have validSecond : listed.Valid := ⟨trivial, trivial, trivial⟩
  constructor
  · have chunks : [octets.take 7, [], octets.drop 7].flatten = octets := by
      simp only [List.flatten_cons, List.flatten_nil, List.append_nil, List.nil_append,
        List.take_append_drop]
    have short : ([accented, listed].flatMap (encodeLine Json.integers)).length ≤ 64 := by
      decide +kernel
    exact (pushAll_encodeLine Json.integers [accented, listed]
      (List.forall_mem_cons.mpr ⟨validFirst, List.forall_mem_singleton.mpr validSecond⟩)
      [octets.take 7, [], octets.drop 7] 64 false (by rw [chunks]; exact short)).1 chunks
  · have chunks : [begun.take 9, begun.drop 9].flatten = begun := by
      simp only [List.flatten_cons, List.flatten_nil, List.append_nil, List.take_append_drop]
    have short : ([accented].flatMap (encodeLine Json.integers) ++
        (encodeLine Json.integers listed).take 3).length ≤ 64 := by decide +kernel
    exact (pushAll_encodeLine Json.integers [accented] (List.forall_mem_singleton.mpr validFirst)
      [begun.take 9, begun.drop 9] 64 false (by rw [chunks]; exact short)).2 listed
      ((encodeLine Json.integers listed).take 3) validSecond (List.take_prefix _ _)
      (by decide +kernel) (by decide +kernel) chunks

end DshRemote
