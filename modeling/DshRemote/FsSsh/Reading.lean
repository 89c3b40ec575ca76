import DshRemote.FsSsh.Mutation

/-! # `readText` and `streamText`

A read stream brings the bytes of a file in chunks. One call looks at all of them at once,
the other one at each chunk as it comes. -/

namespace DshRemote.FsSsh

open Json (asciiText)
open Utf8 (TextDecoder)

/-- The chunks that a read stream brings, each with whether the call had been aborted when it
came, and the error that ended the stream. -/
structure ReadStream where
  chunks : List (List Octet × Bool)
  failure : Option TransportError := none

/-- A stream that brings all of a file to a call that is not aborted. -/
def ReadStream.complete (chunks : List (List Octet)) : ReadStream where
  chunks := chunks.map fun chunk => (chunk, false)

def statForRead (displayPath : Text) (attrs : Option SftpAttrs) : Except FsError SftpAttrs :=
  match attrs with
  | none => .error ⟨asciiText "no such file: " ++ displayPath, .notFound⟩
  | some attrs =>
      if attrs.type ≠ .file then
        .error ⟨asciiText "not a regular file: " ++ displayPath, .notRegularFile⟩
      else .ok attrs

def binaryError (displayPath : Text) : FsError :=
  ⟨asciiText "binary content rejected: " ++ displayPath, .notText⟩

/-- `readAll` without a limit, from the chunks that are there already. -/
def readAll (displayPath : Text) (failure : Option TransportError) (bytes : List Octet) :
    List (List Octet × Bool) → Except FsError (List Octet)
  | [] =>
      match failure with
      | some error => .error (mapFsError error (asciiText "read " ++ displayPath))
      | none => .ok bytes
  | (chunk, aborted) :: later =>
      if aborted then .error abortedError
      else readAll displayPath failure (bytes ++ chunk) later

def readText (displayPath : Text) (attrs : Option SftpAttrs) (stream : ReadStream)
    (aborted : Bool) : Except FsError Text := do
  let _ ← statForRead displayPath attrs
  let bytes ← readAll displayPath stream.failure [] stream.chunks
  if (BinaryProbe.push {} bytes).2 then .error (binaryError displayPath)
  else if aborted then .error abortedError
  else .ok (TextDecoder.decode {} bytes false).2

/-- What a consumer of `streamText` has got, and the error that it ended with. -/
structure Streamed where
  yielded : List Text
  failure : Option FsError
deriving DecidableEq

/-- `if (text) yield text`. -/
def yieldText (text : Text) : List Text := if text = [] then [] else [text]

/-- The loop of the generator. -/
def streamChunks (displayPath : Text) (failure : Option TransportError) (decoder : TextDecoder)
    (probe : BinaryProbe) : List (List Octet × Bool) → Streamed
  | [] =>
      match failure with
      | some error => ⟨[], some (mapFsError error (asciiText "read " ++ displayPath))⟩
      | none => ⟨yieldText (decoder.decode [] false).2, none⟩
  | (chunk, aborted) :: later =>
      if aborted then ⟨[], some abortedError⟩
      else
        let pushed := probe.push chunk
        if pushed.2 then ⟨[], some (binaryError displayPath)⟩
        else
          let decoded := decoder.decode chunk true
          let rest := streamChunks displayPath failure decoded.1 pushed.1 later
          ⟨yieldText decoded.2 ++ rest.yielded, rest.failure⟩

def streamText (displayPath : Text) (attrs : Option SftpAttrs) (stream : ReadStream) :
    Streamed :=
  match statForRead displayPath attrs with
  | .error error => ⟨[], some error⟩
  | .ok _ => streamChunks displayPath stream.failure {} {} stream.chunks

/-! ## The probe -/

/-- The probe behind bytes that it has not rejected. -/
def BinaryProbe.after (bytes : List Octet) : BinaryProbe where
  inspected := min bytes.length binaryProbeBytes

/-- A chunk is rejected when it brings the first zero among the bytes that are looked at. -/
theorem BinaryProbe.push_after {bytes : List Octet} (accepted : 0 ∉ bytes.take binaryProbeBytes)
    (chunk : List Octet) :
    (((BinaryProbe.after bytes).push chunk).2 = true ↔
        0 ∈ (bytes ++ chunk).take binaryProbeBytes) ∧
      (((BinaryProbe.after bytes).push chunk).2 = false →
        ((BinaryProbe.after bytes).push chunk).1 = BinaryProbe.after (bytes ++ chunk)) := by
  have new : (0 ∈ (bytes ++ chunk).take binaryProbeBytes) ↔
      0 ∈ chunk.take (binaryProbeBytes - bytes.length) := by
    rw [List.take_append, List.mem_append, or_iff_right accepted]
  have notYet : (BinaryProbe.after bytes).binary = false := rfl
  rw [new, BinaryProbe.push, notYet, if_neg Bool.false_ne_true]
  by_cases full : binaryProbeBytes ≤ (BinaryProbe.after bytes).inspected
  · have beyond : binaryProbeBytes ≤ bytes.length := by
      rw [BinaryProbe.after] at full
      dsimp only at full
      omega
    rw [if_pos full, Nat.sub_eq_zero_of_le beyond, List.take_zero]
    refine ⟨iff_of_false Bool.false_ne_true List.not_mem_nil, fun _ => ?_⟩
    have grown : min bytes.length binaryProbeBytes =
        min (bytes ++ chunk).length binaryProbeBytes := by
      rw [List.length_append]
      omega
    exact congrArg (BinaryProbe.mk · false) grown
  · have within : bytes.length < binaryProbeBytes := by
      rw [BinaryProbe.after] at full
      dsimp only at full
      omega
    have inspected : (BinaryProbe.after bytes).inspected = bytes.length := by
      rw [BinaryProbe.after]
      exact Nat.min_eq_left (Nat.le_of_lt within)
    have looked : chunk.take (min chunk.length (binaryProbeBytes - bytes.length)) =
        chunk.take (binaryProbeBytes - bytes.length) := by
      rw [Nat.min_comm, ← List.take_take, List.take_length]
    rw [if_neg full, inspected]
    dsimp only
    rw [looked]
    by_cases zero : 0 ∈ chunk.take (binaryProbeBytes - bytes.length)
    · rw [if_pos (List.contains_iff_mem.mpr zero)]
      exact ⟨iff_of_true rfl zero, fun impossible => nomatch impossible⟩
    · rw [if_neg (mt List.contains_iff_mem.mp zero)]
      refine ⟨iff_of_false Bool.false_ne_true zero, fun _ => ?_⟩
      have grown : bytes.length + min chunk.length (binaryProbeBytes - bytes.length) =
          min (bytes ++ chunk).length binaryProbeBytes := by
        rw [List.length_append]
        omega
      exact congrArg (BinaryProbe.mk · false) grown

theorem BinaryProbe.push_start (bytes : List Octet) :
    (BinaryProbe.push {} bytes).2 = true ↔ 0 ∈ bytes.take binaryProbeBytes :=
  (@BinaryProbe.push_after [] List.not_mem_nil bytes).1

/-! ## Both calls on the same bytes -/

/-- The end of the stream brings what the whole has more than the part before. -/
theorem decode_whole (bytes : List Octet) :
    (TextDecoder.decode {} bytes false).2 =
      TextDecoder.textOf bytes ++ ((TextDecoder.after bytes).decode [] false).2 := by
  have noMore : ((Utf8.Decoder.idle.feed bytes).1.feed []) = ((Utf8.Decoder.idle.feed bytes).1, []) :=
    rfl
  rw [TextDecoder.decode, TextDecoder.textOf, TextDecoder.decode, TextDecoder.after]
  simp only [Bool.false_eq_true, if_false, noMore, List.nil_append]
  cases (Utf8.Decoder.idle.feed bytes).2 with
  | nil => rfl
  | cons scalar rest =>
      simp only [List.isEmpty_cons, Bool.not_false, if_true, List.cons_append, Utf8.dropMark]
      split
      · exact List.flatMap_append
      · rw [← List.cons_append, List.flatMap_append]

theorem flatten_yieldText (text : Text) : (yieldText text).flatten = text := by
  rw [yieldText]
  split
  · next empty => exact empty.symm
  · exact List.flatten_singleton

theorem readAll_complete (displayPath : Text) (bytes : List Octet) (chunks : List (List Octet)) :
    readAll displayPath none bytes (chunks.map fun chunk => (chunk, false)) =
      .ok (bytes ++ chunks.flatten) := by
  induction chunks generalizing bytes with
  | nil =>
      rw [List.flatten_nil, List.append_nil]
      rfl
  | cons chunk later induction =>
      rw [List.map_cons, readAll, if_neg Bool.false_ne_true, induction, List.flatten_cons,
        List.append_assoc]

theorem streamChunks_complete (displayPath : Text) {bytes : List Octet}
    (accepted : 0 ∉ bytes.take binaryProbeBytes) (chunks : List (List Octet)) :
    let streamed := streamChunks displayPath none (TextDecoder.after bytes)
      (BinaryProbe.after bytes) (chunks.map fun chunk => (chunk, false))
    if 0 ∈ (bytes ++ chunks.flatten).take binaryProbeBytes then
      streamed.failure = some (binaryError displayPath)
    else
      streamed.failure = none ∧
        TextDecoder.textOf bytes ++ streamed.yielded.flatten =
          (TextDecoder.decode {} (bytes ++ chunks.flatten) false).2 := by
  induction chunks generalizing bytes with
  | nil =>
      rw [List.flatten_nil, List.append_nil, if_neg accepted, decode_whole]
      exact ⟨rfl, congrArg _ (flatten_yieldText _)⟩
  | cons chunk later induction =>
      have probe := BinaryProbe.push_after accepted chunk
      have decoded := TextDecoder.decode_after bytes chunk
      rw [List.map_cons, List.flatten_cons, ← List.append_assoc, streamChunks,
        if_neg Bool.false_ne_true]
      dsimp only
      by_cases zero : 0 ∈ (bytes ++ chunk).take binaryProbeBytes
      · have still : 0 ∈ (bytes ++ chunk ++ later.flatten).take binaryProbeBytes := by
          rw [List.take_append]
          exact List.mem_append_left _ zero
        rw [if_pos still, if_pos (probe.1.mpr zero)]
      · have passed := Bool.eq_false_iff.mpr (mt probe.1.mp zero)
        have rest := induction zero
        rw [if_neg (Bool.eq_false_iff.mp passed), probe.2 passed, decoded.1]
        dsimp only at rest ⊢
        split at rest
        · next binary =>
          rw [if_pos binary]
          exact rest
        · next text =>
          rw [if_neg text, List.flatten_append, flatten_yieldText, ← List.append_assoc,
            ← decoded.2]
          exact rest

theorem statForRead_ok_iff {displayPath : Text} {attrs : Option SftpAttrs} {there : SftpAttrs} :
    statForRead displayPath attrs = .ok there ↔ attrs = some there ∧ there.type = .file := by
  cases attrs with
  | none => simp [statForRead]
  | some found =>
      by_cases isFile : found.type = .file
      · simp [statForRead, isFile]
        rintro rfl
        exact isFile
      · simp [statForRead, isFile]
        rintro rfl
        exact isFile

theorem statForRead_error {displayPath : Text} {attrs : Option SftpAttrs} {error : FsError}
    (failed : statForRead displayPath attrs = .error error) :
    error.code ≠ .notText ∧ ¬∃ there, attrs = some there ∧ there.type = .file := by
  constructor
  · cases attrs with
    | none =>
        cases failed
        exact fun impossible => nomatch impossible
    | some found =>
        by_cases isFile : found.type = .file
        · simp [statForRead, isFile] at failed
        · simp only [statForRead, ne_eq, isFile, not_false_eq_true, if_true] at failed
          cases failed
          exact fun impossible => nomatch impossible
  · rintro ⟨there, isFile⟩
    rw [statForRead_ok_iff.mpr isFile] at failed
    cases failed

theorem readText_complete {displayPath : Text} {attrs : Option SftpAttrs} {there : SftpAttrs}
    (readable : statForRead displayPath attrs = .ok there) (chunks : List (List Octet)) :
    readText displayPath attrs (ReadStream.complete chunks) false =
      if 0 ∈ chunks.flatten.take binaryProbeBytes then .error (binaryError displayPath)
      else .ok (TextDecoder.decode {} chunks.flatten false).2 := by
  have whole : readAll displayPath (ReadStream.complete chunks).failure []
      (ReadStream.complete chunks).chunks = .ok chunks.flatten :=
    readAll_complete displayPath [] chunks
  rw [readText, readable]
  change (readAll _ _ _ _ >>= _) = _
  rw [whole]
  change (if (BinaryProbe.push {} chunks.flatten).2 then _ else _) = _
  by_cases binary : 0 ∈ chunks.flatten.take binaryProbeBytes
  · rw [if_pos ((BinaryProbe.push_start _).mpr binary), if_pos binary]
  · rw [if_neg (mt (BinaryProbe.push_start _).mp binary), if_neg binary,
      if_neg Bool.false_ne_true]

theorem streamText_complete {displayPath : Text} {attrs : Option SftpAttrs} {there : SftpAttrs}
    (readable : statForRead displayPath attrs = .ok there) (chunks : List (List Octet)) :
    let streamed := streamText displayPath attrs (ReadStream.complete chunks)
    if 0 ∈ chunks.flatten.take binaryProbeBytes then
      streamed.failure = some (binaryError displayPath)
    else
      streamed.failure = none ∧
        streamed.yielded.flatten = (TextDecoder.decode {} chunks.flatten false).2 := by
  have streamed := @streamChunks_complete displayPath [] List.not_mem_nil chunks
  rw [streamText, readable]
  exact streamed

/-- For any contents and any chunks of them: what a consumer of `streamText` ends with is
what `readText` throws, and else it has got the text that `readText` returns. A file is
rejected as binary when a zero is among the bytes that are looked at. -/
theorem streamText_eq_readText (displayPath : Text) (attrs : Option SftpAttrs)
    (first second : List (List Octet)) (same : first.flatten = second.flatten) :
    let read := readText displayPath attrs (ReadStream.complete first) false
    let streamed := streamText displayPath attrs (ReadStream.complete second)
    (∀ error, streamed.failure = some error ↔ read = .error error) ∧
      (∀ text, read = .ok text →
        streamed.failure = none ∧ streamed.yielded.flatten = text) ∧
      ((∃ error, read = .error error ∧ error.code = .notText) ↔
        (∃ there, attrs = some there ∧ there.type = .file) ∧
          0 ∈ first.flatten.take binaryProbeBytes) := by
  dsimp only
  cases gate : statForRead displayPath attrs with
  | error error =>
      have unreadable := statForRead_error gate
      have read : readText displayPath attrs (ReadStream.complete first) false =
          .error error := by
        rw [readText, gate]
        rfl
      rw [read, streamText, gate]
      refine ⟨fun other => ?_, fun text impossible => (nomatch impossible), ?_⟩
      · rw [Option.some.injEq, Except.error.injEq]
      · refine iff_of_false ?_ (fun both => unreadable.2 both.1)
        rintro ⟨other, isOther, notText⟩
        cases isOther
        exact unreadable.1 notText
  | ok there =>
      have isFile := statForRead_ok_iff.mp gate
      have streamed := streamText_complete gate second
      rw [readText_complete gate, same]
      dsimp only at streamed
      split at streamed
      · next binary =>
        rw [if_pos binary, streamed]
        refine ⟨fun other => ?_, fun text impossible => (nomatch impossible), ?_⟩
        · rw [Option.some.injEq, Except.error.injEq]
        · exact iff_of_true ⟨_, rfl, rfl⟩ ⟨⟨there, isFile⟩, binary⟩
      · next isText =>
        rw [if_neg isText, streamed.1]
        refine ⟨fun other => ?_, fun text isText => ?_, ?_⟩
        · exact iff_of_false (fun impossible => nomatch impossible)
            (fun impossible => nomatch impossible)
        · cases isText
          exact ⟨rfl, streamed.2⟩
        · refine iff_of_false ?_ (fun both => isText both.2)
          rintro ⟨other, impossible, -⟩
          cases impossible

/-- A character in two chunks, behind a byte order mark in two. -/
theorem streamText_split_mark :
    let streamed := streamText [] (some ⟨6, 0, 0, .file⟩)
      (ReadStream.complete [[0xEF], [0xBB, 0xBF, 0xE2], [0x82, 0xAC]])
    streamed.failure = none ∧ streamed.yielded.flatten = [0x20AC] :=
  (streamText_eq_readText [] (some ⟨6, 0, 0, .file⟩)
    [[0xEF, 0xBB, 0xBF, 0xE2, 0x82, 0xAC]] [[0xEF], [0xBB, 0xBF, 0xE2], [0x82, 0xAC]]
    (by decide)).2.1 [0x20AC] (by decide +kernel)

end DshRemote.FsSsh
