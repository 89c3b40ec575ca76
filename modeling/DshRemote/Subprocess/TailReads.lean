import Mathlib.Data.List.Induction
import DshRemote.Foundation.DecodedPieces
import DshRemote.Subprocess.TailOutputReader

/-! # Reads of a collected stream

What a `TailOutputReader` keeps of the chunks that were pushed, what a read at any offset
says of it, and what a consumer gets that reads on from where its last read ended. -/

namespace DshRemote.Subprocess

open Utf8 (bufferText CutsAt)

/-! ## The loop that drops the head -/

/-- The loop of `push` comes to its end, and never looks for a head that is not there. -/
inductive Trims (maxBytes : Nat) :
    List (List Octet) → Nat → List (List Octet) → Nat → Prop
  | done {chunks : List (List Octet)} {retained : Nat} (fits : retained ≤ maxBytes) :
      Trims maxBytes chunks retained chunks retained
  | whole {head : List Octet} {rest chunks : List (List Octet)} {retained kept : Nat}
      (large : maxBytes < retained) (short : head.length ≤ retained - maxBytes)
      (later : Trims maxBytes rest (retained - head.length) chunks kept) :
      Trims maxBytes (head :: rest) retained chunks kept
  | part {head : List Octet} {rest chunks : List (List Octet)} {retained kept : Nat}
      (large : maxBytes < retained) (long : retained - maxBytes < head.length)
      (later : Trims maxBytes (head.drop (retained - maxBytes) :: rest)
        (retained - (retained - maxBytes)) chunks kept) :
      Trims maxBytes (head :: rest) retained chunks kept

namespace TailOutputReader

theorem trims_dropHead {maxBytes : Nat} {chunks : List (List Octet)} {retained : Nat}
    (counted : chunks.flatten.length = retained) :
    Trims maxBytes chunks retained (dropHead maxBytes chunks retained).1
      (dropHead maxBytes chunks retained).2 := by
  induction chunks generalizing retained with
  | nil =>
      rw [List.flatten_nil, List.length_nil] at counted
      subst counted
      exact .done (Nat.zero_le _)
  | cons head rest induction =>
      rw [List.flatten_cons, List.length_append] at counted
      rw [dropHead]
      split
      · next fits => exact .done fits
      · next large =>
        split
        · next short =>
          exact .whole (by omega) short (induction (by omega))
        · next long =>
          refine .part (by omega) (by omega) ?_
          have exact_ : retained - (retained - maxBytes) = maxBytes := by omega
          rw [exact_]
          exact .done (Nat.le_refl _)

/-- What is left is the end of what was there. -/
theorem dropHead_flatten {maxBytes : Nat} {chunks : List (List Octet)} {retained : Nat}
    (counted : chunks.flatten.length = retained) :
    (dropHead maxBytes chunks retained).1.flatten =
      chunks.flatten.drop (retained - min retained maxBytes) := by
  induction chunks generalizing retained with
  | nil => simp [dropHead]
  | cons head rest induction =>
      rw [List.flatten_cons, List.length_append] at counted
      rw [dropHead]
      split
      · next fits =>
        rw [Nat.min_eq_left fits, Nat.sub_self, List.drop_zero]
      · next large =>
        rw [Nat.min_eq_right (by omega), List.flatten_cons, List.drop_append]
        split
        · next short =>
          rw [induction (by omega), List.drop_eq_nil_of_le short, List.nil_append]
          congr 1
          omega
        · next long =>
          have onlyHead : retained - maxBytes - head.length = 0 := by omega
          rw [List.flatten_cons, onlyHead, List.drop_zero]

/-! ## What is kept -/

/-- The reader has been given the stream, and keeps the end of it. -/
structure Retains (stream : List Octet) (reader : TailOutputReader) : Prop where
  wellFormed : reader.WellFormed
  total : reader.totalBytes = stream.length
  tail : reader.chunks.flatten =
    stream.drop (stream.length - min stream.length reader.maxBytes)

variable {stream : List Octet} {reader : TailOutputReader}

theorem Retains.push (retains : Retains stream reader) (bytes : List Octet) :
    Retains (stream ++ bytes) (reader.push bytes) where
  wellFormed := retains.wellFormed.push bytes
  total := by rw [totalBytes_push, retains.total, List.length_append]
  tail := by
    rw [(push_fixed reader bytes).1]
    by_cases empty : bytes.length = 0
    · rw [TailOutputReader.push, if_pos empty, List.eq_nil_of_length_eq_zero empty,
        List.append_nil]
      exact retains.tail
    · have counted : (reader.chunks ++ [bytes]).flatten.length =
          reader.retainedBytes + bytes.length := by
        rw [List.flatten_append, List.length_append, retains.wellFormed.counted,
          List.flatten_singleton]
      have bounded := retains.wellFormed.bounded
      rw [retains.total] at bounded
      rw [TailOutputReader.push, if_neg empty]
      dsimp only
      rw [dropHead_flatten counted, List.flatten_append, List.flatten_singleton, retains.tail,
        List.length_append, bounded]
      -- First the old head goes, then as much as the new bytes have displaced.
      have displaced : stream.length - min stream.length reader.maxBytes ≤ stream.length := by
        omega
      rw [← List.drop_append_of_le_length displaced, List.drop_drop]
      congr 1
      omega

theorem Retains.readFrom (retains : Retains stream reader) (fromByte : Nat) :
    let lost := stream.length - min stream.length reader.maxBytes
    (reader.readFrom fromByte).nextOffset = stream.length ∧
      ((reader.readFrom fromByte).lossy = true ↔ fromByte < lost) ∧
      (reader.readFrom fromByte).text =
        bufferText (stream.drop (if fromByte < lost then lost else fromByte)) := by
  have counted := retains.wellFormed.counted
  have bounded := retains.wellFormed.bounded
  rw [retains.total] at bounded
  have kept : reader.retained =
      stream.drop (stream.length - min stream.length reader.maxBytes) := by
    rw [retained, ← counted, List.take_length, retains.tail]
  have first : reader.totalBytes - reader.retainedBytes =
      stream.length - min stream.length reader.maxBytes := by rw [retains.total, bounded]
  refine ⟨retains.total, ?_, ?_⟩
  · rw [TailOutputReader.readFrom]
    dsimp only
    rw [first, decide_eq_true_iff]
  · rw [TailOutputReader.readFrom]
    dsimp only
    rw [first, kept, List.length_drop, List.drop_drop]
    by_cases lossy : fromByte < stream.length - min stream.length reader.maxBytes
    · rw [if_pos lossy, if_pos (decide_eq_true lossy), Nat.add_zero]
    · rw [if_neg lossy, if_neg (by simpa using lossy)]
      by_cases inside : fromByte ≤ stream.length
      · congr 2
        omega
      · rw [List.drop_eq_nil_of_le (by omega), List.drop_eq_nil_of_le (by omega)]

end TailOutputReader

/-! ## Any calls -/

inductive ReaderCall
  | push (bytes : List Octet)
  | invalidateSpill
deriving DecidableEq

def ReaderCall.bytes : ReaderCall → List Octet
  | .push bytes => bytes
  | .invalidateSpill => []

namespace TailOutputReader

def call (self : TailOutputReader) : ReaderCall → TailOutputReader
  | .push bytes => self.push bytes
  | .invalidateSpill => self.invalidateSpill

/-- What the calls have come to, on a reader that was made with these settings. -/
structure Called (made : TailOutputReader) (calls : List ReaderCall)
    (reader : TailOutputReader) : Prop where
  retains : Retains (calls.flatMap ReaderCall.bytes) reader
  maxBytes : reader.maxBytes = made.maxBytes
  maxSpillBytes : reader.maxSpillBytes = made.maxSpillBytes
  spillPath : reader.spillPath = made.spillPath
  spillValid : reader.spillValid = true ↔ .invalidateSpill ∉ calls

theorem Called.call {made reader : TailOutputReader} {calls : List ReaderCall}
    (called : Called made calls reader) (next : ReaderCall) :
    Called made (calls ++ [next]) (reader.call next) := by
  cases next with
  | push bytes =>
      have fixed := push_fixed reader bytes
      refine ⟨?_, fixed.1.trans called.maxBytes, fixed.2.1.trans called.maxSpillBytes, ?_, ?_⟩
      · rw [List.flatMap_append, List.flatMap_singleton]
        exact called.retains.push bytes
      · rw [TailOutputReader.call, TailOutputReader.push]
        split
        · exact called.spillPath
        · exact called.spillPath
      · rw [TailOutputReader.call, fixed.2.2, called.spillValid, List.mem_append,
          List.mem_singleton]
        simp
  | invalidateSpill =>
      refine ⟨?_, called.maxBytes, called.maxSpillBytes, called.spillPath, ?_⟩
      · rw [List.flatMap_append, List.flatMap_singleton, ReaderCall.bytes, List.append_nil]
        exact ⟨⟨called.retains.wellFormed.counted, called.retains.wellFormed.bounded⟩,
          called.retains.total, called.retains.tail⟩
      · simp [TailOutputReader.call, invalidateSpill]

theorem called_foldl (maxBytes : Nat) (maxSpillBytes : Option Nat) (spillPath : Text)
    (calls : List ReaderCall) :
    Called { maxBytes := maxBytes, maxSpillBytes := maxSpillBytes, spillPath := spillPath } calls
      (calls.foldl call
        { maxBytes := maxBytes, maxSpillBytes := maxSpillBytes, spillPath := spillPath }) := by
  induction calls using List.reverseRecOn with
  | nil =>
      refine ⟨⟨⟨rfl, ?_⟩, rfl, ?_⟩, rfl, rfl, rfl, ?_⟩
      · simp
      · simp
      · simp
  | append_singleton calls next induction =>
      rw [List.foldl_append]
      exact induction.call next

/-- After any chunks, and with any cap: the reader keeps the end of the stream that fits,
and the loop that drops the rest comes to its end. A read at any offset ends at the end of
the stream, has lost something exactly where it begins before the kept end, and has the text
of the stream from its offset or else of all that is kept. The spill is advertised for a
lossy read, unless it was invalidated or the stream is beyond its cap. -/
theorem readFrom_stream (maxBytes : Nat) (maxSpillBytes : Option Nat) (spillPath : Text)
    (calls : List ReaderCall) (fromByte : Nat) :
    let reader := calls.foldl call
      { maxBytes := maxBytes, maxSpillBytes := maxSpillBytes, spillPath := spillPath }
    let stream := calls.flatMap ReaderCall.bytes
    let lost := stream.length - min stream.length maxBytes
    let read := reader.readFrom fromByte
    (reader.chunks.flatten = stream.drop lost ∧ reader.retained = stream.drop lost) ∧
      (∀ bytes, bytes ≠ [] →
        Trims maxBytes (reader.chunks ++ [bytes]) (reader.retainedBytes + bytes.length)
          (reader.push bytes).chunks (reader.push bytes).retainedBytes) ∧
      read.nextOffset = stream.length ∧
      (read.lossy = true ↔ fromByte < lost) ∧
      (read.lossy = false → read.text = bufferText (stream.drop fromByte)) ∧
      (read.lossy = true → read.text = bufferText (stream.drop lost)) ∧
      ∀ path, read.spillPath = some path ↔
        path = spillPath ∧ read.lossy = true ∧ .invalidateSpill ∉ calls ∧
          ∃ cap, maxSpillBytes = some cap ∧ stream.length ≤ cap := by
  have called := called_foldl maxBytes maxSpillBytes spillPath calls
  generalize calls.foldl call
    { maxBytes := maxBytes, maxSpillBytes := maxSpillBytes, spillPath := spillPath } = reader
    at called
  dsimp only
  have sameMax : reader.maxBytes = maxBytes := called.maxBytes
  have retains := called.retains
  have wellFormed := retains.wellFormed
  rcases retains.readFrom fromByte with ⟨next, lossy, text⟩
  have tail := retains.tail
  rw [sameMax] at lossy text tail
  refine ⟨⟨tail, ?_⟩, ?_, next, lossy, ?_, ?_, ?_⟩
  · rw [retained, ← wellFormed.counted, List.take_length, tail]
  · intro bytes someBytes
    have counted : (reader.chunks ++ [bytes]).flatten.length =
        reader.retainedBytes + bytes.length := by
      rw [List.flatten_append, List.length_append, wellFormed.counted, List.flatten_singleton]
    have notEmpty : ¬bytes.length = 0 := fun empty =>
      someBytes (List.eq_nil_of_length_eq_zero empty)
    rw [push, if_neg notEmpty, ← sameMax]
    exact trims_dropHead counted
  · intro complete
    rw [complete] at lossy
    rw [text, if_neg (fun isLost => Bool.false_ne_true (lossy.mpr isLost))]
  · intro isLossy
    rw [text, if_pos (lossy.mp isLossy)]
  · intro path
    have advertised : (reader.readFrom fromByte).spillPath =
        if (reader.readFrom fromByte).lossy ∧ reader.spillValid ∧
          reader.maxSpillBytes.any fun cap => reader.totalBytes ≤ cap then
          some reader.spillPath else none := rfl
    have valid := called.spillValid
    have within : (reader.maxSpillBytes.any fun cap => reader.totalBytes ≤ cap) = true ↔
        ∃ cap, maxSpillBytes = some cap ∧
          (calls.flatMap ReaderCall.bytes).length ≤ cap := by
      rw [called.maxSpillBytes, retains.total, Option.any_eq_true]
      simp only [decide_eq_true_eq]
    rw [advertised, called.spillPath, ← valid, ← within]
    split
    · next isSo =>
      rw [Option.some.injEq]
      exact ⟨fun same => ⟨same.symm, isSo⟩, fun both => both.1.symm⟩
    · next isNot =>
      exact ⟨(by intro impossible; cases impossible), fun both => absurd both.2 isNot⟩

end TailOutputReader

/-! ## A consumer that reads on -/

inductive PollEvent
  | push (bytes : List Octet)
  /-- A read from where the last one ended. -/
  | read
deriving DecidableEq

def PollEvent.bytes : PollEvent → List Octet
  | .push bytes => bytes
  | .read => []

/-- A reader and its consumer. -/
structure Polled where
  reader : TailOutputReader
  nextOffset : Nat := 0
  reads : List SubprocessOutputRead := []

namespace Polled

def handle (self : Polled) : PollEvent → Polled
  | .push bytes => { self with reader := self.reader.push bytes }
  | .read =>
      let read := self.reader.readFrom self.nextOffset
      { self with nextOffset := read.nextOffset, reads := self.reads ++ [read] }

/-- What is pushed between the reads, with what was not read before. -/
def segments : List Octet → List PollEvent → List (List Octet)
  | _, [] => []
  | unread, .push bytes :: rest => segments (unread ++ bytes) rest
  | unread, .read :: rest => unread :: segments [] rest

theorem flatten_segments (unread : List Octet) (events : List PollEvent) :
    (segments unread (events ++ [.read])).flatten =
      unread ++ events.flatMap PollEvent.bytes := by
  induction events generalizing unread with
  | nil => simp [segments]
  | cons event rest induction =>
      cases event with
      | push bytes =>
          rw [List.cons_append, segments, induction, List.flatMap_cons, PollEvent.bytes,
            List.append_assoc]
      | read =>
          rw [List.cons_append, segments, List.flatten_cons, induction, List.flatMap_cons]
          rfl

theorem segments_end_iff (unread : List Octet) (events : List PollEvent) (place : Nat) :
    (∃ first rest, segments unread events = first ++ rest ∧ first ≠ [] ∧
        first.flatten.length = place) ↔
      ∃ first rest, events = first ++ .read :: rest ∧
        unread.length + (first.flatMap PollEvent.bytes).length = place := by
  induction events generalizing unread place with
  | nil =>
      constructor
      · rintro ⟨first, rest, split, someFirst, -⟩
        exact absurd (List.append_eq_nil_iff.mp split.symm).1 someFirst
      · rintro ⟨first, rest, split, -⟩
        cases first <;> cases split
  | cons event later induction =>
      cases event with
      | push bytes =>
          rw [segments, induction]
          constructor
          · rintro ⟨first, rest, rfl, ends⟩
            refine ⟨.push bytes :: first, rest, rfl, ?_⟩
            rw [List.length_append] at ends
            rw [List.flatMap_cons, List.length_append, PollEvent.bytes]
            omega
          · rintro ⟨first, rest, split, ends⟩
            cases first with
            | nil => cases split
            | cons head tail =>
                cases split
                refine ⟨tail, rest, rfl, ?_⟩
                rw [List.flatMap_cons, List.length_append, PollEvent.bytes] at ends
                rw [List.length_append]
                omega
      | read =>
          rw [segments]
          constructor
          · rintro ⟨first, rest, split, someFirst, ends⟩
            cases first with
            | nil => exact absurd rfl someFirst
            | cons head tail =>
                rw [List.cons_append, List.cons.injEq] at split
                rcases split with ⟨rfl, split⟩
                cases tail with
                | nil =>
                    refine ⟨[], later, rfl, ?_⟩
                    simpa using ends
                | cons second others =>
                    rcases (induction [] (second :: others).flatten.length).mp
                        ⟨second :: others, rest, split, List.cons_ne_nil _ _, rfl⟩ with
                      ⟨before, behind, rfl, shorter⟩
                    refine ⟨.read :: before, behind, rfl, ?_⟩
                    rw [List.flatten_cons, List.length_append] at ends
                    rw [List.flatMap_cons, PollEvent.bytes, List.nil_append]
                    simp only [List.length_nil, Nat.zero_add] at shorter
                    omega
          · rintro ⟨first, rest, split, ends⟩
            cases first with
            | nil =>
                cases split
                refine ⟨[unread], segments [] later, rfl, List.cons_ne_nil _ _, ?_⟩
                simpa using ends
            | cons head tail =>
                cases split
                rcases (induction [] (tail.flatMap PollEvent.bytes).length).mpr
                    ⟨tail, rest, rfl, by simp⟩ with ⟨before, behind, isSplit, -, same⟩
                refine ⟨unread :: before, behind, by rw [isSplit]; rfl, List.cons_ne_nil _ _, ?_⟩
                rw [List.flatMap_cons, PollEvent.bytes, List.nil_append] at ends
                rw [List.flatten_cons, List.length_append]
                omega

theorem reads_segments {stream : List Octet} (polled : Polled) (events : List PollEvent)
    (retains : TailOutputReader.Retains stream polled.reader)
    (before : polled.nextOffset ≤ stream.length)
    (large : stream.length + (events.flatMap PollEvent.bytes).length ≤ polled.reader.maxBytes) :
    ∃ more, (events.foldl handle polled).reads = polled.reads ++ more ∧
      (∀ read ∈ more, read.lossy = false) ∧
      more.map SubprocessOutputRead.text =
        (segments (stream.drop polled.nextOffset) events).map bufferText := by
  induction events generalizing stream polled with
  | nil =>
      refine ⟨[], (List.append_nil _).symm, ?_, rfl⟩
      intro read member
      cases member
  | cons event later induction =>
      rw [List.flatMap_cons, List.length_append] at large
      cases event with
      | push bytes =>
          rw [PollEvent.bytes] at large
          have step := induction (polled.handle (.push bytes)) (retains.push bytes)
            (by
              change polled.nextOffset ≤ _
              rw [List.length_append]
              omega)
            (by
              change _ ≤ (polled.reader.push bytes).maxBytes
              rw [(TailOutputReader.push_fixed _ _).1, List.length_append]
              omega)
          have unread : (stream ++ bytes).drop polled.nextOffset =
              stream.drop polled.nextOffset ++ bytes :=
            List.drop_append_of_le_length before
          rcases step with ⟨more, reads, complete, texts⟩
          refine ⟨more, reads, complete, ?_⟩
          rw [texts, segments, ← unread]
          rfl
      | read =>
          rcases retains.readFrom polled.nextOffset with ⟨next, lossy, text⟩
          have nothingLost : ¬polled.nextOffset <
              stream.length - min stream.length polled.reader.maxBytes := by omega
          have step := induction (polled.handle .read) retains
            (Nat.le_of_eq next) (by
              rw [PollEvent.bytes, List.length_nil, Nat.zero_add] at large
              exact large)
          rcases step with ⟨more, reads, complete, texts⟩
          refine ⟨polled.reader.readFrom polled.nextOffset :: more, ?_, ?_, ?_⟩
          · rw [List.foldl_cons, reads, List.append_cons]
            rfl
          · refine List.forall_mem_cons.mpr ⟨?_, complete⟩
            exact Bool.eq_false_iff.mpr fun isLossy => nothingLost (lossy.mp isLossy)
          · have nothingUnread : stream.drop (polled.handle .read).nextOffset = [] :=
              List.drop_eq_nil_of_le (Nat.le_of_eq next.symm)
            rw [List.map_cons, segments, List.map_cons, texts, nothingUnread, text,
              if_neg nothingLost]

/-- A consumer that reads on until everything is read, from a reader that has room for the
whole stream: no read has lost anything and the texts together are the text of the stream
exactly when no read ends inside a character. -/
theorem texts_eq_iff (maxBytes : Nat) (maxSpillBytes : Option Nat) (spillPath : Text)
    (events : List PollEvent)
    (large : (events.flatMap PollEvent.bytes).length ≤ maxBytes) :
    let stream := events.flatMap PollEvent.bytes
    let polled := (events ++ [PollEvent.read]).foldl handle
      { reader :=
          { maxBytes := maxBytes, maxSpillBytes := maxSpillBytes, spillPath := spillPath } }
    ((∀ read ∈ polled.reads, read.lossy = false) ∧
        polled.reads.flatMap SubprocessOutputRead.text = bufferText stream) ↔
      ∀ first rest, events = first ++ .read :: rest →
        ¬CutsAt stream (first.flatMap PollEvent.bytes).length := by
  dsimp only
  have retains : TailOutputReader.Retains []
      { maxBytes := maxBytes, maxSpillBytes := maxSpillBytes, spillPath := spillPath } := by
    refine ⟨⟨rfl, ?_⟩, rfl, ?_⟩
    · simp
    · simp
  have whole : ((events ++ [PollEvent.read]).flatMap PollEvent.bytes).length =
      (events.flatMap PollEvent.bytes).length := by
    rw [List.flatMap_append, List.flatMap_singleton, PollEvent.bytes, List.append_nil]
  rcases reads_segments ⟨_, 0, []⟩ (events ++ [.read]) retains (Nat.le_refl _)
    (by rw [whole, List.length_nil, Nat.zero_add]; exact large) with
    ⟨reads, isReads, complete, texts⟩
  rw [List.nil_append] at isReads
  rw [isReads]
  have ends := Utf8.flatMap_bufferText_iff (segments [] (events ++ [.read]))
  have flat := flatten_segments [] events
  rw [List.nil_append] at flat
  rw [flat] at ends
  have together : reads.flatMap SubprocessOutputRead.text =
      (segments [] (events ++ [.read])).flatMap bufferText := by
    rw [List.flatMap_def, List.flatMap_def, texts]
    rfl
  rw [together, and_iff_right complete, ends]
  have never (stream : List Octet) : ¬CutsAt stream 0 := by
    rintro ⟨octet, -, continued⟩
    exact continued.1 rfl
  constructor
  · intro apart first rest split
    rcases (segments_end_iff [] (events ++ [.read]) _).mpr
        ⟨first, rest ++ [.read], by rw [split]; simp, rfl⟩ with ⟨before, behind, isSplit, -, same⟩
    rw [List.length_nil, Nat.zero_add] at same
    rw [← same]
    exact apart before behind isSplit
  · intro apart before behind isSplit cuts
    cases before with
    | nil => exact never _ cuts
    | cons head tail =>
        rcases (segments_end_iff [] (events ++ [.read]) _).mp
            ⟨head :: tail, behind, isSplit, List.cons_ne_nil _ _, rfl⟩ with
          ⟨first, rest, split, same⟩
        rw [List.length_nil, Nat.zero_add] at same
        rw [← same] at cuts
        rcases List.eq_nil_or_concat rest with rfl | ⟨front, last, rfl⟩
        · -- The last read ends at the end of the stream.
          rcases List.append_inj' split rfl with ⟨rfl, -⟩
          rcases cuts with ⟨octet, isThere, -⟩
          rw [List.getElem?_eq_none (Nat.le_refl _)] at isThere
          cases isThere
        · have earlier : events ++ [.read] = (first ++ .read :: front) ++ [last] := by
            simpa using split
          rcases List.append_inj' earlier rfl with ⟨rfl, -⟩
          exact apart first front rfl cuts

/-- A stream of one byte between two reads. -/
theorem texts_ascii_between_reads :
    let events := [PollEvent.push [0x61], .read, .push [0x62]]
    let polled := (events ++ [PollEvent.read]).foldl handle
      { reader := { maxBytes := 16, maxSpillBytes := none, spillPath := [] } }
    ((∀ read ∈ polled.reads, read.lossy = false) ∧
        polled.reads.flatMap SubprocessOutputRead.text =
          bufferText (events.flatMap PollEvent.bytes)) ↔
      ∀ first rest, events = first ++ .read :: rest →
        ¬CutsAt (events.flatMap PollEvent.bytes) (first.flatMap PollEvent.bytes).length :=
  texts_eq_iff 16 none [] [.push [0x61], .read, .push [0x62]] (by decide)

/-- A read between the two pushes of a euro sign. -/
theorem texts_of_split_euro :
    let events := [PollEvent.push [0xE2], .read, .push [0x82, 0xAC]]
    let polled := (events ++ [PollEvent.read]).foldl handle
      { reader := { maxBytes := 16, maxSpillBytes := none, spillPath := [] } }
    (events.flatMap PollEvent.bytes).length ≤ 16 ∧
      ¬((∀ read ∈ polled.reads, read.lossy = false) ∧
        polled.reads.flatMap SubprocessOutputRead.text =
          bufferText (events.flatMap PollEvent.bytes)) ∧
      polled.reads.flatMap SubprocessOutputRead.text = [0xFFFD, 0xFFFD, 0xFFFD] ∧
      bufferText (events.flatMap PollEvent.bytes) = [0x20AC] := by
  decide +kernel

end Polled

end DshRemote.Subprocess
