import DshRemote.Foundation.Utf8

/-! # `TailOutputReader`

The tail of one collected stream that is kept in memory, with reads at offsets of the whole
stream. The remote spill file is advertised when a read has lost its head and the spill is
known to hold the stream. -/

namespace DshRemote.Subprocess

structure TailOutputReader where
  maxBytes : Nat
  /-- The cap of the spill, when there is one. -/
  maxSpillBytes : Option Nat
  spillPath : Text
  chunks : List (List Octet) := []
  retainedBytes : Nat := 0
  totalBytes : Nat := 0
  spillValid : Bool := true
deriving DecidableEq

structure SubprocessOutputRead where
  text : Text
  nextOffset : Nat
  lossy : Bool
  spillPath : Option Text
deriving DecidableEq

namespace TailOutputReader

/-- The loop that drops the head beyond the cap. -/
def dropHead (maxBytes : Nat) : List (List Octet) → Nat → List (List Octet) × Nat
  | [], retained => ([], retained)
  | head :: rest, retained =>
      if retained ≤ maxBytes then (head :: rest, retained)
      else if head.length ≤ retained - maxBytes then
        dropHead maxBytes rest (retained - head.length)
      else (head.drop (retained - maxBytes) :: rest, maxBytes)

def push (self : TailOutputReader) (bytes : List Octet) : TailOutputReader :=
  if bytes.length = 0 then self
  else
    let dropped := dropHead self.maxBytes (self.chunks ++ [bytes])
      (self.retainedBytes + bytes.length)
    { self with
      totalBytes := self.totalBytes + bytes.length
      chunks := dropped.1
      retainedBytes := dropped.2 }

def invalidateSpill (self : TailOutputReader) : TailOutputReader :=
  { self with spillValid := false }

/-- `Buffer.concat(chunks, retainedBytes)`. -/
def retained (self : TailOutputReader) : List Octet := self.chunks.flatten.take self.retainedBytes

def readFrom (self : TailOutputReader) (fromByte : Nat) : SubprocessOutputRead :=
  let firstRetained := self.totalBytes - self.retainedBytes
  let lossy : Bool := fromByte < firstRetained
  let start := if lossy then 0 else min self.retained.length (fromByte - firstRetained)
  { text := Utf8.bufferText (self.retained.drop start)
    nextOffset := self.totalBytes
    lossy := lossy
    spillPath :=
      if lossy ∧ self.spillValid ∧ self.maxSpillBytes.any fun cap => self.totalBytes ≤ cap then
        some self.spillPath
      else none }

/-- The retained bytes are counted, and as many as fit of those that were pushed. -/
structure WellFormed (reader : TailOutputReader) : Prop where
  counted : reader.chunks.flatten.length = reader.retainedBytes
  bounded : reader.retainedBytes = min reader.totalBytes reader.maxBytes

variable {self : TailOutputReader}

theorem dropHead_spec {maxBytes : Nat} {chunks : List (List Octet)} {retained : Nat}
    (counted : chunks.flatten.length = retained) :
    (dropHead maxBytes chunks retained).1.flatten.length = (dropHead maxBytes chunks retained).2 ∧
      (dropHead maxBytes chunks retained).2 = min retained maxBytes := by
  induction chunks generalizing retained with
  | nil =>
      rw [List.flatten_nil, List.length_nil] at counted
      subst counted
      simp [dropHead]
  | cons head rest induction =>
      rw [List.flatten_cons, List.length_append] at counted
      rw [dropHead]
      split
      · next fits =>
        refine ⟨?_, (Nat.min_eq_left fits).symm⟩
        rw [List.flatten_cons, List.length_append, counted]
      · next large =>
        split
        · next whole =>
          have counted' : rest.flatten.length = retained - head.length := by omega
          have spec := induction counted'
          refine ⟨spec.1, ?_⟩
          rw [spec.2]
          omega
        · next part =>
          refine ⟨?_, (Nat.min_eq_right (by omega)).symm⟩
          rw [List.flatten_cons, List.length_append, List.length_drop]
          dsimp only
          omega

/-- Only the part of the stream beyond the cap is dropped. -/
theorem WellFormed.push (wellFormed : self.WellFormed) (bytes : List Octet) :
    (self.push bytes).WellFormed := by
  rw [TailOutputReader.push]
  split
  · exact wellFormed
  · have counted : (self.chunks ++ [bytes]).flatten.length = self.retainedBytes + bytes.length := by
      rw [List.flatten_append, List.length_append, wellFormed.counted]
      simp
    have spec := @dropHead_spec self.maxBytes _ _ counted
    refine ⟨spec.1, ?_⟩
    dsimp only
    rw [spec.2, wellFormed.bounded]
    omega

theorem totalBytes_push (self : TailOutputReader) (bytes : List Octet) :
    (self.push bytes).totalBytes = self.totalBytes + bytes.length := by
  rw [push]
  split
  · next empty => rw [empty, Nat.add_zero]
  · rfl

theorem push_fixed (self : TailOutputReader) (bytes : List Octet) :
    (self.push bytes).maxBytes = self.maxBytes ∧
      (self.push bytes).maxSpillBytes = self.maxSpillBytes ∧
      (self.push bytes).spillValid = self.spillValid := by
  rw [push]
  split
  · exact ⟨rfl, rfl, rfl⟩
  · exact ⟨rfl, rfl, rfl⟩

/-- A spill is advertised for a stream that has outgrown the memory and not the spill. -/
theorem WellFormed.advertised (wellFormed : self.WellFormed) {fromByte : Nat}
    (advertised : (self.readFrom fromByte).spillPath.isSome = true) :
    self.spillValid = true ∧ self.maxBytes < self.totalBytes ∧
      ∃ cap, self.maxSpillBytes = some cap ∧ self.totalBytes ≤ cap := by
  rw [readFrom] at advertised
  dsimp only at advertised
  split at advertised
  · next isSo =>
    rcases isSo with ⟨lossy, valid, within⟩
    have bounded := wellFormed.bounded
    have lost : fromByte < self.totalBytes - self.retainedBytes := of_decide_eq_true lossy
    refine ⟨valid, by omega, ?_⟩
    cases cap : self.maxSpillBytes with
    | none =>
        rw [cap] at within
        cases within
    | some size =>
        rw [cap] at within
        exact ⟨size, rfl, of_decide_eq_true within⟩
  · cases advertised

end TailOutputReader

end DshRemote.Subprocess
