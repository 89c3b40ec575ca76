import DshRemote.Foundation.BufferEncodings
import DshRemote.Foundation.Execution
import DshRemote.Subprocess.SpawnHeader

/-! # Standard input before there is a channel

`DeferredStdin`: a `Writable` whose writes wait for the launch of the process. It calls `_write`
one at a time, keeps what comes meanwhile, and calls `_final` when all is written. The promise
of the launch is resolved in the same turn in which the header is written, after the one and
before the other. -/

namespace DshRemote.Subprocess

open Utf8 (encode)

/-! ## Chunks -/

inductive Chunk where
  | buffer (octets : List Octet)
  /-- `decodeStrings: false`: a string comes as it is, with the name of its encoding. -/
  | string (text : Text) (encoding : Encoding)
deriving DecidableEq, Repr

namespace Chunk

/-- What the channel makes of `proc.write`: a string is written as UTF-8. -/
def carried : Chunk → List Octet
  | .buffer octets => octets
  | .string text _ => encode text

/-- What the caller's write stands for. -/
def denoted : Chunk → List Octet
  | .buffer octets => octets
  | .string text encoding => encoding.octets text

def IsTransparent : Chunk → Prop
  | .buffer _ => True
  | .string text encoding => encoding.IsTransparent text

instance (chunk : Chunk) : Decidable chunk.IsTransparent :=
  match chunk with
  | .buffer _ => isTrue trivial
  | .string text encoding => inferInstanceAs (Decidable (encoding.IsTransparent text))

theorem carried_eq_denoted_iff (chunk : Chunk) :
    chunk.carried = chunk.denoted ↔ chunk.IsTransparent := by
  cases chunk with
  | buffer octets => exact iff_of_true rfl trivial
  | string text encoding => exact Encoding.encode_eq_octets_iff encoding text

end Chunk

/-! ## The stream -/

/-- What has been called on the process. -/
inductive StdinCall where
  | write (octets : List Octet)
  | endStdin
deriving DecidableEq, Repr

namespace StdinCall

def octets : StdinCall → List Octet
  | .write octets => octets
  | .endStdin => []

end StdinCall

/-- The promise of the launch. -/
inductive Ready where
  | pending
  | resolved
  | rejected
deriving DecidableEq, Repr

/-- What the `Writable` waits for: nothing, the callback of `_write`, that of `_final`. The
callback comes after the call on the process, if that has been made. -/
inductive Operation where
  | idle
  | writing (chunk : Chunk) (called : Bool)
  | finalizing (called : Bool)
  | finished
deriving DecidableEq, Repr

structure DeferredStdin where
  ready : Ready := .pending
  sent : List StdinCall := []
  operation : Operation := .idle
  buffered : List Chunk := []
  ending : Bool := false
  destroyed : Bool := false
deriving DecidableEq, Repr

inductive StdinEvent where
  | write (chunk : Chunk)
  | ended
  /-- The channel is there. -/
  | launched
  | launchFailed
  /-- What `_write` or `_final` has asked for when the process would be there. -/
  | called
  /-- The callback of `_write` or `_final`. -/
  | settled
  /-- The callback with the error of the launch. -/
  | failed
  /-- `_final`. -/
  | finalized
deriving DecidableEq, Repr

namespace DeferredStdin

/-- `errorOrDestroy`: what is buffered is dropped. -/
def destroy (self : DeferredStdin) : DeferredStdin :=
  { self with destroyed := true, buffered := [] }

/-- `launched.resolve`. -/
def resolve (self : DeferredStdin) : DeferredStdin := { self with ready := .resolved }

/-- `proc.write`, `proc.endStdin`. -/
def send (self : DeferredStdin) (call : StdinCall) : DeferredStdin :=
  { self with sent := self.sent ++ [call] }

variable (header : Text)

def step (self : DeferredStdin) : StdinEvent → Option DeferredStdin
  | .write chunk =>
      -- `ERR_STREAM_WRITE_AFTER_END`
      if self.ending then some self.destroy
      else if self.destroyed then some self
      else if self.operation = .idle then some { self with operation := .writing chunk false }
      else some { self with buffered := self.buffered ++ [chunk] }
  | .ended => some (if self.destroyed then self else { self with ending := true })
  | .launched =>
      if self.ready = .pending then some (self.resolve.send (.write (encode header))) else none
  | .launchFailed =>
      if self.ready = .pending then some { self with ready := .rejected } else none
  | .called =>
      match self.ready, self.operation with
      | .resolved, .writing chunk false =>
          some { self.send (.write chunk.carried) with operation := .writing chunk true }
      | .resolved, .finalizing false =>
          some { self.send .endStdin with operation := .finalizing true }
      | _, _ => none
  | .settled =>
      match self.operation, self.buffered with
      | .writing _ true, [] => some { self with operation := .idle }
      | .writing _ true, next :: rest =>
          some { self with operation := .writing next false, buffered := rest }
      | .finalizing true, _ => some { self with operation := .finished }
      | _, _ => none
  | .failed =>
      match self.ready, self.operation with
      | .rejected, .writing _ false => some { self.destroy with operation := .idle }
      | .rejected, .finalizing false => some { self.destroy with operation := .idle }
      | _, _ => none
  | .finalized =>
      if self.ending ∧ self.operation = .idle ∧ self.buffered = [] ∧ ¬self.destroyed then
        some { self with operation := .finalizing false }
      else none

def start : DeferredStdin := {}

end DeferredStdin

end DshRemote.Subprocess
