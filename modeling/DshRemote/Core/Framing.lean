import DshRemote.Foundation.Json
import DshRemote.Foundation.Lines

/-! # The framing of the byte stream

Every message is one line of compact JSON. A `LineDecoder` is fed the chunks of the stream
as they come, and keeps the decoder of the octets and the text of the unfinished line
between them. A call returns the decoder with what it returned or threw. -/

namespace DshRemote

namespace Framing

def defaultMaxLineBytes : Nat := 8 * 1024 * 1024

def newline : CodeUnit := Json.ascii '\n'

/-- What `String.prototype.trim` removes: white space and line terminators. -/
def IsTrimmed (unit : CodeUnit) : Prop :=
  0x09 ≤ unit.val ∧ unit.val ≤ 0x0D ∨ unit.val = 0x20 ∨ unit.val = 0xA0 ∨ unit.val = 0x1680 ∨
    0x2000 ≤ unit.val ∧ unit.val ≤ 0x200A ∨ unit.val = 0x2028 ∨ unit.val = 0x2029 ∨
    unit.val = 0x202F ∨ unit.val = 0x205F ∨ unit.val = 0x3000 ∨ unit.val = 0xFEFF

instance (unit : CodeUnit) : Decidable (IsTrimmed unit) := instDecidableOr

/-- `raw.trim() === ''`. -/
def IsBlank (raw : Text) : Prop := ∀ unit ∈ raw, IsTrimmed unit

instance (raw : Text) : Decidable (IsBlank raw) := List.decidableBAll IsTrimmed raw

/-- What a call throws. -/
inductive Failure
  /-- A `RemoteError` with the code `REMOTE_PROTOCOL_ERROR`. -/
  | protocol (message : String)
  /-- The error of `JSON.parse` for a line. -/
  | invalidJson (raw : Text)

end Framing

structure LineDecoder where
  maxLineBytes : Nat := Framing.defaultMaxLineBytes
  decoder : Utf8.TextDecoder := {}
  tail : Text := []
  lineBytes : Nat := 0
  /-- A handler for invalid lines was installed. -/
  onInvalidLine : Bool := false
  /-- The lines that the handler was called with. -/
  reported : List Text := []

section Framing

open Framing

variable {Number : Type} (format : Json.NumberFormat Number)

def encodeLine (value : Json Number) : List Octet :=
  Utf8.encode (Json.stringify format value ++ [newline])

namespace LineDecoder

/-- The constructor. -/
def create (maxLineBytes : Nat) (onInvalidLine : Bool) : LineDecoder where
  maxLineBytes := maxLineBytes
  onInvalidLine := onInvalidLine

/-- The loop of `push`, with the values it has collected so far. -/
def takeLines (self : LineDecoder) (out : List (Json Number)) :
    LineDecoder × Except Failure (List (Json Number)) :=
  if _present : newline ∈ self.tail then
    let nl := self.tail.idxOf newline
    let raw := self.tail.take nl
    let tail := self.tail.drop (nl + 1)
    let next := { self with tail := tail, lineBytes := (Utf8.encode tail).length }
    if IsBlank raw then next.takeLines out
    else
      match Json.parse format raw with
      | some value => next.takeLines (out ++ [value])
      | none =>
          if self.onInvalidLine then
            { next with reported := next.reported ++ [raw] }.takeLines out
          else (next, .error (.invalidJson raw))
  else (self, .ok out)
termination_by self.tail.length
decreasing_by
  all_goals
    have shorter := List.length_pos_of_mem _present
    simp only [List.length_drop]
    omega

def push (self : LineDecoder) (chunk : List Octet) :
    LineDecoder × Except Failure (List (Json Number)) :=
  let lineBytes := self.lineBytes + chunk.length
  let counted := { self with lineBytes := lineBytes }
  if lineBytes > self.maxLineBytes then
    (counted, .error (.protocol
      ("framing line exceeds the " ++ toString self.maxLineBytes ++ "-byte limit")))
  else
    let decoded := self.decoder.decode chunk true
    { counted with decoder := decoded.1, tail := self.tail ++ decoded.2 }.takeLines format []

def flush (self : LineDecoder) : LineDecoder × Except Failure Unit :=
  let decoded := self.decoder.decode [] false
  let rest := self.tail ++ decoded.2
  ({ self with decoder := decoded.1, tail := [], lineBytes := 0 },
    if IsBlank rest then .ok ⟨⟩ else .error (.protocol "stream ended with a truncated line"))

/-- The chunks of a stream pushed one after another, up to the first error. -/
def pushAll (self : LineDecoder) :
    List (List Octet) → LineDecoder × Except Failure (List (Json Number))
  | [] => (self, .ok [])
  | chunk :: later =>
      match self.push format chunk with
      | (next, .error failure) => (next, .error failure)
      | (next, .ok out) =>
          match next.pushAll later with
          | (last, .error failure) => (last, .error failure)
          | (last, .ok more) => (last, .ok (out ++ more))

end LineDecoder

end Framing

end DshRemote
