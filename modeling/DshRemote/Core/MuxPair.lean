import DshRemote.Core.ChannelMux
import DshRemote.Foundation.Execution

/-! # Two muxes

The frames that a mux sends are the lines that the other one gets, in their order. An endpoint
keeps what has happened at it: what it sent, how much of the other's frames it has got, what
its readers have got, and what was written and closed. -/

namespace DshRemote

open Json

inductive Side
  | left
  | right
deriving DecidableEq

def Side.other : Side → Side
  | .left => .right
  | .right => .left

namespace Side

theorem other_other (side : Side) : side.other.other = side := by cases side <;> rfl

theorem other_ne (side : Side) : side.other ≠ side := by cases side <;> decide

theorem eq_or_other (side place : Side) : place = side ∨ place = side.other := by
  cases side <;> cases place <;> simp [other]

end Side

structure Endpoint (Number : Type) where
  mux : ChannelMux Number
  sent : List (MuxFrame Number) := []
  /-- How many frames of the other endpoint have come in. -/
  handled : Nat := 0
  pulled : List (Nat × Pulled) := []
  /-- The chunks that were written to an open channel. -/
  written : List (Number × List Octet) := []
  /-- The channels that were open when they were closed here. -/
  closes : List Number := []

abbrev MuxPair (Number : Type) := Side → Endpoint Number

inductive PairEvent (Number : Type)
  /-- Anything but a line. -/
  | act (side : Side) (event : MuxEvent Number)
  /-- The next frame of the other endpoint comes in. -/
  | receive (side : Side)

variable {Number : Type} [DecidableEq Number] (format : CountingFormat Number)

def MuxFrame.opened : MuxFrame Number → Option Number
  | .opening frame => some frame.channel
  | .data _ => none

/-- The ids of the channels that are opened by frames. -/
def openedBy (frames : List (MuxFrame Number)) : List Number := frames.filterMap MuxFrame.opened

namespace Endpoint

def pulledOf (endpoint : Endpoint Number) (index : Nat) : List Pulled :=
  endpoint.pulled.filterMap fun entry => if entry.1 = index then some entry.2 else none

/-- The chunks that the reader of a channel has got. -/
def chunksOf (endpoint : Endpoint Number) (index : Nat) : List (List Octet) :=
  (endpoint.pulledOf index).filterMap Pulled.value

/-- The chunks that a channel has taken in: those its reader has got, and those it keeps. -/
def takenBy (endpoint : Endpoint Number) (index : Nat) : List (List Octet) :=
  endpoint.chunksOf index ++ (endpoint.mux.objects[index]?.map MuxChannel.queue).getD []

omit [DecidableEq Number] in
theorem pulledOf_of_pulled {before after : Endpoint Number} {index : Nat} {pulled : Option Pulled}
    (log : after.pulled = before.pulled ++ pulled.toList.map fun pulled => (index, pulled))
    (position : Nat) :
    after.pulledOf position =
      before.pulledOf position ++ if position = index then pulled.toList else [] := by
  rw [pulledOf, log, List.filterMap_append, ← pulledOf]
  congr 1
  cases pulled with
  | none => split <;> rfl
  | some item =>
      by_cases same : position = index
      · simp [same]
      · simp [same, Ne.symm same]

def idOf (endpoint : Endpoint Number) (index : Nat) : Option Number :=
  endpoint.mux.objects[index]?.map MuxChannel.id

def writtenOn (endpoint : Endpoint Number) (id : Number) : List (List Octet) :=
  endpoint.written.filterMap fun entry => if entry.1 = id then some entry.2 else none

/-- An endpoint after an event of its mux. -/
def after (endpoint : Endpoint Number) (event : MuxEvent Number)
    (result : ChannelMux Number × MuxOutput Number) : Endpoint Number :=
  { endpoint with
    mux := result.1
    sent := endpoint.sent ++ result.2.frames
    pulled := endpoint.pulled ++ result.2.pulled
    written :=
      match event, result.2.thrown with
      | .write index chunk, none =>
          endpoint.written ++ (endpoint.idOf index).toList.map fun id => (id, chunk)
      | _, _ => endpoint.written
    closes :=
      match event, result.2.frames with
      | .close index, _ :: _ => endpoint.closes ++ (endpoint.idOf index).toList
      | _, _ => endpoint.closes }

end Endpoint

namespace MuxPair

/-- Both muxes are new. -/
def start (maxQueuedBytes : Side → Nat) : MuxPair Number :=
  fun side => { mux := { maxQueuedBytes := maxQueuedBytes side } }

/-- No id is opened twice, on whichever side. -/
def Possible (pair : MuxPair Number) : PairEvent Number → Prop
  | .act _ (.line _) => False
  | .act side (.openChannel id _) =>
      id ∉ openedBy (pair side).sent ∧ id ∉ openedBy (pair side.other).sent
  | .act side event => (pair side).mux.Possible event
  | .receive side =>
      (pair side).mux.closed = false ∧ (pair side).handled < (pair side.other).sent.length

instance (pair : MuxPair Number) : (event : PairEvent Number) → Decidable (pair.Possible event)
  | .act _ (.line _) => instDecidableFalse
  | .act _ (.openChannel _ _) => instDecidableAnd
  | .act side .onChannel => inferInstanceAs (Decidable ((pair side).mux.Possible .onChannel))
  | .act side (.write index chunk) =>
      inferInstanceAs (Decidable ((pair side).mux.Possible (.write index chunk)))
  | .act side (.close index) =>
      inferInstanceAs (Decidable ((pair side).mux.Possible (.close index)))
  | .act side (.pull index) => inferInstanceAs (Decidable ((pair side).mux.Possible (.pull index)))
  | .act side .streamEnded => inferInstanceAs (Decidable ((pair side).mux.Possible .streamEnded))
  | .act side (.removed index) =>
      inferInstanceAs (Decidable ((pair side).mux.Possible (.removed index)))
  | .receive _ => instDecidableAnd

def perform (pair : MuxPair Number) : PairEvent Number → MuxPair Number
  | .act side event =>
      Function.update pair side
        ((pair side).after event ((pair side).mux.perform format event))
  | .receive side =>
      match (pair side.other).sent[(pair side).handled]? with
      | none => pair
      | some frame =>
          let event := .line (frame.object format)
          Function.update pair side
            { (pair side).after event ((pair side).mux.perform format event) with
              handled := (pair side).handled + 1 }

def step (pair : MuxPair Number) (event : PairEvent Number) : Option (MuxPair Number) :=
  if pair.Possible event then some (pair.perform format event) else none

end MuxPair

end DshRemote
