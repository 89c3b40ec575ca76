import DshRemote.Core.DataFrames
import DshRemote.Protocol

/-! # One channel of a multiplexed stream

The endpoint of a channel keeps the chunks that its reader has not asked for. A reader that
asks when there is none waits for the next one. -/

namespace DshRemote

open Json

structure ChannelError where
  code : RemoteErrorCode
  message : Text
deriving DecidableEq

/-- How a channel has ended. -/
inductive ChannelEnd
  | done
  | failed (error : ChannelError)
deriving DecidableEq

structure MuxChannel (Number : Type) where
  id : Number
  type : Text
  maxQueuedBytes : Nat
  queue : List (List Octet) := []
  queuedBytes : Nat := 0
  waiter : Bool := false
  /-- `none` while the channel is open. -/
  ended : Option ChannelEnd := none

/-- What a reader gets: a chunk, or the end of the channel. -/
inductive Pulled
  | chunk (value : List Octet)
  | ended (ending : ChannelEnd)
deriving DecidableEq

def Pulled.value : Pulled → Option (List Octet)
  | .chunk value => some value
  | .ended _ => none

/-- What an operation makes visible. -/
structure ChannelOutput (Number : Type) where
  frames : List (DataFrame Number) := []
  pulled : Option Pulled := none
  /-- `onClose` is resolved. -/
  closed : Bool := false

namespace MuxChannel

variable {Number : Type} (format : CountingFormat Number)

/-- The constructor. -/
def create (id : Number) (type : Text) (maxQueuedBytes : Nat) : MuxChannel Number where
  id := id
  type := type
  maxQueuedBytes := maxQueuedBytes

def closedMessage (id : Number) : Text :=
  asciiText "channel " ++ format.print id ++ asciiText " is closed"

def write (self : MuxChannel Number) (chunk : List Octet) :
    Except ChannelError (DataFrame Number) :=
  if self.ended.isSome then .error ⟨.connLost, closedMessage format self.id⟩
  else .ok { channel := self.id, type := .data, payload := some chunk }

def drainWaiter (self : MuxChannel Number) : MuxChannel Number × Option Pulled :=
  if !self.waiter then (self, none)
  else
    let served := { self with waiter := false }
    match self.queue with
    | value :: rest =>
        ({ served with queue := rest, queuedBytes := self.queuedBytes - value.length },
          some (.chunk value))
    | [] => (served, some (.ended (self.ended.getD .done)))

def finish (self : MuxChannel Number) (ending : ChannelEnd) :
    MuxChannel Number × ChannelOutput Number :=
  if self.ended.isSome then (self, {})
  else
    let drained := { self with ended := some ending }.drainWaiter
    (drained.1, { pulled := drained.2, closed := true })

def close (self : MuxChannel Number) : MuxChannel Number × ChannelOutput Number :=
  if self.ended.isSome then (self, {})
  else
    let finished := self.finish .done
    (finished.1, { finished.2 with frames := [{ channel := self.id, type := .ending }] })

def exceededMessage (self : MuxChannel Number) : Text :=
  asciiText "channel " ++ format.print self.id ++ asciiText " exceeded " ++
    printNat self.maxQueuedBytes ++ asciiText " queued bytes"

/-- `_data`. -/
def data (self : MuxChannel Number) (payload : List Octet) :
    MuxChannel Number × ChannelOutput Number :=
  if self.ended.isSome then (self, {})
  else if self.waiter then ({ self with waiter := false }, { pulled := some (.chunk payload) })
  else if self.queuedBytes + payload.length > self.maxQueuedBytes then
    let message := self.exceededMessage format
    let finished := self.finish (.failed ⟨.protocolError, message⟩)
    (finished.1,
      { finished.2 with frames := [{ channel := self.id, type := .error, message := some message }] })
  else
    ({ self with
        queue := self.queue ++ [payload], queuedBytes := self.queuedBytes + payload.length }, {})

/-- `#pull`: what the reader gets at once, unless it waits. -/
def pull (self : MuxChannel Number) : MuxChannel Number × Option Pulled :=
  match self.queue with
  | value :: rest =>
      ({ self with queue := rest, queuedBytes := self.queuedBytes - value.length },
        some (.chunk value))
  | [] =>
      match self.ended with
      | some ending => (self, some (.ended ending))
      | none => ({ self with waiter := true }, none)

/-- A reader asks. -/
def ask (self : MuxChannel Number) : MuxChannel Number × ChannelOutput Number :=
  (self.pull.1, { pulled := self.pull.2 })

/-! ## What holds of a channel -/

/-- A reader waits only for an open channel that has nothing queued. -/
structure Sound (channel : MuxChannel Number) : Prop where
  waits : channel.waiter = true → channel.queue = [] ∧ channel.ended = none
  counted : channel.queuedBytes = (channel.queue.map List.length).sum
  bounded : channel.queuedBytes ≤ channel.maxQueuedBytes

theorem sound_create (id : Number) (type : Text) (maxQueuedBytes : Nat) :
    (create id type maxQueuedBytes).Sound :=
  ⟨nofun, rfl, Nat.zero_le _⟩

section Operations

variable {channel : MuxChannel Number}

theorem finish_ended {ending : ChannelEnd} (isEnded : channel.ended = some ending)
    (later : ChannelEnd) : channel.finish later = (channel, {}) := by
  rw [finish, isEnded]
  rfl

theorem finish_open (sound : channel.Sound) (isOpen : channel.ended = none)
    (ending : ChannelEnd) :
    channel.finish ending =
      ({ channel with waiter := false, ended := some ending },
        { pulled := if channel.waiter then some (.ended ending) else none, closed := true }) := by
  rw [finish, isOpen, drainWaiter]
  cases waits : channel.waiter with
  | false =>
      rcases channel with ⟨_, _, _, _, _, _, _⟩
      cases waits
      rfl
  | true =>
      rw [(sound.waits waits).1]
      rfl

theorem close_ended {ending : ChannelEnd} (isEnded : channel.ended = some ending) :
    channel.close = (channel, {}) := by
  rw [close, isEnded]
  rfl

theorem close_open (sound : channel.Sound) (isOpen : channel.ended = none) :
    channel.close =
      ({ channel with waiter := false, ended := some .done },
        { frames := [{ channel := channel.id, type := .ending }]
          pulled := if channel.waiter then some (.ended .done) else none
          closed := true }) := by
  rw [close, finish_open sound isOpen, isOpen]
  rfl

theorem data_ended {ending : ChannelEnd} (isEnded : channel.ended = some ending)
    (payload : List Octet) : channel.data format payload = (channel, {}) := by
  rw [data, isEnded]
  rfl

/-- The queue has room for a chunk, or a reader waits for it. -/
def Accepts (channel : MuxChannel Number) (payload : List Octet) : Prop :=
  channel.waiter = true ∨ channel.queuedBytes + payload.length ≤ channel.maxQueuedBytes

instance (payload : List Octet) : Decidable (channel.Accepts payload) := instDecidableOr

/-- An open channel after a chunk that it accepts. -/
def accept (channel : MuxChannel Number) (payload : List Octet) : MuxChannel Number :=
  if channel.waiter then { channel with waiter := false }
  else
    { channel with
      queue := channel.queue ++ [payload], queuedBytes := channel.queuedBytes + payload.length }

theorem data_accepted (isOpen : channel.ended = none) {payload : List Octet}
    (accepts : channel.Accepts payload) :
    channel.data format payload =
      (channel.accept payload,
        { pulled := if channel.waiter then some (.chunk payload) else none }) := by
  rw [data, if_neg (by rw [isOpen]; exact Bool.false_ne_true), accept]
  cases waits : channel.waiter with
  | true => rfl
  | false =>
      have room := accepts.resolve_left (by rw [waits]; exact Bool.false_ne_true)
      simp only [Bool.false_eq_true, if_false, gt_iff_lt, Nat.not_lt.mpr room]

theorem data_exceeding (sound : channel.Sound) (isOpen : channel.ended = none)
    {payload : List Octet} (exceeds : ¬channel.Accepts payload) :
    channel.data format payload =
      ({ channel with
          waiter := false
          ended := some (.failed ⟨.protocolError, channel.exceededMessage format⟩) },
        { frames := [{ channel := channel.id, type := .error,
                       message := some (channel.exceededMessage format) }]
          closed := true }) := by
  have notWaiting : channel.waiter = false := by
    cases waits : channel.waiter with
    | false => rfl
    | true => exact absurd (Or.inl waits) exceeds
  have full : channel.queuedBytes + payload.length > channel.maxQueuedBytes :=
    Nat.lt_of_not_le fun room => exceeds (Or.inr room)
  rw [data, if_neg (by rw [isOpen]; exact Bool.false_ne_true)]
  simp only [finish_open sound isOpen, notWaiting, Bool.false_eq_true, if_false, full, if_true]

theorem pull_chunk {value : List Octet} {rest : List (List Octet)}
    (queued : channel.queue = value :: rest) :
    channel.pull =
      ({ channel with queue := rest, queuedBytes := channel.queuedBytes - value.length },
        some (.chunk value)) := by
  rw [pull, queued]

theorem pull_ended (empty : channel.queue = []) {ending : ChannelEnd}
    (isEnded : channel.ended = some ending) :
    channel.pull = (channel, some (.ended ending)) := by
  rw [pull, empty, isEnded]

theorem pull_waits (empty : channel.queue = []) (isOpen : channel.ended = none) :
    channel.pull = ({ channel with waiter := true }, none) := by
  rw [pull, empty, isOpen]

theorem pull_frame (channel : MuxChannel Number) :
    channel.pull.1.id = channel.id ∧ channel.pull.1.maxQueuedBytes = channel.maxQueuedBytes ∧
      channel.pull.1.ended = channel.ended := by
  rw [pull]
  split
  · exact ⟨rfl, rfl, rfl⟩
  · split <;> exact ⟨rfl, rfl, rfl⟩

theorem accept_frame (channel : MuxChannel Number) (payload : List Octet) :
    (channel.accept payload).id = channel.id ∧
      (channel.accept payload).maxQueuedBytes = channel.maxQueuedBytes ∧
        (channel.accept payload).ended = channel.ended := by
  rw [accept]
  split <;> exact ⟨rfl, rfl, rfl⟩

/-! Chunks leave in the order in which they came. -/

theorem accept_fifo (sound : channel.Sound) (payload : List Octet) :
    ((if channel.waiter then some (Pulled.chunk payload) else none).bind Pulled.value).toList ++
        (channel.accept payload).queue = channel.queue ++ [payload] := by
  have empty := fun waits => (sound.waits waits).1
  rcases channel with ⟨_, _, _, queue, _, waiter, _⟩
  cases waiter with
  | false => rfl
  | true =>
      cases show queue = [] from empty rfl
      rfl

theorem pull_fifo (channel : MuxChannel Number) :
    (channel.pull.2.bind Pulled.value).toList ++ channel.pull.1.queue = channel.queue := by
  cases queue : channel.queue with
  | cons value rest =>
      rw [pull_chunk queue]
      rfl
  | nil =>
      cases ended : channel.ended with
      | none =>
          rw [pull_waits queue ended]
          exact queue
      | some ending =>
          rw [pull_ended queue ended]
          exact queue

theorem Sound.accept (sound : channel.Sound) {payload : List Octet}
    (accepts : channel.Accepts payload) : (channel.accept payload).Sound := by
  rw [MuxChannel.accept]
  cases waits : channel.waiter with
  | true =>
      rw [if_pos rfl]
      exact ⟨nofun, sound.counted, sound.bounded⟩
  | false =>
      rw [if_neg Bool.false_ne_true]
      exact
        { waits := nofun
          counted := by
            show channel.queuedBytes + payload.length =
              ((channel.queue ++ [payload]).map List.length).sum
            rw [List.map_append, List.sum_append, ← sound.counted]
            rfl
          bounded := accepts.resolve_left (by rw [waits]; exact Bool.false_ne_true) }

theorem Sound.finish (sound : channel.Sound) (ending : ChannelEnd) :
    ({ channel with waiter := false, ended := some ending } : MuxChannel Number).Sound :=
  ⟨nofun, sound.counted, sound.bounded⟩

theorem Sound.pull (sound : channel.Sound) (notWaiting : channel.waiter = false) :
    channel.pull.1.Sound := by
  have waitless : channel.waiter = true → False := fun waiting =>
    Bool.false_ne_true (notWaiting.symm.trans waiting)
  cases queue : channel.queue with
  | cons value rest =>
      have counted := sound.counted
      rw [queue, List.map_cons, List.sum_cons] at counted
      rw [pull_chunk queue]
      exact
        { waits := fun waiting => (waitless waiting).elim
          counted := Nat.sub_eq_of_eq_add (counted.trans (Nat.add_comm _ _))
          bounded := (Nat.sub_le _ _).trans sound.bounded }
  | nil =>
      cases ended : channel.ended with
      | none =>
          rw [pull_waits queue ended]
          exact ⟨fun _ => ⟨queue, ended⟩, sound.counted, sound.bounded⟩
      | some ending =>
          rw [pull_ended queue ended]
          exact sound

end Operations

end MuxChannel

end DshRemote
