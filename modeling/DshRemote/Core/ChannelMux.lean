import DshRemote.Core.MuxChannel
import DshRemote.Foundation.OrderedMap

/-! # Channels multiplexed over one stream

A mux keeps its channels in a map under their ids. A channel that has ended stays in the map
until the callback of its `onClose` removes it, and its reader may still read. Therefore the
channels are numbered in the order of their creation, and the map holds their numbers. -/

namespace DshRemote

open Json

inductive MuxFrame (Number : Type)
  | opening (frame : OpenFrame Number)
  | data (frame : DataFrame Number)
deriving DecidableEq

structure ChannelMux (Number : Type) where
  maxQueuedBytes : Nat := 64 * 1024 * 1024
  /-- All channels that were created. -/
  objects : List (MuxChannel Number) := []
  channels : OrderedMap Number Nat := .empty
  /-- `onChannel` was called. -/
  handler : Bool := false
  /-- The callbacks of `onClose` that are due. -/
  removals : List Nat := []
  closed : Bool := false

structure MuxOutput (Number : Type) where
  frames : List (MuxFrame Number) := []
  /-- What readers get, with the numbers of their channels. -/
  pulled : List (Nat × Pulled) := []
  /-- The channels that the handler is called with. -/
  announced : List Nat := []
  thrown : Option ChannelError := none

inductive MuxEvent (Number : Type)
  | openChannel (id : Number) (type : Text)
  | onChannel
  | write (index : Nat) (chunk : List Octet)
  | close (index : Nat)
  | pull (index : Nat)
  /-- The value of a line comes in. -/
  | line (message : Json Number)
  /-- The byte stream has ended or failed. -/
  | streamEnded
  /-- The callback of an `onClose`. -/
  | removed (index : Nat)

variable {Number : Type} [DecidableEq Number] (format : CountingFormat Number)

def MuxFrame.object : MuxFrame Number → Json Number
  | .opening frame => frame.object format
  | .data frame => frame.object format

namespace ChannelMux

/-- `#create`. -/
def create (self : ChannelMux Number) (id : Number) (type : Text) : ChannelMux Number :=
  { self with
    objects := self.objects ++ [MuxChannel.create id type self.maxQueuedBytes]
    channels := self.channels.set id self.objects.length }

def openChannel (self : ChannelMux Number) (id : Number) (type : Text) :
    ChannelMux Number × MuxOutput Number :=
  if !format.isIndex id then
    (self, { thrown := some ⟨.protocolError, asciiText "invalid channel id " ++ format.print id⟩ })
  else if self.channels.has id then
    (self,
      { thrown := some ⟨.protocolError,
          asciiText "channel " ++ format.print id ++ asciiText " is already open"⟩ })
  else (self.create id type, { frames := [.opening ⟨id, type⟩] })

/-- An operation on a channel, with the callback that becomes due when it ends the channel. -/
def operate (self : ChannelMux Number) (index : Nat)
    (operation : MuxChannel Number → MuxChannel Number × ChannelOutput Number) :
    ChannelMux Number × MuxOutput Number :=
  match self.objects[index]? with
  | none => (self, {})
  | some channel =>
      let result := operation channel
      ({ self with
          objects := self.objects.set index result.1
          removals := if result.2.closed then self.removals ++ [index] else self.removals },
        { frames := result.2.frames.map .data
          pulled := result.2.pulled.toList.map fun pulled => (index, pulled) })

def write (self : ChannelMux Number) (index : Nat) (chunk : List Octet) :
    ChannelMux Number × MuxOutput Number :=
  match self.objects[index]? with
  | none => (self, {})
  | some channel =>
      match channel.write format chunk with
      | .error error => (self, { thrown := some error })
      | .ok frame => (self, { frames := [.data frame] })

def handleOpen (self : ChannelMux Number) (frame : OpenFrame Number) :
    ChannelMux Number × MuxOutput Number :=
  if self.channels.has frame.channel then (self, {})
  else
    (self.create frame.channel frame.channelType,
      { announced := if self.handler then [self.objects.length] else [] })

def failedMessage (id : Number) : Text :=
  asciiText "channel " ++ format.print id ++ asciiText " failed"

/-- What a frame does to its channel. -/
def receive (frame : DataFrame Number) (channel : MuxChannel Number) :
    MuxChannel Number × ChannelOutput Number :=
  match frame.type with
  | .data => channel.data format (frame.payload.getD [])
  | .ending => channel.finish .done
  | .error =>
      channel.finish (.failed
        ⟨.protocolError, frame.message.getD (failedMessage format frame.channel)⟩)

def handleFrame (self : ChannelMux Number) (frame : DataFrame Number) :
    ChannelMux Number × MuxOutput Number :=
  match self.channels.get frame.channel with
  | none => (self, {})
  | some index => self.operate index (receive format frame)

def handleLine (self : ChannelMux Number) (message : Json Number) :
    ChannelMux Number × MuxOutput Number :=
  match decodeOpenFrame format message with
  | some frame => self.handleOpen frame
  | none =>
      match decodeDataFrame format message with
      | some frame => self.handleFrame format frame
      | none => (self, {})

def connectionLost : ChannelEnd := .failed ⟨.connLost, asciiText "mux byte stream ended"⟩

/-- Channels are ended one after another. -/
def finishAll (self : ChannelMux Number) (ending : ChannelEnd) :
    List Nat → ChannelMux Number × MuxOutput Number
  | [] => (self, {})
  | index :: rest =>
      let first := self.operate index fun channel => channel.finish ending
      let later := first.1.finishAll ending rest
      (later.1, { later.2 with pulled := first.2.pulled ++ later.2.pulled })

/-- The rest of `#pump`. -/
def teardown (self : ChannelMux Number) : ChannelMux Number × MuxOutput Number :=
  let finished := self.finishAll connectionLost self.channels.values
  ({ finished.1 with channels := .empty, closed := true }, finished.2)

/-- A channel that has ended leaves the map, unless another one has taken its place. -/
def remove (self : ChannelMux Number) (index : Nat) : ChannelMux Number :=
  let awaited := { self with removals := self.removals.erase index }
  match self.objects[index]? with
  | none => awaited
  | some channel =>
      if self.channels.get channel.id = some index then
        { awaited with channels := self.channels.delete channel.id }
      else awaited

def perform (self : ChannelMux Number) : MuxEvent Number → ChannelMux Number × MuxOutput Number
  | .openChannel id type => self.openChannel format id type
  | .onChannel => ({ self with handler := true }, {})
  | .write index chunk => self.write format index chunk
  | .close index => self.operate index MuxChannel.close
  | .pull index => self.operate index MuxChannel.ask
  | .line message => self.handleLine format message
  | .streamEnded => self.teardown
  | .removed index => (self.remove index, {})

/-- A reader asks again only when it has got what it waits for, and lines come in until the
stream ends. -/
def Possible (self : ChannelMux Number) : MuxEvent Number → Prop
  | .openChannel _ _ => True
  | .onChannel => True
  | .write index _ => index < self.objects.length
  | .close index => index < self.objects.length
  | .pull index => self.objects[index]?.map MuxChannel.waiter = some false
  | .line _ => self.closed = false
  | .streamEnded => self.closed = false
  | .removed index => index ∈ self.removals

instance (self : ChannelMux Number) :
    (event : MuxEvent Number) → Decidable (self.Possible event)
  | .openChannel _ _ => instDecidableTrue
  | .onChannel => instDecidableTrue
  | .write _ _ => Nat.decLt _ _
  | .close _ => Nat.decLt _ _
  | .pull _ => inferInstanceAs (Decidable (_ = _))
  | .line _ => instDecidableEqBool _ _
  | .streamEnded => instDecidableEqBool _ _
  | .removed _ => List.instDecidableMemOfLawfulBEq _ _

section Receiving

omit [DecidableEq Number]

variable {frame : DataFrame Number}

theorem receive_data (isData : frame.type = .data) (channel : MuxChannel Number) :
    receive format frame channel = channel.data format (frame.payload.getD []) := by
  rw [receive, isData]

theorem receive_ending (isEnding : frame.type = .ending) (channel : MuxChannel Number) :
    receive format frame channel = channel.finish .done := by
  rw [receive, isEnding]

theorem receive_error (isError : frame.type = .error) (channel : MuxChannel Number) :
    receive format frame channel =
      channel.finish (.failed
        ⟨.protocolError, frame.message.getD (failedMessage format frame.channel)⟩) := by
  rw [receive, isError]

theorem receive_ended {channel : MuxChannel Number} {ending : ChannelEnd}
    (isEnded : channel.ended = some ending) (frame : DataFrame Number) :
    receive format frame channel = (channel, {}) := by
  rw [receive]
  split
  · exact MuxChannel.data_ended format isEnded _
  · exact MuxChannel.finish_ended isEnded _
  · exact MuxChannel.finish_ended isEnded _

end Receiving

end ChannelMux

theorem ChannelMux.handleLine_opening (mux : ChannelMux Number) {frame : OpenFrame Number}
    (index : format.isIndex frame.channel = true) :
    mux.handleLine format (MuxFrame.object format (.opening frame)) = mux.handleOpen frame := by
  rw [handleLine, MuxFrame.object, OpenFrame.decode_object format frame index]

theorem ChannelMux.handleLine_data (mux : ChannelMux Number) {frame : DataFrame Number}
    (index : format.isIndex frame.channel = true) :
    mux.handleLine format (MuxFrame.object format (.data frame)) = mux.handleFrame format frame := by
  rw [handleLine, MuxFrame.object, DataFrame.decodeOpenFrame_object,
    DataFrame.decode_object format frame index]

end DshRemote
