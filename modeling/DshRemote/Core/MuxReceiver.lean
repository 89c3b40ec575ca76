import DshRemote.Core.ChannelSafety
import DshRemote.Core.MuxRegistry

/-! # The receiving side of a mux

The lines of one chunk are handled in one turn. The callbacks that remove ended channels from the
map run between two chunks, and so do the readers, except when the handler of a new channel
starts one. -/

namespace DshRemote

open Json

theorem filterMap_getElem?_range {Item : Type} (list : List Item) :
    ((List.range list.length).filterMap fun index => list[index]?) = list := by
  induction list with
  | nil => rfl
  | cons first rest induction =>
      rw [List.length_cons, List.range_succ_eq_map, List.filterMap_cons, List.filterMap_map]
      exact congrArg (first :: ·) induction

/-- What a remote peer tells about a channel, whenever it is heard. -/
structure Story (Number : Type) where
  id : Number
  type : Text
  data : List (List Octet) := []
  ended : Option ChannelEnd := none
deriving DecidableEq

/-- An endpoint with a handler for new channels. -/
structure Receiver (Number : Type) where
  endpoint : Endpoint Number
  /-- The channels that the handler was called with. -/
  announced : List Nat := []

inductive Arrival (Number : Type)
  | line (message : Json Number)
  /-- A chunk ends. -/
  | turn
  /-- The reader of a channel asks, unless it still waits. -/
  | asks (index : Nat)

variable {Number : Type}

def Arrival.message : Arrival Number → Option (Json Number)
  | .line message => some message
  | .turn => none
  | .asks _ => none

def messagesOf (arrivals : List (Arrival Number)) : List (Json Number) :=
  arrivals.filterMap Arrival.message

variable [DecidableEq Number] (format : CountingFormat Number)

namespace Receiver

def create (maxQueuedBytes : Nat) : Receiver Number where
  endpoint := { mux := { maxQueuedBytes := maxQueuedBytes, handler := true } }

def after (self : Receiver Number) (event : MuxEvent Number)
    (result : ChannelMux Number × MuxOutput Number) : Receiver Number where
  endpoint := self.endpoint.after event result
  announced := self.announced ++ result.2.announced

/-- All callbacks that are due run. -/
def turn (self : Receiver Number) : Receiver Number :=
  { self with
    endpoint :=
      { self.endpoint with
        mux := self.endpoint.mux.removals.foldl ChannelMux.remove self.endpoint.mux } }

def arrive (self : Receiver Number) : Arrival Number → Receiver Number
  | .line message => self.after (.line message) (self.endpoint.mux.perform format (.line message))
  | .turn => self.turn
  | .asks index =>
      if self.endpoint.mux.Possible (.pull index) then
        self.after (.pull index) (self.endpoint.mux.perform format (.pull index))
      else self

def arriveAll (self : Receiver Number) (arrivals : List (Arrival Number)) : Receiver Number :=
  arrivals.foldl (arrive format) self

/-- A channel with all that its reader has got or will get. -/
def tale (self : Receiver Number) (index : Nat) : Option (Story Number) :=
  self.endpoint.mux.objects[index]?.map fun channel =>
    { id := channel.id
      type := channel.type
      data := self.endpoint.takenBy index
      ended := channel.ended }

/-- What the handler's channels come to. -/
def outcome (self : Receiver Number) : List (Story Number) := self.announced.filterMap self.tale

end Receiver

/-- The frame of a line, as `#handleLine` takes it. -/
def decodeFrame (message : Json Number) : Option (MuxFrame Number) :=
  match decodeOpenFrame format message with
  | some frame => some (.opening frame)
  | none => (decodeDataFrame format message).map .data

/-- A frame on the channel of a story that goes on. -/
def Story.hear (story : Story Number) (frame : DataFrame Number) : Story Number :=
  match frame.type with
  | .data => { story with data := story.data ++ [frame.payload.getD []] }
  | .ending => { story with ended := some .done }
  | .error =>
      { story with
        ended := some (.failed
          ⟨.protocolError, frame.message.getD (ChannelMux.failedMessage format frame.channel)⟩) }

omit [DecidableEq Number] in
theorem Story.hear_id (story : Story Number) (frame : DataFrame Number) :
    (story.hear format frame).id = story.id := by
  rw [hear]
  split <;> rfl

theorem ChannelMux.handleLine_eq (mux : ChannelMux Number) (message : Json Number) :
    mux.handleLine format message =
      match decodeFrame format message with
      | none => (mux, {})
      | some (.opening frame) => mux.handleOpen frame
      | some (.data frame) => mux.handleFrame format frame := by
  rw [handleLine, decodeFrame]
  cases decodeOpenFrame format message with
  | some frame => rfl
  | none => cases decodeDataFrame format message <;> rfl

omit [DecidableEq Number] in
theorem isIndex_of_opening {message : Json Number} {frame : OpenFrame Number}
    (decoded : decodeFrame format message = some (.opening frame)) :
    format.isIndex frame.channel = true := by
  rw [decodeFrame] at decoded
  split at decoded
  · next found =>
    cases decoded
    rw [decodeOpenFrame] at found
    split at found
    · cases found
    · split at found
      · cases found
      · rcases Option.map_eq_some_iff.mp found with ⟨channel, isChannel, rfl⟩
        rw [channelOf] at isChannel
        split at isChannel
        · split at isChannel
          · next index =>
            cases isChannel
            exact index
          · cases isChannel
        · cases isChannel
  · rcases Option.map_eq_some_iff.mp decoded with ⟨_, _, same⟩
    cases same

/-! ## What one channel does -/

/-- A channel has taken in more chunks, and perhaps it has ended. -/
structure MuxChannel.Moves (channel moved : MuxChannel Number) (output : ChannelOutput Number)
    (more : List (List Octet)) : Prop where
  id : moved.id = channel.id
  type : moved.type = channel.type
  size : moved.maxQueuedBytes = channel.maxQueuedBytes
  sound : moved.Sound
  fifo : (output.pulled.bind Pulled.value).toList ++ moved.queue = channel.queue ++ more
  stays : channel.ended ≠ none → moved.ended = channel.ended
  closes : output.closed = true ↔ channel.ended = none ∧ moved.ended ≠ none

namespace MuxChannel

/-- What the story of an open channel becomes, whether or not a chunk is accepted. -/
def react (channel : MuxChannel Number) (frame : DataFrame Number) (story : Story Number) :
    Story Number :=
  if frame.type = .data ∧ ¬channel.Accepts (frame.payload.getD []) then
    { story with ended := some (.failed ⟨.protocolError, channel.exceededMessage format⟩) }
  else story.hear format frame

variable {format} {channel : MuxChannel Number}

omit [DecidableEq Number] in
theorem moves_self (sound : channel.Sound) : channel.Moves channel {} [] where
  id := rfl
  type := rfl
  size := rfl
  sound := sound
  fifo := (List.append_nil _).symm
  stays := fun _ => rfl
  closes := ⟨nofun, fun both => absurd both.1 both.2⟩

omit [DecidableEq Number] in
theorem moves_ask (sound : channel.Sound) (notWaiting : channel.waiter = false) :
    channel.Moves channel.ask.1 channel.ask.2 [] where
  id := channel.pull_frame.1
  type := by
    rw [ask, pull]
    split
    · rfl
    · split <;> rfl
  size := channel.pull_frame.2.1
  sound := sound.pull notWaiting
  fifo := channel.pull_fifo.trans (List.append_nil _).symm
  stays := fun _ => channel.pull_frame.2.2
  closes := ⟨nofun, fun both => absurd (channel.pull_frame.2.2.trans both.1) both.2⟩

omit [DecidableEq Number] in
theorem moves_accept (sound : channel.Sound) (isOpen : channel.ended = none)
    {payload : List Octet} (accepts : channel.Accepts payload) :
    channel.Moves (channel.accept payload)
      { pulled := if channel.waiter then some (.chunk payload) else none } [payload] where
  id := (channel.accept_frame payload).1
  type := by
    rw [accept]
    split <;> rfl
  size := (channel.accept_frame payload).2.1
  sound := sound.accept accepts
  fifo := accept_fifo sound payload
  stays := fun isEnded => absurd isOpen isEnded
  closes := ⟨nofun, fun both => absurd ((channel.accept_frame payload).2.2.trans isOpen) both.2⟩

omit [DecidableEq Number] in
theorem moves_finish (sound : channel.Sound) (isOpen : channel.ended = none) (ending : ChannelEnd)
    (frames : List (DataFrame Number)) {pulled : Option Pulled}
    (noChunk : pulled.bind Pulled.value = none) :
    channel.Moves { channel with waiter := false, ended := some ending }
      { frames := frames, pulled := pulled, closed := true } [] where
  id := rfl
  type := rfl
  size := rfl
  sound := sound.finish ending
  fifo := by rw [noChunk, List.append_nil]; rfl
  stays := fun isEnded => absurd isOpen isEnded
  closes := iff_of_true rfl ⟨isOpen, nofun⟩

omit [DecidableEq Number] in
theorem receive_moves (sound : channel.Sound) (isOpen : channel.ended = none)
    (frame : DataFrame Number) :
    ∃ moved output more,
      ChannelMux.receive format frame channel = (moved, output) ∧
        channel.Moves moved output more ∧
          ∀ story, story.ended = none →
            channel.react format frame story =
              { story with data := story.data ++ more, ended := moved.ended } := by
  have noEnd : ∀ ending,
      (if channel.waiter then some (Pulled.ended ending) else none).bind Pulled.value = none := by
    intro ending
    cases channel.waiter <;> rfl
  cases type : frame.type with
  | ending =>
      have notData : frame.type ≠ .data := by rw [type]; decide
      rw [ChannelMux.receive_ending format type, finish_open sound isOpen]
      refine ⟨_, _, [], rfl, moves_finish sound isOpen .done [] (noEnd _), fun story _ => ?_⟩
      rw [react, if_neg fun both => notData both.1, Story.hear, type,
        List.append_nil]
  | error =>
      have notData : frame.type ≠ .data := by rw [type]; decide
      rw [ChannelMux.receive_error format type, finish_open sound isOpen]
      refine ⟨_, _, [], rfl, moves_finish sound isOpen _ [] (noEnd _), fun story _ => ?_⟩
      rw [react, if_neg fun both => notData both.1, Story.hear, type,
        List.append_nil]
  | data =>
      rw [ChannelMux.receive_data format type]
      by_cases accepts : channel.Accepts (frame.payload.getD [])
      · rw [data_accepted format isOpen accepts]
        refine ⟨_, _, _, rfl, moves_accept sound isOpen accepts, fun story unended => ?_⟩
        rw [react, if_neg fun both => both.2 accepts, Story.hear, type,
          (channel.accept_frame _).2.2, isOpen, ← unended]
      · rw [data_exceeding format sound isOpen accepts]
        refine ⟨_, _, [], rfl, moves_finish sound isOpen _ _ rfl, fun story _ => ?_⟩
        rw [react, if_pos ⟨type, accepts⟩, List.append_nil]

omit [DecidableEq Number] in
theorem exists_moves (sound : channel.Sound) (frame : DataFrame Number) :
    ∃ moved output more,
      ChannelMux.receive format frame channel = (moved, output) ∧
        channel.Moves moved output more := by
  cases isOpen : channel.ended with
  | none =>
      rcases @receive_moves _ format _ sound isOpen frame with
        ⟨moved, output, more, result, moves, _⟩
      exact ⟨moved, output, more, result, moves⟩
  | some ending =>
      exact ⟨_, _, _, ChannelMux.receive_ended format isOpen frame, moves_self sound⟩

end MuxChannel

/-! ## What a receiver keeps -/

/-- Ended channels leave the map when their callbacks run. -/
structure ChannelMux.Sane (format : CountingFormat Number) (mux : ChannelMux Number) : Prop where
  registered : Registered format mux (mux.objects.map MuxChannel.id)
  sound : ∀ (index : Nat) (channel : MuxChannel Number),
    mux.objects[index]? = some channel → channel.Sound
  due : ∀ id index, mux.channels.get id = some index →
    ∀ channel, mux.objects[index]? = some channel → channel.ended ≠ none → index ∈ mux.removals
  handler : mux.handler = true

structure Receiver.Sane (format : CountingFormat Number) (receiver : Receiver Number) : Prop where
  mux : receiver.endpoint.mux.Sane format
  announced : receiver.announced = List.range receiver.endpoint.mux.objects.length
  numbered : ∀ entry ∈ receiver.endpoint.pulled, entry.1 < receiver.endpoint.mux.objects.length

namespace ChannelMux.Sane

variable {format} {mux : ChannelMux Number}

theorem create (sane : mux.Sane format) {id : Number} (index : format.isIndex id = true)
    (absent : mux.channels.get id = none) (type : Text) : (mux.create id type).Sane format where
  registered := by
    refine sane.registered.create index absent type (.of_eq ?_)
    rw [ChannelMux.create, List.map_append]
    rfl
  sound := by
    intro position channel present
    rw [Registered.getElem?_create] at present
    split at present
    · cases present
      exact MuxChannel.sound_create id type mux.maxQueuedBytes
    · exact sane.sound position channel present
  due := by
    intro other position found channel present isEnded
    rw [Registered.getElem?_create] at present
    split at present
    · cases present
      exact absurd rfl isEnded
    · next inner =>
      refine sane.due other position ?_ channel present isEnded
      by_cases same : other = id
      · rw [same] at found
        exact absurd (Option.some.inj ((OrderedMap.get_set_self ..).symm.trans found)).symm inner
      · exact (OrderedMap.get_set_other _ _ same).symm.trans found
  handler := sane.handler

theorem operated (sane : mux.Sane format) {after : ChannelMux Number} {index : Nat}
    {channel moved : MuxChannel Number} (operated : Operated mux after index channel moved)
    (sound : moved.Sound) (handler : after.handler = mux.handler)
    (kept : ∀ position ∈ mux.removals, position ∈ after.removals)
    (added : channel.ended = none → moved.ended ≠ none → index ∈ after.removals) :
    after.Sane format where
  registered := by
    have ids : after.objects.map MuxChannel.id = mux.objects.map MuxChannel.id := by
      refine List.ext_getElem? fun position => ?_
      rw [List.getElem?_map, List.getElem?_map]
      exact operated.mapId position
    rw [ids]
    exact operated.registered sane.registered
  sound := by
    intro position later present
    rcases operated.earlier present with ⟨_, rfl⟩ | ⟨_, present⟩
    · exact sound
    · exact sane.sound position later present
  due := by
    intro id position found later present isEnded
    rw [operated.channels] at found
    rcases operated.earlier present with ⟨rfl, rfl⟩ | ⟨_, present⟩
    · by_cases isOpen : channel.ended = none
      · exact added isOpen isEnded
      · exact kept _ (sane.due id _ found channel operated.present isOpen)
    · exact kept _ (sane.due id position found later present isEnded)
  handler := handler.trans sane.handler

theorem remove (sane : mux.Sane format) {index : Nat} (isDue : index ∈ mux.removals) :
    (mux.remove index).Sane format ∧ (mux.remove index).objects = mux.objects ∧
      (mux.remove index).maxQueuedBytes = mux.maxQueuedBytes ∧
        (mux.remove index).removals = mux.removals.erase index := by
  have registered := sane.registered.remove isDue
  rcases sane.registered.removable index isDue with ⟨channel, present, _⟩
  have others : ∀ {position : Nat}, position ∈ mux.removals → position ≠ index →
      position ∈ mux.removals.erase index := fun member different =>
    (List.mem_erase_of_ne different).mpr member
  rw [ChannelMux.remove, present] at registered ⊢
  dsimp only at registered ⊢
  split at registered
  · next found =>
    rw [if_pos found]
    refine ⟨⟨registered, sane.sound, fun id position later other otherPresent isEnded => ?_,
      sane.handler⟩, rfl, rfl, rfl⟩
    rcases OrderedMap.of_get_delete later with ⟨different, later⟩
    refine others (sane.due id position later other otherPresent isEnded) fun same => ?_
    have named := sane.registered.maps id position later
    rw [same, present] at named
    exact different (Option.some.inj named).symm
  · next unmapped =>
    rw [if_neg unmapped]
    refine ⟨⟨registered, sane.sound, fun id position later other otherPresent isEnded => ?_,
      sane.handler⟩, rfl, rfl, rfl⟩
    refine others (sane.due id position later other otherPresent isEnded) fun same => ?_
    have named := sane.registered.maps id position later
    rw [same, present] at named
    rw [same, ← Option.some.inj named] at later
    exact unmapped later

theorem removeAll {due : List Nat} (sane : mux.Sane format) (isDue : mux.removals = due) :
    (due.foldl ChannelMux.remove mux).Sane format ∧
      (due.foldl ChannelMux.remove mux).objects = mux.objects ∧
        (due.foldl ChannelMux.remove mux).maxQueuedBytes = mux.maxQueuedBytes ∧
          (due.foldl ChannelMux.remove mux).removals = [] := by
  induction due generalizing mux with
  | nil => exact ⟨sane, rfl, rfl, isDue⟩
  | cons index rest induction =>
      rcases sane.remove (isDue ▸ List.mem_cons_self) with ⟨removed, objects, limit, removals⟩
      rw [isDue, List.erase_cons_head] at removals
      rcases induction removed removals with ⟨finished, sameObjects, sameLimit, none⟩
      exact ⟨finished, sameObjects.trans objects, sameLimit.trans limit, none⟩

end ChannelMux.Sane

omit [DecidableEq Number] in
theorem Endpoint.takenBy_operated {before after : Endpoint Number} {index : Nat}
    {channel moved : MuxChannel Number} {pulled : Option Pulled} {more : List (List Octet)}
    (operated : Operated before.mux after.mux index channel moved)
    (log : after.pulled = before.pulled ++ pulled.toList.map fun pulled => (index, pulled))
    (fifo : (pulled.bind Pulled.value).toList ++ moved.queue = channel.queue ++ more)
    (position : Nat) :
    after.takenBy position = before.takenBy position ++ if position = index then more else [] := by
  rw [takenBy, takenBy, chunksOf, pulledOf_of_pulled log, operated.getElem?]
  by_cases same : position = index
  · rw [if_pos same, if_pos same, if_pos same, filterMap_value_append, same, operated.present,
      List.append_assoc, List.append_assoc]
    exact congrArg _ fifo
  · rw [if_neg same, if_neg same, if_neg same, List.append_nil, List.append_nil, chunksOf]

namespace Receiver

variable {format} {receiver : Receiver Number}

theorem Sane.operate (sane : receiver.Sane format) {index : Nat} {channel : MuxChannel Number}
    (present : receiver.endpoint.mux.objects[index]? = some channel)
    {operation : MuxChannel Number → MuxChannel Number × ChannelOutput Number}
    {moved : MuxChannel Number} {output : ChannelOutput Number} {more : List (List Octet)}
    (result : operation channel = (moved, output)) (moves : channel.Moves moved output more)
    (event : MuxEvent Number) :
    (receiver.after event (receiver.endpoint.mux.operate index operation)).Sane format ∧
      (receiver.after event (receiver.endpoint.mux.operate index operation)).endpoint.mux.maxQueuedBytes =
        receiver.endpoint.mux.maxQueuedBytes ∧
      ∀ position,
        (receiver.after event (receiver.endpoint.mux.operate index operation)).tale position =
          (receiver.tale position).map fun story =>
            if position = index then
              { story with data := story.data ++ more, ended := moved.ended }
            else story := by
  rcases Operated.operate present result moves.id moves.size
    (fun isEnded => by rw [moves.stays isEnded]; exact isEnded)
    (fun closed => (moves.closes.mp closed).2) with ⟨mux, performed, operated⟩
  have isMux : mux = (receiver.endpoint.mux.operate index operation).1 := by rw [performed]
  have handler : mux.handler = receiver.endpoint.mux.handler := by
    rw [isMux, ChannelMux.operate, present]
  have removals : mux.removals =
      if output.closed then receiver.endpoint.mux.removals ++ [index]
      else receiver.endpoint.mux.removals := by
    rw [isMux, ChannelMux.operate, present]
    simp only [result]
  rw [performed]
  refine ⟨⟨sane.mux.operated operated moves.sound handler ?_ ?_, ?_, ?_⟩, operated.limit, ?_⟩
  · intro position member
    show position ∈ mux.removals
    rw [removals]
    split
    · exact List.mem_append_left _ member
    · exact member
  · intro isOpen isEnded
    show index ∈ mux.removals
    rw [removals, if_pos (moves.closes.mpr ⟨isOpen, isEnded⟩)]
    exact List.mem_append_right _ List.mem_cons_self
  · rw [after, List.append_nil, sane.announced]
    exact congrArg List.range operated.length_objects.symm
  · intro entry member
    show entry.1 < mux.objects.length
    rw [operated.length_objects]
    rcases List.mem_append.mp member with earlier | now
    · exact sane.numbered entry earlier
    · rcases List.mem_map.mp now with ⟨_, _, rfl⟩
      exact (List.getElem?_eq_some_iff.mp operated.present).1
  · intro position
    rw [tale, tale, Endpoint.takenBy_operated operated rfl moves.fifo]
    show (mux.objects[position]?.map fun channel => _) = _
    rw [operated.getElem?]
    by_cases same : position = index
    · rw [same, present, if_pos rfl, if_pos rfl, Option.map_some, Option.map_some,
        Option.map_some, if_pos rfl, moves.id, moves.type]
    · rw [if_neg same, if_neg same, List.append_nil, Option.map_map]
      simp only [same, if_false, Function.comp_def]

omit [DecidableEq Number] in
theorem after_nothing (message : Json Number) :
    receiver.after (.line message) (receiver.endpoint.mux, {}) = receiver := by
  simp only [after, Endpoint.after, List.append_nil]

omit [DecidableEq Number] in
theorem tale_eq_none {index : Nat}
    (beyond : receiver.endpoint.mux.objects.length ≤ index) : receiver.tale index = none := by
  rw [tale, List.getElem?_eq_none beyond]
  rfl

theorem Sane.opens (sane : receiver.Sane format) {message : Json Number}
    {frame : OpenFrame Number} (decoded : decodeFrame format message = some (.opening frame))
    (absent : receiver.endpoint.mux.channels.get frame.channel = none) :
    (receiver.arrive format (.line message)).Sane format ∧
      (receiver.arrive format (.line message)).endpoint.mux =
        receiver.endpoint.mux.create frame.channel frame.channelType ∧
      ∀ index,
        (receiver.arrive format (.line message)).tale index =
          if index = receiver.endpoint.mux.objects.length then
            some { id := frame.channel, type := frame.channelType }
          else receiver.tale index := by
  have notHas : receiver.endpoint.mux.channels.has frame.channel = false := by
    rw [OrderedMap.has, absent]
    rfl
  have opened : receiver.endpoint.mux.handleOpen frame =
      (receiver.endpoint.mux.create frame.channel frame.channelType,
        { announced := [receiver.endpoint.mux.objects.length] }) := by
    rw [ChannelMux.handleOpen, notHas, sane.mux.handler]
    rfl
  rw [arrive, ChannelMux.perform, ChannelMux.handleLine_eq, decoded]
  dsimp only
  rw [opened]
  have size : (receiver.endpoint.mux.create frame.channel frame.channelType).objects.length =
      receiver.endpoint.mux.objects.length + 1 := by
    rw [ChannelMux.create, List.length_append]
    rfl
  refine ⟨⟨sane.mux.create (isIndex_of_opening format decoded) absent _, ?_, ?_⟩, rfl, ?_⟩
  · show receiver.announced ++ [_] =
      List.range (receiver.endpoint.mux.create frame.channel frame.channelType).objects.length
    rw [size, List.range_succ, sane.announced]
  · intro entry member
    show entry.1 < (receiver.endpoint.mux.create _ _).objects.length
    rw [size]
    refine Nat.lt_succ_of_lt (sane.numbered entry ?_)
    rw [← List.append_nil receiver.endpoint.pulled]
    exact member
  · intro index
    have taken : (receiver.after (.line message)
        (receiver.endpoint.mux.create frame.channel frame.channelType,
          { announced := [receiver.endpoint.mux.objects.length] })).endpoint.takenBy index =
        receiver.endpoint.chunksOf index ++
          ((receiver.endpoint.mux.create frame.channel frame.channelType).objects[index]?.map
            MuxChannel.queue).getD [] := by
      simp only [Endpoint.takenBy, Endpoint.chunksOf, Endpoint.pulledOf, after, Endpoint.after,
        List.append_nil]
    rw [tale, tale, taken]
    show ((receiver.endpoint.mux.create frame.channel frame.channelType).objects[index]?.map
      fun channel => _) = _
    rw [Registered.getElem?_create]
    split
    · next last =>
      have unread : receiver.endpoint.pulledOf index = [] := by
        refine List.filterMap_eq_nil_iff.mpr fun entry member => if_neg ?_
        have inside := sane.numbered entry member
        exact Nat.ne_of_lt (last ▸ inside)
      rw [Endpoint.chunksOf, unread]
      rfl
    · rw [← Endpoint.takenBy]

/-- A line that opens a channel whose id the map still has, or none at all. -/
theorem arrive_ignored {message : Json Number}
    (ignored : ∀ frame, decodeFrame format message = some frame →
      ∃ opening, frame = .opening opening ∧
        receiver.endpoint.mux.channels.has opening.channel = true) :
    receiver.arrive format (.line message) = receiver := by
  rw [arrive, ChannelMux.perform, ChannelMux.handleLine_eq]
  cases decoded : decodeFrame format message with
  | none => exact after_nothing message
  | some frame =>
      rcases ignored frame decoded with ⟨opening, rfl, known⟩
      dsimp only
      rw [ChannelMux.handleOpen, if_pos known]
      exact after_nothing message

theorem Sane.hears (sane : receiver.Sane format) {message : Json Number}
    {frame : DataFrame Number} (decoded : decodeFrame format message = some (.data frame)) :
    (receiver.arrive format (.line message)).Sane format ∧
      (receiver.arrive format (.line message)).endpoint.mux.maxQueuedBytes =
        receiver.endpoint.mux.maxQueuedBytes ∧
      (∀ index, receiver.tale index = none →
        (receiver.arrive format (.line message)).tale index = none) ∧
      ∀ index channel, receiver.endpoint.mux.objects[index]? = some channel →
        (receiver.arrive format (.line message)).tale index =
          (receiver.tale index).map fun story =>
            if channel.id = frame.channel ∧ channel.ended = none then
              channel.react format frame story
            else story := by
  rw [arrive, ChannelMux.perform, ChannelMux.handleLine_eq, decoded]
  dsimp only
  rw [ChannelMux.handleFrame]
  cases found : receiver.endpoint.mux.channels.get frame.channel with
  | none =>
      dsimp only
      rw [after_nothing]
      refine ⟨sane, rfl, fun _ unknown => unknown, fun index channel present => ?_⟩
      have deaf : ¬(channel.id = frame.channel ∧ channel.ended = none) := by
        rintro ⟨named, isOpen⟩
        have mapped := sane.mux.registered.mapped index channel present isOpen
        rw [named, found] at mapped
        cases mapped
      simp only [deaf, if_false]
      exact (Option.map_id' ..).symm
  | some position =>
      rcases Option.map_eq_some_iff.mp (sane.mux.registered.maps _ position found) with
        ⟨addressed, present, named⟩
      have others : ∀ index channel, receiver.endpoint.mux.objects[index]? = some channel →
          channel.id = frame.channel → channel.ended = none → index = position := by
        intro index channel also same isOpen
        have mapped := sane.mux.registered.mapped index channel also isOpen
        rw [same, found] at mapped
        exact (Option.some.inj mapped).symm
      cases isOpen : addressed.ended with
      | none =>
          rcases @MuxChannel.receive_moves _ format _
            (sane.mux.sound position addressed present) isOpen frame with
            ⟨moved, output, more, result, moves, reacts⟩
          rcases sane.operate present result moves (.line message) with ⟨later, limit, tales⟩
          refine ⟨later, limit, fun index unknown => by rw [tales, unknown]; rfl,
            fun index channel also => ?_⟩
          rw [tales, tale, also, Option.map_some, Option.map_some, Option.map_some]
          by_cases same : index = position
          · cases Option.some.inj (also.symm.trans (same ▸ present))
            rw [if_pos same, if_pos ⟨named, isOpen⟩, reacts _ isOpen]
          · rw [if_neg same, if_neg fun both => same (others index channel also both.1 both.2)]
      | some ending =>
          rcases sane.operate present (ChannelMux.receive_ended format isOpen frame)
            (MuxChannel.moves_self (sane.mux.sound position addressed present)) (.line message) with
            ⟨later, limit, tales⟩
          refine ⟨later, limit, fun index unknown => by rw [tales, unknown]; rfl,
            fun index channel also => ?_⟩
          rw [tales, tale, also, Option.map_some, Option.map_some, Option.map_some]
          by_cases same : index = position
          · cases Option.some.inj (also.symm.trans (same ▸ present))
            rw [if_pos same, if_neg fun both => Option.some_ne_none _ (isOpen.symm.trans both.2),
              List.append_nil]
          · rw [if_neg same, if_neg fun both => same (others index channel also both.1 both.2)]

theorem Sane.asks (sane : receiver.Sane format) (index : Nat) :
    (receiver.arrive format (.asks index)).Sane format ∧
      (receiver.arrive format (.asks index)).endpoint.mux.maxQueuedBytes =
        receiver.endpoint.mux.maxQueuedBytes ∧
      (receiver.arrive format (.asks index)).tale = receiver.tale := by
  rw [arrive]
  split
  · next possible =>
    rcases Option.map_eq_some_iff.mp possible with ⟨channel, present, notWaiting⟩
    have moves := MuxChannel.moves_ask (sane.mux.sound index channel present) notWaiting
    have result : channel.ask = (channel.ask.1, channel.ask.2) := rfl
    rcases sane.operate present result moves (.pull index) with ⟨later, limit, tales⟩
    refine ⟨later, limit, funext fun position => (tales position).trans ?_⟩
    rw [tale]
    cases also : receiver.endpoint.mux.objects[position]? with
    | none => rfl
    | some other =>
        rw [Option.map_some, Option.map_some]
        split
        · next same =>
          cases Option.some.inj (also.symm.trans (same ▸ present))
          rw [List.append_nil, MuxChannel.ask, channel.pull_frame.2.2]
        · rfl
  · exact ⟨sane, rfl, rfl⟩

theorem Sane.turn (sane : receiver.Sane format) :
    receiver.turn.Sane format ∧
      receiver.turn.endpoint.mux.maxQueuedBytes = receiver.endpoint.mux.maxQueuedBytes ∧
      receiver.turn.tale = receiver.tale ∧ receiver.turn.endpoint.mux.removals = [] := by
  rcases sane.mux.removeAll rfl with ⟨mux, objects, limit, removals⟩
  refine ⟨⟨mux, ?_, ?_⟩, limit, funext fun index => ?_, removals⟩
  · exact sane.announced.trans (congrArg (List.range ·.length) objects.symm)
  · intro entry member
    exact Nat.lt_of_lt_of_eq (sane.numbered entry member) (congrArg List.length objects.symm)
  · have kept : receiver.turn.endpoint.mux.objects = receiver.endpoint.mux.objects := objects
    rw [tale, tale, Endpoint.takenBy, Endpoint.takenBy, kept]
    rfl

/-- The outcome is a list of what the channels have taken in, in the order of their numbers. -/
theorem Sane.getElem?_outcome (sane : receiver.Sane format) (index : Nat) :
    receiver.outcome[index]? = receiver.tale index := by
  have known : receiver.outcome = receiver.endpoint.mux.objects.mapIdx fun position channel =>
      { id := channel.id
        type := channel.type
        data := receiver.endpoint.takenBy position
        ended := channel.ended } := by
    have tales : receiver.tale = fun position =>
        (receiver.endpoint.mux.objects.mapIdx fun position channel =>
          ({ id := channel.id
             type := channel.type
             data := receiver.endpoint.takenBy position
             ended := channel.ended } : Story Number))[position]? := by
      funext position
      rw [tale, List.getElem?_mapIdx]
    rw [outcome, sane.announced, tales, ← List.length_mapIdx, filterMap_getElem?_range]
  rw [known, tale, List.getElem?_mapIdx]

end Receiver

end DshRemote
