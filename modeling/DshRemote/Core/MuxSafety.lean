import DshRemote.Core.ChannelSafety
import DshRemote.Core.MuxRegistry

/-! # Chunks arrive in order

What holds of each end of a channel holds through all steps of two endpoints, because a frame
of a channel only comes in where the channel is known. -/

namespace DshRemote

open Json

variable {Number : Type} [DecidableEq Number] {format : CountingFormat Number}

/-! ## One endpoint -/

def MuxFrame.channel : MuxFrame Number → Number
  | .opening frame => frame.channel
  | .data frame => frame.channel

namespace Endpoint

/-- The frames of the other endpoint that have come in. -/
def inbox (own other : Endpoint Number) : List (MuxFrame Number) := other.sent.take own.handled

/-- The ids of the channels that an endpoint knows. -/
def opened (own other : Endpoint Number) : List Number :=
  openedBy own.sent ++ openedBy (own.inbox other)

def IsOpen (own : Endpoint Number) (id : Number) : Prop :=
  ∃ (index : Nat) (channel : MuxChannel Number),
    own.mux.objects[index]? = some channel ∧ channel.id = id ∧ channel.ended = none

end Endpoint

/-- How an endpoint stands to what the other one has sent, and to what its channels have taken
in so far. -/
structure Kept (format : CountingFormat Number) (limit : Nat) (sofar : Nat → List (List Octet))
    (own other : Endpoint Number) : Prop where
  limit : own.mux.maxQueuedBytes = limit
  handled : own.handled ≤ other.sent.length
  registered : Registered format own.mux (own.opened other)
  reading : ∀ (index : Nat) (channel : MuxChannel Number),
    own.mux.objects[index]? = some channel →
      Reading (sofar index) channel (own.pulledOf index)
        (payloadsOn channel.id (own.inbox other))
        (∃ frame ∈ own.inbox other, frame.Closes channel.id) (channel.id ∈ own.closes)
  sending : ∀ id, Sending own.sent id (own.IsOpen id) (own.writtenOn id) (id ∈ own.closes)
  caused : ∀ before frame later, own.sent = before ++ .data frame :: later →
    frame.channel ∈ openedBy before ∨ frame.channel ∈ openedBy (own.inbox other)
  valid : ∀ frame ∈ own.sent, format.isIndex frame.channel = true
  numbered : ∀ entry ∈ own.pulled, entry.1 < own.mux.objects.length
  beyond : ∀ index, own.mux.objects.length ≤ index → sofar index = []

namespace Kept

variable {limit limit' : Nat} {sofar sofar' : Nat → List (List Octet)}
  {own other own' : Endpoint Number}

omit [DecidableEq Number] in
theorem inbox_of_sends {more : List (MuxFrame Number)} {other' : Endpoint Number}
    (handled : own.handled ≤ other.sent.length) (sends : other'.sent = other.sent ++ more) :
    own.inbox other' = own.inbox other := by
  rw [Endpoint.inbox, sends, List.take_append_of_le_length handled, Endpoint.inbox]

theorem other_sends (kept : Kept format limit sofar own other) {more : List (MuxFrame Number)}
    {other' : Endpoint Number} (sends : other'.sent = other.sent ++ more) :
    Kept format limit sofar own other' := by
  have inbox := inbox_of_sends kept.handled sends
  have opened : own.opened other' = own.opened other := by rw [Endpoint.opened, inbox, Endpoint.opened]
  exact
    { limit := kept.limit
      handled := by
        rw [sends, List.length_append]
        exact kept.handled.trans (Nat.le_add_right _ _)
      registered := by rw [opened]; exact kept.registered
      reading := by rw [inbox]; exact kept.reading
      sending := kept.sending
      caused := by rw [inbox]; exact kept.caused
      valid := kept.valid
      numbered := kept.numbered
      beyond := kept.beyond }

theorem mem_opened_of_sent (kept : Kept format limit sofar own other) {frame : DataFrame Number}
    (member : .data frame ∈ own.sent) : frame.channel ∈ own.opened other := by
  rcases List.append_of_mem member with ⟨before, later, split⟩
  rcases kept.caused before frame later split with inBefore | inInbox
  · refine List.mem_append_left _ ?_
    rw [split, openedBy_append]
    exact List.mem_append_left _ inBefore
  · exact List.mem_append_right _ inInbox

theorem mem_opened_of_comes (peer : Kept format limit sofar other own)
    {before later : List (MuxFrame Number)} {frame : DataFrame Number}
    (split : other.sent = before ++ .data frame :: later) (handled : before.length ≤ own.handled) :
    frame.channel ∈ own.opened other := by
  rcases peer.caused before frame later split with inBefore | inInbox
  · have begins : before <+: own.inbox other := by
      refine List.prefix_of_prefix_length_le ⟨_, split.symm⟩ (List.take_prefix _ _) ?_
      rw [Endpoint.inbox, List.length_take]
      exact Nat.le_min.mpr ⟨handled, by rw [split, List.length_append]; exact Nat.le_add_right _ _⟩
    exact List.mem_append_right _ ((begins.filterMap _).subset inBefore)
  · exact List.mem_append_left _ (((List.take_prefix _ _).filterMap _).subset inInbox)

theorem pulledOf_of_unread (kept : Kept format limit sofar own other) {index : Nat}
    (beyond : own.mux.objects.length ≤ index) : own.pulledOf index = [] := by
  refine List.filterMap_eq_nil_iff.mpr fun entry member => if_neg ?_
  rintro rfl
  exact Nat.not_lt.mpr beyond (kept.numbered entry member)

theorem operated (kept : Kept format limit sofar own other) (nodup : (own.opened other).Nodup)
    {index : Nat} {channel moved : MuxChannel Number} {pulled : Option Pulled}
    (operated : Operated own.mux own'.mux index channel moved)
    (log : own'.pulled = own.pulled ++ pulled.toList.map fun pulled => (index, pulled))
    (handled : own'.handled ≤ other.sent.length)
    (opened : own'.opened other = own.opened other)
    (arrived : ∀ id, id ≠ channel.id →
      payloadsOn id (own'.inbox other) = payloadsOn id (own.inbox other))
    (inbox : ∀ frame ∈ own.inbox other, frame ∈ own'.inbox other)
    (closes : ∀ id ∈ own.closes, id ∈ own'.closes)
    (reading : Reading (sofar index) moved (own.pulledOf index ++ pulled.toList)
      (payloadsOn channel.id (own'.inbox other))
      (∃ frame ∈ own'.inbox other, frame.Closes channel.id) (channel.id ∈ own'.closes))
    (sending : ∀ id, Sending own'.sent id (own'.IsOpen id) (own'.writtenOn id) (id ∈ own'.closes))
    (caused : ∀ before frame later, own'.sent = before ++ .data frame :: later →
      frame.channel ∈ openedBy before ∨ frame.channel ∈ openedBy (own'.inbox other))
    (valid : ∀ frame ∈ own'.sent, format.isIndex frame.channel = true) :
    Kept format limit sofar own' other where
  limit := operated.limit.trans kept.limit
  handled := handled
  registered := by
    rw [opened]
    exact operated.registered kept.registered
  reading := by
    intro position later present
    rw [Endpoint.pulledOf_of_pulled log]
    rcases operated.earlier present with ⟨rfl, rfl⟩ | ⟨different, present⟩
    · rw [if_pos rfl, operated.id]
      exact reading
    · rw [if_neg different, List.append_nil]
      have otherId : later.id ≠ channel.id := fun same =>
        different (kept.registered.index_unique nodup present operated.present same)
      rw [arrived _ otherId]
      exact (kept.reading position later present).mono
        (fun ⟨frame, member, closing⟩ => ⟨frame, inbox frame member, closing⟩) (closes _)
  sending := sending
  caused := caused
  valid := valid
  numbered := by
    rw [log, operated.length_objects]
    intro entry member
    rcases List.mem_append.mp member with earlier | now
    · exact kept.numbered entry earlier
    · rcases List.mem_map.mp now with ⟨_, _, rfl⟩
      exact (List.getElem?_eq_some_iff.mp operated.present).1
  beyond := by
    rw [operated.length_objects]
    exact kept.beyond

/-! What is sent in a step. -/

section Sends

variable {index : Nat} {channel moved : MuxChannel Number}

omit [DecidableEq Number] in
theorem isOpen_operated (operated : Operated own.mux own'.mux index channel moved) {id : Number}
    (isOpen : own'.IsOpen id) : own.IsOpen id := by
  rcases isOpen with ⟨position, later, present, sameId, isOpen⟩
  rcases operated.earlier present with ⟨_, rfl⟩ | ⟨_, present⟩
  · refine ⟨index, channel, operated.present, operated.id.symm.trans sameId, ?_⟩
    by_contra isEnded
    exact operated.stays isEnded isOpen
  · exact ⟨position, later, present, sameId, isOpen⟩

theorem sending_stay (kept : Kept format limit sofar own other)
    (operated : Operated own.mux own'.mux index channel moved) (sent : own'.sent = own.sent)
    (written : own'.written = own.written) (closes : ∀ id ∈ own.closes, id ∈ own'.closes)
    (id : Number) :
    Sending own'.sent id (own'.IsOpen id) (own'.writtenOn id) (id ∈ own'.closes) := by
  rw [sent, Endpoint.writtenOn, written]
  exact (kept.sending id).stay
    (fun isOpen => (kept.sending id).silent (isOpen_operated operated isOpen)) (closes id)

/-- The channel that ends a step with a frame is not open any more. -/
theorem sending_end (kept : Kept format limit sofar own other) (nodup : (own.opened other).Nodup)
    (operated : Operated own.mux own'.mux index channel moved) (isEnded : moved.ended ≠ none)
    {frame : DataFrame Number} (onChannel : frame.channel = channel.id)
    (ends : frame.type ≠ .data) (sent : own'.sent = own.sent ++ [.data frame])
    (written : own'.written = own.written) (closes : ∀ id ∈ own.closes, id ∈ own'.closes)
    (closing : frame.type = .ending → channel.id ∈ own'.closes) (id : Number) :
    Sending own'.sent id (own'.IsOpen id) (own'.writtenOn id) (id ∈ own'.closes) := by
  have noChunk : (MuxFrame.data frame).payloadOn id = none := if_neg fun both => ends both.2
  have sending : Sending (own.sent ++ [.data frame]) id (own'.IsOpen id)
      (own.writtenOn id ++ ((MuxFrame.data frame).payloadOn id).toList) (id ∈ own'.closes) := by
    refine (kept.sending id).snoc (by rw [noChunk]; exact nofun) (fun isOpen => ?_) ?_ (closes id)
    · refine ⟨(kept.sending id).silent (isOpen_operated operated isOpen), ?_⟩
      refine MuxFrame.ends_other fun same => ?_
      rcases isOpen with ⟨position, later, present, sameId, isOpen⟩
      rcases operated.earlier present with ⟨_, rfl⟩ | ⟨different, present⟩
      · exact isEnded isOpen
      · exact different (kept.registered.index_unique nodup present operated.present
          (sameId.trans (same.symm.trans onChannel)))
    · rintro ⟨data, isData, sameId, ending⟩
      cases isData
      rw [← sameId, onChannel]
      exact closing ending
  rw [noChunk, Option.toList_none, List.append_nil] at sending
  rw [sent, Endpoint.writtenOn, written]
  exact sending

theorem sending_write (kept : Kept format limit sofar own other) {written : Number}
    (isOpen : own.IsOpen written) (chunk : List Octet) (id : Number) :
    Sending
      (own.sent ++ [.data { channel := written, type := .data, payload := some chunk }]) id
      (own.IsOpen id)
      ((own.written ++ [(written, chunk)]).filterMap fun entry =>
        if entry.1 = id then some entry.2 else none) (id ∈ own.closes) := by
  have notEnding : ∀ other,
      ¬(MuxFrame.data { channel := written, type := .data, payload := some chunk }).Ends other := by
    rintro other ⟨data, isData, _, ending⟩
    cases isData
    exact ending rfl
  have sending := (kept.sending id).snoc
    (fun carries => by
      by_cases same : written = id
      · exact same ▸ isOpen
      · rw [MuxFrame.payloadOn_other same] at carries
        cases carries)
    (fun isOpen => ⟨(kept.sending id).silent isOpen, notEnding id⟩)
    (fun closes => absurd closes.ends (notEnding id)) fun closed => closed
  rw [List.filterMap_append, ← Endpoint.writtenOn]
  by_cases same : written = id
  · simpa [MuxFrame.payloadOn, same] using sending
  · simpa [MuxFrame.payloadOn, same] using sending

theorem caused_snoc (kept : Kept format limit sofar own other) {frame : DataFrame Number}
    (known : frame.channel ∈ own.opened other) {inbox : List (MuxFrame Number)}
    (grows : ∀ id ∈ openedBy (own.inbox other), id ∈ openedBy inbox)
    {before later : List (MuxFrame Number)} {other : DataFrame Number}
    (split : own.sent ++ [.data frame] = before ++ .data other :: later) :
    other.channel ∈ openedBy before ∨ other.channel ∈ openedBy inbox := by
  rcases snoc_split split with ⟨_, same, isBefore⟩ | ⟨others, _, isSent⟩
  · cases same
    rw [← isBefore]
    exact (List.mem_append.mp known).imp_right (grows _)
  · exact (kept.caused before other others isSent).imp_right (grows _)

end Sends

theorem valid_snoc (kept : Kept format limit sofar own other) {frame : MuxFrame Number}
    (index : format.isIndex frame.channel = true) :
    ∀ sent ∈ own.sent ++ [frame], format.isIndex sent.channel = true := by
  intro sent member
  rcases List.mem_append.mp member with earlier | now
  · exact kept.valid sent earlier
  · rw [List.mem_singleton.mp now]
    exact index

omit [DecidableEq Number] in
theorem openedBy_data (frames : List (MuxFrame Number)) (data : DataFrame Number) :
    openedBy (frames ++ [.data data]) = openedBy frames := by
  rw [openedBy_append]
  exact List.append_nil _

/-! ## Events at an endpoint -/

section Events

variable {index : Nat} {channel moved : MuxChannel Number}

theorem quiet (kept : Kept format limit sofar own other) (nodup : (own.opened other).Nodup)
    {pulled : Option Pulled} (operated : Operated own.mux own'.mux index channel moved)
    (log : own'.pulled = own.pulled ++ pulled.toList.map fun pulled => (index, pulled))
    (sent : own'.sent = own.sent) (handled : own'.handled = own.handled)
    (written : own'.written = own.written) (closes : own'.closes = own.closes)
    (reading : Reading (sofar index) moved (own.pulledOf index ++ pulled.toList)
      (payloadsOn channel.id (own.inbox other))
      (∃ frame ∈ own.inbox other, frame.Closes channel.id) (channel.id ∈ own.closes)) :
    Kept format limit sofar own' other := by
  have inbox : own'.inbox other = own.inbox other := by
    rw [Endpoint.inbox, handled, Endpoint.inbox]
  refine kept.operated nodup operated log (by rw [handled]; exact kept.handled)
    (by rw [Endpoint.opened, inbox, sent, Endpoint.opened]) (fun id _ => by rw [inbox])
    (fun frame member => by rw [inbox]; exact member) (fun id member => by rw [closes]; exact member)
    (by rw [inbox, closes]; exact reading)
    (kept.sending_stay operated sent written fun id member => by rw [closes]; exact member) ?_
    (by rw [sent]; exact kept.valid)
  rw [sent, inbox]
  exact kept.caused

theorem pull (kept : Kept format limit sofar own other) (nodup : (own.opened other).Nodup)
    (present : own.mux.objects[index]? = some channel) (notWaiting : channel.waiter = false) :
    Kept format limit sofar (own.after (.pull index) (own.mux.perform format (.pull index))) other := by
  rcases MuxChannel.pull_frame channel with ⟨id, size, ended⟩
  rcases Operated.operate present (show channel.ask = (channel.pull.1, _) from rfl) id size
    (by rw [ended]; exact fun isEnded => isEnded) nofun with ⟨after, performed, operated⟩
  rw [ChannelMux.perform, performed]
  exact kept.quiet nodup operated rfl (List.append_nil _) rfl rfl rfl
    ((kept.reading index channel present).pull notWaiting)

theorem close (kept : Kept format limit sofar own other) (nodup : (own.opened other).Nodup)
    (present : own.mux.objects[index]? = some channel) :
    Kept format limit sofar (own.after (.close index) (own.mux.perform format (.close index))) other := by
  have reading := kept.reading index channel present
  cases ended : channel.ended with
  | some ending =>
      rcases Operated.operate present (MuxChannel.close_ended ended) rfl rfl
        (fun isEnded => isEnded) nofun with ⟨after, performed, operated⟩
      rw [ChannelMux.perform, performed]
      refine kept.quiet nodup operated rfl (List.append_nil _) rfl rfl rfl ?_
      rw [Option.toList_none, List.append_nil]
      exact reading
  | none =>
      rcases Operated.operate present (MuxChannel.close_open reading.sound ended) rfl rfl
        (fun _ => nofun) (fun _ => nofun) with ⟨after, performed, operated⟩
      have closing : own.idOf index = some channel.id := by rw [Endpoint.idOf, present]; rfl
      rw [ChannelMux.perform, performed]
      have inCloses : channel.id ∈ own.closes ++ (own.idOf index).toList := by
        rw [closing]
        exact List.mem_append_right _ List.mem_cons_self
      refine kept.operated nodup operated rfl kept.handled
        (congrArg (· ++ openedBy (own.inbox other)) (openedBy_data ..)) (fun _ _ => rfl)
        (fun _ member => member) (fun _ member => List.mem_append_left _ member)
        (reading.finish ended .done List.prefix_rfl fun _ => Or.inl inCloses)
        (kept.sending_end nodup operated nofun rfl (by exact nofun) rfl rfl
          (fun _ member => List.mem_append_left _ member) fun _ => inCloses)
        (fun before frame later => kept.caused_snoc (kept.registered.mem_opened present)
          fun _ member => member)
        (kept.valid_snoc (kept.registered.indices index channel present))

theorem write (kept : Kept format limit sofar own other)
    (present : own.mux.objects[index]? = some channel) (chunk : List Octet) :
    Kept format limit sofar (own.after (.write index chunk) (own.mux.perform format (.write index chunk)))
      other := by
  have named : own.idOf index = some channel.id := by rw [Endpoint.idOf, present]; rfl
  rw [ChannelMux.perform, ChannelMux.write, present]
  cases ended : channel.ended with
  | some ending =>
      simp only [MuxChannel.write, ended, Option.isSome_some, if_true]
      have same : own.after (.write index chunk)
          (own.mux, { thrown := some ⟨.connLost, MuxChannel.closedMessage format channel.id⟩ }) =
          own := by
        simp only [Endpoint.after, List.append_nil]
      rw [same]
      exact kept
  | none =>
      simp only [MuxChannel.write, ended, Option.isSome_none, Bool.false_eq_true, if_false]
      let data : DataFrame Number := { channel := channel.id, type := .data, payload := some chunk }
      have wrote : own.after (.write index chunk) (own.mux, { frames := [.data data] }) =
          { own with
            sent := own.sent ++ [.data data], written := own.written ++ [(channel.id, chunk)] } := by
        simp only [Endpoint.after, named, List.append_nil]
        rfl
      have isOpen : own.IsOpen channel.id := ⟨index, channel, present, rfl, ended⟩
      rw [wrote]
      exact
        { limit := kept.limit
          handled := kept.handled
          registered := by
            rw [Endpoint.opened, openedBy_data]
            exact kept.registered
          reading := kept.reading
          sending := fun id => kept.sending_write isOpen chunk id
          caused := fun before frame later =>
            kept.caused_snoc (kept.registered.mem_opened present) fun _ member => member
          valid := kept.valid_snoc (kept.registered.indices index channel present)
          numbered := kept.numbered
          beyond := kept.beyond }

theorem created (kept : Kept format limit sofar own other) {frame : OpenFrame Number}
    (valid : format.isIndex frame.channel = true) (fresh : frame.channel ∉ own.opened other)
    (known : ∀ data, .data data ∈ own.inbox other → data.channel ∈ own.opened other)
    (mux : own'.mux = own.mux.create frame.channel frame.channelType)
    (pulled : own'.pulled = own.pulled) (written : own'.written = own.written)
    (closes : own'.closes = own.closes) (handled : own'.handled ≤ other.sent.length)
    (frames : own'.sent = own.sent ++ [.opening frame] ∧ own'.inbox other = own.inbox other ∨
      own'.sent = own.sent ∧ own'.inbox other = own.inbox other ++ [.opening frame]) :
    Kept format limit sofar own' other := by
  have arrived : ∀ id, payloadsOn id (own'.inbox other) = payloadsOn id (own.inbox other) := by
    intro id
    rcases frames with ⟨_, inbox⟩ | ⟨_, inbox⟩
    · rw [inbox]
    · rw [inbox, payloadsOn_append]
      exact List.append_nil _
  have grows : ∀ came ∈ own.inbox other, came ∈ own'.inbox other := by
    intro came member
    rcases frames with ⟨_, inbox⟩ | ⟨_, inbox⟩
    · rw [inbox]
      exact member
    · rw [inbox]
      exact List.mem_append_left _ member
  have opened : (own.opened other ++ [frame.channel]).Perm (own'.opened other) := by
    rcases frames with ⟨sent, inbox⟩ | ⟨sent, inbox⟩
    · rw [Endpoint.opened, Endpoint.opened, sent, inbox, openedBy_append, List.append_assoc,
        List.append_assoc]
      exact (List.perm_append_comm).append_left _
    · rw [Endpoint.opened, Endpoint.opened, sent, inbox, openedBy_append, List.append_assoc]
      exact List.Perm.refl _
  have unsent : ∀ sent ∈ own.sent, ¬sent.Ends frame.channel := by
    rintro sent member ⟨data, rfl, onChannel, _⟩
    exact fresh (onChannel ▸ kept.mem_opened_of_sent member)
  have silent : ∀ id, own'.IsOpen id → ∀ sent ∈ own.sent, ¬sent.Ends id := by
    rintro id ⟨position, channel, present, rfl, isOpen⟩
    rw [mux, Registered.getElem?_create] at present
    split at present
    · cases present
      exact unsent
    · exact (kept.sending channel.id).silent ⟨position, channel, present, rfl, isOpen⟩
  exact
    { limit := by rw [mux]; exact kept.limit
      handled := handled
      registered := by
        rw [mux]
        exact kept.registered.create valid (kept.registered.get_of_notMem fresh) _ opened
      reading := by
        intro position channel present
        have log : own'.pulledOf position = own.pulledOf position := by
          rw [Endpoint.pulledOf, pulled, Endpoint.pulledOf]
        rw [arrived, log, closes]
        rw [mux, Registered.getElem?_create] at present
        split at present
        · next last =>
            have nothing : payloadsOn frame.channel (own.inbox other) = [] := by
              refine List.filterMap_eq_nil_iff.mpr fun came member => ?_
              cases came with
              | opening _ => rfl
              | data data =>
                  exact MuxFrame.payloadOn_other fun same => fresh (same ▸ known data member)
            cases present
            rw [kept.pulledOf_of_unread (Nat.le_of_eq last.symm),
              kept.beyond position (Nat.le_of_eq last.symm)]
            exact nothing ▸ Reading.fresh ..
        · exact (kept.reading position channel present).mono
            (fun closing => closing.imp fun came shown => ⟨grows came shown.1, shown.2⟩)
            fun here => here
      sending := by
        intro id
        rw [Endpoint.writtenOn, written, closes, ← Endpoint.writtenOn]
        rcases frames with ⟨sent, _⟩ | ⟨sent, _⟩
        · rw [sent]
          have sending := (kept.sending id).snoc
            (show ((MuxFrame.opening frame).payloadOn id).isSome → own.IsOpen id by
              intro impossible
              cases impossible)
            (fun isOpen => ⟨silent id isOpen, MuxFrame.ends_opening frame⟩)
            (fun closing => absurd closing.ends (MuxFrame.ends_opening frame)) fun closed => closed
          rw [← List.append_nil (own.writtenOn id)]
          exact sending
        · rw [sent]
          exact (kept.sending id).stay (silent id) fun closed => closed
      caused := by
        intro before data later split
        rcases frames with ⟨sent, inbox⟩ | ⟨sent, inbox⟩
        · rw [sent] at split
          rw [inbox]
          rcases snoc_split split with ⟨_, same, _⟩ | ⟨others, _, isSent⟩
          · cases same
          · exact kept.caused before data others isSent
        · rw [inbox, openedBy_append]
          exact (kept.caused before data later (sent ▸ split)).imp_right
            (List.mem_append_left _)
      valid := by
        rcases frames with ⟨sent, _⟩ | ⟨sent, _⟩
        · rw [sent]
          exact kept.valid_snoc valid
        · rw [sent]
          exact kept.valid
      numbered := by
        rw [pulled, mux]
        intro entry member
        refine (kept.numbered entry member).trans ?_
        rw [ChannelMux.create, List.length_append]
        exact Nat.lt_succ_self _
      beyond := by
        intro position beyond
        rw [mux, ChannelMux.create, List.length_append] at beyond
        exact kept.beyond position (Nat.le_of_succ_le beyond) }

omit [DecidableEq Number] in
theorem inbox_next {came : MuxFrame Number} (next : other.sent[own.handled]? = some came)
    (handled : own'.handled = own.handled + 1) :
    own'.inbox other = own.inbox other ++ [came] := by
  rw [Endpoint.inbox, handled, List.take_add_one, next]
  rfl

omit [DecidableEq Number] in
theorem split_next {came : MuxFrame Number} (next : other.sent[own.handled]? = some came) :
    other.sent = own.inbox other ++ came :: other.sent.drop (own.handled + 1) := by
  rcases List.getElem?_eq_some_iff.mp next with ⟨inside, isNext⟩
  rw [Endpoint.inbox, ← isNext, List.getElem_cons_drop, List.take_append_drop]

theorem received (kept : Kept format limit sofar own other) (nodup : (own.opened other).Nodup)
    {frame : DataFrame Number} (next : other.sent[own.handled]? = some (.data frame))
    (onChannel : frame.channel = channel.id) {pulled : Option Pulled}
    (operated : Operated own.mux own'.mux index channel moved)
    (log : own'.pulled = own.pulled ++ pulled.toList.map fun pulled => (index, pulled))
    (handled : own'.handled = own.handled + 1) (written : own'.written = own.written)
    (closes : own'.closes = own.closes)
    (sent : own'.sent = own.sent ∨
      moved.ended ≠ none ∧ ∃ error : DataFrame Number, error.channel = channel.id ∧
        error.type = .error ∧ own'.sent = own.sent ++ [.data error])
    (reading : Reading (sofar index) moved (own.pulledOf index ++ pulled.toList)
      (payloadsOn channel.id (own.inbox other ++ [.data frame]))
      (∃ came ∈ own.inbox other ++ [.data frame], came.Closes channel.id)
      (channel.id ∈ own.closes)) : Kept format limit sofar own' other := by
  have inbox : own'.inbox other = own.inbox other ++ [.data frame] := inbox_next next handled
  have inboxOpens : openedBy (own'.inbox other) = openedBy (own.inbox other) := by
    rw [inbox, openedBy_data]
  have sentOpens : openedBy own'.sent = openedBy own.sent := by
    rcases sent with sent | ⟨_, error, _, _, sent⟩
    · rw [sent]
    · rw [sent, openedBy_data]
  have stayClosed : ∀ id ∈ own.closes, id ∈ own'.closes := fun id member => by
    rw [closes]
    exact member
  have known := kept.registered.mem_opened operated.present
  have isIndex := kept.registered.indices index channel operated.present
  refine kept.operated nodup operated log ?_ (by rw [Endpoint.opened, sentOpens, inboxOpens]; rfl)
    ?_ ?_ stayClosed (by rw [inbox, closes]; exact reading) ?_ ?_ ?_
  · rw [handled]
    exact (List.getElem?_eq_some_iff.mp next).1
  · intro id different
    rw [inbox, payloadsOn_append]
    have none : payloadsOn id [.data frame] = [] :=
      List.filterMap_cons_none (MuxFrame.payloadOn_other (onChannel ▸ different.symm))
    rw [none, List.append_nil]
  · intro came member
    rw [inbox]
    exact List.mem_append_left _ member
  · rcases sent with sent | ⟨isEnded, error, sameId, isError, sent⟩
    · exact kept.sending_stay operated sent written stayClosed
    · exact kept.sending_end nodup operated isEnded sameId (by rw [isError]; exact nofun) sent written
        stayClosed fun ending => absurd (isError.symm.trans ending) nofun
  · intro before data later split
    rw [inboxOpens]
    rcases sent with sent | ⟨_, error, sameId, _, sent⟩
    · exact kept.caused before data later (sent ▸ split)
    · rw [sent] at split
      exact kept.caused_snoc (sameId ▸ known) (fun _ member => member) split
  · rcases sent with sent | ⟨_, error, sameId, _, sent⟩
    · rw [sent]
      exact kept.valid
    · rw [sent]
      exact kept.valid_snoc (show format.isIndex error.channel = true by rw [sameId]; exact isIndex)

theorem receive (kept : Kept format limit sofar own other) (peer : Kept format limit' sofar' other own)
    (nodup : (own.opened other).Nodup) {frame : DataFrame Number}
    (next : other.sent[own.handled]? = some (.data frame)) :
    Kept format limit sofar
      { own.after (.line (MuxFrame.object format (.data frame)))
          (own.mux.perform format (.line (MuxFrame.object format (.data frame)))) with
        handled := own.handled + 1 } other := by
  have split := split_next next
  have member : MuxFrame.data frame ∈ other.sent := List.mem_of_getElem? next
  have known : frame.channel ∈ own.opened other :=
    peer.mem_opened_of_comes split (by
      rw [Endpoint.inbox]
      exact List.length_take_le _ _)
  rcases kept.registered.exists_object known with ⟨index, channel, present, sameId⟩
  have reading := kept.reading index channel present
  rw [ChannelMux.perform, ChannelMux.handleLine_data format _ (peer.valid _ member)]
  by_cases isEnded : channel.ended ≠ none
  · rcases kept.registered.handleFrame_ended nodup sameId.symm present isEnded with
      ⟨mux, performed, operated⟩
    rw [performed]
    have dropped : Reading (sofar index) channel (own.pulledOf index ++ (none : Option Pulled).toList)
        (payloadsOn channel.id (own.inbox other ++ [.data frame]))
        (∃ came ∈ own.inbox other ++ [.data frame], came.Closes channel.id)
        (channel.id ∈ own.closes) := ?_
    · exact kept.received nodup next sameId.symm operated rfl rfl rfl rfl
        (Or.inl (List.append_nil _)) dropped
    rw [Option.toList_none, List.append_nil, payloadsOn_append]
    refine reading.drop isEnded (List.prefix_append _ _) ?_ fun here => here
    rintro ⟨came, inInbox, closing⟩
    have noChunk : (MuxFrame.data frame).payloadOn channel.id = none := by
      by_contra carries
      exact (peer.sending channel.id).last _ _ _ split (Option.ne_none_iff_isSome.mp carries) came
        inInbox closing.ends
    have none : payloadsOn channel.id [.data frame] = [] := List.filterMap_cons_none noChunk
    exact ⟨⟨came, List.mem_append_left _ inInbox, closing⟩, by rw [none, List.append_nil]⟩
  · have isOpen := not_not.mp isEnded
    have closesMore : (∃ came ∈ own.inbox other, came.Closes channel.id) →
        ∃ came ∈ own.inbox other ++ [.data frame], came.Closes channel.id :=
      fun ⟨came, inInbox, closing⟩ => ⟨came, List.mem_append_left _ inInbox, closing⟩
    have noChunk : frame.type ≠ .data → payloadsOn channel.id (own.inbox other ++ [.data frame]) =
        payloadsOn channel.id (own.inbox other) := by
      intro ends
      rw [payloadsOn_append]
      exact (congrArg _ (List.filterMap_cons_none (MuxFrame.payloadOn_ending ends _))).trans
        (List.append_nil _)
    rw [kept.registered.handleFrame_open sameId.symm present isOpen]
    cases type : frame.type with
    | data =>
        have arrived : payloadsOn channel.id (own.inbox other ++ [.data frame]) =
            payloadsOn channel.id (own.inbox other) ++ [frame.payload.getD []] := by
          rw [payloadsOn_append]
          exact congrArg _ (List.filterMap_cons_some (if_pos ⟨sameId.symm, type⟩))
        by_cases accepts : channel.Accepts (frame.payload.getD [])
        · rcases MuxChannel.accept_frame channel (frame.payload.getD []) with ⟨id, size, ended⟩
          rcases Operated.operate present
            ((ChannelMux.receive_data format type channel).trans
              (MuxChannel.data_accepted format isOpen accepts)) id size
            (by rw [ended]; exact fun isEnded => isEnded) nofun with ⟨mux, performed, operated⟩
          rw [performed]
          refine kept.received nodup next sameId.symm operated rfl rfl rfl rfl
            (Or.inl (List.append_nil _)) ?_
          rw [arrived]
          exact (reading.accept isOpen accepts).mono closesMore fun here => here
        · rcases Operated.operate present
            ((ChannelMux.receive_data format type channel).trans
              (MuxChannel.data_exceeding format reading.sound isOpen accepts)) rfl rfl
            (fun _ => nofun) (fun _ => nofun) with ⟨mux, performed, operated⟩
          have notWaiting : channel.waiter = false := by
            rw [← Bool.not_eq_true]
            exact fun waits => accepts (Or.inl waits)
          have finished : Reading (sofar index) _
              (own.pulledOf index ++
                (if channel.waiter then some (Pulled.ended _) else none).toList) _
              (∃ came ∈ own.inbox other ++ [.data frame], came.Closes channel.id)
              (channel.id ∈ own.closes) :=
            reading.finish isOpen (.failed ⟨.protocolError, channel.exceededMessage format⟩)
              (List.prefix_append _ [frame.payload.getD []]) nofun
          rw [notWaiting] at finished
          rw [performed]
          refine kept.received nodup next sameId.symm operated rfl rfl rfl rfl
            (Or.inr ⟨nofun, _, rfl, rfl, rfl⟩) ?_
          rw [arrived]
          exact finished
    | ending =>
        have arrived := noChunk (by rw [type]; exact nofun)
        rcases Operated.operate present
          ((ChannelMux.receive_ending format type channel).trans
            (MuxChannel.finish_open reading.sound isOpen .done)) rfl rfl
          (fun _ => nofun) (fun _ => nofun) with ⟨mux, performed, operated⟩
        rw [performed]
        refine kept.received nodup next sameId.symm operated rfl rfl rfl rfl
          (Or.inl (List.append_nil _)) ?_
        rw [arrived]
        exact reading.finish isOpen .done List.prefix_rfl fun _ =>
          Or.inr ⟨⟨.data frame, List.mem_append_right _ List.mem_cons_self, frame, rfl,
            sameId.symm, type⟩, rfl⟩
    | error =>
        have arrived := noChunk (by rw [type]; exact nofun)
        rcases Operated.operate present
          ((ChannelMux.receive_error format type channel).trans
            (MuxChannel.finish_open reading.sound isOpen _)) rfl rfl
          (fun _ => nofun) (fun _ => nofun) with ⟨mux, performed, operated⟩
        rw [performed]
        refine kept.received nodup next sameId.symm operated rfl rfl rfl rfl
          (Or.inl (List.append_nil _)) ?_
        rw [arrived]
        exact reading.finish isOpen _ List.prefix_rfl nofun

theorem fail (kept : Kept format limit sofar own other) (nodup : (own.opened other).Nodup)
    (index : Nat) (error : ChannelError) :
    ∃ mux pulled,
      own.mux.operate index (fun channel => channel.finish (.failed error)) =
        (mux, { pulled := pulled }) ∧
      Kept format limit sofar { own with mux := mux, pulled := own.pulled ++ pulled } other ∧
      mux.channels = own.mux.channels ∧
      ∀ (position : Nat) (later : MuxChannel Number), mux.objects[position]? = some later →
        later.ended = none → position ≠ index ∧ own.mux.objects[position]? = some later := by
  cases present : own.mux.objects[index]? with
  | none =>
      refine ⟨own.mux, [], by rw [ChannelMux.operate, present], ?_, rfl, ?_⟩
      · rw [List.append_nil]
        exact kept
      · intro position later atPosition _
        refine ⟨?_, atPosition⟩
        rintro rfl
        cases present.symm.trans atPosition
  | some channel =>
      have reading := kept.reading index channel present
      cases ended : channel.ended with
      | some ending =>
          rcases @Operated.operate _ _ _ _ present (fun channel => channel.finish (.failed error))
            _ _ (MuxChannel.finish_ended ended _) rfl rfl (fun isEnded => isEnded) (by simp) with
            ⟨mux, performed, operated⟩
          refine ⟨mux, _, performed, ?_, operated.channels, ?_⟩
          · refine kept.quiet nodup operated rfl rfl rfl rfl rfl ?_
            rw [Option.toList_none, List.append_nil]
            exact reading
          · intro position later atPosition isOpen
            rcases operated.earlier atPosition with ⟨_, rfl⟩ | unchanged
            · cases ended.symm.trans isOpen
            · exact unchanged
      | none =>
          rcases @Operated.operate _ _ _ _ present (fun channel => channel.finish (.failed error))
            _ _ (MuxChannel.finish_open reading.sound ended _) rfl rfl (fun _ => by simp)
            (fun _ => by simp) with ⟨mux, performed, operated⟩
          refine ⟨mux, _, performed, ?_, operated.channels, ?_⟩
          · exact kept.quiet nodup operated rfl rfl rfl rfl rfl
              (reading.finish ended _ List.prefix_rfl (by simp))
          · intro position later atPosition isOpen
            rcases operated.earlier atPosition with ⟨_, rfl⟩ | unchanged
            · cases isOpen
            · exact unchanged

theorem failAll (kept : Kept format limit sofar own other) (nodup : (own.opened other).Nodup)
    (indices : List Nat) (error : ChannelError) :
    ∃ mux pulled,
      own.mux.finishAll (.failed error) indices = (mux, { pulled := pulled }) ∧
      Kept format limit sofar { own with mux := mux, pulled := own.pulled ++ pulled } other ∧
      mux.channels = own.mux.channels ∧
      ∀ (position : Nat) (later : MuxChannel Number), mux.objects[position]? = some later →
        later.ended = none → position ∉ indices ∧ own.mux.objects[position]? = some later := by
  induction indices generalizing own with
  | nil =>
      refine ⟨own.mux, [], rfl, ?_, rfl, fun position later present _ =>
        ⟨List.not_mem_nil, present⟩⟩
      rw [List.append_nil]
      exact kept
  | cons index rest induction =>
      rcases kept.fail nodup index error with ⟨first, pulled, performed, firstKept, sameMap, opens⟩
      rcases induction firstKept nodup with ⟨last, more, finished, lastKept, alsoMap, stillOpen⟩
      refine ⟨last, pulled ++ more, ?_, ?_, alsoMap.trans sameMap, ?_⟩
      · rw [ChannelMux.finishAll]
        simp only [performed, finished]
      · rw [← List.append_assoc]
        exact lastKept
      · intro position later present isOpen
        rcases stillOpen position later present isOpen with ⟨notRest, atFirst⟩
        rcases opens position later atFirst isOpen with ⟨notIndex, before⟩
        exact ⟨List.not_mem_cons_of_ne_of_not_mem notIndex notRest, before⟩

theorem teardown (kept : Kept format limit sofar own other) (nodup : (own.opened other).Nodup) :
    Kept format limit sofar (own.after .streamEnded (own.mux.perform format .streamEnded)) other := by
  rcases kept.failAll nodup own.mux.channels.values
    ⟨.connLost, asciiText "mux byte stream ended"⟩ with
    ⟨mux, pulled, finished, finishedKept, sameMap, stillOpen⟩
  have torn : own.after .streamEnded (own.mux.perform format .streamEnded) =
      { own with
        mux := { mux with channels := .empty, closed := true }
        pulled := own.pulled ++ pulled } := by
    rw [ChannelMux.perform, ChannelMux.teardown, ChannelMux.connectionLost, finished]
    simp only [Endpoint.after, List.append_nil]
  have allEnded : ∀ (index : Nat) (channel : MuxChannel Number),
      mux.objects[index]? = some channel → channel.ended ≠ none := by
    intro index channel present isOpen
    have mapped := finishedKept.registered.mapped index channel present isOpen
    exact (stillOpen index channel present isOpen).1
      (OrderedMap.mem_values_of_get (sameMap ▸ mapped))
  rw [torn]
  exact { finishedKept with registered := finishedKept.registered.clear allEnded }

theorem remove (kept : Kept format limit sofar own other)
    (due : index ∈ own.mux.removals) :
    Kept format limit sofar (own.after (.removed index) (own.mux.perform format (.removed index)))
      other := by
  have same : (own.mux.remove index).objects = own.mux.objects ∧
      (own.mux.remove index).maxQueuedBytes = own.mux.maxQueuedBytes := by
    rw [ChannelMux.remove]
    split
    · exact ⟨rfl, rfl⟩
    · dsimp only
      split <;> exact ⟨rfl, rfl⟩
  have removed : own.after (.removed index) (own.mux.perform format (.removed index)) =
      { own with mux := own.mux.remove index } := by
    rw [ChannelMux.perform]
    simp only [Endpoint.after, List.append_nil]
  rw [removed]
  exact
    { limit := same.2.trans kept.limit
      handled := kept.handled
      registered := kept.registered.remove due
      reading := fun position channel present =>
        kept.reading position channel (same.1 ▸ present)
      sending := by
        intro id
        refine (kept.sending id).stay ?_ fun closed => closed
        rintro ⟨position, channel, present, isOpen⟩
        exact (kept.sending id).silent ⟨position, channel, same.1 ▸ present, isOpen⟩
      caused := kept.caused
      valid := kept.valid
      numbered := by
        intro entry member
        exact (kept.numbered entry member).trans_eq (congrArg List.length same.1).symm
      beyond := by
        rw [same.1]
        exact kept.beyond }

theorem known_of_inbox (peer : Kept format limit sofar other own) :
    ∀ data, .data data ∈ own.inbox other → data.channel ∈ own.opened other := by
  intro data member
  rcases List.append_of_mem member with ⟨before, later, split⟩
  have sent : other.sent = before ++ .data data :: (later ++ other.sent.drop own.handled) := by
    rw [← List.cons_append, ← List.append_assoc, ← split]
    exact (List.take_append_drop ..).symm
  refine peer.mem_opened_of_comes sent ?_
  have length := congrArg List.length split
  rw [Endpoint.inbox, List.length_take, List.length_append, List.length_cons] at length
  omega

theorem openChannel (kept : Kept format limit sofar own other) (peer : Kept format limit' sofar' other own)
    {id : Number} (fresh : id ∉ own.opened other) (type : Text) :
    Kept format limit sofar (own.after (.openChannel id type)
      (own.mux.perform format (.openChannel id type))) other := by
  have unchanged : ∀ error,
      own.after (.openChannel id type) (own.mux, { thrown := some error }) = own := by
    intro error
    simp only [Endpoint.after, List.append_nil]
  rw [ChannelMux.perform, ChannelMux.openChannel]
  split
  · rw [unchanged]
    exact kept
  · next isIndex =>
      split
      · rw [unchanged]
        exact kept
      · have isIndex : format.isIndex id = true := by simpa using isIndex
        have opens : own.after (.openChannel id type)
            (own.mux.create id type, { frames := [.opening ⟨id, type⟩] }) =
            { own with
              mux := own.mux.create id type, sent := own.sent ++ [.opening ⟨id, type⟩] } := by
          simp only [Endpoint.after, List.append_nil]
        rw [opens]
        exact kept.created (show format.isIndex (OpenFrame.mk id type).channel = true from isIndex)
          fresh peer.known_of_inbox rfl rfl rfl rfl kept.handled (Or.inl ⟨rfl, rfl⟩)

theorem receiveOpen (kept : Kept format limit sofar own other) (peer : Kept format limit' sofar' other own)
    {frame : OpenFrame Number} (next : other.sent[own.handled]? = some (.opening frame))
    (fresh : frame.channel ∉ own.opened other) :
    Kept format limit sofar
      { own.after (.line (MuxFrame.object format (.opening frame)))
          (own.mux.perform format (.line (MuxFrame.object format (.opening frame)))) with
        handled := own.handled + 1 } other := by
  have isIndex := peer.valid _ (List.mem_of_getElem? next)
  have absent : own.mux.channels.has frame.channel = false := by
    rw [OrderedMap.has, kept.registered.get_of_notMem fresh]
    rfl
  rw [ChannelMux.perform, ChannelMux.handleLine_opening format _ isIndex, ChannelMux.handleOpen,
    absent, if_neg Bool.false_ne_true]
  exact kept.created isIndex fresh peer.known_of_inbox rfl (List.append_nil _) rfl rfl
    (List.getElem?_eq_some_iff.mp next).1 (Or.inr ⟨List.append_nil _, inbox_next next rfl⟩)

end Events

end Kept

/-! ## Both endpoints -/

section Openings

variable (mux : ChannelMux Number)

omit [DecidableEq Number] in
theorem openedBy_map_data (frames : List (DataFrame Number)) :
    openedBy (frames.map MuxFrame.data) = [] :=
  List.filterMap_eq_nil_iff.mpr fun _ member => by
    rcases List.mem_map.mp member with ⟨_, _, rfl⟩
    rfl

omit [DecidableEq Number] in
theorem openedBy_operate (index : Nat)
    (operation : MuxChannel Number → MuxChannel Number × ChannelOutput Number) :
    openedBy (mux.operate index operation).2.frames = [] := by
  rw [ChannelMux.operate]
  split
  · rfl
  · exact openedBy_map_data _

omit [DecidableEq Number] in
theorem finishAll_frames (ending : ChannelEnd) (indices : List Nat) :
    (mux.finishAll ending indices).2.frames = [] := by
  induction indices generalizing mux with
  | nil => rfl
  | cons index rest induction => exact induction _

/-- Only `openChannel` sends an `open` frame. -/
theorem openedBy_perform {event : MuxEvent Number} (other : ∀ id type, event ≠ .openChannel id type) :
    openedBy (mux.perform format event).2.frames = [] := by
  cases event with
  | openChannel id type => exact absurd rfl (other id type)
  | onChannel => rfl
  | write index chunk =>
      rw [ChannelMux.perform, ChannelMux.write]
      split
      · rfl
      · split <;> rfl
  | close index => exact openedBy_operate mux index _
  | pull index => exact openedBy_operate mux index _
  | line message =>
      rw [ChannelMux.perform, ChannelMux.handleLine]
      split
      · rw [ChannelMux.handleOpen]
        split <;> rfl
      · split
        · rw [ChannelMux.handleFrame]
          split
          · rfl
          · exact openedBy_operate mux _ _
        · rfl
  | streamEnded =>
      rw [ChannelMux.perform, ChannelMux.teardown, finishAll_frames]
      rfl
  | removed index => rfl

end Openings

/-- Both endpoints keep to what they have sent, and no channel was opened twice. -/
structure Safe (format : CountingFormat Number) (limits : Side → Nat)
    (sofar : Side → Nat → List (List Octet)) (pair : MuxPair Number) : Prop where
  kept : ∀ side, Kept format (limits side) (sofar side) (pair side) (pair side.other)
  once : ∀ side, (openedBy (pair side).sent ++ openedBy (pair side.other).sent).Nodup

namespace Safe

variable {limits : Side → Nat} {sofar : Side → Nat → List (List Octet)} {pair : MuxPair Number}

theorem peer (safe : Safe format limits sofar pair) (side : Side) :
    Kept format (limits side.other) (sofar side.other) (pair side.other) (pair side) := by
  have kept := safe.kept side.other
  rw [Side.other_other] at kept
  exact kept

theorem nodup (safe : Safe format limits sofar pair) (side : Side) :
    ((pair side).opened (pair side.other)).Nodup :=
  (safe.once side).sublist
    (((List.take_sublist _ _).filterMap _).append_left _)

theorem update (safe : Safe format limits sofar pair) (side : Side) {endpoint : Endpoint Number}
    {more : List (MuxFrame Number)} (sent : endpoint.sent = (pair side).sent ++ more)
    (kept : Kept format (limits side) (sofar side) endpoint (pair side.other))
    (once : (openedBy endpoint.sent ++ openedBy (pair side.other).sent).Nodup) :
    Safe format limits sofar (Function.update pair side endpoint) where
  kept := by
    intro position
    rcases Side.eq_or_other side position with rfl | rfl
    · rw [Function.update_self, Function.update_of_ne (Side.other_ne _)]
      exact kept
    · rw [Function.update_of_ne (Side.other_ne _), Side.other_other, Function.update_self]
      exact (safe.peer side).other_sends sent
  once := by
    intro position
    rcases Side.eq_or_other side position with rfl | rfl
    · rw [Function.update_self, Function.update_of_ne (Side.other_ne _)]
      exact once
    · rw [Function.update_of_ne (Side.other_ne _), Side.other_other, Function.update_self]
      exact (List.perm_append_comm.nodup_iff).mp once

theorem start (limits : Side → Nat) :
    Safe format limits (fun _ _ => []) (MuxPair.start limits : MuxPair Number) where
  kept := fun _ =>
    { limit := rfl
      handled := Nat.le_refl _
      registered :=
        { indices := nofun
          limits := nofun
          ids := List.Perm.refl _
          mapped := nofun
          maps := nofun
          removable := nofun }
      reading := nofun
      sending := fun _ =>
        { payloads := rfl
          silent := nofun
          last := fun _ _ _ split => absurd split.symm (List.append_ne_nil_of_right_ne_nil _ nofun)
          clean := nofun }
      caused := fun _ _ _ split => absurd split.symm (List.append_ne_nil_of_right_ne_nil _ nofun)
      valid := nofun
      numbered := nofun
      beyond := fun _ _ => rfl }
  once := fun _ => List.nodup_nil

theorem act (safe : Safe format limits sofar pair) {side : Side} {event : MuxEvent Number}
    (possible : pair.Possible (.act side event)) :
    Safe format limits sofar (pair.perform format (.act side event)) := by
  have kept := safe.kept side
  have nodup := safe.nodup side
  have quiet : (∀ id type, event ≠ .openChannel id type) →
      Kept format (limits side) (sofar side) ((pair side).after event ((pair side).mux.perform format event))
        (pair side.other) →
      Safe format limits sofar (pair.perform format (.act side event)) := by
    intro other moved
    refine safe.update side rfl moved ?_
    show (openedBy ((pair side).sent ++ _) ++ openedBy (pair side.other).sent).Nodup
    rw [openedBy_append, openedBy_perform _ other, List.append_nil]
    exact safe.once side
  cases event with
  | line message => exact possible.elim
  | onChannel =>
      refine quiet nofun ?_
      have same : (pair side).after .onChannel ((pair side).mux.perform format .onChannel) =
          { pair side with mux := { (pair side).mux with handler := true } } := by
        simp only [Endpoint.after, ChannelMux.perform, List.append_nil]
      rw [same]
      exact
        { kept with
          registered := { kept.registered with } }
  | write index chunk =>
      rcases List.getElem?_eq_some_iff.mpr ⟨possible, rfl⟩ with present
      exact quiet nofun (kept.write present chunk)
  | close index =>
      exact quiet nofun (kept.close nodup (List.getElem?_eq_some_iff.mpr ⟨possible, rfl⟩))
  | pull index =>
      rcases Option.map_eq_some_iff.mp possible with ⟨channel, present, notWaiting⟩
      exact quiet nofun (kept.pull nodup present notWaiting)
  | streamEnded => exact quiet nofun (kept.teardown nodup)
  | removed index => exact quiet nofun (kept.remove possible)
  | openChannel id type =>
      rcases possible with ⟨notHere, notThere⟩
      have fresh : id ∉ (pair side).opened (pair side.other) := fun member =>
        (List.mem_append.mp member).elim notHere fun came =>
          notThere (((List.take_prefix _ _).filterMap _).subset came)
      refine safe.update side rfl (kept.openChannel (safe.peer side) fresh type) ?_
      show (openedBy ((pair side).sent ++ _) ++ openedBy (pair side.other).sent).Nodup
      rw [openedBy_append, ChannelMux.perform, ChannelMux.openChannel]
      have once := safe.once side
      split
      · exact (List.append_nil (openedBy (pair side).sent)).symm ▸ once
      · split
        · exact (List.append_nil (openedBy (pair side).sent)).symm ▸ once
        · show (openedBy (pair side).sent ++ [id] ++ openedBy (pair side.other).sent).Nodup
          rw [List.append_assoc, List.singleton_append, List.nodup_middle, List.nodup_cons]
          exact ⟨fun member => (List.mem_append.mp member).elim notHere notThere, once⟩

theorem receive (safe : Safe format limits sofar pair) {side : Side}
    (possible : pair.Possible (.receive side)) :
    Safe format limits sofar (pair.perform format (.receive side)) := by
  have inside := possible.2
  have next : (pair side.other).sent[(pair side).handled]? =
      some ((pair side.other).sent[(pair side).handled]) := List.getElem?_eq_getElem inside
  rw [MuxPair.perform, next]
  generalize (pair side.other).sent[(pair side).handled] = frame at next
  have kept := safe.kept side
  have once := safe.once side
  have split := Kept.split_next next
  have moved : Kept format (limits side) (sofar side)
      { (pair side).after (.line (frame.object format))
          ((pair side).mux.perform format (.line (frame.object format))) with
        handled := (pair side).handled + 1 } (pair side.other) := by
    cases frame with
    | data frame => exact kept.receive (safe.peer side) (safe.nodup side) next
    | opening frame =>
        refine kept.receiveOpen (safe.peer side) next fun member => ?_
        have opens : openedBy (pair side.other).sent =
            openedBy ((pair side).inbox (pair side.other)) ++ frame.channel ::
              openedBy ((pair side.other).sent.drop ((pair side).handled + 1)) :=
          (congrArg openedBy split).trans (openedBy_append ..)
        have distinct := once
        rw [opens, ← List.append_assoc, List.nodup_middle, List.nodup_cons] at distinct
        exact distinct.1 (List.mem_append_left _ member)
  refine safe.update side rfl moved ?_
  show (openedBy ((pair side).sent ++ _) ++ openedBy (pair side.other).sent).Nodup
  rw [openedBy_append, openedBy_perform _ nofun, List.append_nil]
  exact once

theorem step (safe : Safe format limits sofar pair) {event : PairEvent Number} {next : MuxPair Number}
    (stepped : pair.step format event = some next) : Safe format limits sofar next := by
  rw [MuxPair.step] at stepped
  split at stepped
  · next possible =>
      cases stepped
      cases event with
      | act side event => exact safe.act possible
      | receive side => exact safe.receive possible
  · cases stepped

theorem run {events : List (PairEvent Number)} {finish : MuxPair Number}
    (safe : Safe format limits sofar pair)
    (reached : Execution.run (MuxPair.step format) pair events = some finish) :
    Safe format limits sofar finish :=
  Execution.reachable_invariant (Safe format limits sofar) (fun safe stepped => safe.step stepped) safe
    reached

/-- From any state on, what the channels have taken in there stays taken in. -/
theorem since (safe : Safe format limits sofar pair) :
    Safe format limits (fun side => (pair side).takenBy) pair where
  kept := fun side =>
    { safe.kept side with
      reading := by
        intro index channel present
        have queued : (pair side).takenBy index =
            ((pair side).pulledOf index).filterMap Pulled.value ++ channel.queue := by
          rw [Endpoint.takenBy, present]
          rfl
        exact
          { (safe.kept side).reading index channel present with
            keeps := by rw [queued] }
      beyond := by
        intro index beyond
        rw [Endpoint.takenBy, Endpoint.chunksOf, (safe.kept side).pulledOf_of_unread beyond,
          List.getElem?_eq_none beyond]
        rfl }
  once := safe.once

end Safe

/-- In every state that two muxes reach, a reader has got the first of the chunks that the
other side has written, it gets a clean end only when it has all of them or its own side has
closed the channel, and no more is queued than the limit allows. What a channel had taken in
before it failed is got before the error is. -/
theorem reachable_readsInOrder {limits : Side → Nat} {events : List (PairEvent Number)}
    {pair : MuxPair Number}
    (reached : Execution.run (MuxPair.step format) (MuxPair.start limits) events = some pair)
    (side : Side) {index : Nat} {channel : MuxChannel Number}
    (present : (pair side).mux.objects[index]? = some channel) :
    (pair side).chunksOf index <+: (pair side.other).writtenOn channel.id ∧
    (.ended .done ∈ (pair side).pulledOf index →
      channel.id ∈ (pair side).closes ∨
        channel.id ∈ (pair side.other).closes ∧
          (pair side).chunksOf index = (pair side.other).writtenOn channel.id) ∧
    (channel.queuedBytes = (channel.queue.map List.length).sum ∧
      channel.queuedBytes ≤ limits side) ∧
    ∀ first later earlier, events = first ++ later →
      Execution.run (MuxPair.step format) (MuxPair.start limits) first = some earlier →
        ∀ before error after,
          (pair side).pulledOf index = before ++ .ended (.failed error) :: after →
            (earlier side).takenBy index <+: before.filterMap Pulled.value ∧
              after.filterMap Pulled.value = [] := by
  have safe := (Safe.start limits).run reached
  have kept := safe.kept side
  have reading := kept.reading index channel present
  have sending := (safe.peer side).sending channel.id
  have begins : payloadsOn channel.id ((pair side).inbox (pair side.other)) <+:
      (pair side.other).writtenOn channel.id := by
    rw [← sending.payloads]
    exact (List.take_prefix _ _).filterMap _
  refine ⟨((List.prefix_append _ _).trans reading.taken).trans begins, ?_,
    ⟨reading.sound.counted, ?_⟩, ?_⟩
  · intro clean
    rcases List.append_of_mem clean with ⟨before, after, split⟩
    rcases reading.last before .done after split with ⟨emptied, isDone, _⟩
    refine (reading.clean isDone).imp_right ?_
    rintro ⟨⟨frame, inInbox, closes⟩, whole⟩
    rw [emptied, List.append_nil] at whole
    refine ⟨sending.clean frame ((List.take_prefix _ _).subset inInbox) closes, whole.trans ?_⟩
    exact sending.complete (List.take_append_drop _ _).symm inInbox closes.ends
  · exact reading.sound.bounded.trans_eq
      ((kept.registered.limits index channel present).trans kept.limit)
  · rintro first later earlier rfl reachedEarlier before error after split
    rw [Execution.run_append, reachedEarlier] at reached
    have since := (((Safe.start limits).run reachedEarlier).since.run reached).kept side
    rcases (since.reading index channel present) with ⟨_, keeps, _, _, _, last⟩
    rcases last before _ after split with ⟨emptied, _, noMore⟩
    refine ⟨?_, noMore⟩
    rw [emptied, List.append_nil, split, List.filterMap_append, List.filterMap_cons_none rfl,
      noMore, List.append_nil] at keeps
    exact keeps

/-- One side opens a channel, writes a chunk and closes the channel, and the other side reads
to the end. -/
def sentAndRead : List (PairEvent Int) :=
  [.act .left (.openChannel 7 (asciiText "file")), .act .left (.write 0 [1, 2]), .receive .right,
    .act .right (.pull 0), .receive .right, .act .left (.close 0), .act .right (.pull 0),
    .receive .right]

theorem sentAndRead_readsInOrder :
    ∃ pair channel,
      Execution.run (MuxPair.step countingIntegers) (MuxPair.start fun _ => 5) sentAndRead =
        some pair ∧
      (pair .right).mux.objects[0]? = some channel ∧
      .ended .done ∈ (pair .right).pulledOf 0 ∧
      (pair .right).chunksOf 0 <+: (pair .left).writtenOn channel.id := by
  have found : ((Execution.run (MuxPair.step countingIntegers) (MuxPair.start fun _ => 5)
      sentAndRead).bind fun pair => (pair .right).mux.objects[0]?).isSome := by decide +kernel
  have ended : ∀ pair, Execution.run (MuxPair.step countingIntegers) (MuxPair.start fun _ => 5)
      sentAndRead = some pair → .ended .done ∈ (pair .right).pulledOf 0 := by
    intro pair reached
    have log : (Execution.run (MuxPair.step countingIntegers) (MuxPair.start fun _ => 5)
        sentAndRead).map (fun pair => (pair .right).pulledOf 0) =
        some [.chunk [1, 2], .ended .done] := by decide +kernel
    rw [reached] at log
    have same : (pair .right).pulledOf 0 = [.chunk [1, 2], .ended .done] := Option.some.inj log
    rw [same]
    decide
  rcases Option.isSome_iff_exists.mp found with ⟨channel, found⟩
  rcases Option.bind_eq_some_iff.mp found with ⟨pair, reached, present⟩
  exact ⟨pair, channel, reached, present, ended pair reached,
    (reachable_readsInOrder reached .right present).1⟩

/-- The other side closes the channel before it has got the chunk, and reads a clean end. -/
def closedBeforeRead : List (PairEvent Int) :=
  [.act .left (.openChannel 7 (asciiText "file")), .act .left (.write 0 [1, 2]),
    .act .left (.close 0), .receive .right, .act .right (.close 0), .act .right (.pull 0)]

theorem closedBeforeRead_endsEarly :
    (Execution.run (MuxPair.step countingIntegers) (MuxPair.start fun _ => 5)
      closedBeforeRead).map (fun pair =>
        ((pair .right).pulledOf 0, (pair .left).writtenOn 7, (pair .left).closes)) =
      some ([.ended .done], [[1, 2]], [7]) := by
  decide +kernel

end DshRemote
