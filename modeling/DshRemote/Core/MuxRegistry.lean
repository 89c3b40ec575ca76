import DshRemote.Core.ChannelMux

/-! # The map of the channels

The open channels of a mux are in its map, and what is not in the map has ended. An operation
moves one channel on and leaves the map as it is. -/

namespace DshRemote

open Json

variable {Number : Type} [DecidableEq Number] {format : CountingFormat Number}

theorem getElem?_snoc {Item : Type} (list : List Item) (item : Item) (index : Nat) :
    (list ++ [item])[index]? = if index = list.length then some item else list[index]? := by
  split
  · next last => rw [last, List.getElem?_concat_length]
  · next other =>
      rcases Nat.lt_or_gt_of_ne other with before | beyond
      · exact List.getElem?_append_left before
      · rw [List.getElem?_append_right (Nat.le_of_lt beyond),
          List.getElem?_eq_none (Nat.le_of_lt beyond), List.getElem?_eq_none]
        exact Nat.le_sub_of_add_le (by rw [List.length_singleton]; omega)

/-- The channels of a mux: the open ones are in the map, and no id was used twice. -/
structure Registered (format : CountingFormat Number) (mux : ChannelMux Number)
    (opened : List Number) : Prop where
  indices : ∀ (index : Nat) (channel : MuxChannel Number), mux.objects[index]? = some channel →
    format.isIndex channel.id = true
  limits : ∀ (index : Nat) (channel : MuxChannel Number), mux.objects[index]? = some channel →
    channel.maxQueuedBytes = mux.maxQueuedBytes
  ids : (mux.objects.map MuxChannel.id).Perm opened
  mapped : ∀ (index : Nat) (channel : MuxChannel Number), mux.objects[index]? = some channel →
    channel.ended = none → mux.channels.get channel.id = some index
  maps : ∀ id index, mux.channels.get id = some index →
    (mux.objects[index]?.map MuxChannel.id) = some id
  removable : ∀ index ∈ mux.removals,
    ∃ channel, mux.objects[index]? = some channel ∧ channel.ended ≠ none

namespace Registered

variable {mux : ChannelMux Number} {opened opened' : List Number}

theorem exists_object (registered : Registered format mux opened) {id : Number}
    (member : id ∈ opened) :
    ∃ (index : Nat) (channel : MuxChannel Number),
      mux.objects[index]? = some channel ∧ channel.id = id := by
  rcases List.mem_map.mp (registered.ids.mem_iff.mpr member) with ⟨channel, inObjects, sameId⟩
  rcases List.mem_iff_getElem?.mp inObjects with ⟨index, present⟩
  exact ⟨index, channel, present, sameId⟩

theorem mem_opened (registered : Registered format mux opened) {index : Nat}
    {channel : MuxChannel Number} (present : mux.objects[index]? = some channel) :
    channel.id ∈ opened :=
  registered.ids.mem_iff.mp (List.mem_map_of_mem (List.mem_of_getElem? present))

theorem get_of_notMem (registered : Registered format mux opened) {id : Number}
    (fresh : id ∉ opened) : mux.channels.get id = none := by
  cases found : mux.channels.get id with
  | none => rfl
  | some index =>
      rcases Option.map_eq_some_iff.mp (registered.maps id index found) with
        ⟨channel, present, sameId⟩
      exact absurd (sameId ▸ registered.mem_opened present) fresh

theorem index_unique (registered : Registered format mux opened) (nodup : opened.Nodup)
    {first second : Nat} {channel other : MuxChannel Number}
    (present : mux.objects[first]? = some channel) (also : mux.objects[second]? = some other)
    (same : channel.id = other.id) : first = second := by
  have distinct := registered.ids.nodup_iff.mpr nodup
  have atFirst : (mux.objects.map MuxChannel.id)[first]? = some channel.id := by
    rw [List.getElem?_map, present]
    rfl
  have atSecond : (mux.objects.map MuxChannel.id)[second]? = some channel.id := by
    rw [List.getElem?_map, also, same]
    rfl
  rcases List.getElem?_eq_some_iff.mp atFirst with ⟨inFirst, _⟩
  exact (List.getElem?_inj inFirst distinct).mp (atFirst.trans atSecond.symm)

theorem getElem?_create (mux : ChannelMux Number) (id : Number) (type : Text) (index : Nat) :
    (mux.create id type).objects[index]? =
      if index = mux.objects.length then some (MuxChannel.create id type mux.maxQueuedBytes)
      else mux.objects[index]? := by
  exact getElem?_snoc _ _ _

theorem create (registered : Registered format mux opened) {id : Number}
    (index : format.isIndex id = true) (absent : mux.channels.get id = none) (type : Text)
    (more : (opened ++ [id]).Perm opened') : Registered format (mux.create id type) opened' where
  indices := by
    intro position channel present
    rw [getElem?_create] at present
    split at present
    · cases present
      exact index
    · exact registered.indices position channel present
  limits := by
    intro position channel present
    rw [getElem?_create] at present
    split at present
    · cases present
      rfl
    · exact registered.limits position channel present
  ids := by
    have appended : (mux.create id type).objects.map MuxChannel.id =
        mux.objects.map MuxChannel.id ++ [id] := by
      rw [ChannelMux.create, List.map_append]
      rfl
    rw [appended]
    exact (registered.ids.append_right [id]).trans more
  mapped := by
    intro position channel present isOpen
    rw [getElem?_create] at present
    split at present
    · next last =>
        cases present
        rw [last]
        exact OrderedMap.get_set_self ..
    · have mapped := registered.mapped position channel present isOpen
      have different : channel.id ≠ id := by
        intro same
        rw [same, absent] at mapped
        cases mapped
      exact (OrderedMap.get_set_other _ _ different).trans mapped
  maps := by
    intro other position found
    rw [getElem?_create]
    by_cases same : other = id
    · rw [same] at found
      rw [← Option.some.inj ((OrderedMap.get_set_self ..).symm.trans found), if_pos rfl, same]
      rfl
    · have earlier := registered.maps other position
        ((OrderedMap.get_set_other _ _ same).symm.trans found)
      rcases Option.map_eq_some_iff.mp earlier with ⟨channel, present, _⟩
      rcases List.getElem?_eq_some_iff.mp present with ⟨inside, _⟩
      rw [if_neg (Nat.ne_of_lt inside)]
      exact earlier
  removable := by
    intro position member
    rcases registered.removable position member with ⟨channel, present, isEnded⟩
    rcases List.getElem?_eq_some_iff.mp present with ⟨inside, _⟩
    rw [getElem?_create, if_neg (Nat.ne_of_lt inside)]
    exact ⟨channel, present, isEnded⟩

theorem remove (registered : Registered format mux opened) {index : Nat}
    (due : index ∈ mux.removals) : Registered format (mux.remove index) opened := by
  rcases registered.removable index due with ⟨channel, present, isEnded⟩
  have erased : ∀ position ∈ mux.removals.erase index, position ∈ mux.removals :=
    fun position member => List.mem_of_mem_erase member
  rw [ChannelMux.remove, present]
  dsimp only
  split
  · next found =>
    exact
      { indices := registered.indices
        limits := registered.limits
        ids := registered.ids
        mapped := by
          intro position other otherPresent isOpen
          have mapped := registered.mapped position other otherPresent isOpen
          have different : other.id ≠ channel.id := by
            intro same
            rw [same, found] at mapped
            cases mapped
            rw [present] at otherPresent
            exact isEnded (Option.some.inj otherPresent ▸ isOpen)
          exact (OrderedMap.get_delete_other _ different).trans mapped
        maps := by
          intro id position found
          refine registered.maps id position ?_
          exact (OrderedMap.of_get_delete found).2
        removable := fun position member => registered.removable position (erased position member) }
  · exact
      { registered with
        removable := fun position member => registered.removable position (erased position member) }

theorem clear (registered : Registered format mux opened)
    (ended : ∀ (index : Nat) (channel : MuxChannel Number), mux.objects[index]? = some channel →
      channel.ended ≠ none) :
    Registered format { mux with channels := .empty, closed := true } opened :=
  { indices := registered.indices
    limits := registered.limits
    ids := registered.ids
    mapped := fun index channel present isOpen => absurd isOpen (ended index channel present)
    maps := fun id _ found => absurd ((OrderedMap.get_empty id).symm.trans found) nofun
    removable := registered.removable }

end Registered

/-- One channel of a mux has moved on, and the others are as they were. -/
structure Operated (before after : ChannelMux Number) (index : Nat)
    (channel moved : MuxChannel Number) : Prop where
  present : before.objects[index]? = some channel
  objects : after.objects = before.objects.set index moved
  channels : after.channels = before.channels
  limit : after.maxQueuedBytes = before.maxQueuedBytes
  removals : ∀ position ∈ after.removals,
    position ∈ before.removals ∨ position = index ∧ moved.ended ≠ none
  id : moved.id = channel.id
  size : moved.maxQueuedBytes = channel.maxQueuedBytes
  stays : channel.ended ≠ none → moved.ended ≠ none

namespace Operated

omit [DecidableEq Number] in
theorem refl {mux : ChannelMux Number} {index : Nat} {channel : MuxChannel Number}
    (present : mux.objects[index]? = some channel) : Operated mux mux index channel channel where
  present := present
  objects := by
    rcases List.getElem?_eq_some_iff.mp present with ⟨inside, isChannel⟩
    rw [← isChannel, List.set_getElem_self]
  channels := rfl
  limit := rfl
  removals := fun _ member => Or.inl member
  id := rfl
  size := rfl
  stays := fun isEnded => isEnded

omit [DecidableEq Number] in
theorem operate {mux : ChannelMux Number} {index : Nat} {channel : MuxChannel Number}
    (present : mux.objects[index]? = some channel)
    {operation : MuxChannel Number → MuxChannel Number × ChannelOutput Number}
    {moved : MuxChannel Number} {output : ChannelOutput Number}
    (result : operation channel = (moved, output)) (id : moved.id = channel.id)
    (size : moved.maxQueuedBytes = channel.maxQueuedBytes)
    (stays : channel.ended ≠ none → moved.ended ≠ none)
    (closes : output.closed = true → moved.ended ≠ none) :
    ∃ after,
      mux.operate index operation =
        (after,
          { frames := output.frames.map .data
            pulled := output.pulled.toList.map fun pulled => (index, pulled) }) ∧
        Operated mux after index channel moved := by
  rw [ChannelMux.operate, present]
  simp only [result]
  refine ⟨_, rfl, ⟨present, rfl, rfl, rfl, fun position member => ?_, id, size, stays⟩⟩
  cases closed : output.closed with
  | false =>
      rw [closed, if_neg Bool.false_ne_true] at member
      exact Or.inl member
  | true =>
      rw [closed, if_pos rfl] at member
      exact (List.mem_append.mp member).imp_right fun last =>
        ⟨List.mem_singleton.mp last, closes closed⟩

variable {before after : ChannelMux Number} {index : Nat} {channel moved : MuxChannel Number}
  {opened : List Number}

omit [DecidableEq Number] in
theorem getElem? (operated : Operated before after index channel moved) (position : Nat) :
    after.objects[position]? = if position = index then some moved else before.objects[position]? := by
  rcases List.getElem?_eq_some_iff.mp operated.present with ⟨inside, _⟩
  rw [operated.objects, List.getElem?_set]
  by_cases same : position = index
  · rw [if_pos same, if_pos same.symm, if_pos inside]
  · rw [if_neg same, if_neg (Ne.symm same)]

omit [DecidableEq Number] in
theorem length_objects (operated : Operated before after index channel moved) :
    after.objects.length = before.objects.length := by
  rw [operated.objects, List.length_set]

omit [DecidableEq Number] in
theorem earlier (operated : Operated before after index channel moved) {position : Nat}
    {later : MuxChannel Number} (present : after.objects[position]? = some later) :
    position = index ∧ later = moved ∨
      position ≠ index ∧ before.objects[position]? = some later := by
  rw [operated.getElem?] at present
  split at present
  · next same => exact Or.inl ⟨same, (Option.some.inj present).symm⟩
  · next other => exact Or.inr ⟨other, present⟩

omit [DecidableEq Number] in
theorem mapId (operated : Operated before after index channel moved) (position : Nat) :
    after.objects[position]?.map MuxChannel.id = before.objects[position]?.map MuxChannel.id := by
  rw [operated.getElem?]
  split
  · next same => rw [same, operated.present, Option.map_some, Option.map_some, operated.id]
  · rfl

theorem registered (operated : Operated before after index channel moved)
    (registered : Registered format before opened) : Registered format after opened where
  indices := by
    intro position later present
    rcases operated.earlier present with ⟨rfl, rfl⟩ | ⟨_, present⟩
    · rw [operated.id]
      exact registered.indices _ _ operated.present
    · exact registered.indices _ _ present
  limits := by
    intro position later present
    rw [operated.limit]
    rcases operated.earlier present with ⟨rfl, rfl⟩ | ⟨_, present⟩
    · rw [operated.size]
      exact registered.limits _ _ operated.present
    · exact registered.limits _ _ present
  ids := by
    have same : after.objects.map MuxChannel.id = before.objects.map MuxChannel.id := by
      refine List.ext_getElem? fun position => ?_
      rw [List.getElem?_map, List.getElem?_map]
      exact operated.mapId position
    rw [same]
    exact registered.ids
  mapped := by
    intro position later present isOpen
    rw [operated.channels]
    rcases operated.earlier present with ⟨rfl, rfl⟩ | ⟨_, present⟩
    · rw [operated.id]
      refine registered.mapped _ _ operated.present ?_
      by_contra isEnded
      exact operated.stays isEnded isOpen
    · exact registered.mapped _ _ present isOpen
  maps := by
    intro id position found
    rw [operated.mapId]
    exact registered.maps id position (operated.channels ▸ found)
  removable := by
    intro position member
    rw [operated.getElem?]
    rcases operated.removals position member with before | ⟨same, isEnded⟩
    · rcases registered.removable position before with ⟨later, present, isEnded⟩
      split
      · next same =>
          rw [same, operated.present] at present
          exact ⟨moved, rfl, operated.stays (Option.some.inj present ▸ isEnded)⟩
      · exact ⟨later, present, isEnded⟩
    · rw [if_pos same]
      exact ⟨moved, rfl, isEnded⟩

end Operated

namespace Registered

variable {mux : ChannelMux Number} {opened : List Number} {index : Nat}
  {channel : MuxChannel Number} {frame : DataFrame Number}

/-- A frame for a channel that has ended changes nothing, whether the map still holds it or
not. -/
theorem handleFrame_ended (registered : Registered format mux opened) (nodup : opened.Nodup)
    (onChannel : frame.channel = channel.id) (present : mux.objects[index]? = some channel)
    (isEnded : channel.ended ≠ none) :
    ∃ after, mux.handleFrame format frame = (after, {}) ∧
      Operated mux after index channel channel := by
  rcases Option.ne_none_iff_exists'.mp isEnded with ⟨ending, isEnding⟩
  rw [ChannelMux.handleFrame]
  cases found : mux.channels.get frame.channel with
  | none => exact ⟨mux, rfl, Operated.refl present⟩
  | some position =>
      have mapped := registered.maps frame.channel position found
      rcases Option.map_eq_some_iff.mp mapped with ⟨named, atPosition, sameId⟩
      have same : position = index :=
        registered.index_unique nodup atPosition present (sameId.trans onChannel)
      rcases Operated.operate present (ChannelMux.receive_ended format isEnding frame) rfl rfl
        (fun isEnded => isEnded) nofun with ⟨after, performed, operated⟩
      exact ⟨after, by rw [same]; exact performed, operated⟩

theorem handleFrame_open (registered : Registered format mux opened)
    (onChannel : frame.channel = channel.id) (present : mux.objects[index]? = some channel)
    (isOpen : channel.ended = none) :
    mux.handleFrame format frame = mux.operate index (ChannelMux.receive format frame) := by
  rw [ChannelMux.handleFrame, onChannel, registered.mapped index channel present isOpen]

end Registered

end DshRemote
