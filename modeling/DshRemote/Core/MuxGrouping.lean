import DshRemote.Core.MuxReceiver

/-! # The grouping of lines into chunks

What the handler's channels come to is told by the lines alone, as long as no channel is opened
again after its end and what comes for a channel fits into its queue. -/

namespace DshRemote

open Json

variable {Number : Type} [DecidableEq Number] (format : CountingFormat Number)

/-- The stories after one more line. -/
def tell (stories : List (Story Number)) (message : Json Number) : List (Story Number) :=
  match decodeFrame format message with
  | none => stories
  | some (.opening frame) =>
      if frame.channel ∈ stories.map Story.id then stories
      else stories ++ [{ id := frame.channel, type := frame.channelType }]
  | some (.data frame) =>
      stories.map fun story =>
        if story.id = frame.channel ∧ story.ended = none then story.hear format frame else story

def storiesOf (stories : List (Story Number)) (messages : List (Json Number)) :
    List (Story Number) :=
  messages.foldl (tell format) stories

def Story.bytes (story : Story Number) : Nat := (story.data.map List.length).sum

/-- A line means the same whatever has run before it: it opens no channel that has ended, and what
it brings fits into the queue even when nothing was read. -/
def Unambiguous (limit : Nat) (stories : List (Story Number)) (message : Json Number) : Prop :=
  match decodeFrame format message with
  | none => True
  | some (.opening frame) => ∀ story ∈ stories, story.id = frame.channel → story.ended = none
  | some (.data frame) =>
      frame.type = .data → ∀ story ∈ stories, story.id = frame.channel → story.ended = none →
        story.bytes + (frame.payload.getD []).length ≤ limit

/-- Each line is unambiguous after those before it. -/
def GroupingFree (limit : Nat) (stories : List (Story Number)) : List (Json Number) → Prop
  | [] => True
  | message :: rest =>
      Unambiguous format limit stories message ∧
        GroupingFree limit (tell format stories message) rest

/-- A receiver after lines that mean the same whatever has run. -/
structure Follows (format : CountingFormat Number) (limit : Nat) (receiver : Receiver Number)
    (stories : List (Story Number)) : Prop where
  sane : receiver.Sane format
  limit : receiver.endpoint.mux.maxQueuedBytes = limit
  told : receiver.outcome = stories
  nodup : (stories.map Story.id).Nodup

namespace Follows

variable {format} {limit : Nat} {receiver : Receiver Number} {stories : List (Story Number)}

theorem start (limit : Nat) : Follows format limit (Receiver.create limit) [] where
  sane :=
    { mux :=
        { registered :=
            { indices := nofun
              limits := nofun
              ids := .refl _
              mapped := nofun
              maps := fun id _ found => absurd ((OrderedMap.get_empty id).symm.trans found) nofun
              removable := nofun }
          sound := nofun
          due := nofun
          handler := rfl }
      announced := rfl
      numbered := nofun }
  limit := rfl
  told := rfl
  nodup := List.nodup_nil

theorem tale_eq (follows : Follows format limit receiver stories) (index : Nat) :
    receiver.tale index = stories[index]? := by
  rw [← follows.told, follows.sane.getElem?_outcome]

theorem exists_channel (follows : Follows format limit receiver stories) {index : Nat}
    {story : Story Number} (present : stories[index]? = some story) :
    ∃ channel, receiver.endpoint.mux.objects[index]? = some channel ∧ channel.id = story.id ∧
      channel.ended = story.ended ∧ receiver.endpoint.takenBy index = story.data := by
  rw [← follows.tale_eq] at present
  rcases Option.map_eq_some_iff.mp present with ⟨channel, found, rfl⟩
  exact ⟨channel, found, rfl, rfl, rfl⟩

theorem of_tales {later : Receiver Number} {limit : Nat} {stories : List (Story Number)}
    (sane : later.Sane format) (limited : later.endpoint.mux.maxQueuedBytes = limit)
    (tales : ∀ index, later.tale index = stories[index]?) (nodup : (stories.map Story.id).Nodup) :
    Follows format limit later stories where
  sane := sane
  limit := limited
  told := List.ext_getElem? fun index => (sane.getElem?_outcome index).trans (tales index)
  nodup := nodup

theorem length_objects (follows : Follows format limit receiver stories) :
    receiver.endpoint.mux.objects.length = stories.length := by
  refine Nat.le_antisymm (Nat.le_of_not_lt fun more => ?_) (Nat.le_of_not_lt fun more => ?_)
  · have known := follows.tale_eq stories.length
    rw [Receiver.tale, List.getElem?_eq_none (Nat.le_refl _), List.getElem?_eq_getElem more] at known
    cases known
  · have known := follows.tale_eq receiver.endpoint.mux.objects.length
    rw [Receiver.tale_eq_none (Nat.le_refl _), List.getElem?_eq_getElem more] at known
    cases known

theorem accepts (follows : Follows format limit receiver stories) {index : Nat}
    {channel : MuxChannel Number} (present : receiver.endpoint.mux.objects[index]? = some channel)
    {story : Story Number} (told : stories[index]? = some story) {payload : List Octet}
    (fits : story.bytes + payload.length ≤ limit) : channel.Accepts payload := by
  rcases follows.exists_channel told with ⟨_, same, _, _, taken⟩
  cases Option.some.inj (present.symm.trans same)
  refine Or.inr ?_
  rw [follows.sane.mux.registered.limits index channel present, follows.limit,
    (follows.sane.mux.sound index channel present).counted]
  refine (Nat.add_le_add_right ?_ _).trans fits
  rw [Story.bytes, ← taken, Endpoint.takenBy, present, List.map_append, List.sum_append]
  exact Nat.le_add_left _ _

theorem get_of_notMem (follows : Follows format limit receiver stories) {id : Number}
    (fresh : id ∉ stories.map Story.id) : receiver.endpoint.mux.channels.get id = none := by
  cases found : receiver.endpoint.mux.channels.get id with
  | none => rfl
  | some index =>
      rcases Option.map_eq_some_iff.mp (follows.sane.mux.registered.maps id index found) with
        ⟨channel, present, named⟩
      have told := follows.tale_eq index
      rw [Receiver.tale, present] at told
      exact absurd (List.mem_map.mpr ⟨_, List.mem_of_getElem? told.symm, named⟩) fresh

theorem line (follows : Follows format limit receiver stories) {message : Json Number}
    (unambiguous : Unambiguous format limit stories message) :
    Follows format limit (receiver.arrive format (.line message)) (tell format stories message) := by
  rw [Unambiguous] at unambiguous
  rw [tell]
  cases decoded : decodeFrame format message with
  | none =>
      rw [Receiver.arrive_ignored fun frame some => nomatch decoded.symm.trans some]
      exact follows
  | some frame =>
      rw [decoded] at unambiguous
      cases frame with
      | opening frame =>
          dsimp only at unambiguous ⊢
          split
          · next known =>
            rcases List.mem_map.mp known with ⟨story, member, same⟩
            rcases List.mem_iff_getElem?.mp member with ⟨index, told⟩
            rcases follows.exists_channel told with ⟨channel, present, id, ended, _⟩
            have mapped := follows.sane.mux.registered.mapped index channel present
              (ended.trans (unambiguous story member same))
            rw [id, same] at mapped
            rw [Receiver.arrive_ignored fun other some =>
              ⟨frame, (Option.some.inj (decoded.symm.trans some)).symm, by
                rw [OrderedMap.has, mapped]; rfl⟩]
            exact follows
          · next fresh =>
            have absent := follows.get_of_notMem fresh
            rcases follows.sane.opens decoded absent with ⟨later, mux, tales⟩
            refine of_tales later (by rw [mux]; exact follows.limit) (fun index => ?_) ?_
            · rw [tales, follows.tale_eq, follows.length_objects, getElem?_snoc]
            · rw [List.map_append]
              exact List.nodup_append.mpr ⟨follows.nodup, List.nodup_singleton _,
                fun id known other last same => by
                  rw [same, List.mem_singleton.mp last] at known
                  exact fresh known⟩
      | data frame =>
          dsimp only at unambiguous ⊢
          rcases follows.sane.hears decoded with ⟨later, limited, unknown, tales⟩
          refine of_tales later (limited.trans follows.limit) (fun index => ?_) ?_
          · rw [List.getElem?_map]
            cases told : stories[index]? with
            | none => exact unknown index ((follows.tale_eq index).trans told)
            | some story =>
                rcases follows.exists_channel told with ⟨channel, present, id, ended, _⟩
                rw [tales index channel present, follows.tale_eq, told, id, ended, Option.map_some,
                  Option.map_some]
                split
                · next hears =>
                  have accepts (isData : frame.type = .data) :
                      channel.Accepts (frame.payload.getD []) :=
                    follows.accepts present told
                      (unambiguous isData story (List.mem_of_getElem? told) hears.1 hears.2)
                  rw [MuxChannel.react, if_neg fun both => both.2 (accepts both.1)]
                · rfl
          · rw [List.map_map]
            refine (congrArg List.Nodup (List.map_congr_left fun story _ => ?_)).mp follows.nodup
            rw [Function.comp_apply]
            split
            · exact (story.hear_id format frame).symm
            · rfl

theorem turn (follows : Follows format limit receiver stories) :
    Follows format limit receiver.turn stories := by
  rcases follows.sane.turn with ⟨sane, limited, tales, _⟩
  exact of_tales sane (limited.trans follows.limit)
    (fun index => (congrFun tales index).trans (follows.tale_eq index)) follows.nodup

theorem asks (follows : Follows format limit receiver stories) (index : Nat) :
    Follows format limit (receiver.arrive format (.asks index)) stories := by
  rcases follows.sane.asks index with ⟨sane, limited, tales⟩
  exact of_tales sane (limited.trans follows.limit)
    (fun position => (congrFun tales position).trans (follows.tale_eq position)) follows.nodup

/-- The stories do not depend on what arrives between the lines. -/
theorem arriveAll {arrivals : List (Arrival Number)}
    (follows : Follows format limit receiver stories)
    (free : GroupingFree format limit stories (messagesOf arrivals)) :
    Follows format limit (receiver.arriveAll format arrivals)
      (storiesOf format stories (messagesOf arrivals)) := by
  induction arrivals generalizing receiver stories with
  | nil => exact follows
  | cons arrival rest induction =>
      cases arrival with
      | line message => exact induction (follows.line free.1) free.2
      | turn => exact induction follows.turn free
      | asks index => exact induction (follows.asks index) free

end Follows

/-! ## Whatever arrives -/

/-- Each line comes in a chunk of its own. -/
def oneByOne (messages : List (Json Number)) : List (Arrival Number) :=
  messages.flatMap fun message => [.line message, .turn]

omit [DecidableEq Number] in
theorem messagesOf_oneByOne (messages : List (Json Number)) :
    messagesOf (oneByOne messages) = messages := by
  induction messages with
  | nil => rfl
  | cons message rest induction => exact congrArg (message :: ·) induction

omit [DecidableEq Number] in
theorem messagesOf_lines (messages : List (Json Number)) :
    messagesOf (messages.map .line) = messages := by
  induction messages with
  | nil => rfl
  | cons message rest induction => exact congrArg (message :: ·) induction

omit [DecidableEq Number] in
theorem messagesOf_append (first second : List (Arrival Number)) :
    messagesOf (first ++ second) = messagesOf first ++ messagesOf second :=
  List.filterMap_append

/-- What was told of a channel stays, and nothing comes after its end. -/
def Story.Continues (story later : Story Number) : Prop :=
  later.id = story.id ∧ story.data <+: later.data ∧ (story.ended ≠ none → later = story)

omit [DecidableEq Number] in
theorem Story.Continues.refl (story : Story Number) : story.Continues story :=
  ⟨rfl, List.prefix_rfl, fun _ => rfl⟩

omit [DecidableEq Number] in
theorem Story.Continues.trans {first second third : Story Number} (begins : first.Continues second)
    (goes : second.Continues third) : first.Continues third := by
  refine ⟨goes.1.trans begins.1, begins.2.1.trans goes.2.1, fun isEnded => ?_⟩
  have same := begins.2.2 isEnded
  rw [same] at goes
  exact goes.2.2 isEnded

omit [DecidableEq Number] in
theorem MuxChannel.continues_react (channel : MuxChannel Number) (frame : DataFrame Number)
    {story : Story Number} (unended : story.ended = none) :
    story.Continues (channel.react format frame story) := by
  rw [react]
  split
  · exact ⟨rfl, List.prefix_rfl, fun isEnded => absurd unended isEnded⟩
  · rw [Story.hear]
    split
    · exact ⟨rfl, List.prefix_append _ _, fun isEnded => absurd unended isEnded⟩
    · exact ⟨rfl, List.prefix_rfl, fun isEnded => absurd unended isEnded⟩
    · exact ⟨rfl, List.prefix_rfl, fun isEnded => absurd unended isEnded⟩

namespace Receiver

variable {format} {receiver : Receiver Number}

theorem Sane.line (sane : receiver.Sane format) (message : Json Number) :
    (receiver.arrive format (.line message)).Sane format ∧
      ∀ index story, receiver.tale index = some story →
        ∃ later, (receiver.arrive format (.line message)).tale index = some later ∧
          story.Continues later := by
  have stays : receiver.Sane format ∧ ∀ index story, receiver.tale index = some story →
      ∃ later, receiver.tale index = some later ∧ story.Continues later :=
    ⟨sane, fun _ story told => ⟨story, told, .refl story⟩⟩
  cases decoded : decodeFrame format message with
  | none =>
      rw [arrive_ignored fun frame some => nomatch decoded.symm.trans some]
      exact stays
  | some frame =>
      cases frame with
      | opening frame =>
          cases found : receiver.endpoint.mux.channels.get frame.channel with
          | some index =>
              rw [arrive_ignored fun other some =>
                ⟨frame, (Option.some.inj (decoded.symm.trans some)).symm, by
                  rw [OrderedMap.has, found]; rfl⟩]
              exact stays
          | none =>
              rcases sane.opens decoded found with ⟨later, _, tales⟩
              refine ⟨later, fun index story told => ⟨story, ?_, .refl story⟩⟩
              rw [tales, if_neg ?_]
              · exact told
              · rintro rfl
                rw [tale_eq_none (Nat.le_refl _)] at told
                cases told
      | data frame =>
          rcases sane.hears decoded with ⟨later, _, _, tales⟩
          refine ⟨later, fun index story told => ?_⟩
          rcases Option.map_eq_some_iff.mp told with ⟨channel, present, rfl⟩
          rw [tales index channel present, told, Option.map_some]
          refine ⟨_, rfl, ?_⟩
          split
          · next hears => exact channel.continues_react format frame hears.2
          · exact .refl _

theorem Sane.arriveAll (sane : receiver.Sane format) (arrivals : List (Arrival Number)) :
    (receiver.arriveAll format arrivals).Sane format ∧
      ∀ index story, receiver.tale index = some story →
        ∃ later, (receiver.arriveAll format arrivals).tale index = some later ∧
          story.Continues later := by
  induction arrivals generalizing receiver with
  | nil => exact ⟨sane, fun _ story told => ⟨story, told, .refl story⟩⟩
  | cons arrival rest induction =>
      cases arrival with
      | line message =>
          rcases sane.line message with ⟨next, goes⟩
          rcases induction next with ⟨finished, later⟩
          refine ⟨finished, fun index story told => ?_⟩
          rcases goes index story told with ⟨middle, toldNext, begins⟩
          rcases later index middle toldNext with ⟨last, toldLast, ends⟩
          exact ⟨last, toldLast, begins.trans ends⟩
      | turn =>
          rcases sane.turn with ⟨next, _, tales, _⟩
          rcases induction next with ⟨finished, later⟩
          exact ⟨finished, fun index story told =>
            later index story ((congrFun tales index).trans told)⟩
      | asks asked =>
          rcases sane.asks asked with ⟨next, _, tales⟩
          rcases induction next with ⟨finished, later⟩
          exact ⟨finished, fun index story told =>
            later index story ((congrFun tales index).trans told)⟩

/-! ## All lines in one chunk -/

/-- While a chunk is handled, all channels stay in the map, and readers that have not begun get
nothing. -/
structure InOneChunk (format : CountingFormat Number) (receiver : Receiver Number) : Prop where
  sane : receiver.Sane format
  mapped : ∀ (index : Nat) (channel : MuxChannel Number),
    receiver.endpoint.mux.objects[index]? = some channel →
      receiver.endpoint.mux.channels.get channel.id = some index
  unread : receiver.endpoint.pulled = []
  idle : ∀ (index : Nat) (channel : MuxChannel Number),
    receiver.endpoint.mux.objects[index]? = some channel → channel.waiter = false

omit [DecidableEq Number] in
theorem receive_idle {channel : MuxChannel Number} (idle : channel.waiter = false)
    (frame : DataFrame Number) :
    (ChannelMux.receive format frame channel).2.pulled = none ∧
      (ChannelMux.receive format frame channel).1.waiter = false := by
  have finished : ∀ ending, (channel.finish ending).2.pulled = none ∧
      (channel.finish ending).1.waiter = false := by
    intro ending
    rw [MuxChannel.finish, MuxChannel.drainWaiter, idle]
    split
    · exact ⟨rfl, idle⟩
    · exact ⟨rfl, rfl⟩
  rw [ChannelMux.receive]
  split
  · rw [MuxChannel.data, idle]
    split
    · exact ⟨rfl, idle⟩
    · rw [if_neg Bool.false_ne_true]
      split
      · exact finished _
      · exact ⟨rfl, rfl⟩
  · exact finished _
  · exact finished _

theorem InOneChunk.line (chunk : InOneChunk format receiver) (message : Json Number) :
    InOneChunk format (receiver.arrive format (.line message)) := by
  have sane := (chunk.sane.line message).1
  cases decoded : decodeFrame format message with
  | none =>
      rw [arrive_ignored fun frame some => nomatch decoded.symm.trans some]
      exact chunk
  | some frame =>
      cases frame with
      | opening frame =>
          cases found : receiver.endpoint.mux.channels.get frame.channel with
          | some index =>
              rw [arrive_ignored fun other some =>
                ⟨frame, (Option.some.inj (decoded.symm.trans some)).symm, by
                  rw [OrderedMap.has, found]; rfl⟩]
              exact chunk
          | none =>
              have mux := (chunk.sane.opens decoded found).2.1
              refine ⟨sane, ?_, ?_, ?_⟩
              · rw [mux]
                intro index channel present
                rw [Registered.getElem?_create] at present
                split at present
                · next last =>
                  cases present
                  rw [last]
                  exact OrderedMap.get_set_self ..
                · have mapped := chunk.mapped index channel present
                  have different : channel.id ≠ frame.channel := by
                    intro same
                    rw [same, found] at mapped
                    cases mapped
                  exact (OrderedMap.get_set_other _ _ different).trans mapped
              · show receiver.endpoint.pulled ++ (receiver.endpoint.mux.handleLine _ _).2.pulled = []
                rw [chunk.unread, ChannelMux.handleLine_eq, decoded]
                dsimp only
                rw [ChannelMux.handleOpen]
                split <;> rfl
              · rw [mux]
                intro index channel present
                rw [Registered.getElem?_create] at present
                split at present
                · cases present
                  rfl
                · exact chunk.idle index channel present
      | data frame =>
          rw [arrive, ChannelMux.perform, ChannelMux.handleLine_eq, decoded] at sane ⊢
          dsimp only at sane ⊢
          rw [ChannelMux.handleFrame] at sane ⊢
          cases found : receiver.endpoint.mux.channels.get frame.channel with
          | none =>
              dsimp only
              rw [after_nothing]
              exact chunk
          | some position =>
              rw [found] at sane
              dsimp only at sane ⊢
              rcases Option.map_eq_some_iff.mp
                (chunk.sane.mux.registered.maps _ position found) with ⟨channel, present, _⟩
              have idle := @receive_idle _ format _ (chunk.idle position channel present) frame
              rcases MuxChannel.exists_moves (chunk.sane.mux.sound position channel present) frame with
                ⟨moved, output, _, result, moves⟩
              rcases Operated.operate present result moves.id moves.size
                (fun isEnded => by rw [moves.stays isEnded]; exact isEnded)
                (fun closed => (moves.closes.mp closed).2) with ⟨mux, performed, operated⟩
              rw [result] at idle
              rw [performed] at sane ⊢
              refine ⟨sane, ?_, ?_, ?_⟩
              · intro index later presentLater
                have named := operated.mapId index
                rw [show mux.objects[index]? = some later from presentLater] at named
                rcases Option.map_eq_some_iff.mp named.symm with ⟨earlier, present, same⟩
                show mux.channels.get later.id = some index
                rw [operated.channels, ← same]
                exact chunk.mapped index earlier present
              · show receiver.endpoint.pulled ++ output.pulled.toList.map _ = []
                rw [chunk.unread, idle.1]
                rfl
              · intro index later presentLater
                rcases operated.earlier presentLater with ⟨_, rfl⟩ | ⟨_, earlier⟩
                · exact idle.2
                · exact chunk.idle index later earlier

theorem InOneChunk.lines (chunk : InOneChunk format receiver) (messages : List (Json Number)) :
    InOneChunk format (receiver.arriveAll format (messages.map .line)) := by
  induction messages generalizing receiver with
  | nil => exact chunk
  | cons message rest induction => exact induction (chunk.line message)

theorem inOneChunk_create (limit : Nat) : InOneChunk format (create limit) where
  sane := (Follows.start limit).sane
  mapped := nofun
  unread := rfl
  idle := nofun

theorem InOneChunk.nodup (chunk : InOneChunk format receiver) :
    (receiver.outcome.map Story.id).Nodup := by
  refine List.nodup_iff_getElem?_ne_getElem?.mpr fun first second before inside same => ?_
  have exists_object {index : Nat} {id : Number}
      (named : (receiver.outcome.map Story.id)[index]? = some id) :
      receiver.endpoint.mux.channels.get id = some index := by
    rw [List.getElem?_map, chunk.sane.getElem?_outcome, tale, Option.map_map] at named
    rcases Option.map_eq_some_iff.mp named with ⟨channel, present, rfl⟩
    exact chunk.mapped index channel present
  have atSecond := List.getElem?_eq_getElem inside
  have atFirst := exists_object (same.trans atSecond)
  rw [exists_object atSecond] at atFirst
  exact Nat.ne_of_gt before (Option.some.inj atFirst)

/-! ## A chunk for each line -/

theorem arriveAll_append (first second : List (Arrival Number)) :
    receiver.arriveAll format (first ++ second) =
      (receiver.arriveAll format first).arriveAll format second :=
  List.foldl_append

theorem Sane.removals_oneByOne (sane : receiver.Sane format)
    (none : receiver.endpoint.mux.removals = []) (messages : List (Json Number)) :
    (receiver.arriveAll format (oneByOne messages)).endpoint.mux.removals = [] := by
  induction messages generalizing receiver with
  | nil => exact none
  | cons message rest induction =>
      rcases (sane.line message).1.turn with ⟨next, _, _, removals⟩
      exact induction next removals

theorem exists_drained {index : Nat} {channel : MuxChannel Number}
    (present : receiver.endpoint.mux.objects[index]? = some channel)
    (isOpen : channel.ended = none) :
    ∃ times drained,
      (receiver.arriveAll format (List.replicate times (.asks index))).endpoint.mux.objects[index]? =
        some drained ∧ drained.waiter = true := by
  have asked {receiver : Receiver Number} {channel : MuxChannel Number}
      (present : receiver.endpoint.mux.objects[index]? = some channel)
      (idle : channel.waiter = false) :
      (receiver.arrive format (.asks index)).endpoint.mux.objects[index]? =
        some channel.pull.1 := by
    have possible : receiver.endpoint.mux.Possible (.pull index) := by
      rw [ChannelMux.Possible, present, Option.map_some, idle]
    rcases List.getElem?_eq_some_iff.mp present with ⟨inside, _⟩
    rw [arrive, if_pos possible, ChannelMux.perform, ChannelMux.operate, present]
    exact List.getElem?_set_self inside
  induction queue : channel.queue generalizing receiver channel with
  | nil =>
      cases waits : channel.waiter with
      | true => exact ⟨0, channel, present, waits⟩
      | false =>
          have next := @asked receiver channel present waits
          rw [MuxChannel.pull_waits queue isOpen] at next
          exact ⟨1, _, next, rfl⟩
  | cons value rest induction =>
      cases waits : channel.waiter with
      | true => exact ⟨0, channel, present, waits⟩
      | false =>
          have next := @asked receiver channel present waits
          rw [MuxChannel.pull_chunk queue] at next
          rcases induction next isOpen rfl with ⟨times, drained, found, waiting⟩
          exact ⟨times + 1, drained, found, waiting⟩

end Receiver

theorem exists_ambiguous {limit : Nat} {stories : List (Story Number)}
    {messages : List (Json Number)} (notFree : ¬GroupingFree format limit stories messages) :
    ∃ before message after, messages = before ++ message :: after ∧
      GroupingFree format limit stories before ∧
        ¬Unambiguous format limit (storiesOf format stories before) message := by
  induction messages generalizing stories with
  | nil => exact absurd trivial notFree
  | cons message rest induction =>
      by_cases unambiguous : Unambiguous format limit stories message
      · rcases induction fun free => notFree ⟨unambiguous, free⟩ with
          ⟨before, ambiguous, after, rfl, free, notClear⟩
        exact ⟨message :: before, ambiguous, after, rfl, ⟨unambiguous, free⟩, notClear⟩
      · exact ⟨[], message, rest, rfl, trivial, unambiguous⟩

section Necessity

variable {format} {limit : Nat}

/-- When the callbacks have run, the id of a channel that has ended is free. -/
theorem Follows.get_of_ended {receiver : Receiver Number} {stories : List (Story Number)}
    (follows : Follows format limit receiver stories)
    (removals : receiver.endpoint.mux.removals = []) {story : Story Number}
    (known : story ∈ stories) (isEnded : story.ended ≠ none) :
    receiver.endpoint.mux.channels.get story.id = none := by
  rcases List.mem_iff_getElem?.mp known with ⟨index, told⟩
  cases found : receiver.endpoint.mux.channels.get story.id with
  | none => rfl
  | some position =>
      rcases Option.map_eq_some_iff.mp (follows.sane.mux.registered.maps _ position found) with
        ⟨channel, present, same⟩
      have isOpen : channel.ended = none := by
        by_contra ended
        have due := follows.sane.mux.due _ position found channel present ended
        rw [removals] at due
        cases due
      have toldThere := follows.tale_eq position
      rw [Receiver.tale, present, Option.map_some] at toldThere
      have idThere : (stories.map Story.id)[position]? = some story.id := by
        rw [List.getElem?_map, ← toldThere, ← same]
        rfl
      have idHere : (stories.map Story.id)[index]? = some story.id := by
        rw [List.getElem?_map, told]
        rfl
      rcases List.getElem?_eq_some_iff.mp idThere with ⟨inside, _⟩
      have agree := (List.getElem?_inj inside follows.nodup).mp (idThere.trans idHere.symm)
      rw [agree, told] at toldThere
      cases toldThere
      exact absurd isOpen isEnded

theorem Follows.not_nodup_of_reopened {receiver : Receiver Number} {stories : List (Story Number)}
    (follows : Follows format limit receiver stories)
    (removals : receiver.endpoint.mux.removals = []) {message : Json Number}
    {frame : OpenFrame Number} (decoded : decodeFrame format message = some (.opening frame))
    {story : Story Number} (known : story ∈ stories) (named : story.id = frame.channel)
    (isEnded : story.ended ≠ none) (rest : List (Arrival Number)) :
    ¬((receiver.arriveAll format (.line message :: rest)).outcome.map Story.id).Nodup := by
  intro distinct
  have absent := follows.get_of_ended removals known isEnded
  rw [named] at absent
  rcases follows.sane.opens decoded absent with ⟨opened, _, tales⟩
  rcases List.mem_iff_getElem?.mp known with ⟨index, told⟩
  have inside := (List.getElem?_eq_some_iff.mp told).1
  rw [← follows.length_objects] at inside
  have first := tales index
  rw [if_neg (Nat.ne_of_lt inside), follows.tale_eq, told] at first
  have second := tales receiver.endpoint.mux.objects.length
  rw [if_pos rfl] at second
  rcases opened.arriveAll rest with ⟨finished, continues⟩
  have idAt {position : Nat} {earlier : Story Number}
      (told : (receiver.arrive format (.line message)).tale position = some earlier) :
      ((receiver.arriveAll format (.line message :: rest)).outcome.map Story.id)[position]? =
        some earlier.id := by
    rcases continues position earlier told with ⟨later, toldLater, goes⟩
    rw [List.getElem?_map]
    exact (congrArg (Option.map Story.id)
      ((finished.getElem?_outcome position).trans toldLater)).trans (congrArg some goes.1)
  rcases List.getElem?_eq_some_iff.mp (idAt first) with ⟨inFirst, _⟩
  exact Nat.ne_of_lt inside ((List.getElem?_inj inFirst distinct).mp
    ((idAt first).trans ((congrArg some named).trans (idAt second).symm)))

variable {before : List (Json Number)} {message : Json Number}

/-- A channel that has ended is opened again when its callback has run, and not when one chunk
brings all lines. -/
theorem grouping_reopens (free : GroupingFree format limit [] before)
    {frame : OpenFrame Number} (decoded : decodeFrame format message = some (.opening frame))
    {story : Story Number} (known : story ∈ storiesOf format [] before)
    (named : story.id = frame.channel) (isEnded : story.ended ≠ none)
    (after : List (Json Number)) :
    ((Receiver.create limit).arriveAll format
        (oneByOne before ++ .line message :: after.map .line)).outcome ≠
      ((Receiver.create limit).arriveAll format
        ((before ++ message :: after).map .line)).outcome := by
  intro same
  have distinct := (@Receiver.inOneChunk_create _ _ format limit |>.lines
    (before ++ message :: after)).nodup
  rw [← same, Receiver.arriveAll_append] at distinct
  have follows := @Follows.start _ _ format limit |>.arriveAll
    (show GroupingFree format limit [] (messagesOf (oneByOne before)) by
      rw [messagesOf_oneByOne]
      exact free)
  rw [messagesOf_oneByOne] at follows
  have removals := (@Follows.start _ _ format limit).sane.removals_oneByOne rfl before
  exact follows.not_nodup_of_reopened removals decoded known named isEnded _ distinct

/-- What the outcome has of a channel that was told of. -/
theorem Follows.exists_outcome {receiver : Receiver Number} {stories : List (Story Number)}
    (follows : Follows format limit receiver stories) {frame : DataFrame Number}
    (decoded : decodeFrame format message = some (.data frame)) {index : Nat}
    {story : Story Number} (told : stories[index]? = some story)
    (named : story.id = frame.channel) (isOpen : story.ended = none) {channel : MuxChannel Number}
    (present : receiver.endpoint.mux.objects[index]? = some channel)
    (rest : List (Arrival Number)) :
    ∃ later, (receiver.arriveAll format (.line message :: rest)).outcome[index]? = some later ∧
      (channel.react format frame story).Continues later := by
  rcases follows.sane.hears decoded with ⟨heard, _, _, tales⟩
  rcases follows.exists_channel told with ⟨_, same, id, ended, _⟩
  cases Option.some.inj (present.symm.trans same)
  have reacted := tales index channel present
  rw [follows.tale_eq, told, Option.map_some,
    if_pos ⟨id.trans named, ended.trans isOpen⟩] at reacted
  rcases heard.arriveAll rest with ⟨finished, continues⟩
  rcases continues index _ reacted with ⟨later, toldLater, goes⟩
  exact ⟨later, (finished.getElem?_outcome index).trans toldLater, goes⟩

/-- A payload does not fit when nothing was read, and is accepted when all was. -/
theorem grouping_overflows (free : GroupingFree format limit [] before)
    {frame : DataFrame Number} (decoded : decodeFrame format message = some (.data frame))
    (isData : frame.type = .data) {story : Story Number}
    (known : story ∈ storiesOf format [] before)
    (named : story.id = frame.channel) (isOpen : story.ended = none)
    (exceeds : limit < story.bytes + (frame.payload.getD []).length)
    (after : List (Json Number)) :
    ∃ arrivals, messagesOf arrivals = before ++ message :: after ∧
      ((Receiver.create limit).arriveAll format arrivals).outcome ≠
        ((Receiver.create limit).arriveAll format
          ((before ++ message :: after).map .line)).outcome := by
  rcases List.mem_iff_getElem?.mp known with ⟨index, told⟩
  have follows := @Follows.start _ _ format limit |>.arriveAll
    (show GroupingFree format limit [] (messagesOf (before.map .line)) by
      rw [messagesOf_lines]
      exact free)
  rw [messagesOf_lines] at follows
  have chunk := (@Receiver.inOneChunk_create _ _ format limit).lines before
  rcases follows.exists_channel told with ⟨unread, present, _, _, taken⟩
  rcases follows.turn.exists_channel told with ⟨idle, presentIdle, _, isEnded, _⟩
  rcases @Receiver.exists_drained _ _ format _ _ _ presentIdle (isEnded.trans isOpen) with
    ⟨times, drained, presentDrained, waiting⟩
  have silent : messagesOf (List.replicate times (.asks index : Arrival Number)) = [] :=
    List.filterMap_replicate_of_none rfl
  have readAll := follows.turn.arriveAll
    (show GroupingFree format limit (storiesOf format [] before)
        (messagesOf (List.replicate times (.asks index))) by
      rw [silent]
      trivial)
  rw [silent] at readAll
  have exceeding : ¬unread.Accepts (frame.payload.getD []) := by
    rintro (waits | room)
    · exact Bool.false_ne_true ((chunk.idle index unread present).symm.trans waits)
    · have queued : unread.queue = story.data := by
        rw [← taken, Endpoint.takenBy, Endpoint.chunksOf, Endpoint.pulledOf, chunk.unread, present]
        rfl
      rw [(follows.sane.mux.sound index unread present).counted, queued,
        follows.sane.mux.registered.limits index unread present, follows.limit] at room
      exact Nat.not_le_of_lt exceeds room
  refine ⟨before.map .line ++ (.turn :: List.replicate times (.asks index) ++
    .line message :: after.map .line), ?_, fun same => ?_⟩
  · rw [messagesOf_append, messagesOf_lines]
    refine congrArg (before ++ ·) ?_
    rw [messagesOf_append]
    show messagesOf (List.replicate times (.asks index)) ++ _ = _
    rw [silent]
    exact congrArg (message :: ·) (messagesOf_lines after)
  · rw [List.map_append, Receiver.arriveAll_append, Receiver.arriveAll_append,
      Receiver.arriveAll_append] at same
    rcases follows.exists_outcome decoded told named isOpen present (after.map .line) with
      ⟨frozen, toldFrozen, stops⟩
    rcases readAll.exists_outcome decoded told named isOpen presentDrained (after.map .line) with
      ⟨grown, toldGrown, goes⟩
    rw [MuxChannel.react, if_pos ⟨isData, exceeding⟩] at stops
    rw [MuxChannel.react, if_neg fun both => both.2 (Or.inl waiting), Story.hear, isData] at goes
    cases Option.some.inj
      (toldGrown.symm.trans ((congrArg (fun outcome => outcome[index]?) same).trans toldFrozen))
    have longer := goes.2.1.length_le
    rw [stops.2.2 (by simp), List.length_append, List.length_singleton] at longer
    exact Nat.not_succ_le_self _ longer

end Necessity

/-- The outcome does not depend on the grouping of the lines into chunks, nor on the readers,
exactly when the lines mean the same whatever has run. -/
theorem outcomes_agree_iff (limit : Nat) (messages : List (Json Number)) :
    (∀ first second : List (Arrival Number),
      messagesOf first = messages → messagesOf second = messages →
        ((Receiver.create limit).arriveAll format first).outcome =
          ((Receiver.create limit).arriveAll format second).outcome) ↔
      GroupingFree format limit [] messages := by
  constructor
  · intro agree
    by_contra notFree
    rcases exists_ambiguous format notFree with ⟨before, message, after, rfl, free, ambiguous⟩
    rw [Unambiguous] at ambiguous
    split at ambiguous
    · exact ambiguous trivial
    · next frame decoded =>
      push Not at ambiguous
      rcases ambiguous with ⟨story, known, named, isEnded⟩
      refine grouping_reopens free decoded known named isEnded after
        (agree _ _ ?_ (messagesOf_lines _))
      rw [messagesOf_append, messagesOf_oneByOne]
      exact congrArg (before ++ message :: ·) (messagesOf_lines after)
    · next frame decoded =>
      push Not at ambiguous
      rcases ambiguous with ⟨isData, story, known, named, isOpen, exceeds⟩
      rcases grouping_overflows free decoded isData known named isOpen exceeds after with
        ⟨arrivals, brings, differs⟩
      exact differs (agree _ _ brings (messagesOf_lines _))
  · intro free first second brings also
    rw [(Follows.start limit |>.arriveAll (by rw [brings]; exact free)).told,
      (Follows.start limit |>.arriveAll (by rw [also]; exact free)).told, brings, also]

/-- A channel is opened, ended, and opened again with one chunk of data. -/
def reopening : List (Json Int) :=
  [(.opening ⟨1, asciiText "pty"⟩ : MuxFrame Int), .data { channel := 1, type := .ending },
    .opening ⟨1, asciiText "pty"⟩, .data { channel := 1, type := .data, payload := some [7] }].map
      (MuxFrame.object countingIntegers)

/-- In one chunk, the channel that is opened again is never announced. -/
theorem reopening_dependsOnGrouping :
    ((Receiver.create 8).arriveAll countingIntegers (oneByOne reopening)).outcome =
        [⟨1, asciiText "pty", [], some .done⟩, ⟨1, asciiText "pty", [[7]], none⟩] ∧
      ((Receiver.create 8).arriveAll countingIntegers (reopening.map .line)).outcome =
        [⟨1, asciiText "pty", [], some .done⟩] ∧
      messagesOf (oneByOne reopening) = messagesOf (reopening.map .line) := by
  refine ⟨by decide +kernel, by decide +kernel, ?_⟩
  rw [messagesOf_oneByOne, messagesOf_lines]

end DshRemote
