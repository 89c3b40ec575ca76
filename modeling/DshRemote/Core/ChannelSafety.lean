import DshRemote.Core.MuxPair

/-! # The two ends of a channel

What a channel has taken in is the beginning of what has come in for it, and all of it while
the channel is open. What was sent on a channel has no chunk after the frame that ends it. -/

namespace DshRemote

open Json

variable {Number : Type} [DecidableEq Number]

/-! ## Frames of one channel -/

/-- The chunk that a frame carries on a channel. -/
def MuxFrame.payloadOn (id : Number) : MuxFrame Number → Option (List Octet)
  | .opening _ => none
  | .data frame =>
      if frame.channel = id ∧ frame.type = .data then some (frame.payload.getD []) else none

def payloadsOn (id : Number) (frames : List (MuxFrame Number)) : List (List Octet) :=
  frames.filterMap (MuxFrame.payloadOn id)

/-- A frame that says that its sender has closed the channel. -/
def MuxFrame.Closes (id : Number) (frame : MuxFrame Number) : Prop :=
  ∃ data, frame = .data data ∧ data.channel = id ∧ data.type = .ending

/-- A frame on a channel that carries no chunk. -/
def MuxFrame.Ends (id : Number) (frame : MuxFrame Number) : Prop :=
  ∃ data, frame = .data data ∧ data.channel = id ∧ data.type ≠ .data

theorem payloadsOn_append (id : Number) (first second : List (MuxFrame Number)) :
    payloadsOn id (first ++ second) = payloadsOn id first ++ payloadsOn id second :=
  List.filterMap_append

omit [DecidableEq Number] in
theorem openedBy_append (first second : List (MuxFrame Number)) :
    openedBy (first ++ second) = openedBy first ++ openedBy second :=
  List.filterMap_append

/-! ## The reader of a channel -/

/-- How a channel and what its reader has got stand to the chunks that have come in, and to
those that were taken in so far. -/
structure Reading (sofar : List (List Octet)) (channel : MuxChannel Number) (log : List Pulled)
    (arrived : List (List Octet)) (closedThere closedHere : Prop) : Prop where
  sound : channel.Sound
  keeps : sofar <+: log.filterMap Pulled.value ++ channel.queue
  taken : log.filterMap Pulled.value ++ channel.queue <+: arrived
  whole : channel.ended = none → log.filterMap Pulled.value ++ channel.queue = arrived
  clean : channel.ended = some .done →
    closedHere ∨ closedThere ∧ log.filterMap Pulled.value ++ channel.queue = arrived
  last : ∀ first ending rest, log = first ++ .ended ending :: rest →
    channel.queue = [] ∧ channel.ended = some ending ∧ rest.filterMap Pulled.value = []

theorem filterMap_value_append (log : List Pulled) (pulled : Option Pulled) :
    (log ++ pulled.toList).filterMap Pulled.value =
      log.filterMap Pulled.value ++ (pulled.bind Pulled.value).toList := by
  rw [List.filterMap_append]
  rcases pulled with _ | ⟨_ | _⟩ <;> rfl

namespace Reading

omit [DecidableEq Number]

variable {channel : MuxChannel Number} {log : List Pulled} {arrived more sofar : List (List Octet)}
  {closedThere closedHere there here : Prop}

theorem fresh (id : Number) (type : Text) (maxQueuedBytes : Nat) :
    Reading [] (MuxChannel.create id type maxQueuedBytes) [] [] closedThere closedHere :=
  ⟨MuxChannel.sound_create id type maxQueuedBytes, List.nil_prefix, List.nil_prefix, fun _ => rfl, nofun,
    fun first ending rest split => by cases first <;> cases split⟩

theorem ended_notMem (reading : Reading sofar channel log arrived closedThere closedHere)
    (isOpen : channel.ended = none) {ending : ChannelEnd} : .ended ending ∉ log := by
  intro member
  rcases List.append_of_mem member with ⟨first, rest, split⟩
  have isEnded := (reading.last first ending rest split).2.1
  rw [isOpen] at isEnded
  cases isEnded

theorem mono (reading : Reading sofar channel log arrived closedThere closedHere)
    (also : closedThere → there) (same : closedHere → here) :
    Reading sofar channel log arrived there here :=
  { reading with clean := fun isDone => (reading.clean isDone).imp same fun both =>
      ⟨also both.1, both.2⟩ }

theorem accept (reading : Reading sofar channel log arrived closedThere closedHere)
    (isOpen : channel.ended = none) {payload : List Octet} (accepts : channel.Accepts payload) :
    Reading sofar (channel.accept payload)
      (log ++ (if channel.waiter then some (.chunk payload) else none).toList)
      (arrived ++ [payload]) closedThere closedHere := by
  have ended : (channel.accept payload).ended = none :=
    (channel.accept_frame payload).2.2.trans isOpen
  have taken : (log ++ (if channel.waiter then some (Pulled.chunk payload) else none).toList).filterMap
      Pulled.value ++ (channel.accept payload).queue = arrived ++ [payload] := by
    rw [filterMap_value_append, List.append_assoc, MuxChannel.accept_fifo reading.sound,
      ← List.append_assoc, reading.whole isOpen]
  have grown : sofar <+: arrived ++ [payload] := by
    refine reading.keeps.trans ?_
    rw [reading.whole isOpen]
    exact List.prefix_append _ _
  exact
    { sound := reading.sound.accept accepts
      keeps := by rw [← taken] at grown; exact grown
      taken := by rw [← taken]
      whole := fun _ => taken
      clean := fun isDone => absurd (ended.symm.trans isDone) nofun
      last := by
        intro first ending rest split
        have member : Pulled.ended ending ∈
            log ++ (if channel.waiter then some (.chunk payload) else none).toList := by
          rw [split]
          exact List.mem_append_right _ List.mem_cons_self
        rcases List.mem_append.mp member with earlier | now
        · exact absurd earlier (reading.ended_notMem isOpen)
        · cases waits : channel.waiter <;> simp [waits] at now }

theorem finish (reading : Reading sofar channel log arrived closedThere closedHere)
    (isOpen : channel.ended = none) (ending : ChannelEnd) (begins : arrived <+: more)
    (clean : ending = .done → here ∨ there ∧ more = arrived) :
    Reading sofar { channel with waiter := false, ended := some ending }
      (log ++ (if channel.waiter then some (.ended ending) else none).toList) more there here := by
  have values : (log ++ (if channel.waiter then some (Pulled.ended ending) else none).toList).filterMap
      Pulled.value = log.filterMap Pulled.value := by
    rw [filterMap_value_append]
    cases channel.waiter <;> exact List.append_nil _
  have whole := reading.whole isOpen
  exact
    { sound := reading.sound.finish ending
      keeps := by rw [values]; exact reading.keeps
      taken := by rw [values, whole]; exact begins
      whole := nofun
      clean := by
        intro isDone
        rw [values, whole]
        exact (clean (Option.some.inj isDone)).imp_right fun both => ⟨both.1, both.2.symm⟩
      last := by
        intro first other rest split
        have noEnd : ∀ {others}, log ≠ first ++ .ended other :: others := fun before =>
          reading.ended_notMem isOpen
            (by rw [before]; exact List.mem_append_right _ List.mem_cons_self)
        cases waits : channel.waiter with
        | false =>
            rw [waits, if_neg Bool.false_ne_true, Option.toList_none, List.append_nil] at split
            exact absurd split noEnd
        | true =>
            rw [waits, if_pos rfl, Option.toList_some] at split
            rcases snoc_split split with ⟨none, same, _⟩ | ⟨others, _, before⟩
            · cases same
              exact ⟨(reading.sound.waits waits).1, rfl, by rw [none]; rfl⟩
            · exact absurd before noEnd }

/-- What comes in for a channel that has ended is dropped. -/
theorem drop (reading : Reading sofar channel log arrived closedThere closedHere)
    (isEnded : channel.ended ≠ none) (begins : arrived <+: more)
    (clean : closedThere → there ∧ more = arrived) (same : closedHere → here) :
    Reading sofar channel log more there here where
  sound := reading.sound
  keeps := reading.keeps
  taken := reading.taken.trans begins
  whole := fun isOpen => absurd isOpen isEnded
  clean := fun isDone => (reading.clean isDone).imp same fun both =>
    ⟨(clean both.1).1, both.2.trans (clean both.1).2.symm⟩
  last := reading.last

theorem pull (reading : Reading sofar channel log arrived closedThere closedHere)
    (notWaiting : channel.waiter = false) :
    Reading sofar channel.pull.1 (log ++ channel.pull.2.toList) arrived closedThere
      closedHere := by
  have taken : (log ++ channel.pull.2.toList).filterMap Pulled.value ++ channel.pull.1.queue =
      log.filterMap Pulled.value ++ channel.queue := by
    rw [filterMap_value_append, List.append_assoc, MuxChannel.pull_fifo]
  have ended := (MuxChannel.pull_frame channel).2.2
  exact
    { sound := reading.sound.pull notWaiting
      keeps := by rw [taken]; exact reading.keeps
      taken := by rw [taken]; exact reading.taken
      whole := by rw [taken, ended]; exact reading.whole
      clean := by rw [taken, ended]; exact reading.clean
      last := by
        intro first other later split
        cases queue : channel.queue with
        | cons value rest =>
            rw [MuxChannel.pull_chunk queue, Option.toList_some] at split
            rcases snoc_split split with ⟨_, same, _⟩ | ⟨others, _, before⟩
            · cases same
            · exact absurd ((reading.last first other others before).1.symm.trans queue) nofun
        | nil =>
            cases isEnded : channel.ended with
            | none =>
                rw [MuxChannel.pull_waits queue isEnded, Option.toList_none,
                  List.append_nil] at split
                exact absurd ((reading.last first other later split).2.1.symm.trans isEnded) nofun
            | some ending =>
                rw [MuxChannel.pull_ended queue isEnded, Option.toList_some] at split
                rw [MuxChannel.pull_ended queue isEnded]
                rcases snoc_split split with ⟨none, same, _⟩ | ⟨others, isLater, before⟩
                · cases same
                  exact ⟨queue, isEnded, by rw [none]; rfl⟩
                · rcases reading.last first other others before with ⟨_, isEnded, noChunk⟩
                  refine ⟨queue, isEnded, ?_⟩
                  rw [isLater, List.filterMap_append, noChunk]
                  rfl }

end Reading

/-! ## The sender of a channel -/

/-- What was sent on a channel: chunks as long as it is open, and at most one frame after. -/
structure Sending (sent : List (MuxFrame Number)) (id : Number) (isOpen : Prop)
    (written : List (List Octet)) (closed : Prop) : Prop where
  payloads : payloadsOn id sent = written
  silent : isOpen → ∀ frame ∈ sent, ¬frame.Ends id
  last : ∀ before frame later, sent = before ++ frame :: later →
    (frame.payloadOn id).isSome → ∀ other ∈ before, ¬other.Ends id
  clean : ∀ frame ∈ sent, frame.Closes id → closed

omit [DecidableEq Number] in
theorem MuxFrame.Closes.ends {id : Number} {frame : MuxFrame Number} (closes : frame.Closes id) :
    frame.Ends id := by
  rcases closes with ⟨data, isData, onChannel, ending⟩
  exact ⟨data, isData, onChannel, by rw [ending]; decide⟩

theorem MuxFrame.payloadOn_other {id : Number} {data : DataFrame Number}
    (other : data.channel ≠ id) : (MuxFrame.data data).payloadOn id = none :=
  if_neg fun both => other both.1

theorem MuxFrame.payloadOn_ending {data : DataFrame Number} (ends : data.type ≠ .data)
    (id : Number) : (MuxFrame.data data).payloadOn id = none :=
  if_neg fun both => ends both.2

omit [DecidableEq Number] in
theorem MuxFrame.ends_other {id : Number} {data : DataFrame Number} (other : data.channel ≠ id) :
    ¬(MuxFrame.data data).Ends id := by
  rintro ⟨same, isData, onChannel, _⟩
  cases isData
  exact other onChannel

omit [DecidableEq Number] in
theorem MuxFrame.ends_opening {id : Number} (frame : OpenFrame Number) :
    ¬(MuxFrame.opening frame).Ends id := by
  rintro ⟨_, isData, _⟩
  cases isData

namespace Sending

variable {sent : List (MuxFrame Number)} {id : Number} {isOpen closed open' closed' : Prop}
  {written : List (List Octet)}

theorem stay (sending : Sending sent id isOpen written closed)
    (silent : open' → ∀ frame ∈ sent, ¬frame.Ends id) (same : closed → closed') :
    Sending sent id open' written closed' :=
  ⟨sending.payloads, silent, sending.last, fun frame member closes =>
    same (sending.clean frame member closes)⟩

theorem snoc (sending : Sending sent id isOpen written closed) {frame : MuxFrame Number}
    (chunk : (frame.payloadOn id).isSome → isOpen)
    (silent : open' → (∀ other ∈ sent, ¬other.Ends id) ∧ ¬frame.Ends id)
    (closes : frame.Closes id → closed') (same : closed → closed') :
    Sending (sent ++ [frame]) id open' (written ++ (frame.payloadOn id).toList) closed' where
  payloads := by
    rw [payloadsOn_append, sending.payloads, payloadsOn, List.filterMap_cons]
    cases frame.payloadOn id <;> rfl
  silent := by
    intro isOpen other member
    rcases List.mem_append.mp member with earlier | now
    · exact (silent isOpen).1 other earlier
    · rw [List.mem_singleton.mp now]
      exact (silent isOpen).2
  last := by
    intro before other later split carries earlier member
    rcases snoc_split split with ⟨_, same, isSent⟩ | ⟨others, _, isSent⟩
    · rw [← isSent] at member
      exact sending.silent (chunk (by rw [same]; exact carries)) earlier member
    · exact sending.last before other others isSent carries earlier member
  clean := by
    intro other member closing
    rcases List.mem_append.mp member with earlier | now
    · exact same (sending.clean other earlier closing)
    · rw [List.mem_singleton.mp now] at closing
      exact closes closing

/-- All chunks that were written precede the end. -/
theorem complete (sending : Sending sent id isOpen written closed)
    {before later : List (MuxFrame Number)} (split : sent = before ++ later)
    {frame : MuxFrame Number} (member : frame ∈ before) (ends : frame.Ends id) :
    payloadsOn id before = written := by
  have none : payloadsOn id later = [] := by
    refine List.filterMap_eq_nil_iff.mpr fun other inLater => ?_
    rcases List.append_of_mem inLater with ⟨first, rest, rfl⟩
    by_contra carries
    refine sending.last (before ++ first) other rest (by rw [split, List.append_assoc])
      (Option.ne_none_iff_isSome.mp carries) frame (List.mem_append_left _ member) ends
  rw [← sending.payloads, split, payloadsOn_append, none, List.append_nil]

end Sending

end DshRemote
