import Mathlib.Data.List.Induction
import DshRemote.Foundation.Utf8

/-! # `fanout`

One inbound stream for several consumers. Each has a queue, and a waiter while its generator
waits for a chunk. An event is one synchronous stretch of code: the inbound loop takes a chunk
or comes to its end, a consumer asks for its next chunk, or a generator goes on after an
`await`. -/

namespace DshRemote.Backend

/-- Where the generator of a consumer stands. -/
inductive GeneratorPhase
  /-- It goes on with the next request. -/
  | suspended
  /-- It waits for the promise whose `resolve` is the waiter. -/
  | waiting
  /-- That promise has resolved, with a chunk or with the end. -/
  | resolved (result : Option (List Octet))
  /-- It yields a chunk, which the consumer has not received yet. -/
  | yielding (chunk : List Octet)
  | returned
deriving DecidableEq

structure FanoutConsumer where
  queue : List (List Octet) := []
  waiter : Bool := false
  phase : GeneratorPhase := .suspended
  /-- The calls of `next` that were not answered. -/
  requests : Nat := 0
  received : List (List Octet) := []
  /-- The calls of `next` that were answered with the end. -/
  ends : Nat := 0
deriving DecidableEq

namespace FanoutConsumer

/-- The generator returns, and all its requests are answered. -/
def finish (self : FanoutConsumer) : FanoutConsumer :=
  { self with phase := .returned, ends := self.ends + self.requests, requests := 0 }

/-- The body of the generator's loop. -/
def loop (self : FanoutConsumer) (ended : Bool) : FanoutConsumer :=
  match self.queue with
  | head :: rest => { self with queue := rest, phase := .yielding head }
  | [] =>
      if ended then self.finish
      else { self with waiter := true, phase := .waiting }

def next (self : FanoutConsumer) (ended : Bool) : FanoutConsumer :=
  let asked := { self with requests := self.requests + 1 }
  match self.phase with
  | .suspended => asked.loop ended
  | .returned => asked.finish
  | _ => asked

def resume (self : FanoutConsumer) (ended : Bool) : FanoutConsumer :=
  match self.phase with
  | .resolved none => self.finish
  | .resolved (some chunk) => { self with phase := .yielding chunk }
  | .yielding chunk =>
      let answered := { self with
        phase := .suspended
        received := self.received ++ [chunk]
        requests := self.requests - 1 }
      if 0 < answered.requests then answered.loop ended else answered
  | _ => self

/-- The inbound loop has a chunk. -/
def offer (self : FanoutConsumer) (chunk : List Octet) : FanoutConsumer :=
  if self.waiter then { self with waiter := false, phase := .resolved (some chunk) }
  else { self with queue := self.queue ++ [chunk] }

/-- The inbound loop has ended. -/
def close (self : FanoutConsumer) : FanoutConsumer :=
  if self.waiter then { self with waiter := false, phase := .resolved none } else self

end FanoutConsumer

structure Fanout where
  ended : Bool := false
  consumers : List FanoutConsumer
deriving DecidableEq

inductive FanoutEvent
  | chunk (value : List Octet)
  | ended
  | next (consumer : Nat)
  | resume (consumer : Nat)
deriving DecidableEq

namespace Fanout

def start (count : Nat) : Fanout := { consumers := List.replicate count {} }

def handle (self : Fanout) : FanoutEvent → Fanout
  | .chunk value =>
      -- Nothing is taken from the inbound stream after its end.
      if self.ended then self
      else { self with consumers := self.consumers.map (·.offer value) }
  | .ended => { ended := true, consumers := self.consumers.map (·.close) }
  | .next consumer =>
      { self with consumers := self.consumers.modify consumer (·.next self.ended) }
  | .resume consumer =>
      { self with consumers := self.consumers.modify consumer (·.resume self.ended) }

end Fanout

/-- The chunks of the inbound stream. -/
def FanoutEvent.arrived : List FanoutEvent → List (List Octet)
  | [] => []
  | .chunk value :: rest => value :: arrived rest
  | .ended :: _ => []
  | .next _ :: rest => arrived rest
  | .resume _ :: rest => arrived rest

/-! ## One consumer -/

namespace FanoutConsumer

/-- The chunk that the generator has taken and the consumer has not received. -/
def inFlight (self : FanoutConsumer) : List (List Octet) :=
  match self.phase with
  | .resolved (some chunk) => [chunk]
  | .yielding chunk => [chunk]
  | _ => []

/-- What a consumer has of the inbound stream. -/
structure Tracks (arrived : List (List Octet)) (ended : Bool) (consumer : FanoutConsumer) :
    Prop where
  order : consumer.received ++ (consumer.inFlight ++ consumer.queue) = arrived
  waiter : consumer.waiter = true ↔ consumer.phase = .waiting
  waiting : consumer.phase = .waiting → consumer.queue = [] ∧ ended = false
  closed : consumer.phase = .resolved none ∨ consumer.phase = .returned → consumer.queue = [] ∧ ended = true
  idle : consumer.requests = 0 ↔ consumer.phase = .suspended ∨ consumer.phase = .returned
  ends : 0 < consumer.ends → consumer.phase = .returned

variable {arrived : List (List Octet)} {ended : Bool} {self : FanoutConsumer}

theorem tracks_finish (order : self.received = arrived) (empty : self.queue = [])
    (isEnded : ended = true) (noWaiter : self.waiter = false) :
    self.finish.Tracks arrived ended where
  order := by
    change self.received ++ ([] ++ self.queue) = arrived
    rw [empty, List.nil_append, List.append_nil, order]
  waiter := by
    change self.waiter = true ↔ GeneratorPhase.returned = .waiting
    rw [noWaiter]
    simp
  waiting := by simp [finish]
  closed := fun _ => ⟨empty, isEnded⟩
  idle := by simp [finish]
  ends := fun _ => rfl

theorem tracks_loop (order : self.received ++ self.queue = arrived)
    (noWaiter : self.waiter = false) (asked : 0 < self.requests) (open_ : self.ends = 0) :
    (self.loop ended).Tracks arrived ended := by
  rw [loop]
  split
  · next head rest isQueue =>
    rw [isQueue] at order
    refine ⟨order, ?_, ?_, ?_, ?_, ?_⟩
    · simp [noWaiter]
    · simp
    · simp
    · simp
      omega
    · simp [open_]
  · next empty =>
    rw [empty, List.append_nil] at order
    cases ended with
    | true => exact tracks_finish order empty rfl noWaiter
    | false =>
        refine ⟨?_, ?_, ?_, ?_, ?_, ?_⟩
        · simpa [inFlight, empty] using order
        · simp
        · simp [empty]
        · simp
        · simp
          omega
        · simp [open_]

theorem Tracks.stillOpen (tracks : self.Tracks arrived ended)
    (notReturned : self.phase ≠ .returned) : self.ends = 0 :=
  Nat.eq_zero_of_not_pos (mt tracks.ends notReturned)

theorem Tracks.noWaiter (tracks : self.Tracks arrived ended)
    (notWaiting : self.phase ≠ .waiting) : self.waiter = false :=
  Bool.eq_false_iff.mpr (mt tracks.waiter.mp notWaiting)

theorem Tracks.asked (tracks : self.Tracks arrived ended)
    (notSuspended : self.phase ≠ .suspended) (notReturned : self.phase ≠ .returned) :
    0 < self.requests :=
  Nat.pos_of_ne_zero fun none => (tracks.idle.mp none).elim notSuspended notReturned

theorem Tracks.offer (tracks : self.Tracks arrived false) (chunk : List Octet) :
    (self.offer chunk).Tracks (arrived ++ [chunk]) false := by
  rw [FanoutConsumer.offer]
  split
  · next waiter =>
    have waiting := tracks.waiter.mp waiter
    have order := tracks.order
    rw [(tracks.waiting waiting).1, inFlight, waiting, List.append_nil, List.append_nil] at order
    have asked := tracks.asked (by rw [waiting]; nofun) (by rw [waiting]; nofun)
    have stillOpen := tracks.stillOpen (by rw [waiting]; nofun)
    refine ⟨?_, ?_, ?_, ?_, ?_, ?_⟩
    · change self.received ++ ([chunk] ++ self.queue) = _
      rw [order, (tracks.waiting waiting).1, List.append_nil]
    · simp
    · simp
    · simp
    · simp
      omega
    · simp [stillOpen]
  · next noWaiter =>
    have notWaiting := mt tracks.waiter.mpr noWaiter
    refine ⟨?_, tracks.waiter, fun waiting => absurd waiting notWaiting, ?_, tracks.idle,
      tracks.ends⟩
    · change self.received ++ (self.inFlight ++ (self.queue ++ [chunk])) = _
      rw [← tracks.order, List.append_assoc, List.append_assoc]
    · intro isOver
      exact absurd (tracks.closed isOver).2 Bool.false_ne_true

theorem Tracks.close (tracks : self.Tracks arrived ended) :
    self.close.Tracks arrived true := by
  rw [FanoutConsumer.close]
  split
  · next waiter =>
    have waiting := tracks.waiter.mp waiter
    have order := tracks.order
    rw [inFlight, waiting] at order
    have asked := tracks.asked (by rw [waiting]; nofun) (by rw [waiting]; nofun)
    have stillOpen := tracks.stillOpen (by rw [waiting]; nofun)
    refine ⟨order, ?_, ?_, ?_, ?_, ?_⟩
    · simp
    · simp
    · simp [(tracks.waiting waiting).1]
    · simp
      omega
    · simp [stillOpen]
  · next noWaiter =>
    exact ⟨tracks.order, tracks.waiter,
      fun waiting => absurd waiting (mt tracks.waiter.mpr noWaiter),
      fun isOver => ⟨(tracks.closed isOver).1, rfl⟩, tracks.idle, tracks.ends⟩

theorem Tracks.request (tracks : self.Tracks arrived ended)
    (notSuspended : self.phase ≠ .suspended) (notReturned : self.phase ≠ .returned) :
    ({ self with requests := self.requests + 1 } : FanoutConsumer).Tracks arrived ended where
  order := tracks.order
  waiter := tracks.waiter
  waiting := tracks.waiting
  closed := tracks.closed
  idle := by
    constructor
    · exact fun none => absurd none (Nat.succ_ne_zero _)
    · exact fun idle => idle.elim (absurd · notSuspended) (absurd · notReturned)
  ends := tracks.ends

theorem Tracks.next (tracks : self.Tracks arrived ended) :
    (self.next ended).Tracks arrived ended := by
  have order := tracks.order
  rw [FanoutConsumer.next]
  split
  · next phase =>
    rw [inFlight, phase, List.nil_append] at order
    exact tracks_loop order (tracks.noWaiter (by rw [phase]; nofun)) (Nat.succ_pos _)
      (tracks.stillOpen (by rw [phase]; nofun))
  · next phase =>
    rcases tracks.closed (.inr phase) with ⟨empty, isEnded⟩
    rw [inFlight, phase, empty, List.append_nil, List.append_nil] at order
    exact tracks_finish order empty isEnded (tracks.noWaiter (by rw [phase]; nofun))
  · next notSuspended notReturned => exact tracks.request notSuspended notReturned

theorem Tracks.resume (tracks : self.Tracks arrived ended) :
    (self.resume ended).Tracks arrived ended := by
  have order := tracks.order
  rw [FanoutConsumer.resume]
  cases phase : self.phase with
  | suspended => exact tracks
  | returned => exact tracks
  | waiting => exact tracks
  | resolved result =>
      have noWaiter := tracks.noWaiter (by rw [phase]; nofun)
      cases result with
      | none =>
          rcases tracks.closed (.inl phase) with ⟨empty, isEnded⟩
          rw [inFlight, phase, empty, List.append_nil, List.append_nil] at order
          exact tracks_finish order empty isEnded noWaiter
      | some chunk =>
          have asked := tracks.asked (by rw [phase]; nofun) (by rw [phase]; nofun)
          rw [inFlight, phase] at order
          refine ⟨order, by simp [noWaiter], by simp, by simp, ?_, ?_⟩
          · simp
            omega
          · simp [tracks.stillOpen (by rw [phase]; nofun)]
  | yielding chunk =>
      have noWaiter := tracks.noWaiter (by rw [phase]; nofun)
      have stillOpen := tracks.stillOpen (by rw [phase]; nofun)
      rw [inFlight, phase, ← List.append_assoc] at order
      dsimp only
      split
      · next more => exact tracks_loop order noWaiter more stillOpen
      · next noMore =>
        refine ⟨order, by simp [noWaiter], by simp, by simp, ?_, by simp [stillOpen]⟩
        simp
        omega

theorem Tracks.waits (tracks : self.Tracks arrived ended) (waiting : self.phase = .waiting) :
    self.received = arrived ∧ ended = false := by
  have order := tracks.order
  rw [(tracks.waiting waiting).1, inFlight, waiting, List.append_nil, List.append_nil] at order
  exact ⟨order, (tracks.waiting waiting).2⟩

theorem Tracks.all_received (tracks : self.Tracks arrived ended)
    (isOver : self.phase = .returned) : self.received = arrived ∧ ended = true := by
  have order := tracks.order
  rw [(tracks.closed (.inr isOver)).1, inFlight, isOver, List.append_nil, List.append_nil] at order
  exact ⟨order, (tracks.closed (.inr isOver)).2⟩

/-! ## Its share of an event -/

/-- What an event does to this consumer. -/
def own (place : Nat) (ended : Bool) (self : FanoutConsumer) : FanoutEvent → FanoutConsumer
  | .chunk value => if ended then self else self.offer value
  | .ended => self.close
  | .next consumer => if consumer = place then self.next ended else self
  | .resume consumer => if consumer = place then self.resume ended else self

end FanoutConsumer

/-- The inbound stream, or this consumer. -/
def FanoutEvent.concerns (place : Nat) : FanoutEvent → Bool
  | .chunk _ => true
  | .ended => true
  | .next consumer => consumer = place
  | .resume consumer => consumer = place

namespace Fanout

theorem handle_ended (self : Fanout) (event : FanoutEvent) :
    (self.handle event).ended = (self.ended || event = .ended) := by
  cases event with
  | chunk value =>
      rw [handle]
      split
      · simp
      · simp
  | ended => simp [handle]
  | next consumer => simp [handle]
  | resume consumer => simp [handle]

theorem handle_own (self : Fanout) (event : FanoutEvent) (place : Nat) :
    (self.handle event).consumers[place]? =
      self.consumers[place]?.map (·.own place self.ended event) := by
  cases event with
  | chunk value =>
      rw [handle]
      split
      · next ended => simp [FanoutConsumer.own, ended]
      · next open_ => simp [FanoutConsumer.own, open_]
  | ended => simp [handle, FanoutConsumer.own]
  | next consumer =>
      rw [handle, List.getElem?_modify]
      by_cases same : consumer = place
      · simp [FanoutConsumer.own, same]
      · simp [FanoutConsumer.own, same]
  | resume consumer =>
      rw [handle, List.getElem?_modify]
      by_cases same : consumer = place
      · simp [FanoutConsumer.own, same]
      · simp [FanoutConsumer.own, same]

theorem handle_other {event : FanoutEvent} {place : Nat}
    (other : event.concerns place = false) (self : Fanout) :
    (self.handle event).ended = self.ended ∧
      (self.handle event).consumers[place]? = self.consumers[place]? := by
  rw [handle_ended, handle_own]
  cases event with
  | chunk value => cases other
  | ended => cases other
  | next consumer =>
      have notSame : consumer ≠ place := by simpa [FanoutEvent.concerns] using other
      simp [FanoutConsumer.own, notSame]
  | resume consumer =>
      have notSame : consumer ≠ place := by simpa [FanoutEvent.concerns] using other
      simp [FanoutConsumer.own, notSame]

theorem handle_congr {first second : Fanout} {place : Nat} (sameEnded : first.ended = second.ended)
    (sameConsumer : first.consumers[place]? = second.consumers[place]?) (event : FanoutEvent) :
    (first.handle event).ended = (second.handle event).ended ∧
      (first.handle event).consumers[place]? = (second.handle event).consumers[place]? := by
  rw [handle_ended, handle_ended, handle_own, handle_own, sameEnded, sameConsumer]
  exact ⟨rfl, rfl⟩

/-- A consumer is where it would be without the reads of the others. -/
theorem foldl_filter (self : Fanout) (events : List FanoutEvent) (place : Nat) :
    (events.foldl handle self).ended =
        ((events.filter (FanoutEvent.concerns place)).foldl handle self).ended ∧
      (events.foldl handle self).consumers[place]? =
        ((events.filter (FanoutEvent.concerns place)).foldl handle self).consumers[place]? := by
  induction events using List.reverseRecOn with
  | nil => exact ⟨rfl, rfl⟩
  | append_singleton events event induction =>
      rw [List.filter_append, List.foldl_append, List.foldl_append]
      cases concerned : event.concerns place with
      | true =>
          rw [List.filter_singleton, concerned]
          exact handle_congr induction.1 induction.2 event
      | false =>
          have still := handle_other concerned (events.foldl handle self)
          rw [List.filter_singleton, concerned]
          exact ⟨still.1.trans induction.1, still.2.trans induction.2⟩

/-! ## All of them -/

/-- Every consumer has its share of what arrived. -/
def Serves (self : Fanout) (arrived : List (List Octet)) : Prop :=
  ∀ (place : Nat) (consumer : FanoutConsumer), self.consumers[place]? = some consumer →
    consumer.Tracks arrived self.ended

variable {self : Fanout} {arrived : List (List Octet)}

theorem Serves.handle (serves : self.Serves arrived) (event : FanoutEvent) :
    (self.handle event).Serves
      (arrived ++ if self.ended then [] else FanoutEvent.arrived [event]) := by
  intro place consumer isConsumer
  rw [handle_own] at isConsumer
  rcases Option.map_eq_some_iff.mp isConsumer with ⟨before, isBefore, rfl⟩
  have tracks := serves place before isBefore
  rw [handle_ended]
  cases event with
  | chunk value =>
      rw [FanoutConsumer.own]
      cases ended : self.ended with
      | true =>
          rw [ended] at tracks
          rw [if_pos rfl, if_pos rfl, List.append_nil, Bool.true_or]
          exact tracks
      | false =>
          rw [ended] at tracks
          exact tracks.offer value
  | ended =>
      rw [FanoutEvent.arrived, ite_self, List.append_nil, decide_eq_true rfl, Bool.or_true]
      exact tracks.close
  | next consumer =>
      rw [FanoutEvent.arrived, FanoutEvent.arrived, ite_self, List.append_nil, FanoutConsumer.own,
        decide_eq_false nofun, Bool.or_false]
      split
      · exact tracks.next
      · exact tracks
  | resume consumer =>
      rw [FanoutEvent.arrived, FanoutEvent.arrived, ite_self, List.append_nil, FanoutConsumer.own,
        decide_eq_false nofun, Bool.or_false]
      split
      · exact tracks.resume
      · exact tracks

theorem Serves.run (serves : self.Serves arrived) (events : List FanoutEvent) :
    (events.foldl Fanout.handle self).Serves
      (arrived ++ if self.ended then [] else FanoutEvent.arrived events) := by
  induction events generalizing self arrived with
  | nil =>
      rw [FanoutEvent.arrived, ite_self, List.append_nil]
      exact serves
  | cons event rest induction =>
      have later := induction (serves.handle event)
      rw [handle_ended] at later
      have together : (arrived ++ if self.ended then [] else FanoutEvent.arrived [event]) ++
          (if (self.ended || event = .ended) then [] else FanoutEvent.arrived rest) =
          arrived ++ if self.ended then [] else FanoutEvent.arrived (event :: rest) := by
        rw [List.append_assoc]
        congr 1
        cases self.ended with
        | true => rfl
        | false => cases event <;> simp [FanoutEvent.arrived]
      rw [together] at later
      exact later

theorem serves_start (count : Nat) : (start count).Serves [] := by
  intro place consumer isConsumer
  rw [start, List.getElem?_replicate] at isConsumer
  split at isConsumer
  · cases isConsumer
    exact ⟨rfl, by simp, by simp, by simp, by simp, by simp⟩
  · cases isConsumer

theorem ended_foldl (self : Fanout) (events : List FanoutEvent) :
    (events.foldl handle self).ended = true ↔ self.ended = true ∨ .ended ∈ events := by
  induction events generalizing self with
  | nil => simp
  | cons event rest induction =>
      rw [List.foldl_cons, induction, handle_ended, List.mem_cons, Bool.or_eq_true,
        decide_eq_true_iff, or_assoc, @eq_comm _ event]

theorem isSome_foldl (self : Fanout) (events : List FanoutEvent) (place : Nat) :
    (events.foldl handle self).consumers[place]?.isSome = self.consumers[place]?.isSome := by
  induction events generalizing self with
  | nil => rfl
  | cons event rest induction =>
      rw [List.foldl_cons, induction, handle_own, Option.isSome_map]

end Fanout

/-! ## Wake-ups -/

namespace FanoutConsumer

variable {arrived : List (List Octet)} {ended : Bool} {self : FanoutConsumer}

/-- The calls of `next` that were answered. -/
def answers (self : FanoutConsumer) : Nat := self.received.length + self.ends

/-- How often the generator has to go on until it answers a request, while nothing else has
to happen for it. -/
def resumesLeft (self : FanoutConsumer) : Option Nat :=
  match self.phase with
  | .resolved (some _) => some 2
  | .resolved none => some 1
  | .yielding _ => some 1
  | _ => none

theorem finish_asked (self : FanoutConsumer) :
    self.finish.answers + self.finish.requests = self.answers + self.requests := by
  simp only [finish, answers]
  omega

theorem loop_asked (self : FanoutConsumer) (ended : Bool) :
    (self.loop ended).answers + (self.loop ended).requests = self.answers + self.requests := by
  rw [loop]
  split
  · rfl
  · split
    · exact finish_asked self
    · rfl

theorem next_asked (self : FanoutConsumer) (ended : Bool) :
    (self.next ended).answers + (self.next ended).requests =
      self.answers + self.requests + 1 := by
  rw [next]
  split
  · exact loop_asked _ ended
  · exact finish_asked _
  · rfl

theorem Tracks.resume_asked (tracks : self.Tracks arrived ended) :
    (self.resume ended).answers + (self.resume ended).requests =
      self.answers + self.requests := by
  rw [FanoutConsumer.resume]
  split
  · exact finish_asked self
  · rfl
  · next chunk phase =>
    have asked := tracks.asked (by rw [phase]; nofun) (by rw [phase]; nofun)
    have counted : (self.received ++ [chunk]).length + self.ends + (self.requests - 1) =
        self.answers + self.requests := by
      rw [List.length_append, List.length_singleton, answers]
      omega
    dsimp only
    split
    · exact (loop_asked _ ended).trans counted
    · exact counted
  · rfl

theorem Tracks.own_asked (tracks : self.Tracks arrived ended) (place : Nat)
    (event : FanoutEvent) :
    (self.own place ended event).answers + (self.own place ended event).requests =
      self.answers + self.requests + [event].count (.next place) := by
  cases event with
  | chunk value =>
      rw [own, FanoutConsumer.offer]
      split
      · rfl
      · split
        · rfl
        · rfl
  | ended =>
      rw [own, FanoutConsumer.close]
      split
      · rfl
      · rfl
  | next consumer =>
      rw [own]
      split
      · next same => simpa [same] using next_asked self ended
      · next other => simp [other]
  | resume consumer =>
      rw [own]
      split
      · simpa using tracks.resume_asked
      · simp

theorem loop_fixed (self : FanoutConsumer) (ended : Bool) :
    (self.loop ended).received = self.received ∧ self.ends ≤ (self.loop ended).ends := by
  rw [loop]
  split
  · exact ⟨rfl, Nat.le_refl _⟩
  · split
    · exact ⟨rfl, Nat.le_add_right _ _⟩
    · exact ⟨rfl, Nat.le_refl _⟩

theorem next_grows (self : FanoutConsumer) (ended : Bool) :
    self.received.length ≤ (self.next ended).received.length ∧
      self.ends ≤ (self.next ended).ends := by
  rw [next]
  split
  · have fixed := loop_fixed { self with requests := self.requests + 1 } ended
    exact ⟨Nat.le_of_eq (congrArg List.length fixed.1).symm, fixed.2⟩
  · exact ⟨Nat.le_refl _, Nat.le_add_right _ _⟩
  · exact ⟨Nat.le_refl _, Nat.le_refl _⟩

theorem resume_grows (self : FanoutConsumer) (ended : Bool) :
    self.received.length ≤ (self.resume ended).received.length ∧
      self.ends ≤ (self.resume ended).ends := by
  rw [resume]
  split
  · exact ⟨Nat.le_refl _, Nat.le_add_right _ _⟩
  · exact ⟨Nat.le_refl _, Nat.le_refl _⟩
  · next chunk _ =>
    have longer : self.received.length ≤ (self.received ++ [chunk]).length := by
      rw [List.length_append]
      exact Nat.le_add_right _ _
    dsimp only
    split
    · have fixed := loop_fixed { self with
        phase := .suspended
        received := self.received ++ [chunk]
        requests := self.requests - 1 } ended
      exact ⟨Nat.le_trans longer (Nat.le_of_eq (congrArg List.length fixed.1).symm), fixed.2⟩
    · exact ⟨longer, Nat.le_refl _⟩
  · exact ⟨Nat.le_refl _, Nat.le_refl _⟩

theorem own_grows (self : FanoutConsumer) (place : Nat) (ended : Bool) (event : FanoutEvent) :
    self.received.length ≤ (self.own place ended event).received.length ∧
      self.ends ≤ (self.own place ended event).ends := by
  have still : self.received.length ≤ self.received.length ∧ self.ends ≤ self.ends :=
    ⟨Nat.le_refl _, Nat.le_refl _⟩
  cases event with
  | chunk value =>
      rw [own, offer]
      split
      · exact still
      · split
        · exact still
        · exact still
  | ended =>
      rw [own, close]
      split
      · exact still
      · exact still
  | next consumer =>
      rw [own]
      split
      · exact next_grows self ended
      · exact still
  | resume consumer =>
      rw [own]
      split
      · exact resume_grows self ended
      · exact still

/-- A consumer that is due is answered, or is still due and no further from its answer; if
the generator went on, it is nearer. -/
theorem Tracks.own_due (tracks : self.Tracks arrived ended) {left : Nat} (due : self.resumesLeft = some left)
    (place : Nat) (event : FanoutEvent) :
    (self.received.length < (self.own place ended event).received.length ∨
        0 < (self.own place ended event).ends) ∨
      ∃ still, (self.own place ended event).resumesLeft = some still ∧
        still + [event].count (.resume place) ≤ left := by
  have notWaiting : self.phase ≠ .waiting := by
    intro waiting
    rw [resumesLeft, waiting] at due
    cases due
  have noWaiter := Bool.eq_false_iff.mp (tracks.noWaiter notWaiting)
  cases event with
  | chunk value =>
      refine .inr ⟨left, ?_, by simp⟩
      rw [own]
      split
      · exact due
      · rw [FanoutConsumer.offer, if_neg noWaiter]
        exact due
  | ended =>
      refine .inr ⟨left, ?_, by simp⟩
      rw [own, FanoutConsumer.close, if_neg noWaiter]
      exact due
  | next consumer =>
      refine .inr ⟨left, ?_, by simp⟩
      rw [own]
      split
      · rw [FanoutConsumer.next]
        split
        · next phase => rw [resumesLeft, phase] at due; cases due
        · next phase => rw [resumesLeft, phase] at due; cases due
        · exact due
      · exact due
  | resume consumer =>
      rw [own]
      split
      · next same =>
        subst same
        rw [FanoutConsumer.resume]
        rw [resumesLeft] at due
        cases phase : self.phase with
        | suspended => rw [phase] at due; cases due
        | returned => rw [phase] at due; cases due
        | waiting => exact absurd phase notWaiting
        | resolved result =>
            have asked := tracks.asked (by rw [phase]; nofun) (by rw [phase]; nofun)
            rw [phase] at due
            cases result with
            | none => exact .inl (.inr (Nat.add_pos_right _ asked))
            | some chunk =>
                cases due
                exact .inr ⟨1, rfl, by simp⟩
        | yielding chunk =>
            refine .inl (.inl ?_)
            dsimp only
            have longer : self.received.length < (self.received ++ [chunk]).length := by simp
            split
            · rw [(loop_fixed _ _).1]
              exact longer
            · exact longer
      · next other => exact .inr ⟨left, due, by simp [other]⟩

/-- With a request that can be answered, the generator does not wait for anything. -/
theorem Tracks.due (tracks : self.Tracks arrived ended) {wanted : Nat}
    (asked : wanted ≤ self.answers + self.requests)
    (available : wanted ≤ arrived.length ∨ ended = true) (missing : self.answers < wanted) :
    ∃ left, self.resumesLeft = some left := by
  have notIdle : ¬(self.phase = .suspended ∨ self.phase = .returned) :=
    mt tracks.idle.mpr (by omega)
  rw [resumesLeft]
  cases phase : self.phase with
  | suspended => exact absurd (.inl phase) notIdle
  | returned => exact absurd (.inr phase) notIdle
  | waiting =>
      have waits := tracks.waits phase
      rw [answers, waits.1] at missing
      rcases available with more | isEnded
      · omega
      · rw [waits.2] at isEnded
        cases isEnded
  | resolved result =>
      cases result with
      | none => exact ⟨1, rfl⟩
      | some chunk => exact ⟨2, rfl⟩
  | yielding chunk => exact ⟨1, rfl⟩

theorem resumesLeft_bounds {left : Nat} (due : self.resumesLeft = some left) :
    0 < left ∧ left ≤ 2 ∧ self.phase ≠ .returned := by
  rw [resumesLeft] at due
  split at due
  · next phase => cases due; simp [phase]
  · next phase => cases due; simp [phase]
  · next phase => cases due; simp [phase]
  · cases due

end FanoutConsumer

namespace Fanout

variable {self : Fanout} {arrived : List (List Octet)}

theorem Serves.asked_run (serves : self.Serves arrived) {place : Nat}
    {consumer later : FanoutConsumer} (isConsumer : self.consumers[place]? = some consumer)
    {events : List FanoutEvent}
    (isLater : (events.foldl Fanout.handle self).consumers[place]? = some later) :
    later.answers + later.requests =
      consumer.answers + consumer.requests + events.count (.next place) := by
  induction events generalizing self arrived consumer with
  | nil =>
      rw [List.foldl_nil, isConsumer] at isLater
      cases isLater
      rfl
  | cons event rest induction =>
      have step := handle_own self event place
      rw [isConsumer, Option.map_some] at step
      rw [induction (serves.handle event) step isLater,
        (serves place consumer isConsumer).own_asked place event, Nat.add_assoc,
        ← List.count_append, List.singleton_append]

/-- The calls of `next` are answered one after the other, when the generator has gone on twice
for each, as far as the chunks that are there go, and all of them when the stream has ended. -/
theorem Serves.answers_run (serves : self.Serves arrived) {place : Nat} {consumer : FanoutConsumer}
    (isConsumer : self.consumers[place]? = some consumer) {wanted : Nat}
    (asked : wanted ≤ consumer.answers + consumer.requests)
    (available : wanted ≤ arrived.length ∨ self.ended = true) {events : List FanoutEvent}
    (often : ∀ left, consumer.resumesLeft = some left → consumer.answers < wanted →
      2 * (wanted - consumer.answers - 1) + left ≤ events.count (.resume place)) :
    ∃ later, (events.foldl Fanout.handle self).consumers[place]? = some later ∧
      wanted ≤ later.answers := by
  induction events generalizing self arrived consumer with
  | nil =>
      refine ⟨consumer, isConsumer, Nat.le_of_not_lt fun missing => ?_⟩
      rcases (serves place consumer isConsumer).due asked available missing with ⟨left, due⟩
      have bounds := FanoutConsumer.resumesLeft_bounds due
      have none := often left due missing
      rw [List.count_nil] at none
      omega
  | cons event rest induction =>
      have tracks := serves place consumer isConsumer
      have step := handle_own self event place
      rw [isConsumer, Option.map_some] at step
      have nowAsked := tracks.own_asked place event
      have nowAvailable : wanted ≤ (arrived ++ if self.ended then [] else
          FanoutEvent.arrived [event]).length ∨ (self.handle event).ended = true := by
        rw [List.length_append, handle_ended, Bool.or_eq_true]
        exact available.imp (Nat.le_add_right_of_le ·) Or.inl
      refine induction (serves.handle event) step (by omega) nowAvailable fun left due missing => ?_
      have grows := consumer.own_grows place self.ended event
      have before : consumer.answers < wanted := by
        rw [FanoutConsumer.answers] at missing ⊢
        omega
      rcases tracks.due asked available before with ⟨earlier, isDue⟩
      have enough := often earlier isDue before
      rw [← List.singleton_append, List.count_append] at enough
      rcases tracks.own_due isDue place event with answered | ⟨still, stillDue, nearer⟩
      · -- The next call is answered: the generator starts on another one.
        have bounds := FanoutConsumer.resumesLeft_bounds isDue
        have atMost := (FanoutConsumer.resumesLeft_bounds due).2.1
        have once : [event].count (.resume place) ≤ 1 := List.count_le_length
        have stillOpen := tracks.stillOpen bounds.2.2
        rw [FanoutConsumer.answers] at missing enough ⊢
        omega
      · cases due.symm.trans stillDue
        rw [FanoutConsumer.answers] at missing enough ⊢
        omega

theorem Serves.delivers (serves : self.Serves arrived) {place : Nat} {consumer : FanoutConsumer}
    (isConsumer : self.consumers[place]? = some consumer) {wanted : Nat}
    (asked : wanted ≤ consumer.answers + consumer.requests) {events : List FanoutEvent}
    (often : 2 * (wanted - consumer.answers) ≤ events.count (.resume place)) :
    ∃ answered, (events.foldl Fanout.handle self).consumers[place]? = some answered ∧
      arrived.take wanted <+: answered.received ∧
      (self.ended = true → arrived.length < wanted →
        answered.received = arrived ∧ 0 < answered.ends) := by
  have enough {some_ : Nat} (within : some_ ≤ wanted) : ∀ left, consumer.resumesLeft = some left →
      consumer.answers < some_ →
        2 * (some_ - consumer.answers - 1) + left ≤ events.count (.resume place) := by
    intro left due missing
    have atMost := (FanoutConsumer.resumesLeft_bounds due).2.1
    omega
  have within : (arrived.take wanted).length ≤ wanted := by
    rw [List.length_take]
    exact Nat.min_le_left _ _
  rcases serves.answers_run isConsumer (Nat.le_trans within asked)
    (.inl (by rw [List.length_take]; exact Nat.min_le_right _ _)) (enough within) with
    ⟨answered, isAnswered, first⟩
  have tracks := serves.run events place answered isAnswered
  refine ⟨answered, isAnswered, ?_, ?_⟩
  · have atFront : arrived.take wanted <+:
        arrived ++ if self.ended then [] else FanoutEvent.arrived events :=
      (List.take_prefix _ _).trans (List.prefix_append _ _)
    rcases Nat.eq_zero_or_pos answered.ends with open_ | isOver
    · refine List.prefix_of_prefix_length_le atFront ⟨_, tracks.order⟩ ?_
      rwa [FanoutConsumer.answers, open_, Nat.add_zero] at first
    · rwa [(tracks.all_received (tracks.ends isOver)).1]
  · intro ended beyond
    rcases serves.answers_run isConsumer asked (.inr ended) (enough (Nat.le_refl _)) with
      ⟨same, isSame, all⟩
    cases isAnswered.symm.trans isSame
    rw [ended, if_pos rfl, List.append_nil] at tracks
    have atMost := congrArg List.length tracks.order
    rw [List.length_append] at atMost
    have isOver : 0 < answered.ends := by
      rw [FanoutConsumer.answers] at all
      omega
    exact ⟨(tracks.all_received (tracks.ends isOver)).1, isOver⟩

/-- For any chunks and any reads: what a consumer has received, what its generator has taken
and what is in its queue are the chunks that arrived, in their order. Its iteration has ended
only if it has received them all and the inbound stream has ended. Each of its calls of `next`
is answered once, or waits. When its generator has gone on twice for each of the first calls,
it has received a chunk for each of them, or else all chunks that there are, and the end of
the stream if that has come. And all this depends on the reads of no other consumer. -/
theorem receives_inbound (count : Nat) (events : List FanoutEvent) (place : Fin count) :
    ∃ consumer, (events.foldl handle (start count)).consumers[place.val]? = some consumer ∧
      consumer.received ++ (consumer.inFlight ++ consumer.queue) = FanoutEvent.arrived events ∧
      (0 < consumer.ends →
        .ended ∈ events ∧ consumer.received = FanoutEvent.arrived events) ∧
      consumer.received.length + consumer.ends + consumer.requests =
        events.count (.next place) ∧
      (∀ (wanted : Nat) (later : List FanoutEvent), wanted ≤ events.count (.next place) →
        2 * (wanted - (consumer.received.length + consumer.ends)) ≤
            later.count (.resume place) →
          ∃ answered, ((events ++ later).foldl handle (start count)).consumers[place.val]? =
              some answered ∧
            (FanoutEvent.arrived events).take wanted <+: answered.received ∧
            (.ended ∈ events → (FanoutEvent.arrived events).length < wanted →
              answered.received = FanoutEvent.arrived events ∧ 0 < answered.ends)) ∧
      ∀ others : List FanoutEvent, others.filter (FanoutEvent.concerns place) =
          events.filter (FanoutEvent.concerns place) →
        (others.foldl handle (start count)).consumers[place.val]? = some consumer := by
  have serves := (serves_start count).run events
  have ended := ended_foldl (start count) events
  have isThere := isSome_foldl (start count) events place
  have isFirst : (start count).consumers[place.val]? = some {} := by
    rw [start, List.getElem?_replicate, if_pos place.isLt]
  rw [isFirst, Option.isSome_some] at isThere
  rcases Option.isSome_iff_exists.mp isThere with ⟨consumer, isConsumer⟩
  have asked : consumer.answers + consumer.requests = events.count (.next place.val) :=
    ((serves_start count).asked_run isFirst isConsumer).trans (Nat.zero_add _)
  have opened : (start count).ended = false := rfl
  rw [opened, if_neg Bool.false_ne_true, List.nil_append] at serves
  rw [opened, or_iff_right Bool.false_ne_true] at ended
  have tracks := serves place consumer isConsumer
  refine ⟨consumer, isConsumer, tracks.order, ?_, asked, ?_, ?_⟩
  · intro isOver
    have all := tracks.all_received (tracks.ends isOver)
    exact ⟨ended.mp all.2, all.1⟩
  · intro wanted later isAsked often
    rw [List.foldl_append, ← ended]
    exact serves.delivers isConsumer (Nat.le_trans isAsked (Nat.le_of_eq asked.symm)) often
  · intro others same
    rw [(foldl_filter (start count) others place).2, same,
      ← (foldl_filter (start count) events place).2]
    exact isConsumer

/-- Two consumers, the second of which reads late. -/
def readLate : List FanoutEvent :=
  [.next 0, .chunk [1], .chunk [2], .ended, .resume 0, .next 1, .next 1, .next 1]

def goesOn : List FanoutEvent := List.replicate 6 (.resume 1)

theorem receives_inbound_late : ∃ consumer,
    ((readLate ++ goesOn).foldl handle (start 2)).consumers[1]? = some consumer ∧
      consumer.received = [[1], [2]] ∧ 0 < consumer.ends := by
  rcases receives_inbound 2 readLate 1 with ⟨_, isConsumer, -, -, -, delivers, -⟩
  cases isConsumer
  rcases delivers 3 goesOn (by decide) (by decide) with ⟨answered, isAnswered, -, theEnd⟩
  exact ⟨answered, isAnswered, theEnd (by decide) (by decide)⟩

end Fanout

end DshRemote.Backend
