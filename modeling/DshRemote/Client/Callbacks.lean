import DshRemote.Client.Connection

/-! # Event callbacks

A session event goes to the subscribers of its session in turn, and each of them calls its event
callbacks in turn. An exception leaves both loops: the first `catch` above them is the one of
`#handleNotification`. -/

namespace DshRemote.Client

abbrev CallbackId := Nat

structure EventCall where
  handle : HandleId
  callback : CallbackId
  event : SessionEvent
deriving DecidableEq, Repr

/-- A connection, and the event callbacks of its handles. -/
structure ListenedConnection where
  connection : TargetConnection
  eventCbs : OrderedMap HandleId (OrderedSet CallbackId) := .empty

/-- The loop over the callbacks of a handle: the ones that are called, and whether an exception
has left it. -/
def callEach (throws : CallbackId → Bool) : List CallbackId → List CallbackId × Bool
  | [] => ([], false)
  | callback :: rest =>
      if throws callback then ([callback], true)
      else
        let (called, thrown) := callEach throws rest
        (callback :: called, thrown)

section CallEach

variable {throws : CallbackId → Bool}

theorem callEach_thrown (callbacks : List CallbackId) :
    (callEach throws callbacks).2 = callbacks.any throws := by
  induction callbacks with
  | nil => rfl
  | cons callback rest induction =>
      cases throwing : throws callback with
      | true => simp [callEach, throwing]
      | false => simp [callEach, throwing, induction]

theorem callEach_prefix (callbacks : List CallbackId) :
    (callEach throws callbacks).1 <+: callbacks := by
  induction callbacks with
  | nil => exact List.prefix_rfl
  | cons callback rest induction =>
      cases throwing : throws callback with
      | true => simp [callEach, throwing]
      | false => simpa [callEach, throwing] using induction

/-- All callbacks are called exactly when none but the last throws. -/
theorem callEach_eq_iff (callbacks : List CallbackId) :
    (callEach throws callbacks).1 = callbacks ↔
      ∀ callback ∈ callbacks.dropLast, throws callback = false := by
  induction callbacks with
  | nil => simp [callEach]
  | cons callback rest induction =>
      cases rest with
      | nil => cases throwing : throws callback <;> simp [callEach, throwing]
      | cons next others =>
          rw [List.dropLast_cons_of_ne_nil (List.cons_ne_nil _ _), List.forall_mem_cons,
            ← induction]
          cases throwing : throws callback with
          | true => simp [callEach, throwing]
          | false => simp [callEach, throwing]

theorem callEach_of_any_eq_false {callbacks : List CallbackId}
    (none : callbacks.any throws = false) : callEach throws callbacks = (callbacks, false) := by
  have all := List.any_eq_false.mp none
  apply Prod.ext
  · apply (callEach_eq_iff callbacks).mpr
    intro callback member
    simpa using all callback (List.dropLast_subset callbacks member)
  · rw [callEach_thrown, none]

end CallEach

namespace ListenedConnection

def callbacksOf (self : ListenedConnection) (handle : HandleId) : List CallbackId :=
  ((self.eventCbs.get handle).getD .empty).elements

def onEvent (self : ListenedConnection) (handle : HandleId) (callback : CallbackId) :
    ListenedConnection :=
  { self with
    eventCbs := self.eventCbs.set handle
      (((self.eventCbs.get handle).getD .empty).add callback) }

/-- A subscriber's cursor moves before its callbacks are called. -/
def taken (self : ListenedConnection) (event : SessionEvent) (handle : HandleId) :
    ListenedConnection :=
  { self with
    connection := self.connection.update handle fun current => (current.handleEvent event).1 }

/-- `handleEvent` of one subscriber, with its calls and whether it throws. -/
def handleEvent (self : ListenedConnection) (throws : HandleId → CallbackId → Bool)
    (event : SessionEvent) (handle : HandleId) : ListenedConnection × List EventCall × Bool :=
  match self.connection.handles.get handle with
  | none => (self, [], false)
  | some current =>
      match current.handleEvent event with
      | (_, none) => (self, [], false)
      | (_, some event) =>
          let (called, thrown) := callEach (throws handle) (self.callbacksOf handle)
          (self.taken event handle, called.map fun callback => ⟨handle, callback, event⟩, thrown)

/-- The loop over the subscribers. -/
def deliver (throws : HandleId → CallbackId → Bool) (event : SessionEvent) :
    ListenedConnection → List HandleId → ListenedConnection × List EventCall
  | self, [] => (self, [])
  | self, handle :: rest =>
      let (next, calls, thrown) := self.handleEvent throws event handle
      if thrown then (next, calls)
      else
        let (last, more) := deliver throws event next rest
        (last, calls ++ more)

/-- A `session.event` notification, with `#handleNotification` around its handler. -/
def sessionEvent (self : ListenedConnection) (throws : HandleId → CallbackId → Bool)
    (sessionId : SessionId) (event : SessionEvent) : ListenedConnection × List EventCall :=
  deliver throws event self (self.connection.membersOf sessionId)

/-- No callback throws. -/
def calm : HandleId → CallbackId → Bool := fun _ _ => false

/-- The subscriber is not detached, and the event is past its cursor. -/
def Takes (self : ListenedConnection) (event : SessionEvent) (handle : HandleId) : Prop :=
  ∃ current ∈ self.connection.handles.get handle, (current.handleEvent event).2.isSome

instance (self : ListenedConnection) (event : SessionEvent) (handle : HandleId) :
    Decidable (self.Takes event handle) :=
  decidable_of_iff
    (∃ current ∈ (self.connection.handles.get handle).toList,
      (current.handleEvent event).2.isSome) (by simp [Takes])

/-- A callback throws only as the last one of the last subscriber that takes the event. -/
def OnlyLastThrows (self : ListenedConnection) (throws : HandleId → CallbackId → Bool)
    (event : SessionEvent) : List HandleId → Prop
  | [] => True
  | handle :: rest =>
      (self.Takes event handle → (self.callbacksOf handle).any (throws handle) →
        (∀ callback ∈ (self.callbacksOf handle).dropLast, throws handle callback = false) ∧
          ∀ other ∈ rest, ¬self.Takes event other) ∧
        self.OnlyLastThrows throws event rest

/-! ## What a delivery changes -/

variable {self : ListenedConnection} {throws : HandleId → CallbackId → Bool}
variable {event : SessionEvent} {handle other : HandleId} {list : List HandleId}

theorem handleEvent_of_not_takes (refuses : ¬self.Takes event handle) :
    self.handleEvent throws event handle = (self, [], false) := by
  unfold handleEvent
  split
  · rfl
  · next current found =>
      split
      · rfl
      · next next event' taken =>
          exact absurd ⟨current, found, by rw [taken]; rfl⟩ refuses

theorem handleEvent_of_takes (takes : self.Takes event handle) :
    self.handleEvent throws event handle =
      (self.taken event handle,
        (callEach (throws handle) (self.callbacksOf handle)).1.map fun callback =>
          ⟨handle, callback, event⟩,
        (self.callbacksOf handle).any (throws handle)) := by
  rcases takes with ⟨current, found, isSome⟩
  have isTaken : (current.handleEvent event).2 = some event := by
    simp only [DaemonAgentHandle.handleEvent] at isSome ⊢
    split at isSome
    · cases isSome
    · next accepts => rw [if_neg accepts]
  rw [handleEvent, Option.mem_def.mp found]
  dsimp only
  rw [show current.handleEvent event = ((current.handleEvent event).1, some event) from
    Prod.ext rfl isTaken]
  simp only [callEach_thrown]

@[simp] theorem callbacksOf_taken :
    (self.taken event handle).callbacksOf other = self.callbacksOf other := rfl

theorem get_taken : (self.taken event handle).connection.handles.get other =
    if other = handle then
      (self.connection.handles.get other).map fun current => (current.handleEvent event).1
    else self.connection.handles.get other := by
  simp only [taken, TargetConnection.update, OrderedMap.get_mapValues]
  cases self.connection.handles.get other <;> by_cases same : other = handle <;> simp [same]

theorem takes_taken_other (different : other ≠ handle) :
    (self.taken event handle).Takes event other ↔ self.Takes event other := by
  rw [Takes, Takes, get_taken, if_neg different]

theorem not_takes_taken : ¬(self.taken event handle).Takes event handle := by
  intro takes
  rcases takes with ⟨current, found, isSome⟩
  rw [get_taken, if_pos rfl, Option.mem_def, Option.map_eq_some_iff] at found
  rcases found with ⟨before, _, rfl⟩
  by_cases refuses : before.detached ∨ (event.seq : Int) ≤ before.cursor
  · simp [DaemonAgentHandle.handleEvent, refuses] at isSome
  · simp [DaemonAgentHandle.handleEvent, refuses] at isSome

theorem onlyLastThrows_congr {next : ListenedConnection}
    (sameCallbacks : ∀ handle, next.callbacksOf handle = self.callbacksOf handle)
    (sameTakes : ∀ handle ∈ list, next.Takes event handle ↔ self.Takes event handle) :
    next.OnlyLastThrows throws event list ↔ self.OnlyLastThrows throws event list := by
  induction list with
  | nil => rfl
  | cons handle rest induction =>
      have head := sameTakes handle List.mem_cons_self
      have tail : ∀ other ∈ rest, next.Takes event other ↔ self.Takes event other :=
        fun other member => sameTakes other (List.mem_cons_of_mem _ member)
      have noneTakes : (∀ other ∈ rest, ¬next.Takes event other) ↔
          ∀ other ∈ rest, ¬self.Takes event other :=
        forall₂_congr fun other member => not_congr (tail other member)
      rw [OnlyLastThrows, OnlyLastThrows, head, sameCallbacks, noneTakes, induction tail]

theorem onlyLastThrows_of_not_takes (none : ∀ handle ∈ list, ¬self.Takes event handle) :
    self.OnlyLastThrows throws event list := by
  induction list with
  | nil => trivial
  | cons handle rest induction =>
      constructor
      · intro takes
        exact absurd takes (none handle List.mem_cons_self)
      · exact induction fun other member => none other (List.mem_cons_of_mem _ member)

theorem deliver_of_not_takes (none : ∀ handle ∈ list, ¬self.Takes event handle) :
    deliver throws event self list = (self, []) := by
  induction list with
  | nil => rfl
  | cons handle rest induction =>
      rw [deliver, handleEvent_of_not_takes (none handle List.mem_cons_self)]
      simp [induction fun other member => none other (List.mem_cons_of_mem _ member)]

theorem deliver_calm_cons (takes : self.Takes event handle) :
    deliver calm event self (handle :: list) =
      ((deliver calm event (self.taken event handle) list).1,
        ((self.callbacksOf handle).map fun callback => ⟨handle, callback, event⟩) ++
          (deliver calm event (self.taken event handle) list).2) := by
  have quiet : (self.callbacksOf handle).any (calm handle) = false := by
    simp [calm]
  rw [deliver, handleEvent_of_takes takes, callEach_of_any_eq_false quiet]
  simp [quiet]

theorem get_deliver_of_notMem (absent : other ∉ list) :
    (deliver throws event self list).1.connection.handles.get other =
      self.connection.handles.get other := by
  induction list generalizing self with
  | nil => rfl
  | cons handle rest induction =>
      rw [List.mem_cons, not_or] at absent
      by_cases takes : self.Takes event handle
      · rw [deliver, handleEvent_of_takes takes]
        dsimp only
        split
        · rw [get_taken, if_neg absent.1]
        · rw [induction absent.2, get_taken, if_neg absent.1]
      · rw [deliver, handleEvent_of_not_takes takes]
        simpa using induction absent.2

theorem not_takes_deliver_calm (nodup : list.Nodup) (member : other ∈ list) :
    ¬(deliver calm event self list).1.Takes event other := by
  induction list generalizing self with
  | nil => cases member
  | cons handle rest induction =>
      rcases List.nodup_cons.mp nodup with ⟨fresh, restNodup⟩
      by_cases takes : self.Takes event handle
      · rw [deliver_calm_cons takes]
        rcases List.mem_cons.mp member with rfl | later
        · rw [Takes, get_deliver_of_notMem fresh]
          exact not_takes_taken
        · exact induction restNodup later
      · rw [deliver, handleEvent_of_not_takes takes]
        simp only [Bool.false_eq_true, if_false]
        rcases List.mem_cons.mp member with rfl | later
        · rw [Takes, get_deliver_of_notMem fresh]
          exact takes
        · exact induction restNodup later

/-! ## Deliveries without an exception -/

theorem deliver_calm_calls (nodup : list.Nodup) :
    (deliver calm event self list).2 = (list.filter fun handle => self.Takes event handle).flatMap
      fun handle => (self.callbacksOf handle).map fun callback => ⟨handle, callback, event⟩ := by
  induction list generalizing self with
  | nil => rfl
  | cons handle rest induction =>
      rcases List.nodup_cons.mp nodup with ⟨fresh, restNodup⟩
      by_cases takes : self.Takes event handle
      · have others : ∀ other ∈ rest, decide ((self.taken event handle).Takes event other) =
            decide (self.Takes event other) := by
          intro other member
          have different : other ≠ handle := fun same => fresh (same ▸ member)
          simp only [takes_taken_other different]
        rw [deliver_calm_cons takes, induction restNodup, List.filter_congr others,
          List.filter_cons_of_pos (by simpa using takes), List.flatMap_cons]
        rfl
      · rw [deliver, handleEvent_of_not_takes takes,
          List.filter_cons_of_neg (by simpa using takes)]
        simpa using induction restNodup

theorem deliver_calm_connection (nodup : list.Nodup) :
    (deliver calm event self list).1.connection =
      { self.connection with
        handles := self.connection.handles.mapValues fun other current =>
          if other ∈ list then (current.handleEvent event).1 else current } := by
  induction list generalizing self with
  | nil => simp [deliver, OrderedMap.mapValues]
  | cons handle rest induction =>
      rcases List.nodup_cons.mp nodup with ⟨fresh, restNodup⟩
      by_cases takes : self.Takes event handle
      · rw [deliver_calm_cons takes, induction restNodup]
        simp only [taken, TargetConnection.update, OrderedMap.mapValues, List.map_map]
        congr 2
        apply List.map_congr_left
        intro entry _
        by_cases same : entry.1 = handle
        · simp [same, fresh]
        · simp [same]
      · rw [deliver, handleEvent_of_not_takes takes]
        simp only [Bool.false_eq_true, if_false, induction restNodup, OrderedMap.mapValues]
        congr 2
        apply List.map_congr_left
        intro entry member
        by_cases same : entry.1 = handle
        · have found := (self.connection.handles.get_eq_some_iff entry.1 entry.2).mpr member
          rw [same] at found
          have refuses : (entry.2.handleEvent event).2 = none := by
            by_contra isSome
            exact takes ⟨entry.2, found, Option.isSome_iff_ne_none.mpr isSome⟩
          have kept : (entry.2.handleEvent event).1 = entry.2 := by
            simp only [DaemonAgentHandle.handleEvent] at refuses ⊢
            split at refuses
            · next refusing => rw [if_pos refusing]
            · cases refuses
          simp [same, fresh, kept]
        · simp [same]

theorem nodup_membersOf (connection : TargetConnection) (sessionId : SessionId) :
    (connection.membersOf sessionId).Nodup := by
  unfold TargetConnection.membersOf
  split
  · exact List.nodup_nil
  · next set _ => exact set.members.nodup

/-- Without an exception the subscribers are notified as the connection does it, and all
callbacks of those that take the event are called. -/
theorem sessionEvent_calm (self : ListenedConnection) (sessionId : SessionId)
    (event : SessionEvent) :
    (self.sessionEvent calm sessionId event).1.connection =
        self.connection.dispatch sessionId (fun handle => (handle.handleEvent event).1) ∧
      (self.sessionEvent calm sessionId event).2 =
        ((self.connection.membersOf sessionId).filter fun handle => self.Takes event handle).flatMap
          fun handle => (self.callbacksOf handle).map fun callback => ⟨handle, callback, event⟩ := by
  have nodup := nodup_membersOf self.connection sessionId
  exact ⟨deliver_calm_connection nodup, deliver_calm_calls nodup⟩

/-! ## Deliveries with exceptions -/

/-- An exception is harmless exactly when nothing is left to do in the two loops. -/
theorem deliver_thrown_iff (takes : self.Takes event handle)
    (thrown : (self.callbacksOf handle).any (throws handle) = true)
    (nodup : (handle :: list).Nodup) :
    deliver throws event self (handle :: list) = deliver calm event self (handle :: list) ↔
      (∀ callback ∈ (self.callbacksOf handle).dropLast, throws handle callback = false) ∧
        ∀ other ∈ list, ¬self.Takes event other := by
  rcases List.nodup_cons.mp nodup with ⟨fresh, restNodup⟩
  have others : ∀ other ∈ list, ((self.taken event handle).Takes event other ↔
      self.Takes event other) := by
    intro other member
    exact takes_taken_other fun same => fresh (same ▸ member)
  rw [deliver_calm_cons takes, deliver, handleEvent_of_takes takes, ← callEach_eq_iff]
  simp only [thrown, if_true, Prod.mk.injEq]
  constructor
  · intro same
    rcases same with ⟨sameState, sameCalls⟩
    constructor
    · -- The loop has made no more calls than there are callbacks.
      have isPrefix : (callEach (throws handle) (self.callbacksOf handle)).1 <+:
          self.callbacksOf handle := callEach_prefix _
      have short := isPrefix.length_le
      have lengths := congrArg List.length sameCalls
      simp only [List.length_map, List.length_append] at lengths
      exact isPrefix.eq_of_length (by omega)
    · intro other member otherTakes
      have noneLeft : ¬(deliver calm event (self.taken event handle) list).1.Takes event other :=
        not_takes_deliver_calm restNodup member
      rw [← sameState] at noneLeft
      exact noneLeft ((others other member).mpr otherTakes)
  · intro harmless
    rcases harmless with ⟨allCalled, noneTakes⟩
    have noneLeft : ∀ other ∈ list, ¬(self.taken event handle).Takes event other :=
      fun other member => (others other member).not.mpr (noneTakes other member)
    rw [deliver_of_not_takes noneLeft, allCalled]
    simp

theorem deliver_eq_calm_iff (nodup : list.Nodup) :
    deliver throws event self list = deliver calm event self list ↔
      self.OnlyLastThrows throws event list := by
  induction list generalizing self with
  | nil => simp [deliver, OnlyLastThrows]
  | cons handle rest induction =>
      rcases List.nodup_cons.mp nodup with ⟨fresh, restNodup⟩
      rw [OnlyLastThrows]
      by_cases takes : self.Takes event handle
      · cases thrown : (self.callbacksOf handle).any (throws handle) with
        | true =>
            rw [deliver_thrown_iff takes thrown nodup]
            constructor
            · intro harmless
              exact ⟨fun _ _ => harmless, onlyLastThrows_of_not_takes harmless.2⟩
            · intro conditions
              exact conditions.1 takes rfl
        | false =>
            have sameRest : (self.taken event handle).OnlyLastThrows throws event rest ↔
                self.OnlyLastThrows throws event rest := by
              apply onlyLastThrows_congr (fun _ => callbacksOf_taken)
              intro other member
              exact takes_taken_other fun same => fresh (same ▸ member)
            rw [deliver_calm_cons takes, deliver, handleEvent_of_takes takes,
              callEach_of_any_eq_false thrown, ← sameRest, ← induction restNodup]
            simp [thrown, Prod.ext_iff]
      · rw [deliver, deliver, handleEvent_of_not_takes takes, handleEvent_of_not_takes takes]
        simp only [Bool.false_eq_true, if_false, List.nil_append, induction restNodup]
        constructor
        · intro rest
          exact ⟨fun isTaken => absurd isTaken takes, rest⟩
        · intro conditions
          exact conditions.2

/-- A notification is delivered as if no callback had thrown exactly when a callback throws only
as the last one of the last subscriber that takes the event. -/
theorem sessionEvent_eq_calm_iff (self : ListenedConnection)
    (throws : HandleId → CallbackId → Bool) (sessionId : SessionId) (event : SessionEvent) :
    self.sessionEvent throws sessionId event = self.sessionEvent calm sessionId event ↔
      self.OnlyLastThrows throws event (self.connection.membersOf sessionId) :=
  deliver_eq_calm_iff (nodup_membersOf self.connection sessionId)

/-- Two handles of one session; the first of them has two callbacks. -/
def twoHandles : ListenedConnection :=
  let connection := ((TargetConnection.init {}).subscribe "session" .read 0).subscribe
    "session" .read 0
  ((({ connection := connection } : ListenedConnection).onEvent 0 7).onEvent 0 8).onEvent 1 9

def firstEvent : SessionEvent where
  seq := 1
  type := "text"
  time := 0
  data := none

/-- The first callback throws: the second one of its handle is not called, and the other handle
misses the event altogether. -/
theorem sessionEvent_first_throws :
    let throws := fun (_ : HandleId) (callback : CallbackId) => callback == 7
    let thrown := twoHandles.sessionEvent throws "session" firstEvent
    let calm := twoHandles.sessionEvent calm "session" firstEvent
    thrown.2 = [⟨0, 7, firstEvent⟩] ∧
      calm.2 = [⟨0, 7, firstEvent⟩, ⟨0, 8, firstEvent⟩, ⟨1, 9, firstEvent⟩] ∧
      (thrown.1.connection.handles.get 1).map (fun handle => handle.cursor) = some 0 ∧
      (calm.1.connection.handles.get 1).map (fun handle => handle.cursor) = some 1 := by
  decide

end ListenedConnection

end DshRemote.Client
