import DshRemote.Client.Callbacks
import Mathlib.Data.List.Perm.Subperm

/-! # onDaemonNotification

The extra notification handlers of a connection. The map holds one set of handlers for each
method. A disposer holds on to the set its handler was added to, which may have left the map
since, and a peer is armed on its own. -/

namespace DshRemote.Client

/-- What a peer does with the notifications of a method. -/
inductive NotificationHandler
  /-- The subscribers of the session are told. -/
  | subscribers
  | dispatchExtra
deriving DecidableEq, Repr

/-- What the closure returned by a registration holds on to. -/
structure Disposer where
  method : String
  handler : CallbackId
  set : Nat
deriving DecidableEq, Repr

structure DaemonNotifications where
  /-- The sets by where they were allocated; `nextSet` is free. -/
  sets : Nat → OrderedSet CallbackId := fun _ => .empty
  nextSet : Nat := 0
  notificationHandlers : OrderedMap String Nat := .empty
  /-- The live peer, by its own table of handlers. -/
  peer : Option (OrderedMap String NotificationHandler) := none
  /-- The disposers returned so far. -/
  disposers : List Disposer := []
  /-- The disposers that were called. No step reads it. -/
  disposed : OrderedSet Nat := .empty

/-- A disposer may be called any number of times. The handlers that throw are those that do so
when this notification is given to them. What a handler itself registers or disposes comes after
the notification: the loop runs over a snapshot. -/
inductive NotificationEvent
  | onDaemonNotification (method : String) (handler : CallbackId)
  | dispose (disposer : Nat)
  /-- `runOpen` installs a new peer, at first or after a reconnect. -/
  | opened
  | peerClosed
  | notification (method : String) (throws : CallbackId → Bool)

namespace DaemonNotifications

/-- The methods `registerNotifications` handles itself. -/
def builtin : List String := ["session.event", "session.status", "session.control-changed"]

def registerNotifications (connection : DaemonNotifications) :
    OrderedMap String NotificationHandler :=
  connection.notificationHandlers.keys.foldl (fun peer method => peer.set method .dispatchExtra)
    (builtin.foldl (fun peer method => peer.set method .subscribers) .empty)

/-- The handlers of a method, in the order the loop of `dispatchExtra` takes them. -/
def handlersOf (connection : DaemonNotifications) (method : String) : List CallbackId :=
  match connection.notificationHandlers.get method with
  | none => []
  | some set => (connection.sets set).elements

/-- The handlers `dispatchExtra` calls: an exception ends its loop. -/
def dispatchExtra (connection : DaemonNotifications) (throws : CallbackId → Bool)
    (method : String) : List CallbackId :=
  (callEach throws (connection.handlersOf method)).1

/-- The handlers called for a notification on the live channel. -/
def received (connection : DaemonNotifications) (throws : CallbackId → Bool)
    (method : String) : List CallbackId :=
  match connection.peer.bind fun peer => peer.get method with
  | none => []
  | some .subscribers => []
  | some .dispatchExtra => connection.dispatchExtra throws method

/-- The set a new handler of the method goes to, made and armed if there is none. -/
def withSet (connection : DaemonNotifications) (method : String) :
    DaemonNotifications × Nat :=
  match connection.notificationHandlers.get method with
  | some set => (connection, set)
  | none =>
      ({ connection with
          sets := Function.update connection.sets connection.nextSet .empty
          nextSet := connection.nextSet + 1
          notificationHandlers := connection.notificationHandlers.set method connection.nextSet
          peer := connection.peer.map fun peer => peer.set method .dispatchExtra },
        connection.nextSet)

def onDaemonNotification (connection : DaemonNotifications) (method : String)
    (handler : CallbackId) : DaemonNotifications :=
  let (connection, set) := connection.withSet method
  { connection with
    sets := Function.update connection.sets set ((connection.sets set).add handler)
    disposers := connection.disposers ++ [⟨method, handler, set⟩] }

def dispose (connection : DaemonNotifications) (disposer : Disposer) : DaemonNotifications :=
  let left := (connection.sets disposer.set).delete disposer.handler
  { connection with
    sets := Function.update connection.sets disposer.set left
    notificationHandlers :=
      if left.isEmpty then connection.notificationHandlers.delete disposer.method
      else connection.notificationHandlers }

def opened (connection : DaemonNotifications) : DaemonNotifications :=
  { connection with peer := some connection.registerNotifications }

def step (connection : DaemonNotifications) : NotificationEvent → Option DaemonNotifications
  | .onDaemonNotification method handler => some (connection.onDaemonNotification method handler)
  | .dispose index =>
      connection.disposers[index]?.map fun disposer =>
        { connection.dispose disposer with disposed := connection.disposed.add index }
  | .opened => some connection.opened
  | .peerClosed => some { connection with peer := none }
  | .notification _ _ => if connection.peer.isSome then some connection else none

/-! ## What is promised -/

/-- A registration of the handler for the method is not yet disposed. -/
def Registered (connection : DaemonNotifications) (method : String) (handler : CallbackId) :
    Prop :=
  ∃ index disposer, connection.disposers[index]? = some disposer ∧
    index ∉ connection.disposed ∧ disposer.method = method ∧ disposer.handler = handler

/-- The calls are one for each handler that is registered for the method. -/
def OnceEach (connection : DaemonNotifications) (method : String) (calls : List CallbackId) :
    Prop :=
  calls.Nodup ∧ ∀ handler, handler ∈ calls ↔ connection.Registered method handler

/-- A notification that comes now or after a reconnect, and which no handler answers with an
exception, goes once to each registered handler. -/
def Dispatching (connection : DaemonNotifications) : Prop :=
  ∀ method,
    (connection.peer.isSome →
      connection.OnceEach method (connection.received (fun _ => false) method)) ∧
    connection.OnceEach method (connection.opened.received (fun _ => false) method)

/-- The step keeps the promise, and if it is a notification, that one is dispatched as promised. -/
def Keeps (connection : DaemonNotifications) (event : NotificationEvent) : Prop :=
  (∀ next, connection.step event = some next → next.Dispatching) ∧
    ∀ method throws, event = .notification method throws →
      connection.OnceEach method (connection.received throws method)

/-- Where a disposer holds on to a set, no other set has taken its place in the map; where it
removes a handler, no other registration needs it; and no handler throws before the last. -/
def Harmless (connection : DaemonNotifications) : NotificationEvent → Prop
  | .dispose index =>
      ∀ disposer, connection.disposers[index]? = some disposer →
        (∀ set, connection.notificationHandlers.get disposer.method = some set →
          set = disposer.set) ∧
        ∀ other another, connection.disposers[other]? = some another → other ≠ index →
          other ∉ connection.disposed →
            ¬(another.method = disposer.method ∧ another.handler = disposer.handler)
  | .notification method throws =>
      ∀ handler ∈ (connection.handlersOf method).dropLast, throws handler = false
  | .onDaemonNotification _ _ | .opened | .peerClosed => True

instance (connection : DaemonNotifications) :
    (event : NotificationEvent) → Decidable (connection.Harmless event)
  | .onDaemonNotification _ _ | .opened | .peerClosed => isTrue trivial
  | .notification method throws =>
      inferInstanceAs
        (Decidable (∀ handler ∈ (connection.handlersOf method).dropLast, throws handler = false))
  | .dispose index =>
      decidable_of_iff
        (∀ disposer ∈ connection.disposers[index]?,
          (∀ set ∈ connection.notificationHandlers.get disposer.method, set = disposer.set) ∧
          ∀ other < connection.disposers.length, ∀ another ∈ connection.disposers[other]?,
            other ≠ index → other ∉ connection.disposed →
              ¬(another.method = disposer.method ∧ another.handler = disposer.handler)) (by
        apply forall₂_congr
        intro disposer _
        apply and_congr_right
        intro _
        apply forall_congr'
        intro other
        constructor
        · intro bounded another found
          exact bounded (List.getElem?_eq_some_iff.mp found).1 another found
        · intro all _ another found
          exact all another found)

/-! ## What a step changes -/

variable {connection next : DaemonNotifications} {method other : String}
variable {handler : CallbackId} {throws : CallbackId → Bool} {set : Nat}

theorem mem_handlersOf : handler ∈ connection.handlersOf method ↔
    ∃ set, connection.notificationHandlers.get method = some set ∧
      handler ∈ connection.sets set := by
  unfold handlersOf
  cases found : connection.notificationHandlers.get method with
  | none => simp
  | some set => simp

theorem nodup_handlersOf (connection : DaemonNotifications) (method : String) :
    (connection.handlersOf method).Nodup := by
  unfold handlersOf
  split
  · exact List.nodup_nil
  · next set _ => exact (connection.sets set).nodup

/-- What a registration changes: the set of the method gets the handler. -/
structure Added (connection next : DaemonNotifications) (method : String) (handler : CallbackId)
    (set : Nat) : Prop where
  found : next.notificationHandlers.get method = some set
  otherMethods : ∀ {other}, other ≠ method →
    next.notificationHandlers.get other = connection.notificationHandlers.get other
  members : ∀ {other}, other ∈ next.sets set ↔
    other ∈ connection.handlersOf method ∨ other = handler
  otherSets : ∀ {other}, other ≠ set → next.sets other = connection.sets other
  disposers : next.disposers = connection.disposers ++ [⟨method, handler, set⟩]
  disposed : next.disposed = connection.disposed
  /-- The set is made and armed if the method had none. -/
  origin :
    connection.notificationHandlers.get method = some set ∧ next.peer = connection.peer ∧
        next.nextSet = connection.nextSet ∨
      connection.notificationHandlers.get method = none ∧ set = connection.nextSet ∧
        next.nextSet = connection.nextSet + 1 ∧
        next.peer = connection.peer.map fun peer => peer.set method .dispatchExtra

theorem exists_added (connection : DaemonNotifications) (method : String)
    (handler : CallbackId) :
    ∃ set, Added connection (connection.onDaemonNotification method handler) method handler set := by
  cases found : connection.notificationHandlers.get method with
  | some set =>
      have isSet : connection.withSet method = (connection, set) := by
        simp only [withSet, found]
      have isNext : connection.onDaemonNotification method handler =
          { connection with
            sets := Function.update connection.sets set ((connection.sets set).add handler)
            disposers := connection.disposers ++ [⟨method, handler, set⟩] } := by
        rw [onDaemonNotification, isSet]
      have members : connection.handlersOf method = (connection.sets set).elements := by
        simp only [handlersOf, found]
      rw [isNext]
      exact ⟨set, {
        found := found
        otherMethods := fun _ => rfl
        members := by simp [members]
        otherSets := fun different => Function.update_of_ne different _ _
        disposers := rfl
        disposed := rfl
        origin := Or.inl ⟨found, rfl, rfl⟩ }⟩
  | none =>
      have isSet : connection.withSet method =
          ({ connection with
              sets := Function.update connection.sets connection.nextSet .empty
              nextSet := connection.nextSet + 1
              notificationHandlers :=
                connection.notificationHandlers.set method connection.nextSet
              peer := connection.peer.map fun peer => peer.set method .dispatchExtra },
            connection.nextSet) := by
        simp only [withSet, found]
      have members : connection.handlersOf method = [] := by
        simp only [handlersOf, found]
      refine ⟨connection.nextSet, ?_⟩
      rw [onDaemonNotification, isSet]
      exact {
        found := OrderedMap.get_set_self _ _ _
        otherMethods := fun different => OrderedMap.get_set_other _ _ different
        members := by simp [members]
        otherSets := fun different => by
          dsimp only
          rw [Function.update_of_ne different, Function.update_of_ne different]
        disposers := rfl
        disposed := rfl
        origin := Or.inr ⟨found, rfl, rfl, rfl⟩ }

theorem get_dispose (connection : DaemonNotifications) (disposer : Disposer) (other : String) :
    (connection.dispose disposer).notificationHandlers.get other =
      if other = disposer.method ∧
          ((connection.sets disposer.set).delete disposer.handler).isEmpty = true then none
      else connection.notificationHandlers.get other := by
  cases empty : ((connection.sets disposer.set).delete disposer.handler).isEmpty with
  | true => simp [dispose, empty, OrderedMap.get_delete]
  | false => simp [dispose, empty]

theorem mem_sets_dispose {disposer : Disposer} :
    handler ∈ (connection.dispose disposer).sets set ↔
      handler ∈ connection.sets set ∧ ¬(set = disposer.set ∧ handler = disposer.handler) := by
  rw [dispose]
  by_cases same : set = disposer.set
  · subst same
    simp
  · simp [same]

/-- A disposer removes no entry of the map but its method's. -/
theorem get_of_get_dispose {disposer : Disposer}
    (found : (connection.dispose disposer).notificationHandlers.get other = some set) :
    connection.notificationHandlers.get other = some set := by
  rw [get_dispose] at found
  split at found
  · cases found
  · exact found

/-! ## The sets and the map -/

/-- What holds of the sets and the map whatever the disposers do. -/
structure Coherent (connection : DaemonNotifications) : Prop where
  allocated : ∀ {method set}, connection.notificationHandlers.get method = some set →
    set < connection.nextSet
  captured : ∀ {index : Nat} {disposer : Disposer},
    connection.disposers[index]? = some disposer → disposer.set < connection.nextSet
  unshared : ∀ {method other set}, connection.notificationHandlers.get method = some set →
    connection.notificationHandlers.get other = some set → method = other
  owned : ∀ {index : Nat} {disposer : Disposer} {method},
    connection.disposers[index]? = some disposer →
      connection.notificationHandlers.get method = some disposer.set → method = disposer.method
  inhabited : ∀ {method set}, connection.notificationHandlers.get method = some set →
    ∃ handler, handler ∈ connection.sets set
  armed : ∀ {peer method set}, connection.peer = some peer →
    connection.notificationHandlers.get method = some set →
      peer.get method = some .dispatchExtra
  returned : ∀ {index}, index ∈ connection.disposed → index < connection.disposers.length

theorem coherent_init : Coherent {} where
  allocated := nofun
  captured := nofun
  unshared := nofun
  owned := nofun
  inhabited := nofun
  armed := nofun
  returned member := absurd member (OrderedSet.notMem_empty _)

/-- A set of the map other than the method's is not the one a registration adds to. -/
theorem Added.ne (added : Added connection next method handler set)
    (coherent : connection.Coherent) {others : Nat} (different : other ≠ method)
    (found : connection.notificationHandlers.get other = some others) : others ≠ set := by
  intro same
  subst same
  rcases added.origin with ⟨present, _⟩ | ⟨_, isNew, _⟩
  · exact different (coherent.unshared found present)
  · exact absurd (coherent.allocated found) (by omega)

theorem Coherent.added (coherent : connection.Coherent)
    (added : Added connection next method handler set) : next.Coherent := by
  have grows : connection.nextSet ≤ next.nextSet := by
    rcases added.origin with ⟨_, _, same⟩ | ⟨_, _, isNext, _⟩ <;> omega
  have setAllocated : set < next.nextSet := by
    rcases added.origin with ⟨present, _, same⟩ | ⟨_, isNew, isNext, _⟩
    · exact Nat.lt_of_lt_of_le (coherent.allocated present) grows
    · omega
  have before : ∀ {other others}, other ≠ method →
      next.notificationHandlers.get other = some others →
        connection.notificationHandlers.get other = some others := by
    intro other others different found
    rw [← added.otherMethods different]
    exact found
  constructor
  case allocated =>
    intro other others found
    by_cases same : other = method
    · subst same
      cases added.found.symm.trans found
      exact setAllocated
    · exact Nat.lt_of_lt_of_le (coherent.allocated (before same found)) grows
  case captured =>
    intro index disposer isDisposer
    rw [added.disposers] at isDisposer
    rcases of_getElem?_concat isDisposer with old | ⟨_, isNew⟩
    · exact Nat.lt_of_lt_of_le (coherent.captured old) grows
    · subst isNew
      exact setAllocated
  case unshared =>
    intro first second others firstFound secondFound
    by_cases firstSame : first = method
    · by_cases secondSame : second = method
      · rw [firstSame, secondSame]
      · subst firstSame
        cases added.found.symm.trans firstFound
        exact absurd rfl (added.ne coherent secondSame (before secondSame secondFound))
    · by_cases secondSame : second = method
      · subst secondSame
        cases added.found.symm.trans secondFound
        exact absurd rfl (added.ne coherent firstSame (before firstSame firstFound))
      · exact coherent.unshared (before firstSame firstFound) (before secondSame secondFound)
  case owned =>
    intro index disposer other isDisposer found
    rw [added.disposers] at isDisposer
    rcases of_getElem?_concat isDisposer with old | ⟨_, isNew⟩
    · by_cases same : other = method
      · subst same
        cases added.found.symm.trans found
        -- The set was captured before, so it is not a new one.
        rcases added.origin with ⟨present, _⟩ | ⟨_, isNew, _⟩
        · exact coherent.owned old present
        · exact absurd (coherent.captured old) (by omega)
      · exact coherent.owned old (before same found)
    · subst isNew
      by_contra different
      exact added.ne coherent different (before different found) rfl
  case inhabited =>
    intro other others found
    by_cases same : other = method
    · subst same
      cases added.found.symm.trans found
      exact ⟨handler, added.members.mpr (Or.inr rfl)⟩
    · have wasFound := before same found
      rw [added.otherSets (added.ne coherent same wasFound)]
      exact coherent.inhabited wasFound
  case armed =>
    intro peer other others isPeer found
    rcases added.origin with ⟨present, samePeer, _⟩ | ⟨absent, _, _, armedPeer⟩
    · rw [samePeer] at isPeer
      by_cases same : other = method
      · subst same
        exact coherent.armed isPeer present
      · exact coherent.armed isPeer (before same found)
    · rw [armedPeer] at isPeer
      rcases Option.map_eq_some_iff.mp isPeer with ⟨old, isOld, isNew⟩
      subst isNew
      by_cases same : other = method
      · rw [same, OrderedMap.get_set_self]
      · rw [OrderedMap.get_set_other _ _ same]
        exact coherent.armed isOld (before same found)
  case returned =>
    intro index called
    rw [added.disposed] at called
    rw [added.disposers, List.length_append]
    exact Nat.lt_add_right _ (coherent.returned called)

theorem Coherent.dispose (coherent : connection.Coherent) {disposer : Disposer} {index : Nat}
    (isDisposer : connection.disposers[index]? = some disposer) :
    Coherent { connection.dispose disposer with disposed := connection.disposed.add index } where
  allocated found := coherent.allocated (get_of_get_dispose found)
  captured found := coherent.captured found
  unshared first second :=
    coherent.unshared (get_of_get_dispose first) (get_of_get_dispose second)
  owned found present := coherent.owned found (get_of_get_dispose present)
  inhabited {other others} found := by
    have wasFound := get_of_get_dispose found
    by_cases same : others = disposer.set
    · subst same
      by_cases empty : ((connection.sets disposer.set).delete disposer.handler).isEmpty = true
      · -- Then the entry would have been deleted.
        rw [get_dispose, if_pos ⟨coherent.owned isDisposer wasFound, empty⟩] at found
        cases found
      · rw [OrderedSet.isEmpty_iff, not_forall_not] at empty
        rcases empty with ⟨handler, left⟩
        rcases (OrderedSet.mem_delete _ _ _).mp left with ⟨member, different⟩
        exact ⟨handler, mem_sets_dispose.mpr ⟨member, fun both => different both.2⟩⟩
    · rcases coherent.inhabited wasFound with ⟨handler, member⟩
      exact ⟨handler, mem_sets_dispose.mpr ⟨member, fun both => same both.1⟩⟩
  armed isPeer found := coherent.armed isPeer (get_of_get_dispose found)
  returned {other} called := by
    rcases (OrderedSet.mem_add _ _ _).mp called with before | now
    · exact coherent.returned before
    · rw [now]
      exact (List.getElem?_eq_some_iff.mp isDisposer).1

theorem get_registerNotifications
    (found : connection.notificationHandlers.get method = some set) :
    connection.registerNotifications.get method = some .dispatchExtra := by
  have member : method ∈ connection.notificationHandlers.keys :=
    (connection.notificationHandlers.mem_keys_iff method).mpr ⟨set, found⟩
  have nodup : (connection.notificationHandlers.keys.map id).Nodup := by
    rw [List.map_id]
    exact connection.notificationHandlers.nodup
  have arms : ∀ subscribed : OrderedMap String NotificationHandler,
      (connection.notificationHandlers.keys.foldl
        (fun peer method => peer.set method .dispatchExtra) subscribed).get method =
          some .dispatchExtra := by
    intro subscribed
    exact @OrderedMap.get_foldl_set_of_mem _ NotificationHandler _ _ _ id
      (fun _ => .dispatchExtra) subscribed nodup _ member
  exact arms _

theorem Coherent.opened (coherent : connection.Coherent) : connection.opened.Coherent where
  allocated := coherent.allocated
  captured := coherent.captured
  unshared := coherent.unshared
  owned := coherent.owned
  inhabited := coherent.inhabited
  armed isPeer found := by
    cases isPeer
    exact get_registerNotifications found
  returned := coherent.returned

theorem Coherent.closed (coherent : connection.Coherent) :
    Coherent { connection with peer := none } where
  allocated := coherent.allocated
  captured := coherent.captured
  unshared := coherent.unshared
  owned := coherent.owned
  inhabited := coherent.inhabited
  armed isPeer := nomatch isPeer
  returned := coherent.returned

theorem Coherent.step (coherent : connection.Coherent) {event : NotificationEvent}
    (stepped : connection.step event = some next) : next.Coherent := by
  cases event with
  | onDaemonNotification method handler =>
      cases stepped
      rcases exists_added connection method handler with ⟨set, added⟩
      exact coherent.added added
  | dispose index =>
      rcases Option.map_eq_some_iff.mp stepped with ⟨disposer, isDisposer, isNext⟩
      subst isNext
      exact coherent.dispose isDisposer
  | opened =>
      cases stepped
      exact coherent.opened
  | peerClosed =>
      cases stepped
      exact coherent.closed
  | notification method throws =>
      rw [DaemonNotifications.step] at stepped
      split at stepped
      · cases stepped
        exact coherent
      · cases stepped

/-! ## What the live peer calls -/

theorem received_of_peer (coherent : connection.Coherent) (live : connection.peer.isSome) :
    connection.received throws method = connection.dispatchExtra throws method := by
  rcases Option.isSome_iff_exists.mp live with ⟨peer, isPeer⟩
  rw [received, isPeer, Option.bind_some]
  cases found : connection.notificationHandlers.get method with
  | some set => rw [coherent.armed isPeer found]
  | none =>
      have nobody : connection.dispatchExtra throws method = [] := by
        rw [dispatchExtra, handlersOf, found]
        rfl
      rw [nobody]
      split <;> rfl

theorem dispatchExtra_calm :
    connection.dispatchExtra (fun _ => false) method = connection.handlersOf method :=
  (callEach_eq_iff _).mpr fun _ _ => rfl

/-- The handlers of each method are the registered ones. -/
theorem dispatching_iff (coherent : connection.Coherent) :
    connection.Dispatching ↔ ∀ method handler,
      handler ∈ connection.handlersOf method ↔ connection.Registered method handler := by
  have reopened : ∀ method, connection.opened.received (fun _ => false) method =
      connection.handlersOf method := by
    intro method
    rw [received_of_peer coherent.opened rfl, dispatchExtra_calm]
    rfl
  constructor
  · intro dispatching method
    rw [← reopened]
    exact (dispatching method).2.2
  · intro same method
    have each : connection.OnceEach method (connection.handlersOf method) :=
      ⟨nodup_handlersOf connection method, same method⟩
    constructor
    · intro live
      rw [received_of_peer coherent live, dispatchExtra_calm]
      exact each
    · rw [reopened]
      exact each

/-- With the right handlers in the set, a notification is dispatched as promised exactly when
no handler throws before the last. -/
theorem onceEach_received_iff (coherent : connection.Coherent) (live : connection.peer.isSome)
    (same : ∀ handler, handler ∈ connection.handlersOf method ↔
      connection.Registered method handler) :
    connection.OnceEach method (connection.received throws method) ↔
      ∀ handler ∈ (connection.handlersOf method).dropLast, throws handler = false := by
  rw [received_of_peer coherent live, dispatchExtra, ← callEach_eq_iff]
  have isPrefix : (callEach throws (connection.handlersOf method)).1 <+:
      connection.handlersOf method := callEach_prefix _
  constructor
  · intro each
    apply isPrefix.sublist.eq_of_length_le
    apply (List.subperm_of_subset (nodup_handlersOf connection method) _).length_le
    intro handler member
    exact (each.2 handler).mpr ((same handler).mp member)
  · intro all
    rw [all]
    exact ⟨nodup_handlersOf connection method, same⟩

/-! ## Harmless steps -/

/-- What harmless steps keep: a disposer that was not called holds on to the set of its method,
and no handler is left in a set that was dropped. -/
structure Tidy (connection : DaemonNotifications) : Prop where
  live : ∀ {index : Nat} {disposer : Disposer}, connection.disposers[index]? = some disposer →
    index ∉ connection.disposed →
      connection.notificationHandlers.get disposer.method = some disposer.set ∧
        disposer.handler ∈ connection.sets disposer.set
  registered : ∀ {method set handler}, connection.notificationHandlers.get method = some set →
    handler ∈ connection.sets set → connection.Registered method handler
  mapped : ∀ {set handler}, handler ∈ connection.sets set →
    ∃ method, connection.notificationHandlers.get method = some set

theorem tidy_init : Tidy {} where
  live := nofun
  registered := nofun
  mapped member := absurd member (OrderedSet.notMem_empty _)

theorem Tidy.same (tidy : connection.Tidy) :
    handler ∈ connection.handlersOf method ↔ connection.Registered method handler := by
  rw [mem_handlersOf]
  constructor
  · intro member
    rcases member with ⟨set, found, inSet⟩
    exact tidy.registered found inSet
  · intro registered
    rcases registered with ⟨index, disposer, isDisposer, notDisposed, sameMethod, sameHandler⟩
    subst sameMethod sameHandler
    exact ⟨disposer.set, tidy.live isDisposer notDisposed⟩

theorem Tidy.dispatching (tidy : connection.Tidy) (coherent : connection.Coherent) :
    connection.Dispatching :=
  (dispatching_iff coherent).mpr fun _ _ => tidy.same

theorem Registered.added {another : CallbackId} (registered : connection.Registered other another)
    (added : Added connection next method handler set) : next.Registered other another := by
  rcases registered with ⟨index, disposer, isDisposer, notDisposed, isIts⟩
  refine ⟨index, disposer, ?_, ?_, isIts⟩
  · rw [added.disposers, List.getElem?_append_left (List.getElem?_eq_some_iff.mp isDisposer).1]
    exact isDisposer
  · rw [added.disposed]
    exact notDisposed

theorem Tidy.added (tidy : connection.Tidy) (coherent : connection.Coherent)
    (added : Added connection next method handler set) : next.Tidy := by
  constructor
  case live =>
    intro index disposer isDisposer notDisposed
    rw [added.disposed] at notDisposed
    rw [added.disposers] at isDisposer
    rcases of_getElem?_concat isDisposer with old | ⟨_, isNew⟩
    · rcases tidy.live old notDisposed with ⟨found, inSet⟩
      by_cases same : disposer.method = method
      · rw [same] at found
        rcases added.origin with ⟨present, _⟩ | ⟨absent, _⟩
        · cases present.symm.trans found
          rw [same]
          exact ⟨added.found, added.members.mpr (Or.inl (mem_handlersOf.mpr ⟨_, found, inSet⟩))⟩
        · cases absent.symm.trans found
      · rw [added.otherMethods same, added.otherSets (added.ne coherent same found)]
        exact ⟨found, inSet⟩
    · subst isNew
      exact ⟨added.found, added.members.mpr (Or.inr rfl)⟩
  case registered =>
    intro other others another found inSet
    by_cases same : other = method
    · subst same
      cases added.found.symm.trans found
      rcases added.members.mp inSet with before | isNew
      · exact (tidy.same.mp before).added added
      · subst isNew
        refine ⟨connection.disposers.length, ⟨other, another, set⟩, ?_, ?_, rfl, rfl⟩
        · rw [added.disposers, List.getElem?_concat_length]
        · rw [added.disposed]
          exact fun called => absurd (coherent.returned called) (Nat.lt_irrefl _)
    · rw [added.otherMethods same] at found
      rw [added.otherSets (added.ne coherent same found)] at inSet
      exact (tidy.registered found inSet).added added
  case mapped =>
    intro others another inSet
    by_cases same : others = set
    · subst same
      exact ⟨method, added.found⟩
    · rw [added.otherSets same] at inSet
      rcases tidy.mapped inSet with ⟨other, found⟩
      refine ⟨other, ?_⟩
      rw [added.otherMethods]
      · exact found
      · intro isMethod
        subst isMethod
        rcases added.origin with ⟨present, _⟩ | ⟨absent, _⟩
        · exact same (Option.some.inj (found.symm.trans present))
        · cases absent.symm.trans found

/-- What is left after a harmless call of a disposer. -/
theorem Tidy.dispose (tidy : connection.Tidy) (coherent : connection.Coherent) {index : Nat}
    {disposer : Disposer} (isDisposer : connection.disposers[index]? = some disposer)
    (harmless : connection.Harmless (.dispose index)) :
    Tidy { connection.dispose disposer with disposed := connection.disposed.add index } := by
  rcases harmless disposer isDisposer with ⟨current, alone⟩
  -- What is left in a set keeps the entry of its method.
  have stays : ∀ {other others another}, connection.notificationHandlers.get other = some others →
      another ∈ (connection.dispose disposer).sets others →
        (connection.dispose disposer).notificationHandlers.get other = some others := by
    intro other others another found left
    rw [get_dispose, if_neg]
    · exact found
    · intro removed
      rcases removed with ⟨isMethod, empty⟩
      subst isMethod
      rcases mem_sets_dispose.mp left with ⟨member, kept⟩
      have isSet := current others found
      subst isSet
      apply (OrderedSet.isEmpty_iff _).mp empty another
      exact (OrderedSet.mem_delete _ _ _).mpr ⟨member, fun equal => kept ⟨rfl, equal⟩⟩
  constructor
  case live =>
    intro other another isAnother notDisposed
    have notBefore : other ∉ connection.disposed := fun called =>
      notDisposed ((OrderedSet.mem_add _ _ _).mpr (Or.inl called))
    have different : other ≠ index := fun equal =>
      notDisposed ((OrderedSet.mem_add _ _ _).mpr (Or.inr equal))
    rcases tidy.live isAnother notBefore with ⟨found, inSet⟩
    have kept : another.handler ∈ (connection.dispose disposer).sets another.set := by
      apply mem_sets_dispose.mpr
      constructor
      · exact inSet
      · intro removed
        apply alone other another isAnother different notBefore
        rw [removed.1] at found
        exact ⟨coherent.owned isDisposer found, removed.2⟩
    exact ⟨stays found kept, kept⟩
  case registered =>
    intro other others another found inSet
    rcases mem_sets_dispose.mp inSet with ⟨member, kept⟩
    rcases tidy.registered (get_of_get_dispose found) member with
      ⟨place, owner, isOwner, notDisposed, isMethod, isHandler⟩
    refine ⟨place, owner, isOwner, ?_, isMethod, isHandler⟩
    intro called
    rcases (OrderedSet.mem_add _ _ _).mp called with before | now
    · exact notDisposed before
    · subst now
      cases isDisposer.symm.trans isOwner
      apply kept
      have place := (tidy.live isDisposer notDisposed).1
      rw [isMethod, get_of_get_dispose found] at place
      exact ⟨Option.some.inj place, isHandler.symm⟩
  case mapped =>
    intro others another inSet
    rcases tidy.mapped (mem_sets_dispose.mp inSet).1 with ⟨other, found⟩
    exact ⟨other, stays found inSet⟩

/-- A call of a disposer that is not harmless loses a handler. -/
theorem harmless_of_dispatching (tidy : connection.Tidy) (coherent : connection.Coherent)
    {index : Nat} {disposer : Disposer}
    (isDisposer : connection.disposers[index]? = some disposer)
    (dispatching : Dispatching
      { connection.dispose disposer with disposed := connection.disposed.add index }) :
    connection.Harmless (.dispose index) := by
  have same := (dispatching_iff (coherent.dispose isDisposer)).mp dispatching
  intro found isFound
  cases isDisposer.symm.trans isFound
  have current : ∀ set, connection.notificationHandlers.get disposer.method = some set →
      set = disposer.set := by
    intro set present
    by_contra different
    -- The set was dropped, so it is empty, and the entry of the method goes.
    have dropped : ∀ handler, handler ∉ connection.sets disposer.set := by
      intro handler member
      rcases tidy.mapped member with ⟨method, mapped⟩
      have isMethod := coherent.owned isDisposer mapped
      subst isMethod
      exact different (Option.some.inj (present.symm.trans mapped))
    have empty : ((connection.sets disposer.set).delete disposer.handler).isEmpty = true := by
      apply (OrderedSet.isEmpty_iff _).mpr
      intro handler left
      exact dropped handler ((OrderedSet.mem_delete _ _ _).mp left).1
    rcases coherent.inhabited present with ⟨handler, member⟩
    rcases tidy.registered present member with
      ⟨place, owner, isOwner, notDisposed, isMethod, isHandler⟩
    have registered : Registered
        { connection.dispose disposer with disposed := connection.disposed.add index }
        disposer.method handler := by
      refine ⟨place, owner, isOwner, ?_, isMethod, isHandler⟩
      intro called
      rcases (OrderedSet.mem_add _ _ _).mp called with before | now
      · exact notDisposed before
      · subst now
        exact dropped disposer.handler (tidy.live isDisposer notDisposed).2
    rcases mem_handlersOf.mp ((same _ _).mpr registered) with ⟨others, stillFound, _⟩
    have gone : (connection.dispose disposer).notificationHandlers.get disposer.method = none := by
      rw [get_dispose, if_pos ⟨rfl, empty⟩]
    cases gone.symm.trans stillFound
  constructor
  · exact current
  · intro other another isAnother different notDisposed both
    have registered : Registered
        { connection.dispose disposer with disposed := connection.disposed.add index }
        disposer.method disposer.handler := by
      refine ⟨other, another, isAnother, ?_, both.1, both.2⟩
      intro called
      rcases (OrderedSet.mem_add _ _ _).mp called with before | now
      · exact notDisposed before
      · exact different now
    rcases mem_handlersOf.mp ((same _ _).mpr registered) with ⟨set, found, left⟩
    have isSet := current set (get_of_get_dispose found)
    exact (mem_sets_dispose.mp left).2 ⟨isSet, rfl⟩

/-! ## Runs -/

theorem Tidy.step (tidy : connection.Tidy) (coherent : connection.Coherent)
    {event : NotificationEvent} (harmless : connection.Harmless event)
    (stepped : connection.step event = some next) : next.Tidy := by
  cases event with
  | onDaemonNotification method handler =>
      cases stepped
      rcases exists_added connection method handler with ⟨set, added⟩
      exact tidy.added coherent added
  | dispose index =>
      rcases Option.map_eq_some_iff.mp stepped with ⟨disposer, isDisposer, isNext⟩
      subst isNext
      exact tidy.dispose coherent isDisposer harmless
  | opened | peerClosed =>
      cases stepped
      exact ⟨tidy.live, tidy.registered, tidy.mapped⟩
  | notification method throws =>
      rw [DaemonNotifications.step] at stepped
      split at stepped
      · cases stepped
        exact tidy
      · cases stepped

/-- As long as all is tidy, a step keeps the promise exactly when it is harmless. -/
theorem keeps_iff (tidy : connection.Tidy) (coherent : connection.Coherent)
    {event : NotificationEvent} (stepped : connection.step event = some next) :
    connection.Keeps event ↔ connection.Harmless event := by
  have dispatching : connection.Harmless event → ∀ after, connection.step event = some after →
      after.Dispatching := by
    intro harmless after isAfter
    exact (tidy.step coherent harmless isAfter).dispatching (coherent.step isAfter)
  cases event with
  | onDaemonNotification method handler =>
      exact iff_of_true ⟨dispatching trivial, nofun⟩ trivial
  | opened => exact iff_of_true ⟨dispatching trivial, nofun⟩ trivial
  | peerClosed => exact iff_of_true ⟨dispatching trivial, nofun⟩ trivial
  | dispose index =>
      constructor
      · intro keeps
        have promised := keeps.1 next stepped
        rcases Option.map_eq_some_iff.mp stepped with ⟨disposer, isDisposer, isNext⟩
        subst isNext
        exact harmless_of_dispatching tidy coherent isDisposer promised
      · intro harmless
        exact ⟨dispatching harmless, nofun⟩
  | notification method throws =>
      have live : connection.peer.isSome := by
        by_contra down
        rw [DaemonNotifications.step, if_neg down] at stepped
        cases stepped
      have same : ∀ handler, handler ∈ connection.handlersOf method ↔
          connection.Registered method handler := fun _ => tidy.same
      have each := @onceEach_received_iff _ _ throws coherent live same
      constructor
      · intro keeps
        exact each.mp (keeps.2 method throws rfl)
      · intro harmless
        refine ⟨dispatching harmless, ?_⟩
        intro other others same
        cases same
        exact each.mpr harmless

/-- A run keeps the promise exactly when all its steps are harmless. -/
theorem notifications_dispatched {events : List NotificationEvent} {finish : DaemonNotifications}
    (reached : Execution.run step {} events = some finish) :
    Execution.AllSteps step Keeps {} events ↔ Execution.AllSteps step Harmless {} events := by
  apply Execution.AllSteps.iff_of_invariant
    (fun connection => connection.Tidy ∧ connection.Coherent)
  · intro connection event next both harmless stepped
    exact ⟨both.1.step both.2 harmless stepped, both.2.step stepped⟩
  · intro connection event next both stepped
    exact keeps_iff both.1 both.2 stepped
  · exact ⟨tidy_init, coherent_init⟩
  · exact reached

/-- A disposer called again after the last handler of its method was gone and another one came:
the other one is no longer called. -/
def calledAgain : List NotificationEvent :=
  [.opened, .onDaemonNotification "approval.closed" 1, .dispose 0,
    .onDaemonNotification "approval.closed" 2, .dispose 0]

theorem notifications_lost :
    (∃ finish ∈ Execution.run step {} calledAgain, finish.peer.isSome ∧
      finish.Registered "approval.closed" 2 ∧
      finish.received (fun _ => false) "approval.closed" = []) ∧
    ¬∀ events finish, Execution.run step {} events = some finish →
      Execution.AllSteps step Keeps {} events := by
  have lost : ∃ finish ∈ Execution.run step {} calledAgain, finish.peer.isSome ∧
      finish.Registered "approval.closed" 2 ∧
      finish.received (fun _ => false) "approval.closed" = [] :=
    ⟨_, rfl, rfl, ⟨1, _, rfl, by decide, rfl, rfl⟩, rfl⟩
  constructor
  · exact lost
  · intro always
    rcases lost with ⟨finish, reached, live, registered, nothing⟩
    have keeps := (always calledAgain finish reached).2.2.2.2.1
    have each := ((keeps.1 finish reached) "approval.closed").1 live
    rw [nothing] at each
    cases (each.2 2).mpr registered

/-- A handler disposed twice while another one is still in its set. -/
def disposedTwice : List NotificationEvent :=
  [.onDaemonNotification "monitor.metrics" 1, .onDaemonNotification "monitor.metrics" 2, .opened,
    .dispose 0, .dispose 0, .notification "monitor.metrics" fun _ => true]

theorem notifications_dispatched_twice : Execution.AllSteps step Keeps {} disposedTwice := by
  have harmless : Execution.AllSteps step Harmless {} disposedTwice := by decide
  exact (@notifications_dispatched disposedTwice _ rfl).mpr harmless

end DaemonNotifications

end DshRemote.Client
