import DshRemote.Client.ConnectionInvariant

/-! # Which handles survive a reconnect

A handle is detached by its own `detach` or by a re-attach that failed. Whether a
failed re-attach was refused by the backend or cut off by the transport makes no
difference to the loop. -/

namespace DshRemote.Client

namespace TargetConnection

/-! ## What lies ahead of a loop -/

/-- A handle the loop has not taken yet, as far as the subscribers are now. -/
def Ahead (connection : TargetConnection) (outer : List (SessionId × Nat))
    (inner : List HandleId) (handle : HandleId) : Prop :=
  handle ∈ inner ∨ ∃ entry ∈ outer, handle ∈ connection.snapshotOf entry

/-- The loop's call is the first one for a handle, and asks for what comes after
the handle's cursor. -/
def Reattaches (connection : TargetConnection) (handle : HandleId) : Prop :=
  ∃ loop call current, connection.attempt = some (.reattaching loop) ∧
    loop.current = some call ∧ call.handle = handle ∧ call.fallback = false ∧
    connection.handles.get handle = some current ∧ call.base = current.reattachRequest

theorem ahead_nextCall {connection : TargetConnection} {outer : List (SessionId × Nat)}
    {inner : List HandleId} {handle : HandleId} (ahead : connection.Ahead outer inner handle) :
    (connection.nextCall outer inner).current = some (connection.callFor handle) ∨
      connection.Ahead (connection.nextCall outer inner).outer
        (connection.nextCall outer inner).inner handle := by
  induction outer generalizing inner with
  | nil =>
      cases inner with
      | nil => simp [Ahead] at ahead
      | cons first rest =>
          rcases ahead with member | ⟨entry, member, _⟩
          · rcases List.mem_cons.mp member with rfl | later
            · exact Or.inl rfl
            · exact Or.inr (Or.inl later)
          · cases member
  | cons entry outer induction =>
      cases inner with
      | nil =>
          refine induction ?_
          rcases ahead with member | ⟨found, member, inSet⟩
          · cases member
          · rcases List.mem_cons.mp member with rfl | later
            · exact Or.inl inSet
            · exact Or.inr ⟨found, later, inSet⟩
      | cons first rest =>
          rcases ahead with member | remaining
          · rcases List.mem_cons.mp member with rfl | later
            · exact Or.inl rfl
            · exact Or.inr (Or.inl later)
          · exact Or.inr (Or.inr remaining)

/-- A loop goes without a call only when it is at its end. -/
theorem spent_nextCall {connection : TargetConnection} {outer : List (SessionId × Nat)}
    {inner : List HandleId} (finishes : (connection.nextCall outer inner).current = none) :
    (connection.nextCall outer inner).outer = [] ∧
      (connection.nextCall outer inner).inner = [] := by
  induction outer generalizing inner with
  | nil =>
      cases inner with
      | nil => exact ⟨rfl, rfl⟩
      | cons first rest => cases finishes
  | cons entry outer induction =>
      cases inner with
      | nil => exact induction finishes
      | cons first rest => cases finishes

theorem state_nextCall {connection : TargetConnection} {outer : List (SessionId × Nat)}
    {inner : List HandleId} {call : ReattachCall}
    (current : (connection.nextCall outer inner).current = some call) :
    call.state = connection.peerCall := by
  induction outer generalizing inner with
  | nil =>
      cases inner with
      | nil => cases current
      | cons first rest =>
          cases current
          rfl
  | cons entry outer induction =>
      cases inner with
      | nil => exact induction current
      | cons first rest =>
          cases current
          rfl

theorem ahead_of_nextCall {connection : TargetConnection} {outer : List (SessionId × Nat)}
    {inner : List HandleId} {call : ReattachCall}
    (current : (connection.nextCall outer inner).current = some call) :
    connection.Ahead outer inner call.handle := by
  induction outer generalizing inner with
  | nil =>
      cases inner with
      | nil => cases current
      | cons first rest =>
          cases current
          exact Or.inl List.mem_cons_self
  | cons entry outer induction =>
      cases inner with
      | nil =>
          rcases induction current with member | ⟨found, member, inSet⟩
          · exact Or.inr ⟨entry, List.mem_cons_self, member⟩
          · exact Or.inr ⟨found, List.mem_cons_of_mem _ member, inSet⟩
      | cons first rest =>
          cases current
          exact Or.inl List.mem_cons_self

/-! ## Subscribers -/

theorem mem_snapshotOf (connection : TargetConnection) (entry : SessionId × Nat)
    (handle : HandleId) :
    handle ∈ connection.snapshotOf entry ↔
      ∃ set, connection.subscribers.get entry.1 = some set ∧ set.identity = entry.2 ∧
        handle ∈ set.members := by
  simp only [snapshotOf]
  cases connection.subscribers.get entry.1 with
  | none => simp
  | some set =>
      by_cases same : set.identity = entry.2 <;> simp [same]

theorem mem_membersOf (connection : TargetConnection) (sessionId : SessionId)
    (handle : HandleId) :
    handle ∈ connection.membersOf sessionId ↔
      ∃ identity, handle ∈ connection.snapshotOf (sessionId, identity) := by
  simp only [mem_snapshotOf, membersOf]
  cases connection.subscribers.get sessionId with
  | none => simp
  | some set => simp

theorem ahead_reattachAll {connection : TargetConnection} {sessionId : SessionId}
    {handle : HandleId} (registered : handle ∈ connection.membersOf sessionId) :
    connection.Ahead
      (connection.subscribers.entries.map fun entry => (entry.1, entry.2.identity)) []
      handle := by
  rcases (mem_membersOf _ _ _).mp registered with ⟨identity, member⟩
  rcases (mem_snapshotOf _ _ _).mp member with ⟨set, found, same, _⟩
  refine Or.inr ⟨(sessionId, identity), ?_, member⟩
  exact List.mem_map.mpr
    ⟨(sessionId, set), (OrderedMap.get_eq_some_iff _ _ _).mp found, Prod.ext rfl same⟩

theorem mem_snapshotOf_unsubscribe {connection : TargetConnection} (sessionId : SessionId)
    {entry : SessionId × Nat} {handle other : HandleId} (different : other ≠ handle)
    (subscribed : other ∈ connection.snapshotOf entry) :
    other ∈ (connection.unsubscribe sessionId handle).snapshotOf entry := by
  rcases (mem_snapshotOf _ _ _).mp subscribed with ⟨set, found, identity, member⟩
  rw [mem_snapshotOf]
  simp only [unsubscribe]
  cases present : connection.subscribers.get sessionId with
  | none => exact ⟨set, found, identity, member⟩
  | some own =>
      simp only
      by_cases here : entry.1 = sessionId
      · rw [here, present] at found
        cases found
        have kept : other ∈ set.members.delete handle :=
          (OrderedSet.mem_delete _ _ _).mpr ⟨member, different⟩
        have nonempty : (set.members.delete handle).isEmpty ≠ true := by
          intro empty
          exact (OrderedSet.isEmpty_iff _).mp empty other kept
        rw [if_neg nonempty, here]
        exact ⟨_, OrderedMap.get_set_self _ _ _, identity, kept⟩
      · refine ⟨set, ?_, identity, member⟩
        split
        · rw [OrderedMap.get_delete, if_neg here]
          exact found
        · rw [OrderedMap.get_set, if_neg here]
          exact found

theorem mem_snapshotOf_of_unsubscribe {connection : TargetConnection} {sessionId : SessionId}
    {entry : SessionId × Nat} {handle other : HandleId}
    (subscribed : other ∈ (connection.unsubscribe sessionId handle).snapshotOf entry) :
    other ∈ connection.snapshotOf entry := by
  rcases (mem_snapshotOf _ _ _).mp subscribed with ⟨set, found, identity, member⟩
  rw [mem_snapshotOf]
  simp only [unsubscribe] at found
  cases present : connection.subscribers.get sessionId with
  | none =>
      rw [present] at found
      exact ⟨set, found, identity, member⟩
  | some own =>
      simp only [present] at found
      by_cases here : entry.1 = sessionId
      · split at found
        · rw [OrderedMap.get_delete, if_pos here] at found
          cases found
        · rw [OrderedMap.get_set, if_pos here] at found
          cases found
          exact ⟨own, by rw [here]; exact present, identity,
            ((OrderedSet.mem_delete _ _ _).mp member).1⟩
      · refine ⟨set, ?_, identity, member⟩
        split at found
        · rw [OrderedMap.get_delete, if_neg here] at found
          exact found
        · rw [OrderedMap.get_set, if_neg here] at found
          exact found

theorem mem_snapshotOf_subscribe {connection : TargetConnection} (sessionId : SessionId)
    (mode : AttachMode) (lastSeq : Int) {entry : SessionId × Nat} {handle : HandleId}
    (subscribed : handle ∈ connection.snapshotOf entry) :
    handle ∈ (connection.subscribe sessionId mode lastSeq).snapshotOf entry := by
  rcases (mem_snapshotOf _ _ _).mp subscribed with ⟨set, found, identity, member⟩
  rw [mem_snapshotOf]
  simp only [subscribe]
  by_cases here : entry.1 = sessionId
  · rw [here] at found
    rw [found, here, OrderedMap.get_set_self]
    exact ⟨_, rfl, identity, (OrderedSet.mem_add _ _ _).mpr (Or.inl member)⟩
  · rw [OrderedMap.get_set, if_neg here]
    exact ⟨set, found, identity, member⟩

theorem mem_membersOf_subscribe (connection : TargetConnection) (sessionId : SessionId)
    (mode : AttachMode) (lastSeq : Int) :
    connection.nextHandle ∈
      (connection.subscribe sessionId mode lastSeq).membersOf sessionId := by
  simp only [membersOf, subscribe, OrderedMap.get_set_self, OrderedSet.mem_elements]
  exact (OrderedSet.mem_add _ _ _).mpr (Or.inr rfl)

theorem handles_unsubscribe (connection : TargetConnection) (sessionId : SessionId)
    (handle : HandleId) :
    (connection.unsubscribe sessionId handle).handles = connection.handles := by
  simp only [unsubscribe]
  split <;> rfl

theorem nextHandle_unsubscribe (connection : TargetConnection) (sessionId : SessionId)
    (handle : HandleId) :
    (connection.unsubscribe sessionId handle).nextHandle = connection.nextHandle := by
  simp only [unsubscribe]
  split <;> rfl

/-! ## What a step does to the handles -/

/-- The session of a handle and whether the handle is detached. -/
def registration (connection : TargetConnection) (handle : HandleId) :
    Option (SessionId × Bool) :=
  (connection.handles.get handle).map fun current => (current.sessionId, current.detached)

theorem registration_update (connection : TargetConnection) {handle : HandleId}
    {current : DaemonAgentHandle} (found : connection.handles.get handle = some current)
    (change : DaemonAgentHandle → DaemonAgentHandle) (other : HandleId) :
    (connection.update handle change).registration other =
      if other = handle then some ((change current).sessionId, (change current).detached)
      else connection.registration other := by
  simp only [registration, update, OrderedMap.get_mapValues]
  by_cases same : other = handle
  · subst same
    simp [found]
  · cases connection.handles.get other <;> simp [same]

theorem registration_update_kept (connection : TargetConnection) (handle : HandleId)
    {change : DaemonAgentHandle → DaemonAgentHandle}
    (keeps : DaemonAgentHandle.KeepsRegistration change)
    (other : HandleId) :
    (connection.update handle change).registration other = connection.registration other := by
  simp only [registration, update, OrderedMap.get_mapValues]
  cases connection.handles.get other with
  | none => rfl
  | some current =>
      have kept := keeps current
      by_cases same : other = handle <;> simp [same, kept]

theorem registration_dispatch (connection : TargetConnection) (sessionId : SessionId)
    {change : DaemonAgentHandle → DaemonAgentHandle}
    (keeps : DaemonAgentHandle.KeepsRegistration change)
    (other : HandleId) :
    (connection.dispatch sessionId change).registration other =
      connection.registration other := by
  simp only [registration, dispatch, OrderedMap.get_mapValues]
  cases connection.handles.get other with
  | none => rfl
  | some current =>
      have kept := keeps current
      by_cases member : other ∈ connection.membersOf sessionId <;> simp [member, kept]

/-- The call the loop goes on from was for this handle, and it failed. -/
def FailedCall (connection : TargetConnection) (handle : HandleId) : Prop :=
  ∃ loop call failure, connection.attempt = some (.reattaching loop) ∧
    loop.current = some call ∧ call.handle = handle ∧ call.state = .failed failure

/-- A step keeps every handle's registration, subscribes a new handle, or detaches
exactly one. -/
inductive HandlesMove (before : TargetConnection) (event : ConnectionEvent)
    (after : TargetConnection) : Prop
  | kept (registration : ∀ handle, after.registration handle = before.registration handle)
      (subscribers : event = .closeFinished ∨ after.subscribers = before.subscribers)
      (nextHandle : after.nextHandle = before.nextHandle)
  | subscribed (sessionId : SessionId) (mode : AttachMode) (lastSeq : Int)
      (reason : event = .subscribe sessionId mode lastSeq)
      (subscribed : after = before.subscribe sessionId mode lastSeq)
  | detached (handle : HandleId) (sessionId : SessionId)
      (reason : event = .detach handle ∨ event = .reattachResumed ∧ before.FailedCall handle ∨
        ∃ code, event = .reattachThrew code)
      (was : before.registration handle = some (sessionId, false))
      (registration : ∀ other, after.registration other =
        if other = handle then some (sessionId, true) else before.registration other)
      (subscribers : after.subscribers = (before.unsubscribe sessionId handle).subscribers)
      (nextHandle : after.nextHandle = before.nextHandle)

theorem HandlesMove.of_same {before after : TargetConnection} {event : ConnectionEvent}
    (handles : after.handles = before.handles)
    (subscribers : after.subscribers = before.subscribers)
    (nextHandle : after.nextHandle = before.nextHandle) : HandlesMove before event after :=
  .kept (fun handle => by simp only [registration, handles]) (Or.inr subscribers) nextHandle

theorem HandlesMove.tearDown {before after : TargetConnection} {event : ConnectionEvent}
    {handle : HandleId} {current : DaemonAgentHandle}
    {change : DaemonAgentHandle → DaemonAgentHandle}
    (found : before.handles.get handle = some current) (live : current.detached = false)
    (torn : after = { (before.update handle change).unsubscribe current.sessionId handle with
      attempt := after.attempt })
    (session : (change current).sessionId = current.sessionId)
    (detached : (change current).detached = true)
    (reason : event = .detach handle ∨ event = .reattachResumed ∧ before.FailedCall handle ∨
      ∃ code, event = .reattachThrew code) : HandlesMove before event after := by
  have handles : after.handles = (before.update handle change).handles := by
    rw [torn]
    exact handles_unsubscribe _ _ _
  refine .detached handle current.sessionId reason ?_ ?_ ?_ ?_
  · simp only [registration, found, Option.map_some, live]
  · intro other
    have updated := before.registration_update found change other
    rw [session, detached] at updated
    rw [← updated]
    simp only [registration, handles]
  · rw [torn]
    simp only [unsubscribe, update]
    split <;> rfl
  · rw [torn]
    exact nextHandle_unsubscribe _ _ _

theorem sameHandles_scheduleReconnect (connection : TargetConnection) :
    connection.scheduleReconnect.handles = connection.handles ∧
      connection.scheduleReconnect.subscribers = connection.subscribers ∧
      connection.scheduleReconnect.nextHandle = connection.nextHandle := by
  simp only [scheduleReconnect]
  split
  · exact ⟨rfl, rfl, rfl⟩
  · split
    · split <;> exact ⟨rfl, rfl, rfl⟩
    · exact ⟨rfl, rfl, rfl⟩

theorem handlesMove_detach (connection : TargetConnection) (handle : HandleId) :
    HandlesMove connection (.detach handle) (connection.detach handle) := by
  simp only [detach]
  split
  · exact .of_same rfl rfl rfl
  · next current found =>
      split
      · exact .of_same rfl rfl rfl
      · next live =>
          exact .tearDown found (by simpa using live) rfl rfl rfl (Or.inl rfl)

theorem handlesMove_resumeReattach {connection : TargetConnection} {event : ConnectionEvent}
    {outer : List (SessionId × Nat)} {inner : List HandleId} {was call : ReattachCall}
    (running : connection.attempt = some (.reattaching ⟨outer, inner, some was⟩))
    (outcome : Outcome was event call) :
    HandlesMove connection event
      (connection.resumeReattach ⟨outer, inner, some call⟩ call) := by
  simp only [resumeReattach]
  split
  · exact .of_same rfl rfl rfl
  · split
    · exact .kept (connection.registration_update_kept call.handle
        (DaemonAgentHandle.keepsRegistration_handleControl connection.clientId none .disconnected))
        (Or.inr rfl) rfl
    · exact .of_same rfl rfl rfl
  · next failure failed =>
      split
      · exact .of_same rfl rfl rfl
      · simp only [onReattachFailed]
        split
        · exact .of_same rfl rfl rfl
        · next handle found =>
            split
            · exact .of_same rfl rfl rfl
            · next live =>
                refine .tearDown found (by simpa using live) rfl
                  handle.sessionId_onReattachFailed handle.detached_onReattachFailed (Or.inr ?_)
                cases outcome with
                | settled => exact Or.inl ⟨rfl, _, _, failure, running, rfl, rfl, failed⟩
                | threw code => exact Or.inr ⟨code, rfl⟩

/-- Every step moves the handles in one of these ways. -/
theorem handlesMove_step {connection next : TargetConnection} {event : ConnectionEvent}
    (stepped : connection.step event = some next) : HandlesMove connection event next := by
  cases stepped_of_step stepped with
  | ensureConnected =>
      simp only [ensureConnected]
      split
      · exact .of_same rfl rfl rfl
      · split <;> exact .of_same rfl rfl rfl
  | timerFired =>
      simp only [timerFired]
      split <;> exact .of_same rfl rfl rfl
  | close =>
      simp only [close]
      split <;> exact .of_same rfl rfl rfl
  | closeFinished => exact .kept (fun _ => rfl) (Or.inl rfl) rfl
  | installed =>
      simp only [install]
      split <;> exact .of_same rfl rfl rfl
  | reattachResumed running _ outcome => exact handlesMove_resumeReattach running outcome
  | attemptSettled =>
      simp only [attemptSettled]
      split
      · exact .of_same rfl rfl rfl
      · rcases sameHandles_scheduleReconnect _ with ⟨handles, subscribers, nextHandle⟩
        exact .of_same handles subscribers nextHandle
  | peerClosed =>
      simp only [onPeerClosed]
      split
      · exact .of_same rfl rfl rfl
      · rcases sameHandles_scheduleReconnect _ with ⟨handles, subscribers, nextHandle⟩
        exact .of_same handles subscribers nextHandle
  | subscribe sessionId mode lastSeq => exact .subscribed sessionId mode lastSeq rfl rfl
  | detach handle => exact handlesMove_detach connection handle
  | sessionEvent sessionId event =>
      exact .kept (connection.registration_dispatch sessionId
        (DaemonAgentHandle.keepsRegistration_handleEvent event)) (Or.inr rfl) rfl
  | controlChanged sessionId holder reason =>
      exact .kept (connection.registration_dispatch sessionId
        (DaemonAgentHandle.keepsRegistration_handleControl connection.clientId holder reason))
        (Or.inr rfl) rfl
  | _ => exact .of_same rfl rfl rfl

/-! ## Registered handles -/

/-- Every handle that is not detached is among the subscribers of its session, and
no handle has the next identity. -/
structure Registered (connection : TargetConnection) : Prop where
  member : ∀ handle sessionId, connection.registration handle = some (sessionId, false) →
    handle ∈ connection.membersOf sessionId
  fresh : ∀ handle, connection.registration handle ≠ none → handle < connection.nextHandle

theorem snapshotOf_congr {left right : TargetConnection}
    (same : left.subscribers = right.subscribers) (entry : SessionId × Nat) :
    left.snapshotOf entry = right.snapshotOf entry := by
  simp only [snapshotOf, same]

theorem registration_subscribe (connection : TargetConnection) (sessionId : SessionId)
    (mode : AttachMode) (lastSeq : Int) (other : HandleId) :
    (connection.subscribe sessionId mode lastSeq).registration other =
      if other = connection.nextHandle then some (sessionId, false)
      else connection.registration other := by
  simp only [registration, subscribe, OrderedMap.get_set]
  split <;> rfl

theorem mem_snapshotOf_step {before after : TargetConnection} {event : ConnectionEvent}
    (moved : HandlesMove before event after) (notCleared : event ≠ .closeFinished)
    {handle : HandleId} {entry : SessionId × Nat} {sessionId : SessionId}
    (live : after.registration handle = some (sessionId, false))
    (member : handle ∈ before.snapshotOf entry) : handle ∈ after.snapshotOf entry := by
  cases moved with
  | kept _ subscribers _ =>
      rcases subscribers with cleared | same
      · exact absurd cleared notCleared
      · rwa [snapshotOf_congr same]
  | subscribed sessionId mode lastSeq _ subscribed =>
      rw [subscribed]
      exact mem_snapshotOf_subscribe sessionId mode lastSeq member
  | detached torn tornSession reason was registration subscribers nextHandle =>
      rw [snapshotOf_congr subscribers]
      refine mem_snapshotOf_unsubscribe _ ?_ member
      rintro rfl
      rw [registration, if_pos rfl] at live
      cases live

/-- A handle that is not detached after a step was not before, if it was there. -/
theorem live_before {before after : TargetConnection} {event : ConnectionEvent}
    (moved : HandlesMove before event after) {handle : HandleId} {sessionId : SessionId}
    (live : after.registration handle = some (sessionId, false))
    (known : handle < before.nextHandle) :
    before.registration handle = some (sessionId, false) := by
  cases moved with
  | kept registration _ _ => rwa [registration] at live
  | subscribed _ mode lastSeq _ subscribed =>
      rw [subscribed, registration_subscribe, if_neg (Nat.ne_of_lt known)] at live
      exact live
  | detached torn tornSession reason was registration subscribers nextHandle =>
      rw [registration] at live
      split at live
      · cases live
      · exact live

theorem Registered.step {connection next : TargetConnection} (registered : connection.Registered)
    {event : ConnectionEvent} (stepped : connection.step event = some next)
    (notCleared : event ≠ .closeFinished) : next.Registered := by
  have moved := handlesMove_step stepped
  constructor
  · intro handle sessionId live
    rcases Nat.lt_or_ge handle connection.nextHandle with known | new
    · have before := registered.member handle sessionId (live_before moved live known)
      rcases (mem_membersOf _ _ _).mp before with ⟨identity, member⟩
      exact (mem_membersOf _ _ _).mpr
        ⟨identity, mem_snapshotOf_step moved notCleared live member⟩
    · have absent : connection.registration handle = none := by
        by_contra present
        exact Nat.not_lt.mpr new (registered.fresh handle present)
      cases moved with
      | kept registration _ _ =>
          rw [registration, absent] at live
          cases live
      | subscribed own mode lastSeq _ subscribed =>
          rw [subscribed, registration_subscribe] at live
          split at live
          · next same =>
              cases live
              rw [subscribed, same]
              exact mem_membersOf_subscribe _ _ _ _
          · rw [absent] at live
            cases live
      | detached torn _ _ was registration _ _ =>
          rw [registration] at live
          split at live
          · cases live
          · rw [absent] at live
            cases live
  · intro handle present
    cases moved with
    | kept registration _ nextHandle =>
        rw [nextHandle]
        exact registered.fresh handle (by rwa [registration] at present)
    | subscribed own mode lastSeq _ subscribed =>
        rw [subscribed, registration_subscribe] at present
        rw [subscribed]
        split at present
        · next same =>
            rw [same]
            exact Nat.lt_succ_self _
        · exact Nat.lt_succ_of_lt (registered.fresh handle present)
    | detached torn _ _ was registration _ nextHandle =>
        rw [nextHandle]
        refine registered.fresh handle ?_
        rw [registration] at present
        split at present
        · next same =>
            rw [same, was]
            exact Option.some_ne_none _
        · exact present

theorem registered_init (config : TargetConnectionConfig) : (init config).Registered := by
  refine ⟨fun handle sessionId live => ?_, fun handle present => absurd rfl present⟩
  cases live

end TargetConnection

end DshRemote.Client
