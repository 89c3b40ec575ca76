import DshRemote.RemoteSsh.HubRelease

/-! # The order of the lifecycle events

`disconnect` sets the status first and announces the change behind the `close()` it awaits,
`establish` and the callback announce theirs at once. What one target's listeners see is
therefore an account of its own: the status, what was announced, and what is still owed. -/

namespace DshRemote.RemoteSsh

/-! ## The account of one target -/

/-- The connection is up, or was lost and not yet given up. -/
def ConnectionStatus.active (status : ConnectionStatus) : Bool :=
  status = .connected || status = .degraded

/-- The event that announces a change of the status. -/
def announcement : ConnectionStatus → ConnectionStatus → List LifecycleEvent
  | .connected, .connected => []
  | _, .connected => [.connected]
  | .connected, .degraded => [.degraded]
  | .connected, .disconnected | .degraded, .disconnected => [.disconnected]
  | _, _ => []

@[ext] structure LifecycleAccount where
  status : ConnectionStatus
  /-- What was emitted, with the status at that time. -/
  emitted : List (LifecycleEvent × ConnectionStatus)
  /-- How many calls of `disconnect` will still announce that the target went down. -/
  owed : Nat

namespace LifecycleAccount

def events (account : LifecycleAccount) : List LifecycleEvent := account.emitted.map Prod.fst

def turn (account : LifecycleAccount) (status : ConnectionStatus) : LifecycleAccount :=
  { account with status := status }

def announce (account : LifecycleAccount) (event : LifecycleEvent) : LifecycleAccount :=
  { account with emitted := account.emitted ++ [(event, account.status)] }

def owe (account : LifecycleAccount) : LifecycleAccount :=
  { account with owed := account.owed + 1 }

/-- What one stretch of code does to the account. -/
inductive Moves (before : LifecycleAccount) : LifecycleAccount → Prop
  | rests : Moves before before
  /-- The connection is not up, or an attempt begins after a loss. -/
  | turns (status : ConnectionStatus) (inactive : status.active = false)
      (unheard : announcement before.status status = []) : Moves before (before.turn status)
  | connects (down : before.status ≠ .connected) (paid : before.owed = 0) :
      Moves before ((before.turn .connected).announce .connected)
  | drops (up : before.status = .connected) :
      Moves before ((before.turn .degraded).announce .degraded)
  | takes (active : before.status.active = true) : Moves before (before.turn .disconnected).owe
  | ends (active : before.status.active = true) :
      Moves before ((before.turn .disconnected).announce .disconnected)
  | pays (after : LifecycleAccount) (owes : before = after.owe) :
      Moves before (after.announce .disconnected)

/-- The status changes are announced in order, but for what is still owed; while something is
owed, no newer connection is up. -/
structure Orderly (changes : List LifecycleEvent) (account : LifecycleAccount) : Prop where
  announced : changes = account.events ++ List.replicate account.owed .disconnected
  down : account.owed ≠ 0 → account.status.active = false
  timely : ∀ emission ∈ account.emitted,
    emission.1 = .connected ↔ emission.2 = .connected

theorem Orderly.moves {changes : List LifecycleEvent} {before after : LifecycleAccount}
    (orderly : Orderly changes before) (moves : before.Moves after) :
    Orderly (changes ++ announcement before.status after.status) after := by
  have idle : before.status.active = true → before.owed = 0 := by
    intro active
    by_contra owes
    rw [orderly.down owes] at active
    cases active
  have appended : ∀ {emission : LifecycleEvent × ConnectionStatus},
      (emission.1 = .connected ↔ emission.2 = .connected) →
        ∀ other ∈ before.emitted ++ [emission], other.1 = .connected ↔ other.2 = .connected := by
    intro emission timely other member
    rcases List.mem_append.mp member with old | isNew
    · exact orderly.timely other old
    · rw [List.mem_singleton.mp isNew]
      exact timely
  have announced : before.owed = 0 → changes = before.events := by
    intro nothing
    have account := orderly.announced
    rw [nothing, List.replicate_zero, List.append_nil] at account
    exact account
  have goesDown : before.status.active = true →
      announcement before.status .disconnected = [.disconnected] := by
    intro active
    cases same : before.status with
    | connected | degraded => rfl
    | disconnected | connecting =>
        rw [same] at active
        cases active
  cases moves with
  | rests =>
      have silent : announcement before.status before.status = [] := by
        cases before.status <;> rfl
      rw [silent, List.append_nil]
      exact orderly
  | turns status inactive unheard =>
      refine ⟨?_, fun _ => inactive, orderly.timely⟩
      simp only [turn, unheard, List.append_nil]
      exact orderly.announced
  | connects down nothing =>
      have announces : announcement before.status .connected = [.connected] := by
        cases same : before.status with
        | connected => exact absurd same down
        | disconnected | connecting | degraded => rfl
      refine ⟨?_, fun owes => absurd nothing owes, appended (iff_of_true rfl rfl)⟩
      simp [turn, announce, announces, announced nothing, events, nothing]
  | drops up =>
      have nothing := idle (by rw [up]; rfl)
      refine ⟨?_, fun owes => absurd nothing owes, appended (iff_of_false nofun nofun)⟩
      simp [turn, announce, announcement, up, announced nothing, events, nothing]
  | takes active =>
      have nothing := idle active
      refine ⟨?_, fun _ => rfl, orderly.timely⟩
      simp [turn, owe, goesDown active, announced nothing, events, nothing]
  | ends active =>
      have nothing := idle active
      refine ⟨?_, fun _ => rfl, appended (iff_of_false nofun nofun)⟩
      simp [turn, announce, goesDown active, announced nothing, events, nothing]
  | pays after owes =>
      subst owes
      have silent : announcement after.status after.status = [] := by
        cases after.status <;> rfl
      have inactive : after.status.active = false := orderly.down (Nat.succ_ne_zero after.owed)
      have notConnected : after.status ≠ .connected := by
        intro up
        rw [up] at inactive
        cases inactive
      refine ⟨?_, fun _ => inactive, appended (iff_of_false nofun notConnected)⟩
      have account := orderly.announced
      simp only [owe, List.replicate_succ] at account
      simp [owe, announce, silent, account, events]

end LifecycleAccount

/-- A call of `connect` or `disconnect`, a drop, or what follows from them. -/
def HubEvent.connects : HubEvent → Bool
  | .removeTarget _ | .dispose => false
  | _ => true

namespace SshRemoteHub

/-- The wait will end in an announcement that the target went down. -/
def owes (hub : SshRemoteHub) (id : TargetId) (task : HubTask) : Bool :=
  match task with
  | .awaitingClose _ _ true _ => hub.targetOf task = some id
  | _ => false

/-- What the hub shows the listeners of a target. -/
def account (hub : SshRemoteHub) (id : TargetId) : LifecycleAccount where
  status := hub.status id
  emitted := (hub.emitted.filter fun emission => emission.target = id).map fun emission =>
    (emission.event, emission.status)
  owed := hub.tasks.countP (hub.owes id)

/-- The changes of a target's status in a step, as they are to be announced. -/
def changes (id : TargetId) (hub : SshRemoteHub) (event : HubEvent) : List LifecycleEvent :=
  match hub.step event with
  | some next => announcement (hub.status id) (next.status id)
  | none => []

/-- A connection is recorded while a `disconnect` still awaits the `close()` of one that was
active. -/
def recordsWhileClosing (hub : SshRemoteHub) : HubEvent → Bool
  | .recorded entry => hub.tasks.any fun task => match task with
      | .awaitingClose other _ true _ => other = entry
      | _ => false
  | _ => false

/-! ## Entries that stay registered -/

structure Steady (hub : SshRemoteHub) : Prop where
  registered : ∀ {id : TargetId} {entry : EntryId}, hub.registered.get id = some entry →
    ∃ object, hub.entries[entry]? = some object ∧ object.id = id
  entries : ∀ {entry : EntryId} {object : TargetEntry}, hub.entries[entry]? = some object →
    hub.registered.get object.id = some entry
  attempting : ∀ {entry : EntryId} {object : TargetEntry} {attempt : Attempt},
    hub.entries[entry]? = some object → object.connecting = some attempt →
      object.status.active = false
  tasks : ∀ task ∈ hub.tasks, task.caller = .user ∧ (hub.targetOf task).isSome

theorem ids_modifyEntry (hub : SshRemoteHub) (entry : EntryId)
    {change : TargetEntry → TargetEntry} (id : ∀ object, (change object).id = object.id)
    (other : EntryId) : ((hub.modifyEntry entry change).entries[other]?).map TargetEntry.id =
      (hub.entries[other]?).map TargetEntry.id := by
  rw [getElem?_modifyEntry]
  split
  · cases hub.entries[other]? with
    | none => rfl
    | some object => exact congrArg some (id object)
  · rfl

namespace Steady

variable {hub next : SshRemoteHub}

theorem empty : Steady {} where
  registered := nofun
  entries := nofun
  attempting := nofun
  tasks := nofun

theorem withTasks (steady : hub.Steady) {tasks : List HubTask}
    (each : ∀ task ∈ tasks, task.caller = .user ∧ (hub.targetOf task).isSome) :
    Steady { hub with tasks := tasks } :=
  ⟨steady.registered, steady.entries, steady.attempting, each⟩

theorem modifyEntry (steady : hub.Steady) (entry : EntryId) {change : TargetEntry → TargetEntry}
    (id : ∀ object, (change object).id = object.id)
    (attempting : ∀ object attempt, hub.entries[entry]? = some object →
      (change object).connecting = some attempt → (change object).status.active = false) :
    (hub.modifyEntry entry change).Steady := by
  have ids := ids_modifyEntry hub entry id
  constructor
  · intro target other isRegistered
    rcases steady.registered isRegistered with ⟨object, found, own⟩
    have same := ids other
    rw [found, Option.map_some, own] at same
    exact Option.map_eq_some_iff.mp same
  · intro other object found
    have same := ids other
    rw [found, Option.map_some] at same
    rcases Option.map_eq_some_iff.mp same.symm with ⟨before, isBefore, own⟩
    rw [← own]
    exact steady.entries isBefore
  · intro other object attempt found isAttempt
    rcases of_modifyEntry found with ⟨rfl, before, isBefore, rfl⟩ | ⟨_, isOther⟩
    · exact attempting before attempt isBefore isAttempt
    · exact steady.attempting isOther isAttempt
  · intro task pending
    rw [targetOf_congr ids]
    exact steady.tasks task pending

theorem modifyTransport (steady : hub.Steady) (transport : TransportId)
    (change : SshTransport → SshTransport) : (hub.modifyTransport transport change).Steady :=
  ⟨steady.registered, steady.entries, steady.attempting, steady.tasks⟩

theorem emit (steady : hub.Steady) (event : LifecycleEvent) (target : TargetId) :
    (hub.emit event target).Steady :=
  ⟨steady.registered, steady.entries, steady.attempting, steady.tasks⟩

theorem tearDown (steady : hub.Steady) (entry : EntryId) :
    (hub.tearDown entry .user).Steady := by
  unfold SshRemoteHub.tearDown
  split
  · exact steady
  · next object found =>
      have cleared : (hub.modifyEntry entry fun object => { object with
          transport := none, runtimeRoot := none, status := .disconnected }).Steady :=
        steady.modifyEntry entry (fun _ => rfl) fun _ _ _ _ => rfl
      split
      · next transport current =>
          refine (cleared.modifyTransport transport _).withTasks fun task pending => ?_
          rcases List.mem_cons.mp pending with rfl | old
          · refine ⟨rfl, ?_⟩
            simp only [targetOf, SshRemoteHub.modifyTransport]
            rw [getElem?_modifyEntry, if_pos rfl, found]
            rfl
          · exact cleared.tasks task old
      · dsimp only
        split
        · exact cleared.emit _ _
        · exact cleared

theorem disconnect (steady : hub.Steady) (id : TargetId) : (hub.disconnect id .user).Steady := by
  unfold SshRemoteHub.disconnect
  split
  · exact steady
  · next entry isEntry =>
      split
      · next attempt isAttempt =>
          refine steady.withTasks fun task pending => ?_
          rcases List.mem_cons.mp pending with rfl | old
          · rcases steady.registered isEntry with ⟨object, found, _⟩
            exact ⟨rfl, by simp [targetOf, found]⟩
          · exact steady.tasks task old
      · exact steady.tearDown entry

theorem connect (steady : hub.Steady) (id : TargetId) : (hub.connect id).Steady := by
  rcases connect_cases hub id with same | ⟨entry, object, _, _, _, _, begun⟩
  · rw [same]
    exact steady
  · rw [begun]
    have counted : Steady { hub with attempts := hub.attempts + 1 } :=
      ⟨steady.registered, steady.entries, steady.attempting, steady.tasks⟩
    exact counted.modifyEntry entry (fun _ => rfl) fun _ _ _ _ => rfl

theorem setPhase (steady : hub.Steady) {entry : EntryId} {object : TargetEntry}
    {attempt : Attempt} (found : hub.entries[entry]? = some object)
    (isAttempt : object.connecting = some attempt) (phase : AttemptPhase) :
    (hub.setPhase entry attempt phase).Steady := by
  refine steady.modifyEntry entry (fun _ => rfl) fun other another isOther _ => ?_
  cases found.symm.trans isOther
  have inactive := steady.attempting found isAttempt
  exact inactive

theorem failAttempt (steady : hub.Steady) (entry : EntryId) (attempt : Attempt)
    (transport : Option TransportId) : (hub.failAttempt entry attempt transport).Steady := by
  have failing : (hub.modifyEntry entry fun object => { object with
      status := .disconnected
      connecting := some { attempt with phase := .failing transport } }).Steady :=
    steady.modifyEntry entry (fun _ => rfl) fun _ _ _ _ => rfl
  cases transport with
  | none => exact failing
  | some transport => exact failing.modifyTransport transport _

/-- The callback is set only while no attempt is under way. -/
theorem clientClosed (steady : hub.Steady) (owned : hub.Owned) {transport : TransportId}
    {object : SshTransport} (found : hub.transports[transport]? = some object)
    (before : object.closeEmitted = false) : (hub.clientClosed transport object).Steady := by
  have closed : (hub.modifyTransport transport fun object =>
      { object with closeEmitted := true }).Steady := steady.modifyTransport transport _
  unfold SshRemoteHub.clientClosed
  dsimp only
  split
  · exact closed
  · split
    · exact closed
    · next holder isHolder =>
        split
        · exact closed
        · next current =>
            rw [ne_eq, not_not] at current
            refine Steady.emit (closed.modifyEntry object.entry ?_ ?_) _ _
            · exact fun _ => rfl
            · intro other attempt isOther isAttempt
              cases isHolder.symm.trans isOther
              rcases owned.current isHolder current with ⟨opened, isOpened, _, _, _, lost⟩
              cases found.symm.trans isOpened
              rw [lost (owned.inactive isHolder isAttempt)] at before
              cases before

theorem step (steady : hub.Steady) (owned : hub.Owned) {event : HubEvent}
    (connects : event.connects = true) (stepped : hub.step event = some next) : next.Steady := by
  have fewer : ∀ task, Steady { hub with tasks := hub.tasks.erase task } := fun _ =>
    steady.withTasks fun task member => steady.tasks task (List.mem_of_mem_erase member)
  cases stepped_of_step stepped with
  | @addTarget id absent =>
      have free := OrderedMap.get_of_has_eq_false absent
      constructor
      · intro other entry isRegistered
        rcases OrderedMap.of_get_set isRegistered with ⟨same, rfl⟩ | ⟨_, isRegistered⟩
        · exact ⟨_, List.getElem?_concat_length .., same.symm⟩
        · rcases steady.registered isRegistered with ⟨object, found, own⟩
          exact ⟨object, (List.getElem?_append_left
            (List.getElem?_eq_some_iff.mp found).1).trans found, own⟩
      · intro entry object found
        rcases of_getElem?_concat found with old | ⟨rfl, rfl⟩
        · have isRegistered := steady.entries old
          rw [OrderedMap.get_set, if_neg ?_, isRegistered]
          intro same
          rw [same, free] at isRegistered
          cases isRegistered
        · exact OrderedMap.get_set_self _ _ _
      · intro entry object attempt found isAttempt
        rcases of_getElem?_concat found with old | ⟨_, rfl⟩
        · exact steady.attempting old isAttempt
        · cases isAttempt
      · intro task pending
        rcases steady.tasks task pending with ⟨byUser, known⟩
        exact ⟨byUser, by rw [targetOf_addTarget _ known]; exact known⟩
  | removeTarget isRegistered => cases connects
  | removeUnknown id => cases connects
  | connect id => exact steady.connect id
  | disconnect id => exact steady.disconnect id
  | dispose => cases connects
  | @opened entry object attempt found isAttempt opening =>
      have opened : Steady { hub with transports :=
          hub.transports ++ [{ entry := entry, born := attempt.born }] } :=
        ⟨steady.registered, steady.entries, steady.attempting, steady.tasks⟩
      exact opened.setPhase found isAttempt _
  | openFailed found isAttempt opening => exact steady.failAttempt _ _ _
  | rootMade found isAttempt phase => exact steady.setPhase found isAttempt _
  | rootFailed found isAttempt phase => exact steady.failAttempt _ _ _
  | recorded found isAttempt phase =>
      refine Steady.emit (Steady.modifyTransport (steady.modifyEntry _ ?_ ?_) _ _) _ _
      · exact fun _ => rfl
      · intro other attempt _ isAttempt
        cases isAttempt
  | gaveUp found isAttempt phase =>
      refine steady.modifyEntry _ (fun _ => rfl) fun other attempt _ isAttempt => ?_
      cases isAttempt
  | attemptAwaited pending finished =>
      have byUser := (steady.tasks _ pending).1
      subst byUser
      exact (fewer _).tearDown _
  | closeAwaited pending found isNext =>
      have byUser := (steady.tasks _ pending).1
      subst byUser isNext
      split
      · exact (fewer _).emit _ _
      · exact fewer _
  | removalAwaited pending => cases (steady.tasks _ pending).1
  | disconnectAwaited pending kept => exact fewer _
  | clientClosed found before => exact steady.clientClosed owned found before

end Steady

/-! ## The account after each stretch of code -/

section Account

variable {hub next : SshRemoteHub}

theorem status_of_get {id : TargetId} {entry : EntryId} {object : TargetEntry}
    (isEntry : hub.registered.get id = some entry)
    (found : hub.entries[entry]? = some object) : hub.status id = object.status := by
  simp [status, entryOf, isEntry, found]

theorem owes_congr (ids : ∀ entry : EntryId,
    (next.entries[entry]?).map TargetEntry.id = (hub.entries[entry]?).map TargetEntry.id)
    (id : TargetId) : next.owes id = hub.owes id := by
  funext task
  unfold owes
  rw [targetOf_congr ids]

theorem account_modifyEntry (steady : hub.Steady) {entry : EntryId} {object : TargetEntry}
    (found : hub.entries[entry]? = some object) {change : TargetEntry → TargetEntry}
    (same : ∀ object, (change object).id = object.id) (id : TargetId) :
    (hub.modifyEntry entry change).account id =
      if object.id = id then (hub.account id).turn (change object).status
      else hub.account id := by
  have owed : (hub.modifyEntry entry change).owes id = hub.owes id :=
    owes_congr (ids_modifyEntry hub entry same) id
  have isChanged : (hub.modifyEntry entry change).entries[entry]? = some (change object) := by
    rw [getElem?_modifyEntry, if_pos rfl, found]
    rfl
  split
  · next own =>
      subst own
      ext1
      · exact @status_of_get (hub.modifyEntry entry change) _ _ _ (steady.entries found) isChanged
      · rfl
      · exact congrArg (fun owes => hub.tasks.countP owes) owed
  · next other =>
      ext1
      · have elsewhere : (hub.modifyEntry entry change).entryOf id = hub.entryOf id := by
          simp only [entryOf]
          cases isEntry : hub.registered.get id with
          | none => simp [modifyEntry, isEntry]
          | some place =>
              rcases steady.registered isEntry with ⟨holder, isHolder, own⟩
              have different : entry ≠ place := by
                rintro rfl
                cases found.symm.trans isHolder
                exact other own
              have kept := getElem?_modifyEntry hub entry place change
              rw [if_neg different] at kept
              simp only [modifyEntry] at kept ⊢
              rw [isEntry, Option.bind_some, Option.bind_some, kept]
        exact congrArg (fun object => (Option.map TargetEntry.status object).getD .disconnected)
          elsewhere
      · rfl
      · exact congrArg (fun owes => hub.tasks.countP owes) owed

theorem account_emit (hub : SshRemoteHub) (event : LifecycleEvent) (target id : TargetId) :
    (hub.emit event target).account id =
      if target = id then (hub.account id).announce event else hub.account id := by
  split
  · next same =>
      subst same
      ext1
      · rfl
      · simp [account, emit, LifecycleAccount.announce]
      · rfl
  · next different =>
      ext1
      · rfl
      · simp [account, emit, different]
      · rfl

theorem account_settleDisconnect (hub : SshRemoteHub) (target : TargetId)
    (caller : DisconnectCaller) (id : TargetId) :
    (hub.settleDisconnect target caller).account id = hub.account id := by
  cases caller <;> rfl

theorem account_await (hub : SshRemoteHub) (task : HubTask) (id : TargetId) :
    (hub.await task).account id =
      if hub.owes id task then (hub.account id).owe else hub.account id := by
  have owed : ((hub.await task).account id).owed =
      (hub.account id).owed + if hub.owes id task then 1 else 0 := List.countP_cons
  split
  · next owes =>
      rw [if_pos owes] at owed
      exact LifecycleAccount.ext rfl rfl owed
  · next pays =>
      rw [if_neg pays] at owed
      exact LifecycleAccount.ext rfl rfl owed

theorem owes_awaitingClose {entry : EntryId} {object : TargetEntry}
    (found : hub.entries[entry]? = some object) (id : TargetId) (transport : TransportId)
    (wasActive : Bool) (caller : DisconnectCaller) :
    hub.owes id (.awaitingClose entry transport wasActive caller) =
      (wasActive && decide (object.id = id)) := by
  cases wasActive with
  | false => rfl
  | true => simp [owes, targetOf, found]

theorem owes_close (hub : SshRemoteHub) (transport : TransportId) (id : TargetId) :
    (hub.close transport).owes id = hub.owes id := rfl

theorem account_close (hub : SshRemoteHub) (transport : TransportId) (id : TargetId) :
    (hub.close transport).account id = hub.account id := rfl

/-- `disconnect` takes the connection, and announces it when nothing is to be closed. -/
theorem tearDown_moves (steady : hub.Steady) (entry : EntryId) (caller : DisconnectCaller)
    (id : TargetId) : (hub.account id).Moves ((hub.tearDown entry caller).account id) := by
  unfold SshRemoteHub.tearDown
  split
  · exact .rests
  · next object found =>
      have cleared := @account_modifyEntry hub steady entry object found (fun object =>
        { object with transport := none, runtimeRoot := none, status := .disconnected })
        (fun _ => rfl) id
      have isCleared := getElem?_modifyEntry hub entry entry fun object =>
        { object with transport := none, runtimeRoot := none, status := .disconnected }
      rw [if_pos rfl, found, Option.map_some] at isCleared
      by_cases own : object.id = id
      · rw [if_pos own] at cleared
        have status : (hub.account id).status = object.status :=
          status_of_get (own ▸ steady.entries found) found
        have active : (object.status = .connected || object.status = .degraded) =
            (hub.account id).status.active := by rw [status]; rfl
        -- The status changes silently when the connection was not active.
        have silent : (hub.account id).status.active = false →
            (hub.account id).Moves ((hub.account id).turn .disconnected) := by
          intro inactive
          refine .turns _ rfl ?_
          revert inactive
          cases (hub.account id).status <;> simp [ConnectionStatus.active, announcement]
        split
        · next transport current =>
            dsimp only
            rw [account_await, owes_close, owes_awaitingClose isCleared, account_close, cleared,
              active]
            simp only [own, decide_true, Bool.and_true]
            split
            · next wasActive => exact .takes wasActive
            · next inactive => exact silent (Bool.not_eq_true _ ▸ inactive)
        · dsimp only
          rw [account_settleDisconnect, active]
          split
          · next wasActive =>
              rw [account_emit, if_pos own, cleared]
              exact .ends wasActive
          · next inactive =>
              rw [cleared]
              exact silent (Bool.not_eq_true _ ▸ inactive)
      · rw [if_neg own] at cleared
        split
        · next transport current =>
            dsimp only
            rw [account_await, owes_close, owes_awaitingClose isCleared, account_close, cleared]
            simp only [own, decide_false, Bool.and_false]
            exact .rests
        · dsimp only
          rw [account_settleDisconnect]
          split
          · rw [account_emit, if_neg own, cleared]
            exact .rests
          · rw [cleared]
            exact .rests

theorem disconnect_moves (steady : hub.Steady) (id : TargetId) (caller : DisconnectCaller)
    (other : TargetId) :
    (hub.account other).Moves ((hub.disconnect id caller).account other) := by
  unfold SshRemoteHub.disconnect
  split
  · rw [account_settleDisconnect]
    exact .rests
  · split
    · exact .rests
    · exact tearDown_moves steady _ _ _

theorem account_modifyEntry_same (steady : hub.Steady) {entry : EntryId} {object : TargetEntry}
    (found : hub.entries[entry]? = some object) {change : TargetEntry → TargetEntry}
    (same : ∀ object, (change object).id = object.id)
    (status : (change object).status = object.status) (id : TargetId) :
    (hub.modifyEntry entry change).account id = hub.account id := by
  rw [account_modifyEntry steady found same, status]
  split
  · next own =>
      have isStatus : (hub.account id).status = object.status :=
        status_of_get (own ▸ steady.entries found) found
      rw [← isStatus]
      rfl
  · rfl

theorem account_setPhase (steady : hub.Steady) {entry : EntryId} {object : TargetEntry}
    (found : hub.entries[entry]? = some object) (attempt : Attempt) (phase : AttemptPhase)
    (id : TargetId) : (hub.setPhase entry attempt phase).account id = hub.account id := by
  refine account_modifyEntry_same steady found ?_ ?_ id
  · exact fun _ => rfl
  · rfl

theorem modifyEntry_turns (steady : hub.Steady) {entry : EntryId} {object : TargetEntry}
    (found : hub.entries[entry]? = some object) {change : TargetEntry → TargetEntry}
    (same : ∀ object, (change object).id = object.id)
    (inactive : (change object).status.active = false)
    (unheard : announcement object.status (change object).status = []) (id : TargetId) :
    (hub.account id).Moves ((hub.modifyEntry entry change).account id) := by
  rw [account_modifyEntry steady found same]
  split
  · next own =>
      have isStatus : (hub.account id).status = object.status :=
        status_of_get (own ▸ steady.entries found) found
      exact .turns _ inactive (isStatus ▸ unheard)
  · exact .rests

theorem failAttempt_moves (steady : hub.Steady) {entry : EntryId} {object : TargetEntry}
    {attempt : Attempt} (found : hub.entries[entry]? = some object)
    (isAttempt : object.connecting = some attempt) (transport : Option TransportId)
    (id : TargetId) :
    (hub.account id).Moves ((hub.failAttempt entry attempt transport).account id) := by
  have moves := @modifyEntry_turns hub steady entry object found (fun object => { object with
      status := .disconnected
      connecting := some { attempt with phase := .failing transport } }) (fun _ => rfl) rfl
    (by
      have inactive := steady.attempting found isAttempt
      revert inactive
      cases object.status <;> simp [ConnectionStatus.active, announcement]) id
  cases transport with
  | none => exact moves
  | some transport => exact moves

theorem account_erase (hub : SshRemoteHub) {task : HubTask} (pending : task ∈ hub.tasks)
    (id : TargetId) :
    hub.account id =
      if hub.owes id task then (account { hub with tasks := hub.tasks.erase task } id).owe
      else account { hub with tasks := hub.tasks.erase task } id := by
  have owed : (hub.account id).owed =
      (account { hub with tasks := hub.tasks.erase task } id).owed +
        if hub.owes id task then 1 else 0 := by
    have perm := (List.perm_cons_erase pending).countP_eq (hub.owes id)
    rw [List.countP_cons] at perm
    exact perm
  split
  · next owes =>
      rw [if_pos owes] at owed
      exact LifecycleAccount.ext rfl rfl owed
  · next pays =>
      rw [if_neg pays] at owed
      exact LifecycleAccount.ext rfl rfl owed

theorem clientClosed_moves (steady : hub.Steady) (owned : hub.Owned) {transport : TransportId}
    {object : SshTransport} (found : hub.transports[transport]? = some object)
    (before : object.closeEmitted = false) (id : TargetId) :
    (hub.account id).Moves ((hub.clientClosed transport object).account id) := by
  have closed : (hub.modifyTransport transport fun object =>
      { object with closeEmitted := true }).Steady := steady.modifyTransport transport _
  have same : (hub.modifyTransport transport fun object =>
      { object with closeEmitted := true }).account id = hub.account id := rfl
  unfold SshRemoteHub.clientClosed
  dsimp only
  split
  · exact .rests
  · split
    · exact .rests
    · next holder isHolder =>
        split
        · exact .rests
        · next current =>
            rw [ne_eq, not_not] at current
            have isConnected : holder.status = .connected := by
              by_contra inactive
              rcases owned.current isHolder current with ⟨opened, isOpened, _, _, _, lost⟩
              cases found.symm.trans isOpened
              rw [lost inactive] at before
              cases before
            rw [account_emit, account_modifyEntry closed isHolder ?_, same]
            · split
              · next own =>
                  have isStatus : (hub.account id).status = holder.status :=
                    status_of_get (own ▸ steady.entries isHolder) isHolder
                  exact .drops (isStatus.trans isConnected)
              · exact .rests
            · exact fun _ => rfl

theorem recorded_moves (steady : hub.Steady) (owned : hub.Owned) {entry : EntryId}
    {object : TargetEntry} {attempt : Attempt} (found : hub.entries[entry]? = some object)
    (isAttempt : object.connecting = some attempt)
    (paid : hub.recordsWhileClosing (.recorded entry) = false) (transport : TransportId)
    (root : String) (id : TargetId) :
    (hub.account id).Moves ((((hub.modifyEntry entry fun object => { object with
      transport := some transport
      runtimeRoot := some root
      status := .connected
      connecting := none }).modifyTransport transport fun object =>
        { object with watched := true }).emit .connected object.id).account id) := by
  have recorded := @account_modifyEntry hub steady entry object found (fun object =>
    { object with
      transport := some transport
      runtimeRoot := some root
      status := .connected
      connecting := none }) (fun _ => rfl) id
  have watched : ∀ change : SshTransport → SshTransport,
      ((hub.modifyEntry entry fun object => { object with
        transport := some transport
        runtimeRoot := some root
        status := .connected
        connecting := none }).modifyTransport transport change).account id =
          (hub.modifyEntry entry fun object => { object with
            transport := some transport
            runtimeRoot := some root
            status := .connected
            connecting := none }).account id := fun _ => rfl
  rw [account_emit, watched, recorded]
  split
  · next own =>
      have isStatus : (hub.account id).status = object.status :=
        status_of_get (own ▸ steady.entries found) found
      refine .connects (isStatus ▸ owned.inactive found isAttempt) ?_
      refine List.countP_eq_zero.mpr fun task pending owes => ?_
      unfold SshRemoteHub.owes at owes
      split at owes
      · next other closing caller =>
          rcases Option.map_eq_some_iff.mp (of_decide_eq_true owes) with ⟨holder, isHolder, isId⟩
          have isEntry := steady.entries isHolder
          rw [isId, ← own, steady.entries found] at isEntry
          cases isEntry
          have records : hub.recordsWhileClosing (.recorded entry) = true :=
            List.any_eq_true.mpr ⟨_, pending, decide_eq_true rfl⟩
          rw [paid] at records
          cases records
      · cases owes
  · exact .rests

/-- Every event moves the account of every target. -/
theorem step_moves (steady : hub.Steady) (owned : hub.Owned) {event : HubEvent}
    (connects : event.connects = true) (paid : hub.recordsWhileClosing event = false)
    (stepped : hub.step event = some next) (id : TargetId) :
    (hub.account id).Moves (next.account id) := by
  cases stepped_of_step stepped with
  | @addTarget target absent =>
      have same : account { hub with
          registered := hub.registered.set target hub.entries.length
          entries := hub.entries ++ [{ id := target }] } id = hub.account id := by
        ext1
        · simp only [account, status, entryOf, OrderedMap.get_set]
          split
          · next own =>
              have free := OrderedMap.get_of_has_eq_false absent
              rw [← own] at free
              simp [free]
          · cases isEntry : hub.registered.get id with
            | none => rfl
            | some entry =>
                rcases steady.registered isEntry with ⟨object, found, _⟩
                simp only [Option.bind_some]
                rw [List.getElem?_append_left (List.getElem?_eq_some_iff.mp found).1]
        · rfl
        · refine List.countP_congr fun task pending => ?_
          have known := (steady.tasks task pending).2
          unfold SshRemoteHub.owes
          split
          · rw [targetOf_addTarget _ known]
          · rfl
      rw [same]
      exact .rests
  | removeTarget isRegistered => cases connects
  | removeUnknown target => cases connects
  | connect target =>
      rcases connect_cases hub target with same | ⟨entry, object, _, found, _, _, begun⟩
      · rw [same]
        exact .rests
      · rw [begun]
        have counted : Steady { hub with attempts := hub.attempts + 1 } :=
          ⟨steady.registered, steady.entries, steady.attempting, steady.tasks⟩
        have silent : announcement object.status .connecting = [] := by
          cases object.status <;> rfl
        refine modifyEntry_turns counted found ?_ ?_ ?_ id
        · exact fun _ => rfl
        · rfl
        · exact silent
  | disconnect target => exact disconnect_moves steady _ _ id
  | dispose => cases connects
  | @opened entry object attempt found isAttempt opening =>
      have opened : Steady { hub with transports :=
          hub.transports ++ [{ entry := entry, born := attempt.born }] } :=
        ⟨steady.registered, steady.entries, steady.attempting, steady.tasks⟩
      rw [account_setPhase opened found]
      exact .rests
  | openFailed found isAttempt opening => exact failAttempt_moves steady found isAttempt _ id
  | rootMade found isAttempt phase =>
      rw [account_setPhase steady found]
      exact .rests
  | rootFailed found isAttempt phase => exact failAttempt_moves steady found isAttempt _ id
  | recorded found isAttempt phase => exact recorded_moves steady owned found isAttempt paid _ _ id
  | gaveUp found isAttempt phase =>
      rw [account_modifyEntry_same steady found ?_ ?_]
      · exact .rests
      · exact fun _ => rfl
      · rfl
  | @attemptAwaited entry number caller pending finished =>
      rw [account_erase hub pending id]
      have fewer : Steady { hub with
          tasks := hub.tasks.erase (.awaitingAttempt entry number caller) } :=
        steady.withTasks fun task member => steady.tasks task (List.mem_of_mem_erase member)
      exact tearDown_moves fewer entry caller id
  | @closeAwaited entry object transport wasActive caller pending found next isNext =>
      subst isNext
      rw [account_erase hub pending id, account_settleDisconnect, owes_awaitingClose found]
      cases wasActive with
      | false => exact .rests
      | true =>
          rw [if_pos rfl, account_emit]
          by_cases own : object.id = id
          · simp only [own, decide_true, Bool.and_true, if_pos]
            exact .pays _ rfl
          · simp only [own, decide_false, Bool.and_false, if_false]
            exact .rests
  | removalAwaited pending => cases (steady.tasks _ pending).1
  | disconnectAwaited pending kept =>
      rw [account_erase hub pending id]
      exact .rests
  | clientClosed found before => exact clientClosed_moves steady owned found before id

end Account

/-! ## Whole runs -/

/-- What the listeners of a target see: the events announce the changes of the status in
their order, `connected` only while the target is connected and the others only while it is
not. -/
structure AnnouncesInOrder (events : List HubEvent) (hub : SshRemoteHub) (id : TargetId) :
    Prop where
  ordered : (hub.account id).events <+: Execution.observed step (changes id) {} events
  timely : ∀ emission ∈ hub.emitted, emission.target = id →
    (emission.event = .connected ↔ emission.status = .connected)

/-- In every run of calls of `connect` and `disconnect` and of drops in which no connection is
recorded while a `disconnect` awaits the `close()` of another one, the events come in order. -/
theorem announcesInOrder (events : List HubEvent) (hub : SshRemoteHub)
    (reached : Execution.run step {} events = some hub)
    (connects : ∀ event ∈ events, event.connects = true)
    (paid : Execution.AllSteps step (fun hub event => hub.recordsWhileClosing event = false) {}
      events) (id : TargetId) : AnnouncesInOrder events hub id := by
  have initially : LifecycleAccount.Orderly [] (account {} id) :=
    ⟨rfl, fun owes => absurd rfl owes, nofun⟩
  have all := @Execution.observed_invariant _ _ _ step (changes id) _
    (fun seen hub => hub.Steady ∧ hub.Owned ∧ LifecycleAccount.Orderly seen (hub.account id))
    (fun {seen state event next} holds allowed stepped => by
      rcases holds with ⟨steady, owned, orderly⟩
      refine ⟨steady.step owned allowed.1 stepped, owned.step stepped, ?_⟩
      have moved := orderly.moves (step_moves steady owned allowed.1 allowed.2 stepped id)
      simp only [changes, stepped]
      exact moved)
    _ _ _ _ ⟨.empty, .empty, initially⟩
    ((Execution.AllSteps.of_events connects _).and paid) reached
  rw [List.nil_append] at all
  rcases all with ⟨_, _, orderly⟩
  refine ⟨⟨_, orderly.announced.symm⟩, fun emission member own => ?_⟩
  refine orderly.timely (emission.event, emission.status) (List.mem_map.mpr ⟨emission, ?_, rfl⟩)
  exact List.mem_filter.mpr ⟨member, decide_eq_true own⟩

/-- A target that is disconnected, connected again and lost. -/
def announcing : List HubEvent :=
  [.addTarget "a", .connect "a", .opened 0 true, .rootMade 0 "/root", .recorded 0,
    .disconnect "a", .clientClosed 0, .closeAwaited 0 0 true .user, .connect "a",
    .opened 0 true, .rootMade 0 "/again", .recorded 0, .clientClosed 1]

theorem announcesInOrder_announcing :
    ∃ hub, Execution.run step {} announcing = some hub ∧
      hub.emitted.map Emission.event = [.connected, .disconnected, .connected, .degraded] ∧
      AnnouncesInOrder announcing hub "a" :=
  ⟨_, rfl, by decide, announcesInOrder announcing _ rfl (by decide) (by decide) "a"⟩

/-- `connect` is called while `disconnect` awaits the `close()` of the old transport. -/
def connectedWhileClosing : List HubEvent :=
  [.addTarget "a", .connect "a", .opened 0 true, .rootMade 0 "/root", .recorded 0,
    .disconnect "a", .connect "a", .opened 0 true, .rootMade 0 "/again", .recorded 0,
    .clientClosed 0, .closeAwaited 0 0 true .user]

/-- The target is connected when the listeners are told that it went down. -/
theorem announces_late :
    ∃ hub, Execution.run step {} connectedWhileClosing = some hub ∧
      hub.emitted = [⟨.connected, "a", .connected⟩, ⟨.connected, "a", .connected⟩,
        ⟨.disconnected, "a", .connected⟩] ∧ ¬AnnouncesInOrder connectedWhileClosing hub "a" := by
  refine ⟨_, rfl, by decide, fun announces => ?_⟩
  have timely := announces.timely ⟨.disconnected, "a", .connected⟩ (by decide) rfl
  cases timely.mpr rfl

end SshRemoteHub

end DshRemote.RemoteSsh
