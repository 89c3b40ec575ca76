import DshRemote.RemoteSsh.HubSafety

/-! # No open connection is left behind

A transport that is open belongs to an attempt or to an entry. `disconnect` waits for the
attempt that it finds and closes what the entry then has, so that a `removeTarget` or a
`dispose` leaves nothing open unless another attempt begins while it waits. -/

namespace DshRemote.RemoteSsh

namespace SshRemoteHub

/-! ## What leaks -/

/-- The target whose `disconnect` waits. -/
def targetOf (hub : SshRemoteHub) : HubTask → Option TargetId
  | .awaitingAttempt entry _ _ | .awaitingClose entry _ _ _ =>
      (hub.entries[entry]?).map TargetEntry.id
  | .disconnected target _ => some target

/-- A call of `removeTarget` for the target is under way. -/
def removing (hub : SshRemoteHub) (id : TargetId) : Bool :=
  hub.tasks.any fun task => task.caller = .removeTarget ∧ hub.targetOf task = some id

/-- The call of `connect` begins an attempt of its own: the target is registered, is not
connected and has no attempt in flight. -/
def opensAttempt (hub : SshRemoteHub) (id : TargetId) : Bool :=
  ((hub.registered.get id).bind fun entry => hub.entries[entry]?).any fun object =>
    object.connecting.isNone && !(object.status = .connected && object.transport.isSome)

/-- An attempt begins while the target is being removed or the hub is being disposed of. -/
def overlaps (hub : SshRemoteHub) : HubEvent → Bool
  | .connect id => hub.opensAttempt id && (hub.removing id || hub.disposing)
  | _ => false

/-- The transport has neither been closed nor dropped. -/
def isOpen (hub : SshRemoteHub) (transport : TransportId) : Bool :=
  (hub.transports[transport]?).any fun opened => !opened.gone

/-- Every operation has settled. -/
def Settled (hub : SshRemoteHub) : Prop :=
  hub.tasks = [] ∧ ∀ object ∈ hub.entries, object.connecting = none

instance (hub : SshRemoteHub) : Decidable hub.Settled :=
  inferInstanceAs (Decidable (_ ∧ _))

/-- When all operations have settled, every transport is gone or the current one of a
registered target; one whose attempt began before or during a `dispose` is gone. -/
def LeavesNothingOpen (hub : SshRemoteHub) : Prop :=
  hub.Settled → ∀ (transport : TransportId) opened, hub.transports[transport]? = some opened →
    (opened.gone = true ∨ ∃ id, hub.get id = some transport) ∧
      (opened.born < hub.disposals → opened.gone = true)

end SshRemoteHub

/-- The entry has the transport, or its attempt means to record it. -/
def TargetEntry.Holds (object : TargetEntry) (transport : TransportId) : Prop :=
  object.transport = some transport ∨
    ∃ attempt, object.connecting = some attempt ∧ attempt.phase.transport = some transport

/-! ## What most stretches of code keep -/

/-- The entry is left with no more than it had: its attempt, if that goes on, and its
transport, if that stays. -/
structure TargetEntry.Shrinks (before after : TargetEntry) : Prop where
  id : after.id = before.id
  connecting : ∀ {attempt}, after.connecting = some attempt →
    ∃ earlier, before.connecting = some earlier ∧ earlier.number = attempt.number ∧
      earlier.born = attempt.born
  transport : ∀ {transport}, after.transport = some transport →
    before.transport = some transport

theorem TargetEntry.Shrinks.refl (object : TargetEntry) : object.Shrinks object where
  id := rfl
  connecting := fun same => ⟨_, same, rfl, rfl⟩
  transport := fun same => same

theorem TargetEntry.Shrinks.trans {first second third : TargetEntry}
    (before : first.Shrinks second) (after : second.Shrinks third) : first.Shrinks third where
  id := after.id.trans before.id
  connecting := by
    intro attempt isAttempt
    rcases after.connecting isAttempt with ⟨middle, isMiddle, number, born⟩
    rcases before.connecting isMiddle with ⟨earlier, isEarlier, sameNumber, sameBorn⟩
    exact ⟨earlier, isEarlier, sameNumber.trans number, sameBorn.trans born⟩
  transport := fun same => before.transport (after.transport same)

namespace SshRemoteHub

theorem isOpen_iff {hub : SshRemoteHub} {transport : TransportId} :
    hub.isOpen transport = true ↔
      ∃ opened, hub.transports[transport]? = some opened ∧ opened.gone = false := by
  simp only [isOpen, Option.any_eq_true]
  constructor
  · rintro ⟨opened, isOpened, notGone⟩
    exact ⟨opened, isOpened, by simpa using notGone⟩
  · rintro ⟨opened, isOpened, notGone⟩
    exact ⟨opened, isOpened, by simpa using notGone⟩

/-- No entry gains anything, no transport is opened, and what stays open stays where it was. -/
structure Keeps (hub next : SshRemoteHub) : Prop where
  registered : next.registered = hub.registered
  disposals : next.disposals = hub.disposals
  length : next.entries.length = hub.entries.length
  before : ∀ {entry : EntryId} {after : TargetEntry}, next.entries[entry]? = some after →
    ∃ before, hub.entries[entry]? = some before ∧ before.Shrinks after
  opened : ∀ {transport : TransportId} {after : SshTransport},
    next.transports[transport]? = some after → after.gone = false →
      ∃ before, hub.transports[transport]? = some before ∧ before.gone = false ∧
        before.entry = after.entry ∧ before.born = after.born
  holds : ∀ {entry : EntryId} {before after : TargetEntry} {transport : TransportId},
    hub.entries[entry]? = some before → next.entries[entry]? = some after →
      next.isOpen transport = true → before.Holds transport → after.Holds transport

namespace Keeps

variable {hub next : SshRemoteHub}

theorem frame (registered : next.registered = hub.registered)
    (disposals : next.disposals = hub.disposals) (entries : next.entries = hub.entries)
    (transports : next.transports = hub.transports) : hub.Keeps next where
  registered := registered
  disposals := disposals
  length := congrArg List.length entries
  before := fun found => ⟨_, entries ▸ found, .refl _⟩
  opened := by
    intro transport after isAfter notGone
    rw [transports] at isAfter
    exact ⟨after, isAfter, notGone, rfl, rfl⟩
  holds := by
    intro entry before after transport isBefore isAfter _ held
    rw [entries] at isAfter
    cases isBefore.symm.trans isAfter
    exact held

theorem refl (hub : SshRemoteHub) : hub.Keeps hub :=
  frame rfl rfl rfl rfl

theorem after (keeps : hub.Keeps next) {entry : EntryId} {before : TargetEntry}
    (found : hub.entries[entry]? = some before) :
    ∃ after, next.entries[entry]? = some after ∧ before.Shrinks after := by
  have inside := (List.getElem?_eq_some_iff.mp found).1
  have isAfter := List.getElem?_eq_getElem (keeps.length.symm ▸ inside)
  rcases keeps.before isAfter with ⟨same, isSame, shrinks⟩
  cases found.symm.trans isSame
  exact ⟨_, isAfter, shrinks⟩

theorem isOpen (keeps : hub.Keeps next) {transport : TransportId}
    (open_ : next.isOpen transport = true) : hub.isOpen transport = true := by
  rcases isOpen_iff.mp open_ with ⟨after, isAfter, notGone⟩
  rcases keeps.opened isAfter notGone with ⟨before, isBefore, wasOpen, _⟩
  exact isOpen_iff.mpr ⟨before, isBefore, wasOpen⟩

theorem trans {middle : SshRemoteHub} (first : hub.Keeps middle) (second : middle.Keeps next) :
    hub.Keeps next where
  registered := second.registered.trans first.registered
  disposals := second.disposals.trans first.disposals
  length := second.length.trans first.length
  before := by
    intro entry last isLast
    rcases second.before isLast with ⟨between, isBetween, shrinksToo⟩
    rcases first.before isBetween with ⟨before, isBefore, shrinks⟩
    exact ⟨before, isBefore, shrinks.trans shrinksToo⟩
  opened := by
    intro transport last isLast notGone
    rcases second.opened isLast notGone with ⟨between, isBetween, open_, sameEntry, sameBorn⟩
    rcases first.opened isBetween open_ with ⟨before, isBefore, wasOpen, wasEntry, wasBorn⟩
    exact ⟨before, isBefore, wasOpen, wasEntry.trans sameEntry, wasBorn.trans sameBorn⟩
  holds := by
    intro entry before last transport isBefore isLast open_ held
    rcases second.before isLast with ⟨between, isBetween, _⟩
    exact second.holds isBetween isLast open_
      (first.holds isBefore isBetween (second.isOpen open_) held)

theorem modifyEntry (hub : SshRemoteHub) (entry : EntryId) {change : TargetEntry → TargetEntry}
    (shrinks : ∀ object, hub.entries[entry]? = some object → object.Shrinks (change object))
    (holds : ∀ object transport, hub.entries[entry]? = some object →
      hub.isOpen transport = true → object.Holds transport → (change object).Holds transport) :
    hub.Keeps (hub.modifyEntry entry change) where
  registered := rfl
  disposals := rfl
  length := List.length_modify ..
  before := by
    intro other after found
    rcases of_modifyEntry found with ⟨rfl, object, isObject, rfl⟩ | ⟨_, isOther⟩
    · exact ⟨object, isObject, shrinks object isObject⟩
    · exact ⟨after, isOther, .refl after⟩
  opened := fun isAfter notGone => ⟨_, isAfter, notGone, rfl, rfl⟩
  holds := by
    intro other before after transport isBefore isAfter open_ held
    rcases of_modifyEntry isAfter with ⟨rfl, same, isSame, rfl⟩ | ⟨_, isOther⟩
    · cases isBefore.symm.trans isSame
      exact holds before transport isBefore open_ held
    · cases isBefore.symm.trans isOther
      exact held

/-- What becomes of a transport does not open it again. -/
theorem modifyTransport (hub : SshRemoteHub) (transport : TransportId)
    {change : SshTransport → SshTransport}
    (same : ∀ opened, (change opened).entry = opened.entry ∧ (change opened).born = opened.born)
    (gone : ∀ opened, opened.gone = true → (change opened).gone = true) :
    hub.Keeps (hub.modifyTransport transport change) where
  registered := rfl
  disposals := rfl
  length := rfl
  before := (refl hub).before
  opened := by
    intro other after isAfter notGone
    rw [getElem?_modifyTransport] at isAfter
    split at isAfter
    · rcases Option.map_eq_some_iff.mp isAfter with ⟨before, isBefore, rfl⟩
      refine ⟨before, isBefore, ?_, (same before).1.symm, (same before).2.symm⟩
      cases wasGone : before.gone with
      | false => rfl
      | true =>
          rw [gone before wasGone] at notGone
          cases notGone
    · exact ⟨after, isAfter, notGone, rfl, rfl⟩
  holds := by
    intro entry before after current isBefore isAfter _ held
    cases isBefore.symm.trans isAfter
    exact held

theorem close (hub : SshRemoteHub) (transport : TransportId) :
    hub.Keeps (hub.close transport) :=
  modifyTransport hub transport (fun _ => ⟨rfl, rfl⟩) fun _ _ => rfl

theorem watch (hub : SshRemoteHub) (transport : TransportId) :
    hub.Keeps (hub.modifyTransport transport fun object => { object with watched := true }) :=
  modifyTransport hub transport (fun _ => ⟨rfl, rfl⟩) fun _ gone => gone

theorem isOpen_close (hub : SshRemoteHub) (transport : TransportId) :
    (hub.close transport).isOpen transport = false := by
  simp only [SshRemoteHub.isOpen, SshRemoteHub.close, getElem?_modifyTransport, if_pos]
  cases hub.transports[transport]? <;> rfl

theorem withTasks (hub : SshRemoteHub) (tasks : List HubTask) :
    hub.Keeps { hub with tasks := tasks } :=
  frame rfl rfl rfl rfl

theorem emit (hub : SshRemoteHub) (event : LifecycleEvent) (target : TargetId) :
    hub.Keeps (hub.emit event target) :=
  frame rfl rfl rfl rfl

theorem settleDisconnect (hub : SshRemoteHub) (target : TargetId) (caller : DisconnectCaller) :
    hub.Keeps (hub.settleDisconnect target caller) := by
  cases caller <;> exact frame rfl rfl rfl rfl

theorem tearDown (hub : SshRemoteHub) (entry : EntryId) (caller : DisconnectCaller) :
    hub.Keeps (hub.tearDown entry caller) := by
  have cleared : ∀ {closed : SshRemoteHub}, closed.entries = hub.entries →
      (∀ object transport, hub.entries[entry]? = some object →
        object.transport = some transport → closed.isOpen transport = false) →
        closed.Keeps (closed.modifyEntry entry fun object =>
          { object with transport := none, runtimeRoot := none, status := .disconnected }) := by
    intro closed entries released
    refine modifyEntry closed entry (fun object _ => ⟨rfl, fun same => ⟨_, same, rfl, rfl⟩, nofun⟩)
      fun object transport found open_ held => ?_
    rcases held with held | building
    · rw [entries] at found
      rw [released object transport found held] at open_
      cases open_
    · exact Or.inr building
  unfold SshRemoteHub.tearDown
  split
  · exact refl hub
  · next object found =>
      split
      · next transport current =>
          -- The transport is closed before the entry is seen without it.
          have keeps := @cleared (hub.close transport) rfl fun other held isOther isCurrent => by
            cases found.symm.trans isOther
            cases current.symm.trans isCurrent
            exact isOpen_close hub transport
          exact (close hub transport).trans (keeps.trans (frame rfl rfl rfl rfl))
      · next nothing =>
          have keeps := @cleared hub rfl fun other held isOther isCurrent => by
            cases found.symm.trans isOther
            cases nothing.symm.trans isCurrent
          dsimp only
          split
          · exact keeps.trans ((emit _ _ _).trans (settleDisconnect _ _ _))
          · exact keeps.trans (settleDisconnect _ _ _)

theorem disconnect (hub : SshRemoteHub) (id : TargetId) (caller : DisconnectCaller) :
    hub.Keeps (hub.disconnect id caller) := by
  unfold SshRemoteHub.disconnect
  split
  · exact settleDisconnect _ _ _
  · split
    · exact frame rfl rfl rfl rfl
    · exact tearDown _ _ _

theorem setPhase {entry : EntryId} {object : TargetEntry} {attempt : Attempt}
    (found : hub.entries[entry]? = some object) (isAttempt : object.connecting = some attempt)
    {phase : AttemptPhase} (keeps : ∀ transport, hub.isOpen transport = true →
      attempt.phase.transport = some transport → phase.transport = some transport) :
    hub.Keeps (hub.setPhase entry attempt phase) := by
  refine modifyEntry hub entry ?_ ?_
  · intro other isOther
    cases found.symm.trans isOther
    exact ⟨rfl, fun same => ⟨attempt, isAttempt, by cases same; rfl, by cases same; rfl⟩,
      fun same => same⟩
  · intro other transport isOther open_ held
    cases found.symm.trans isOther
    rcases held with held | ⟨same, isSame, building⟩
    · exact Or.inl held
    · cases isAttempt.symm.trans isSame
      exact Or.inr ⟨_, rfl, keeps transport open_ building⟩

theorem failAttempt {entry : EntryId} {object : TargetEntry} {attempt : Attempt}
    (found : hub.entries[entry]? = some object) (isAttempt : object.connecting = some attempt)
    {transport : Option TransportId} (building : attempt.phase.transport = transport) :
    hub.Keeps (hub.failAttempt entry attempt transport) := by
  have fails : ∀ {closed : SshRemoteHub}, closed.entries = hub.entries →
      (∀ other, attempt.phase.transport = some other → closed.isOpen other = false) →
        closed.Keeps (closed.modifyEntry entry fun object => { object with
          status := .disconnected
          connecting := some { attempt with phase := .failing transport } }) := by
    intro closed entries gone
    refine modifyEntry closed entry ?_ ?_
    · intro other isOther
      rw [entries] at isOther
      cases found.symm.trans isOther
      exact ⟨rfl, fun same => ⟨attempt, isAttempt, by cases same; rfl, by cases same; rfl⟩,
        fun same => same⟩
    · intro other held isOther open_ holds
      rw [entries] at isOther
      cases found.symm.trans isOther
      rcases holds with holds | ⟨same, isSame, isBuilding⟩
      · exact Or.inl holds
      · cases isAttempt.symm.trans isSame
        rw [gone held isBuilding] at open_
        cases open_
  cases transport with
  | none =>
      refine fails rfl fun other isBuilding => ?_
      rw [building] at isBuilding
      cases isBuilding
  | some transport =>
      refine (close hub transport).trans (fails rfl fun other isBuilding => ?_)
      cases building.symm.trans isBuilding
      exact isOpen_close hub transport

theorem gaveUp {entry : EntryId} {object : TargetEntry} {attempt : Attempt}
    (found : hub.entries[entry]? = some object) (isAttempt : object.connecting = some attempt)
    (failing : attempt.phase.transport = none) :
    hub.Keeps (hub.modifyEntry entry fun object => { object with connecting := none }) := by
  refine modifyEntry hub entry (fun _ _ => ⟨rfl, nofun, fun same => same⟩) ?_
  intro other transport isOther _ held
  cases found.symm.trans isOther
  rcases held with held | ⟨same, isSame, building⟩
  · exact Or.inl held
  · cases isAttempt.symm.trans isSame
    rw [failing] at building
    cases building

theorem clientClosed (hub : SshRemoteHub) (transport : TransportId) (object : SshTransport) :
    hub.Keeps (hub.clientClosed transport object) := by
  have closed : hub.Keeps (hub.modifyTransport transport fun object =>
      { object with closeEmitted := true }) :=
    modifyTransport hub transport (fun _ => ⟨rfl, rfl⟩) fun opened _ => by
      simp [SshTransport.gone]
  unfold SshRemoteHub.clientClosed
  dsimp only
  split
  · exact closed
  · split
    · exact closed
    · split
      · exact closed
      · refine closed.trans (trans (modifyEntry _ _ ?_ ?_) (emit _ _ _))
        · exact fun _ _ => ⟨rfl, fun same => ⟨_, same, rfl, rfl⟩, fun same => same⟩
        · exact fun _ _ _ _ held => held

end Keeps

/-! ## Where the open transports are -/

/-- Nothing is under way on the entry, and it has nothing open. -/
def Quiet (hub : SshRemoteHub) (object : TargetEntry) : Prop :=
  object.connecting = none ∧
    ∀ transport, object.transport = some transport → hub.isOpen transport = false

/-- The entry that the waiting `removeTarget` will delete is quiet, or it still waits for the
attempt of that entry. -/
structure Releases (hub : SshRemoteHub) (task : HubTask) : Prop where
  known : (hub.targetOf task).isSome
  entry : ∀ {id : TargetId} {entry : EntryId} {object : TargetEntry},
    hub.targetOf task = some id → hub.registered.get id = some entry →
      hub.entries[entry]? = some object → hub.Quiet object ∨
        ∃ number, task = .awaitingAttempt entry number .removeTarget ∧
          ∀ attempt, object.connecting = some attempt → attempt.number = number

structure Housed (hub : SshRemoteHub) : Prop where
  opened : ∀ {transport : TransportId} {opened : SshTransport},
    hub.transports[transport]? = some opened → opened.gone = false →
      ∃ object, hub.entries[opened.entry]? = some object ∧ object.Holds transport
  registered : ∀ {id : TargetId} {entry : EntryId}, hub.registered.get id = some entry →
    ∃ object, hub.entries[entry]? = some object ∧ object.id = id
  removed : ∀ {entry : EntryId} {object : TargetEntry}, hub.entries[entry]? = some object →
    hub.registered.get object.id ≠ some entry → hub.Quiet object
  removing : ∀ task ∈ hub.tasks, task.caller = .removeTarget → hub.Releases task

/-- What the entry has from before a call of `dispose`, that call still waits to close. -/
structure SweptAt (hub : SshRemoteHub) (entry : EntryId) : Prop where
  attempt : ∀ {object : TargetEntry} {attempt : Attempt}, hub.entries[entry]? = some object →
    object.connecting = some attempt → attempt.born < hub.disposals →
      .awaitingAttempt entry attempt.number .dispose ∈ hub.tasks
  current : ∀ {object : TargetEntry} {transport : TransportId} {opened : SshTransport},
    hub.entries[entry]? = some object → object.transport = some transport →
      hub.transports[transport]? = some opened → opened.gone = false →
        opened.born < hub.disposals →
          ∃ number, .awaitingAttempt entry number .dispose ∈ hub.tasks

section Kept

variable {hub next : SshRemoteHub}

theorem Keeps.quiet (keeps : hub.Keeps next) {before after : TargetEntry}
    (shrinks : before.Shrinks after) (quiet : hub.Quiet before) : next.Quiet after := by
  constructor
  · cases isAttempt : after.connecting with
    | none => rfl
    | some attempt =>
        rcases shrinks.connecting isAttempt with ⟨earlier, wasAttempt, _⟩
        rw [quiet.1] at wasAttempt
        cases wasAttempt
  · intro transport current
    have closed := quiet.2 transport (shrinks.transport current)
    cases open_ : next.isOpen transport with
    | false => rfl
    | true =>
        rw [keeps.isOpen open_] at closed
        cases closed

theorem Keeps.ids (keeps : hub.Keeps next) (entry : EntryId) :
    (next.entries[entry]?).map TargetEntry.id = (hub.entries[entry]?).map TargetEntry.id := by
  cases isAfter : next.entries[entry]? with
  | none =>
      rw [List.getElem?_eq_none (keeps.length ▸ List.getElem?_eq_none_iff.mp isAfter)]
  | some after =>
      rcases keeps.before isAfter with ⟨before, isBefore, shrinks⟩
      rw [isBefore, Option.map_some, Option.map_some, shrinks.id]

theorem targetOf_congr (ids : ∀ entry : EntryId,
    (next.entries[entry]?).map TargetEntry.id = (hub.entries[entry]?).map TargetEntry.id)
    (task : HubTask) : next.targetOf task = hub.targetOf task := by
  cases task with
  | awaitingAttempt entry attempt caller => exact ids entry
  | awaitingClose entry transport wasActive caller => exact ids entry
  | disconnected target caller => rfl

theorem Keeps.targetOf (keeps : hub.Keeps next) (task : HubTask) :
    next.targetOf task = hub.targetOf task :=
  targetOf_congr keeps.ids task

theorem Keeps.releases (keeps : hub.Keeps next) {task : HubTask} (releases : hub.Releases task) :
    next.Releases task := by
  refine ⟨by rw [keeps.targetOf]; exact releases.known, ?_⟩
  intro id entry after isTarget isRegistered found
  rcases keeps.before found with ⟨before, isBefore, shrinks⟩
  rw [keeps.targetOf] at isTarget
  rw [keeps.registered] at isRegistered
  rcases releases.entry isTarget isRegistered isBefore with quiet | ⟨number, isTask, same⟩
  · exact Or.inl (keeps.quiet shrinks quiet)
  · refine Or.inr ⟨number, isTask, fun attempt isAttempt => ?_⟩
    rcases shrinks.connecting isAttempt with ⟨earlier, wasAttempt, sameNumber, _⟩
    exact sameNumber ▸ same earlier wasAttempt

theorem Housed.keeps (housed : hub.Housed) (keeps : hub.Keeps next)
    (tasks : ∀ task ∈ next.tasks, task.caller = .removeTarget →
      task ∈ hub.tasks ∨ next.Releases task) : next.Housed where
  opened := by
    intro transport after isAfter notGone
    rcases keeps.opened isAfter notGone with ⟨before, isBefore, wasOpen, sameEntry, _⟩
    rcases housed.opened isBefore wasOpen with ⟨object, found, held⟩
    rw [sameEntry] at found
    rcases keeps.after found with ⟨object', found', _⟩
    exact ⟨object', found',
      keeps.holds found found' (isOpen_iff.mpr ⟨after, isAfter, notGone⟩) held⟩
  registered := by
    intro id entry isRegistered
    rw [keeps.registered] at isRegistered
    rcases housed.registered isRegistered with ⟨object, found, own⟩
    rcases keeps.after found with ⟨object', found', shrinks⟩
    exact ⟨object', found', shrinks.id.trans own⟩
  removed := by
    intro entry after found unregistered
    rcases keeps.before found with ⟨before, isBefore, shrinks⟩
    rw [keeps.registered, shrinks.id] at unregistered
    exact keeps.quiet shrinks (housed.removed isBefore unregistered)
  removing := by
    intro task pending byRemoval
    rcases tasks task pending byRemoval with old | releases
    · exact keeps.releases (housed.removing task old byRemoval)
    · exact releases

/-- Whatever the entry still has, it had before. -/
theorem SweptAt.shrinks {entry : EntryId} (swept : hub.SweptAt entry)
    (disposals : next.disposals = hub.disposals)
    (entries : ∀ {after}, next.entries[entry]? = some after →
      ∃ before, hub.entries[entry]? = some before ∧ before.Shrinks after)
    (opened : ∀ {before : TargetEntry} {transport : TransportId} {after},
      hub.entries[entry]? = some before → before.transport = some transport →
        next.transports[transport]? = some after → after.gone = false →
          ∃ earlier, hub.transports[transport]? = some earlier ∧ earlier.gone = false ∧
            earlier.born = after.born)
    (tasks : ∀ number, .awaitingAttempt entry number .dispose ∈ hub.tasks →
      .awaitingAttempt entry number .dispose ∈ next.tasks) : next.SweptAt entry where
  attempt := by
    intro after attempt found isAttempt before
    rcases entries found with ⟨object, wasFound, shrinks⟩
    rcases shrinks.connecting isAttempt with ⟨earlier, wasAttempt, number, born⟩
    rw [disposals, ← born] at before
    rw [← number]
    exact tasks _ (swept.attempt wasFound wasAttempt before)
  current := by
    intro after transport isCurrent found current isOpened notGone before
    rcases entries found with ⟨object, wasFound, shrinks⟩
    have wasCurrent := shrinks.transport current
    rcases opened wasFound wasCurrent isOpened notGone with ⟨earlier, wasOpened, wasOpen, born⟩
    rw [disposals, ← born] at before
    rcases swept.current wasFound wasCurrent wasOpened wasOpen before with ⟨number, pending⟩
    exact ⟨number, tasks number pending⟩

theorem SweptAt.keeps {entry : EntryId} (swept : hub.SweptAt entry) (keeps : hub.Keeps next)
    (tasks : ∀ number, .awaitingAttempt entry number .dispose ∈ hub.tasks →
      .awaitingAttempt entry number .dispose ∈ next.tasks) : next.SweptAt entry := by
  refine swept.shrinks keeps.disposals keeps.before ?_ tasks
  intro before transport after _ _ isOpened notGone
  rcases keeps.opened isOpened notGone with ⟨earlier, wasOpened, wasOpen, _, born⟩
  exact ⟨earlier, wasOpened, wasOpen, born⟩

theorem Quiet.sweptAt {entry : EntryId} {object : TargetEntry} (quiet : hub.Quiet object)
    (found : hub.entries[entry]? = some object) : hub.SweptAt entry where
  attempt := by
    intro other attempt isOther isAttempt
    cases found.symm.trans isOther
    rw [quiet.1] at isAttempt
    cases isAttempt
  current := by
    intro other transport opened isOther current isOpened notGone
    cases found.symm.trans isOther
    have closed := quiet.2 transport current
    rw [isOpen_iff.mpr ⟨opened, isOpened, notGone⟩] at closed
    cases closed

end Kept

/-! ## What `disconnect` leaves behind -/

section Disconnect

variable {hub : SshRemoteHub}

theorem mem_settleDisconnect {target : TargetId} {caller : DisconnectCaller} {task : HubTask}
    (pending : task ∈ (hub.settleDisconnect target caller).tasks) :
    task ∈ hub.tasks ∨ task = .disconnected target caller := by
  cases caller with
  | user => exact Or.inl pending
  | removeTarget => exact (List.mem_cons.mp pending).symm
  | dispose => exact (List.mem_cons.mp pending).symm

theorem mem_of_settleDisconnect {task : HubTask} (target : TargetId) (caller : DisconnectCaller)
    (pending : task ∈ hub.tasks) : task ∈ (hub.settleDisconnect target caller).tasks := by
  cases caller with
  | user => exact pending
  | removeTarget => exact List.mem_cons_of_mem _ pending
  | dispose => exact List.mem_cons_of_mem _ pending

/-- The `disconnect` goes on to wait, for its caller. -/
theorem mem_tearDown {entry : EntryId} {caller : DisconnectCaller} {task : HubTask}
    (pending : task ∈ (hub.tearDown entry caller).tasks) :
    task ∈ hub.tasks ∨ task.caller = caller ∧
      ∃ object, hub.entries[entry]? = some object ∧ hub.targetOf task = some object.id := by
  unfold SshRemoteHub.tearDown at pending
  split at pending
  · exact Or.inl pending
  · next object found =>
      split at pending
      · rcases List.mem_cons.mp pending with rfl | old
        · exact Or.inr ⟨rfl, object, found, by simp [targetOf, found]⟩
        · exact Or.inl old
      · have settled : task ∈ hub.tasks ∨ task = .disconnected object.id caller := by
          dsimp only at pending
          split at pending
          · exact (mem_settleDisconnect pending).imp_left fun old => old
          · exact (mem_settleDisconnect pending).imp_left fun old => old
        rcases settled with old | rfl
        · exact Or.inl old
        · exact Or.inr ⟨rfl, object, found, rfl⟩

theorem mem_of_tearDown {task : HubTask} (entry : EntryId) (caller : DisconnectCaller)
    (pending : task ∈ hub.tasks) : task ∈ (hub.tearDown entry caller).tasks := by
  unfold SshRemoteHub.tearDown
  split
  · exact pending
  · split
    · exact List.mem_cons_of_mem _ pending
    · dsimp only
      split
      · exact mem_of_settleDisconnect _ _ pending
      · exact mem_of_settleDisconnect _ _ pending

theorem getElem?_settleDisconnect (target : TargetId) (caller : DisconnectCaller)
    (entry : EntryId) : (hub.settleDisconnect target caller).entries[entry]? =
      hub.entries[entry]? := by
  cases caller <;> rfl

/-- The entry keeps no more than the attempt it had. -/
theorem entries_tearDown {entry : EntryId} {object : TargetEntry} (caller : DisconnectCaller)
    (found : hub.entries[entry]? = some object) :
    (hub.tearDown entry caller).entries[entry]? =
      some { object with transport := none, runtimeRoot := none, status := .disconnected } := by
  have cleared : (hub.modifyEntry entry fun object => { object with
      transport := none, runtimeRoot := none, status := .disconnected }).entries[entry]? =
        some { object with transport := none, runtimeRoot := none, status := .disconnected } := by
    rw [getElem?_modifyEntry, if_pos rfl, found]
    rfl
  unfold SshRemoteHub.tearDown
  rw [found]
  dsimp only
  split
  · exact cleared
  · rw [getElem?_settleDisconnect]
    split
    · exact cleared
    · exact cleared

/-- What the `removeTarget` that goes on will delete is quiet. -/
theorem Housed.tearDown (housed : hub.Housed) {entry : EntryId} {caller : DisconnectCaller}
    (idle : caller = .removeTarget → ∀ object, hub.entries[entry]? = some object →
      object.connecting = none)
    (others : caller = .removeTarget → ∀ object other another,
      hub.entries[entry]? = some object → hub.registered.get object.id = some other →
        other ≠ entry → hub.entries[other]? = some another → hub.Quiet another) :
    (hub.tearDown entry caller).Housed := by
  have keeps := Keeps.tearDown hub entry caller
  refine housed.keeps keeps fun task pending byRemoval => ?_
  rcases mem_tearDown pending with old | ⟨rfl, object, found, isTarget⟩
  · exact Or.inl old
  · refine Or.inr ⟨by rw [keeps.targetOf, isTarget]; rfl,
      fun {id other after} isTarget' isRegistered isAfter => Or.inl ?_⟩
    rw [keeps.targetOf] at isTarget'
    cases isTarget.symm.trans isTarget'
    rw [keeps.registered] at isRegistered
    by_cases same : other = entry
    · subst same
      cases (entries_tearDown task.caller found).symm.trans isAfter
      exact ⟨idle byRemoval object found, nofun⟩
    · rcases keeps.before isAfter with ⟨before, isBefore, shrinks⟩
      exact keeps.quiet shrinks (others byRemoval object other before found isRegistered same
        isBefore)

theorem disconnect_of_get {id : TargetId} {entry : EntryId} {object : TargetEntry}
    (isRegistered : hub.registered.get id = some entry)
    (found : hub.entries[entry]? = some object) (caller : DisconnectCaller) :
    hub.disconnect id caller = match object.connecting with
      | some attempt => hub.await (.awaitingAttempt entry attempt.number caller)
      | none => hub.tearDown entry caller := by
  have current : (hub.entries[entry]?).bind TargetEntry.connecting = object.connecting := by
    rw [found, Option.bind_some]
  unfold SshRemoteHub.disconnect
  rw [isRegistered]
  cases connecting : object.connecting with
  | none | some =>
      rw [connecting] at current
      simp only [current]

theorem mem_disconnect {id : TargetId} {caller : DisconnectCaller} {task : HubTask}
    (pending : task ∈ (hub.disconnect id caller).tasks) :
    task ∈ hub.tasks ∨ task.caller = caller := by
  unfold SshRemoteHub.disconnect at pending
  split at pending
  · rcases mem_settleDisconnect pending with old | rfl
    · exact Or.inl old
    · exact Or.inr rfl
  · split at pending
    · rcases List.mem_cons.mp pending with rfl | old
      · exact Or.inr rfl
      · exact Or.inl old
    · exact (mem_tearDown pending).imp_right And.left

theorem mem_of_disconnect {task : HubTask} (id : TargetId) (caller : DisconnectCaller)
    (pending : task ∈ hub.tasks) : task ∈ (hub.disconnect id caller).tasks := by
  unfold SshRemoteHub.disconnect
  split
  · exact mem_of_settleDisconnect _ _ pending
  · split
    · exact List.mem_cons_of_mem _ pending
    · exact mem_of_tearDown _ _ pending

theorem Housed.disconnect (housed : hub.Housed) {id : TargetId} (caller : DisconnectCaller)
    (isRegistered : hub.registered.has id = true) : (hub.disconnect id caller).Housed := by
  rcases (OrderedMap.has_eq_true_iff _ _).mp isRegistered with ⟨entry, isEntry⟩
  rcases housed.registered isEntry with ⟨object, found, own⟩
  rw [disconnect_of_get isEntry found]
  split
  · next attempt isAttempt =>
      refine housed.keeps (Keeps.withTasks _ _) fun task pending byRemoval => ?_
      rcases List.mem_cons.mp pending with rfl | old
      · refine Or.inr ⟨by simp [targetOf, await, found],
          fun {target other another} isTarget isOther isFound => Or.inr ?_⟩
        have isTarget : (hub.entries[entry]?).map TargetEntry.id = some target := isTarget
        rw [found, Option.map_some, own] at isTarget
        cases isTarget
        cases isEntry.symm.trans isOther
        cases found.symm.trans isFound
        refine ⟨attempt.number, by rw [← show caller = .removeTarget from byRemoval], ?_⟩
        intro same isSame
        cases isAttempt.symm.trans isSame
        rfl
      · exact Or.inl old
  · next idle =>
      refine housed.tearDown (fun _ other isOther => ?_) fun _ other another _ isOther isAnother => ?_
      · cases found.symm.trans isOther
        exact idle
      · cases found.symm.trans isOther
        rw [own] at isAnother
        cases isEntry.symm.trans isAnother
        exact fun different => absurd rfl different

theorem Housed.sweptAt_disconnect (housed : hub.Housed) {id : TargetId} {entry : EntryId}
    (isEntry : hub.registered.get id = some entry) :
    (hub.disconnect id .dispose).SweptAt entry := by
  rcases housed.registered isEntry with ⟨object, found, _⟩
  rw [disconnect_of_get isEntry found]
  split
  · next attempt isAttempt =>
      constructor
      · intro other same isOther isSame _
        cases found.symm.trans isOther
        cases isAttempt.symm.trans isSame
        exact List.mem_cons_self
      · intro _ _ _ _ _ _ _ _
        exact ⟨attempt.number, List.mem_cons_self⟩
  · next idle =>
      have after := entries_tearDown .dispose found
      constructor
      · intro other attempt isOther isAttempt
        cases after.symm.trans isOther
        cases idle.symm.trans isAttempt
      · intro other transport opened isOther current
        cases after.symm.trans isOther
        cases current

/-- After all calls of `disconnect`, what every registered entry has from before is waited
for. -/
theorem Housed.disconnects (housed : hub.Housed) {ids : List TargetId}
    (registered : ∀ id ∈ ids, hub.registered.has id = true) :
    (ids.foldl (fun hub id => hub.disconnect id .dispose) hub).Housed ∧
      ∀ (entry : EntryId), (∃ id ∈ ids, hub.registered.get id = some entry) ∨
          hub.SweptAt entry →
        (ids.foldl (fun hub id => hub.disconnect id .dispose) hub).SweptAt entry := by
  induction ids generalizing hub with
  | nil =>
      refine ⟨housed, fun entry swept => ?_⟩
      rcases swept with ⟨id, member, _⟩ | swept
      · cases member
      · exact swept
  | cons id rest induction =>
      have keeps := Keeps.disconnect hub id .dispose
      have first := housed.disconnect .dispose (registered id List.mem_cons_self)
      have later := induction first fun other member => by
        rw [keeps.registered]
        exact registered other (List.mem_cons_of_mem _ member)
      refine ⟨later.1, fun entry swept => later.2 entry ?_⟩
      rcases swept with ⟨other, member, isEntry⟩ | swept
      · rcases List.mem_cons.mp member with rfl | inRest
        · exact Or.inr (housed.sweptAt_disconnect isEntry)
        · exact Or.inl ⟨other, inRest, by rw [keeps.registered]; exact isEntry⟩
      · exact Or.inr (swept.keeps keeps fun _ pending => mem_of_disconnect _ _ pending)

end Disconnect

/-! ## What an attempt gains -/

section Attempt

variable {hub next : SshRemoteHub}

/-- An entry with an attempt is registered, and whoever removes it waits for the attempt. -/
theorem Housed.attempting (housed : hub.Housed) {entry : EntryId} {object : TargetEntry}
    {attempt : Attempt} (found : hub.entries[entry]? = some object)
    (isAttempt : object.connecting = some attempt) :
    hub.registered.get object.id = some entry ∧
      ∀ task ∈ hub.tasks, task.caller = .removeTarget → hub.targetOf task = some object.id →
        task = .awaitingAttempt entry attempt.number .removeTarget := by
  have loud : ¬hub.Quiet object := by
    intro quiet
    rw [quiet.1] at isAttempt
    cases isAttempt
  have isRegistered : hub.registered.get object.id = some entry := by
    by_contra unregistered
    exact loud (housed.removed found unregistered)
  refine ⟨isRegistered, fun task pending byRemoval isTarget => ?_⟩
  rcases (housed.removing task pending byRemoval).entry isTarget isRegistered found with
    quiet | ⟨number, rfl, same⟩
  · exact absurd quiet loud
  · rw [same attempt isAttempt]

/-- A registered entry gains something that whoever removes it still waits for. -/
theorem Housed.gain (housed : hub.Housed) {entry : EntryId} {before : TargetEntry}
    {change : TargetEntry → TargetEntry} (found : hub.entries[entry]? = some before)
    (entries : next.entries = (hub.modifyEntry entry change).entries)
    (same : (change before).id = before.id) (registered : next.registered = hub.registered) (tasks : next.tasks = hub.tasks)
    (isRegistered : hub.registered.get before.id = some entry)
    (removing : ∀ task ∈ hub.tasks, task.caller = .removeTarget →
      hub.targetOf task = some before.id →
        ∃ number, task = .awaitingAttempt entry number .removeTarget ∧
          ∀ attempt, (change before).connecting = some attempt → attempt.number = number)
    (old : ∀ (other : EntryId) object transport, hub.entries[other]? = some object →
      object.transport = some transport → next.isOpen transport = true →
        hub.isOpen transport = true)
    (opened : ∀ {transport : TransportId} {opened : SshTransport},
      next.transports[transport]? = some opened → opened.gone = false →
        opened.entry = entry ∧ (change before).Holds transport ∨
          ∃ earlier, hub.transports[transport]? = some earlier ∧ earlier.gone = false ∧
            earlier.entry = opened.entry ∧
              (earlier.entry = entry → before.Holds transport →
                (change before).Holds transport)) :
    next.Housed := by
  have isAfter : next.entries[entry]? = some (change before) := by
    rw [entries, getElem?_modifyEntry, if_pos rfl, found, Option.map_some]
  have others : ∀ other, entry ≠ other → next.entries[other]? = hub.entries[other]? := by
    intro other different
    rw [entries, getElem?_modifyEntry, if_neg different]
  have quietToo : ∀ {other : EntryId} {object}, hub.entries[other]? = some object →
      hub.Quiet object → next.Quiet object := by
    intro other object isOther quiet
    refine ⟨quiet.1, fun transport current => ?_⟩
    have closed := quiet.2 transport current
    cases open_ : next.isOpen transport with
    | false => rfl
    | true =>
        rw [old other object transport isOther current open_] at closed
        cases closed
  have targets : ∀ task, next.targetOf task = hub.targetOf task := by
    refine targetOf_congr fun other => ?_
    by_cases isEntry : entry = other
    · subst isEntry
      rw [found, isAfter, Option.map_some, Option.map_some, same]
    · rw [others other isEntry]
  constructor
  · intro transport now isOpened notGone
    rcases opened isOpened notGone with ⟨isEntry, held⟩ | ⟨earlier, wasOpened, wasOpen, isSame, keeps⟩
    · exact ⟨_, isEntry ▸ isAfter, held⟩
    · rcases housed.opened wasOpened wasOpen with ⟨holder, isHolder, held⟩
      rw [← isSame]
      by_cases isEntry : entry = earlier.entry
      · subst isEntry
        cases found.symm.trans isHolder
        exact ⟨_, isAfter, keeps rfl held⟩
      · exact ⟨holder, (others _ isEntry).trans isHolder, held⟩
  · intro id other isOther
    rw [registered] at isOther
    rcases housed.registered isOther with ⟨object, isFound, own⟩
    by_cases isEntry : entry = other
    · subst isEntry
      cases found.symm.trans isFound
      exact ⟨_, isAfter, same.trans own⟩
    · exact ⟨object, (others other isEntry).trans isFound, own⟩
  · intro other object isFound unregistered
    rw [registered] at unregistered
    by_cases isEntry : entry = other
    · subst isEntry
      cases isAfter.symm.trans isFound
      rw [same] at unregistered
      exact absurd isRegistered unregistered
    · rw [others other isEntry] at isFound
      exact quietToo isFound (housed.removed isFound unregistered)
  · intro task pending byRemoval
    rw [tasks] at pending
    have releases := housed.removing task pending byRemoval
    refine ⟨by rw [targets]; exact releases.known, ?_⟩
    intro id other object isTarget isOther isFound
    rw [targets] at isTarget
    rw [registered] at isOther
    by_cases isEntry : entry = other
    · subst isEntry
      cases isAfter.symm.trans isFound
      rcases housed.registered isOther with ⟨again, isAgain, own⟩
      cases found.symm.trans isAgain
      rw [← own] at isTarget
      exact Or.inr (removing task pending byRemoval isTarget)
    · rw [others other isEntry] at isFound
      exact (releases.entry isTarget isOther isFound).imp_left (quietToo isFound)

theorem alone_connect {id : TargetId} (alone : hub.overlaps (.connect id) = false)
    {entry : EntryId} {object : TargetEntry} (isEntry : hub.registered.get id = some entry)
    (found : hub.entries[entry]? = some object) (idle : object.connecting = none)
    (inactive : ¬(object.status = .connected ∧ object.transport.isSome)) :
    hub.removing id = false ∧ hub.disposing = false := by
  have begins : hub.opensAttempt id = true := by
    simpa [opensAttempt, isEntry, found, idle, ← imp_iff_not_or] using inactive
  simpa [overlaps, begins] using alone

theorem Housed.connect (housed : hub.Housed) {id : TargetId}
    (alone : hub.overlaps (.connect id) = false) : (hub.connect id).Housed := by
  rcases connect_cases hub id with same | ⟨entry, object, isEntry, found, idle, inactive, begun⟩
  · rw [same]
    exact housed
  · rcases housed.registered isEntry with ⟨again, isAgain, own⟩
    cases found.symm.trans isAgain
    have notRemoving := (alone_connect alone isEntry found idle inactive).1
    rw [begun]
    refine housed.gain found rfl rfl rfl rfl (own ▸ isEntry) ?_ (fun _ _ _ _ _ open_ => open_)
      fun isOpened notGone => Or.inr ⟨_, isOpened, notGone, rfl, fun _ held => ?_⟩
    · intro task pending byRemoval isTarget
      rw [own] at isTarget
      have isRemoving : hub.removing id = true :=
        List.any_eq_true.mpr ⟨task, pending, by simp [byRemoval, isTarget]⟩
      rw [notRemoving] at isRemoving
      cases isRemoving
    · rcases held with held | ⟨attempt, isAttempt, _⟩
      · exact Or.inl held
      · cases idle.symm.trans isAttempt

theorem SweptAt.connect {id : TargetId} {entry : EntryId} (swept : hub.SweptAt entry)
    (alone : hub.overlaps (.connect id) = false) : (hub.connect id).SweptAt entry := by
  rcases connect_cases hub id with same | ⟨other, object, isEntry, found, idle, inactive, begun⟩
  · rw [same]
    exact swept
  · have notDisposing := (alone_connect alone isEntry found idle inactive).2
    rw [begun]
    constructor
    · intro after attempt isFound isAttempt before
      rcases of_modifyEntry isFound with ⟨_, earlier, _, rfl⟩ | ⟨_, isOther⟩
      · cases isAttempt
        simp only [notDisposing] at before
        exact absurd before (Nat.lt_irrefl _)
      · exact swept.attempt isOther isAttempt before
    · intro after transport opened isFound current isOpened notGone before
      rcases of_modifyEntry isFound with ⟨rfl, earlier, isEarlier, rfl⟩ | ⟨_, isOther⟩
      · exact swept.current isEarlier current isOpened notGone before
      · exact swept.current isOther current isOpened notGone before

theorem Housed.connected (housed : hub.Housed) (owned : hub.Owned) {entry : EntryId}
    {object : TargetEntry} {attempt : Attempt} (found : hub.entries[entry]? = some object)
    (isAttempt : object.connecting = some attempt) (opening : attempt.phase.transport = none) :
    (SshRemoteHub.setPhase { hub with
      transports := hub.transports ++ [{ entry := entry, born := attempt.born }] } entry attempt
        (.preparing hub.transports.length)).Housed := by
  rcases housed.attempting found isAttempt with ⟨isRegistered, waiting⟩
  refine housed.gain found rfl rfl rfl rfl isRegistered ?_ ?_ ?_
  · intro task pending byRemoval isTarget
    refine ⟨attempt.number, waiting task pending byRemoval isTarget, fun same isSame => ?_⟩
    cases isSame
    rfl
  · intro other holder transport isOther current open_
    rcases owned.current isOther current with ⟨before, isBefore, _⟩
    rcases isOpen_iff.mp open_ with ⟨after, isFound, notGone⟩
    have old : (hub.transports ++ [({ entry := entry, born := attempt.born } : SshTransport)])[
        transport]? = hub.transports[transport]? :=
      List.getElem?_append_left (List.getElem?_eq_some_iff.mp isBefore).1
    exact isOpen_iff.mpr ⟨after, old.symm.trans isFound, notGone⟩
  · intro transport opened isOpened notGone
    have places : (hub.transports ++ [({ entry := entry, born := attempt.born } :
        SshTransport)])[transport]? = some opened := isOpened
    rcases of_getElem?_concat places with old | ⟨isLast, rfl⟩
    · refine Or.inr ⟨opened, old, notGone, rfl, fun _ held => ?_⟩
      rcases held with held | ⟨other, isOther, building⟩
      · exact Or.inl held
      · cases isAttempt.symm.trans isOther
        rw [opening] at building
        cases building
    · exact Or.inl ⟨rfl, Or.inr ⟨_, rfl, by rw [isLast]; rfl⟩⟩

theorem SweptAt.connected (owned : hub.Owned) {entry other : EntryId}
    (swept : hub.SweptAt other) {object : TargetEntry} {attempt : Attempt}
    (found : hub.entries[entry]? = some object) (isAttempt : object.connecting = some attempt) :
    (SshRemoteHub.setPhase { hub with
      transports := hub.transports ++ [{ entry := entry, born := attempt.born }] } entry attempt
        (.preparing hub.transports.length)).SweptAt other := by
  refine swept.shrinks rfl ?_ ?_ fun _ pending => pending
  · intro after isFound
    rcases of_modifyEntry isFound with ⟨rfl, before, isBefore, rfl⟩ | ⟨_, isOther⟩
    · cases found.symm.trans isBefore
      exact ⟨object, found, rfl, fun same => ⟨attempt, isAttempt, by cases same; rfl,
        by cases same; rfl⟩, fun same => same⟩
    · exact ⟨after, isOther, .refl after⟩
  · intro before transport after isBefore current isOpened notGone
    rcases owned.current isBefore current with ⟨earlier, isEarlier, _⟩
    have old : (hub.transports ++ [({ entry := entry, born := attempt.born } : SshTransport)])[
        transport]? = hub.transports[transport]? :=
      List.getElem?_append_left (List.getElem?_eq_some_iff.mp isEarlier).1
    exact ⟨after, old.symm.trans isOpened, notGone, rfl⟩

/-- The attempt hands its transport over; what the entry had before has dropped. -/
theorem Housed.recorded (housed : hub.Housed) (owned : hub.Owned) {entry : EntryId}
    {object : TargetEntry} {attempt : Attempt} (found : hub.entries[entry]? = some object)
    (isAttempt : object.connecting = some attempt) {transport : TransportId} {root : String}
    (building : attempt.phase.transport = some transport) :
    ((hub.modifyEntry entry fun object => { object with
      transport := some transport
      runtimeRoot := some root
      status := .connected
      connecting := none }).modifyTransport transport fun object =>
        { object with watched := true }).Housed := by
  rcases housed.attempting found isAttempt with ⟨isRegistered, waiting⟩
  have watches := Keeps.watch hub transport
  refine housed.gain found rfl rfl rfl rfl isRegistered ?_ ?_ ?_
  · intro task pending byRemoval isTarget
    exact ⟨attempt.number, waiting task pending byRemoval isTarget, nofun⟩
  · intro _ _ other _ _ open_
    exact watches.isOpen open_
  · intro other opened isOpened notGone
    rcases watches.opened isOpened notGone with ⟨before, isBefore, wasOpen, sameEntry, _⟩
    refine Or.inr ⟨before, isBefore, wasOpen, sameEntry, fun _ held => Or.inl ?_⟩
    rcases held with held | ⟨again, isAgain, isBuilding⟩
    · have lost := owned.holdsNone found (owned.inactive found isAttempt) held isBefore
      simp [SshTransport.gone, lost] at wasOpen
    · cases isAttempt.symm.trans isAgain
      exact building.symm.trans isBuilding

theorem SweptAt.recorded (owned : hub.Owned) {entry other : EntryId} (swept : hub.SweptAt other)
    {object : TargetEntry} {attempt : Attempt} (found : hub.entries[entry]? = some object)
    (isAttempt : object.connecting = some attempt) {transport : TransportId} {root : String}
    (building : attempt.phase.transport = some transport) :
    ((hub.modifyEntry entry fun object => { object with
      transport := some transport
      runtimeRoot := some root
      status := .connected
      connecting := none }).modifyTransport transport fun object =>
        { object with watched := true }).SweptAt other := by
  have watches := Keeps.watch hub transport
  constructor
  · intro after same isFound isSame before
    rcases of_modifyEntry isFound with ⟨rfl, earlier, _, rfl⟩ | ⟨_, isOther⟩
    · cases isSame
    · exact swept.attempt isOther isSame before
  · intro after current opened isFound isCurrent isOpened notGone before
    rcases watches.opened isOpened notGone with ⟨earlier, isEarlier, wasOpen, _, sameBorn⟩
    rw [← sameBorn] at before
    rcases of_modifyEntry isFound with ⟨rfl, same, _, rfl⟩ | ⟨_, isOther⟩
    · cases isCurrent
      rcases owned.building found isAttempt building with ⟨built, isBuilt, _, _, _, born⟩
      cases isEarlier.symm.trans isBuilt
      rw [born] at before
      exact ⟨_, swept.attempt found isAttempt before⟩
    · exact swept.current isOther isCurrent isEarlier wasOpen before

end Attempt

/-! ## Each event -/

section Step

variable {hub next : SshRemoteHub}

theorem Housed.empty : Housed {} where
  opened := nofun
  registered := nofun
  removed := nofun
  removing := nofun

theorem targetOf_addTarget {registered : OrderedMap TargetId EntryId} (added : TargetEntry)
    {task : HubTask} (known : (hub.targetOf task).isSome) :
    targetOf { hub with registered := registered, entries := hub.entries ++ [added] } task =
      hub.targetOf task := by
  have same : ∀ entry : EntryId, ((hub.entries[entry]?).map TargetEntry.id).isSome →
      ((hub.entries ++ [added])[entry]?).map TargetEntry.id =
        (hub.entries[entry]?).map TargetEntry.id := by
    intro entry isSome
    rw [Option.isSome_map] at isSome
    rcases Option.isSome_iff_exists.mp isSome with ⟨object, found⟩
    rw [List.getElem?_append_left (List.getElem?_eq_some_iff.mp found).1]
  cases task with
  | awaitingAttempt entry attempt caller => exact same entry known
  | awaitingClose entry transport wasActive caller => exact same entry known
  | disconnected target caller => rfl

theorem Housed.addTarget (housed : hub.Housed) {id : TargetId}
    (absent : hub.registered.has id = false) :
    Housed { hub with
      registered := hub.registered.set id hub.entries.length
      entries := hub.entries ++ [{ id := id }] } := by
  have free : hub.registered.get id = none := by
    cases isEntry : hub.registered.get id with
    | none => rfl
    | some entry => simp [OrderedMap.has, isEntry] at absent
  have old : ∀ {entry : EntryId} {object}, hub.entries[entry]? = some object →
      (hub.entries ++ [({ id := id } : TargetEntry)])[entry]? = some object := by
    intro entry object found
    rw [List.getElem?_append_left (List.getElem?_eq_some_iff.mp found).1]
    exact found
  constructor
  · intro transport opened isOpened notGone
    rcases housed.opened isOpened notGone with ⟨object, found, held⟩
    exact ⟨object, old found, held⟩
  · intro other entry isRegistered
    rcases OrderedMap.of_get_set isRegistered with ⟨same, rfl⟩ | ⟨_, isRegistered⟩
    · exact ⟨_, List.getElem?_concat_length .., same.symm⟩
    · rcases housed.registered isRegistered with ⟨object, found, own⟩
      exact ⟨object, old found, own⟩
  · intro entry object found unregistered
    rcases of_getElem?_concat found with wasFound | ⟨rfl, rfl⟩
    · refine housed.removed wasFound fun isRegistered => unregistered ?_
      rw [OrderedMap.get_set, if_neg ?_, isRegistered]
      intro same
      rw [same, free] at isRegistered
      cases isRegistered
    · exact absurd (OrderedMap.get_set_self _ _ _) unregistered
  · intro task pending byRemoval
    have releases := housed.removing task pending byRemoval
    have sameTarget := @targetOf_addTarget hub (hub.registered.set id hub.entries.length)
      { id := id } task releases.known
    refine ⟨by rw [sameTarget]; exact releases.known, ?_⟩
    intro target entry object isTarget isRegistered found
    rw [sameTarget] at isTarget
    rw [OrderedMap.get_set] at isRegistered
    split at isRegistered
    · cases isRegistered
      cases (List.getElem?_concat_length ..).symm.trans found
      exact Or.inl ⟨rfl, by simp⟩
    · rcases housed.registered isRegistered with ⟨again, wasFound, _⟩
      cases (old wasFound).symm.trans found
      exact releases.entry isTarget isRegistered wasFound

theorem Housed.deleteTarget (housed : hub.Housed) {target : TargetId}
    (pending : .disconnected target .removeTarget ∈ hub.tasks) {tasks : List HubTask}
    (fewer : ∀ task ∈ tasks, task ∈ hub.tasks) :
    Housed { hub with tasks := tasks, registered := hub.registered.delete target } where
  opened := housed.opened
  registered := by
    intro id entry isRegistered
    exact housed.registered (OrderedMap.of_get_delete isRegistered).2
  removed := by
    intro entry object found unregistered
    by_cases isRegistered : hub.registered.get object.id = some entry
    · by_cases same : object.id = target
      · rcases (housed.removing _ pending rfl).entry rfl (same ▸ isRegistered) found with
          quiet | ⟨_, isTask, _⟩
        · exact quiet
        · cases isTask
      · rw [OrderedMap.get_delete, if_neg same] at unregistered
        exact absurd isRegistered unregistered
    · exact housed.removed found isRegistered
  removing := by
    intro task isPending byRemoval
    have releases := housed.removing task (fewer task isPending) byRemoval
    refine ⟨releases.known, fun {id entry object} isTarget isRegistered found => ?_⟩
    exact releases.entry isTarget (OrderedMap.of_get_delete isRegistered).2 found

theorem Housed.attemptAwaited (housed : hub.Housed) {entry : EntryId} {number : Nat}
    {caller : DisconnectCaller} (pending : .awaitingAttempt entry number caller ∈ hub.tasks)
    (settled : (hub.attemptOf entry).map Attempt.number ≠ some number) :
    (SshRemoteHub.tearDown { hub with
      tasks := hub.tasks.erase (.awaitingAttempt entry number caller) } entry caller).Housed := by
  have fewer : Housed { hub with
      tasks := hub.tasks.erase (.awaitingAttempt entry number caller) } :=
    housed.keeps (Keeps.withTasks _ _) fun task member _ => Or.inl (List.mem_of_mem_erase member)
  have target : ∀ object, hub.entries[entry]? = some object →
      hub.targetOf (.awaitingAttempt entry number caller) = some object.id := by
    intro object found
    simp [targetOf, found]
  refine fewer.tearDown ?_ ?_
  · rintro rfl object found
    cases isAttempt : object.connecting with
    | none => rfl
    | some attempt =>
        have same := (housed.attempting found isAttempt).2 _ pending rfl (target object found)
        cases same
        have current : hub.attemptOf entry = some attempt :=
          attemptOf_eq_some_iff.mpr ⟨object, found, isAttempt⟩
        rw [current] at settled
        exact absurd rfl settled
  · rintro rfl object other another found isOther different isAnother
    rcases (housed.removing _ pending rfl).entry (target object found) isOther isAnother with
      quiet | ⟨_, isTask, _⟩
    · exact quiet
    · cases isTask
      exact absurd rfl different

theorem SweptAt.attemptAwaited {other : EntryId} (swept : hub.SweptAt other) {entry : EntryId}
    {number : Nat} {caller : DisconnectCaller}
    (settled : (hub.attemptOf entry).map Attempt.number ≠ some number) :
    (SshRemoteHub.tearDown { hub with
      tasks := hub.tasks.erase (.awaitingAttempt entry number caller) } entry caller).SweptAt
        other := by
  have keeps : hub.Keeps (SshRemoteHub.tearDown { hub with
      tasks := hub.tasks.erase (.awaitingAttempt entry number caller) } entry caller) :=
    (Keeps.withTasks _ _).trans (Keeps.tearDown _ _ _)
  have others : ∀ another, HubTask.awaitingAttempt other another .dispose ≠
      .awaitingAttempt entry number caller → .awaitingAttempt other another .dispose ∈ hub.tasks →
        .awaitingAttempt other another .dispose ∈ (SshRemoteHub.tearDown { hub with
          tasks := hub.tasks.erase (.awaitingAttempt entry number caller) } entry caller).tasks := by
    intro another different pending
    exact mem_of_tearDown _ _ ((List.mem_erase_of_ne different).mpr pending)
  by_cases same : other = entry
  · subst same
    constructor
    · intro after attempt isFound isAttempt before
      rcases keeps.before isFound with ⟨object, found, shrinks⟩
      have afterwards := @entries_tearDown { hub with
        tasks := hub.tasks.erase (.awaitingAttempt other number caller) } other object caller found
      cases afterwards.symm.trans isFound
      rw [keeps.disposals] at before
      refine others _ ?_ (swept.attempt found isAttempt before)
      intro isTask
      refine settled ?_
      rw [attemptOf_eq_some_iff.mpr ⟨object, found, isAttempt⟩]
      cases isTask
      rfl
    · intro after transport opened isFound current
      rcases keeps.before isFound with ⟨object, found, shrinks⟩
      have afterwards := @entries_tearDown { hub with
        tasks := hub.tasks.erase (.awaitingAttempt other number caller) } other object caller found
      cases afterwards.symm.trans isFound
      cases current
  · refine swept.keeps keeps fun another => others another fun isTask => ?_
    cases isTask
    exact same rfl

theorem Housed.closeAwaited (housed : hub.Housed) {entry : EntryId} {transport : TransportId}
    {wasActive : Bool} {caller : DisconnectCaller} {object : TargetEntry}
    (pending : .awaitingClose entry transport wasActive caller ∈ hub.tasks)
    (found : hub.entries[entry]? = some object) {closed : SshRemoteHub}
    (keeps : hub.Keeps closed)
    (tasks : closed.tasks = hub.tasks.erase (.awaitingClose entry transport wasActive caller)) :
    (closed.settleDisconnect object.id caller).Housed := by
  have keepsToo := keeps.trans (Keeps.settleDisconnect closed object.id caller)
  refine housed.keeps keepsToo fun task member byRemoval => ?_
  rcases mem_settleDisconnect member with old | rfl
  · rw [tasks] at old
    exact Or.inl (List.mem_of_mem_erase old)
  · have byRemoval : caller = .removeTarget := byRemoval
    subst byRemoval
    refine Or.inr (keepsToo.releases ⟨rfl, ?_⟩)
    intro id other another isTarget isRegistered isFound
    cases isTarget
    have isTarget : hub.targetOf (.awaitingClose entry transport wasActive .removeTarget) =
        some object.id := by simp [targetOf, found]
    rcases (housed.removing _ pending rfl).entry isTarget isRegistered isFound with
      quiet | ⟨_, isTask, _⟩
    · exact Or.inl quiet
    · cases isTask

/-- Every open transport is housed, and what a `dispose` is to close is waited for. -/
structure Accounted (hub : SshRemoteHub) : Prop where
  housed : hub.Housed
  swept : ∀ entry, hub.SweptAt entry

/-- Stretches of code that begin and end no wait. -/
theorem Accounted.keeps (accounted : hub.Accounted) (keeps : hub.Keeps next)
    (tasks : next.tasks = hub.tasks) : next.Accounted where
  housed := accounted.housed.keeps keeps fun _ pending _ => Or.inl (tasks ▸ pending)
  swept := fun entry => (accounted.swept entry).keeps keeps fun _ pending => tasks ▸ pending

theorem Accounted.disconnect (accounted : hub.Accounted) {id : TargetId}
    (caller : DisconnectCaller) (known : caller = .removeTarget → hub.registered.has id = true) :
    (hub.disconnect id caller).Accounted where
  housed := by
    by_cases isRegistered : hub.registered.has id = true
    · exact accounted.housed.disconnect caller isRegistered
    · refine accounted.housed.keeps (Keeps.disconnect hub id caller) fun task pending byRemoval => ?_
      rcases mem_disconnect pending with old | isCaller
      · exact Or.inl old
      · exact absurd (known (isCaller.symm.trans byRemoval)) isRegistered
  swept := fun entry => (accounted.swept entry).keeps (Keeps.disconnect hub id caller)
    fun _ pending => mem_of_disconnect _ _ pending

theorem Accounted.dispose (accounted : hub.Accounted) :
    Accounted (hub.registered.keys.foldl
      (fun (hub : SshRemoteHub) id => hub.disconnect id .dispose)
      { hub with disposals := hub.disposals + 1 }) := by
  have housed := accounted.housed
  have counted : Housed { hub with disposals := hub.disposals + 1 } :=
    ⟨housed.opened, housed.registered, housed.removed, fun task pending byRemoval =>
      ⟨(housed.removing task pending byRemoval).known,
        (housed.removing task pending byRemoval).entry⟩⟩
  have all := counted.disconnects fun id member =>
    (OrderedMap.has_eq_true_iff _ _).mpr ((OrderedMap.mem_keys_iff _ _).mp member)
  refine ⟨all.1, fun entry => all.2 entry ?_⟩
  cases found : hub.entries[entry]? with
  | none =>
      refine Or.inr ⟨fun isFound => ?_, fun isFound => ?_⟩
      · cases found.symm.trans isFound
      · cases found.symm.trans isFound
  | some object =>
      by_cases isRegistered : hub.registered.get object.id = some entry
      · exact Or.inl ⟨object.id, (OrderedMap.mem_keys_iff _ _).mpr ⟨entry, isRegistered⟩,
          isRegistered⟩
      · have quiet : Quiet { hub with disposals := hub.disposals + 1 } object :=
          housed.removed found isRegistered
        exact Or.inr (quiet.sweptAt found)

theorem Accounted.settled (accounted : hub.Accounted) (target : TargetId)
    (caller : DisconnectCaller) :
    Accounted { hub with tasks := hub.tasks.erase (.disconnected target caller) } := by
  have others : ∀ entry number, .awaitingAttempt entry number .dispose ∈ hub.tasks →
      .awaitingAttempt entry number .dispose ∈
        hub.tasks.erase (.disconnected target caller) := by
    intro entry number isPending
    exact (List.mem_erase_of_ne fun same => by cases same).mpr isPending
  exact ⟨accounted.housed.keeps (Keeps.withTasks _ _) fun _ member _ =>
      Or.inl (List.mem_of_mem_erase member),
    fun entry => (accounted.swept entry).keeps (Keeps.withTasks _ _) (others entry)⟩

theorem Accounted.step (accounted : hub.Accounted) (owned : hub.Owned) {event : HubEvent}
    (alone : hub.overlaps event = false) (stepped : hub.step event = some next) :
    next.Accounted := by
  cases stepped_of_step stepped with
  | addTarget absent =>
      refine ⟨accounted.housed.addTarget absent, fun entry => ⟨?_, ?_⟩⟩
      · intro object attempt found isAttempt before
        rcases of_getElem?_concat found with old | ⟨_, rfl⟩
        · exact (accounted.swept entry).attempt old isAttempt before
        · cases isAttempt
      · intro object transport opened found current isOpened notGone before
        rcases of_getElem?_concat found with old | ⟨_, rfl⟩
        · exact (accounted.swept entry).current old current isOpened notGone before
        · cases current
  | removeTarget isRegistered => exact accounted.disconnect _ fun _ => isRegistered
  | removeUnknown id => exact accounted
  | connect id =>
      exact ⟨accounted.housed.connect alone, fun entry => (accounted.swept entry).connect alone⟩
  | disconnect id => exact accounted.disconnect _ nofun
  | dispose => exact accounted.dispose
  | @opened entry object attempt found isAttempt opening =>
      have nothing : attempt.phase.transport = none := by rw [opening]; rfl
      exact ⟨accounted.housed.connected owned found isAttempt nothing,
        fun other => (accounted.swept other).connected owned found isAttempt⟩
  | openFailed found isAttempt opening =>
      exact accounted.keeps (Keeps.failAttempt found isAttempt (by rw [opening]; rfl)) rfl
  | rootMade found isAttempt phase =>
      refine accounted.keeps (Keeps.setPhase found isAttempt ?_) rfl
      intro other _ building
      rw [phase] at building
      exact building
  | rootFailed found isAttempt phase =>
      exact accounted.keeps (Keeps.failAttempt found isAttempt (by rw [phase]; rfl)) rfl
  | @recorded entry object attempt transport root found isAttempt phase =>
      have building : attempt.phase.transport = some transport := by rw [phase]; rfl
      refine Accounted.keeps ?_ (Keeps.emit _ _ _) rfl
      exact ⟨accounted.housed.recorded owned found isAttempt building,
        fun other => (accounted.swept other).recorded owned found isAttempt building⟩
  | gaveUp found isAttempt phase =>
      exact accounted.keeps (Keeps.gaveUp found isAttempt (by rw [phase]; rfl)) rfl
  | attemptAwaited pending finished =>
      exact ⟨accounted.housed.attemptAwaited pending finished,
        fun other => (accounted.swept other).attemptAwaited finished⟩
  | @closeAwaited entry object transport wasActive caller pending found next isNext =>
      subst isNext
      have keeps : ∀ closed : SshRemoteHub, hub.Keeps closed →
          closed.tasks = hub.tasks.erase (.awaitingClose entry transport wasActive caller) →
            (closed.settleDisconnect object.id caller).Accounted := by
        intro closed keeps tasks
        refine ⟨accounted.housed.closeAwaited pending found keeps tasks, fun other => ?_⟩
        refine (accounted.swept other).keeps
          (keeps.trans (Keeps.settleDisconnect closed object.id caller)) fun number waits => ?_
        refine mem_of_settleDisconnect _ _ ?_
        rw [tasks]
        exact (List.mem_erase_of_ne fun same => by cases same).mpr waits
      split
      · exact keeps _ ((Keeps.withTasks _ _).trans (Keeps.emit _ _ _)) rfl
      · exact keeps _ (Keeps.withTasks _ _) rfl
  | @removalAwaited target pending =>
      have fewer := accounted.settled target .removeTarget
      refine ⟨accounted.housed.deleteTarget pending fun _ => List.mem_of_mem_erase, ?_⟩
      intro entry
      exact ⟨(fewer.swept entry).attempt, (fewer.swept entry).current⟩
  | disconnectAwaited pending kept => exact accounted.settled _ _
  | clientClosed found before =>
      refine accounted.keeps (Keeps.clientClosed hub _ _) ?_
      unfold SshRemoteHub.clientClosed
      dsimp only
      split
      · rfl
      · split
        · rfl
        · split
          · rfl
          · rfl

end Step

theorem Accounted.leavesNothing {hub : SshRemoteHub} (accounted : hub.Accounted)
    (owned : hub.Owned) : hub.LeavesNothingOpen := by
  rintro ⟨noTasks, idle⟩ transport opened isOpened
  cases isGone : opened.gone with
  | true => exact ⟨Or.inl rfl, fun _ => rfl⟩
  | false =>
      rcases accounted.housed.opened isOpened isGone with ⟨object, found, held⟩
      have current : object.transport = some transport := by
        rcases held with held | ⟨attempt, isAttempt, _⟩
        · exact held
        · rw [idle object (List.mem_of_getElem? found)] at isAttempt
          cases isAttempt
      have isRegistered : hub.registered.get object.id = some opened.entry := by
        by_contra unregistered
        have closed := (accounted.housed.removed found unregistered).2 transport current
        rw [isOpen_iff.mpr ⟨opened, isOpened, isGone⟩] at closed
        cases closed
      have isConnected : object.status = .connected := by
        by_contra inactive
        have lost := owned.holdsNone found inactive current isOpened
        simp [SshTransport.gone, lost] at isGone
      refine ⟨Or.inr ⟨object.id, ?_⟩, fun before => ?_⟩
      · simp [get, entryOf, isRegistered, found, isConnected, current]
      · rcases (accounted.swept opened.entry).current found current isOpened isGone before with
          ⟨number, pending⟩
        rw [noTasks] at pending
        cases pending

/-- In every run of the hub in which no attempt begins on a target while a `removeTarget` of
it or a `dispose` is under way, no open connection is left behind. -/
theorem leavesNothingOpen (events : List HubEvent) (hub : SshRemoteHub)
    (reached : Execution.run step {} events = some hub)
    (alone : Execution.AllSteps step (fun hub event => hub.overlaps event = false) {} events) :
    hub.LeavesNothingOpen := by
  have both : hub.Accounted ∧ hub.Owned :=
    Execution.run_invariant (fun hub => hub.Accounted ∧ hub.Owned)
      (fun both alone stepped => ⟨both.1.step both.2 alone stepped, both.2.step stepped⟩)
      ⟨⟨.empty, fun _ => ⟨nofun, nofun⟩⟩, .empty⟩ alone reached
  exact both.1.leavesNothing both.2

/-- A target is removed and the hub disposed of while an attempt is under way. -/
def releasing : List HubEvent :=
  [.addTarget "a", .connect "a", .removeTarget "a", .opened 0 true, .rootMade 0 "/root",
    .recorded 0, .attemptAwaited 0 0 .removeTarget, .clientClosed 0,
    .closeAwaited 0 0 true .removeTarget, .disconnectAwaited "a" .removeTarget,
    .addTarget "b", .connect "b", .opened 1 true, .dispose, .rootMade 1 "/root", .recorded 1,
    .attemptAwaited 1 1 .dispose, .clientClosed 1, .closeAwaited 1 1 true .dispose,
    .disconnectAwaited "b" .dispose]

theorem leavesNothingOpen_releasing :
    ∃ hub, Execution.run step {} releasing = some hub ∧ hub.Settled ∧
      hub.transports.length = 2 ∧ hub.LeavesNothingOpen :=
  ⟨_, rfl, by decide, rfl, leavesNothingOpen releasing _ rfl (by decide)⟩

/-- `connect` is called while `removeTarget` awaits the `close()` of the old transport. -/
def connectedWhileRemoved : List HubEvent :=
  [.addTarget "a", .connect "a", .opened 0 true, .rootMade 0 "/root", .recorded 0,
    .removeTarget "a", .connect "a", .opened 0 true, .rootMade 0 "/again", .recorded 0,
    .clientClosed 0, .closeAwaited 0 0 true .removeTarget, .disconnectAwaited "a" .removeTarget]

/-- `connect` is called while `dispose` awaits the `close()` of the old transport. -/
def connectedWhileDisposed : List HubEvent :=
  [.addTarget "a", .connect "a", .opened 0 true, .rootMade 0 "/root", .recorded 0,
    .dispose, .connect "a", .opened 0 true, .rootMade 0 "/again", .recorded 0,
    .clientClosed 0, .closeAwaited 0 0 true .dispose, .disconnectAwaited "a" .dispose]

/-- The second transport stays open: of a target that is not registered any more, and of a
hub that was disposed of. -/
theorem leaves_open :
    (∃ hub, Execution.run step {} connectedWhileRemoved = some hub ∧
      hub.registered.has "a" = false ∧ hub.isOpen 1 = true ∧ ¬hub.LeavesNothingOpen) ∧
    ∃ hub, Execution.run step {} connectedWhileDisposed = some hub ∧ hub.isOpen 1 = true ∧
      ¬hub.LeavesNothingOpen := by
  constructor
  · refine ⟨_, rfl, by decide, by decide, fun leaves => ?_⟩
    rcases (leaves (by decide) 1 _ rfl).1 with gone | ⟨id, handed⟩
    · cases gone
    · cases handed
  · refine ⟨_, rfl, by decide, fun leaves => ?_⟩
    cases (leaves (by decide) 1 _ rfl).2 (by decide)

end SshRemoteHub

end DshRemote.RemoteSsh
