import DshRemote.RemoteSsh.Hub

/-! # Which transports are live

A transport is recorded in its entry only after two `await`s, and only then is its `close`
event heard. Until then the attempt of the entry owns it; from then on the entry does, until
`disconnect` takes and closes it or a later attempt replaces it. -/

namespace DshRemote.RemoteSsh.SshRemoteHub

/-! ## Looking up what was changed -/

theorem getElem?_modifyEntry (hub : SshRemoteHub) (entry other : EntryId)
    (change : TargetEntry → TargetEntry) :
    (hub.modifyEntry entry change).entries[other]? =
      if entry = other then (hub.entries[other]?).map change else hub.entries[other]? := by
  simp only [modifyEntry, List.getElem?_modify]
  split
  · rfl
  · cases hub.entries[other]? <;> rfl

theorem getElem?_modifyTransport (hub : SshRemoteHub) (transport other : TransportId)
    (change : SshTransport → SshTransport) :
    (hub.modifyTransport transport change).transports[other]? =
      if transport = other then (hub.transports[other]?).map change
      else hub.transports[other]? := by
  simp only [modifyTransport, List.getElem?_modify]
  split
  · rfl
  · cases hub.transports[other]? <;> rfl

/-- An entry after a change of one entry is that change of it, or the entry it was. -/
theorem of_modifyEntry {hub : SshRemoteHub} {entry other : EntryId}
    {change : TargetEntry → TargetEntry} {object : TargetEntry}
    (found : (hub.modifyEntry entry change).entries[other]? = some object) :
    entry = other ∧ (∃ before, hub.entries[other]? = some before ∧ object = change before) ∨
      entry ≠ other ∧ hub.entries[other]? = some object := by
  rw [getElem?_modifyEntry] at found
  split at found
  · next same =>
      rcases Option.map_eq_some_iff.mp found with ⟨before, isBefore, rfl⟩
      exact Or.inl ⟨same, before, isBefore, rfl⟩
  · next different => exact Or.inr ⟨different, found⟩

/-- A call of `connect` changes nothing, or begins an attempt on a registered entry that has
none and is not connected. -/
theorem connect_cases (hub : SshRemoteHub) (id : TargetId) :
    hub.connect id = hub ∨ ∃ entry object, hub.registered.get id = some entry ∧
      hub.entries[entry]? = some object ∧ object.connecting = none ∧
      ¬(object.status = .connected ∧ object.transport.isSome) ∧
      hub.connect id = modifyEntry { hub with attempts := hub.attempts + 1 } entry
        fun object => { object with
          status := .connecting
          connecting := some {
            number := hub.attempts
            born := if hub.disposing then hub.disposals - 1 else hub.disposals } } := by
  cases isEntry : hub.registered.get id with
  | none => exact Or.inl (by simp [connect, isEntry])
  | some entry =>
      cases found : hub.entries[entry]? with
      | none => exact Or.inl (by simp [connect, isEntry, found])
      | some object =>
          by_cases active : object.status = .connected ∧ object.transport.isSome
          · exact Or.inl (by simp [connect, isEntry, found, active])
          · cases isAttempt : object.connecting with
            | some attempt => exact Or.inl (by simp [connect, isEntry, found, active, isAttempt])
            | none =>
                refine Or.inr ⟨entry, object, rfl, found, isAttempt, active, ?_⟩
                simp [connect, isEntry, found, active, isAttempt]

/-! ## Who owns a transport -/

/-- The transport that an entry still refers to, if any, has dropped. -/
def HoldsNone (hub : SshRemoteHub) (object : TargetEntry) : Prop :=
  ∀ {transport : TransportId} {opened}, object.transport = some transport →
    hub.transports[transport]? = some opened → opened.closeEmitted = true

/-- What the entries say about the transports they own. -/
structure Owned (hub : SshRemoteHub) : Prop where
  /-- The transport of an entry was opened for it and is heard by it; it is not closed, and
  dropped when the entry is not connected. -/
  current : ∀ {entry : EntryId} {object : TargetEntry} {transport : TransportId},
    hub.entries[entry]? = some object → object.transport = some transport →
      ∃ opened, hub.transports[transport]? = some opened ∧ opened.entry = entry ∧
        opened.watched = true ∧ opened.closing = false ∧
        (object.status ≠ .connected → opened.closeEmitted = true)
  connected : ∀ {entry : EntryId} {object : TargetEntry},
    hub.entries[entry]? = some object → object.status = .connected →
      object.transport.isSome ∧ object.connecting = none
  /-- The transport of an attempt was opened for its entry; nobody closes or hears it. -/
  building : ∀ {entry : EntryId} {object : TargetEntry} {attempt : Attempt}
    {transport : TransportId}, hub.entries[entry]? = some object →
      object.connecting = some attempt → attempt.phase.transport = some transport →
        ∃ opened, hub.transports[transport]? = some opened ∧ opened.entry = entry ∧
          opened.watched = false ∧ opened.closing = false ∧ opened.born = attempt.born

namespace Owned

variable {hub : SshRemoteHub}

theorem frame (owned : hub.Owned) {next : SshRemoteHub} (entries : next.entries = hub.entries)
    (transports : next.transports = hub.transports) : next.Owned where
  current := by rw [entries, transports]; exact owned.current
  connected := by rw [entries]; exact owned.connected
  building := by rw [entries, transports]; exact owned.building

theorem withTasks (owned : hub.Owned) (tasks : List HubTask) :
    Owned { hub with tasks := tasks } :=
  owned.frame rfl rfl

/-- An entry lets go of its transport, or only changes what its attempt waits for. -/
theorem modifyEntry (owned : hub.Owned) (entry : EntryId) {change : TargetEntry → TargetEntry}
    (transport : ∀ object, hub.entries[entry]? = some object →
      (change object).transport = none ∨
        (change object).transport = object.transport ∧ hub.HoldsNone object)
    (status : ∀ object, hub.entries[entry]? = some object →
      (change object).status ≠ .connected)
    (connecting : ∀ object attempt opening, hub.entries[entry]? = some object →
      (change object).connecting = some attempt → attempt.phase.transport = some opening →
        ∃ before, object.connecting = some before ∧ before.born = attempt.born ∧
          before.phase.transport = some opening) :
    (hub.modifyEntry entry change).Owned where
  current := by
    intro other object found isFound isCurrent
    rcases of_modifyEntry isFound with ⟨rfl, before, isBefore, rfl⟩ | ⟨_, isFound⟩
    · rcases transport before isBefore with letGo | ⟨kept, holdsNone⟩
      · rw [letGo] at isCurrent
        cases isCurrent
      · rw [kept] at isCurrent
        rcases owned.current isBefore isCurrent with ⟨opened, isOpened, own, watched, open_, _⟩
        exact ⟨opened, isOpened, own, watched, open_, fun _ => holdsNone isCurrent isOpened⟩
    · exact owned.current isFound isCurrent
  connected := by
    intro other object isFound isConnected
    rcases of_modifyEntry isFound with ⟨rfl, before, isBefore, rfl⟩ | ⟨_, isFound⟩
    · exact absurd isConnected (status before isBefore)
    · exact owned.connected isFound isConnected
  building := by
    intro other object attempt found isFound isAttempt isBuilding
    rcases of_modifyEntry isFound with ⟨rfl, before, isBefore, rfl⟩ | ⟨_, isFound⟩
    · rcases connecting before attempt found isBefore isAttempt isBuilding with
        ⟨earlier, wasAttempt, sameBorn, wasBuilding⟩
      rw [← sameBorn]
      exact owned.building isBefore wasAttempt wasBuilding
    · exact owned.building isFound isAttempt isBuilding

/-- A transport that no entry holds and no attempt means to record is closed. -/
theorem close (owned : hub.Owned) {transport : TransportId}
    (released : ∀ (entry : EntryId) object, hub.entries[entry]? = some object →
      object.transport ≠ some transport ∧
        ∀ attempt, object.connecting = some attempt → attempt.phase.transport ≠ some transport) :
    (hub.close transport).Owned where
  current := by
    intro entry object found isFound isCurrent
    have different : transport ≠ found := fun same =>
      (released entry object isFound).1 (same ▸ isCurrent)
    rw [SshRemoteHub.close, getElem?_modifyTransport, if_neg different]
    exact owned.current isFound isCurrent
  connected := owned.connected
  building := by
    intro entry object attempt found isFound isAttempt isBuilding
    have different : transport ≠ found := fun same =>
      (released entry object isFound).2 attempt isAttempt (same ▸ isBuilding)
    rw [SshRemoteHub.close, getElem?_modifyTransport, if_neg different]
    exact owned.building isFound isAttempt isBuilding

/-- What an entry owns, no other entry and no attempt does. -/
theorem unique (owned : hub.Owned) {entry other : EntryId} {object another : TargetEntry}
    {transport : TransportId} (found : hub.entries[entry]? = some object)
    (current : object.transport = some transport) (isOther : hub.entries[other]? = some another) :
    (another.transport = some transport → entry = other) ∧
      ∀ attempt, another.connecting = some attempt →
        attempt.phase.transport ≠ some transport := by
  rcases owned.current found current with ⟨opened, isOpened, own, watched, _⟩
  constructor
  · intro shared
    rcases owned.current isOther shared with ⟨same, isSame, ownToo, _⟩
    cases isOpened.symm.trans isSame
    exact own.symm.trans ownToo
  · intro attempt isAttempt shared
    rcases owned.building isOther isAttempt shared with ⟨same, isSame, _, unwatched, _⟩
    cases isOpened.symm.trans isSame
    rw [watched] at unwatched
    cases unwatched

/-- What an attempt means to record, no entry owns and no attempt of another one does. -/
theorem unique_building (owned : hub.Owned) {entry other : EntryId} {object another : TargetEntry}
    {attempt : Attempt} {transport : TransportId} (found : hub.entries[entry]? = some object)
    (isAttempt : object.connecting = some attempt)
    (building : attempt.phase.transport = some transport)
    (isOther : hub.entries[other]? = some another) :
    another.transport ≠ some transport ∧
      ∀ attempt, another.connecting = some attempt →
        attempt.phase.transport = some transport → entry = other := by
  rcases owned.building found isAttempt building with ⟨opened, isOpened, own, unwatched, _⟩
  constructor
  · exact fun shared => (owned.unique isOther shared found).2 attempt isAttempt building
  · intro another isAnother shared
    rcases owned.building isOther isAnother shared with ⟨same, isSame, ownToo, _⟩
    cases isOpened.symm.trans isSame
    exact own.symm.trans ownToo

/-! ## Each stretch of code -/

theorem holdsNone (owned : hub.Owned) {entry : EntryId} {object : TargetEntry}
    (found : hub.entries[entry]? = some object) (inactive : object.status ≠ .connected) :
    hub.HoldsNone object := by
  intro transport opened current isOpened
  rcases owned.current found current with ⟨same, isSame, _, _, _, lost⟩
  cases isOpened.symm.trans isSame
  exact lost inactive

theorem inactive (owned : hub.Owned) {entry : EntryId} {object : TargetEntry}
    (found : hub.entries[entry]? = some object) {attempt : Attempt}
    (isAttempt : object.connecting = some attempt) : object.status ≠ .connected := by
  intro isConnected
  have idle := (owned.connected found isConnected).2
  rw [isAttempt] at idle
  cases idle

theorem emit (owned : hub.Owned) (event : LifecycleEvent) (target : TargetId) :
    (hub.emit event target).Owned :=
  owned.frame rfl rfl

theorem settleDisconnect (owned : hub.Owned) (target : TargetId) (caller : DisconnectCaller) :
    (hub.settleDisconnect target caller).Owned := by
  cases caller <;> exact owned.frame rfl rfl

theorem tearDown (owned : hub.Owned) (entry : EntryId) (caller : DisconnectCaller) :
    (hub.tearDown entry caller).Owned := by
  unfold SshRemoteHub.tearDown
  split
  · exact owned
  · next object found =>
      have cleared : (hub.modifyEntry entry fun object => { object with
          transport := none, runtimeRoot := none, status := .disconnected }).Owned :=
        owned.modifyEntry entry (fun _ _ => Or.inl rfl) (fun _ _ => nofun)
          (fun object attempt opening _ isAttempt building => ⟨attempt, isAttempt, rfl, building⟩)
      split
      · next transport current =>
          refine (cleared.close ?_).frame rfl rfl
          intro other another isFound
          rcases of_modifyEntry isFound with ⟨rfl, before, isBefore, rfl⟩ | ⟨different, isOther⟩
          · cases found.symm.trans isBefore
            exact ⟨nofun, (owned.unique found current found).2⟩
          · have unique := owned.unique found current isOther
            exact ⟨fun shared => different (unique.1 shared), unique.2⟩
      · dsimp only
        split
        · exact (cleared.emit _ _).settleDisconnect _ _
        · exact cleared.settleDisconnect _ _

theorem disconnect (owned : hub.Owned) (id : TargetId) (caller : DisconnectCaller) :
    (hub.disconnect id caller).Owned := by
  unfold SshRemoteHub.disconnect
  split
  · exact owned.settleDisconnect _ _
  · split
    · exact owned.frame rfl rfl
    · exact owned.tearDown _ _

theorem disconnects (owned : hub.Owned) (ids : List TargetId) (caller : DisconnectCaller) :
    (ids.foldl (fun hub id => hub.disconnect id caller) hub).Owned := by
  induction ids generalizing hub with
  | nil => exact owned
  | cons id rest induction => exact induction (owned.disconnect id caller)

theorem connect (owned : hub.Owned) (id : TargetId) : (hub.connect id).Owned := by
  rcases connect_cases hub id with same | ⟨entry, object, _, found, _, notConnected, begun⟩
  · rw [same]
    exact owned
  · rw [begun]
    have counted : Owned { hub with attempts := hub.attempts + 1 } := owned.frame rfl rfl
    have idle : object.status ≠ .connected := fun isConnected =>
      notConnected ⟨isConnected, (owned.connected found isConnected).1⟩
    refine counted.modifyEntry entry ?_ (fun _ _ => nofun) ?_
    · intro other isOther
      cases found.symm.trans isOther
      exact Or.inr ⟨rfl, owned.holdsNone found idle⟩
    · intro other attempt opening _ isAttempt building
      cases isAttempt
      cases building

theorem setPhase (owned : hub.Owned) {entry : EntryId} {object : TargetEntry} {attempt : Attempt}
    (found : hub.entries[entry]? = some object) (isAttempt : object.connecting = some attempt)
    {phase : AttemptPhase} (same : ∀ transport, phase.transport = some transport →
      attempt.phase.transport = some transport) :
    (hub.setPhase entry attempt phase).Owned := by
  refine owned.modifyEntry entry ?_ ?_ ?_
  · intro other isOther
    cases found.symm.trans isOther
    exact Or.inr ⟨rfl, owned.holdsNone found (owned.inactive found isAttempt)⟩
  · intro other isOther
    cases found.symm.trans isOther
    have idle := owned.inactive found isAttempt
    exact idle
  · intro other changed opening isOther isChanged building
    cases found.symm.trans isOther
    cases isChanged
    exact ⟨attempt, isAttempt, rfl, same opening building⟩

theorem failAttempt (owned : hub.Owned) {entry : EntryId} {object : TargetEntry}
    {attempt : Attempt} (found : hub.entries[entry]? = some object)
    (isAttempt : object.connecting = some attempt) {transport : Option TransportId}
    (building : attempt.phase.transport = transport) :
    (hub.failAttempt entry attempt transport).Owned := by
  have failing : (hub.modifyEntry entry fun object => { object with
      status := .disconnected
      connecting := some { attempt with phase := .failing transport } }).Owned := by
    refine owned.modifyEntry entry ?_ (fun _ _ => nofun) ?_
    · intro other isOther
      cases found.symm.trans isOther
      exact Or.inr ⟨rfl, owned.holdsNone found (owned.inactive found isAttempt)⟩
    · intro other changed opening _ isChanged isBuilding
      cases isChanged
      cases isBuilding
  cases transport with
  | none => exact failing
  | some transport =>
      refine failing.close fun other another isFound => ?_
      rcases of_modifyEntry isFound with ⟨rfl, before, isBefore, rfl⟩ | ⟨different, isOther⟩
      · cases found.symm.trans isBefore
        refine ⟨(owned.unique_building found isAttempt building found).1, ?_⟩
        intro changed isChanged
        cases isChanged
        exact nofun
      · have unique := owned.unique_building found isAttempt building isOther
        exact ⟨unique.1, fun changed isChanged shared =>
          different (unique.2 changed isChanged shared)⟩

theorem opened (owned : hub.Owned) {entry : EntryId} {object : TargetEntry} {attempt : Attempt}
    (found : hub.entries[entry]? = some object) (isAttempt : object.connecting = some attempt) :
    (SshRemoteHub.setPhase { hub with
      transports := hub.transports ++ [{ entry := entry, born := attempt.born }] } entry attempt
        (.preparing hub.transports.length)).Owned := by
  have old : ∀ {transport : TransportId} {before}, hub.transports[transport]? = some before →
      (hub.transports ++ [({ entry := entry, born := attempt.born } : SshTransport)])[transport]? =
        some before := by
    intro transport before isBefore
    rw [List.getElem?_append_left (List.getElem?_eq_some_iff.mp isBefore).1]
    exact isBefore
  have idle := owned.inactive found isAttempt
  constructor
  · intro other another transport isFound current
    rcases of_modifyEntry isFound with ⟨rfl, before, isBefore, rfl⟩ | ⟨_, isOther⟩
    · rcases owned.current isBefore current with ⟨opening, isOpening, facts⟩
      exact ⟨opening, old isOpening, facts⟩
    · rcases owned.current isOther current with ⟨opening, isOpening, facts⟩
      exact ⟨opening, old isOpening, facts⟩
  · intro other another isFound isConnected
    rcases of_modifyEntry isFound with ⟨rfl, before, isBefore, rfl⟩ | ⟨_, isOther⟩
    · cases found.symm.trans isBefore
      exact absurd isConnected idle
    · exact owned.connected isOther isConnected
  · intro other another changed transport isFound isChanged building
    rcases of_modifyEntry isFound with ⟨rfl, before, isBefore, rfl⟩ | ⟨_, isOther⟩
    · cases isChanged
      cases building
      exact ⟨_, List.getElem?_concat_length .., rfl, rfl, rfl, rfl⟩
    · rcases owned.building isOther isChanged building with ⟨opening, isOpening, facts⟩
      exact ⟨opening, old isOpening, facts⟩

theorem recorded (owned : hub.Owned) {entry : EntryId} {object : TargetEntry} {attempt : Attempt}
    (found : hub.entries[entry]? = some object) (isAttempt : object.connecting = some attempt)
    {transport : TransportId} {root : String}
    (phase : attempt.phase = .recording transport root) :
    ((hub.modifyEntry entry fun object => { object with
      transport := some transport
      runtimeRoot := some root
      status := .connected
      connecting := none }).modifyTransport transport fun object =>
        { object with watched := true }).Owned := by
  have isBuilding : attempt.phase.transport = some transport := by rw [phase]; rfl
  rcases owned.building found isAttempt isBuilding with ⟨opening, isOpening, own, _, open_, _⟩
  constructor
  · intro other another current isFound isCurrent
    rw [getElem?_modifyTransport]
    rcases of_modifyEntry isFound with ⟨rfl, before, isBefore, rfl⟩ | ⟨_, isOther⟩
    · cases isCurrent
      rw [if_pos rfl]
      exact ⟨_, Option.map_eq_some_iff.mpr ⟨opening, isOpening, rfl⟩, own, rfl, open_,
        fun inactive => absurd rfl inactive⟩
    · have different : transport ≠ current := fun same =>
        (owned.unique_building found isAttempt isBuilding isOther).1 (same ▸ isCurrent)
      rw [if_neg different]
      exact owned.current isOther isCurrent
  · intro other another isFound isConnected
    rcases of_modifyEntry isFound with ⟨rfl, before, isBefore, rfl⟩ | ⟨_, isOther⟩
    · exact ⟨rfl, rfl⟩
    · exact owned.connected isOther isConnected
  · intro other another changed current isFound isChanged building
    rw [getElem?_modifyTransport]
    rcases of_modifyEntry isFound with ⟨rfl, before, isBefore, rfl⟩ | ⟨different, isOther⟩
    · cases isChanged
    · have notSame : transport ≠ current := fun same => different
        ((owned.unique_building found isAttempt isBuilding isOther).2 changed isChanged
          (same ▸ building))
      rw [if_neg notSame]
      exact owned.building isOther isChanged building

theorem closeEmitted (owned : hub.Owned) (transport : TransportId) :
    (hub.modifyTransport transport fun object => { object with closeEmitted := true }).Owned where
  current := by
    intro entry object found isFound isCurrent
    rcases owned.current isFound isCurrent with ⟨opened, isOpened, own, watched, open_, lost⟩
    rw [getElem?_modifyTransport]
    split
    · exact ⟨_, Option.map_eq_some_iff.mpr ⟨opened, isOpened, rfl⟩, own, watched, open_,
        fun _ => rfl⟩
    · exact ⟨opened, isOpened, own, watched, open_, lost⟩
  connected := owned.connected
  building := by
    intro entry object attempt found isFound isAttempt isBuilding
    rcases owned.building isFound isAttempt isBuilding with ⟨opened, isOpened, own, facts⟩
    rw [getElem?_modifyTransport]
    split
    · exact ⟨_, Option.map_eq_some_iff.mpr ⟨opened, isOpened, rfl⟩, own, facts⟩
    · exact ⟨opened, isOpened, own, facts⟩

theorem clientClosed (owned : hub.Owned) {transport : TransportId} {object : SshTransport}
    (found : hub.transports[transport]? = some object) :
    (hub.clientClosed transport object).Owned := by
  have closed := owned.closeEmitted transport
  unfold SshRemoteHub.clientClosed
  dsimp only
  split
  · exact closed
  · split
    · exact closed
    · next entry isEntry =>
        split
        · exact closed
        · next current =>
            rw [ne_eq, not_not] at current
            refine Owned.emit
              (closed.modifyEntry object.entry ?_ (fun _ _ same => by cases same) ?_) _ _
            · intro other isOther
              cases isEntry.symm.trans isOther
              refine Or.inr ⟨rfl, fun {lost opened} isLost isOpened => ?_⟩
              cases current.symm.trans isLost
              rw [getElem?_modifyTransport, if_pos rfl, found] at isOpened
              cases isOpened
              rfl
            · exact fun other attempt opening _ isAttempt building =>
                ⟨attempt, isAttempt, rfl, building⟩

theorem empty : Owned {} where
  current := nofun
  connected := nofun
  building := nofun

end Owned

theorem attemptOf_eq_some_iff {hub : SshRemoteHub} {entry : EntryId} {attempt : Attempt} :
    hub.attemptOf entry = some attempt ↔
      ∃ object, hub.entries[entry]? = some object ∧ object.connecting = some attempt := by
  simp [attemptOf, Option.bind_eq_some_iff]

/-- What each event does where it is possible. -/
inductive Stepped (hub : SshRemoteHub) : HubEvent → SshRemoteHub → Prop
  | addTarget {id : TargetId} (absent : hub.registered.has id = false) :
      Stepped hub (.addTarget id) { hub with
        registered := hub.registered.set id hub.entries.length
        entries := hub.entries ++ [{ id := id }] }
  | removeTarget {id : TargetId} (isRegistered : hub.registered.has id = true) :
      Stepped hub (.removeTarget id) (hub.disconnect id .removeTarget)
  | removeUnknown (id : TargetId) : Stepped hub (.removeTarget id) hub
  | connect (id : TargetId) : Stepped hub (.connect id) (hub.connect id)
  | disconnect (id : TargetId) : Stepped hub (.disconnect id) (hub.disconnect id .user)
  | dispose : Stepped hub .dispose
      (hub.registered.keys.foldl (fun hub id => hub.disconnect id .dispose)
        { hub with disposals := hub.disposals + 1 })
  | opened {entry : EntryId} {object : TargetEntry} {attempt : Attempt}
      (found : hub.entries[entry]? = some object) (isAttempt : object.connecting = some attempt)
      (opening : attempt.phase = .opening) :
      Stepped hub (.opened entry true)
        (setPhase { hub with
          transports := hub.transports ++ [{ entry := entry, born := attempt.born }] }
          entry attempt (.preparing hub.transports.length))
  | openFailed {entry : EntryId} {object : TargetEntry} {attempt : Attempt}
      (found : hub.entries[entry]? = some object) (isAttempt : object.connecting = some attempt)
      (opening : attempt.phase = .opening) :
      Stepped hub (.opened entry false) (hub.failAttempt entry attempt none)
  | rootMade {entry : EntryId} {object : TargetEntry} {attempt : Attempt}
      {transport : TransportId} {root : String} (found : hub.entries[entry]? = some object)
      (isAttempt : object.connecting = some attempt)
      (phase : attempt.phase = .preparing transport) :
      Stepped hub (.rootMade entry root) (hub.setPhase entry attempt (.recording transport root))
  | rootFailed {entry : EntryId} {object : TargetEntry} {attempt : Attempt}
      {transport : TransportId} (found : hub.entries[entry]? = some object)
      (isAttempt : object.connecting = some attempt)
      (phase : attempt.phase = .preparing transport) :
      Stepped hub (.rootFailed entry) (hub.failAttempt entry attempt (some transport))
  | recorded {entry : EntryId} {object : TargetEntry} {attempt : Attempt}
      {transport : TransportId} {root : String} (found : hub.entries[entry]? = some object)
      (isAttempt : object.connecting = some attempt)
      (phase : attempt.phase = .recording transport root) :
      Stepped hub (.recorded entry) (((hub.modifyEntry entry fun object => { object with
          transport := some transport
          runtimeRoot := some root
          status := .connected
          connecting := none }).modifyTransport transport fun object =>
            { object with watched := true }).emit .connected object.id)
  | gaveUp {entry : EntryId} {object : TargetEntry} {attempt : Attempt}
      {transport : Option TransportId} (found : hub.entries[entry]? = some object)
      (isAttempt : object.connecting = some attempt)
      (phase : attempt.phase = .failing transport) :
      Stepped hub (.gaveUp entry)
        (hub.modifyEntry entry fun object => { object with connecting := none })
  | attemptAwaited {entry : EntryId} {number : Nat} {caller : DisconnectCaller}
      (pending : .awaitingAttempt entry number caller ∈ hub.tasks)
      (finished : (hub.attemptOf entry).map Attempt.number ≠ some number) :
      Stepped hub (.attemptAwaited entry number caller)
        (tearDown { hub with tasks := hub.tasks.erase (.awaitingAttempt entry number caller) }
          entry caller)
  | closeAwaited {entry : EntryId} {object : TargetEntry} {transport : TransportId}
      {wasActive : Bool} {caller : DisconnectCaller}
      (pending : .awaitingClose entry transport wasActive caller ∈ hub.tasks)
      (found : hub.entries[entry]? = some object) {next : SshRemoteHub}
      (isNext : next = { hub with
        tasks := hub.tasks.erase (.awaitingClose entry transport wasActive caller) }) :
      Stepped hub (.closeAwaited entry transport wasActive caller)
        ((if wasActive then next.emit .disconnected object.id else next).settleDisconnect
          object.id caller)
  | removalAwaited {target : TargetId}
      (pending : .disconnected target .removeTarget ∈ hub.tasks) :
      Stepped hub (.disconnectAwaited target .removeTarget) { hub with
        tasks := hub.tasks.erase (.disconnected target .removeTarget)
        registered := hub.registered.delete target }
  | disconnectAwaited {target : TargetId} {caller : DisconnectCaller}
      (pending : .disconnected target caller ∈ hub.tasks) (kept : caller ≠ .removeTarget) :
      Stepped hub (.disconnectAwaited target caller)
        { hub with tasks := hub.tasks.erase (.disconnected target caller) }
  | clientClosed {transport : TransportId} {object : SshTransport}
      (found : hub.transports[transport]? = some object)
      (before : object.closeEmitted = false) :
      Stepped hub (.clientClosed transport) (hub.clientClosed transport object)

theorem stepped_of_step {hub next : SshRemoteHub} {event : HubEvent}
    (stepped : hub.step event = some next) : Stepped hub event next := by
  cases event with
  | addTarget id =>
      simp only [SshRemoteHub.step] at stepped
      split at stepped
      · cases stepped
      · next absent =>
          cases stepped
          exact .addTarget (Bool.not_eq_true _ ▸ absent)
  | removeTarget id =>
      cases stepped
      split
      · next isRegistered => exact .removeTarget isRegistered
      · exact .removeUnknown id
  | connect id =>
      cases stepped
      exact .connect id
  | disconnect id =>
      cases stepped
      exact .disconnect id
  | dispose =>
      cases stepped
      exact .dispose
  | opened entry succeeded =>
      simp only [SshRemoteHub.step] at stepped
      split at stepped
      · next attempt isAttempt =>
          rcases attemptOf_eq_some_iff.mp isAttempt with ⟨object, found, isAttempt⟩
          split at stepped
          · cases stepped
          · next opening =>
              rw [ne_eq, not_not] at opening
              cases succeeded with
              | true =>
                  cases stepped
                  exact .opened found isAttempt opening
              | false =>
                  cases stepped
                  exact .openFailed found isAttempt opening
      · cases stepped
  | rootMade entry root =>
      simp only [SshRemoteHub.step] at stepped
      split at stepped
      · next attempt isAttempt =>
          rcases attemptOf_eq_some_iff.mp isAttempt with ⟨object, found, isAttempt⟩
          split at stepped
          · next transport phase =>
              split at stepped
              · cases stepped
              · cases stepped
                exact .rootMade found isAttempt phase
          · cases stepped
      · cases stepped
  | rootFailed entry =>
      simp only [SshRemoteHub.step] at stepped
      split at stepped
      · next attempt isAttempt =>
          rcases attemptOf_eq_some_iff.mp isAttempt with ⟨object, found, isAttempt⟩
          split at stepped
          · next transport phase =>
              cases stepped
              exact .rootFailed found isAttempt phase
          · cases stepped
      · cases stepped
  | recorded entry =>
      simp only [SshRemoteHub.step] at stepped
      split at stepped
      · next object found =>
          split at stepped
          · next transport root phase =>
              cases stepped
              rcases Option.map_eq_some_iff.mp phase with ⟨attempt, isAttempt, isPhase⟩
              exact .recorded found isAttempt isPhase
          · cases stepped
      · cases stepped
  | gaveUp entry =>
      simp only [SshRemoteHub.step] at stepped
      split at stepped
      · next attempt isAttempt =>
          rcases attemptOf_eq_some_iff.mp isAttempt with ⟨object, found, isAttempt⟩
          split at stepped
          · next transport phase =>
              split at stepped
              · cases stepped
              · cases stepped
                exact .gaveUp found isAttempt phase
          · cases stepped
      · cases stepped
  | attemptAwaited entry number caller =>
      simp only [SshRemoteHub.step] at stepped
      split at stepped
      · next waited =>
          cases stepped
          exact .attemptAwaited waited.1 waited.2
      · cases stepped
  | closeAwaited entry transport wasActive caller =>
      simp only [SshRemoteHub.step] at stepped
      split at stepped
      · next waited =>
          rcases Option.map_eq_some_iff.mp stepped with ⟨object, found, isNext⟩
          subst isNext
          exact .closeAwaited waited.1 found rfl
      · cases stepped
  | disconnectAwaited target caller =>
      simp only [SshRemoteHub.step] at stepped
      split at stepped
      · next pending =>
          cases stepped
          cases caller with
          | removeTarget => exact .removalAwaited pending
          | dispose => exact .disconnectAwaited pending nofun
          | user => exact .disconnectAwaited pending nofun
      · cases stepped
  | clientClosed transport =>
      simp only [SshRemoteHub.step] at stepped
      split at stepped
      · next object found =>
          split at stepped
          · cases stepped
          · next before =>
              cases stepped
              exact .clientClosed found (Bool.not_eq_true _ ▸ before)
      · cases stepped

theorem Owned.step {hub next : SshRemoteHub} (owned : hub.Owned) {event : HubEvent}
    (stepped : hub.step event = some next) : next.Owned := by
  cases stepped_of_step stepped with
  | addTarget absent =>
      constructor
      · intro entry object transport found current
        rcases of_getElem?_concat found with old | ⟨_, rfl⟩
        · exact owned.current old current
        · cases current
      · intro entry object found isConnected
        rcases of_getElem?_concat found with old | ⟨_, rfl⟩
        · exact owned.connected old isConnected
        · cases isConnected
      · intro entry object attempt transport found isAttempt building
        rcases of_getElem?_concat found with old | ⟨_, rfl⟩
        · exact owned.building old isAttempt building
        · cases isAttempt
  | removeTarget isRegistered => exact owned.disconnect _ _
  | removeUnknown id => exact owned
  | connect id => exact owned.connect id
  | disconnect id => exact owned.disconnect _ _
  | dispose =>
      have counted : Owned { hub with disposals := hub.disposals + 1 } := owned.frame rfl rfl
      exact counted.disconnects _ _
  | opened found isAttempt opening => exact owned.opened found isAttempt
  | openFailed found isAttempt opening =>
      exact owned.failAttempt found isAttempt (by rw [opening]; rfl)
  | rootMade found isAttempt phase =>
      refine owned.setPhase found isAttempt fun opening same => ?_
      rw [phase]
      exact same
  | rootFailed found isAttempt phase =>
      exact owned.failAttempt found isAttempt (by rw [phase]; rfl)
  | recorded found isAttempt phase => exact (owned.recorded found isAttempt phase).emit _ _
  | gaveUp found isAttempt phase =>
      have idle := owned.inactive found isAttempt
      refine owned.modifyEntry _ ?_ ?_ (fun _ _ _ _ => nofun)
      · intro other isOther
        cases found.symm.trans isOther
        exact Or.inr ⟨rfl, owned.holdsNone found idle⟩
      · intro other isOther
        cases found.symm.trans isOther
        exact idle
  | attemptAwaited pending finished => exact (owned.withTasks _).tearDown _ _
  | closeAwaited pending found isNext =>
      subst isNext
      split
      · exact ((owned.withTasks _).emit _ _).settleDisconnect _ _
      · exact (owned.withTasks _).settleDisconnect _ _
  | removalAwaited pending => exact owned.frame rfl rfl
  | disconnectAwaited pending kept => exact owned.frame rfl rfl
  | clientClosed found before => exact owned.clientClosed found

/-! ## Dead transports -/

/-- `establish` records a transport whose `close` event was emitted before anything listened
to it. -/
def recordsDropped (hub : SshRemoteHub) : HubEvent → Bool
  | .recorded entry =>
      ((hub.attemptOf entry).bind fun attempt => attempt.phase.transport).any hub.isClosed
  | _ => false

/-- The transport of a connected entry has not dropped. -/
structure Live (hub : SshRemoteHub) : Prop where
  alive : ∀ {entry : EntryId} {object : TargetEntry} {transport : TransportId}
    {opened : SshTransport}, hub.entries[entry]? = some object → object.status = .connected →
      object.transport = some transport → hub.transports[transport]? = some opened →
        opened.closeEmitted = false

namespace Live

variable {hub : SshRemoteHub}

theorem frame (live : hub.Live) {next : SshRemoteHub} (entries : next.entries = hub.entries)
    (transports : next.transports = hub.transports) : next.Live := by
  constructor
  intro entry object transport opened found isConnected current isOpened
  rw [entries] at found
  rw [transports] at isOpened
  exact live.alive found isConnected current isOpened

theorem withTasks (live : hub.Live) (tasks : List HubTask) :
    Live { hub with tasks := tasks } :=
  live.frame rfl rfl

theorem emit (live : hub.Live) (event : LifecycleEvent) (target : TargetId) :
    (hub.emit event target).Live :=
  live.frame rfl rfl

theorem settleDisconnect (live : hub.Live) (target : TargetId) (caller : DisconnectCaller) :
    (hub.settleDisconnect target caller).Live := by
  cases caller <;> exact live.frame rfl rfl

theorem modifyEntry (live : hub.Live) (entry : EntryId) {change : TargetEntry → TargetEntry}
    (status : ∀ object, hub.entries[entry]? = some object →
      (change object).status ≠ .connected) : (hub.modifyEntry entry change).Live := by
  constructor
  intro other object transport opened found isConnected current isOpened
  rcases of_modifyEntry found with ⟨rfl, before, isBefore, rfl⟩ | ⟨_, isOther⟩
  · exact absurd isConnected (status before isBefore)
  · exact live.alive isOther isConnected current isOpened

theorem close (live : hub.Live) (transport : TransportId) : (hub.close transport).Live := by
  constructor
  intro entry object current opened found isConnected isCurrent isOpened
  rw [SshRemoteHub.close, getElem?_modifyTransport] at isOpened
  split at isOpened
  · rcases Option.map_eq_some_iff.mp isOpened with ⟨before, isBefore, rfl⟩
    have alive := live.alive found isConnected isCurrent isBefore
    exact alive
  · exact live.alive found isConnected isCurrent isOpened

theorem tearDown (live : hub.Live) (entry : EntryId) (caller : DisconnectCaller) :
    (hub.tearDown entry caller).Live := by
  have cleared : (hub.modifyEntry entry fun object => { object with
      transport := none, runtimeRoot := none, status := .disconnected }).Live :=
    live.modifyEntry entry fun _ _ same => by cases same
  unfold SshRemoteHub.tearDown
  split
  · exact live
  · split
    · exact (cleared.close _).frame rfl rfl
    · dsimp only
      split
      · exact (cleared.emit _ _).settleDisconnect _ _
      · exact cleared.settleDisconnect _ _

theorem disconnect (live : hub.Live) (id : TargetId) (caller : DisconnectCaller) :
    (hub.disconnect id caller).Live := by
  unfold SshRemoteHub.disconnect
  split
  · exact live.settleDisconnect _ _
  · split
    · exact live.frame rfl rfl
    · exact live.tearDown _ _

theorem disconnects (live : hub.Live) (ids : List TargetId) (caller : DisconnectCaller) :
    (ids.foldl (fun hub id => hub.disconnect id caller) hub).Live := by
  induction ids generalizing hub with
  | nil => exact live
  | cons id rest induction => exact induction (live.disconnect id caller)

theorem connect (live : hub.Live) (id : TargetId) : (hub.connect id).Live := by
  rcases connect_cases hub id with same | ⟨entry, object, _, _, _, _, begun⟩
  · rw [same]
    exact live
  · rw [begun]
    have counted : Live { hub with attempts := hub.attempts + 1 } := live.frame rfl rfl
    exact counted.modifyEntry _ fun _ _ same => by cases same

theorem failAttempt (live : hub.Live) (entry : EntryId) (attempt : Attempt)
    (transport : Option TransportId) : (hub.failAttempt entry attempt transport).Live := by
  have failing : (hub.modifyEntry entry fun object => { object with
      status := .disconnected
      connecting := some { attempt with phase := .failing transport } }).Live :=
    live.modifyEntry entry fun _ _ same => by cases same
  cases transport with
  | none => exact failing
  | some transport => exact failing.close transport

/-- A transport that drops takes its entry out of the connected ones: the entry has set the
callback when it recorded the transport. -/
theorem clientClosed (live : hub.Live) (owned : hub.Owned) {transport : TransportId}
    {object : SshTransport} (found : hub.transports[transport]? = some object) :
    (hub.clientClosed transport object).Live := by
  -- A connected entry that refers to the transport is the one the callback degrades.
  have others : ∀ {entry : EntryId} {target : TargetEntry} {current : TransportId}
      {opened : SshTransport}, hub.entries[entry]? = some target → target.status = .connected →
        target.transport = some current →
          (hub.modifyTransport transport fun object =>
            { object with closeEmitted := true }).transports[current]? = some opened →
              current ≠ transport → opened.closeEmitted = false := by
    intro entry target current opened isEntry isConnected isCurrent isOpened different
    rw [getElem?_modifyTransport, if_neg different.symm] at isOpened
    exact live.alive isEntry isConnected isCurrent isOpened
  have degraded : ∀ {entry : EntryId} {target : TargetEntry}, hub.entries[entry]? = some target →
      target.transport = some transport →
        object.entry = entry ∧ object.closing = false ∧ object.watched = true := by
    intro entry target isEntry isCurrent
    rcases owned.current isEntry isCurrent with ⟨opened, isOpened, own, watched, open_, _⟩
    cases found.symm.trans isOpened
    exact ⟨own, open_, watched⟩
  unfold SshRemoteHub.clientClosed
  dsimp only
  split
  · next ignored =>
      constructor
      intro entry target current opened isEntry isConnected isCurrent isOpened
      refine others isEntry isConnected isCurrent isOpened ?_
      rintro rfl
      rcases degraded isEntry isCurrent with ⟨_, open_, watched⟩
      simp [open_, watched] at ignored
  · split
    · next absent =>
        constructor
        intro entry target current opened isEntry isConnected isCurrent isOpened
        refine others isEntry isConnected isCurrent isOpened ?_
        rintro rfl
        rw [(degraded isEntry isCurrent).1] at absent
        cases absent.symm.trans isEntry
    · next holder isHolder =>
        split
        · next stale =>
            constructor
            intro entry target current opened isEntry isConnected isCurrent isOpened
            refine others isEntry isConnected isCurrent isOpened ?_
            rintro rfl
            rw [(degraded isEntry isCurrent).1] at isHolder
            cases isHolder.symm.trans isEntry
            exact stale isCurrent
        · refine Live.emit ⟨?_⟩ _ _
          intro entry target current opened isEntry isConnected isCurrent isOpened
          rcases of_modifyEntry isEntry with ⟨rfl, before, isBefore, rfl⟩ | ⟨different, isOther⟩
          · cases isConnected
          · refine others isOther isConnected isCurrent isOpened ?_
            rintro rfl
            exact different (degraded isOther isCurrent).1

theorem step {next : SshRemoteHub} (live : hub.Live) (owned : hub.Owned) {event : HubEvent}
    (alive : hub.recordsDropped event = false) (stepped : hub.step event = some next) :
    next.Live := by
  -- An entry with an attempt is not connected.
  have idle : ∀ {entry : EntryId} {object : TargetEntry} {attempt : Attempt},
      hub.entries[entry]? = some object → object.connecting = some attempt →
        ∀ other, hub.entries[entry]? = some other → other.status ≠ .connected := by
    intro entry object attempt found isAttempt other isOther
    cases found.symm.trans isOther
    exact owned.inactive found isAttempt
  cases stepped_of_step stepped with
  | addTarget absent =>
      constructor
      intro entry object transport opened found isConnected current isOpened
      rcases of_getElem?_concat found with old | ⟨_, rfl⟩
      · exact live.alive old isConnected current isOpened
      · cases isConnected
  | removeTarget isRegistered => exact live.disconnect _ _
  | removeUnknown id => exact live
  | connect id => exact live.connect id
  | disconnect id => exact live.disconnect _ _
  | dispose =>
      have counted : Live { hub with disposals := hub.disposals + 1 } := live.frame rfl rfl
      exact counted.disconnects _ _
  | @opened entry object attempt found isAttempt opening =>
      have longer : Live { hub with transports :=
          hub.transports ++ [{ entry := entry, born := attempt.born }] } := by
        constructor
        intro other another transport opened isFound isConnected current isOpened
        rcases owned.current isFound current with ⟨before, isBefore, _⟩
        rw [List.getElem?_append_left (List.getElem?_eq_some_iff.mp isBefore).1] at isOpened
        exact live.alive isFound isConnected current isOpened
      exact longer.modifyEntry entry (idle found isAttempt)
  | openFailed found isAttempt opening => exact live.failAttempt _ _ _
  | rootMade found isAttempt phase => exact live.modifyEntry _ (idle found isAttempt)
  | rootFailed found isAttempt phase => exact live.failAttempt _ _ _
  | @recorded entry object attempt transport root found isAttempt phase =>
      refine Live.emit ⟨?_⟩ _ _
      intro other another current opened isFound isConnected isCurrent isOpened
      have unmarked : ∃ before, hub.transports[current]? = some before ∧
          before.closeEmitted = opened.closeEmitted := by
        rw [getElem?_modifyTransport] at isOpened
        split at isOpened
        · rcases Option.map_eq_some_iff.mp isOpened with ⟨before, isBefore, rfl⟩
          exact ⟨before, isBefore, rfl⟩
        · exact ⟨opened, isOpened, rfl⟩
      rcases unmarked with ⟨before, isBefore, same⟩
      rw [← same]
      rcases of_modifyEntry isFound with ⟨rfl, earlier, isEarlier, rfl⟩ | ⟨_, isOther⟩
      · cases isCurrent
        have isAttemptOf := attemptOf_eq_some_iff.mpr ⟨object, found, isAttempt⟩
        simp only [recordsDropped, isAttemptOf, Option.bind_some, phase,
          AttemptPhase.transport, Option.any_some, isClosed, isBefore] at alive
        exact alive
      · exact live.alive isOther isConnected isCurrent isBefore
  | gaveUp found isAttempt phase => exact live.modifyEntry _ (idle found isAttempt)
  | attemptAwaited pending finished => exact (live.withTasks _).tearDown _ _
  | closeAwaited pending found isNext =>
      subst isNext
      split
      · exact ((live.withTasks _).emit _ _).settleDisconnect _ _
      · exact (live.withTasks _).settleDisconnect _ _
  | removalAwaited pending => exact live.frame rfl rfl
  | disconnectAwaited pending kept => exact live.frame rfl rfl
  | clientClosed found before => exact live.clientClosed owned found

end Live

/-- A target whose status is `connected` hands out a transport that was neither closed nor
dropped. -/
def ConnectedAlive (hub : SshRemoteHub) : Prop :=
  ∀ id, hub.status id = .connected →
    ∃ transport opened, hub.get id = some transport ∧
      hub.transports[transport]? = some opened ∧ opened.gone = false

theorem Live.connectedAlive {hub : SshRemoteHub} (live : hub.Live) (owned : hub.Owned) :
    hub.ConnectedAlive := by
  intro id isConnected
  cases isEntry : hub.registered.get id with
  | none => simp [status, entryOf, isEntry] at isConnected
  | some entry =>
      cases found : hub.entries[entry]? with
      | none => simp [status, entryOf, isEntry, found] at isConnected
      | some object =>
          have active : object.status = .connected := by
            simpa [status, entryOf, isEntry, found] using isConnected
          rcases Option.isSome_iff_exists.mp (owned.connected found active).1 with
            ⟨transport, current⟩
          rcases owned.current found current with ⟨opened, isOpened, _, _, open_, _⟩
          refine ⟨transport, opened, ?_, isOpened, ?_⟩
          · simp [get, entryOf, isEntry, found, active, current]
          · simp [SshTransport.gone, open_, live.alive found active current isOpened]

/-- In every run of the hub in which no transport is recorded that dropped before its
callback was set, a connected target has a live transport. -/
theorem connected_alive (events : List HubEvent) (hub : SshRemoteHub)
    (reached : Execution.run step {} events = some hub)
    (alive : Execution.AllSteps step (fun hub event => hub.recordsDropped event = false) {}
      events) : hub.ConnectedAlive := by
  have both : hub.Live ∧ hub.Owned := Execution.run_invariant (fun hub => hub.Live ∧ hub.Owned)
    (fun both alive stepped =>
      ⟨both.1.step both.2 alive stepped, both.2.step stepped⟩)
    ⟨⟨nofun⟩, .empty⟩ alive reached
  exact both.1.connectedAlive both.2

/-- A target that is connected, drops, is connected again and disconnected. -/
def reconnected : List HubEvent :=
  [.addTarget "a", .connect "a", .opened 0 true, .rootMade 0 "/root", .recorded 0,
    .clientClosed 0, .connect "a", .opened 0 true, .rootMade 0 "/again", .recorded 0]

theorem connected_alive_reconnected :
    ∃ hub, Execution.run step {} reconnected = some hub ∧ hub.get "a" = some 1 ∧
      hub.ConnectedAlive :=
  ⟨_, rfl, by decide, connected_alive reconnected _ rfl (by decide)⟩

/-- The transport drops between the completion of the command and its continuation. -/
def droppedUnheard : List HubEvent :=
  [.addTarget "a", .connect "a", .opened 0 true, .rootMade 0 "/root", .clientClosed 0,
    .recorded 0, .connect "a"]

/-- The target is connected for good to a transport that is gone. -/
theorem connected_dead :
    ∃ hub, Execution.run step {} droppedUnheard = some hub ∧ hub.status "a" = .connected ∧
      hub.get "a" = some 0 ∧ (hub.transports[0]?).map SshTransport.gone = some true ∧
      ¬hub.ConnectedAlive := by
  refine ⟨_, rfl, by decide, by decide, by decide, fun alive => ?_⟩
  rcases alive "a" (by decide) with ⟨transport, opened, isHanded, isOpened, notGone⟩
  revert isHanded isOpened notGone
  cases transport with
  | zero =>
      intro _ isOpened notGone
      cases isOpened
      cases notGone
  | succ transport =>
      intro isHanded
      cases isHanded

end DshRemote.RemoteSsh.SshRemoteHub
