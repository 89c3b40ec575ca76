import DshRemote.Client.Registry

/-! # One live handle for each session

The idempotence check of `attach` and the registration of its handle are two
`await`s apart. While no attach is started with another one of its key in flight, no
handle is registered for a key with an attach in flight, the registry and the live
handles agree, and a detach on the wire is always behind the attaches that matter. -/

namespace DshRemote.Client

/-- The registry key of an attach in flight. -/
def ClientCall.attachKey : ClientCall → Option String
  | .attach targetId sessionId _ _ _ => some (handleKey targetId sessionId)
  | _ => none

namespace RemoteClient

/-! ## Registrations -/

/-- The pair a handle was made for, and whether it is detached. -/
def registration (client : RemoteClient) (handle : HandleId) :
    Option ((TargetId × SessionId) × Bool) :=
  (client.made.get handle).map fun current =>
    ((current.targetId, current.sessionId), current.detached)

def Live (client : RemoteClient) (pair : TargetId × SessionId) (handle : HandleId) : Prop :=
  client.registration handle = some (pair, false)

instance (client : RemoteClient) (pair : TargetId × SessionId) (handle : HandleId) :
    Decidable (client.Live pair handle) :=
  inferInstanceAs (Decidable (_ = _))

/-- The key of a pair. -/
def keyOf (pair : TargetId × SessionId) : String := handleKey pair.1 pair.2

theorem registration_update (client : RemoteClient) {handle : HandleId}
    {current : ClientHandle} (found : client.made.get handle = some current)
    {change : DaemonAgentHandle → DaemonAgentHandle}
    (session : (change current.toDaemonAgentHandle).sessionId = current.sessionId)
    (other : HandleId) :
    (client.update handle change).registration other =
      if other = handle then
        some ((current.targetId, current.sessionId),
          (change current.toDaemonAgentHandle).detached)
      else client.registration other := by
  simp only [registration, update, OrderedMap.get_mapValues]
  by_cases same : other = handle
  · subst same
    simp [found, session]
  · cases client.made.get other <;> simp [same]

theorem registration_update_kept (client : RemoteClient) (handle : HandleId)
    {change : DaemonAgentHandle → DaemonAgentHandle}
    (keeps : DaemonAgentHandle.KeepsRegistration change) (other : HandleId) :
    (client.update handle change).registration other = client.registration other := by
  simp only [registration, update, OrderedMap.get_mapValues]
  cases client.made.get other with
  | none => rfl
  | some current =>
      have kept := keeps current.toDaemonAgentHandle
      by_cases same : other = handle <;> simp [same, kept]

theorem keepsRegistration_mode (mode : AttachMode) :
    DaemonAgentHandle.KeepsRegistration fun handle => { handle with mode := mode } :=
  fun _ => ⟨rfl, rfl⟩

/-! ## The steps that give a session two handles -/

/-- The key of the attach that an event starts: a call from outside, or what follows on an
answered `create`. -/
def starting (client : RemoteClient) : ClientEvent → Option String
  | .attach targetId sessionId _ _ => some (handleKey targetId sessionId)
  | .resumed call =>
      match client.calls.get call with
      | some (.create targetId _ (.answered sessionId)) => some (handleKey targetId sessionId)
      | _ => none
  | _ => none

/-- An attach is started while another one of its key is in flight. -/
def overlaps (client : RemoteClient) (event : ClientEvent) : Bool :=
  match client.starting event with
  | some key => client.calls.values.any fun state => state.attachKey = some key
  | none => false

theorem attachKey_of_spared {client : RemoteClient} {event : ClientEvent} {key : String}
    (spared : client.overlaps event = false) (starts : client.starting event = some key)
    {call : CallId} {state : ClientCall} (found : client.calls.get call = some state) :
    state.attachKey ≠ some key := by
  rw [overlaps, starts] at spared
  simpa using (List.any_eq_false.mp spared) state (OrderedMap.mem_values_of_get found)

/-! ## The invariant -/

/-- The registry and the live handles agree. -/
structure Agree (client : RemoteClient) : Prop where
  entry : ∀ key handle, client.handles.get key = some handle →
    ∃ pair, client.Live pair handle ∧ keyOf pair = key
  registered : ∀ pair handle, client.Live pair handle →
    client.handles.get (keyOf pair) = some handle
  fresh : ∀ handle, client.registration handle ≠ none → handle < client.nextHandle

/-- The identities of calls and what is written for them. -/
structure Routed (client : RemoteClient) : Prop where
  known : ∀ call, client.calls.get call ≠ none → call < client.nextCall
  knownSent : ∀ targetId call params,
    .attach call params ∈ client.wire targetId → call < client.nextCall
  unsent : ∀ call targetId sessionId mode force,
    client.calls.get call = some (.attach targetId sessionId mode force .connecting) →
      ∀ other params, .attach call params ∉ client.wire other
  routed : ∀ call targetId sessionId mode force phase,
    client.calls.get call = some (.attach targetId sessionId mode force phase) →
      ∀ other params, .attach call params ∈ client.wire other → other = targetId

/-- No attach that is waited for is ahead of a detach of its session. -/
def Behind (client : RemoteClient) (targetId : TargetId) (earlier later : ClientRequest) : Prop :=
  ∀ call params sessionId mode force, earlier = .attach call params →
    later = .detach sessionId →
      client.calls.get call ≠ some (.attach targetId sessionId mode force .sent)

/-- A detach on the wire is of a session without a live handle, and without one to come
from an attach that was served before. -/
structure Departed (client : RemoteClient) : Prop where
  notLive : ∀ targetId sessionId, .detach sessionId ∈ client.wire targetId →
    ∀ handle, ¬client.Live (targetId, sessionId) handle
  notAnswered : ∀ targetId sessionId, .detach sessionId ∈ client.wire targetId →
    ∀ call mode force result,
      client.calls.get call ≠ some (.attach targetId sessionId mode force (.answered result))
  behind : ∀ targetId, (client.wire targetId).Pairwise (client.Behind targetId)

/-- An attach in flight is the only one of its key, and no handle is registered for it. -/
structure Alone (client : RemoteClient) : Prop where
  free : ∀ call targetId sessionId mode force phase,
    client.calls.get call = some (.attach targetId sessionId mode force phase) →
      client.handles.get (handleKey targetId sessionId) = none
  single : ∀ call targetId sessionId mode force phase,
    client.calls.get call = some (.attach targetId sessionId mode force phase) →
      ∀ other state, client.calls.get other = some state →
        state.attachKey = some (handleKey targetId sessionId) → other = call

structure Exclusive (client : RemoteClient) : Prop where
  agree : client.Agree
  routed : client.Routed
  departed : client.Departed
  alone : client.Alone

/-! ## Moves that keep the registry -/

/-- Registry, registrations and fresh handle are as before. -/
structure SameRegistry (before after : RemoteClient) : Prop where
  handles : after.handles = before.handles
  registration : ∀ handle, after.registration handle = before.registration handle
  nextHandle : after.nextHandle = before.nextHandle

theorem SameRegistry.live {before after : RemoteClient} (same : SameRegistry before after)
    {pair : TargetId × SessionId} {handle : HandleId} :
    after.Live pair handle ↔ before.Live pair handle := by
  simp only [Live, same.registration]

theorem Agree.of_same {before after : RemoteClient} (agree : before.Agree)
    (same : SameRegistry before after) : after.Agree := by
  refine ⟨?_, ?_, ?_⟩
  · intro key handle found
    rw [same.handles] at found
    rcases agree.entry key handle found with ⟨pair, live, isKey⟩
    exact ⟨pair, same.live.mpr live, isKey⟩
  · intro pair handle live
    rw [same.handles]
    exact agree.registered pair handle (same.live.mp live)
  · intro handle present
    rw [same.nextHandle]
    exact agree.fresh handle (by rwa [same.registration] at present)

/-- Calls and requests may have gone; no attach and no request has come. -/
structure LessTraffic (before after : RemoteClient) : Prop where
  attaches : ∀ call targetId sessionId mode force phase,
    after.calls.get call = some (.attach targetId sessionId mode force phase) →
      before.calls.get call = some (.attach targetId sessionId mode force phase)
  known : ∀ call, after.calls.get call ≠ none →
    before.calls.get call ≠ none ∨ call < after.nextCall
  nextCall : before.nextCall ≤ after.nextCall
  wire : ∀ targetId, (after.wire targetId).Sublist (before.wire targetId)

theorem LessTraffic.of_calls {before after : RemoteClient}
    (calls : ∀ call state, after.calls.get call = some state → before.calls.get call = some state)
    (nextCall : after.nextCall = before.nextCall)
    (wire : ∀ targetId, (after.wire targetId).Sublist (before.wire targetId)) :
    LessTraffic before after := by
  refine ⟨fun call _ _ _ _ _ found => calls call _ found, fun call present => ?_,
    Nat.le_of_eq nextCall.symm, wire⟩
  rcases Option.ne_none_iff_exists'.mp present with ⟨state, found⟩
  exact Or.inl (by rw [calls call state found]; exact Option.some_ne_none _)

theorem LessTraffic.of_eq {before after : RemoteClient} (calls : after.calls = before.calls)
    (nextCall : after.nextCall = before.nextCall) (wire : after.wire = before.wire) :
    LessTraffic before after :=
  .of_calls (fun call state found => by rwa [calls] at found) nextCall
    fun targetId => by rw [wire]

theorem Routed.of_less {before after : RemoteClient} (routed : before.Routed)
    (less : LessTraffic before after) : after.Routed := by
  refine ⟨?_, ?_, ?_, ?_⟩
  · intro call present
    rcases less.known call present with known | below
    · exact Nat.lt_of_lt_of_le (routed.known call known) less.nextCall
    · exact below
  · intro targetId call params member
    exact Nat.lt_of_lt_of_le
      (routed.knownSent targetId call params ((less.wire targetId).subset member)) less.nextCall
  · intro call targetId sessionId mode force found other params member
    exact routed.unsent call targetId sessionId mode force (less.attaches _ _ _ _ _ _ found)
      other params ((less.wire other).subset member)
  · intro call targetId sessionId mode force phase found other params member
    exact routed.routed call targetId sessionId mode force phase
      (less.attaches _ _ _ _ _ _ found) other params ((less.wire other).subset member)

theorem Departed.of_less {before after : RemoteClient} (departed : before.Departed)
    (less : LessTraffic before after)
    (live : ∀ pair handle, after.Live pair handle → before.Live pair handle) :
    after.Departed := by
  refine ⟨?_, ?_, ?_⟩
  · intro targetId sessionId member handle isLive
    exact departed.notLive targetId sessionId ((less.wire targetId).subset member) handle
      (live _ _ isLive)
  · intro targetId sessionId member call mode force result found
    exact departed.notAnswered targetId sessionId ((less.wire targetId).subset member) call mode
      force result (less.attaches _ _ _ _ _ _ found)
  · intro targetId
    refine ((departed.behind targetId).imp ?_).sublist (less.wire targetId)
    intro earlier later behind call params sessionId mode force isAttach isDetach found
    exact behind call params sessionId mode force isAttach isDetach
      (less.attaches _ _ _ _ _ _ found)

theorem Alone.of_less {before after : RemoteClient} (alone : before.Alone)
    (less : LessTraffic before after)
    (handles : ∀ key, before.handles.get key = none → after.handles.get key = none) :
    after.Alone := by
  refine ⟨?_, ?_⟩
  · intro call targetId sessionId mode force phase found
    exact handles _ (alone.free call _ _ mode force phase (less.attaches _ _ _ _ _ _ found))
  · intro call targetId sessionId mode force phase found other state isState isKey
    cases state with
    | attach ownTarget ownSession ownMode ownForce ownPhase =>
        exact alone.single call targetId sessionId mode force phase
          (less.attaches _ _ _ _ _ _ found) other _ (less.attaches _ _ _ _ _ _ isState) isKey
    | create targetId requested phase => cases isKey
    | escalate handle phase => cases isKey

theorem Exclusive.of_less {before after : RemoteClient} (exclusive : before.Exclusive)
    (same : SameRegistry before after) (less : LessTraffic before after) : after.Exclusive :=
  ⟨exclusive.agree.of_same same, exclusive.routed.of_less less,
    exclusive.departed.of_less less fun _ _ => same.live.mp,
    exclusive.alone.of_less less fun key free => by rwa [same.handles]⟩

theorem SameRegistry.of_eq {before after : RemoteClient} (handles : after.handles = before.handles)
    (made : after.made = before.made) (nextHandle : after.nextHandle = before.nextHandle) :
    SameRegistry before after :=
  ⟨handles, fun handle => by simp only [RemoteClient.registration, made], nextHandle⟩

theorem Exclusive.update {client : RemoteClient} (exclusive : client.Exclusive)
    (handle : HandleId) {change : DaemonAgentHandle → DaemonAgentHandle}
    (keeps : DaemonAgentHandle.KeepsRegistration change) :
    (client.update handle change).Exclusive :=
  exclusive.of_less ⟨rfl, client.registration_update_kept handle keeps, rfl⟩ (.of_eq rfl rfl rfl)

theorem Exclusive.leave {client : RemoteClient} (exclusive : client.Exclusive) (call : CallId) :
    (client.leave call).Exclusive := by
  refine exclusive.of_less (.of_eq rfl rfl rfl) (.of_calls ?_ rfl fun _ => List.Sublist.refl _)
  intro other state found
  exact (OrderedMap.of_get_delete found).2

theorem Exclusive.take {client : RemoteClient} (exclusive : client.Exclusive)
    {targetId : TargetId} {request : ClientRequest} {rest : List ClientRequest}
    (first : client.wire targetId = request :: rest)
    (attached : OrderedSet (TargetId × SessionId)) :
    Exclusive { client with
      wire := Function.update client.wire targetId rest, attached := attached } := by
  refine exclusive.of_less (.of_eq rfl rfl rfl) (.of_calls (fun _ _ => id) rfl ?_)
  intro other
  by_cases same : other = targetId
  · subst same
    simp only [Function.update_self, first]
    exact List.sublist_cons_self _ _
  · simp only [Function.update_of_ne same]
    exact List.Sublist.refl _

/-! ## Calls that come -/

@[simp] theorem mem_wire_send (client : RemoteClient) (targetId other : TargetId)
    (request sent : ClientRequest) :
    sent ∈ (client.send targetId request).wire other ↔
      sent ∈ client.wire other ∨ other = targetId ∧ sent = request := by
  by_cases same : other = targetId
  · subst same
    simp [send]
  · simp [send, same]

/-- A request at the end of a channel has every other one ahead of it. -/
theorem pairwise_send {client : RemoteClient}
    {related : TargetId → ClientRequest → ClientRequest → Prop}
    (ordered : ∀ other, (client.wire other).Pairwise (related other)) (targetId : TargetId)
    {request : ClientRequest}
    (last : ∀ earlier ∈ client.wire targetId, related targetId earlier request)
    (other : TargetId) :
    ((client.send targetId request).wire other).Pairwise (related other) := by
  by_cases same : other = targetId
  · subst same
    simp only [send, Function.update_self, List.pairwise_append, List.pairwise_singleton,
      List.mem_singleton]
    refine ⟨ordered other, trivial, ?_⟩
    rintro earlier member _ rfl
    exact last earlier member
  · simp only [send, Function.update_of_ne same]
    exact ordered other

theorem Exclusive.enter_attach {client : RemoteClient} (exclusive : client.Exclusive)
    {targetId : TargetId} {sessionId : SessionId} (mode : AttachMode) (force : Bool)
    (free : client.handles.get (handleKey targetId sessionId) = none)
    (single : ∀ call state, client.calls.get call = some state →
      state.attachKey ≠ some (handleKey targetId sessionId)) :
    (client.enter (.attach targetId sessionId mode force .connecting)).Exclusive := by
  rcases exclusive with ⟨agree, routed, departed, alone⟩
  have found : ∀ {other state}, (client.enter
        (.attach targetId sessionId mode force .connecting)).calls.get other = some state →
      other = client.nextCall ∧ state = .attach targetId sessionId mode force .connecting ∨
        client.calls.get other = some state := by
    intro other state isState
    simp only [RemoteClient.enter, OrderedMap.get_set] at isState
    split at isState
    · next same => exact Or.inl ⟨same, (Option.some.inj isState).symm⟩
    · exact Or.inr isState
  have unwritten : ∀ other params, .attach client.nextCall params ∉ client.wire other :=
    fun other params member => Nat.lt_irrefl _ (routed.knownSent other _ params member)
  refine ⟨agree.of_same (.of_eq rfl rfl rfl), ⟨?_, ?_, ?_, ?_⟩, ⟨departed.notLive, ?_, ?_⟩,
    ⟨?_, ?_⟩⟩
  · intro other present
    rcases Option.ne_none_iff_exists'.mp present with ⟨state, isState⟩
    rcases found isState with ⟨rfl, _⟩ | old
    · exact Nat.lt_succ_self _
    · exact Nat.lt_succ_of_lt (routed.known other (by rw [old]; simp))
  · intro targetId other params member
    exact Nat.lt_succ_of_lt (routed.knownSent targetId other params member)
  · intro other targetId sessionId mode force isState
    rcases found isState with ⟨rfl, _⟩ | old
    · exact unwritten
    · exact routed.unsent other targetId sessionId mode force old
  · intro other targetId sessionId mode force phase isState channel params member
    rcases found isState with ⟨rfl, _⟩ | old
    · exact absurd member (unwritten channel params)
    · exact routed.routed other targetId sessionId mode force phase old channel params member
  · intro targetId sessionId member other mode force result isState
    rcases found isState with ⟨_, same⟩ | old
    · cases same
    · exact departed.notAnswered targetId sessionId member other mode force result old
  · intro targetId
    refine (departed.behind targetId).imp ?_
    intro earlier later behind other params sessionId mode force isAttach isDetach isState
    rcases found isState with ⟨_, same⟩ | old
    · cases same
    · exact behind other params sessionId mode force isAttach isDetach old
  · intro other ownTarget ownSession ownMode ownForce phase isState
    rcases found isState with ⟨_, same⟩ | old
    · cases same
      exact free
    · exact alone.free other ownTarget ownSession ownMode ownForce phase old
  · intro call ownTarget ownSession ownMode ownForce phase isState other state isOther isKey
    rcases found isState with ⟨rfl, same⟩ | old
    · cases same
      rcases found isOther with ⟨rfl, _⟩ | oldOther
      · rfl
      · exact absurd isKey (single other state oldOther)
    · rcases found isOther with ⟨rfl, rfl⟩ | oldOther
      · exact absurd isKey.symm (single call _ old)
      · exact alone.single call _ _ _ _ _ old other state oldOther isKey

theorem Exclusive.enter_other {client : RemoteClient} (exclusive : client.Exclusive)
    {call : ClientCall} (other : call.attachKey = none) : (client.enter call).Exclusive := by
  refine exclusive.of_less (.of_eq rfl rfl rfl)
    ⟨?_, ?_, Nat.le_succ _, fun _ => List.Sublist.refl _⟩
  · intro entered targetId sessionId mode force phase isState
    simp only [RemoteClient.enter, OrderedMap.get_set] at isState
    split at isState
    · rw [Option.some.inj isState] at other
      cases other
    · exact isState
  · intro entered present
    simp only [RemoteClient.enter, OrderedMap.get_set] at present
    split at present
    · next same => exact Or.inr (same ▸ Nat.lt_succ_self _)
    · exact Or.inl present

theorem Exclusive.setCall_other {client : RemoteClient} (exclusive : client.Exclusive)
    {call : CallId} (present : client.calls.get call ≠ none) {state : ClientCall}
    (other : state.attachKey = none) : (client.setCall call state).Exclusive := by
  refine exclusive.of_less (.of_eq rfl rfl rfl)
    ⟨?_, ?_, Nat.le_refl _, fun _ => List.Sublist.refl _⟩
  · intro changed targetId sessionId mode force phase isState
    simp only [RemoteClient.setCall, OrderedMap.get_set] at isState
    split at isState
    · rw [Option.some.inj isState] at other
      cases other
    · exact isState
  · intro changed isKnown
    simp only [RemoteClient.setCall, OrderedMap.get_set] at isKnown
    split at isKnown
    · next same => exact Or.inl (same ▸ present)
    · exact Or.inl isKnown

/-- An attach goes on: its request is about to be written, or it has its response and no
detach of its session was written since. -/
theorem Exclusive.setCall_attach {client : RemoteClient} (exclusive : client.Exclusive)
    {call : CallId} {targetId : TargetId} {sessionId : SessionId} {mode : AttachMode}
    {force : Bool} {before after : CallPhase SessionAttachResult}
    (known : client.calls.get call = some (.attach targetId sessionId mode force before))
    (goesOn : after ≠ .connecting)
    (unwritten : after = .sent → ∀ other params, .attach call params ∉ client.wire other)
    (noDetach : ∀ result, after = .answered result → .detach sessionId ∉ client.wire targetId) :
    (client.setCall call (.attach targetId sessionId mode force after)).Exclusive := by
  rcases exclusive with ⟨agree, routed, departed, alone⟩
  have found : ∀ {other state}, (client.setCall call
        (.attach targetId sessionId mode force after)).calls.get other = some state →
      other = call ∧ state = .attach targetId sessionId mode force after ∨
        client.calls.get other = some state := by
    intro other state isState
    simp only [RemoteClient.setCall, OrderedMap.get_set] at isState
    split at isState
    · next same => exact Or.inl ⟨same, (Option.some.inj isState).symm⟩
    · exact Or.inr isState
  refine ⟨agree.of_same (.of_eq rfl rfl rfl), ⟨?_, routed.knownSent, ?_, ?_⟩,
    ⟨departed.notLive, ?_, ?_⟩, ⟨?_, ?_⟩⟩
  · intro other present
    rcases Option.ne_none_iff_exists'.mp present with ⟨state, isState⟩
    rcases found isState with ⟨rfl, _⟩ | old
    · exact routed.known other (by rw [known]; simp)
    · exact routed.known other (by rw [old]; simp)
  · intro other ownTarget ownSession ownMode ownForce isState
    rcases found isState with ⟨_, same⟩ | old
    · cases same
      exact absurd rfl goesOn
    · exact routed.unsent other ownTarget ownSession ownMode ownForce old
  · intro other ownTarget ownSession ownMode ownForce phase isState
    rcases found isState with ⟨rfl, same⟩ | old
    · cases same
      exact routed.routed other targetId sessionId mode force before known
    · exact routed.routed other ownTarget ownSession ownMode ownForce phase old
  · intro ownTarget ownSession member other ownMode ownForce result isState
    rcases found isState with ⟨_, same⟩ | old
    · cases same
      exact noDetach result rfl member
    · exact departed.notAnswered ownTarget ownSession member other ownMode ownForce result old
  · intro ownTarget
    refine (departed.behind ownTarget).imp_of_mem ?_
    intro earlier later member _ behind other params ownSession ownMode ownForce isAttach isDetach
      isState
    rcases found isState with ⟨rfl, same⟩ | old
    · cases same
      exact unwritten rfl _ params (isAttach ▸ member)
    · exact behind other params ownSession ownMode ownForce isAttach isDetach old
  · intro other ownTarget ownSession ownMode ownForce phase isState
    rcases found isState with ⟨rfl, same⟩ | old
    · cases same
      exact alone.free other targetId sessionId mode force before known
    · exact alone.free other ownTarget ownSession ownMode ownForce phase old
  · intro own ownTarget ownSession ownMode ownForce phase isState other state isOther isKey
    have owner : ∃ phase, client.calls.get own =
        some (.attach ownTarget ownSession ownMode ownForce phase) := by
      rcases found isState with ⟨rfl, same⟩ | old
      · cases same
        exact ⟨before, known⟩
      · exact ⟨phase, old⟩
    rcases owner with ⟨phase, owned⟩
    rcases found isOther with ⟨rfl, rfl⟩ | old
    · exact alone.single own ownTarget ownSession ownMode ownForce phase owned other _ known isKey
    · exact alone.single own ownTarget ownSession ownMode ownForce phase owned other state old isKey

/-- A request is written: an attach for a known call that waits for it on this channel, or
for none, or a detach of a session with no live handle and no attach on its way. -/
theorem Exclusive.send {client : RemoteClient} (exclusive : client.Exclusive) {targetId : TargetId}
    {request : ClientRequest}
    (attach : ∀ call params, request = .attach call params → call < client.nextCall ∧
      ∀ own sessionId mode force phase,
        client.calls.get call = some (.attach own sessionId mode force phase) →
          phase ≠ .connecting ∧ targetId = own)
    (detach : ∀ sessionId, request = .detach sessionId →
      (∀ handle, ¬client.Live (targetId, sessionId) handle) ∧
        ∀ call mode force phase,
          client.calls.get call ≠ some (.attach targetId sessionId mode force phase)) :
    (client.send targetId request).Exclusive := by
  rcases exclusive with ⟨agree, routed, departed, alone⟩
  refine ⟨agree.of_same (.of_eq rfl rfl rfl), ⟨routed.known, ?_, ?_, ?_⟩, ⟨?_, ?_, ?_⟩,
    ⟨alone.free, alone.single⟩⟩
  · intro channel call params member
    rcases (mem_wire_send _ _ _ _ _).mp member with old | ⟨_, same⟩
    · exact routed.knownSent channel call params old
    · exact (attach call params same.symm).1
  · intro call own sessionId mode force isState channel params member
    rcases (mem_wire_send _ _ _ _ _).mp member with old | ⟨_, same⟩
    · exact routed.unsent call own sessionId mode force isState channel params old
    · exact ((attach call params same.symm).2 own sessionId mode force _ isState).1 rfl
  · intro call own sessionId mode force phase isState channel params member
    rcases (mem_wire_send _ _ _ _ _).mp member with old | ⟨here, same⟩
    · exact routed.routed call own sessionId mode force phase isState channel params old
    · exact here.trans ((attach call params same.symm).2 own sessionId mode force phase isState).2
  · intro channel sessionId member
    rcases (mem_wire_send _ _ _ _ _).mp member with old | ⟨rfl, same⟩
    · exact departed.notLive channel sessionId old
    · exact (detach sessionId same.symm).1
  · intro channel sessionId member call mode force result isState
    rcases (mem_wire_send _ _ _ _ _).mp member with old | ⟨rfl, same⟩
    · exact departed.notAnswered channel sessionId old call mode force result isState
    · exact (detach sessionId same.symm).2 call mode force _ isState
  · refine pairwise_send departed.behind targetId ?_
    intro earlier _ call params sessionId mode force _ isDetach isState
    exact (detach sessionId isDetach).2 call mode force _ isState

/-! ## Handles that come and go -/

theorem Exclusive.register {client : RemoteClient} (exclusive : client.Exclusive)
    {call : CallId} {targetId : TargetId} {sessionId : SessionId} {mode : AttachMode}
    {force : Bool} {result : SessionAttachResult}
    (answered : client.calls.get call =
      some (.attach targetId sessionId mode force (.answered result))) :
    (client.register call targetId sessionId mode result).Exclusive := by
  rcases exclusive with ⟨agree, routed, departed, alone⟩
  have free := alone.free call targetId sessionId mode force _ answered
  have registration : ∀ other,
      (client.register call targetId sessionId mode result).registration other =
        if other = client.nextHandle then some ((targetId, sessionId), false)
        else client.registration other := by
    intro other
    simp only [RemoteClient.registration, RemoteClient.register, OrderedMap.get_set]
    split <;> rfl
  have old : ∀ {pair handle}, client.Live pair handle → handle ≠ client.nextHandle := by
    rintro pair handle live rfl
    exact Nat.lt_irrefl _ (agree.fresh _ (by rw [live]; simp))
  have others : ∀ other state,
      (client.register call targetId sessionId mode result).calls.get other = some state →
        other ≠ call ∧ client.calls.get other = some state := by
    intro other state found
    exact OrderedMap.of_get_delete found
  have less : LessTraffic client (client.register call targetId sessionId mode result) :=
    .of_calls (fun other state found => (others other state found).2) rfl
      fun _ => List.Sublist.refl _
  refine ⟨⟨?_, ?_, ?_⟩, routed.of_less less, ⟨?_, ?_, ?_⟩, ⟨?_, ?_⟩⟩
  · intro key handle found
    rcases OrderedMap.of_get_set found with ⟨same, rfl⟩ | ⟨_, found⟩
    · exact ⟨(targetId, sessionId), by rw [Live, registration, if_pos rfl], same.symm⟩
    · rcases agree.entry key handle found with ⟨pair, live, isKey⟩
      exact ⟨pair, by rw [Live, registration, if_neg (old live)]; exact live, isKey⟩
  · intro pair handle live
    rw [Live, registration] at live
    split at live
    · next same =>
        cases live
        simp only [RemoteClient.register, keyOf, OrderedMap.get_set_self, same]
    · have found := agree.registered pair handle live
      have apart : keyOf pair ≠ handleKey targetId sessionId := by
        intro same
        rw [same, free] at found
        cases found
      simp only [RemoteClient.register, OrderedMap.get_set, if_neg apart]
      exact found
  · intro handle present
    rw [registration] at present
    split at present
    · next same =>
        rw [same]
        exact Nat.lt_succ_self _
    · exact Nat.lt_succ_of_lt (agree.fresh handle present)
  · intro channel session member handle live
    rw [Live, registration] at live
    split at live
    · cases live
      exact departed.notAnswered targetId sessionId member call mode force result answered
    · exact departed.notLive channel session member handle live
  · intro channel session member other ownMode ownForce ownResult isState
    exact departed.notAnswered channel session member other ownMode ownForce ownResult
      (others _ _ isState).2
  · intro channel
    refine (departed.behind channel).imp ?_
    intro earlier later behind other params session ownMode ownForce isAttach isDetach isState
    exact behind other params session ownMode ownForce isAttach isDetach (others _ _ isState).2
  · intro other ownTarget ownSession ownMode ownForce phase isState
    rcases others _ _ isState with ⟨different, old⟩
    have apart : handleKey ownTarget ownSession ≠ handleKey targetId sessionId := fun same =>
      different (alone.single call _ _ _ _ _ answered other _ old (congrArg some same))
    simp only [RemoteClient.register, OrderedMap.get_set, if_neg apart]
    exact alone.free other ownTarget ownSession ownMode ownForce phase old
  · intro own ownTarget ownSession ownMode ownForce phase isState other state isOther isKey
    exact alone.single own _ _ _ _ _ (others _ _ isState).2 other state (others _ _ isOther).2 isKey

/-- The local part of a teardown. -/
def tearDown (client : RemoteClient) (handle : HandleId) (current : ClientHandle)
    (change : DaemonAgentHandle → DaemonAgentHandle) : RemoteClient :=
  (client.update handle change).onDetached current

theorem registration_tearDown (client : RemoteClient) {handle : HandleId}
    {current : ClientHandle} (found : client.made.get handle = some current)
    {change : DaemonAgentHandle → DaemonAgentHandle}
    (session : (change current.toDaemonAgentHandle).sessionId = current.sessionId)
    (detached : (change current.toDaemonAgentHandle).detached = true) (other : HandleId) :
    (client.tearDown handle current change).registration other =
      if other = handle then some ((current.targetId, current.sessionId), true)
      else client.registration other := by
  have updated := client.registration_update found session other
  rw [detached] at updated
  exact updated

/-- Detaching a live handle frees its entry and nobody else's. -/
theorem Exclusive.tearDown {client : RemoteClient} (exclusive : client.Exclusive)
    {handle : HandleId} {current : ClientHandle}
    (found : client.made.get handle = some current) (attached : current.detached = false)
    {change : DaemonAgentHandle → DaemonAgentHandle}
    (session : (change current.toDaemonAgentHandle).sessionId = current.sessionId)
    (detached : (change current.toDaemonAgentHandle).detached = true) :
    (client.tearDown handle current change).Exclusive := by
  rcases exclusive with ⟨agree, routed, departed, alone⟩
  have registration := client.registration_tearDown found session detached
  have live : client.Live (current.targetId, current.sessionId) handle := by
    simp only [Live, RemoteClient.registration, found, Option.map_some, attached]
  have before : ∀ pair other, (client.tearDown handle current change).Live pair other →
      other ≠ handle ∧ client.Live pair other := by
    intro pair other isLive
    rw [Live, registration] at isLive
    split at isLive
    · cases isLive
    · next different => exact ⟨different, isLive⟩
  refine ⟨⟨?_, ?_, ?_⟩, routed.of_less (.of_eq rfl rfl rfl),
    departed.of_less (.of_eq rfl rfl rfl) fun pair other isLive => (before pair other isLive).2,
    alone.of_less (.of_eq rfl rfl rfl) fun key free => ?_⟩
  · intro key other entry
    rcases OrderedMap.of_get_delete entry with ⟨apart, entry⟩
    rcases agree.entry key other entry with ⟨pair, isLive, isKey⟩
    have different : other ≠ handle := by
      rintro rfl
      cases live.symm.trans isLive
      exact apart isKey.symm
    exact ⟨pair, by rw [Live, registration, if_neg different]; exact isLive, isKey⟩
  · intro pair other isLive
    rcases before pair other isLive with ⟨different, wasLive⟩
    have entry := agree.registered pair other wasLive
    have apart : keyOf pair ≠ handleKey current.targetId current.sessionId := by
      intro same
      have own := agree.registered _ handle live
      rw [same] at entry
      cases own.symm.trans entry
      exact different rfl
    simp only [RemoteClient.tearDown, onDetached, OrderedMap.get_delete, if_neg apart]
    exact entry
  · intro other present
    refine agree.fresh other ?_
    rw [registration] at present
    split at present
    · next same =>
        rw [same, live]
        simp
    · exact present
  · simp only [RemoteClient.tearDown, onDetached, OrderedMap.get_delete]
    split
    · rfl
    · exact free

/-! ## The machine -/

theorem Exclusive.detach {client : RemoteClient} (exclusive : client.Exclusive)
    (handle : HandleId) : (client.detach handle).Exclusive := by
  simp only [RemoteClient.detach]
  split
  · exact exclusive
  · next current found =>
      split
      · exact exclusive
      · next attached =>
          have live : current.detached = false := by simpa using attached
          have own : client.Live (current.targetId, current.sessionId) handle := by
            simp only [Live, RemoteClient.registration, found, Option.map_some, live]
          have entry := exclusive.agree.registered _ handle own
          have torn : (client.tearDown handle current DaemonAgentHandle.detach).Exclusive :=
            exclusive.tearDown found live rfl rfl
          refine torn.send nofun ?_
          rintro sessionId isDetach
          cases isDetach
          refine ⟨?_, ?_⟩
          · intro other isLive
            rw [Live, registration_tearDown client found rfl rfl] at isLive
            split at isLive
            · cases isLive
            · next different =>
                cases entry.symm.trans (exclusive.agree.registered _ other isLive)
                exact different rfl
          · intro call mode force phase isState
            cases entry.symm.trans (exclusive.alone.free call _ _ mode force phase isState)

theorem Exclusive.reattachFailed {client : RemoteClient} (exclusive : client.Exclusive)
    (handle : HandleId) : (client.reattachFailed handle).Exclusive := by
  simp only [RemoteClient.reattachFailed]
  split
  · exact exclusive
  · next current found =>
      split
      · exact exclusive
      · next attached =>
          exact exclusive.tearDown found (by simpa using attached)
            (DaemonAgentHandle.sessionId_onReattachFailed _)
            (DaemonAgentHandle.detached_onReattachFailed _)

theorem free_of_existing {client : RemoteClient} (agree : client.Agree) {key : String}
    (vacant : client.existing key = none) : client.handles.get key = none := by
  cases found : client.handles.get key with
  | none => rfl
  | some handle =>
      rcases agree.entry key handle found with ⟨pair, live, _⟩
      rcases Option.map_eq_some_iff.mp live with ⟨current, made, facts⟩
      have attached : current.detached = false := congrArg Prod.snd facts
      simp [existing, found, made, attached, Option.filter] at vacant

theorem Exclusive.acquireWrite {client : RemoteClient} (exclusive : client.Exclusive)
    (handle : HandleId) (force : Bool) : (client.acquireWrite handle force).Exclusive := by
  simp only [RemoteClient.acquireWrite]
  split
  · exact exclusive
  · split
    · exact exclusive
    · have entered : (client.enter (.escalate handle .sent)).Exclusive :=
        exclusive.enter_other rfl
      refine entered.send (fun call params isAttach => ?_) (fun _ isDetach => nomatch isDetach)
      cases isAttach
      refine ⟨Nat.lt_succ_self _, fun own sessionId mode force phase isState => ?_⟩
      simp only [enter, OrderedMap.get_set_self] at isState
      cases isState

theorem Exclusive.attach {client : RemoteClient} (exclusive : client.Exclusive)
    {targetId : TargetId} {sessionId : SessionId} (mode : AttachMode) (force : Bool)
    (single : ∀ call state, client.calls.get call = some state →
      state.attachKey ≠ some (handleKey targetId sessionId)) :
    (client.attach targetId sessionId mode force).Exclusive := by
  simp only [RemoteClient.attach]
  split
  · split
    · exact exclusive.acquireWrite _ force
    · exact exclusive
  · next vacant =>
      exact exclusive.enter_attach mode force (free_of_existing exclusive.agree vacant) single

theorem Exclusive.connected {client next : RemoteClient} (exclusive : client.Exclusive)
    {call : CallId} (stepped : client.connected call = some next) : next.Exclusive := by
  simp only [RemoteClient.connected] at stepped
  split at stepped
  · next targetId sessionId mode force connecting =>
      cases stepped
      have unwritten := exclusive.routed.unsent _ _ _ _ _ connecting
      have sent : (client.setCall call (.attach targetId sessionId mode force .sent)).Exclusive :=
        exclusive.setCall_attach connecting (fun isOther => nomatch isOther) (fun _ => unwritten)
          fun _ isOther => nomatch isOther
      refine sent.send (fun other params isAttach => ?_) (fun _ isDetach => nomatch isDetach)
      cases isAttach
      refine ⟨exclusive.routed.known call (by rw [connecting]; simp), ?_⟩
      intro own sessionId mode force phase isState
      simp only [setCall, OrderedMap.get_set_self] at isState
      cases isState
      exact ⟨(nomatch ·), rfl⟩
  · next targetId requested connecting =>
      cases stepped
      have sent : (client.setCall call (.create targetId requested .sent)).Exclusive :=
        exclusive.setCall_other (by rw [connecting]; simp) rfl
      exact sent.send (fun _ _ isAttach => nomatch isAttach) (fun _ isDetach => nomatch isDetach)
  · cases stepped

theorem Exclusive.served {client next : RemoteClient} (exclusive : client.Exclusive)
    {targetId : TargetId} {answer : ServerAnswer}
    (stepped : client.served targetId answer = some next) : next.Exclusive := by
  simp only [RemoteClient.served] at stepped
  split at stepped
  · cases stepped
  · next request rest first =>
      have taken := exclusive.take first
      split at stepped
      · next call params result =>
          cases stepped
          simp only [answerAttach]
          split
          · next own session mode force waiting =>
              refine (taken _).setCall_attach waiting nofun nofun fun _ _ => ?_
              -- The request was the first of the channel its call is waiting on.
              have here : targetId = own := exclusive.routed.routed call own session mode force
                .sent waiting targetId params (by rw [first]; exact List.mem_cons_self)
              subst here
              simp only [Function.update_self]
              intro later
              have ordered := exclusive.departed.behind targetId
              rw [first, List.pairwise_cons] at ordered
              exact ordered.1 _ later call params session mode force rfl rfl waiting
          · next handle waiting =>
              refine (taken _).setCall_other ?_ rfl
              simp only [waiting]
              simp
          · exact taken _
      · cases stepped
        exact (taken _).leave _
      · next call _ sessionId =>
          cases stepped
          simp only [answerCreate]
          split
          · next waiting =>
              refine (taken _).setCall_other ?_ rfl
              simp only [waiting]
              simp
          · exact taken _
      · cases stepped
        exact (taken _).leave _
      · cases stepped
        exact taken _
      · cases stepped

theorem Exclusive.resumed {client next : RemoteClient} (exclusive : client.Exclusive)
    {call : CallId} (stepped : client.resumed call = some next)
    (spared : client.overlaps (.resumed call) = false) : next.Exclusive := by
  simp only [RemoteClient.resumed] at stepped
  split at stepped
  · next targetId sessionId mode force result answered =>
      cases stepped
      exact exclusive.register answered
  · next targetId _ sessionId answered =>
      cases stepped
      have starts : client.starting (.resumed call) = some (handleKey targetId sessionId) := by
        simp only [starting, answered]
      refine (exclusive.leave call).attach _ _ fun other state isState => ?_
      exact attachKey_of_spared spared starts (OrderedMap.of_get_delete isState).2
  · cases stepped
    exact (exclusive.leave call).update _ (keepsRegistration_mode .write)
  · cases stepped

/-- One step that does not let two attaches of a key overlap. -/
theorem Exclusive.step {client next : RemoteClient} (exclusive : client.Exclusive)
    {event : ClientEvent} (stepped : client.step event = some next)
    (spared : client.overlaps event = false) : next.Exclusive := by
  cases event with
  | attach targetId sessionId mode force =>
      cases stepped
      exact exclusive.attach mode force fun call state => attachKey_of_spared spared rfl
  | create targetId requested =>
      cases stepped
      exact exclusive.enter_other rfl
  | connected call => exact exclusive.connected stepped
  | served targetId answer => exact exclusive.served stepped
  | resumed call => exact exclusive.resumed stepped spared
  | failed call =>
      simp only [RemoteClient.step, RemoteClient.failed] at stepped
      split at stepped <;> cases stepped
      exact exclusive.leave call
  | detach handle =>
      cases stepped
      exact exclusive.detach handle
  | reattachFailed handle =>
      cases stepped
      exact exclusive.reattachFailed handle
  | sessionEvent handle event =>
      cases stepped
      exact exclusive.update handle (DaemonAgentHandle.keepsRegistration_handleEvent event)
  | controlChanged handle clientId holder reason =>
      cases stepped
      exact exclusive.update handle
        (DaemonAgentHandle.keepsRegistration_handleControl clientId holder reason)

theorem exclusive_init : Exclusive {} where
  agree := ⟨nofun, nofun, fun _ present => absurd rfl present⟩
  routed := ⟨fun _ present => absurd rfl present, nofun, nofun, nofun⟩
  departed := ⟨nofun, nofun, fun _ => List.Pairwise.nil⟩
  alone := ⟨nofun, nofun⟩

theorem live_of_entry {client : RemoteClient} (agree : client.Agree)
    {pair : TargetId × SessionId} {handle : HandleId}
    (apart : ∀ other owner, client.Live other owner → keyOf other = keyOf pair → other = pair)
    (found : client.handles.get (keyOf pair) = some handle) : client.Live pair handle := by
  rcases agree.entry _ handle found with ⟨other, live, sameKey⟩
  rwa [← apart other handle live sameKey]

/-- A detach takes nobody else's entry. -/
theorem Agree.entry_detach {client : RemoteClient} (agree : client.Agree) {handle other : HandleId}
    {pair : TargetId × SessionId} (different : other ≠ handle) (live : client.Live pair other) :
    (client.detach handle).handles.get (keyOf pair) = some other := by
  have entry := agree.registered pair other live
  simp only [RemoteClient.detach]
  split
  · exact entry
  · next current found =>
      split
      · exact entry
      · next attached =>
          have own : client.Live (current.targetId, current.sessionId) handle := by
            simp only [Live, registration, found, Option.map_some]
            simpa using attached
          have apart : keyOf pair ≠ handleKey current.targetId current.sessionId := by
            intro same
            rw [same] at entry
            cases entry.symm.trans (agree.registered _ handle own)
            exact different rfl
          simp only [send, onDetached, OrderedMap.get_delete, if_neg apart]
          exact entry

/-- In every run in which no attach is started while another one of its key is in flight: a
session has at most one live handle; the registry maps its key to that handle
and to no other, two pairs with one key apart; a detach leaves the entries of the others
alone; and a backend that serves a detach drops no attachment of a live handle. -/
theorem oneHandle_perSession (events : List ClientEvent) (client : RemoteClient)
    (reached : Execution.run step {} events = some client)
    (spared : Execution.AllSteps step (fun client event => client.overlaps event = false) {}
      events) :
    (∀ pair left right, client.Live pair left → client.Live pair right → left = right) ∧
    (∀ pair handle, client.Live pair handle → client.handles.get (keyOf pair) = some handle) ∧
    (∀ pair handle,
      (∀ other owner, client.Live other owner → keyOf other = keyOf pair → other = pair) →
      client.handles.get (keyOf pair) = some handle → client.Live pair handle) ∧
    (∀ handle next, client.step (.detach handle) = some next →
      ∀ pair other, other ≠ handle → client.Live pair other →
        next.handles.get (keyOf pair) = some other) ∧
    ∀ targetId sessionId rest answer next,
      client.wire targetId = .detach sessionId :: rest →
      client.step (.served targetId answer) = some next →
        ∀ pair handle, client.Live pair handle → pair ∈ client.attached → pair ∈ next.attached := by
  have exclusive : client.Exclusive :=
    Execution.run_invariant Exclusive (fun holds allowed stepped => holds.step stepped allowed)
      exclusive_init spared reached
  have registered := exclusive.agree.registered
  refine ⟨?_, registered, fun pair handle => live_of_entry exclusive.agree, ?_, ?_⟩
  · intro pair left right leftLive rightLive
    have same := (registered pair left leftLive).symm.trans (registered pair right rightLive)
    exact Option.some.inj same
  · intro handle next stepped pair other different live
    cases stepped
    exact exclusive.agree.entry_detach different live
  · intro targetId sessionId rest answer next first stepped pair handle live attached
    have notOwn : pair ≠ (targetId, sessionId) := by
      rintro rfl
      exact exclusive.departed.notLive targetId sessionId
        (by rw [first]; exact List.mem_cons_self) handle live
    simp only [step, served, first] at stepped
    cases answer with
    | done =>
        cases stepped
        exact (OrderedSet.mem_delete _ _ _).mpr ⟨attached, notOwn⟩
    | attached | created | refused => cases stepped

/-- Two sessions of one target, the first one attached to, left and attached to anew. -/
def attachedAgain : List ClientEvent :=
  [.attach "t" "s1" .read false, .connected 0, .served "t" (.attached ⟨"s1", none, 3, none⟩),
    .resumed 0, .attach "t" "s2" .read false, .connected 1,
    .served "t" (.attached ⟨"s2", none, 7, none⟩), .resumed 1, .detach 0,
    .attach "t" "s1" .read false, .connected 2]

theorem oneHandle_perSession_attachedAgain :
    ∃ client next, Execution.run step {} attachedAgain = some client ∧
      client.step (.served "t" .done) = some next ∧
      client.handles.get (handleKey "t" "s2") = some 1 ∧ ("t", "s2") ∈ next.attached := by
  have facts := oneHandle_perSession attachedAgain _ rfl (by decide)
  exact ⟨_, _, rfl, rfl, facts.2.1 ("t", "s2") 1 rfl,
    facts.2.2.2.2 "t" "s1" _ .done _ rfl rfl ("t", "s2") 1 rfl (by decide)⟩

/-- Two attaches of one session, neither of which waits for the other. -/
def attachedTwice : List ClientEvent :=
  [.attach "t" "s" .read false, .attach "t" "s" .read false, .connected 0, .connected 1,
    .served "t" (.attached ⟨"s", none, 3, none⟩), .served "t" (.attached ⟨"s", none, 3, none⟩),
    .resumed 0, .resumed 1]

/-- Both make a handle; detaching the one that lost the registry entry takes the entry
and the backend attachment of the other. -/
theorem twoHandles_afterOverlap :
    ∃ client next, Execution.run step {} attachedTwice = some client ∧
      client.Live ("t", "s") 0 ∧ client.Live ("t", "s") 1 ∧
      client.handles.get (handleKey "t" "s") = some 1 ∧ ("t", "s") ∈ client.attached ∧
      Execution.run step client [.detach 0, .served "t" .done] = some next ∧
      next.Live ("t", "s") 1 ∧ next.handles.get (handleKey "t" "s") = none ∧
      ("t", "s") ∉ next.attached :=
  ⟨_, _, rfl, rfl, rfl, rfl, by decide, rfl, rfl, rfl, by decide⟩

end RemoteClient

end DshRemote.Client
