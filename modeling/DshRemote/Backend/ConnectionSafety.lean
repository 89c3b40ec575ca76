import DshRemote.Backend.BridgeMoves
import DshRemote.Backend.BrokerSafety
import DshRemote.Backend.Eligibility
import DshRemote.Backend.HandshakeSafety
import DshRemote.Backend.ServedConnection

/-! # What a connection leaves behind

Every accepted proof registers one more client, and the end of the stream cleans up after the
latest one. So the clients of a connection are known to the broker as long as it is open, and
afterwards all but the latest one still are. -/

namespace DshRemote.Backend

namespace Daemon

/-- The broker does not know the client, and no pending request may be answered by it. -/
structure Unregistered (daemon : Daemon) (clientId : ClientId) : Prop where
  forgotten : daemon.broker.Forgotten clientId
  noApproval : ∀ id pending, daemon.approval.pending.get id = some pending →
    clientId ∉ pending.targets
  noQuestion : ∀ id pending, daemon.question.pending.get id = some pending →
    clientId ∉ pending.targets

theorem Traced.mem_connections {Params : Type} {identity : Params → String}
    {table : Daemon → PendingTable Params} {raises : DaemonEvent → Option (String × Option SessionId)}
    {start daemon : Daemon} {past : List DaemonEvent}
    (traced : Traced identity table raises start past daemon) {id : String}
    {pending : Outstanding Params} (found : (table daemon).get id = some pending)
    {clientId : ClientId} (target : clientId ∈ pending.targets) :
    clientId ∈ daemon.broker.connections := by
  rcases traced.entry found with ⟨_, attributed, state, raised⟩
  exact (((traced.past raised).2.2 pending found clientId).mp target).2

theorem unregistered_iff {sessions : OrderedMap SessionId HostSession}
    {agents : OrderedMap SessionId AgentStatus} {extras : SessionBrokerExtras}
    {failClosed : Bool} {events : List DaemonEvent} {daemon : Daemon}
    (reached : Execution.run step (init sessions agents extras failClosed) events = some daemon)
    (clientId : ClientId) :
    daemon.Unregistered clientId ↔ clientId ∉ daemon.broker.connections := by
  constructor
  · exact fun unregistered => unregistered.forgotten.disconnected
  · intro disconnected
    constructor
    · exact (reachable_consistent reached).forgotten disconnected
    · exact fun id pending found target =>
        disconnected ((reachable_traced filledBy_approval reached).mem_connections found target)
    · exact fun id pending found target =>
        disconnected ((reachable_traced filledBy_question reached).mem_connections found target)

end Daemon

namespace ServedConnection

variable {Number : Type}

/-! ## What a step does to the clients of a connection -/

section Clients

variable {deps : BackendServerDeps Number}

/-- A client joins, the latest one leaves as the stream ends, or they all stay. -/
inductive Moves (connection next : ServedConnection Number) : Prop
  | joined {clientId : ClientId} (isOpen : connection.server.closed = false)
      (fresh : clientId ∉ connection.daemon.minted)
      (clientIds : next.clientIds = connection.clientIds ++ [clientId])
      (latest : next.server.clientId = some clientId)
      (closed : next.server.closed = connection.server.closed)
      (daemon : next.daemon = (connection.daemon.perform (.connect clientId)).1)
  | left (clientIds : next.clientIds = connection.clientIds)
      (latest : next.server.clientId = connection.server.clientId)
      (closed : next.server.closed = true)
      (minted : next.daemon.minted = connection.daemon.minted)
      (connections : ∀ clientId, clientId ∈ next.daemon.broker.connections ↔
        clientId ∈ connection.daemon.broker.connections ∧
          connection.server.clientId ≠ some clientId)
  | stayed (clientIds : next.clientIds = connection.clientIds)
      (latest : next.server.clientId = connection.server.clientId)
      (closed : next.server.closed = connection.server.closed)
      (minted : ∀ clientId ∈ connection.daemon.minted, clientId ∈ next.daemon.minted)
      (connections : ∀ clientId ∈ connection.clientIds, clientId ∈ connection.daemon.minted →
        (clientId ∈ next.daemon.broker.connections ↔
          clientId ∈ connection.daemon.broker.connections))

theorem step_own {connection next : ServedConnection Number} {event : ServerEvent Number}
    {environment : AttachEnvironment} {request : Option Request}
    (stepped : step deps connection (.own event environment request) = some next) :
    connection.server.step deps event = some next.server ∧
      daemonStep connection.daemon
        (daemonEvent deps connection.server event environment request) = some next.daemon ∧
      next.clientIds =
        connection.clientIds ++ (connection.server.accepts deps event).toList := by
  rcases Option.bind_eq_some_iff.mp stepped with ⟨server, serverStepped, rest⟩
  rcases Option.map_eq_some_iff.mp rest with ⟨daemon, daemonStepped, rfl⟩
  exact ⟨serverStepped, daemonStepped, rfl⟩

theorem step_others {connection next : ServedConnection Number} {event : DaemonEvent}
    (stepped : step deps connection (.others event) = some next) :
    (∀ clientId ∈ event.clientId, clientId ∉ connection.clientIds) ∧
      connection.daemon.step event = some next.daemon ∧
      next.server = connection.server ∧ next.clientIds = connection.clientIds := by
  rw [step] at stepped
  split at stepped
  · next notOurs =>
      rcases Option.map_eq_some_iff.mp stepped with ⟨daemon, daemonStepped, rfl⟩
      exact ⟨notOurs, daemonStepped, rfl, rfl⟩
  · cases stepped

theorem requestEvent_eq_some {environment : AttachEnvironment} {handler : Option Handler}
    {request : Option Request} {event : DaemonEvent}
    (comes : requestEvent environment handler request = some event) :
    ∃ method owner asked, handler = some (.served method owner) ∧
      event = .request environment owner asked := by
  cases handler with
  | none => cases comes
  | some handler =>
      cases handler with
      | hello | helloProof => cases comes
      | served method owner =>
          cases request with
          | none => cases comes
          | some request =>
              rw [requestEvent] at comes
              split at comes
              · cases comes
                exact ⟨method, owner, request, rfl, rfl⟩
              · cases comes

theorem closing_isClient {event : DaemonEvent} {clientId : ClientId}
    (closing : clientId ∈ event.closing) : clientId ∈ event.clientId := by
  cases event <;> first | exact closing | cases closing

theorem stayed_perform {connection next : ServedConnection Number} {event : DaemonEvent}
    (notOurs : ∀ clientId ∈ event.closing, clientId ∉ connection.clientIds)
    (possible : connection.daemon.Possible event)
    (performed : next.daemon = (connection.daemon.perform event).1)
    (clientIds : next.clientIds = connection.clientIds)
    (latest : next.server.clientId = connection.server.clientId)
    (closed : next.server.closed = connection.server.closed) : Moves connection next := by
  refine .stayed clientIds latest closed ?_ ?_
  · intro clientId member
    rw [performed, (Daemon.ids_perform _ _).2]
    split
    · exact (OrderedSet.mem_add _ _ _).mpr (Or.inl member)
    · exact member
  · intro clientId ours minted
    rw [performed, Daemon.mem_connections_perform]
    cases event with
    | connect joined =>
        refine or_iff_left ?_
        rintro rfl
        exact possible minted
    | closed environment left =>
        refine and_iff_left ?_
        rintro rfl
        exact notOurs clientId rfl ours
    | _ => exact Iff.rfl

theorem closed_moves {connection next : ServedConnection Number}
    {environment : AttachEnvironment}
    (clientIds : next.clientIds = connection.clientIds)
    (latest : next.server.clientId = connection.server.clientId)
    (closed : next.server.closed = true)
    (stepped : daemonStep connection.daemon (closeEvent connection.server environment) =
      some next.daemon) : Moves connection next := by
  rw [closeEvent] at stepped
  cases remembered : connection.server.clientId with
  | none =>
      rw [remembered] at stepped
      have same : connection.daemon = next.daemon := Option.some.inj stepped
      refine .left clientIds latest closed (by rw [same]) (fun clientId => ?_)
      rw [same, remembered]
      exact (and_iff_left (Option.some_ne_none clientId).symm).symm
  | some clientId =>
      rw [remembered] at stepped
      rcases Daemon.step_eq_some stepped with ⟨_, performed⟩
      refine .left clientIds latest closed ?_ ?_
      · rw [performed, (Daemon.ids_perform _ _).2]
      · intro other
        rw [performed, Daemon.mem_connections_perform, remembered, ne_eq, Option.some_inj]
        exact and_congr_right fun _ => ne_comm

theorem request_moves {connection next : ServedConnection Number}
    {environment : AttachEnvironment} {handler : Option Handler} {request : Option Request}
    (clientIds : next.clientIds = connection.clientIds)
    (latest : next.server.clientId = connection.server.clientId)
    (closed : next.server.closed = connection.server.closed)
    (stepped : daemonStep connection.daemon (requestEvent environment handler request) =
      some next.daemon) : Moves connection next := by
  cases comes : requestEvent environment handler request with
  | none =>
      rw [comes] at stepped
      have same : connection.daemon = next.daemon := Option.some.inj stepped
      exact .stayed clientIds latest closed (fun clientId minted => same ▸ minted)
        (fun clientId _ _ => by rw [same])
  | some event =>
      rw [comes] at stepped
      rcases Daemon.step_eq_some stepped with ⟨possible, performed⟩
      rcases requestEvent_eq_some comes with ⟨_, owner, asked, _, rfl⟩
      exact stayed_perform (fun _ closing => by cases closing) possible performed clientIds latest
        closed

theorem step_moves {connection next : ServedConnection Number} {event : ConnectionEvent Number}
    (stepped : step deps connection event = some next) : Moves connection next := by
  cases event with
  | others event =>
      rcases step_others stepped with ⟨notOurs, daemonStepped, server, clientIds⟩
      rcases Daemon.step_eq_some daemonStepped with ⟨possible, performed⟩
      exact stayed_perform (fun clientId closing => notOurs clientId (closing_isClient closing))
        possible performed clientIds (by rw [server]) (by rw [server])
  | own event environment request =>
      rcases step_own stepped with ⟨serverStepped, daemonStepped, clientIds⟩
      rcases BackendServer.step_eq_some serverStepped with ⟨possible, served⟩
      have latest := BackendServer.clientId_step serverStepped
      have closed : next.server.closed = _ :=
        served ▸ BackendServer.closed_perform connection.server event
      cases accepted : connection.server.accepts deps event with
      | some clientId =>
          rw [accepted] at latest clientIds
          simp only [daemonEvent, accepted] at daemonStepped
          rcases (BackendServer.proof_of_accepts accepted).2 with
            ⟨message, serverNonce, id, params, pending, rfl, _⟩
          rcases Daemon.step_eq_some daemonStepped with ⟨fresh, performed⟩
          exact .joined possible.1 fresh clientIds latest closed performed
      | none =>
          rw [accepted] at latest clientIds
          rw [Option.toList_none, List.append_nil] at clientIds
          simp only [daemonEvent, accepted] at daemonStepped
          cases event with
          | closed =>
              exact closed_moves clientIds latest closed daemonStepped
          | message | woke | fatal =>
              exact request_moves clientIds latest closed daemonStepped

/-- The clients of a connection are connected until the stream ends. Then the latest one is
cleaned up, which is the one that the server remembers. -/
structure Kept (connection : ServedConnection Number) : Prop where
  minted : ∀ clientId ∈ connection.clientIds, clientId ∈ connection.daemon.minted
  distinct : connection.clientIds.Nodup
  latest : connection.server.clientId = connection.clientIds.getLast?
  connected : ∀ clientId ∈ connection.clientIds,
    clientId ∈ connection.daemon.broker.connections ↔
      ¬(connection.server.closed = true ∧ connection.server.clientId = some clientId)

theorem Kept.moves {connection next : ServedConnection Number} (kept : connection.Kept)
    (moves : Moves connection next) : next.Kept := by
  cases moves with
  | @joined clientId isOpen fresh clientIds latest closed daemon =>
      have absent : clientId ∉ connection.clientIds := fun ours => fresh (kept.minted _ ours)
      constructor
      · intro other member
        rw [daemon, (Daemon.ids_perform _ _).2, OrderedSet.mem_add]
        rw [clientIds, List.mem_append, List.mem_singleton] at member
        exact member.imp_left (kept.minted other)
      · rw [clientIds]
        exact List.concat_eq_append ▸ kept.distinct.concat absent
      · rw [latest, clientIds, List.getLast?_concat]
      · intro other member
        rw [closed, isOpen, daemon, Daemon.mem_connections_perform]
        rw [clientIds, List.mem_append, List.mem_singleton] at member
        refine iff_of_true (member.imp_left fun ours => ?_) (by simp)
        exact (kept.connected other ours).mpr (by simp [isOpen])
  | left clientIds latest closed minted connections =>
      constructor
      · rw [clientIds, minted]
        exact kept.minted
      · rw [clientIds]
        exact kept.distinct
      · rw [latest, clientIds]
        exact kept.latest
      · rw [clientIds, latest, closed]
        intro clientId ours
        rw [connections, kept.connected clientId ours, ne_eq, and_iff_right rfl, and_iff_right_iff_imp]
        exact fun other both => other both.2
  | stayed clientIds latest closed minted connections =>
      constructor
      · rw [clientIds]
        exact fun clientId ours => minted clientId (kept.minted clientId ours)
      · rw [clientIds]
        exact kept.distinct
      · rw [latest, clientIds]
        exact kept.latest
      · rw [clientIds, latest, closed]
        intro clientId ours
        rw [connections clientId ours (kept.minted clientId ours)]
        exact kept.connected clientId ours

theorem kept_init (sessions : OrderedMap SessionId HostSession)
    (agents : OrderedMap SessionId AgentStatus) (extras : SessionBrokerExtras)
    (failClosed : Bool) :
    (init sessions agents extras failClosed : ServedConnection Number).Kept where
  minted := fun _ ours => by cases ours
  distinct := List.nodup_nil
  latest := rfl
  connected := fun _ ours => by cases ours

theorem all_getLast?_iff {clientIds : List ClientId} (distinct : clientIds.Nodup) :
    (∀ clientId ∈ clientIds, clientIds.getLast? = some clientId) ↔ clientIds.length ≤ 1 := by
  rcases List.eq_nil_or_concat clientIds with rfl | ⟨earlier, last, rfl⟩
  · simp
  · rw [List.concat_eq_append] at distinct ⊢
    have apart := (List.nodup_append.mp distinct).2.2
    rw [List.getLast?_concat, List.length_append, List.length_singleton]
    constructor
    · intro allLast
      cases earlier with
      | nil => exact Nat.le_refl 1
      | cons first rest =>
          have same := Option.some.inj (allLast first (by simp))
          exact absurd same.symm (apart first (by simp) last (by simp))
    · intro short clientId member
      have nothing := List.eq_nil_of_length_eq_zero (Nat.le_zero.mp (Nat.le_of_succ_le_succ short))
      rw [nothing, List.nil_append, List.mem_singleton] at member
      rw [member]

theorem Kept.noneConnected_iff {connection : ServedConnection Number} (kept : connection.Kept)
    (closed : connection.server.closed = true) :
    (∀ clientId ∈ connection.clientIds,
      clientId ∉ connection.daemon.broker.connections) ↔ connection.clientIds.length ≤ 1 := by
  have remembered : ∀ clientId ∈ connection.clientIds,
      (clientId ∉ connection.daemon.broker.connections ↔
        connection.clientIds.getLast? = some clientId) := by
    intro clientId ours
    rw [kept.connected clientId ours, not_not, kept.latest, and_iff_right closed]
  rw [forall₂_congr remembered, all_getLast?_iff kept.distinct]

end Clients

/-! ## The daemon of a connection -/

section Daemons

variable {deps : BackendServerDeps Number}

theorem daemon_run {start finish : ServedConnection Number}
    {events : List (ConnectionEvent Number)}
    (reached : Execution.run (step deps) start events = some finish) :
    ∃ daemonEvents, Execution.run Daemon.step start.daemon daemonEvents = some finish.daemon := by
  refine Execution.run_simulation ServedConnection.daemon ?_ reached
  intro connection event next stepped
  cases event with
  | others event =>
      have daemonStepped := (step_others stepped).2.1
      exact ⟨[event], by rw [Execution.run_cons, daemonStepped]; rfl⟩
  | own event environment request =>
      have daemonStepped := (step_own stepped).2.1
      generalize daemonEvent deps connection.server event environment request = comes
        at daemonStepped
      cases comes with
      | none => exact ⟨[], daemonStepped⟩
      | some event =>
          rw [daemonStep] at daemonStepped
          exact ⟨[event], by rw [Execution.run_cons, daemonStepped]; rfl⟩

end Daemons

/-! ## Further handshakes -/

/-- A proof of the pending greeting comes in on a connection that has a client already. -/
def ProvesAgain (deps : BackendServerDeps Number) (connection : ServedConnection Number) :
    ConnectionEvent Number → Prop
  | .own event _ _ => connection.server.clientId.isSome ∧ connection.server.GetsProof deps event
  | .others _ => False

section Runs

variable {deps : BackendServerDeps Number} {sessions : OrderedMap SessionId HostSession}
  {agents : OrderedMap SessionId AgentStatus} {extras : SessionBrokerExtras} {failClosed : Bool}

theorem reachable_kept {connection : ServedConnection Number}
    {events : List (ConnectionEvent Number)}
    (reached : Execution.run (step deps) (init sessions agents extras failClosed) events =
      some connection) : connection.Kept :=
  Execution.reachable_invariant Kept (fun kept stepped => kept.moves (step_moves stepped))
    (kept_init sessions agents extras failClosed) reached

theorem gate_step {connection next : ServedConnection Number} {event : ConnectionEvent Number}
    (gate : connection.server.Gate) (stepped : step deps connection event = some next) :
    next.server.Gate := by
  cases event with
  | own event environment request => exact gate.step (step_own stepped).1
  | others event => exact (step_others stepped).2.2.1 ▸ gate

theorem reachable_serverGate {connection : ServedConnection Number}
    {events : List (ConnectionEvent Number)}
    (reached : Execution.run (step deps) (init sessions agents extras failClosed) events =
      some connection) : connection.server.Gate :=
  Execution.reachable_invariant (fun connection => connection.server.Gate) gate_step
    BackendServer.gate_create reached

/-- The client of an open connection is connected to the daemon, which is therefore ready for
whatever the server lets in. -/
theorem reachable_serves :
    (∀ events connection clientId,
      Execution.run (step deps) (init sessions agents extras failClosed) events =
        some connection →
      connection.server.closed = false → connection.server.clientId = some clientId →
        clientId ∈ connection.daemon.broker.connections) ∧
    ∀ events connection event environment request,
      Execution.run (step deps) (init sessions agents extras failClosed) events =
        some connection →
      connection.server.Possible event →
      (∀ clientId ∈ connection.server.accepts deps event,
        clientId ∉ connection.daemon.minted) →
      (step deps connection (.own event environment request)).isSome := by
  have whileOpen : ∀ events connection clientId,
      Execution.run (step deps) (init sessions agents extras failClosed) events =
        some connection →
      connection.server.closed = false → connection.server.clientId = some clientId →
        clientId ∈ connection.daemon.broker.connections := by
    intro events connection clientId reached isOpen remembered
    have kept := reachable_kept reached
    have ours := List.mem_of_getLast? (kept.latest.symm.trans remembered)
    exact (kept.connected clientId ours).mpr (by simp [isOpen])
  refine ⟨whileOpen, fun events connection event environment request reached possible fresh => ?_⟩
  have ready : ∀ comes, daemonEvent deps connection.server event environment request =
      some comes → connection.daemon.Possible comes := by
    intro comes isComes
    cases accepted : connection.server.accepts deps event with
    | some clientId =>
        simp only [daemonEvent, accepted] at isComes
        cases isComes
        exact fresh clientId accepted
    | none =>
        cases event with
        | closed =>
            simp only [daemonEvent, accepted, closeEvent] at isComes
            rcases Option.map_eq_some_iff.mp isComes with ⟨clientId, remembered, rfl⟩
            exact whileOpen events _ clientId reached possible remembered
        | message =>
            simp only [daemonEvent, accepted] at isComes
            rcases requestEvent_eq_some isComes with ⟨method, owner, asked, dispatched, rfl⟩
            exact whileOpen events _ owner reached possible.1
              (BackendServer.clientId_of_dispatched (reachable_serverGate reached) dispatched)
        | woke | fatal =>
            simp only [daemonEvent, accepted] at isComes
            rcases requestEvent_eq_some isComes with ⟨_, _, _, dispatched, _⟩
            rcases BackendServer.message_of_dispatched dispatched with ⟨_, _, _, isMessage⟩
            cases isMessage
  rw [step, BackendServer.step, if_pos possible, Option.bind_some, Option.isSome_map]
  cases comes : daemonEvent deps connection.server event environment request with
  | none => rfl
  | some served =>
      rw [daemonStep, Daemon.step, if_pos (ready served comes)]
      rfl

/-- A step keeps a connection to one client unless it accepts a proof again. -/
theorem length_step_iff {connection next : ServedConnection Number}
    {event : ConnectionEvent Number} (gate : connection.server.Gate) (kept : connection.Kept)
    (stepped : step deps connection event = some next) :
    next.clientIds.length ≤ 1 ↔
      connection.clientIds.length ≤ 1 ∧ ¬connection.ProvesAgain deps event := by
  cases event with
  | others event =>
      rw [(step_others stepped).2.2.2]
      exact (and_iff_left not_false).symm
  | own event environment request =>
      have hasClient : connection.server.clientId.isSome ↔ connection.clientIds ≠ [] := by
        rw [kept.latest, List.getLast?_isSome]
      rw [ProvesAgain, hasClient, ← BackendServer.accepts_isSome_iff gate event,
        (step_own stepped).2.2, List.length_append]
      cases connection.server.accepts deps event with
      | none => simp
      | some clientId =>
          simp only [Option.toList_some, List.length_singleton, Option.isSome_some, and_true,
            not_not]
          constructor
          · intro short
            have empty := List.eq_nil_of_length_eq_zero (Nat.le_zero.mp (Nat.le_of_succ_le_succ short))
            exact ⟨Nat.le_of_succ_le short, empty⟩
          · rintro ⟨_, empty⟩
            rw [empty]
            exact Nat.le_refl 1

/-- A connection had more than one client exactly when it accepted a proof again. -/
theorem length_clientIds_iff {connection : ServedConnection Number}
    {events : List (ConnectionEvent Number)}
    (reached : Execution.run (step deps) (init sessions agents extras failClosed) events =
      some connection) :
    connection.clientIds.length ≤ 1 ↔
      Execution.AllSteps (step deps) (fun connection event => ¬connection.ProvesAgain deps event)
        (init sessions agents extras failClosed) events := by
  have both := Execution.history_invariant
    (fun past connection =>
      Execution.run (step deps) (init sessions agents extras failClosed) past = some connection ∧
      (connection.clientIds.length ≤ 1 ↔
        Execution.AllSteps (step deps) (fun connection event => ¬connection.ProvesAgain deps event)
          (init sessions agents extras failClosed) past))
    ⟨rfl, iff_of_true (Nat.zero_le 1) trivial⟩ ?_ reached
  · exact both.2
  · rintro past connection event next ⟨pastReached, before⟩ stepped
    refine ⟨Execution.run_snoc pastReached stepped, ?_⟩
    rw [length_step_iff (reachable_serverGate pastReached) (reachable_kept pastReached) stepped,
      before, Execution.AllSteps.append_iff pastReached, Execution.AllSteps.cons_iff stepped]
    exact and_congr_right fun _ => (and_iff_left trivial).symm

end Runs

/-- When the byte stream has ended, every client id of the connection is cleaned up in exactly
those runs in which no proof was accepted after the first one. -/
theorem closed_unregistered_iff (deps : BackendServerDeps Number)
    (sessions : OrderedMap SessionId HostSession) (agents : OrderedMap SessionId AgentStatus)
    (extras : SessionBrokerExtras) (failClosed : Bool) {events : List (ConnectionEvent Number)}
    {connection : ServedConnection Number}
    (reached : Execution.run (step deps) (init sessions agents extras failClosed) events =
      some connection)
    (closed : connection.server.closed = true) :
    (∀ clientId ∈ connection.clientIds, connection.daemon.Unregistered clientId) ↔
      Execution.AllSteps (step deps) (fun connection event => ¬connection.ProvesAgain deps event)
        (init sessions agents extras failClosed) events := by
  rcases daemon_run reached with ⟨daemonEvents, daemonReached⟩
  have unregistered : ∀ clientId ∈ connection.clientIds,
      (connection.daemon.Unregistered clientId ↔
        clientId ∉ connection.daemon.broker.connections) :=
    fun clientId _ => Daemon.unregistered_iff daemonReached clientId
  rw [forall₂_congr unregistered, (reachable_kept reached).noneConnected_iff closed,
    length_clientIds_iff reached]

/-! ## A connection that is tried out -/

open BackendServer in
/-- A proof is accepted, and the client takes write control of a session. -/
def takesControl : List (ConnectionEvent Int) :=
  [.own (greets zeroNonce) {} none, .own welcomed {} none,
    .own (.message (knownRequest "session.attach" .null) zeroNonce "client-0") {}
      (some (.attach { sessionId := "s", mode := .write }))]

open BackendServer in
/-- The client greets again and proves that greeting too. -/
def provesTwice : List (ConnectionEvent Int) :=
  [.own (greets oneNonce) {} none, .own (proves oneNonce oneProof "client-2") {} none]

def ends : ConnectionEvent Int := .own .closed {} none

def tried (events : List (ConnectionEvent Int)) : Option (ServedConnection Int) :=
  Execution.run (step BackendServer.knownDeps) (init Daemon.liveSession .empty {} true) events

/-- After a second handshake the first client id outlives the stream, with its lease. -/
theorem closed_leavesClient :
    ∃ connection, Execution.run (step BackendServer.knownDeps)
        (init Daemon.liveSession .empty {} true) (takesControl ++ provesTwice ++ [ends]) =
          some connection ∧
      connection.server.closed = true ∧ connection.clientIds = ["client-1", "client-2"] ∧
      connection.daemon.broker.holderOf "s" = some "client-1" ∧
      ¬∀ clientId ∈ connection.clientIds, connection.daemon.Unregistered clientId := by
  have left : (tried (takesControl ++ provesTwice ++ [ends])).map (fun connection =>
      (connection.server.closed, connection.clientIds, connection.daemon.broker.holderOf "s")) =
        some (true, ["client-1", "client-2"], some "client-1") := by decide +kernel
  rcases Option.map_eq_some_iff.mp left with ⟨connection, reached, seen⟩
  simp only [Prod.mk.injEq] at seen
  rcases seen with ⟨closed, clientIds, holder⟩
  refine ⟨connection, reached, closed, clientIds, holder, fun unregistered => ?_⟩
  exact (unregistered "client-1" (by rw [clientIds]; simp)).forgotten.noLease "s" holder

theorem closed_unregistered_afterOne :
    ∃ connection, Execution.run (step BackendServer.knownDeps)
        (init Daemon.liveSession .empty {} true) (takesControl ++ [ends]) = some connection ∧
      "client-1" ∈ connection.clientIds ∧ connection.daemon.Unregistered "client-1" := by
  have left : (tried (takesControl ++ [ends])).map (fun connection =>
      (connection.server.closed, connection.clientIds)) = some (true, ["client-1"]) := by
    decide +kernel
  rcases Option.map_eq_some_iff.mp left with ⟨connection, reached, seen⟩
  simp only [Prod.mk.injEq] at seen
  rcases seen with ⟨closed, clientIds⟩
  have member : "client-1" ∈ connection.clientIds := by
    rw [clientIds]
    exact List.mem_singleton_self _
  have once := closed_unregistered_iff BackendServer.knownDeps Daemon.liveSession .empty {} true
    reached closed
  refine ⟨connection, reached, member, once.mpr ?_ "client-1" member⟩
  rw [← length_clientIds_iff reached, clientIds]
  exact Nat.le_refl 1

end ServedConnection

end DshRemote.Backend
