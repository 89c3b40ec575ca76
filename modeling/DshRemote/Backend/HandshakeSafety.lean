import DshRemote.Backend.Handshake

/-! # What passes the handshake

A served method has a handler only with the client id of the latest accepted proof, and a
pending greeting is the latest one since then. Both are facts about the latest step that
changed a field. The failures of a connection are only counted: nothing looks at them before
a proof is accepted. -/

namespace DshRemote.Backend

open Json

namespace BackendServer

variable {Number : Type}

/-! ## The method table -/

theorem mem_all (method : ServedMethod) : method ∈ ServedMethod.all := by
  cases method <;> decide

theorem nodup_names : (ServedMethod.all.map fun method => asciiText method.name).Nodup := by
  decide +kernel

theorem handlers_registerMethods (server : BackendServer Number) (clientId : ClientId) :
    (server.registerMethods clientId).handlers =
      ServedMethod.all.foldl (fun handlers method =>
        handlers.set (asciiText method.name) (.served method clientId)) server.handlers := by
  rw [registerMethods]

theorem clientId_registerMethods (server : BackendServer Number) (clientId : ClientId) :
    (server.registerMethods clientId).clientId = server.clientId := by
  rw [registerMethods]

theorem pendingHello_registerMethods (server : BackendServer Number) (clientId : ClientId) :
    (server.registerMethods clientId).pendingHello = server.pendingHello := by
  rw [registerMethods]

theorem failures_registerMethods (server : BackendServer Number) (clientId : ClientId) :
    (server.registerMethods clientId).failures = server.failures := by
  rw [registerMethods]

theorem closed_registerMethods (server : BackendServer Number) (clientId : ClientId) :
    (server.registerMethods clientId).closed = server.closed := by
  rw [registerMethods]

theorem get_registerMethods_name (server : BackendServer Number) (clientId : ClientId)
    (method : ServedMethod) :
    (server.registerMethods clientId).handlers.get (asciiText method.name) =
      some (.served method clientId) := by
  have found := @OrderedMap.get_foldl_set_of_mem Text Handler _ _ ServedMethod.all
    (fun method => asciiText method.name) (fun method => .served method clientId)
    server.handlers nodup_names method (mem_all method)
  rw [handlers_registerMethods, found]

theorem get_registerMethods_other (server : BackendServer Number) (clientId : ClientId)
    {name : Text} (other : ∀ method : ServedMethod, asciiText method.name ≠ name) :
    (server.registerMethods clientId).handlers.get name = server.handlers.get name := by
  rw [handlers_registerMethods]
  apply OrderedMap.get_foldl_set_of_notMem
  intro member
  rcases List.mem_map.mp member with ⟨method, _, same⟩
  exact other method same

theorem name_ne_handshake (method : ServedMethod) :
    asciiText method.name ≠ helloName ∧ asciiText method.name ≠ helloProofName := by
  cases method <;> decide

/-- The handshake keeps its two names, and the other methods are there for the client. -/
structure Gate (server : BackendServer Number) : Prop where
  hello : server.handlers.get helloName = some .hello
  helloProof : ∀ name, server.handlers.get name = some .helloProof ↔ name = helloProofName
  served : ∀ name method owner, server.handlers.get name = some (.served method owner) →
    server.clientId = some owner ∧ name = asciiText method.name

theorem get_create (name : Text) :
    (create : BackendServer Number).handlers.get name =
      if name = helloProofName then some .helloProof
      else if name = helloName then some .hello else none := by
  rw [create, OrderedMap.get_set, OrderedMap.get_set, OrderedMap.get_empty]

theorem gate_create : (create : BackendServer Number).Gate := by
  have different : helloName ≠ helloProofName := by decide
  constructor
  · rw [get_create, if_neg different, if_pos rfl]
  · intro name
    rw [get_create]
    split
    · next same => exact iff_of_true rfl same
    · next apart =>
        refine iff_of_false ?_ apart
        split <;> simp
  · intro name method owner found
    rw [get_create] at found
    split at found
    · cases found
    · split at found <;> cases found

theorem Gate.of_same {before after : BackendServer Number} (gate : before.Gate)
    (handlers : after.handlers = before.handlers) (clientId : after.clientId = before.clientId) :
    after.Gate := by
  rcases gate with ⟨hello, helloProof, served⟩
  rw [← handlers] at hello helloProof served
  rw [← clientId] at served
  exact ⟨hello, helloProof, served⟩

theorem clientId_welcome (server : BackendServer Number) (clientId : ClientId) :
    (server.welcome clientId).clientId = some clientId := by
  rw [welcome, clientId_registerMethods]

theorem pendingHello_welcome (server : BackendServer Number) (clientId : ClientId) :
    (server.welcome clientId).pendingHello = none := by
  rw [welcome, pendingHello_registerMethods]

theorem failures_welcome (server : BackendServer Number) (clientId : ClientId) :
    (server.welcome clientId).failures = server.failures := by
  rw [welcome, failures_registerMethods]

theorem get_welcome (server : BackendServer Number) (clientId : ClientId) (name : Text) :
    (∃ method : ServedMethod, name = asciiText method.name ∧
      (server.welcome clientId).handlers.get name = some (.served method clientId)) ∨
    (∀ method : ServedMethod, asciiText method.name ≠ name) ∧
      (server.welcome clientId).handlers.get name = server.handlers.get name := by
  by_cases registered : ∃ method : ServedMethod, asciiText method.name = name
  · rcases registered with ⟨method, rfl⟩
    exact Or.inl ⟨method, rfl, get_registerMethods_name _ clientId method⟩
  · have other : ∀ method : ServedMethod, asciiText method.name ≠ name :=
      fun method same => registered ⟨method, same⟩
    refine Or.inr ⟨other, ?_⟩
    rw [welcome, get_registerMethods_other _ clientId other]

theorem Gate.welcome {server : BackendServer Number} (gate : server.Gate) (clientId : ClientId) :
    (server.welcome clientId).Gate := by
  constructor
  · rcases get_welcome server clientId helloName with ⟨method, same, _⟩ | ⟨_, kept⟩
    · exact absurd same.symm (name_ne_handshake method).1
    · rw [kept]
      exact gate.hello
  · intro name
    rcases get_welcome server clientId name with ⟨method, rfl, found⟩ | ⟨_, kept⟩
    · rw [found]
      exact iff_of_false (by simp) (name_ne_handshake method).2
    · rw [kept]
      exact gate.helloProof name
  · intro name method owner registered
    rw [clientId_welcome]
    rcases get_welcome server clientId name with ⟨other, same, found⟩ | ⟨other, kept⟩
    · rw [found] at registered
      cases registered
      exact ⟨rfl, same⟩
    · rw [kept] at registered
      exact absurd (gate.served name method owner registered).2.symm (other method)

section Steps

variable {deps : BackendServerDeps Number}

theorem step_eq_some {server next : BackendServer Number} {event : ServerEvent Number}
    (stepped : server.step deps event = some next) :
    server.Possible event ∧ next = (server.perform deps event).1 := by
  simp only [step] at stepped
  split at stepped
  · next possible =>
      cases stepped
      exact ⟨possible, rfl⟩
  · cases stepped

theorem step_moves {server next : BackendServer Number} {event : ServerEvent Number}
    (stepped : server.step deps event = some next) : server.Moves deps event next := by
  rw [(step_eq_some stepped).2]
  exact perform_moves deps server event

/-- An accepted proof is a message that stands the test, and the server welcomes its client. -/
theorem proof_of_accepts {server : BackendServer Number} {event : ServerEvent Number}
    {clientId : ClientId} (accepted : server.accepts deps event = some clientId) :
    (server.perform deps event).1 = server.welcome clientId ∧
      ∃ message serverNonce id params pending, event = .message message serverNonce clientId ∧
        server.handlerOf deps message = some (.helloProof, id, params) ∧
        server.pendingHello = some pending ∧ verifies deps pending params = true := by
  have moves := perform_moves deps server event
  generalize (server.perform deps event).1 = next at moves
  cases moves with
  | challenged _ notAccepted =>
      rw [notAccepted] at accepted
      cases accepted
  | accepted isMessage handler waiting verified _ under =>
      rw [under] at accepted
      cases accepted
      exact ⟨rfl, _, _, _, _, _, isMessage, handler, waiting, verified⟩
  | failed _ _ notAccepted =>
      rw [notAccepted] at accepted
      cases accepted
  | kept _ notAccepted =>
      rw [notAccepted] at accepted
      cases accepted

theorem Gate.step {server next : BackendServer Number} {event : ServerEvent Number}
    (gate : server.Gate) (stepped : server.step deps event = some next) : next.Gate := by
  cases step_moves stepped with
  | challenged => exact gate.of_same rfl rfl
  | @accepted _ _ clientId => exact gate.welcome clientId
  | failed _ _ _ same => exact gate.of_same same.handlers same.clientId
  | kept _ _ _ same => exact gate.of_same same.handlers same.clientId

theorem reachable_gate {server : BackendServer Number} {events : List (ServerEvent Number)}
    (reached : Execution.run (BackendServer.step deps) create events = some server) :
    server.Gate :=
  Execution.reachable_invariant Gate (fun gate stepped => gate.step stepped) gate_create reached

end Steps

/-! ## The proof of a greeting -/

/-- The parameters of a request `hello.proof`. -/
def proofParams (deps : BackendServerDeps Number) : ServerEvent Number → Option (Json Number)
  | .message message _ _ =>
      match JsonRpc.handleMessage deps.format message with
      | .request _ method params => if method = helloProofName then params else none
      | _ => none
  | _ => none

/-- The parameters name both nonces of a greeting and its challenge, and their proof is the
HMAC over these and the greeting. -/
def Proves (deps : BackendServerDeps Number) (pending : PendingHello Number)
    (proof : Json Number) : Prop :=
  ∃ clientNonce, JsonRpc.property pending.hello "nonce" = some (.string clientNonce) ∧
    JsonRpc.property proof "clientNonce" = some (.string clientNonce) ∧
    JsonRpc.property proof "serverNonce" = some (.string pending.serverNonce.text) ∧
    JsonRpc.property proof "proof" = some (.string (computeProof deps.format deps.hmac deps.token
      clientNonce pending.serverNonce.text pending.hello))

theorem verifies_iff {deps : BackendServerDeps Number} {pending : PendingHello Number}
    {params : Option (Json Number)} :
    verifies deps pending params = true ↔ ∃ proof, params = some proof ∧ Proves deps pending proof := by
  constructor
  · intro verified
    cases params with
    | none => cases verified
    | some proof =>
        rw [verifies] at verified
        split at verified
        · next text clientNonce serverNonce nonce isText isClient isServer isNonce =>
            simp only [Bool.and_eq_true, decide_eq_true_eq, verifyProof_iff] at verified
            rcases verified with ⟨⟨rfl, rfl⟩, rfl⟩
            exact ⟨proof, rfl, clientNonce, isNonce, isClient, isServer, isText⟩
        · cases verified
  · rintro ⟨proof, rfl, clientNonce, isNonce, isClient, isServer, isText⟩
    simp only [verifies, isText, isClient, isServer, isNonce, decide_true, Bool.true_and,
      verifyProof_iff]

variable {deps : BackendServerDeps Number}

theorem handlerOf_eq_some_iff {server : BackendServer Number} {message id : Json Number}
    {handler : Handler} {params : Option (Json Number)} :
    server.handlerOf deps message = some (handler, id, params) ↔
      ∃ method, JsonRpc.handleMessage deps.format message = .request id method params ∧
        server.handlers.get method = some handler := by
  rw [handlerOf]
  split
  · next other name given request =>
      rw [request]
      constructor
      · intro found
        rcases Option.map_eq_some_iff.mp found with ⟨called, registered, same⟩
        cases same
        exact ⟨name, rfl, registered⟩
      · rintro ⟨method, same, registered⟩
        cases same
        rw [registered]
        rfl
  · next notRequest =>
      constructor
      · intro found
        cases found
      · rintro ⟨method, request, _⟩
        exact absurd request (notRequest _ _ _)

/-- A proof for the pending greeting has come in. -/
def GetsProof (deps : BackendServerDeps Number) (server : BackendServer Number)
    (event : ServerEvent Number) : Prop :=
  ∃ pending proof, server.pendingHello = some pending ∧ proofParams deps event = some proof ∧
    Proves deps pending proof

theorem proofParams_eq_some {event : ServerEvent Number} {proof : Json Number}
    (isProof : proofParams deps event = some proof) :
    ∃ message serverNonce clientId id, event = .message message serverNonce clientId ∧
      JsonRpc.handleMessage deps.format message = .request id helloProofName (some proof) := by
  cases event with
  | message message serverNonce clientId =>
      rw [proofParams] at isProof
      split at isProof
      · next id method params request =>
          split at isProof
          · next isName =>
              rw [isName, isProof] at request
              exact ⟨message, serverNonce, clientId, id, rfl, request⟩
          · cases isProof
      · cases isProof
  | woke index => cases isProof
  | fatal => cases isProof
  | closed => cases isProof

theorem accepts_isSome_iff {server : BackendServer Number} (gate : server.Gate)
    (event : ServerEvent Number) :
    (server.accepts deps event).isSome ↔ server.GetsProof deps event := by
  constructor
  · intro accepted
    rcases Option.isSome_iff_exists.mp accepted with ⟨clientId, under⟩
    rcases (proof_of_accepts under).2 with
      ⟨message, serverNonce, id, params, pending, rfl, handler, waiting, verified⟩
    rcases verifies_iff.mp verified with ⟨proof, isProof, proves⟩
    rcases handlerOf_eq_some_iff.mp handler with ⟨method, request, registered⟩
    refine ⟨pending, proof, waiting, ?_, proves⟩
    rw [proofParams, request]
    simp only [(gate.helloProof method).mp registered, if_true, isProof]
  · rintro ⟨pending, proof, waiting, isProof, proves⟩
    rcases proofParams_eq_some isProof with ⟨message, serverNonce, clientId, id, rfl, request⟩
    have handler := handlerOf_eq_some_iff.mpr ⟨helloProofName, request,
      (gate.helloProof helloProofName).mpr rfl⟩
    have verified := verifies_iff.mpr ⟨proof, rfl, proves⟩
    rw [accepts, perform_of_verified serverNonce clientId handler waiting verified]
    rfl

/-! ## The latest challenge and the latest proof -/

/-- What an event makes of the pending greeting, when it does not leave it. -/
def pendingChange (deps : BackendServerDeps Number) (server : BackendServer Number)
    (event : ServerEvent Number) : Option (Option (PendingHello Number)) :=
  match server.issues deps event with
  | some pending => some (some pending)
  | none => (server.accepts deps event).map fun _ => none

theorem pendingHello_step {server next : BackendServer Number} {event : ServerEvent Number}
    (stepped : server.step deps event = some next) :
    next.pendingHello = (server.pendingChange deps event).getD server.pendingHello := by
  cases step_moves stepped with
  | challenged issued => simp only [pendingChange, issued, Option.getD_some]
  | accepted _ _ _ _ notIssued accepted =>
      rw [pendingHello_welcome]
      simp only [pendingChange, notIssued, accepted, Option.map_some, Option.getD_some]
  | failed _ notIssued notAccepted same =>
      simp only [pendingChange, notIssued, notAccepted, Option.map_none, Option.getD_none,
        same.pendingHello]
  | kept notIssued notAccepted _ same =>
      simp only [pendingChange, notIssued, notAccepted, Option.map_none, Option.getD_none,
        same.pendingHello]

theorem clientId_step {server next : BackendServer Number} {event : ServerEvent Number}
    (stepped : server.step deps event = some next) :
    next.clientId = ((server.accepts deps event).map some).getD server.clientId := by
  cases step_moves stepped with
  | challenged _ notAccepted => rw [notAccepted]; rfl
  | accepted _ _ _ _ _ accepted => rw [clientId_welcome, accepted]; rfl
  | failed _ _ notAccepted same => rw [notAccepted]; exact same.clientId
  | kept _ notAccepted _ same => rw [notAccepted]; exact same.clientId

theorem closed_serveMessage (server : BackendServer Number) (message : Json Number)
    (serverNonce : ServerNonce) (clientId : ClientId) :
    (server.serveMessage deps message serverNonce clientId).1.closed = server.closed := by
  rw [serveMessage]
  split
  · rw [serveHello]
    split <;> rfl
  · rw [serveHelloProof]
    split
    · rfl
    · split
      · rfl
      · rw [closed_registerMethods]
  · rfl
  · split <;> rfl

theorem closed_perform (server : BackendServer Number) (event : ServerEvent Number) :
    (server.perform deps event).1.closed =
      match event with
      | .closed => true
      | _ => server.closed := by
  cases event with
  | message message serverNonce clientId => exact closed_serveMessage _ _ _ _
  | woke index =>
      rw [perform, serveWoken]
      split
      · rfl
      · dsimp only
        split <;> rfl
  | fatal => rfl
  | closed => rfl

theorem eq_welcome_of_accepts {server next : BackendServer Number} {event : ServerEvent Number}
    {clientId : ClientId} (stepped : server.step deps event = some next)
    (accepted : server.accepts deps event = some clientId) : next = server.welcome clientId :=
  (step_eq_some stepped).2.trans (proof_of_accepts accepted).1

/-- A challenge that a run has issued, with neither another one nor an accepted proof since. -/
def LatestChallenge (deps : BackendServerDeps Number) (start : BackendServer Number)
    (past : List (ServerEvent Number)) (pending : PendingHello Number) : Prop :=
  ∃ first issue rest before after id, past = first ++ issue :: rest ∧
    Execution.run (BackendServer.step deps) start first = some before ∧
    before.step deps issue = some after ∧ before.issues deps issue = some pending ∧
    (before.perform deps issue).2.replies =
      [(id, .challenge (createChallenge pending.serverNonce deps.capabilities))] ∧
    Execution.AllSteps (BackendServer.step deps)
      (fun server event => server.issues deps event = none ∧ server.accepts deps event = none)
      after rest

/-- A proof was accepted in a run under a client id. -/
def AcceptedIn (deps : BackendServerDeps Number) (start : BackendServer Number)
    (past : List (ServerEvent Number)) (clientId : ClientId) : Prop :=
  ∃ first accept rest before, past = first ++ accept :: rest ∧
    Execution.run (BackendServer.step deps) start first = some before ∧
    before.accepts deps accept = some clientId

theorem latestChallenge_of_pending {start server : BackendServer Number}
    {past : List (ServerEvent Number)} {pending : PendingHello Number}
    (nothing : start.pendingHello = none)
    (reached : Execution.run (BackendServer.step deps) start past = some server)
    (waiting : server.pendingHello = some pending) : LatestChallenge deps start past pending := by
  rcases Execution.exists_latest BackendServer.pendingHello (pendingChange deps) nothing
    pendingHello_step reached waiting with
    ⟨first, issue, rest, before, after, split, firstReached, stepped, changed, later, kept⟩
  have issued : before.issues deps issue = some pending := by
    rw [pendingChange] at changed
    split at changed
    · next found =>
        rw [found]
        exact Option.some.inj changed
    · cases accepted : before.accepts deps issue with
      | none => rw [accepted] at changed; cases changed
      | some clientId => rw [accepted] at changed; cases changed
  rcases replies_of_issues deps issued with ⟨id, replies⟩
  refine ⟨first, issue, rest, before, after, id, split, firstReached, stepped, issued, replies, ?_⟩
  rw [Execution.AllSteps.iff_forall_split later] at kept ⊢
  intro front event back middle same middleReached
  have unchanged := kept front event back middle same middleReached
  rw [pendingChange] at unchanged
  split at unchanged
  · cases unchanged
  · next notIssued => exact ⟨notIssued, Option.map_eq_none_iff.mp unchanged⟩

theorem acceptedIn_of_clientId {server : BackendServer Number} {past : List (ServerEvent Number)}
    {clientId : ClientId}
    (reached : Execution.run (BackendServer.step deps) create past = some server)
    (isClient : server.clientId = some clientId) : AcceptedIn deps create past clientId := by
  rcases Execution.exists_latest BackendServer.clientId
    (fun server event => (server.accepts deps event).map some) rfl clientId_step reached isClient
    with ⟨first, accept, rest, before, _, split, firstReached, _, changed, _, _⟩
  rcases Option.map_eq_some_iff.mp changed with ⟨other, accepted, same⟩
  cases same
  exact ⟨first, accept, rest, before, split, firstReached, accepted⟩

theorem message_of_dispatched {server : BackendServer Number} {event : ServerEvent Number}
    {handler : Handler} (dispatched : (server.perform deps event).2.dispatched = some handler) :
    ∃ message serverNonce clientId, event = .message message serverNonce clientId := by
  cases event with
  | message message serverNonce clientId => exact ⟨message, serverNonce, clientId, rfl⟩
  | woke index =>
      rw [perform, serveWoken] at dispatched
      split at dispatched
      · cases dispatched
      · dsimp only at dispatched
        split at dispatched <;> cases dispatched
  | fatal => cases dispatched
  | closed => cases dispatched

theorem clientId_of_dispatched {server : BackendServer Number} (gate : server.Gate)
    {event : ServerEvent Number} {method : ServedMethod} {owner : ClientId}
    (dispatched : (server.perform deps event).2.dispatched = some (.served method owner)) :
    server.clientId = some owner := by
  rcases message_of_dispatched dispatched with ⟨message, serverNonce, clientId, rfl⟩
  rw [perform, serveMessage] at dispatched
  split at dispatched
  · cases dispatched
  · cases dispatched
  · next called named id params handler =>
      cases dispatched
      rcases handlerOf_eq_some_iff.mp handler with ⟨name, _, registered⟩
      exact (gate.served name method owner registered).1
  · split at dispatched <;> cases dispatched

/-- A served method is called only for a client whose proof was accepted before. An accepted
proof is the HMAC over the latest greeting and its challenge, which no proof has consumed:
it was issued after every proof that was accepted earlier. -/
theorem handshake_gates (deps : BackendServerDeps Number) {events : List (ServerEvent Number)}
    {server : BackendServer Number}
    (reached : Execution.run (BackendServer.step deps) create events = some server)
    (event : ServerEvent Number) :
    (∀ method owner, (server.perform deps event).2.dispatched = some (.served method owner) →
      AcceptedIn deps create events owner) ∧
    ∀ clientId, server.accepts deps event = some clientId →
      ∃ pending proof, proofParams deps event = some proof ∧ Proves deps pending proof ∧
        LatestChallenge deps create events pending ∧
        ∀ first accept rest before after, events = first ++ accept :: rest →
          Execution.run (BackendServer.step deps) create first = some before →
            (before.accepts deps accept).isSome → before.step deps accept = some after →
              LatestChallenge deps after rest pending := by
  have gate := reachable_gate reached
  constructor
  · intro method owner dispatched
    exact acceptedIn_of_clientId reached (clientId_of_dispatched gate dispatched)
  · intro clientId accepted
    have isProof := (accepts_isSome_iff gate event).mp (by rw [accepted]; rfl)
    rcases isProof with ⟨pending, proof, waiting, params, proves⟩
    refine ⟨pending, proof, params, proves, latestChallenge_of_pending rfl reached waiting, ?_⟩
    intro first accept rest before after split firstReached earlier stepped
    have consumed : after.pendingHello = none := by
      rcases Option.isSome_iff_exists.mp earlier with ⟨other, acceptedOther⟩
      rw [eq_welcome_of_accepts stepped acceptedOther, pendingHello_welcome]
    rw [split, Execution.run_append, firstReached, Option.bind_some, Execution.run_cons,
      stepped, Option.bind_some] at reached
    exact latestChallenge_of_pending consumed reached waiting

/-! ## Failed proofs -/

/-- The proofs that fail along a run. -/
def failuresFrom (deps : BackendServerDeps Number) (start : BackendServer Number)
    (events : List (ServerEvent Number)) : List Unit :=
  Execution.observed (BackendServer.step deps)
    (fun server event => if server.fails deps event then [()] else []) start events

/-- How many proofs have failed on a connection. -/
def failedProofs (deps : BackendServerDeps Number) (events : List (ServerEvent Number)) : Nat :=
  (failuresFrom deps create events).length

theorem failures_step {server next : BackendServer Number} {event : ServerEvent Number}
    (stepped : server.step deps event = some next) :
    next.failures = server.failures + if server.fails deps event then 1 else 0 := by
  cases step_moves stepped with
  | challenged _ _ notFailed => simp only [notFailed, Bool.false_eq_true, if_false, Nat.add_zero]
  | accepted _ _ _ _ _ _ notFailed =>
      simp only [failures_welcome, notFailed, Bool.false_eq_true, if_false, Nat.add_zero]
  | failed failed _ _ _ failures => simp only [failures, failed, if_true]
  | kept _ _ notFailed _ failures =>
      simp only [failures, notFailed, Bool.false_eq_true, if_false, Nat.add_zero]

theorem failures_run {start server : BackendServer Number} {events : List (ServerEvent Number)}
    (reached : Execution.run (BackendServer.step deps) start events = some server) :
    server.failures = start.failures + (failuresFrom deps start events).length := by
  induction events generalizing start with
  | nil =>
      cases reached
      rfl
  | cons event rest induction =>
      rcases Option.bind_eq_some_iff.mp reached with ⟨next, stepped, restReached⟩
      rw [failuresFrom, Execution.observed_cons rest stepped, List.length_append,
        induction restReached, failures_step stepped, Nat.add_assoc]
      congr 2
      split <;> rfl

/-- The counter counts them. -/
theorem failures_eq_failedProofs {server : BackendServer Number}
    {events : List (ServerEvent Number)}
    (reached : Execution.run (BackendServer.step deps) create events = some server) :
    server.failures = failedProofs deps events :=
  (failures_run reached).trans (Nat.zero_add _)

/-- Once the limit of failures is reached no proof is accepted any more, in exactly those runs
in which none comes in that proves the pending greeting. -/
theorem noneAccepted_afterLimit_iff (deps : BackendServerDeps Number)
    {events : List (ServerEvent Number)} {server : BackendServer Number}
    (reached : Execution.run (BackendServer.step deps) create events = some server) :
    (∀ first event rest before, events = first ++ event :: rest →
      Execution.run (BackendServer.step deps) create first = some before →
        deps.auth.maxFailures ≤ failedProofs deps first → before.accepts deps event = none) ↔
    Execution.AllSteps (BackendServer.step deps)
      (fun server event =>
        ¬(deps.auth.maxFailures ≤ server.failures ∧ server.GetsProof deps event))
      create events := by
  rw [Execution.AllSteps.iff_forall_split reached]
  constructor
  · rintro none first event rest before split firstReached ⟨limit, getsProof⟩
    rw [failures_eq_failedProofs firstReached] at limit
    have accepted := (accepts_isSome_iff (reachable_gate firstReached) event).mpr getsProof
    rw [none first event rest before split firstReached limit] at accepted
    cases accepted
  · intro conditions first event rest before split firstReached limit
    by_contra accepted
    rw [← failures_eq_failedProofs firstReached] at limit
    exact conditions first event rest before split firstReached ⟨limit,
      (accepts_isSome_iff (reachable_gate firstReached) event).mp
        (Option.isSome_iff_ne_none.mpr accepted)⟩

/-! ## A connection that is tried out -/

def knownToken : Text := asciiText "dsh-token"

def knownNonce : Text := asciiText "00112233445566778899aabbccddeeff"

def oneNonce : ServerNonce where
  text := List.replicate 32 (ascii '1')
  length_text := List.length_replicate
  isHex := fun unit member => by
    rw [List.eq_of_mem_replicate member]
    decide

/-- HMAC-SHA256 under the known token, for the messages of the known greeting with the two
known challenges. -/
def knownHmac (_ message : List Octet) : List Octet :=
  if (message.drop 32).take 32 = Utf8.encode zeroNonce.text then
    [148, 41, 81, 59, 10, 92, 142, 19, 80, 25, 162, 159, 206, 175, 185, 25, 239, 104, 231, 165,
      121, 91, 240, 87, 66, 25, 65, 10, 133, 108, 215, 77]
  else
    [26, 77, 7, 182, 162, 128, 220, 222, 168, 240, 216, 229, 26, 192, 16, 158, 102, 14, 81, 139,
      66, 36, 40, 8, 154, 148, 199, 198, 169, 34, 144, 194]

def knownDeps : BackendServerDeps Int where
  format := integers
  hmac := knownHmac
  token := knownToken

def knownRequest (method : String) (params : Json Int) : Json Int :=
  .object [(asciiText "jsonrpc", .string (asciiText "2.0")), (asciiText "id", .number 7),
    (asciiText "method", .string (asciiText method)), (asciiText "params", params)]

/-- The known greeting, with the challenge it is answered with. -/
def greets (serverNonce : ServerNonce) : ServerEvent Int :=
  .message (knownRequest "hello" (.object (greeting knownNonce))) serverNonce "client-0"

/-- A proof for the known greeting, with the client id that is minted if it is accepted. -/
def proves (serverNonce : ServerNonce) (proof : String) (clientId : ClientId) : ServerEvent Int :=
  .message (knownRequest "hello.proof" (.object [(asciiText "clientNonce", .string knownNonce),
    (asciiText "serverNonce", .string serverNonce.text),
    (asciiText "hello", .object (greeting knownNonce)),
    (asciiText "proof", .string (asciiText proof))])) serverNonce clientId

def zeroProof : String := "9429513b0a5c8e135019a29fceafb919ef68e7a5795bf0574219410a856cd74d"

def oneProof : String := "1a4d07b6a280dcdea8f0d8e51ac0109e660e518b422428089a94c7c6a92290c2"

def welcomed : ServerEvent Int := proves zeroNonce zeroProof "client-1"

def wrong : ServerEvent Int := proves zeroNonce "deadbeef" "client-1"

def listing : ServerEvent Int := .message (knownRequest "session.list" .null) zeroNonce "client-2"

theorem handshake_gates_welcomed :
    (∃ pending proof, proofParams knownDeps welcomed = some proof ∧
      Proves knownDeps pending proof ∧
      LatestChallenge knownDeps create [greets zeroNonce] pending) ∧
    AcceptedIn knownDeps create [greets zeroNonce, welcomed] "client-1" := by
  constructor
  · have accepted : (Execution.run (BackendServer.step knownDeps) create
        [greets zeroNonce]).elim none (fun server => server.accepts knownDeps welcomed) =
          some "client-1" := by decide +kernel
    cases reached : Execution.run (BackendServer.step knownDeps) create [greets zeroNonce] with
    | none =>
        rw [reached] at accepted
        cases accepted
    | some server =>
        rw [reached] at accepted
        rcases (handshake_gates knownDeps reached welcomed).2 "client-1" accepted with
          ⟨pending, proof, isProof, proves, latest, _⟩
        exact ⟨pending, proof, isProof, proves, latest⟩
  · have dispatched : (Execution.run (BackendServer.step knownDeps) create
        [greets zeroNonce, welcomed]).elim none
          (fun server => (server.perform knownDeps listing).2.dispatched) =
            some (.served .sessionList "client-1") := by decide +kernel
    cases reached : Execution.run (BackendServer.step knownDeps) create
        [greets zeroNonce, welcomed] with
    | none =>
        rw [reached] at dispatched
        cases dispatched
    | some server =>
        rw [reached] at dispatched
        exact (handshake_gates knownDeps reached listing).1 .sessionList "client-1" dispatched

/-- Three wrong proofs that come in one after another. -/
def wrongThrice : List (ServerEvent Int) := [greets zeroNonce, wrong, wrong, wrong]

/-- The proof that comes in with them is accepted, before the connection is torn down. -/
theorem accepted_afterLimit :
    knownDeps.auth.maxFailures ≤ failedProofs knownDeps wrongThrice ∧
      (Execution.run (BackendServer.step knownDeps) create wrongThrice).elim none
        (fun server => server.accepts knownDeps welcomed) = some "client-1" := by
  decide +kernel

theorem noneAccepted_afterLimit_wrongThrice :
    ¬Execution.AllSteps (BackendServer.step knownDeps)
      (fun server event =>
        ¬(knownDeps.auth.maxFailures ≤ server.failures ∧ server.GetsProof knownDeps event))
      create (wrongThrice ++ [welcomed]) := by
  intro conditions
  have limit : knownDeps.auth.maxFailures ≤ failedProofs knownDeps wrongThrice := by
    decide +kernel
  have accepted : (Execution.run (BackendServer.step knownDeps) create wrongThrice).elim none
      (fun server => server.accepts knownDeps welcomed) = some "client-1" := by decide +kernel
  have possible : (Execution.run (BackendServer.step knownDeps) create
      (wrongThrice ++ [welcomed])).isSome = true := by decide +kernel
  rcases Option.isSome_iff_exists.mp possible with ⟨server, reached⟩
  cases before : Execution.run (BackendServer.step knownDeps) create wrongThrice with
  | none =>
      rw [before] at accepted
      cases accepted
  | some earlier =>
      rw [before] at accepted
      have refused := (noneAccepted_afterLimit_iff knownDeps reached).mpr conditions
        wrongThrice welcomed [] earlier rfl before limit
      rw [Option.elim_some, refused] at accepted
      cases accepted

end BackendServer

end DshRemote.Backend
