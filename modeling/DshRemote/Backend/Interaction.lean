import DshRemote.Backend.Broker

/-! # Outstanding interactions

What the approval bridge and the question bridge have in common: whom a request
is routed to, and the table of the requests nobody has answered yet. -/

namespace DshRemote.Backend

/-- A request that was routed to frontends and is not settled. It is kept under its
own request id, which is not stored a second time. -/
structure Outstanding (Params : Type) where
  sessionId : Option SessionId
  /-- Clients still eligible to answer. -/
  targets : OrderedSet ClientId
  /-- The wire payload, kept for the replay at an attach. -/
  params : Params
deriving DecidableEq

abbrev PendingTable (Params : Type) := OrderedMap String (Outstanding Params)

namespace SessionBroker

/-- The clients a host request goes to: the writer of its session alone, else
everybody attached there; every connection when it names no session. -/
def routedTo (broker : SessionBroker) : Option SessionId → List ClientId
  | none => broker.allConnections
  | some sessionId =>
      match broker.writerOf sessionId with
      | some writer => [writer]
      | none => broker.attachedTo sessionId

/-- Best-effort fan-out of a request to its targets. -/
def fanOut (environment : Environment) (targets : List ClientId)
    (notification : Notification) : List Sent :=
  (targets.filter fun clientId => environment.delivers clientId notification).map
    fun clientId => ⟨clientId, notification⟩

/-- Every remaining target but the winner learns that a request is closed. -/
def notifyLosers (environment : Environment) (broker : SessionBroker)
    (targets : OrderedSet ClientId) (winner : Option ClientId) (closed : Notification) :
    List Sent :=
  fanOut environment
    (targets.elements.filter fun clientId =>
      some clientId ≠ winner ∧ clientId ∈ broker.allConnections)
    closed

end SessionBroker

namespace Outstanding

variable {Params : Type}

/-- A connection went away: it can no longer answer. -/
def dropClient (clientId : ClientId) (outstanding : Outstanding Params) : Outstanding Params :=
  { outstanding with targets := outstanding.targets.delete clientId }

/-- Its last target is this client. -/
def Orphaned (clientId : ClientId) (outstanding : Outstanding Params) : Prop :=
  clientId ∈ outstanding.targets ∧ (outstanding.targets.delete clientId).isEmpty = true

instance (clientId : ClientId) (outstanding : Outstanding Params) :
    Decidable (outstanding.Orphaned clientId) := instDecidableAnd

end Outstanding

namespace PendingTable

variable {Params : Type}

/-- Outstanding requests on one session, for the attach result. -/
def pendingForSession (table : PendingTable Params) (sessionId : SessionId) : List Params :=
  (table.values.filter fun pending => pending.sessionId = some sessionId).map
    Outstanding.params

def HasPending (table : PendingTable Params) (sessionId : SessionId) : Prop :=
  ∃ requestId pending, table.get requestId = some pending ∧ pending.sessionId = some sessionId

theorem hasPending_iff (table : PendingTable Params) (sessionId : SessionId) :
    table.HasPending sessionId ↔
      ∃ pending ∈ table.values, pending.sessionId = some sessionId := by
  constructor
  · intro has
    rcases has with ⟨requestId, pending, found, onSession⟩
    exact ⟨pending, OrderedMap.mem_values_of_get found, onSession⟩
  · intro has
    rcases has with ⟨pending, member, onSession⟩
    rcases OrderedMap.exists_get_of_mem_values member with ⟨requestId, found⟩
    exact ⟨requestId, pending, found, onSession⟩

instance (table : PendingTable Params) (sessionId : SessionId) :
    Decidable (table.HasPending sessionId) :=
  decidable_of_iff _ (table.hasPending_iff sessionId).symm

def unknownRequest (what requestId : String) : RemoteError where
  code := .protocolError
  message := "unknown or already-settled " ++ what ++ " request \"" ++ requestId ++ "\""

def notATarget (what clientId requestId : String) : RemoteError where
  code := .protocolError
  message := "client \"" ++ clientId ++ "\" is not a target of " ++ what ++ " request \"" ++
    requestId ++ "\""

/-- The two checks an answer has to pass. -/
def answerable (what : String) (table : PendingTable Params) (clientId : ClientId)
    (requestId : String) : Except RemoteError (Outstanding Params) :=
  match table.get requestId with
  | none => .error (unknownRequest what requestId)
  | some pending =>
      if clientId ∈ pending.targets then .ok pending
      else .error (notATarget what clientId requestId)

/-- The requests left without a target when a client goes, in table order. -/
def orphans (table : PendingTable Params) (clientId : ClientId) :
    List (String × Outstanding Params) :=
  table.entries.filter fun entry => entry.2.Orphaned clientId

/-- The loop of `disconnect` over a snapshot of the table: every entry loses the
client, and an entry with no target left is taken out. -/
def dropClient (table : PendingTable Params) (clientId : ClientId) : PendingTable Params :=
  (table.filter fun _ pending => ¬pending.Orphaned clientId).mapValues
    fun _ pending => pending.dropClient clientId

theorem answerable_ok_iff (what : String) (table : PendingTable Params) (clientId : ClientId)
    (requestId : String) (pending : Outstanding Params) :
    table.answerable what clientId requestId = .ok pending ↔
      table.get requestId = some pending ∧ clientId ∈ pending.targets := by
  simp only [answerable]
  cases table.get requestId with
  | none => simp
  | some found =>
      by_cases target : clientId ∈ found.targets
      · simp only [target, if_true, Except.ok.injEq, Option.some.injEq]
        constructor
        · intro equal
          exact ⟨equal, equal ▸ target⟩
        · exact And.left
      · simp only [target, if_false, Option.some.injEq, reduceCtorEq, false_iff]
        intro both
        exact target (both.1 ▸ both.2)

theorem get_dropClient (table : PendingTable Params) (clientId : ClientId)
    (requestId : String) :
    (table.dropClient clientId).get requestId =
      ((table.get requestId).filter fun pending => ¬pending.Orphaned clientId).map
        (Outstanding.dropClient clientId) := by
  simp only [dropClient, OrderedMap.get_mapValues, OrderedMap.get_filter]

theorem hasPending_set {table : PendingTable Params} {requestId : String}
    (fresh : table.get requestId = none) (raised : Outstanding Params) (sessionId : SessionId) :
    HasPending (table.set requestId raised) sessionId ↔
      raised.sessionId = some sessionId ∨ table.HasPending sessionId := by
  constructor
  · intro has
    rcases has with ⟨id, pending, found, onSession⟩
    simp only [OrderedMap.get_set] at found
    split at found
    · cases found
      exact Or.inl onSession
    · exact Or.inr ⟨id, pending, found, onSession⟩
  · intro has
    rcases has with onSession | ⟨id, pending, found, onSession⟩
    · exact ⟨requestId, raised, OrderedMap.get_set_self _ _ _, onSession⟩
    · refine ⟨id, pending, ?_, onSession⟩
      have another : id ≠ requestId := by
        intro same
        rw [same, fresh] at found
        cases found
      rw [OrderedMap.get_set, if_neg another]
      exact found

theorem get_dropClient_some {table : PendingTable Params} {clientId : ClientId}
    {requestId : String} {after : Outstanding Params}
    (found : (table.dropClient clientId).get requestId = some after) :
    ∃ before, table.get requestId = some before ∧ after = before.dropClient clientId := by
  rw [get_dropClient] at found
  rcases Option.map_eq_some_iff.mp found with ⟨before, kept, rfl⟩
  exact ⟨before, (Option.filter_eq_some_iff.mp kept).1, rfl⟩

end PendingTable

end DshRemote.Backend
