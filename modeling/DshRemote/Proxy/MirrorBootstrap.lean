import DshRemote.Proxy.MirrorSafety

/-! # What a failed bootstrap leaves behind

`SessionMirror.create` acquires its resources one after the other: the event tap, the scope
of the agent, the session in the store, the agent in the registry, the approval and question
taps. Each call of upstream code between two of them may throw; what it throws is an input. -/

namespace DshRemote.Proxy

open Backend

/-- What one mirror has taken of the world around it. -/
structure Holdings where
  /-- Its event callback is on the handle. -/
  eventTap : Bool := false
  /-- Its session is in the store. -/
  session : Bool := false
  /-- Its agent is in the registry. -/
  agent : Bool := false
  approvalTap : Bool := false
  questionTap : Bool := false
  /-- Its scope was created and is not disposed. -/
  scope : Bool := false
deriving DecidableEq, Repr

/-- Code that may throw, over what the mirror has taken. -/
abbrev BootstrapM := ExceptT String (StateM Holdings)

/-- A call that may throw and takes nothing. -/
def throws : Option String → BootstrapM Unit
  | none => pure ()
  | some error => throw error

def ofExcept : Except String α → BootstrapM α
  | .ok value => pure value
  | .error thrown => throw thrown

structure MirrorOptions where
  targetId : String
  sessionId : SessionId
  seedSession : Option (List LocalEvent) := none
  /-- `agent/session-start` is to be emitted. -/
  sessionStart : Bool := false

/-- What the calls up to the setup hook come to. -/
structure PreparationOutcome where
  history : Except String (List MirroredWireEvent)
  prepare : Option String := none
  facade : Option String := none
  createScope : Option String := none

/-- What the calls from the setup hook on come to. -/
structure PublicationOutcome where
  setup : Option String := none
  commit : Option String := none
  enterSession : Option String := none
  announceSession : Option String := none
  enterAgent : Option String := none
  announceAgent : Option String := none
  emitSessionStart : Option String := none
  /-- `client.capabilitiesOf(target)` has `questions`. -/
  clientQuestions : Bool := false
  /-- The capabilities of the connection of the handle have `questions`. -/
  connectionQuestions : Bool := false
  /-- What the listeners of a mirrored inbox splice throw. -/
  splice : MirroredWireEvent → Option String := fun _ => none

namespace MirrorBootstrap

variable (library : SessionLibrary)

/-- Steps 2 to 4: the history replayed into the session, the facade and its scope. -/
def prepare (options : MirrorOptions) (outcome : PreparationOutcome) :
    BootstrapM (List LocalEvent) := do
  let history ← ofExcept outcome.history
  let session ← match options.seedSession with
    | some seed => pure seed
    | none => do
        throws outcome.prepare
        pure []
  let session ← ofExcept (replayHistory library options.sessionId session history)
  throws outcome.facade
  throws outcome.createScope
  modify fun held => { held with scope := true }
  pure session

/-- What `handle.onQuestion` throws. -/
def onQuestion (options : MirrorOptions) (detached : Bool) (connectionQuestions : Bool) :
    Option String :=
  if detached then some ("session \"" ++ options.sessionId ++ "\": handle is detached")
  else if !connectionQuestions then
    some ("target \"" ++ options.targetId ++ "\": backend does not support question requests " ++
      "(questions) (missing \"questions\" capability)")
  else none

/-- `InteractionBridges.wire`. -/
def wire (options : MirrorOptions) (detached : Bool) (outcome : PublicationOutcome) :
    BootstrapM Unit := do
  modify fun held => { held with approvalTap := true }
  if outcome.clientQuestions then
    throws (onQuestion options detached outcome.connectionQuestions)
    modify fun held => { held with questionTap := true }

/-- The buffered events appended to the mirror. The listeners of the splices that are fed to
the inbox may throw. -/
def drain (options : MirrorOptions) (outcome : PublicationOutcome) :
    Mirror → List MirroredWireEvent → BootstrapM Mirror
  | mirror, [] => pure mirror
  | mirror, wire :: rest => do
      let next := mirror.appendEvent library options.sessionId wire
      if mirror.failed = none ∧ next.failed = none ∧ wire.type = "agent/inbox/spliced" then
        throws (outcome.splice wire)
      drain options outcome next rest

/-- Steps 5 to 7, with the rollbacks around the two announcements. -/
def publish (options : MirrorOptions) (detached : Bool) (outcome : PublicationOutcome)
    (session : List LocalEvent) (buffered : List MirroredWireEvent) : BootstrapM Mirror := do
  throws outcome.setup
  throws outcome.commit
  throws outcome.enterSession
  modify fun held => { held with session := true }
  try throws outcome.announceSession
  catch err =>
    modify fun held => { held with session := false }
    throw err
  throws outcome.enterAgent
  modify fun held => { held with agent := true }
  try throws outcome.announceAgent
  catch err =>
    modify fun held => { held with agent := false }
    modify fun held => { held with session := false }
    throw err
  if options.sessionStart then
    throws outcome.emitSessionStart
  wire options detached outcome
  drain library options outcome { session := session } buffered

/-- The outermost `catch` of `create`. -/
def guarded (body : BootstrapM α) : BootstrapM α := do
  try body
  catch err =>
    modify fun held => { held with eventTap := false }
    throw err

end MirrorBootstrap

inductive BootstrapPhase
  | reading
  /-- The setup hook is awaited. -/
  | composing (session : List LocalEvent)
  | live (mirror : Mirror)
  | rejected (error : String)

structure MirrorBootstrap where
  options : MirrorOptions
  buffered : List MirroredWireEvent := []
  detached : Bool := false
  held : Holdings := { eventTap := true }
  phase : BootstrapPhase := .reading

inductive BootstrapEvent
  /-- The handle delivers an event to the callbacks on it. -/
  | delivered (wire : MirroredWireEvent)
  | detached
  /-- `readRemoteHistory` has settled. -/
  | historyRead (outcome : PreparationOutcome)
  /-- The setup hook has settled. -/
  | composed (outcome : PublicationOutcome)

/-- The setup hook has settled, and the code behind it has run. -/
def BootstrapEvent.isComposed : BootstrapEvent → Bool
  | .composed _ => true
  | _ => false

namespace MirrorBootstrap

def step (library : SessionLibrary) (self : MirrorBootstrap) :
    BootstrapEvent → Option MirrorBootstrap
  | .delivered wire =>
      if self.detached then none
      else some (match self.phase with
        | .reading | .composing _ => { self with buffered := self.buffered ++ [wire] }
        | .live mirror =>
            { self with phase := .live (mirror.appendEvent library self.options.sessionId wire) }
        | .rejected _ => self)
  | .detached => some { self with detached := true }
  | .historyRead outcome =>
      match self.phase with
      | .reading =>
          let result := (guarded (prepare library self.options outcome)).run.run self.held
          some { self with
            held := result.2
            phase := match result.1 with
              | .ok session => .composing session
              | .error thrown => .rejected thrown }
      | _ => none
  | .composed outcome =>
      match self.phase with
      | .composing session =>
          let result := (guarded (publish library self.options self.detached outcome session
            self.buffered)).run.run self.held
          some { self with
            held := result.2
            phase := match result.1 with
              | .ok mirror => .live mirror
              | .error thrown => .rejected thrown }
      | _ => none

/-! ## What the stretches of `create` keep -/

theorem run_bind (first : BootstrapM α) (rest : α → BootstrapM β) (held : Holdings) :
    (first >>= rest).run.run held = match first.run.run held with
      | (.ok value, next) => (rest value).run.run next
      | (.error thrown, next) => (.error thrown, next) := by
  change (ExceptT.bindCont rest (first.run.run held).1).run (first.run.run held).2 = _
  rcases first.run.run held with ⟨result, next⟩
  cases result with
  | ok value => rfl
  | error thrown => rfl

theorem run_tryCatch (body : BootstrapM α) (handler : String → BootstrapM α) (held : Holdings) :
    (tryCatch body handler).run.run held = match body.run.run held with
      | (.ok value, next) => (.ok value, next)
      | (.error thrown, next) => (handler thrown).run.run next := by
  simp only [tryCatch, tryCatchThe, MonadExceptOf.tryCatch, ExceptT.tryCatch, ExceptT.run_mk,
    StateT.run_bind]
  rw [show StateT.run body held = body.run.run held from rfl]
  rcases body.run.run held with ⟨result, next⟩
  cases result with
  | ok value => rfl
  | error thrown => rfl

/-- Whatever comes of the code, it keeps a property of what the mirror has taken. -/
def Leaves (property : Holdings → Prop) (body : BootstrapM α) : Prop :=
  ∀ held, property held → property (body.run.run held).2

namespace Leaves

variable {property : Holdings → Prop}

theorem pure (value : α) : Leaves property (Pure.pure value : BootstrapM α) :=
  fun _ holds => holds

theorem throw (error : String) : Leaves property (MonadExcept.throw error : BootstrapM α) :=
  fun _ holds => holds

theorem throws (error : Option String) : Leaves property (throws error) := by
  cases error with
  | none => exact pure ()
  | some error => exact throw error

theorem modify {change : Holdings → Holdings} (keeps : ∀ held, property held →
    property (change held)) : Leaves property (modify change : BootstrapM Unit) :=
  keeps

theorem bind {first : BootstrapM α} {rest : α → BootstrapM β} (leaves : Leaves property first)
    (later : ∀ value, Leaves property (rest value)) : Leaves property (first >>= rest) := by
  intro held holds
  have middle := leaves held holds
  rw [run_bind]
  revert middle
  rcases first.run.run held with ⟨result, next⟩
  intro middle
  cases result with
  | ok value => exact later value next middle
  | error thrown => exact middle

theorem tryCatch {body : BootstrapM α} {handler : String → BootstrapM α}
    (leaves : Leaves property body) (handles : ∀ thrown, Leaves property (handler thrown)) :
    Leaves property (tryCatch body handler) := by
  intro held holds
  have middle := leaves held holds
  rw [run_tryCatch]
  revert middle
  rcases body.run.run held with ⟨result, next⟩
  intro middle
  cases result with
  | ok value => exact middle
  | error thrown => exact handles thrown next middle

end Leaves

variable {library : SessionLibrary} {options : MirrorOptions}

theorem drain_leaves {property : Holdings → Prop} (outcome : PublicationOutcome) (mirror : Mirror)
    (buffered : List MirroredWireEvent) :
    Leaves property (drain library options outcome mirror buffered) := by
  induction buffered generalizing mirror with
  | nil => exact .pure mirror
  | cons wire rest induction =>
      rw [drain]
      dsimp only
      split
      · exact .bind (.throws _) fun _ => induction _
      · exact induction _

/-- Nothing behind the setup hook disposes of the scope. -/
theorem publish_leaves_scope (detached : Bool) (outcome : PublicationOutcome)
    (session : List LocalEvent) (buffered : List MirroredWireEvent) :
    Leaves (fun held => held.scope = true)
      (publish library options detached outcome session buffered) := by
  have keeps {change : Holdings → Holdings} (same : ∀ held, (change held).scope = held.scope) :
      Leaves (fun held => held.scope = true) (modify change : BootstrapM Unit) :=
    .modify fun held holds => (same held).trans holds
  have wires : Leaves (fun held => held.scope = true) (wire options detached outcome) := by
    unfold wire
    refine .bind (keeps fun _ => rfl) fun _ => ?_
    split
    · exact .bind (.throws _) fun _ => keeps fun _ => rfl
    · exact .pure _
  unfold publish
  refine .bind (.throws _) fun _ => .bind (.throws _) fun _ => .bind (.throws _) fun _ => ?_
  refine .bind (keeps fun _ => rfl) fun _ => ?_
  refine .bind (.tryCatch (.throws _) fun _ => .bind (keeps fun _ => rfl) fun _ => .throw _) ?_
  intro _
  refine .bind (.throws _) fun _ => .bind (keeps fun _ => rfl) fun _ => ?_
  refine .bind (.tryCatch (.throws _) fun _ => ?_) fun _ => ?_
  · exact .bind (keeps fun _ => rfl) fun _ => .bind (keeps fun _ => rfl) fun _ => .throw _
  · dsimp only
    split
    · exact .bind (.throws _) fun _ => .bind wires fun _ => drain_leaves _ _ _
    · exact .bind wires fun _ => drain_leaves _ _ _

/-- The outermost `catch` takes the event tap off the handle, and nothing else. -/
theorem run_guarded (body : BootstrapM α) (held : Holdings) :
    (guarded body).run.run held = match body.run.run held with
      | (.ok value, next) => (.ok value, next)
      | (.error thrown, next) => (.error thrown, { next with eventTap := false }) := by
  unfold guarded
  rw [run_tryCatch]
  rcases body.run.run held with ⟨result, next⟩
  cases result with
  | ok value => rfl
  | error thrown => rfl

/-- The replay, the facade and the scope. -/
theorem run_mint (replayed : Except String (List LocalEvent)) (facade createScope : Option String)
    (held : Holdings) :
    let body : BootstrapM (List LocalEvent) := do
      let session ← ofExcept replayed
      throws facade
      throws createScope
      modify fun held => { held with scope := true }
      pure session
    (∃ session, body.run.run held = (.ok session, { held with scope := true })) ∨
      ∃ thrown, body.run.run held = (.error thrown, held) := by
  cases replayed with
  | error thrown => exact Or.inr ⟨thrown, rfl⟩
  | ok session =>
      cases facade with
      | some thrown => exact Or.inr ⟨thrown, rfl⟩
      | none =>
          cases createScope with
          | some thrown => exact Or.inr ⟨thrown, rfl⟩
          | none => exact Or.inl ⟨session, rfl⟩

/-- A failure up to the creation of the scope leaves what was there before; a success adds the
scope. -/
theorem run_prepare (outcome : PreparationOutcome) (held : Holdings) :
    (∃ session, (prepare library options outcome).run.run held =
        (.ok session, { held with scope := true })) ∨
      ∃ thrown, (prepare library options outcome).run.run held = (.error thrown, held) := by
  have mint := fun seed history => run_mint
    (replayHistory library options.sessionId seed history) outcome.facade outcome.createScope held
  unfold prepare
  cases outcome.history with
  | error thrown => exact Or.inr ⟨thrown, rfl⟩
  | ok history =>
      cases options.seedSession with
      | some seed => exact mint seed history
      | none =>
          cases outcome.prepare with
          | some thrown => exact Or.inr ⟨thrown, rfl⟩
          | none => exact mint [] history

/-! ## Whole runs -/

/-- Where a bootstrap stands after the events so far. -/
def Stands (past : List BootstrapEvent) (self : MirrorBootstrap) : Prop :=
  match self.phase with
  | .reading => self.held = { eventTap := true } ∧ ∀ event ∈ past, event.isComposed = false
  | .composing _ =>
      self.held = { eventTap := true, scope := true } ∧ ∀ event ∈ past, event.isComposed = false
  | .live _ => True
  | .rejected _ =>
      (self.held = {} ∧ ∀ event ∈ past, event.isComposed = false) ∨
        (self.held.scope = true ∧ ∃ event ∈ past, event.isComposed = true)

theorem Stands.step {past : List BootstrapEvent} {self next : MirrorBootstrap}
    {event : BootstrapEvent} (stands : Stands past self)
    (stepped : self.step library event = some next) : Stands (past ++ [event]) next := by
  have snoc : ∀ {event : BootstrapEvent}, event.isComposed = false →
      (∀ event ∈ past, event.isComposed = false) →
        ∀ other ∈ past ++ [event], other.isComposed = false := by
    intro event isNone none other member
    rcases List.mem_append.mp member with old | isNew
    · exact none other old
    · rw [List.mem_singleton.mp isNew]
      exact isNone
  -- An event that ends no wait leaves the phase as it is.
  have stays : ∀ {event : BootstrapEvent} {next : MirrorBootstrap}, event.isComposed = false →
      next.phase = self.phase → next.held = self.held → Stands (past ++ [event]) next := by
    intro event next isNone phase held
    unfold Stands at stands ⊢
    rw [phase, held]
    split at stands
    · exact ⟨stands.1, snoc isNone stands.2⟩
    · exact ⟨stands.1, snoc isNone stands.2⟩
    · trivial
    · rcases stands with ⟨nothing, none⟩ | ⟨scope, other, member, isComposed⟩
      · exact Or.inl ⟨nothing, snoc isNone none⟩
      · exact Or.inr ⟨scope, other, List.mem_append_left _ member, isComposed⟩
  cases event with
  | delivered wire =>
      rw [MirrorBootstrap.step] at stepped
      split at stepped
      · cases stepped
      · cases stepped
        split
        · exact stays rfl rfl rfl
        · exact stays rfl rfl rfl
        · unfold Stands
          trivial
        · exact stays rfl rfl rfl
  | detached =>
      cases stepped
      exact stays rfl rfl rfl
  | historyRead outcome =>
      rw [MirrorBootstrap.step] at stepped
      split at stepped
      · next reading =>
          cases stepped
          unfold Stands at stands
          rw [reading] at stands
          rcases stands with ⟨tapped, none⟩
          unfold Stands
          rw [run_guarded, tapped]
          rcases @run_prepare library self.options outcome { eventTap := true } with
            ⟨session, prepared⟩ | ⟨thrown, failed⟩
          · rw [prepared]
            exact ⟨rfl, snoc rfl none⟩
          · rw [failed]
            exact Or.inl ⟨rfl, snoc rfl none⟩
      · cases stepped
  | composed outcome =>
      rw [MirrorBootstrap.step] at stepped
      split at stepped
      · next session composing =>
          cases stepped
          unfold Stands at stands
          rw [composing] at stands
          have scope := @publish_leaves_scope library self.options self.detached outcome session
            self.buffered self.held (by rw [stands.1])
          unfold Stands
          rw [run_guarded]
          revert scope
          rcases (publish library self.options self.detached outcome session
            self.buffered).run.run self.held with ⟨result, held⟩
          intro scope
          cases result with
          | ok mirror => trivial
          | error thrown =>
              exact Or.inr ⟨scope, .composed outcome, List.mem_append_right _
                List.mem_cons_self, rfl⟩
      · cases stepped

/-- A bootstrap that is rejected leaves nothing behind if, and only if, it failed before the
setup hook was awaited: in reading or replaying the history, or in making the session, the
facade or the scope. -/
theorem create_unwinds_iff (start : MirrorOptions) (events : List BootstrapEvent)
    (state : MirrorBootstrap) (error : String)
    (reached : Execution.run (MirrorBootstrap.step library) { options := start } events =
      some state)
    (rejected : state.phase = .rejected error) :
    state.held = {} ↔ ∀ event ∈ events, event.isComposed = false := by
  have initially : Stands [] { options := start } := by
    unfold Stands
    exact ⟨rfl, nofun⟩
  have stands : Stands events state :=
    Execution.history_invariant Stands initially (fun holds stepped => holds.step stepped) reached
  unfold Stands at stands
  rw [rejected] at stands
  rcases stands with ⟨nothing, none⟩ | ⟨scope, event, member, isComposed⟩
  · exact iff_of_true nothing none
  · refine iff_of_false (fun nothing => ?_) fun none => ?_
    · rw [nothing] at scope
      cases scope
    · rw [none event member] at isComposed
      cases isComposed

open MirrorRun (plainLibrary)

/-- The history cannot be read. -/
theorem create_unwinds_unread :
    ∃ state, Execution.run (MirrorBootstrap.step plainLibrary)
        { options := { targetId := "t", sessionId := "s-1" } }
        [.historyRead { history := .error "closed" }] = some state ∧
      (state.held = {} ↔ ∀ event ∈ [BootstrapEvent.historyRead { history := .error "closed" }],
        event.isComposed = false) :=
  ⟨_, rfl, @create_unwinds_iff plainLibrary _ _ _ "closed" rfl rfl⟩

/-- The handle is detached while the setup hook is awaited: the wiring throws. -/
def detachedMeanwhile : List BootstrapEvent :=
  [.historyRead { history := .ok [] }, .detached,
    .composed { clientQuestions := true, connectionQuestions := true }]

/-- All that was published stays: the session, the agent, a tap and the scope. -/
theorem create_leaves :
    ∃ state error, Execution.run (MirrorBootstrap.step plainLibrary)
        { options := { targetId := "t", sessionId := "s-1" } } detachedMeanwhile = some state ∧
      state.phase = .rejected error ∧ error = "session \"s-1\": handle is detached" ∧
      state.held = { session := true, agent := true, approvalTap := true, scope := true } :=
  ⟨_, _, rfl, rfl, rfl, rfl⟩

end MirrorBootstrap

end DshRemote.Proxy
