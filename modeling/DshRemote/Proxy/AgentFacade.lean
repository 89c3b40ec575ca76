import DshRemote.Backend.Host
import DshRemote.Foundation.Execution

/-! # `RemoteAgentFacade`

The status of a mirrored agent, its maintenance task and those who wait for it to be idle. An
event is one synchronous stretch. Listeners of `agent/status` run inside the one of a status
change, after the status and before the waiters, and may call the facade themselves. -/

namespace DshRemote.Proxy

open Backend (AgentStatus)

abbrev WaiterId := Nat
abbrev TaskId := Nat

inductive TaskPhase where
  /-- The task is called in a microtask of its own. -/
  | scheduled
  | running
  /-- The task has settled; the callback of `finally` is queued. -/
  | settled (resolved : Bool)
deriving DecidableEq, Repr

/-- A waiter that was resolved: the status, and the tasks that were active. -/
structure Resolution where
  waiter : WaiterId
  status : AgentStatus
  active : List TaskId
deriving DecidableEq, Repr

structure RemoteAgentFacade where
  statusField : AgentStatus
  idleWaiters : List WaiterId := []
  maintenance : Option TaskId := none
  /-- The task whose signal the controller has. -/
  maintenanceAbort : Option TaskId := none
  announced : Bool := false
  /-- The tasks from the call of `runMaintenance` to the end of `finally`. -/
  tasks : OrderedMap TaskId TaskPhase := .empty
  aborted : List TaskId := []
  nextWaiter : WaiterId := 0
  nextTask : TaskId := 0
  resolutions : List Resolution := []

inductive FacadeCall where
  | whenIdle
  | runMaintenance
  | cancel
deriving DecidableEq, Repr

inductive FacadeEvent where
  | call (call : FacadeCall)
  | markAnnounced
  /-- The handle reports a status; the calls are the ones listeners make. -/
  | remoteStatus (status : AgentStatus) (listeners : List FacadeCall)
  | taskStarted (task : TaskId)
  | taskSettled (task : TaskId) (resolved : Bool)
  | taskCleared (task : TaskId)

namespace RemoteAgentFacade

def init (status : AgentStatus) : RemoteAgentFacade where
  statusField := status

def resolve (self : RemoteAgentFacade) (waiter : WaiterId) : RemoteAgentFacade :=
  { self with
    resolutions := self.resolutions ++ [⟨waiter, self.statusField, self.tasks.keys⟩] }

def flushIdleWaiters (self : RemoteAgentFacade) : RemoteAgentFacade :=
  if self.statusField ≠ .idle ∨ self.maintenance.isSome then self
  else
    self.idleWaiters.foldl
      (fun facade waiter =>
        { facade with idleWaiters := facade.idleWaiters.erase waiter }.resolve waiter) self

def whenIdle (self : RemoteAgentFacade) : RemoteAgentFacade :=
  let called := { self with nextWaiter := self.nextWaiter + 1 }
  if self.statusField = .idle ∧ self.maintenance = none then called.resolve self.nextWaiter
  else { called with idleWaiters := self.idleWaiters ++ [self.nextWaiter] }

/-- `runMaintenance`; it throws unless the agent is idle and without a task. -/
def runMaintenance (self : RemoteAgentFacade) : RemoteAgentFacade :=
  if self.statusField ≠ .idle ∨ self.maintenance.isSome then self
  else
    { self with
      maintenanceAbort := some self.nextTask
      maintenance := some self.nextTask
      tasks := self.tasks.set self.nextTask .scheduled
      nextTask := self.nextTask + 1 }

def cancel (self : RemoteAgentFacade) : RemoteAgentFacade :=
  match self.maintenanceAbort with
  | none => self
  | some task => { self with aborted := self.aborted ++ [task] }

def call (self : RemoteAgentFacade) : FacadeCall → RemoteAgentFacade
  | .whenIdle => self.whenIdle
  | .runMaintenance => self.runMaintenance
  | .cancel => self.cancel

/-- The listeners of `agent/status`. -/
def emitStatus (self : RemoteAgentFacade) (listeners : List FacadeCall) : RemoteAgentFacade :=
  if self.announced then listeners.foldl call self else self

def applyRemoteStatus (self : RemoteAgentFacade) (next : AgentStatus)
    (listeners : List FacadeCall) : RemoteAgentFacade :=
  if next = self.statusField then self
  else
    let emitted := { self with statusField := next }.emitStatus listeners
    if next = .idle then emitted.flushIdleWaiters else emitted

/-- The callback of `finally`. -/
def clear (self : RemoteAgentFacade) (task : TaskId) : RemoteAgentFacade :=
  { self with
    maintenance := none
    maintenanceAbort := none
    tasks := self.tasks.delete task }.flushIdleWaiters

def step (self : RemoteAgentFacade) : FacadeEvent → Option RemoteAgentFacade
  | .call call => some (self.call call)
  | .markAnnounced => some { self with announced := true }
  | .remoteStatus status listeners => some (self.applyRemoteStatus status listeners)
  | .taskStarted task =>
      match self.tasks.get task with
      | some .scheduled => some { self with tasks := self.tasks.set task .running }
      | _ => none
  | .taskSettled task resolved =>
      match self.tasks.get task with
      | some .running => some { self with tasks := self.tasks.set task (.settled resolved) }
      | _ => none
  | .taskCleared task =>
      match self.tasks.get task with
      | some (.settled _) => some (self.clear task)
      | _ => none

/-! ## Waiters -/

/-- What holds also while listeners run: the task in the field is the active one, nobody was
resolved at the wrong time, and nobody is forgotten. -/
structure Consistent (facade : RemoteAgentFacade) : Prop where
  active : ∀ task, task ∈ facade.tasks.keys ↔ facade.maintenance = some task
  calm : ∀ resolution ∈ facade.resolutions,
    resolution.status = .idle ∧ resolution.active = []
  accounted : ∀ waiter < facade.nextWaiter, waiter ∈ facade.idleWaiters ∨
    ∃ resolution ∈ facade.resolutions, resolution.waiter = waiter

/-- An idle agent without a task keeps nobody waiting. -/
def Served (facade : RemoteAgentFacade) : Prop :=
  facade.statusField = .idle → facade.maintenance = none → facade.idleWaiters = []

variable {self : RemoteAgentFacade}

theorem consistent_init (status : AgentStatus) : (init status).Consistent where
  active task := by simp [init, OrderedMap.keys, OrderedMap.empty]
  calm resolution member := nomatch member
  accounted waiter below := absurd below (Nat.not_lt_zero waiter)

theorem served_init (status : AgentStatus) : (init status).Served := fun _ _ => rfl

theorem Consistent.keys_eq_nil (consistent : self.Consistent) (free : self.maintenance = none) :
    self.tasks.keys = [] := by
  apply List.eq_nil_iff_forall_not_mem.mpr
  intro task member
  rw [(consistent.active task).mp member] at free
  cases free

theorem Consistent.atMostOne (consistent : self.Consistent) : self.tasks.keys.length ≤ 1 := by
  have distinct : self.tasks.keys.Nodup := self.tasks.nodup
  match keys : self.tasks.keys with
  | [] => exact Nat.zero_le 1
  | [task] => exact Nat.le_refl 1
  | task :: other :: rest =>
      have first := (consistent.active task).mp (by simp [keys])
      have second := (consistent.active other).mp (by simp [keys])
      rw [first] at second
      rw [keys, Option.some.inj second] at distinct
      simp at distinct

theorem Consistent.calm_now (consistent : self.Consistent) (idle : self.statusField = .idle)
    (free : self.maintenance = none) (waiter : WaiterId) {resolution : Resolution}
    (member : resolution ∈ (self.resolve waiter).resolutions) :
    resolution.status = .idle ∧ resolution.active = [] := by
  rcases List.mem_append.mp member with earlier | now
  · exact consistent.calm resolution earlier
  · rw [List.mem_singleton.mp now]
    exact ⟨idle, consistent.keys_eq_nil free⟩

theorem Consistent.flushOne (consistent : self.Consistent) (idle : self.statusField = .idle)
    (free : self.maintenance = none) (waiter : WaiterId) :
    ({ self with idleWaiters := self.idleWaiters.erase waiter }.resolve waiter).Consistent where
  active := consistent.active
  calm resolution member := consistent.calm_now idle free waiter member
  accounted other below := by
    by_cases same : other = waiter
    · exact Or.inr ⟨_, List.mem_append_right _ (List.mem_singleton_self _), same.symm⟩
    · rcases consistent.accounted other below with waits | ⟨resolution, member, isOther⟩
      · exact Or.inl ((List.mem_erase_of_ne same).mpr waits)
      · exact Or.inr ⟨resolution, List.mem_append_left _ member, isOther⟩

theorem Consistent.flush (consistent : self.Consistent) (idle : self.statusField = .idle)
    (free : self.maintenance = none) (waiters : List WaiterId)
    (sameWaiters : self.idleWaiters = waiters) :
    let flushed := waiters.foldl (fun facade waiter =>
      { facade with idleWaiters := facade.idleWaiters.erase waiter }.resolve waiter) self
    flushed.Consistent ∧ flushed.idleWaiters = [] := by
  induction waiters generalizing self with
  | nil => exact ⟨consistent, sameWaiters⟩
  | cons waiter rest induction =>
      apply induction (consistent.flushOne idle free waiter) idle free
      simp [resolve, sameWaiters]

theorem Consistent.flushIdleWaiters (consistent : self.Consistent) :
    self.flushIdleWaiters.Consistent ∧ self.flushIdleWaiters.Served := by
  unfold RemoteAgentFacade.flushIdleWaiters
  split
  · next busy =>
      constructor
      · exact consistent
      · intro idle free
        simp [idle, free] at busy
  · next quiet =>
      rw [not_or, not_not, Option.not_isSome_iff_eq_none] at quiet
      have flushed := consistent.flush quiet.1 quiet.2 self.idleWaiters rfl
      exact ⟨flushed.1, fun _ _ => flushed.2⟩

/-! ## Calls -/

theorem Consistent.whenIdle (consistent : self.Consistent) : self.whenIdle.Consistent := by
  unfold RemoteAgentFacade.whenIdle
  dsimp only
  split
  · next quiet =>
      exact {
        active := consistent.active
        calm := fun resolution member =>
          consistent.calm_now quiet.1 quiet.2 self.nextWaiter member
        accounted := by
          intro waiter below
          rcases Nat.lt_succ_iff_lt_or_eq.mp below with earlier | rfl
          · rcases consistent.accounted waiter earlier with waits | ⟨resolution, member, same⟩
            · exact Or.inl waits
            · exact Or.inr ⟨resolution, List.mem_append_left _ member, same⟩
          · exact Or.inr ⟨_, List.mem_append_right _ (List.mem_singleton_self _), rfl⟩ }
  · exact {
      active := consistent.active
      calm := consistent.calm
      accounted := by
        intro waiter below
        rcases Nat.lt_succ_iff_lt_or_eq.mp below with earlier | rfl
        · rcases consistent.accounted waiter earlier with waits | resolved
          · exact Or.inl (List.mem_append_left _ waits)
          · exact Or.inr resolved
        · exact Or.inl (List.mem_append_right _ (List.mem_singleton_self _)) }

theorem Consistent.runMaintenance (consistent : self.Consistent) :
    self.runMaintenance.Consistent := by
  unfold RemoteAgentFacade.runMaintenance
  split
  · exact consistent
  · next quiet =>
      rw [not_or, not_not, Option.not_isSome_iff_eq_none] at quiet
      exact {
        active := by
          intro task
          rw [OrderedMap.mem_keys_set_iff, consistent.active, quiet.2, Option.some.injEq, eq_comm]
          simp
        calm := consistent.calm
        accounted := consistent.accounted }

theorem Consistent.call (consistent : self.Consistent) (call : FacadeCall) :
    (self.call call).Consistent := by
  cases call with
  | whenIdle => exact consistent.whenIdle
  | runMaintenance => exact consistent.runMaintenance
  | cancel =>
      simp only [RemoteAgentFacade.call, RemoteAgentFacade.cancel]
      split
      · exact consistent
      · exact ⟨consistent.active, consistent.calm, consistent.accounted⟩

theorem Served.call (served : self.Served) (call : FacadeCall) : (self.call call).Served := by
  cases call with
  | whenIdle =>
      simp only [RemoteAgentFacade.call, RemoteAgentFacade.whenIdle]
      split
      · exact served
      · next waits => exact fun idle free => absurd ⟨idle, free⟩ waits
  | runMaintenance =>
      simp only [RemoteAgentFacade.call, RemoteAgentFacade.runMaintenance]
      split
      · exact served
      · intro _ free
        cases free
  | cancel =>
      simp only [RemoteAgentFacade.call, RemoteAgentFacade.cancel]
      split
      · exact served
      · exact served

theorem Consistent.emitStatus (consistent : self.Consistent) (listeners : List FacadeCall) :
    (self.emitStatus listeners).Consistent := by
  unfold RemoteAgentFacade.emitStatus
  split
  · exact List.foldlRecOn listeners _ consistent
      fun facade isConsistent listener _ => isConsistent.call listener
  · exact consistent

theorem Served.emitStatus (served : self.Served) (listeners : List FacadeCall) :
    (self.emitStatus listeners).Served := by
  unfold RemoteAgentFacade.emitStatus
  split
  · exact List.foldlRecOn listeners _ served fun facade isServed listener _ => isServed.call listener
  · exact served

/-! ## Runs -/

structure Sound (facade : RemoteAgentFacade) : Prop where
  consistent : facade.Consistent
  served : facade.Served

theorem Sound.applyRemoteStatus (sound : self.Sound) (next : AgentStatus)
    (listeners : List FacadeCall) : (self.applyRemoteStatus next listeners).Sound := by
  unfold RemoteAgentFacade.applyRemoteStatus
  have changed : ({ self with statusField := next } : RemoteAgentFacade).Consistent :=
    ⟨sound.consistent.active, sound.consistent.calm, sound.consistent.accounted⟩
  have emitted := changed.emitStatus listeners
  split
  · exact sound
  · cases next with
    | idle =>
        have flushed := emitted.flushIdleWaiters
        exact ⟨flushed.1, flushed.2⟩
    | running =>
        have busy : ({ self with statusField := .running } : RemoteAgentFacade).Served :=
          fun idle => nomatch idle
        exact ⟨emitted, busy.emitStatus listeners⟩

theorem Sound.setPhase (sound : self.Sound) {task : TaskId} {phase : TaskPhase}
    (found : self.tasks.get task = some phase) (next : TaskPhase) :
    ({ self with tasks := self.tasks.set task next } : RemoteAgentFacade).Sound where
  consistent := {
    active := by
      intro other
      rw [OrderedMap.mem_keys_set_iff, sound.consistent.active]
      constructor
      · intro either
        rcases either with rfl | isOther
        · exact (sound.consistent.active other).mp
            ((OrderedMap.mem_keys_iff _ _).mpr ⟨phase, found⟩)
        · exact isOther
      · exact Or.inr
    calm := sound.consistent.calm
    accounted := sound.consistent.accounted }
  served := sound.served

theorem Sound.clear (sound : self.Sound) {task : TaskId} {phase : TaskPhase}
    (found : self.tasks.get task = some phase) : (self.clear task).Sound := by
  have isActive := (sound.consistent.active task).mp
    ((OrderedMap.mem_keys_iff _ _).mpr ⟨phase, found⟩)
  have cleared : ({ self with
      maintenance := none
      maintenanceAbort := none
      tasks := self.tasks.delete task } : RemoteAgentFacade).Consistent :=
    { active := by
        intro other
        rw [OrderedMap.mem_keys_delete_iff, sound.consistent.active, isActive]
        simp [eq_comm]
      calm := sound.consistent.calm
      accounted := sound.consistent.accounted }
  exact ⟨cleared.flushIdleWaiters.1, cleared.flushIdleWaiters.2⟩

theorem Sound.step (sound : self.Sound) {event : FacadeEvent} {next : RemoteAgentFacade}
    (stepped : self.step event = some next) : next.Sound := by
  cases event with
  | call call =>
      cases stepped
      exact ⟨sound.consistent.call call, sound.served.call call⟩
  | markAnnounced =>
      cases stepped
      exact ⟨⟨sound.consistent.active, sound.consistent.calm, sound.consistent.accounted⟩,
        sound.served⟩
  | remoteStatus status listeners =>
      cases stepped
      exact sound.applyRemoteStatus status listeners
  | taskStarted task =>
      simp only [RemoteAgentFacade.step] at stepped
      split at stepped
      · next found =>
          cases stepped
          exact sound.setPhase found .running
      · cases stepped
  | taskSettled task resolved =>
      simp only [RemoteAgentFacade.step] at stepped
      split at stepped
      · next found =>
          cases stepped
          exact sound.setPhase found (.settled resolved)
      · cases stepped
  | taskCleared task =>
      simp only [RemoteAgentFacade.step] at stepped
      split at stepped
      · next found =>
          cases stepped
          exact sound.clear found
      · cases stepped

/-- No wake-up is lost, nobody is woken too early, and one task at most is active. -/
theorem waiters_served {status : AgentStatus} {events : List FacadeEvent}
    (reached : Execution.run step (init status) events = some self) :
    (self.statusField = .idle → self.tasks.keys = [] → self.idleWaiters = []) ∧
      (∀ waiter < self.nextWaiter, waiter ∈ self.idleWaiters ∨
        ∃ resolution ∈ self.resolutions, resolution.waiter = waiter) ∧
      (∀ resolution ∈ self.resolutions, resolution.status = .idle ∧ resolution.active = []) ∧
      self.tasks.keys.length ≤ 1 := by
  have sound : self.Sound := Execution.reachable_invariant Sound (fun holds => holds.step)
    ⟨consistent_init status, served_init status⟩ reached
  have consistent := sound.consistent
  constructor
  · intro idle noTask
    apply sound.served idle
    apply Option.eq_none_iff_forall_ne_some.mpr
    intro task isTask
    have member := (consistent.active task).mpr isTask
    rw [noTask] at member
    exact List.not_mem_nil member
  · exact ⟨consistent.accounted, consistent.calm, consistent.atMostOne⟩

/-- A status change while a task is active: the waiter is resolved when the task is over. -/
theorem waiters_served_crossing : ∃ facade : RemoteAgentFacade,
    Execution.run step (init .idle)
        [.call .runMaintenance, .taskStarted 0, .remoteStatus .running [], .call .whenIdle,
          .remoteStatus .idle [], .taskSettled 0 false, .taskCleared 0] = some facade ∧
      facade.idleWaiters = [] ∧ facade.resolutions = [⟨0, .idle, []⟩] := by
  obtain ⟨facade, reached⟩ : ∃ facade, Execution.run step (init .idle)
      [.call .runMaintenance, .taskStarted 0, .remoteStatus .running [], .call .whenIdle,
        .remoteStatus .idle [], .taskSettled 0 false, .taskCleared 0] = some facade :=
    ⟨_, rfl⟩
  have served := waiters_served reached
  have states : facade.statusField = .idle ∧ facade.tasks.keys = [] ∧
      facade.resolutions = [⟨0, .idle, []⟩] := by
    cases reached
    decide
  exact ⟨facade, reached, served.1 states.1 states.2.1, states.2.2⟩

end RemoteAgentFacade

end DshRemote.Proxy
