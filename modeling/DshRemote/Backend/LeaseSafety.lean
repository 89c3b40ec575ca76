import DshRemote.Backend.DaemonFrames

/-! # Effects on the host and the write lease

Every handler checks the lease when it starts. A handler that acts at once acts
under the lease it checked; a prompt with images acts when its last image is
saved, under whatever the lease has become by then. -/

namespace DshRemote.Backend

instance SessionBroker.decidableTakesLease (clientId : ClientId) (sessionId : SessionId) :
    (event : BrokerEvent) → Decidable (SessionBroker.TakesLease clientId sessionId event)
  | .disconnect _ left => inferInstanceAs (Decidable (left = clientId))
  | .detach _ left session =>
      inferInstanceAs (Decidable (left = clientId ∧ session = sessionId))
  | .controlRelease _ left session =>
      inferInstanceAs (Decidable (left = clientId ∧ session = sessionId))
  | .attach _ other params _ =>
      inferInstanceAs (Decidable (other ≠ clientId ∧ params.sessionId = sessionId ∧
        params.mode = .write ∧ params.force = true))
  | .connect _ | .setWaitingApproval _ _ _ | .host _ _ => isFalse id

namespace Daemon

/-- Every suspended prompt holds the lease it was admitted under. -/
def PromptsHold (daemon : Daemon) : Prop :=
  ∀ prompt task, daemon.prompts.get prompt = some task →
    daemon.broker.holderOf task.sessionId = some task.clientId

/-- The event takes the lease of no suspended prompt. -/
def KeepsPromptLeases (daemon : Daemon) (event : DaemonEvent) : Prop :=
  ∀ brokerEvent ∈ daemon.brokerEvent event, ∀ task ∈ daemon.prompts.values,
    ¬SessionBroker.TakesLease task.clientId task.sessionId brokerEvent

instance (daemon : Daemon) (event : DaemonEvent) :
    Decidable (daemon.KeepsPromptLeases event) :=
  inferInstanceAs (Decidable (∀ brokerEvent ∈ daemon.brokerEvent event, _))

/-! ## One step -/

theorem effects_promptStep {daemon : Daemon} {clientId : ClientId} {sessionId : SessionId}
    {messageId : String} {assembled : Assembled} {effect : HostEffect}
    (member : effect ∈ (daemon.promptStep clientId sessionId messageId assembled).2.effects) :
    effect.clientId = clientId ∧ effect.sessionId = sessionId := by
  cases assembled with
  | finished blocks =>
      rw [List.mem_singleton.mp member]
      exact ⟨rfl, rfl⟩
  | saving task | unsupported => cases member

theorem effects_serve {environment : AttachEnvironment} {daemon : Daemon} {clientId : ClientId}
    {request : Request} {effect : HostEffect}
    (member : effect ∈ (daemon.serve environment clientId request).2.effects) :
    daemon.broker.holderOf effect.sessionId = some effect.clientId := by
  have gated : ∀ {sessionId : SessionId},
      SessionBroker.Gated daemon.broker clientId sessionId effect →
        daemon.broker.holderOf effect.sessionId = some effect.clientId := by
    intro sessionId gate
    rw [gate.client, gate.session]
    exact gate.holds
  cases request with
  | attach | detach | controlRelease => cases member
  | prompt sessionId text content messageId =>
      simp only [serve] at member
      split at member
      · cases member
      · next assembled granted =>
          rcases effects_promptStep member with ⟨client, session⟩
          exact gated ⟨client, session, SessionBroker.prompt_ok granted⟩
  | cancel sessionId =>
      simp only [serve] at member
      split at member
      · cases member
      · next issued granted =>
          rw [List.mem_singleton.mp member] at gated ⊢
          exact gated (SessionBroker.gated_cancel granted)
  | fork sessionId boundary atSeq child =>
      simp only [serve] at member
      split at member
      · cases member
      · next issued granted =>
          rw [List.mem_singleton.mp member] at gated ⊢
          exact gated (SessionBroker.gated_fork granted)
  | compact sessionId =>
      simp only [serve] at member
      split at member
      · cases member
      · next issued granted =>
          rw [List.mem_singleton.mp member] at gated ⊢
          exact gated (SessionBroker.gated_compact granted)
  | approvalAnswer | questionAnswer =>
      simp only [serve] at member
      split at member <;> cases member

/-- While every suspended prompt holds its lease, so does every effect. -/
theorem PromptsHold.effects {daemon : Daemon} (hold : daemon.PromptsHold)
    {event : DaemonEvent} {effect : HostEffect}
    (member : effect ∈ (daemon.perform event).2.effects) :
    daemon.broker.holderOf effect.sessionId = some effect.clientId := by
  cases event with
  | request environment clientId request => exact effects_serve member
  | imageSaved prompt attachment messageId =>
      simp only [perform] at member
      split at member
      · cases member
      · next task found =>
          rcases effects_promptStep member with ⟨client, session⟩
          rw [client, session]
          exact hold prompt task found
  | asked | approvalResumed =>
      simp only [perform] at member
      split at member <;> cases member
  | connect | closed | imageFailed | approvalRequested | aborted | host => cases member

theorem prompts_promptStep {daemon : Daemon} {clientId : ClientId} {sessionId : SessionId}
    {messageId : String} {assembled : Assembled} {prompt : Nat} {task : PromptTask}
    (found : (daemon.promptStep clientId sessionId messageId assembled).1.prompts.get prompt =
      some task) :
    daemon.prompts.get prompt = some task ∨ assembled = .saving task := by
  cases assembled with
  | finished blocks => exact Or.inl found
  | unsupported => exact Or.inl found
  | saving suspended =>
      simp only [promptStep, OrderedMap.get_set] at found
      split at found
      · cases found
        exact Or.inr rfl
      · exact Or.inl found

/-- A prompt that is suspended after a step was suspended before it, or has just
been found to hold its lease. -/
theorem PromptsHold.perform_prompts {daemon : Daemon} (hold : daemon.PromptsHold)
    {event : DaemonEvent} {prompt : Nat} {task : PromptTask}
    (found : (daemon.perform event).1.prompts.get prompt = some task) :
    daemon.prompts.get prompt = some task ∨
      daemon.brokerEvent event = none ∧
        daemon.broker.holderOf task.sessionId = some task.clientId := by
  cases event with
  | connect | closed | approvalRequested | aborted | host => exact Or.inl found
  | asked | approvalResumed =>
      simp only [perform] at found
      split at found <;> exact Or.inl found
  | imageFailed failed =>
      exact Or.inl (OrderedMap.of_get_delete found).2
  | imageSaved saved attachment messageId =>
      simp only [perform] at found
      split at found
      · exact Or.inl found
      · next resumed present =>
          rcases prompts_promptStep found with earlier | suspended
          · exact Or.inl (OrderedMap.of_get_delete earlier).2
          · rcases SessionBroker.assemble_saving suspended with ⟨client, session⟩
            rw [client, session]
            exact Or.inr ⟨rfl, hold saved resumed present⟩
  | request environment clientId request =>
      cases request with
      | attach | detach | controlRelease => exact Or.inl found
      | cancel | fork | compact | approvalAnswer | questionAnswer =>
          simp only [perform, serve] at found
          split at found <;> exact Or.inl found
      | prompt sessionId text content messageId =>
          simp only [perform, serve] at found
          split at found
          · exact Or.inl found
          · next assembled granted =>
              rcases prompts_promptStep found with earlier | suspended
              · exact Or.inl earlier
              · subst suspended
                rcases SessionBroker.prompt_saving granted with ⟨client, session⟩
                rw [client, session]
                exact Or.inr ⟨rfl, SessionBroker.prompt_ok granted⟩

theorem PromptsHold.perform {daemon : Daemon} (hold : daemon.PromptsHold)
    {event : DaemonEvent} (keeps : daemon.KeepsPromptLeases event) :
    (daemon.perform event).1.PromptsHold := by
  intro prompt task found
  rw [broker_perform]
  rcases hold.perform_prompts found with earlier | ⟨still, holds⟩
  · have holds := hold prompt task earlier
    cases taken : daemon.brokerEvent event with
    | none => exact holds
    | some brokerEvent =>
        exact SessionBroker.holderOf_perform holds
          (keeps brokerEvent taken task (OrderedMap.mem_values_of_get earlier))
  · rw [still]
    exact holds

/-! ## Whole runs -/

/-- In every run in which no lease is taken from a client while one of its
prompts there waits for an image save, every effect on the host is issued while
its client holds the lease of its session. -/
theorem effects_underLease (sessions : OrderedMap SessionId HostSession)
    (agents : OrderedMap SessionId AgentStatus) (extras : SessionBrokerExtras)
    (failClosed : Bool) (events : List DaemonEvent) (daemon : Daemon)
    (reached : Execution.run step (init sessions agents extras failClosed) events =
      some daemon)
    (kept : Execution.AllSteps step KeepsPromptLeases (init sessions agents extras failClosed)
      events)
    (event : DaemonEvent) (effect : HostEffect)
    (issued : effect ∈ (daemon.perform event).2.effects) :
    daemon.broker.holderOf effect.sessionId = some effect.clientId := by
  have hold : daemon.PromptsHold := by
    refine Execution.run_invariant PromptsHold ?_ ?_ kept reached
    · intro before taken after holdBefore keeps stepped
      rcases step_eq_some stepped with ⟨_, rfl⟩
      exact holdBefore.perform keeps
    · intro prompt task found
      cases found
  exact hold.effects issued

/-- One session with an idle agent, in a daemon that accepts images. -/
def promptDaemon : Daemon :=
  init (OrderedMap.empty.set "s" { createdAt := 0 }) (OrderedMap.empty.set "s" .idle)
    { attachments := true } true

/-- A writer prompts with one image. -/
def imagePrompt : List DaemonEvent :=
  [.connect "a", .connect "b",
    .request {} "a" (.attach { sessionId := "s", mode := .write }),
    .request {} "a" (.prompt "s" "" (some [.image "" "image/png" none]) "m")]

theorem effects_underLease_imagePrompt :
    ∃ daemon, Execution.run step promptDaemon imagePrompt = some daemon ∧
      ∃ effect ∈ (daemon.perform (.imageSaved 0 "saved" "m")).2.effects,
        daemon.broker.holderOf effect.sessionId = some effect.clientId :=
  Exists.intro _ (And.intro rfl (Exists.intro _ (And.intro (List.mem_singleton.mpr rfl)
    (effects_underLease (OrderedMap.empty.set "s" { createdAt := 0 })
      (OrderedMap.empty.set "s" .idle) { attachments := true } true imagePrompt _ rfl
      (by decide) (.imageSaved 0 "saved" "m") _ (List.mem_singleton.mpr rfl)))))

/-- The writer is preempted while its image is being saved; the message still
reaches the agent, on behalf of a client that holds the lease no more. -/
theorem followup_afterPreemption :
    ∃ daemon, Execution.run step promptDaemon
        (imagePrompt ++
          [.request {} "b" (.attach { sessionId := "s", mode := .write, force := true })]) =
          some daemon ∧
      daemon.broker.holderOf "s" = some "b" ∧
      (daemon.perform (.imageSaved 0 "saved" "m")).2.effects =
        [⟨"a", "s", .followup ⟨"m", [.image "image/png" none "saved"]⟩⟩] :=
  ⟨_, rfl, by decide, by decide⟩

end Daemon

end DshRemote.Backend
