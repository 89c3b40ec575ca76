import DshRemote.Backend.DaemonFrames

/-! # Prompt handlers

What the handler of one prompt does, from its start or from an image that was saved, and
what it leaves alone. -/

namespace DshRemote.Backend

namespace SessionBroker

variable {broker : SessionBroker} {clientId : ClientId} {sessionId : SessionId}

/-- The loop over the blocks ends, or stops at an image with fewer blocks left, or is refused
because no image can be saved. -/
theorem assemble_cases (broker : SessionBroker) (clientId : ClientId) (sessionId : SessionId)
    (blocks : List MessageBlock) (content : List PromptContentBlock) :
    (∃ final, broker.assemble clientId sessionId blocks content = .finished final) ∨
      (∃ task, broker.assemble clientId sessionId blocks content = .saving task ∧
        task.rest.length < content.length ∧ broker.extras.attachments = true) ∨
      broker.assemble clientId sessionId blocks content = .unsupported ∧
        broker.extras.attachments = false := by
  induction content generalizing blocks with
  | nil => exact Or.inl ⟨blocks, rfl⟩
  | cons block rest induction =>
      cases block with
      | text text =>
          rcases induction (blocks ++ [.text text]) with finished | ⟨task, saving, fewer, saves⟩ |
            unsupported
          · exact Or.inl finished
          · exact Or.inr (Or.inl ⟨task, saving, Nat.lt_succ_of_lt fewer, saves⟩)
          · exact Or.inr (Or.inr unsupported)
      | image data mediaType name =>
          rw [assemble]
          cases saves : broker.extras.attachments with
          | true => exact Or.inr (Or.inl ⟨_, rfl, Nat.lt_succ_self _, rfl⟩)
          | false => exact Or.inr (Or.inr ⟨rfl, rfl⟩)

theorem extras_dropAttachment : (broker.dropAttachment clientId sessionId).extras =
    broker.extras := by
  unfold dropAttachment
  split
  · rfl
  · split
    · rfl
    · rfl

theorem extras_dropAttachments (broker : SessionBroker) (clientId : ClientId)
    (sessionIds : List SessionId) :
    (broker.dropAttachments clientId sessionIds).extras = broker.extras := by
  induction sessionIds generalizing broker with
  | nil => rfl
  | cons sessionId rest induction =>
      rw [dropAttachments, induction, extras_dropAttachment]

theorem extras_attach (environment : AttachEnvironment) (broker : SessionBroker)
    (clientId : ClientId) (params : SessionAttachParams)
    (pendingInteractions : Option (List PendingInteraction)) :
    (broker.attach environment clientId params pendingInteractions).broker.extras =
      broker.extras := by
  have ends := attach_ends environment broker clientId params pendingInteractions
  generalize broker.attach environment clientId params pendingInteractions = outcome at ends ⊢
  cases ends with
  | unknown absent => rfl
  | @notifyThrew session failed connected live interrupted =>
      have same := onlyLogged_replay environment broker clientId params session
      rw [interrupted, Replay.final_error] at same
      exact same.extras
  | @locked session replayed refused connected live finished writing refusal =>
      have same := onlyLogged_replay environment broker clientId params session
      rw [finished, Replay.final_ok] at same
      rw [extras_dropAttachment]
      exact same.extras
  | @attached session replayed holding broadcast connected live finished granted =>
      have same := onlyLogged_replay environment broker clientId params session
      rw [finished, Replay.final_ok] at same
      rcases granted with ⟨rfl, _⟩ | ⟨_, _, rfl, _⟩
      · exact same.extras
      · exact same.extras

theorem extras_perform (broker : SessionBroker) (event : BrokerEvent) :
    (broker.perform event).1.extras = broker.extras := by
  cases event with
  | connect joined => rfl
  | disconnect environment left =>
      simp only [perform]
      rw [disconnect_eq, releaseAll_maps]
      exact extras_dropAttachments _ _ _
  | attach environment other params pendingInteractions =>
      exact extras_attach environment broker other params pendingInteractions
  | detach environment other sessionId =>
      simp only [perform, detach]
      split
      · exact extras_dropAttachment
      · exact extras_dropAttachment
  | controlRelease environment other sessionId =>
      simp only [perform, controlRelease]
      split
      · rfl
      · rfl
  | setWaitingApproval environment sessionId waiting =>
      simp only [perform, setWaitingApproval]
      split
      · rfl
      · rfl
  | host environment event =>
      cases event with
      | append request => exact (onlyLogged_hostAppend environment broker none request).extras
      | sessionEntered | sessionDisposed | agentStatus | agentRemoved => rfl

end SessionBroker

namespace Daemon

theorem extras_perform (daemon : Daemon) (event : DaemonEvent) :
    (daemon.perform event).1.broker.extras = daemon.broker.extras := by
  rw [broker_perform]
  split
  · rfl
  · exact SessionBroker.extras_perform _ _

/-- How a prompt handler runs on, with the handlers that wait in the meantime. -/
inductive PromptMoves (daemon : Daemon) (others : OrderedMap Nat PromptTask) (client : ClientId)
    (session : SessionId) (images : Nat) (performed : Daemon × DaemonOutput) : Prop
  | handed (message : UserMessage) (prompts : performed.1.prompts = others)
      (next : performed.1.nextPrompt = daemon.nextPrompt)
      (effects : performed.2.effects = [⟨client, session, .followup message⟩])
  | suspended (task : PromptTask) (prompts : performed.1.prompts = others.set daemon.nextPrompt task)
      (next : performed.1.nextPrompt = daemon.nextPrompt + 1) (effects : performed.2.effects = [])
      (isOwn : task.clientId = client ∧ task.sessionId = session)
      (fewer : task.rest.length < images) (saves : daemon.broker.extras.attachments = true)
  | refused (prompts : performed.1.prompts = others)
      (next : performed.1.nextPrompt = daemon.nextPrompt) (effects : performed.2.effects = [])
      (unable : daemon.broker.extras.attachments = false)

theorem promptStep_moves (daemon : Daemon) (client : ClientId) (session : SessionId)
    (messageId : String) (blocks : List MessageBlock) (content : List PromptContentBlock) :
    PromptMoves daemon daemon.prompts client session content.length
      (daemon.promptStep client session messageId
        (daemon.broker.assemble client session blocks content)) := by
  rcases daemon.broker.assemble_cases client session blocks content with ⟨final, finished⟩ |
    ⟨task, saving, fewer, saves⟩ | ⟨unsupported, unable⟩
  · rw [finished]
    exact .handed _ rfl rfl rfl
  · have isOwn := SessionBroker.assemble_saving saving
    rw [saving]
    exact .suspended task rfl rfl rfl isOwn fewer saves
  · rw [unsupported]
    exact .refused rfl rfl rfl unable

theorem imageSaved_moves {daemon : Daemon} {prompt : Nat} {task : PromptTask}
    (found : daemon.prompts.get prompt = some task) (attachment : Unknown) (messageId : String) :
    PromptMoves daemon (daemon.prompts.delete prompt) task.clientId task.sessionId
      task.rest.length (daemon.perform (.imageSaved prompt attachment messageId)) := by
  have moves := promptStep_moves { daemon with prompts := daemon.prompts.delete prompt }
    task.clientId task.sessionId messageId
    (task.blocks ++ [.image task.mediaType task.name attachment]) task.rest
  simp only [perform, found]
  cases moves with
  | handed message prompts next effects => exact .handed message prompts next effects
  | suspended suspended prompts next effects isOwn fewer saves =>
      exact .suspended suspended prompts next effects isOwn fewer saves
  | refused prompts next effects unable => exact .refused prompts next effects unable

theorem prompt_moves (daemon : Daemon) (environment : AttachEnvironment) (client : ClientId)
    (session : SessionId) (text : String) (content : Option (List PromptContentBlock))
    (messageId : String) :
    (¬(daemon.broker.holderOf session = some client ∧
        (daemon.broker.agents.get session).isSome) ∧
      daemon.perform (.request environment client (.prompt session text content messageId)) =
        (daemon, { response :=
          (daemon.perform (.request environment client
            (.prompt session text content messageId))).2.response })) ∨
    (daemon.broker.holderOf session = some client ∧
        (daemon.broker.agents.get session).isSome) ∧
      ∃ images, PromptMoves daemon daemon.prompts client session images
        (daemon.perform (.request environment client (.prompt session text content messageId))) := by
  simp only [perform, serve]
  cases gate : daemon.broker.requireAgent client session with
  | error refusal =>
      left
      have refused : daemon.broker.prompt client session text content = .error refusal := by
        simp only [SessionBroker.prompt, gate]
      rw [refused]
      refine ⟨?_, rfl⟩
      rintro ⟨holds, live⟩
      rcases Option.isSome_iff_exists.mp live with ⟨status, isStatus⟩
      rw [(SessionBroker.requireAgent_ok_iff _ _ _ _).mpr ⟨holds, isStatus⟩] at gate
      cases gate
  | ok status =>
      right
      have granted := (SessionBroker.requireAgent_ok_iff _ _ _ _).mp gate
      refine ⟨⟨granted.1, by rw [granted.2]; rfl⟩, ?_⟩
      cases content with
      | none =>
          have granted : daemon.broker.prompt client session text none =
              .ok (.finished [.text text]) := by
            simp only [SessionBroker.prompt, gate]
          rw [granted]
          exact ⟨0, .handed _ rfl rfl rfl⟩
      | some content =>
          have granted : daemon.broker.prompt client session text (some content) =
              .ok (daemon.broker.assemble client session [] content) := by
            simp only [SessionBroker.prompt, gate]
          rw [granted]
          exact ⟨content.length, promptStep_moves daemon client session messageId [] content⟩

/-- An event that neither begins nor resumes a prompt leaves all handlers as they are. -/
theorem perform_quiet {daemon : Daemon} {event : DaemonEvent}
    (notPrompt : ∀ environment client session text content messageId,
      event ≠ .request environment client (.prompt session text content messageId))
    (notSaved : ∀ prompt attachment messageId, event ≠ .imageSaved prompt attachment messageId)
    (notFailed : ∀ prompt, event ≠ .imageFailed prompt) :
    (daemon.perform event).1.prompts = daemon.prompts ∧
      (daemon.perform event).1.nextPrompt = daemon.nextPrompt ∧
      ∀ effect ∈ (daemon.perform event).2.effects, ∀ message, effect.call ≠ .followup message := by
  have none {daemon : Daemon} {performed : Daemon × DaemonOutput}
      (prompts : performed.1.prompts = daemon.prompts)
      (next : performed.1.nextPrompt = daemon.nextPrompt) (effects : performed.2.effects = []) :
      performed.1.prompts = daemon.prompts ∧ performed.1.nextPrompt = daemon.nextPrompt ∧
        ∀ effect ∈ performed.2.effects, ∀ message, effect.call ≠ .followup message :=
    ⟨prompts, next, fun effect member => by
      rw [effects] at member
      cases member⟩
  cases event with
  | connect | closed | approvalRequested | aborted | host => exact none rfl rfl rfl
  | imageSaved prompt attachment messageId => exact absurd rfl (notSaved _ _ _)
  | imageFailed prompt => exact absurd rfl (notFailed _)
  | approvalResumed | asked =>
      simp only [perform]
      split
      · exact none rfl rfl rfl
      · exact none rfl rfl rfl
  | request environment client request =>
      cases request with
      | prompt session text content messageId => exact absurd rfl (notPrompt _ _ _ _ _ _)
      | attach | detach | controlRelease => exact none rfl rfl rfl
      | approvalAnswer | questionAnswer =>
          simp only [perform, serve]
          split
          · exact none rfl rfl rfl
          · exact none rfl rfl rfl
      | cancel session =>
          simp only [perform, serve, SessionBroker.cancel]
          split
          · exact none rfl rfl rfl
          · next effect granted =>
              split at granted
              · cases granted
              · cases granted
                refine ⟨rfl, rfl, fun effect member => ?_⟩
                rw [List.mem_singleton.mp member]
                intro _ impossible
                cases impossible
      | fork session boundary atSeq child =>
          simp only [perform, serve, SessionBroker.fork]
          split
          · exact none rfl rfl rfl
          · next effect granted =>
              split at granted
              · cases granted
              · cases granted
                refine ⟨rfl, rfl, fun effect member => ?_⟩
                rw [List.mem_singleton.mp member]
                intro _ impossible
                cases impossible
      | compact session =>
          simp only [perform, serve]
          split
          · exact none rfl rfl rfl
          · next effect granted =>
              simp only [SessionBroker.compact] at granted
              split at granted
              · split at granted
                · cases granted
                · split at granted
                  · cases granted
                  · cases granted
                    refine ⟨rfl, rfl, fun effect member => ?_⟩
                    rw [List.mem_singleton.mp member]
                    intro _ impossible
                    cases impossible
              · cases granted

end Daemon

end DshRemote.Backend
