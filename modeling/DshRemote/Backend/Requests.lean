import DshRemote.Backend.Broker

/-! # Requests that drive the host agent

`session.prompt`, `session.cancel`, `session.fork` and `session.compact`: each is
gated on the write lease when its handler starts. Only a prompt with image blocks
suspends between that check and its effect, once for each image it saves. -/

namespace DshRemote.Backend

inductive PromptContentBlock
  | text (text : String)
  | image (data : String) (mediaType : String) (name : Option String)
deriving DecidableEq, Repr

/-- A block of the assembled message; a saved image is referenced by what the
attachments host returned for it. -/
inductive MessageBlock
  | text (text : String)
  | image (mediaType : String) (name : Option String) (attachment : Unknown)
deriving DecidableEq, Repr

structure UserMessage where
  id : String
  content : List MessageBlock
deriving DecidableEq, Repr

inductive HostCall
  | followup (message : UserMessage)
  | cancel
  | fork (boundary atSeq : Option Int)
  | compactNow
deriving DecidableEq, Repr

/-- An effect on the host, with the client and the session it was issued for. -/
structure HostEffect where
  clientId : ClientId
  sessionId : SessionId
  call : HostCall
deriving DecidableEq, Repr

/-- A prompt handler that awaits `saveImage`: the blocks assembled so far, the
image being saved and the blocks after it. -/
structure PromptTask where
  clientId : ClientId
  sessionId : SessionId
  blocks : List MessageBlock
  mediaType : String
  name : Option String
  rest : List PromptContentBlock
deriving DecidableEq, Repr

/-- Where the loop over the content blocks stops. -/
inductive Assembled
  | finished (blocks : List MessageBlock)
  | saving (task : PromptTask)
  | unsupported
deriving DecidableEq, Repr

namespace SessionBroker

def noLiveAgent (sessionId : SessionId) : RemoteError where
  code := .protocolError
  message := "no live agent for session \"" ++ sessionId ++ "\""

def imageBlocksUnsupported : RemoteError where
  code := .capabilityUnsupported
  message := "this backend cannot accept image prompt blocks"

/-- The loop of `prompt` over its content blocks, up to the next image. -/
def assemble (broker : SessionBroker) (clientId : ClientId) (sessionId : SessionId)
    (blocks : List MessageBlock) : List PromptContentBlock → Assembled
  | [] => .finished blocks
  | .text text :: rest => broker.assemble clientId sessionId (blocks ++ [.text text]) rest
  | .image _ mediaType name :: rest =>
      if broker.extras.attachments then
        .saving ⟨clientId, sessionId, blocks, mediaType, name, rest⟩
      else .unsupported

/-- The first gate of a request that needs the lease and a live agent. -/
def requireAgent (broker : SessionBroker) (clientId : ClientId) (sessionId : SessionId) :
    Except RemoteError AgentStatus :=
  match broker.requireHolder clientId sessionId with
  | .error refused => .error refused
  | .ok () =>
      match broker.agents.get sessionId with
      | none => .error (noLiveAgent sessionId)
      | some status => .ok status

/-- `session.prompt` up to its first `await`, or to its end. Without content
blocks the message is the plain text. -/
def prompt (broker : SessionBroker) (clientId : ClientId) (sessionId : SessionId)
    (text : String) (content : Option (List PromptContentBlock)) :
    Except RemoteError Assembled :=
  match broker.requireAgent clientId sessionId with
  | .error refused => .error refused
  | .ok _ =>
      match content with
      | none => .ok (.finished [.text text])
      | some content => .ok (broker.assemble clientId sessionId [] content)

/-- The handler resumes with the saved image and goes on to the next one. -/
def imageSaved (broker : SessionBroker) (task : PromptTask) (attachment : Unknown) :
    Assembled :=
  broker.assemble task.clientId task.sessionId
    (task.blocks ++ [.image task.mediaType task.name attachment]) task.rest

def followup (clientId : ClientId) (sessionId : SessionId) (messageId : String)
    (blocks : List MessageBlock) : HostEffect :=
  ⟨clientId, sessionId, .followup ⟨messageId, blocks⟩⟩

def cancel (broker : SessionBroker) (clientId : ClientId) (sessionId : SessionId) :
    Except RemoteError HostEffect :=
  match broker.requireAgent clientId sessionId with
  | .error refused => .error refused
  | .ok _ => .ok ⟨clientId, sessionId, .cancel⟩

/-- `session.fork` up to the host's answer. -/
def fork (broker : SessionBroker) (clientId : ClientId) (sessionId : SessionId)
    (boundary atSeq : Option Int) : Except RemoteError HostEffect :=
  match broker.requireHolder clientId sessionId with
  | .error refused => .error refused
  | .ok () => .ok ⟨clientId, sessionId, .fork boundary atSeq⟩

def forkFailed (message : String) : RemoteError where
  code := .protocolError
  message := "fork failed: " ++ message

def noCompaction : RemoteError where
  code := .capabilityUnsupported
  message := "this backend has no compaction subsystem"

def sessionBusy (sessionId : SessionId) : RemoteError where
  code := .aborted
  message := "session \"" ++ sessionId ++ "\" is busy; compact again when the session is idle"

/-- `session.compact` up to the host's answer: refused, not queued, while the
agent is mid-turn or waits for an approval. -/
def compact (broker : SessionBroker) (clientId : ClientId) (sessionId : SessionId) :
    Except RemoteError HostEffect :=
  if broker.extras.compaction then
    match broker.requireAgent clientId sessionId with
    | .error refused => .error refused
    | .ok status =>
        if status ≠ .idle ∨ sessionId ∈ broker.waitingApproval then
          .error (sessionBusy sessionId)
        else .ok ⟨clientId, sessionId, .compactNow⟩
  else .error noCompaction

/-! ## The gate -/

theorem requireHolder_ok_iff (broker : SessionBroker) (clientId : ClientId)
    (sessionId : SessionId) :
    broker.requireHolder clientId sessionId = .ok () ↔
      broker.holderOf sessionId = some clientId := by
  simp only [requireHolder, holderOf]
  cases broker.leases.get sessionId with
  | none => simp
  | some lease => by_cases mine : lease.holderId = clientId <;> simp [mine]

theorem requireAgent_ok_iff (broker : SessionBroker) (clientId : ClientId)
    (sessionId : SessionId) (status : AgentStatus) :
    broker.requireAgent clientId sessionId = .ok status ↔
      broker.holderOf sessionId = some clientId ∧
        broker.agents.get sessionId = some status := by
  simp only [requireAgent]
  split
  · next refused gate =>
      have noLease : broker.holderOf sessionId ≠ some clientId := by
        intro holds
        rw [(requireHolder_ok_iff _ _ _).mpr holds] at gate
        cases gate
      simp [noLease]
  · next gate =>
      have holds := (requireHolder_ok_iff _ _ _).mp gate
      cases broker.agents.get sessionId <;> simp [holds]

theorem assemble_saving {broker : SessionBroker} {clientId : ClientId} {sessionId : SessionId}
    {blocks : List MessageBlock} {content : List PromptContentBlock} {task : PromptTask}
    (saving : broker.assemble clientId sessionId blocks content = .saving task) :
    task.clientId = clientId ∧ task.sessionId = sessionId := by
  induction content generalizing blocks with
  | nil => cases saving
  | cons block rest induction =>
      cases block with
      | text text => exact induction saving
      | image data mediaType name =>
          simp only [assemble] at saving
          split at saving
          · cases saving
            exact ⟨rfl, rfl⟩
          · cases saving

theorem prompt_ok {broker : SessionBroker} {clientId : ClientId} {sessionId : SessionId}
    {text : String} {content : Option (List PromptContentBlock)} {assembled : Assembled}
    (granted : broker.prompt clientId sessionId text content = .ok assembled) :
    broker.holderOf sessionId = some clientId := by
  simp only [prompt] at granted
  split at granted
  · cases granted
  · next status gate => exact ((requireAgent_ok_iff _ _ _ _).mp gate).1

theorem prompt_saving {broker : SessionBroker} {clientId : ClientId} {sessionId : SessionId}
    {text : String} {content : Option (List PromptContentBlock)} {task : PromptTask}
    (saving : broker.prompt clientId sessionId text content = .ok (.saving task)) :
    task.clientId = clientId ∧ task.sessionId = sessionId := by
  simp only [prompt] at saving
  split at saving
  · cases saving
  · cases content with
    | none => cases saving
    | some content => exact assemble_saving (Except.ok.inj saving)

/-- The effects that are issued at once carry the identity the gate checked. -/
structure Gated (broker : SessionBroker) (clientId : ClientId) (sessionId : SessionId)
    (effect : HostEffect) : Prop where
  client : effect.clientId = clientId
  session : effect.sessionId = sessionId
  holds : broker.holderOf sessionId = some clientId

theorem gated_cancel {broker : SessionBroker} {clientId : ClientId} {sessionId : SessionId}
    {effect : HostEffect} (granted : broker.cancel clientId sessionId = .ok effect) :
    Gated broker clientId sessionId effect := by
  simp only [cancel] at granted
  split at granted
  · cases granted
  · next status gate =>
      cases granted
      exact ⟨rfl, rfl, ((requireAgent_ok_iff _ _ _ _).mp gate).1⟩

theorem gated_fork {broker : SessionBroker} {clientId : ClientId} {sessionId : SessionId}
    {boundary atSeq : Option Int} {effect : HostEffect}
    (granted : broker.fork clientId sessionId boundary atSeq = .ok effect) :
    Gated broker clientId sessionId effect := by
  simp only [fork] at granted
  split at granted
  · cases granted
  · next gate =>
      cases granted
      exact ⟨rfl, rfl, (requireHolder_ok_iff _ _ _).mp gate⟩

theorem gated_compact {broker : SessionBroker} {clientId : ClientId} {sessionId : SessionId}
    {effect : HostEffect} (granted : broker.compact clientId sessionId = .ok effect) :
    Gated broker clientId sessionId effect := by
  simp only [compact] at granted
  split at granted
  · split at granted
    · cases granted
    · next status gate =>
        split at granted
        · cases granted
        · cases granted
          exact ⟨rfl, rfl, ((requireAgent_ok_iff _ _ _ _).mp gate).1⟩
  · cases granted

end SessionBroker

end DshRemote.Backend
