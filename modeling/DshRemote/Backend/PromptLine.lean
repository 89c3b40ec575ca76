import DshRemote.Backend.PromptHandlers

/-! # The line of prompts

What one client prompts on one session, numbered in the order in which it was sent. A
prompt with images is handed over when its last image is saved; the handlers do not wait
for each other. -/

namespace DshRemote.Backend

open Execution

structure PromptLine where
  daemon : Daemon
  /-- Prompts that were sent so far. -/
  served : Nat := 0
  /-- The number of the prompt that each suspended handler serves. -/
  suspended : OrderedMap Nat Nat := .empty
  /-- The messages that the agent got, with the numbers of their prompts. -/
  handed : List (Option Nat × HostEffect) := []

namespace PromptLine

variable (clientId : ClientId) (sessionId : SessionId)

def start (daemon : Daemon) : PromptLine where
  daemon := daemon

/-- The handler of a prompt by the client on the session. -/
def IsOwn (client : ClientId) (session : SessionId) : Prop :=
  client = clientId ∧ session = sessionId

instance (client : ClientId) (session : SessionId) :
    Decidable (IsOwn clientId sessionId client session) := instDecidableAnd

/-- A message of the client for the agent of the session. -/
def IsHanded (effect : HostEffect) : Prop :=
  IsOwn clientId sessionId effect.clientId effect.sessionId ∧
    match effect.call with
    | .followup _ => True
    | _ => False

instance (effect : HostEffect) : Decidable (IsHanded clientId sessionId effect) := by
  rcases effect with ⟨client, session, call⟩
  cases call with
  | followup message => exact inferInstanceAs (Decidable (_ ∧ True))
  | _ => exact inferInstanceAs (Decidable (_ ∧ False))

def IsSent : DaemonEvent → Prop
  | .request _ client (.prompt session _ _ _) => IsOwn clientId sessionId client session
  | _ => False

instance (event : DaemonEvent) : Decidable (IsSent clientId sessionId event) := by
  cases event with
  | request environment client request =>
      cases request with
      | prompt session text content messageId =>
          exact inferInstanceAs (Decidable (IsOwn clientId sessionId client session))
      | _ => exact instDecidableFalse
  | _ => exact instDecidableFalse

/-- The handler that an event resumes, with an image or with an error. -/
def resumes : DaemonEvent → Option Nat
  | .imageSaved prompt _ _ => some prompt
  | .imageFailed prompt => some prompt
  | _ => none

variable (self : PromptLine)

/-- The number of the prompt whose handler runs. -/
def number (event : DaemonEvent) : Option Nat :=
  if IsSent clientId sessionId event then some self.served
  else (resumes event).bind self.suspended.get

/-- The handlers that go on waiting. -/
def waiting (event : DaemonEvent) : OrderedMap Nat Nat :=
  match resumes event with
  | some prompt => self.suspended.delete prompt
  | none => self.suspended

def advance (event : DaemonEvent) : PromptLine :=
  let performed := self.daemon.perform event
  { daemon := performed.1
    served := if IsSent clientId sessionId event then self.served + 1 else self.served
    suspended :=
      match self.number clientId sessionId event with
      | some number =>
          if performed.1.nextPrompt = self.daemon.nextPrompt then self.waiting event
          else (self.waiting event).set self.daemon.nextPrompt number
      | none => self.waiting event
    handed := self.handed ++
      (performed.2.effects.filter fun effect => IsHanded clientId sessionId effect).map
        fun effect => (self.number clientId sessionId event, effect) }

def step (event : DaemonEvent) : Option PromptLine :=
  if self.daemon.Possible event then some (self.advance clientId sessionId event) else none

/-- The messages came to the agent in the order in which their prompts were sent. -/
def InOrder : Prop :=
  ∃ numbers : List Nat, self.handed.map Prod.fst = numbers.map some ∧ numbers.Pairwise (· < ·)

/-- The client prompts only while none of its prompts on the session waits for an image,
unless the prompt is refused at the gate. -/
def Alone : DaemonEvent → Prop
  | .request _ client (.prompt session _ _ _) =>
      IsOwn clientId sessionId client session → self.suspended.entries = [] ∨
        ¬(self.daemon.broker.holderOf session = some client ∧
          (self.daemon.broker.agents.get session).isSome)
  | _ => True

instance (event : DaemonEvent) : Decidable (self.Alone clientId sessionId event) := by
  cases event with
  | request environment client request =>
      cases request with
      | prompt session text content messageId => exact inferInstanceAs (Decidable (_ → _))
      | _ => exact instDecidableTrue
  | _ => exact instDecidableTrue

end PromptLine

end DshRemote.Backend
