import DshRemote.Protocol

/-! # DaemonAgentHandle

The frontend's view of one attached session: its mode, the cursor of the last
delivered event and the flag that it is detached. Callbacks registered on a
handle return normally and are not modelled beyond what they are given. -/

namespace DshRemote.Client

structure DaemonAgentHandle where
  sessionId : SessionId
  mode : AttachMode
  /-- Highest seq delivered (or confirmed skipped); the re-attach cursor. -/
  cursor : Int
  detached : Bool := false
deriving DecidableEq, Repr

namespace DaemonAgentHandle

def reattachRequest (handle : DaemonAgentHandle) : SessionAttachParams where
  sessionId := handle.sessionId
  mode := handle.mode
  sinceSeq := some handle.cursor

/-- Dedup by the cursor; a new event is handed to the event callbacks. -/
def handleEvent (handle : DaemonAgentHandle) (event : SessionEvent) :
    DaemonAgentHandle × Option SessionEvent :=
  if handle.detached ∨ (event.seq : Int) ≤ handle.cursor then (handle, none)
  else ({ handle with cursor := event.seq }, some event)

/-- A change of control, seen by a client that goes by `clientId`. -/
def handleControl (handle : DaemonAgentHandle) (clientId : ClientId)
    (holder : Option ClientId) (reason : ControlChangeReason) : DaemonAgentHandle :=
  if handle.detached then handle
  else if handle.mode = .write ∧ holder ≠ some clientId then { handle with mode := .read }
  else if holder = some clientId ∧ reason = .acquired then { handle with mode := .write }
  else handle

/-- The local part of `detach`. -/
def detach (handle : DaemonAgentHandle) : DaemonAgentHandle :=
  { handle with detached := true }

/-- The re-attach after a reconnect failed: tear the handle down locally. -/
def onReattachFailed (handle : DaemonAgentHandle) : DaemonAgentHandle :=
  if handle.detached then handle else { handle with mode := .read, detached := true }

@[simp] theorem sessionId_handleControl (handle : DaemonAgentHandle) (clientId : ClientId)
    (holder : Option ClientId) (reason : ControlChangeReason) :
    (handle.handleControl clientId holder reason).sessionId = handle.sessionId := by
  simp only [handleControl]
  split
  · rfl
  · split
    · rfl
    · split <;> rfl

@[simp] theorem detached_handleControl (handle : DaemonAgentHandle) (clientId : ClientId)
    (holder : Option ClientId) (reason : ControlChangeReason) :
    (handle.handleControl clientId holder reason).detached = handle.detached := by
  simp only [handleControl]
  split
  · rfl
  · split
    · rfl
    · split <;> rfl

@[simp] theorem cursor_handleControl (handle : DaemonAgentHandle) (clientId : ClientId)
    (holder : Option ClientId) (reason : ControlChangeReason) :
    (handle.handleControl clientId holder reason).cursor = handle.cursor := by
  simp only [handleControl]
  split
  · rfl
  · split
    · rfl
    · split <;> rfl

@[simp] theorem sessionId_handleEvent (handle : DaemonAgentHandle) (event : SessionEvent) :
    (handle.handleEvent event).1.sessionId = handle.sessionId := by
  simp only [handleEvent]
  split <;> rfl

@[simp] theorem detached_handleEvent (handle : DaemonAgentHandle) (event : SessionEvent) :
    (handle.handleEvent event).1.detached = handle.detached := by
  simp only [handleEvent]
  split <;> rfl

@[simp] theorem sessionId_onReattachFailed (handle : DaemonAgentHandle) :
    handle.onReattachFailed.sessionId = handle.sessionId := by
  simp only [onReattachFailed]
  split <;> rfl

@[simp] theorem detached_onReattachFailed (handle : DaemonAgentHandle) :
    handle.onReattachFailed.detached = true := by
  simp only [onReattachFailed]
  split
  · next already => exact already
  · rfl

/-- A change that keeps the session and the flag of a handle. -/
def KeepsRegistration (change : DaemonAgentHandle → DaemonAgentHandle) : Prop :=
  ∀ handle, (change handle).sessionId = handle.sessionId ∧
    (change handle).detached = handle.detached

theorem keepsRegistration_handleControl (clientId : ClientId) (holder : Option ClientId)
    (reason : ControlChangeReason) :
    KeepsRegistration fun handle => handle.handleControl clientId holder reason :=
  fun handle => ⟨handle.sessionId_handleControl _ _ _, handle.detached_handleControl _ _ _⟩

theorem keepsRegistration_handleEvent (event : SessionEvent) :
    KeepsRegistration fun handle => (handle.handleEvent event).1 :=
  fun handle => ⟨handle.sessionId_handleEvent event, handle.detached_handleEvent event⟩

end DaemonAgentHandle

end DshRemote.Client
