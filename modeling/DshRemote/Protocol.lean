import Mathlib.Logic.Function.Basic

/-! # Daemon protocol vocabulary

The records that cross between a frontend and the daemon backend. Fields keep
the names of the wire protocol; a field declared `unknown` there, which no
modelled code inspects, is kept as its JSON text. -/

namespace DshRemote

abbrev ClientId := String
abbrev SessionId := String
abbrev TargetId := String

/-- The JSON text of a value the protocol carries without looking at it. -/
abbrev Unknown := String

/-! ## Errors -/

inductive RemoteErrorCode
  | connLost
  | authFailed
  | timeout
  | notBootstrapped
  | sessionLocked
  | protocolError
  | aborted
  | capabilityUnsupported
deriving DecidableEq, Repr

/-- The code as it travels in `error.data.remoteCode`. -/
def RemoteErrorCode.text : RemoteErrorCode → String
  | .connLost => "REMOTE_CONN_LOST"
  | .authFailed => "REMOTE_AUTH_FAILED"
  | .timeout => "REMOTE_TIMEOUT"
  | .notBootstrapped => "REMOTE_NOT_BOOTSTRAPPED"
  | .sessionLocked => "REMOTE_SESSION_LOCKED"
  | .protocolError => "REMOTE_PROTOCOL_ERROR"
  | .aborted => "REMOTE_ABORTED"
  | .capabilityUnsupported => "REMOTE_CAPABILITY_UNSUPPORTED"

structure SessionLockedErrorData where
  holder : Option ClientId := none
  attachedAt : Option String := none
deriving DecidableEq, Repr

structure RemoteError where
  code : RemoteErrorCode
  message : String
  data : Option SessionLockedErrorData := none
deriving DecidableEq, Repr

/-! ## Sessions -/

/-- One event of a session log, as it crosses the wire. -/
structure SessionEvent where
  seq : Nat
  type : String
  time : Nat
  data : Option Unknown
deriving DecidableEq, Repr

inductive SessionStatus
  | idle
  | running
  | waitingApproval
  | ended
deriving DecidableEq, Repr

inductive AttachMode
  | read
  | write
deriving DecidableEq, Repr

/-- `sinceSeq` is an integer because the cursor of an empty log is `-1`. -/
structure SessionAttachParams where
  sessionId : SessionId
  mode : AttachMode
  force : Bool := false
  sinceSeq : Option Int := none
deriving DecidableEq, Repr

inductive ControlChangeReason
  | acquired
  | released
  | preempted
  | disconnected
deriving DecidableEq, Repr

/-! ## Interactions -/

structure ApprovalRequestParams where
  requestId : String
  sessionId : SessionId
  kind : String
  summary : String
  detail : Option Unknown
deriving DecidableEq, Repr

inductive ApprovalDecision
  | approve
  | deny
deriving DecidableEq, Repr

structure ApprovalAnswerParams where
  requestId : String
  decision : ApprovalDecision
  note : Option String := none
deriving DecidableEq, Repr

structure QuestionOption where
  id : String
  label : String
  description : Option String := none
deriving DecidableEq, Repr

/-- The one presentation intent of the protocol, `kind: 'plan-review'`. -/
structure QuestionIntent where
  approve : String
deriving DecidableEq, Repr

structure QuestionItem where
  id : String
  question : String
  detail : Option String := none
  header : Option String := none
  multiSelect : Option Bool := none
  intent : Option QuestionIntent := none
  options : List QuestionOption
deriving DecidableEq, Repr

structure QuestionRequestParams where
  questionId : String
  sessionId : SessionId
  summary : Option String
  items : List QuestionItem
deriving DecidableEq, Repr

/-- A value of an answer map: one string or several. -/
inductive AnswerValue
  | one (text : String)
  | many (texts : List String)
deriving DecidableEq, Repr

abbrev QuestionAnswers := List (String × AnswerValue)

structure QuestionAnswerParams where
  questionId : String
  answers : QuestionAnswers
deriving DecidableEq, Repr

inductive PendingInteraction
  | approval (request : ApprovalRequestParams)
  | question (request : QuestionRequestParams)
deriving DecidableEq, Repr

structure SessionAttachResult where
  sessionId : SessionId
  holder : Option ClientId
  lastSeq : Int
  pendingInteractions : Option (List PendingInteraction) := none
deriving DecidableEq, Repr

/-! ## Notifications the backend pushes -/

inductive Notification
  | sessionEvent (sessionId : SessionId) (event : SessionEvent)
  | sessionStatus (sessionId : SessionId) (status : SessionStatus)
  | sessionControlChanged (sessionId : SessionId) (holder : Option ClientId)
      (reason : ControlChangeReason)
  | approvalRequest (params : ApprovalRequestParams)
  | approvalClosed (requestId : String) (decision : ApprovalDecision)
      (winner : Option ClientId)
  | questionRequest (params : QuestionRequestParams)
  | questionClosed (questionId : String) (answers : Option QuestionAnswers)
      (winner : Option ClientId)
deriving DecidableEq, Repr

/-- A notification together with the client it was written to. -/
structure Sent where
  clientId : ClientId
  notification : Notification
deriving DecidableEq, Repr

end DshRemote
