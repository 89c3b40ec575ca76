import DshRemote.Core.MuxReceiver
import DshRemote.Core.PeerExchange

/-! # A peer and a mux on one stream

A peer and a mux read the same lines, and each passes over what is for the other. -/

namespace DshRemote

open Json Framing

variable {Number : Type} (format : CountingFormat Number)

/-- A line of the stream: a message carries JSON values, and a frame names a channel. -/
inductive SharedLine
  | ofPeer (message : PeerMessage Number) (valid : (message.object format).Valid)
  | opening (frame : OpenFrame Number) (index : format.isIndex frame.channel = true)
  | data (frame : DataFrame Number) (index : format.isIndex frame.channel = true)

namespace SharedLine

variable {format}

def object : SharedLine format → Json Number
  | .ofPeer message _ => message.object format
  | .opening frame _ => frame.object format
  | .data frame _ => frame.object format

/-- What is sent. -/
def octets : SharedLine format → List Octet
  | .ofPeer message _ => encodeLine format.toNumberFormat (message.object format)
  | .opening frame _ => encodeOpenFrame format frame
  | .data frame _ => encodeDataFrame format frame

theorem octets_eq (line : SharedLine format) :
    line.octets = encodeLine format.toNumberFormat line.object := by cases line <;> rfl

/-- What a peer is to do with the line. -/
def inbound : SharedLine format → JsonRpc.Inbound Number
  | .ofPeer (.request id method params) _ =>
      .request (JsonRpc.asId format.toNumberFormat id) method params
  | .ofPeer (.notification method params) _ => .notification method params
  | .ofPeer answer _ => .response (answer.object format)
  | _ => .frame

/-- What a mux is to see of the line. -/
def frame? : SharedLine format → Option (MuxFrame Number)
  | .ofPeer _ _ => none
  | .opening frame _ => some (.opening frame)
  | .data frame _ => some (.data frame)

theorem notFrame_object (message : PeerMessage Number) :
    JsonRpc.isFrameMessage format.toNumberFormat (message.object format) = false := by
  have noMarker : JsonRpc.property (message.object format) "$dsh-remote-frame" = none := by
    cases message with
    | request id method params | notification method params => cases params <;> rfl
    | result | error => rfl
  rw [JsonRpc.isFrameMessage, noMarker]
  rfl

theorem handleMessage_object (line : SharedLine format) :
    JsonRpc.handleMessage format.toNumberFormat line.object = line.inbound := by
  cases line with
  | opening frame => exact if_pos (frame.isFrameMessage_object format)
  | data frame => exact if_pos (frame.isFrameMessage_object format)
  | ofPeer message =>
      cases message with
      | result id value => exact @handleMessage_answer _ format (.result id value) trivial
      | error id code text data =>
          exact @handleMessage_answer _ format (.error id code text data) trivial
      | request id method params | notification method params =>
          rw [object, JsonRpc.handleMessage, notFrame_object]
          cases params <;> rfl

theorem decodeFrame_object (line : SharedLine format) :
    decodeFrame format line.object = line.frame? := by
  cases line with
  | ofPeer message =>
      rw [decodeFrame, decodeOpenFrame, decodeDataFrame, object, notFrame_object]
      rfl
  | opening frame index =>
      rw [decodeFrame, object, frame.decode_object format index]
      rfl
  | data frame index =>
      rw [decodeFrame, object, frame.decodeOpenFrame_object, frame.decode_object format index]
      rfl

theorem valid_object (line : SharedLine format) : line.object.Valid := by
  rcases line with
    ⟨message, valid⟩ | ⟨frame, _⟩ | ⟨⟨channel, type, _ | payload, _ | message⟩, _⟩
  · exact valid
  all_goals
    refine ⟨?_, by simp [ValidMembers, Valid]⟩
    simp only [List.map, Option.toList, List.nil_append, List.cons_append]
    decide

end SharedLine

variable {format}

/-- Of the lines of a shared stream a peer acts on exactly the messages, and a mux sees exactly
the frames, both in their order and unaltered. -/
theorem sharedStream_separates (lines : List (SharedLine format)) :
    let values := (readLines format.toNumberFormat true
      (textLines (lines.flatMap SharedLine.octets))).1
    values.map (JsonRpc.handleMessage format.toNumberFormat) = lines.map SharedLine.inbound ∧
      values.filterMap (decodeFrame format) = lines.filterMap SharedLine.frame? := by
  intro values
  have read : values = lines.map SharedLine.object := by
    have texts := (textLines_encodeLines format.toNumberFormat (lines.map SharedLine.object)).1
    rw [List.flatMap_map, ← List.flatMap_congr fun line _ => line.octets_eq] at texts
    show (readLines _ true (textLines _)).1 = _
    rw [texts]
    refine (readLines_stringify _ fun value member => ?_).1
    rcases List.mem_map.mp member with ⟨line, _, rfl⟩
    exact line.valid_object
  rw [read, List.map_map, List.filterMap_map]
  exact ⟨List.map_congr_left fun line _ => line.handleMessage_object,
    List.filterMap_congr fun line _ => line.decodeFrame_object⟩

/-! ## What comes back -/

/-- What the caller is told of what the handler gave, if anything. -/
def HandlerOutcome.settlement (format : CountingFormat Number) :
    HandlerOutcome Number → Option (Settlement Number)
  | .returned value => some (.resolved (some (value.getD .null)))
  | .threw (.remote error) => some (.rejected error)
  | .threw (.other message) => message.map fun message =>
      .rejected ⟨.protocolError, asciiText "RPC error " ++
        format.print (format.read (printInt JsonRpc.internalError)) ++ asciiText ": " ++ message,
        none⟩

/-- An outcome is told by the answer that is sent of it, and without an answer by nothing. -/
theorem outcome_told (id : Number) (outcome : HandlerOutcome Number) :
    (JsonRpcPeer.outcomeAnswer (.number id) outcome = none ∧ outcome.settlement format = none) ∨
    ∃ answer settlement, JsonRpcPeer.outcomeAnswer (.number id) outcome = some answer ∧
      outcome.settlement format = some settlement ∧ answer.IsAnswer ∧
      JsonRpc.property (answer.object format) "id" = some (.number id) ∧
      Says format (answer.object format) settlement := by
  rcases outcome with value | ⟨code, text, data⟩ | (_ | message)
  · exact Or.inr ⟨_, _, rfl, rfl, trivial, rfl, .result rfl⟩
  · refine Or.inr ⟨_, _, rfl, rfl, trivial, rfl, ?_⟩
    have known : JsonRpc.remoteErrorCode (some (.string (asciiText code.text) : Json Number)) =
        some code := by
      rw [JsonRpc.remoteErrorCode]
      cases code <;> decide
    refine .error rfl ?_
    unfold JsonRpc.responseErrorToRemote
    dsimp only
    split
    · next found =>
        cases known.symm.trans found
        cases data <;> rfl
    · next absent => cases known.symm.trans absent
  · exact Or.inl ⟨rfl, rfl⟩
  · exact Or.inr ⟨_, _, rfl, rfl, trivial, rfl, .error rfl rfl⟩

/-- What a handler returns, and the code, the message and the data of a `RemoteError` that it
throws, come back to the call that waits under the id, and to no other. What it throws else comes
back as its text, and nothing does where `String` can make none. -/
theorem outcome_settles [DecidableEq Number] (peer : JsonRpcPeer Number) (id : Number)
    (outcome : HandlerOutcome Number) (atOnce : Option (Thrown Number)) :
    ((JsonRpcPeer.outcomeAnswer (.number id) outcome).toList.flatMap fun answer =>
        (peer.handleMessage format (answer.object format) atOnce).2.settled) =
      (outcome.settlement format).toList.flatMap fun settlement =>
        (peer.pending.get id).toList.map fun call => (call, settlement) := by
  rcases outcome_told id outcome with
    ⟨noAnswer, untold⟩ | ⟨answer, settlement, isSent, isTold, isAnswer, bears, told⟩
  · rw [noAnswer, untold]
    rfl
  rw [isSent, isTold, Option.toList_some, Option.toList_some, List.flatMap_singleton,
    List.flatMap_singleton, JsonRpcPeer.handleMessage, handleMessage_answer format isAnswer]
  cases told with
  | result noError =>
      simp only [JsonRpcPeer.handleResponse, bears, noError]
      cases peer.pending.get id <;> rfl
  | error isError isRead =>
      simp only [JsonRpcPeer.handleResponse, bears, isError, isRead]
      cases peer.pending.get id <;> rfl

end DshRemote
